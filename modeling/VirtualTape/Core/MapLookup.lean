import VirtualTape.Core.Segment

/-!
# Lookups

A `MapLookup` lists the addresses of up to 252 consecutive maps with their first logical ids and
mark counts. Lookups form a chain on disk. The cached ones are a part of the chain, in chain
order, that always contains its first member.
-/

namespace VirtualTape

/-- The outcome of a search along the chain. -/
inductive Search (α : Type) where
  /-- The search did not end within the bound. -/
  | unfinished
  /-- Nothing was found, or a page could not be read. -/
  | missing
  /-- The search ended. -/
  | found (value : α)

/-- Sectors of an index page on a disk. -/
def Bdevgroup.metaBlocks (group : Bdevgroup) (bid : Nat) : Nat :=
  ((bdevFind group bid).map Bdevint.metaBlocks).getD 0

/-- A lookup that was just created. -/
def mapLookupNew (bid bStart lIdsStart fIdsStart sIdsStart : Nat) : MapLookup where
  bid := bid
  bStart := bStart
  mapNrs := 0
  pendingNewMaps := 0
  nextBlock := 0
  prevBlock := 0
  lIdsStart := lIdsStart
  fIdsStart := fIdsStart % 2 ^ 32
  sIdsStart := sIdsStart % 2 ^ 32
  fIds := 0
  sIds := 0
  entries := fun _ => ⟨0, 0⟩
  isNew := true
  ioPending := false
  dirty := none

/-- Filemarks of the first `count` slots. -/
def slotFilemarks (entries : Nat → MapLookupEntry) (count : Nat) : Nat :=
  ((List.range count).map fun slot => mentryFilemarks (entries slot)).sum

/-- Setmarks of the first `count` slots. -/
def slotSetmarks (entries : Nat → MapLookupEntry) (count : Nat) : Nat :=
  ((List.range count).map fun slot => mentrySetmarks (entries slot)).sum

/-- Recount the marks of the maps entered. -/
def mapLookupResyncIds (mlookup : MapLookup) : MapLookup :=
  { mlookup with
    fIds := slotFilemarks mlookup.entries mlookup.mapNrs % 2 ^ 16
    sIds := slotSetmarks mlookup.entries mlookup.mapNrs % 2 ^ 16 }

/-- Has the tape a map behind this one? -/
def mapLookupMapHasNext (mlookup : MapLookup) (map : BlkMap) : Bool :=
  mlookup.nextBlock != 0 ||
    (mlookup.mapNrs != 0 && map.mlookupEntryId != mlookup.mapNrs - 1)

/-! ## Writing -/

/-- The page of a lookup as it is written. -/
def MapLookup.page (mlookup : MapLookup) : RawMapLookup where
  entries := mlookup.entries
  nextBlock := mlookup.nextBlock
  prevBlock := mlookup.prevBlock
  lIdsStart := mlookup.lIdsStart
  fIdsStart := mlookup.fIdsStart
  sIdsStart := mlookup.sIdsStart
  csum := lookupCsum mlookup.entries
  mapNrs := mlookup.mapNrs

/-- The write of a lookup that is under way reaches the disk. -/
def completeLookup (group : Bdevgroup) (disk : Disk) (mlookup : MapLookup) : Disk × MapLookup :=
  match mlookup.dirty with
  | none => (disk, mlookup)
  | some raw =>
    (disk.writePage mlookup.bid mlookup.bStart (group.metaBlocks mlookup.bid) (.lookup raw),
      { mlookup with dirty := none })

/-- Hand a changed lookup to the disk. An earlier write of it is waited for. -/
def mapLookupFlushMeta (group : Bdevgroup) (disk : Disk) (mlookup : MapLookup) :
    Disk × MapLookup :=
  if !mlookup.ioPending then (disk, mlookup)
  else
    let (disk, mlookup) := completeLookup group disk mlookup
    (disk, { mlookup with dirty := some mlookup.page, ioPending := false })

/-- Hand a changed lookup to the disk and wait for it. -/
def mapLookupFlushWait (group : Bdevgroup) (disk : Disk) (mlookup : MapLookup) :
    Disk × MapLookup :=
  let (disk, mlookup) := mapLookupFlushMeta group disk mlookup
  completeLookup group disk mlookup

/-- The slot that describes a map. -/
def mapLookupEntryOf (map : BlkMap) : MapLookupEntry :=
  ⟨mentryLidInfo map.lIdsStart map.fIds map.sIds, setBlock map.bStart map.bid⟩

/-- Write the slot of a map. A slot beyond the page is out of bounds. -/
def mapLookupEntryUpdate (mlookup : MapLookup) (map : BlkMap) : Option MapLookup :=
  if map.mlookupEntryId < nrMapDataEntries then
    some { mlookup with
      entries := Function.update mlookup.entries map.mlookupEntryId (mapLookupEntryOf map)
      ioPending := true }
  else none

/-- Enter a map into the next slot. -/
def mapLookupAddMap (mlookup : MapLookup) (map : BlkMap) : Option (MapLookup × BlkMap) :=
  let map := { map with mlookupEntryId := mlookup.mapNrs }
  (mapLookupEntryUpdate
    { mlookup with
      pendingNewMaps := (mlookup.pendingNewMaps + (2 ^ 16 - 1)) % 2 ^ 16
      mapNrs := (mlookup.mapNrs + 1) % 2 ^ 16 } map).map fun mlookup => (mlookup, map)

/-- Link a lookup behind its predecessor. Only the predecessor is marked as changed. -/
def mapLookupLink (last mlookup : MapLookup) : MapLookup × MapLookup :=
  ({ last with nextBlock := setBlock mlookup.bStart mlookup.bid, ioPending := true },
    { mlookup with prevBlock := setBlock last.bStart last.bid })

/-! ## Reading -/

/-- The lookup of a page read from disk. -/
def mapLookupOfRaw (bid bStart : Nat) (raw : RawMapLookup) : MapLookup :=
  mapLookupResyncIds
    { bid := bid
      bStart := bStart
      mapNrs := raw.mapNrs
      pendingNewMaps := 0
      nextBlock := raw.nextBlock
      prevBlock := raw.prevBlock
      lIdsStart := raw.lIdsStart
      fIdsStart := raw.fIdsStart
      sIdsStart := raw.sIdsStart
      fIds := 0
      sIds := 0
      entries := raw.entries
      isNew := false
      ioPending := false
      dirty := none }

/-- Load a lookup. -/
def mapLookupLoad (group : Bdevgroup) (disk : Disk) (bStart bid : Nat) : Option MapLookup :=
  match bdevFind group bid with
  | none => none
  | some bint =>
    match disk.readPage bid bStart bint.metaBlocks with
    | .page (.lookup raw) =>
      if raw.csum = lookupCsum raw.entries then some (mapLookupOfRaw bid bStart raw) else none
    | _ => none

/-- Is this the lookup at a packed address? -/
def MapLookup.isAt (mlookup : MapLookup) (block : Nat) : Bool :=
  mlookup.bStart == blockBlocknr block && mlookup.bid == blockBid block

/-- Are the two the same lookup? -/
def MapLookup.same (mlookup other : MapLookup) : Bool :=
  mlookup.bid == other.bid && mlookup.bStart == other.bStart

/-- The cached lookup behind this one. -/
def mlookupGetNext (mlookups : List MapLookup) (mlookup : MapLookup) : Option MapLookup :=
  (mlookups.dropWhile fun other => !other.same mlookup).tail.head?

/-- The cached lookup in front of this one. -/
def mlookupGetPrev (mlookups : List MapLookup) (mlookup : MapLookup) : Option MapLookup :=
  (mlookups.takeWhile fun other => !other.same mlookup).getLast?

/-- Cache a lookup behind another. -/
def mapLookupInsertAfter (mlookups : List MapLookup) (mlookup added : MapLookup) :
    List MapLookup :=
  match mlookups with
  | [] => []
  | other :: rest =>
    if other.same mlookup then other :: added :: rest
    else other :: mapLookupInsertAfter rest mlookup added

/-- Cache a lookup in front of another. -/
def mapLookupInsertBefore (mlookups : List MapLookup) (mlookup added : MapLookup) :
    List MapLookup :=
  match mlookups with
  | [] => []
  | other :: rest =>
    if other.same mlookup then added :: other :: rest
    else other :: mapLookupInsertBefore rest mlookup added

/-- The next lookup of the chain, cached or loaded. -/
def mapLookupLoadNext (s : State) (mlookup : MapLookup) : Option (MapLookup × State) :=
  if mlookup.nextBlock = 0 then none
  else
    match (mlookupGetNext s.part.mlookups mlookup).filter (·.isAt mlookup.nextBlock) with
    | some next => some (next, s)
    | none =>
      (mapLookupLoad s.group s.disk (blockBlocknr mlookup.nextBlock)
        (blockBid mlookup.nextBlock)).map fun next =>
          (next, { s with part := { s.part with
            mlookups := mapLookupInsertAfter s.part.mlookups mlookup next } })

/-- The previous lookup of the chain, cached or loaded. -/
def mapLookupLoadPrev (s : State) (mlookup : MapLookup) : Option (MapLookup × State) :=
  if mlookup.prevBlock = 0 then none
  else
    match (mlookupGetPrev s.part.mlookups mlookup).filter (·.isAt mlookup.prevBlock) with
    | some prev => some (prev, s)
    | none =>
      (mapLookupLoad s.group s.disk (blockBlocknr mlookup.prevBlock)
        (blockBid mlookup.prevBlock)).map fun prev =>
          (prev, { s with part := { s.part with
            mlookups := mapLookupInsertBefore s.part.mlookups mlookup prev } })

/-- Is the next lookup of the chain cached? -/
def mapLookupNextAvail (s : State) (mlookup : MapLookup) : Bool :=
  mlookup.nextBlock != 0 &&
    ((mlookupGetNext s.part.mlookups mlookup).filter (·.isAt mlookup.nextBlock)).isSome

/-- Follow the chain on disk from an address to its last member; `fuel` bounds the walk. -/
def findLastFrom (group : Bdevgroup) (disk : Disk) : Nat → Nat → Search MapLookup
  | 0, _ => .unfinished
  | fuel + 1, block =>
    if blockBlocknr block = 0 then .missing
    else
      match mapLookupLoad group disk (blockBlocknr block) (blockBid block) with
      | none => .missing
      | some mlookup =>
        if mlookup.nextBlock = 0 then .found mlookup
        else findLastFrom group disk fuel mlookup.nextBlock

/-- The last lookup of the chain. It is cached behind the last cached one. -/
def mapLookupFindLast (fuel : Nat) (s : State) : Search (MapLookup × State) :=
  match s.part.mlookups.getLast? with
  | none => .missing
  | some mlookup =>
    if blockBlocknr mlookup.nextBlock = 0 then .found (mlookup, s)
    else
      match findLastFrom s.group s.disk fuel mlookup.nextBlock with
      | .unfinished => .unfinished
      | .missing => .missing
      | .found last =>
        .found (last, { s with part := { s.part with
          mlookups := mapLookupInsertAfter s.part.mlookups mlookup last } })

/-- The slot in front of a slot, in this lookup or the previous one. -/
def mapLookupPrevEntry (s : State) (mlookup : MapLookup) (entryId : Nat) :
    Option (MapLookup × Nat × State) :=
  if entryId ≠ 0 then some (mlookup, entryId - 1, s)
  else
    (mapLookupLoadPrev s mlookup).map fun (prev, s) => (prev, prev.mapNrs - 1, s)

/-- The slot behind a slot, in this lookup or the next one. -/
def mapLookupNextEntry (s : State) (mlookup : MapLookup) (entryId : Nat) :
    Option (MapLookup × Nat × State) :=
  if entryId + 1 < mlookup.mapNrs then some (mlookup, entryId + 1, s)
  else
    match mapLookupLoadNext s mlookup with
    | none => none
    | some (next, s) => if next.mapNrs = 0 then none else some (next, 0, s)

/-! ## Searching -/

/-- The last slot whose first logical id is not beyond an address; `none` if the first one is. -/
def mapLookupLocateEntry (mlookup : MapLookup) (address : Nat) : Option Nat :=
  let below := (List.range mlookup.mapNrs).takeWhile fun slot =>
    decide (mentryLidStart (mlookup.entries slot) ≤ address)
  if below.length = 0 then none else some (below.length - 1)

/-- The first slot that reaches beyond a number of filemarks, or the last slot. -/
def mapLookupLocateFileEntry (mlookup : MapLookup) (address : Nat) : Option Nat :=
  if mlookup.mapNrs = 0 then none
  else
    let before := (List.range mlookup.mapNrs).takeWhile fun slot =>
      decide (mlookup.fIdsStart + slotFilemarks mlookup.entries (slot + 1) ≤ address)
    some (min before.length (mlookup.mapNrs - 1))

/-- Follow the chain while the next lookup does not start beyond an address, as told by `start`. -/
def locateLookup (start : MapLookup → Nat) (address : Nat) :
    Nat → MapLookup → State → Search (MapLookup × State)
  | 0, _, _ => .unfinished
  | fuel + 1, mlookup, s =>
    if mlookup.nextBlock = 0 then .found (mlookup, s)
    else
      match mapLookupLoadNext s mlookup with
      | none => .missing
      | some (next, s) =>
        if start next > address then .found (mlookup, s)
        else locateLookup start address fuel next s

/-- The lookup and slot for an address, as told by the start of a lookup and its slots. -/
def mapLookupLocateBy (start : MapLookup → Nat) (slot : MapLookup → Option Nat) (address fuel : Nat)
    (s : State) : Search (MapLookup × Nat × State) :=
  match s.part.mlookups.head? with
  | none => .missing
  | some first =>
    match locateLookup start address fuel first s with
    | .unfinished => .unfinished
    | .missing => .missing
    | .found (mlookup, s) =>
      if mlookup.mapNrs = 0 then .missing
      else .found (mlookup, (slot mlookup).getD (mlookup.mapNrs - 1), s)

/-- The lookup and slot of a logical id. -/
def mapLookupLocate (address fuel : Nat) (s : State) : Search (MapLookup × Nat × State) :=
  mapLookupLocateBy MapLookup.lIdsStart (mapLookupLocateEntry · address) address fuel s

/-- The lookup and slot of a file number. -/
def mapLookupLocateFile (address fuel : Nat) (s : State) : Search (MapLookup × Nat × State) :=
  mapLookupLocateBy MapLookup.fIdsStart (mapLookupLocateFileEntry · address) address fuel s

/-- What a space command counts. -/
inductive SpaceCode where
  /-- Blocks. -/
  | blocks
  /-- Filemarks. -/
  | filemarks
  /-- Setmarks. -/
  | setmarks
  deriving DecidableEq, Repr

/-- How many counted objects of a map can be passed over as a whole; `none` if the search has to
stop in the map. -/
def spaceSkip (code : SpaceCode) (entry : MapLookupEntry) (lids todo : Nat) : Option Nat :=
  let fids := mentryFilemarks entry
  let sids := mentrySetmarks entry
  match code with
  | .blocks => if fids ≠ 0 ∨ sids ≠ 0 ∨ lids ≥ todo then none else some (todo - lids)
  | .filemarks => if sids ≠ 0 ∨ fids ≥ todo then none else some (todo - fids)
  | .setmarks => if sids ≥ todo then none else some (todo - sids)

/-- Pass over whole maps towards the end. -/
def spaceForwardFrom (code : SpaceCode) :
    Nat → Nat → MapLookup → Nat → State → Search (MapLookup × Nat × Nat × State)
  | 0, _, _, _, _ => .unfinished
  | fuel + 1, todo, mlookup, entryId, s =>
    if todo = 0 then .found (mlookup, entryId, todo, s)
    else
      match mapLookupNextEntry s mlookup entryId with
      | none => .found (mlookup, entryId, todo, s)
      | some (nextLookup, nextId, s) =>
        let entry := mlookup.entries entryId
        let lids := mentryLidStart (nextLookup.entries nextId) - mentryLidStart entry
        match spaceSkip code entry lids todo with
        | none => .found (mlookup, entryId, todo, s)
        | some left => spaceForwardFrom code fuel left nextLookup nextId s

/-- Pass over whole maps towards the beginning. -/
def spaceBackwardFrom (code : SpaceCode) :
    Nat → Nat → MapLookup → Nat → State → Search (MapLookup × Nat × Nat × State)
  | 0, _, _, _, _ => .unfinished
  | fuel + 1, todo, mlookup, entryId, s =>
    if todo = 0 then .found (mlookup, entryId, todo, s)
    else
      match mapLookupPrevEntry s mlookup entryId with
      | none => .found (mlookup, entryId, todo, s)
      | some (prevLookup, prevId, s) =>
        let entry := mlookup.entries entryId
        let lids := mentryLidStart entry - mentryLidStart (prevLookup.entries prevId)
        match spaceSkip code entry lids todo with
        | none => .found (mlookup, entryId, todo, s)
        | some left => spaceBackwardFrom code fuel left prevLookup prevId s

end VirtualTape
