import VirtualTape.Core.MapLookup

/-!
# Maps

Loading a map, dropping cached maps and lookups, and cutting the tape off at the position before
it is overwritten. A result of `none` is a use of a map or lookup that is no longer in memory, or
a slot beyond an index page.
-/

namespace VirtualTape

/-- A map that was just created. -/
def blkMapNew (mlookup : MapLookup) (lIdsStart bid bStart segmentId : Nat) : BlkMap where
  bid := bid
  bStart := bStart
  segmentId := segmentId
  fIds := 0
  sIds := 0
  lIdsStart := lIdsStart
  entries := []
  mlookupBid := mlookup.bid
  mlookupBStart := mlookup.bStart
  mlookupEntryId := 0
  cEntry := none
  isNew := true
  ioPending := false
  dirty := none

/-- The page of a map as it is written. -/
def BlkMap.page (map : BlkMap) : RawBlkMap :=
  let entries := fun slot => ((map.entries[slot]?).map BlkEntry.raw).getD ⟨0, 0⟩
  { entries := entries
    segmentId := map.segmentId
    csum := mapCsum entries
    nrEntries := map.entries.length }

/-- The entries of a page read from disk. -/
def rawEntries (lIdsStart : Nat) (raw : RawBlkMap) : List BlkEntry :=
  (List.range raw.nrEntries).map fun index =>
    blkMapLoadEntry (lIdsStart + index) (raw.entries index)

/-- The first entry of a map, if it has any. -/
def firstEntry (entries : List BlkEntry) : Option Nat := if entries.isEmpty then none else some 0

/-- The map of a page read from disk, positioned at its end or in front of its first entry. -/
def blkMapOfRaw (mlookup : MapLookup) (entryId bid bStart : Nat) (raw : RawBlkMap)
    (poslast : Bool) : BlkMap :=
  let slot := mlookup.entries entryId
  let entries := rawEntries (mentryLidStart slot) raw
  { bid := bid
    bStart := bStart
    segmentId := raw.segmentId
    fIds := mentryFilemarks slot
    sIds := mentrySetmarks slot
    lIdsStart := mentryLidStart slot
    entries := entries
    mlookupBid := mlookup.bid
    mlookupBStart := mlookup.bStart
    mlookupEntryId := entryId
    cEntry := if poslast then none else firstEntry entries
    isNew := false
    ioPending := false
    dirty := none }

/-- Load the map of a slot of a lookup. A map that is fetched ahead is left at its end, like one
that is loaded for its last position; its page is read at once. -/
def blkMapLoad (group : Bdevgroup) (disk : Disk) (mlookup : MapLookup) (entryId : Nat)
    (poslast : Bool) : Option BlkMap :=
  let block := (mlookup.entries entryId).block
  match bdevFind group (blockBid block) with
  | none => none
  | some bint =>
    match disk.readPage (blockBid block) (blockBlocknr block) bint.metaBlocks with
    | .page (.map raw) =>
      let map := blkMapOfRaw mlookup entryId (blockBid block) (blockBlocknr block) raw poslast
      if raw.csum = mapCsum raw.entries ∧
          map.entries.all fun entry => (bdevFind group entry.bid).isSome
      then some map else none
    | _ => none

/-- Position a map in front of its first entry. -/
def BlkMap.positionBop (map : BlkMap) : BlkMap := { map with cEntry := firstEntry map.entries }

/-- The logical id at the position. -/
def blkMapCurrentLid (map : BlkMap) : Nat :=
  match map.cEntry.bind fun index => map.entries[index]? with
  | some entry => entry.lidStart
  | none =>
    match map.entries.getLast? with
    | none => map.lIdsStart
    | some entry => entry.lidStart + 1

/-- Recount the marks of a map. -/
def blkMapUpdateIds (map : BlkMap) : BlkMap :=
  { map with
    fIds := (map.entries.filter BlkEntry.isFilemark).length
    sIds := (map.entries.filter BlkEntry.isSetmark).length }

/-! ## Writing a map -/

/-- The write of a map that is under way reaches the disk. -/
def completeMap (group : Bdevgroup) (disk : Disk) (map : BlkMap) : Disk × BlkMap :=
  match map.dirty with
  | none => (disk, map)
  | some raw =>
    (disk.writePage map.bid map.bStart (group.metaBlocks map.bid) (.map raw),
      { map with dirty := none })

/-- Hand a changed map to the disk. An earlier write of it is waited for. -/
def blkMapFlushMeta (group : Bdevgroup) (disk : Disk) (map : BlkMap) : Disk × BlkMap :=
  if !map.ioPending then (disk, map)
  else
    let (disk, map) := completeMap group disk map
    let map := { map with entries := map.entries.map BlkEntry.sized }
    (disk, { map with dirty := some map.page, ioPending := false })

/-- Hand the data of one block to the disk. -/
def setupEntryWrite (group : Bdevgroup) (disk : Disk) (entry : BlkEntry) : Disk :=
  match entry.newData, bdevFind group entry.bid with
  | some payload, some bint =>
    disk.writeData entry.bid entry.bStart
      (bint.blocks (if entry.compSize ≠ 0 then entry.compSize else entry.blockSize)) payload
  | _, _ => disk

/-- Hand the data of new blocks to the disk. -/
def blkMapSetupWrites (group : Bdevgroup) (disk : Disk) (map : BlkMap) : Disk × BlkMap :=
  (map.entries.foldl (setupEntryWrite group) disk,
    { map with entries := map.entries.map fun entry => { entry with newData := none } })

/-! ## Dropping cached maps and lookups -/

/-- Every map in memory that refers to its lookup. -/
def Cursor.live : Cursor → List BlkMap
  | .loose maps cur => cur :: maps
  | cursor => cursor.maps

/-- Does a map refer to a lookup? -/
def MapLookup.referenced (mlookup : MapLookup) (maps : List BlkMap) : Bool :=
  maps.any fun map => map.mlookupBid == mlookup.bid && map.mlookupBStart == mlookup.bStart

/-- A lookup that something refers to, or that starts the tape, stays cached. -/
def mapLookupKept (env : Env) (maps : List BlkMap) (mlookup : MapLookup) : Bool :=
  mlookup.referenced maps || env.lookupHeld mlookup.lIdsStart || mlookup.dirty.isSome ||
    mlookup.lIdsStart == 0

/-- Drop what may be dropped up to a lookup. -/
def freeLookupsUntil (kept isCur : MapLookup → Bool) : List MapLookup → List MapLookup
  | [] => []
  | mlookup :: rest =>
    if isCur mlookup then mlookup :: rest
    else if kept mlookup then mlookup :: freeLookupsUntil kept isCur rest
    else freeLookupsUntil kept isCur rest

/-- Drop cached lookups in front of the current one. The first is passed over even if it is the
current one. -/
def mapLookupFreeTillCur (env : Env) (mlookups : List MapLookup) (cur : BlkMap)
    (maps : List BlkMap) : List MapLookup :=
  match mlookups with
  | [] => []
  | first :: rest =>
    first :: freeLookupsUntil (mapLookupKept env maps)
      (fun mlookup => mlookup.bid == cur.mlookupBid && mlookup.bStart == cur.mlookupBStart) rest

/-- Drop cached maps and lookups in front of the current ones. -/
def blkMapFreeTillCur (env : Env) (s : State) : Option State :=
  match s.part.cursor with
  | .null => some s
  | .on _ cur after =>
    some { s with part := { s.part with
      cursor := .on [] cur after
      mlookups := mapLookupFreeTillCur env s.part.mlookups cur (cur :: after) } }
  | .loose _ cur =>
    some { s with part := { s.part with
      cursor := .loose [] cur
      mlookups := mapLookupFreeTillCur env s.part.mlookups cur [cur] } }
  | .dangling _ => none

/-- The cached lookups up to the one at an address. -/
def lookupsUpTo (mlookups : List MapLookup) (bid bStart : Nat) : List MapLookup :=
  match mlookups with
  | [] => []
  | mlookup :: rest =>
    if mlookup.bid == bid && mlookup.bStart == bStart then [mlookup]
    else mlookup :: lookupsUpTo rest bid bStart

/-- Drop everything that was cached for reading. -/
def tapePartitionFlushReads (env : Env) (s : State) : Option State :=
  match s.part.cursor with
  | .null => some s
  | _ =>
    match blkMapFreeTillCur env s with
    | none => none
    | some s =>
      match s.part.cursor.cur? with
      | none => none
      | some cur =>
        (s.part.lookupOf cur).map fun _ =>
          { s with part := { s.part with
            cursor := match s.part.cursor with
              | .on before cur _ => .on before cur []
              | other => other
            mlookups := lookupsUpTo s.part.mlookups cur.mlookupBid cur.mlookupBStart
            dirRead := false } }

/-! ## Cutting the tape off -/

/-- Make a map the last one of its lookup and the lookup the last one of the chain. The write is
waited for here; the source only submits it, but nothing reads the page before it completes. -/
def mapLookupWriteEod (s : State) (map : BlkMap) (mlookup : MapLookup) : State :=
  let (disk, mlookup) := mapLookupFlushWait s.group s.disk
    { mlookup with
      nextBlock := 0
      mapNrs := map.mlookupEntryId + 1
      pendingNewMaps := 0
      ioPending := true }
  { s with
    disk := disk
    part := { s.part with
      mlookups := modifyLookup (lookupsUpTo s.part.mlookups mlookup.bid mlookup.bStart)
        mlookup.bid mlookup.bStart fun _ => mlookup } }

/-- Drop the cached maps behind the current one. -/
def Cursor.dropAfter : Cursor → Cursor
  | .on before cur _ => .on before cur []
  | other => other

/-- Is a map cached behind the current one? -/
def Cursor.hasAfter : Cursor → Bool
  | .on _ _ (_ :: _) => true
  | _ => false

/-- Cut the lookups off behind the current map. -/
def blkMapCutMaps (s : State) (map : BlkMap) : Option State :=
  match s.part.lookupOf map with
  | none => none
  | some mlookup =>
    if s.part.cursor.hasAfter || mapLookupMapHasNext mlookup map then
      some (mapLookupWriteEod
        { s with part := { s.part with cursor := s.part.cursor.dropAfter } } map
        (mapLookupResyncIds mlookup))
    else some s

/-- Cut the current map off at the position. Its own page is rewritten only if it was already
marked as changed. -/
def blkMapCutEntries (s : State) (map : BlkMap) : Option State :=
  match map.cEntry with
  | none => some s
  | some index =>
    let cut := blkMapUpdateIds { map with entries := map.entries.take index, cEntry := none }
    match (s.part.lookupOf map).bind (mapLookupEntryUpdate · cut) with
    | none => none
    | some mlookup =>
      let (disk, mlookup) := mapLookupFlushWait s.group s.disk
        { mapLookupResyncIds mlookup with ioPending := true }
      let (disk, cut) := blkMapFlushMeta s.group disk cut
      let (disk, cut) := completeMap s.group disk cut
      some { s with
        disk := disk
        part := { s.part with
          cursor := s.part.cursor.modifyCur fun _ => cut
          mlookups := modifyLookup s.part.mlookups map.mlookupBid map.mlookupBStart
            fun _ => mlookup } }

/-- Cut the tape off at the position and release the segments behind it. -/
def blkMapWriteEod (s : State) : Option (Status × State) :=
  match s.part.cursor.cur? with
  | none => none
  | some map =>
    match blkMapCutMaps s map with
    | none => none
    | some s =>
      match blkMapCutEntries s map with
      | none => none
      | some s => tapePartitionEodCurSegment { s with part := { s.part with dirRead := false } }

/-- Step back to the last position of the previous map. -/
def blkMapSetPrev (s : State) (map : BlkMap) : Option (Option State) :=
  match s.part.lookupOf map with
  | none => none
  | some mlookup =>
    some ((mapLookupPrevEntry s mlookup map.mlookupEntryId).bind fun (prev, entryId, s) =>
      (blkMapLoad s.group s.disk prev entryId true).map fun prevMap =>
        { s with part := { s.part with cursor := .loose s.part.cursor.maps prevMap } })

/-- Before a write: refuse to overwrite a write-once tape, and cut the tape off at the position
unless that is the end of data. While the last transfer was a write nothing is checked. -/
def blkMapOverwriteCheck (s : State) : Option (Status × State) :=
  match s.part.cursor with
  | .null => some (.ok, s)
  | .dangling _ => none
  | .on _ map _ | .loose _ map =>
    if s.part.dirWrite then some (.ok, s)
    else
      match s.part.lookupOf map with
      | none => none
      | some mlookup =>
        if !mapLookupMapHasNext mlookup map && map.cEntry.isNone then some (.ok, s)
        else if s.part.worm then some (.overwriteWormMedia, s)
        else
          let moved :=
            if map.entries.isEmpty && map.lIdsStart != 0 then blkMapSetPrev s map
            else some (some s)
          match moved with
          | none => none
          | some none => some (.mediaError, s)
          | some (some s) =>
            match blkMapWriteEod s with
            | some (.ok, s) => some (.ok, s)
            | some (_, s) => some (.mediaError, s)
            | none => none

end VirtualTape
