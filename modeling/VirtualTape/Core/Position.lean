import VirtualTape.Core.Append

/-!
# Positioning and reading

LOCATE, SPACE and REWIND flush pending writes, find the map of the target and make it the current
one, usually by loading it anew and dropping everything else that was cached. READ walks forward
through cached maps and fetches further ones when it runs off their end. READ POSITION counts the
marks in front of the current map and walks its entries.
-/

namespace VirtualTape

/-- A command ends with a status, or uses memory that was freed, or searches without end. -/
abbrev Outcome := Option (Status × State)

/-- Make a freshly loaded map the only cached one. -/
def State.setOnlyMap (s : State) (map : BlkMap) : State :=
  { s with part := { s.part with cursor := .on [] map [] } }

/-- Change the current map. -/
def State.modifyCur (s : State) (change : BlkMap → BlkMap) : State :=
  { s with part := { s.part with cursor := s.part.cursor.modifyCur change } }

/-! ## Locate -/

/-- Position a map in front of a logical id. -/
def blkMapLocate (address : Nat) (map : BlkMap) : Status × BlkMap :=
  match map.entries.findIdx? fun entry => entry.lidStart == address with
  | some index => (.ok, { map with cEntry := some index })
  | none =>
    let atEnd := match map.entries.getLast? with
      | some entry => address == entry.lidStart + 1
      | none => false
    (if atEnd then .ok else .eodReached, { map with cEntry := none })

/-- The index of the filemark with a number, counting from the filemarks in front of the map. -/
def filemarkIndex (number : Nat) (entries : List BlkEntry) : Option Nat :=
  (((List.range entries.length).zip entries).filter fun pair => pair.2.isFilemark)[number]?.map
    Prod.fst

/-- Position a map in front of a filemark. -/
def blkMapLocateFile (mlookup : MapLookup) (address : Nat) (map : BlkMap) : Status × BlkMap :=
  let start := mlookup.fIdsStart + slotFilemarks mlookup.entries map.mlookupEntryId
  match if start ≤ address then filemarkIndex (address - start) map.entries else none with
  | some index => (.ok, { map with cEntry := some index })
  | none => (.eodReached, { map with cEntry := none })

/-- Make the map of a slot the current one, unless it is by its first logical id, and position it
with `position`. -/
def locateIn (s : State) (mlookup : MapLookup) (entryId : Nat)
    (position : BlkMap → Status × BlkMap) : Outcome :=
  match s.part.cursor.cur? with
  | none => none
  | some cur =>
    if mentryLidStart (mlookup.entries entryId) = cur.lIdsStart then
      let (status, map) := position cur
      some (status, s.modifyCur fun _ => map)
    else
      match blkMapLoad s.group s.disk mlookup entryId false with
      | none => some (.mediaError, s)
      | some map =>
        let (status, map) := position map
        some (status, s.setOnlyMap map)

/-- Position in front of a logical id. -/
def tapePartitionLocateBlock (env : Env) (address : Nat) (s : State) : Outcome :=
  match mapLookupLocate address env.fuel s with
  | .unfinished => none
  | .missing => some (.mediaError, s)
  | .found (mlookup, entryId, s) => locateIn s mlookup entryId (blkMapLocate address)

/-- Position in front of a filemark, given by its number. -/
def tapePartitionLocateFile (env : Env) (address : Nat) (s : State) : Outcome :=
  match mapLookupLocateFile address env.fuel s with
  | .unfinished => none
  | .missing => some (.mediaError, s)
  | .found (mlookup, entryId, s) =>
    -- the lookup of the positioned map: the one it was found in, or that of the current map
    let owner :=
      match s.part.cursor.cur? with
      | some cur =>
        if mentryLidStart (mlookup.entries entryId) = cur.lIdsStart then s.part.lookupOf cur
        else some mlookup
      | none => some mlookup
    match owner with
    | none => none
    | some owner => locateIn s mlookup entryId (blkMapLocateFile owner address)

/-- Position at the end of data. The last map is loaded anew. -/
def tapePartitionSpaceEod (env : Env) (s : State) : Outcome :=
  match mapLookupFindLast env.fuel s with
  | .unfinished => none
  | .missing => some (.mediaError, s)
  | .found (mlookup, s) =>
    if mlookup.mapNrs = 0 then some (.mediaError, s)
    else
      match blkMapLoad s.group s.disk mlookup (mlookup.mapNrs - 1) true with
      | none => some (.mediaError, s)
      | some map => some (.ok, s.setOnlyMap map)

/-- What a LOCATE command looks for. -/
inductive LocateType where
  /-- A logical id. -/
  | block (address : Nat)
  /-- A filemark. -/
  | file (address : Nat)
  /-- The end of data; the address of the command only matters on an empty tape. -/
  | eod (address : Nat)
  deriving DecidableEq, Repr

/-- The address of a LOCATE command. -/
def LocateType.address : LocateType → Nat
  | .block address | .file address | .eod address => address

/-- The LOCATE command. -/
def tapePartitionLocate (env : Env) (target : LocateType) (s : State) : Outcome :=
  match tapePartitionPreSpace env s with
  | none => none
  | some s =>
    if s.part.mlookups.isEmpty then
      some (if target.address = 0 then .ok else .eodReached, s)
    else
      match target with
      | .block address => tapePartitionLocateBlock env address s
      | .file address => tapePartitionLocateFile env address s
      | .eod _ => tapePartitionSpaceEod env s

/-! ## Space -/

/-- Does an entry count for a space command? -/
def iterSpaceCount (code : SpaceCode) (entry : BlkEntry) : Bool :=
  match code with
  | .blocks => entry.isDataBlock
  | .filemarks => entry.isFilemark
  | .setmarks => entry.isSetmark

/-- The status with which an entry stops a space command, if it does. -/
def iterSpaceStop (code : SpaceCode) (entry : BlkEntry) : Option Status :=
  match code with
  | .blocks =>
    if entry.isDataBlock then none
    else if entry.isFilemark then some .filemarkEncountered else some .setmarkEncountered
  | .filemarks =>
    if entry.isFilemark || entry.isDataBlock then none else some .setmarkEncountered
  | .setmarks => none

/-- Space over the entries of a map from an index towards its end; `fuel` counts the entries left.
Yields the status, what is left to count and the index reached. -/
def spaceForwardEntries (code : SpaceCode) (entries : List BlkEntry) :
    Nat → Nat → Nat → Status × Nat × Nat
  | 0, index, todo => (.ok, todo, index)
  | fuel + 1, index, todo =>
    match entries[index]? with
    | none => (.ok, todo, index)
    | some entry =>
      let todo := if iterSpaceCount code entry then todo - 1 else todo
      match iterSpaceStop code entry with
      | some status => (status, todo, index + 1)
      | none =>
        if todo = 0 then (.ok, todo, index + 1)
        else spaceForwardEntries code entries fuel (index + 1) todo

/-- An index as a position: beyond the last entry it is the end of the map. -/
def indexPosition (entries : List BlkEntry) (index : Nat) : Option Nat :=
  if index < entries.length then some index else none

/-- Space over the entries of a map towards its end. -/
def blkMapSpaceForward (code : SpaceCode) (todo : Nat) (map : BlkMap) : Status × Nat × BlkMap :=
  match map.cEntry with
  | none => (.ok, todo, map)
  | some index =>
    let (status, todo, index) :=
      spaceForwardEntries code map.entries map.entries.length index todo
    (status, todo, { map with cEntry := indexPosition map.entries index })

/-- Space over the entries in front of an index towards the beginning of a map. Yields the status,
what is left to count and the position reached, `none` if there was no entry. -/
def spaceBackwardEntries (code : SpaceCode) (entries : List BlkEntry) :
    Nat → Nat → Option Nat → Status × Nat × Option Nat
  | 0, todo, reached => (.ok, todo, reached)
  | index + 1, todo, reached =>
    match entries[index]? with
    | none => (.ok, todo, reached)
    | some entry =>
      let todo := if iterSpaceCount code entry then todo - 1 else todo
      match iterSpaceStop code entry with
      | some status => (status, todo, some index)
      | none =>
        if todo = 0 then (.ok, todo, some index)
        else spaceBackwardEntries code entries index todo (some index)

/-- Space over the entries of a map towards its beginning. -/
def blkMapSpaceBackward (code : SpaceCode) (todo : Nat) (map : BlkMap) : Status × Nat × BlkMap :=
  let (status, todo, reached) :=
    spaceBackwardEntries code map.entries (map.cEntry.getD map.entries.length) todo map.cEntry
  (status, todo, { map with cEntry := reached })

/-- A SPACE ends with a status and with what is left to count, or as other commands do not. -/
abbrev SpaceOutcome := Option (Status × Nat × State)

/-- Space from the current map: first inside it, then over whole maps, then inside the map found. The
status of the last stage is that of the command, also where it runs off the map. -/
def spaceFrom (within : Nat → BlkMap → Status × Nat × BlkMap)
    (across : Nat → MapLookup → Nat → State → Search (Option (MapLookup × Nat × Nat) × Status × State))
    (poslast : Bool) (todo : Nat) (s : State) : SpaceOutcome :=
  match s.part.cursor.cur? with
  | none => none
  | some cur =>
    let (status, todo, moved) := within todo cur
    let s := s.modifyCur fun _ => moved
    if status ≠ .ok then some (status, todo, s)
    else if todo = 0 then some (.ok, todo, s)
    else
      match s.part.lookupOf moved with
      | none => none
      | some mlookup =>
        match across todo mlookup moved.mlookupEntryId s with
        | .unfinished => none
        | .missing => some (.mediaError, todo, s)
        | .found (none, status, s) => some (status, todo, s)
        | .found (some (mlookup, entryId, todo), _, s) =>
          match blkMapLoad s.group s.disk mlookup entryId poslast with
          | none => some (.mediaError, todo, s)
          | some map =>
            let (status, todo, map) := within todo map
            some (status, todo, s.setOnlyMap map)

/-- Find the map in which spacing forward ends. -/
def mapLookupSpaceForward (code : SpaceCode) (fuel todo : Nat) (mlookup : MapLookup) (entryId : Nat)
    (s : State) : Search (Option (MapLookup × Nat × Nat) × Status × State) :=
  match mapLookupNextEntry s mlookup entryId with
  | none =>
    .found (none, if mlookup.nextBlock = 0 then .eodReached else .mediaError, s)
  | some (mlookup, entryId, s) =>
    match spaceForwardFrom code fuel todo mlookup entryId s with
    | .unfinished => .unfinished
    | .missing => .missing
    | .found (mlookup, entryId, todo, s) => .found (some (mlookup, entryId, todo), .ok, s)

/-- Find the map in which spacing backward ends. -/
def mapLookupSpaceBackward (code : SpaceCode) (fuel todo : Nat) (mlookup : MapLookup)
    (entryId : Nat) (s : State) : Search (Option (MapLookup × Nat × Nat) × Status × State) :=
  match mapLookupPrevEntry s mlookup entryId with
  | none =>
    .found (none, if mlookup.lIdsStart = 0 then .bomReached else .mediaError, s)
  | some (mlookup, entryId, s) =>
    match spaceBackwardFrom code fuel todo mlookup entryId s with
    | .unfinished => .unfinished
    | .missing => .missing
    | .found (mlookup, entryId, todo, s) => .found (some (mlookup, entryId, todo), .ok, s)

/-- What a SPACE command does. -/
inductive SpaceType where
  /-- Move by a number of counted objects towards the end. -/
  | forward (code : SpaceCode) (count : Nat)
  /-- Move by a number of counted objects towards the beginning. -/
  | backward (code : SpaceCode) (count : Nat)
  /-- Move to the end of data. -/
  | endOfData
  deriving DecidableEq, Repr

/-- The number of objects a SPACE command asks for. -/
def SpaceType.count : SpaceType → Nat
  | .forward _ count | .backward _ count => count
  | .endOfData => 0

/-- The SPACE command, with the count that is left. A count of zero is answered by the drive and does
not reach the tape. -/
def tapePartitionSpaceCount (env : Env) (target : SpaceType) (s : State) : SpaceOutcome :=
  match target with
  | .forward _ 0 | .backward _ 0 => some (.ok, 0, s)
  | _ =>
    match tapePartitionPreSpace env s with
    | none => none
    | some s =>
      if s.part.mlookups.isEmpty then
        some (match target with
          | .endOfData => .ok
          | .backward _ _ => .bomReached
          | .forward _ _ => .eodReached, target.count, s)
      else
        match target with
        | .endOfData => (tapePartitionSpaceEod env s).map fun (status, s) => (status, 0, s)
        | .forward code count =>
          spaceFrom (blkMapSpaceForward code) (mapLookupSpaceForward code env.fuel) false count s
        | .backward code count =>
          spaceFrom (blkMapSpaceBackward code) (mapLookupSpaceBackward code env.fuel) true count s

/-- The SPACE command. -/
def tapePartitionSpace (env : Env) (target : SpaceType) (s : State) : Outcome :=
  (tapePartitionSpaceCount env target s).map fun (status, _, s) => (status, s)

/-! ## Rewind -/

/-- Is the map the one a slot describes? -/
def BlkMap.isAt (map : BlkMap) (block : Nat) : Bool :=
  blockBlocknr block == map.bStart && blockBid block == map.bid

/-- The cached maps after a rewind that finds the tape's first map at the front of the list: all
other maps are freed, the current one included. -/
def Cursor.rewindCached : Cursor → Option Cursor
  | .on [] cur _ => some (.on [] cur.positionBop [])
  | .on (first :: _) _ _ => some (.dangling [first.positionBop])
  | .loose (first :: _) cur => some (.loose [first.positionBop] cur)
  | .dangling (first :: _) => some (.dangling [first.positionBop])
  | _ => none

/-- Position at the beginning of the partition. A first map that is not at the front of the list
is loaded and put at its end. -/
def tapePartitionPositionBop (env : Env) (s : State) : Outcome :=
  match tapePartitionFlushWrites env s with
  | none => none
  | some s =>
    match s.part.mlookups.head? with
    | none => some (.ok, s)
    | some mlookup =>
      let block := (mlookup.entries 0).block
      if block = 0 then some (.ok, s)
      else if s.part.cursor.maps.head?.any (·.isAt block) then
        (s.part.cursor.rewindCached).map fun cursor =>
          (.ok, { s with part := { s.part with cursor := cursor, lookupSegments := true } })
      else
        match blkMapLoad s.group s.disk mlookup 0 false with
        | none => some (.mediaError, s)
        | some map =>
          some (.ok, { s with part := { s.part with
            cursor := .on s.part.cursor.maps map []
            lookupSegments := true } })

/-- The REWIND command. -/
def tapeCmdRewind (env : Env) (s : State) : Outcome :=
  match tapePartitionPreSpace env s with
  | none => none
  | some s => tapePartitionPositionBop env s

/-! ## Read -/

/-- Fetch maps behind the last cached one; a lookup that is not cached yet ends the fetching after
the first map, and is fetched itself. -/
def blkMapsReadaheadFrom : Nat → Bool → BlkMap → State → Option (List BlkMap × State)
  | 0, _, _, s => some ([], s)
  | count + 1, first, prev, s =>
    match s.part.lookupOf prev with
    | none => none
    | some mlookup =>
      if !first && prev.mlookupEntryId + 1 == mlookup.mapNrs && !mapLookupNextAvail s mlookup then
        some ([], ((mapLookupLoadNext s mlookup).map Prod.snd).getD s)
      else if !mapLookupMapHasNext mlookup prev then some ([], s)
      else
        match mapLookupNextEntry s mlookup prev.mlookupEntryId with
        | none => some ([], s)
        | some (nextLookup, entryId, s) =>
          match blkMapLoad s.group s.disk nextLookup entryId true with
          | none => some ([], s)
          | some map =>
            (blkMapsReadaheadFrom count false map s).map fun (maps, s) => (map :: maps, s)

/-- Fetch maps behind the last cached one. -/
def blkMapsReadahead (s : State) : Option State :=
  match s.part.cursor with
  | .on before cur after =>
    (blkMapsReadaheadFrom minMapReadAhead true (after.getLast?.getD cur) s).map
      fun (maps, s) => { s with part := { s.part with cursor := .on before cur (after ++ maps) } }
  | _ => none

/-- Fetch a map behind the current one if none is cached and the tape has one. -/
def ensureNextMap (s : State) : Option State :=
  match s.part.cursor with
  | .on _ cur [] =>
    match s.part.lookupOf cur with
    | none => none
    | some mlookup => if mapLookupMapHasNext mlookup cur then blkMapsReadahead s else some s
  | .on _ _ (_ :: _) => some s
  | _ => none

/-- Step to the map behind the current one and position it in front of its first entry; nothing
changes if there is none. -/
def stepToNextMap (s : State) : Option (Bool × State) :=
  match ensureNextMap s with
  | none => none
  | some s =>
    match s.part.cursor with
    | .on before cur (next :: rest) =>
      some (true, { s with part := { s.part with
        cursor := .on (before ++ [cur]) next.positionBop rest } })
    | _ => some (false, s)

/-- The position behind entry `index` of the current map, in the next map if it was the last. -/
def blkEntryReadNext (index : Nat) (s : State) : Option (Option Nat × State) :=
  match s.part.cursor with
  | .on _ cur _ =>
    if index + 1 < cur.entries.length then some (some (index + 1), s)
    else
      match stepToNextMap s with
      | none => none
      | some (false, s) => some (none, s)
      | some (true, s) =>
        match s.part.cursor with
        | .on _ next _ => some (next.cEntry, s)
        | _ => none
  | _ => none

/-- The status with which an entry ends a read: a mark, or a block of another size. -/
def readStop (blockSize : Nat) (entry : BlkEntry) : Option Status :=
  if !entry.isDataBlock then
    if entry.isFilemark then some .filemarkEncountered else some .setmarkEncountered
  else if entry.blockSize < blockSize then some .underLength
  else if blockSize < entry.blockSize then some .overLength
  else none

/-- Read up to `count` blocks from entry `index` of the current map on. -/
def blkMapReadFrom (blockSize : Nat) : Nat → Nat → State → Option (Status × Option Nat × State)
  | 0, index, s => some (.ok, some index, s)
  | count + 1, index, s =>
    match s.part.cursor with
    | .on _ cur _ =>
      match cur.entries[index]? with
      | none => none
      | some entry =>
        match blkEntryReadNext index s with
        | none => none
        | some (next, s) =>
          match readStop blockSize entry, next with
          | some status, _ => some (status, next, s)
          | none, none => some (if count = 0 then .ok else .eodReached, none, s)
          | none, some index => blkMapReadFrom blockSize count index s
    | _ => none

/-- The first part of a read: at the end of a map, step to the next one; `fuel` bounds the steps
over empty maps. -/
def readStart : Nat → State → Option (Status × Option Nat × State)
  | 0, _ => none
  | fuel + 1, s =>
    match s.part.cursor.cur? with
    | none => none
    | some cur =>
      match cur.cEntry with
      | some index => some (.ok, some index, s)
      | none =>
        match s.part.lookupOf cur with
        | none => none
        | some mlookup =>
          if !mapLookupMapHasNext mlookup cur then some (.eodReached, none, s)
          else
            match stepToNextMap s with
            | none => none
            | some (false, s) => some (.mediaError, none, s)
            | some (true, s) => readStart fuel s

/-- Read blocks at the position. -/
def blkMapRead (env : Env) (blockSize count : Nat) (s : State) : Outcome :=
  match s.part.cursor with
  | .null => some (.eodReached, s)
  | _ =>
    match blkMapFreeTillCur env s with
    | none => none
    | some s =>
      match readStart env.fuel s with
      | none => none
      | some (status, none, s) => some (status, s)
      | some (_, some index, s) =>
        match blkMapReadFrom blockSize count index s with
        | none => none
        | some (status, position, s) =>
          let s := s.modifyCur fun map => { map with cEntry := position }
          if env.readAhead then (blkMapsReadahead s).map fun s => (status, s)
          else some (status, s)

/-- The READ command. -/
def tapePartitionRead (env : Env) (blockSize count : Nat) (s : State) : Outcome :=
  let ready :=
    if s.part.dirRead then some s
    else (tapePartitionFlushWrites env s).bind (blkMapFreeTillCur env)
  match ready with
  | none => none
  | some s =>
    match blkMapRead env blockSize count s with
    | some (.ok, s) => some (.ok, { s with part := { s.part with dirRead := true } })
    | other => other

/-! ## Read position -/

/-- What a partition reports about its position. -/
structure TapePositionInfo where
  /-- At the beginning of the partition. -/
  bop : Bool
  /-- At the end of data; the command reports the end of the partition only if room is short, too. -/
  eop : Bool
  /-- Blocks that are not on disk yet. -/
  blocksInBuffer : Nat
  /-- Bytes that are not on disk yet. -/
  bytesInBuffer : Nat
  /-- Number of the next object. -/
  blockNumber : Nat
  /-- Number of filemarks in front. -/
  fileNumber : Nat
  /-- Number of setmarks in front. -/
  setNumber : Nat
  deriving DecidableEq, Repr

/-- The entries of a map that are looked at for marks: the walk stops behind the current one. -/
def BlkMap.walked (map : BlkMap) : List BlkEntry :=
  match map.cEntry with
  | some index => map.entries.take (index + 1)
  | none => map.entries

/-- Report the position; `cachedBlocks` and `cachedData` count what waits to be written. -/
def blkMapReadPosition (cachedBlocks cachedData : Nat) (s : State) : Option TapePositionInfo :=
  let blocks := if s.part.dirWrite then cachedBlocks else 0
  let bytes := if s.part.dirWrite then cachedData else 0
  match s.part.cursor with
  | .null => some ⟨true, false, blocks, bytes, 0, 0, 0⟩
  | .dangling _ => none
  | .on _ map _ | .loose _ map =>
    (s.part.lookupOf map).map fun mlookup =>
      let bop := map.lIdsStart == 0 && map.cEntry == some 0
      { bop := bop
        eop := !bop && !mapLookupMapHasNext mlookup map && map.cEntry.isNone
        blocksInBuffer := blocks
        bytesInBuffer := bytes
        blockNumber := blkMapCurrentLid map
        fileNumber := mlookup.fIdsStart + slotFilemarks mlookup.entries map.mlookupEntryId +
          map.walked.countP BlkEntry.isFilemark
        setNumber := mlookup.sIdsStart + slotSetmarks mlookup.entries map.mlookupEntryId +
          map.walked.countP fun entry => !entry.isFilemark && entry.isSetmark }

end VirtualTape
