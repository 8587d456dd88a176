import VirtualTape.Core.Write

/-!
# Appending objects

`blkEntriesWriteInsert` gives every new object a map, a slot in it and a place on disk, opening new
maps, lookups and segments on the way, and only then changes the partition. If an allocation fails
the write cursors are put back and the new maps and lookups are dropped; if the tape was empty, the
current map then points to a map that was dropped.
-/

namespace VirtualTape

/-- One block of a write command: its size, its compressed size or zero, and its data. -/
structure WriteBlock where
  /-- Block size in bytes. -/
  blockSize : Nat
  /-- Compressed size in bytes, zero if the block is stored as it is. -/
  compSize : Nat
  /-- The data. -/
  payload : Nat
  deriving DecidableEq, Repr

/-- The entry of a new block. -/
def newWriteEntry (block : WriteBlock) (lidStart : Nat) : BlkEntry where
  bits := setEntryBtype 0 1
  bStart := 0
  bid := 0
  lidStart := lidStart
  compSize := block.compSize
  blockSize := block.blockSize
  newData := some block.payload

/-- The entries of the blocks of a write command. -/
def setupEntries (lidStart : Nat) : List WriteBlock → List BlkEntry
  | [] => []
  | block :: rest => newWriteEntry block lidStart :: setupEntries (lidStart + 1) rest

/-- The entry of a new filemark, or of a new setmark if `wsmk`. -/
def newMarkEntry (wsmk : Bool) (lidStart : Nat) (dsegment : Tsegment) : BlkEntry where
  bits :=
    let bits := setEntrySegmentId 0 dsegment.segmentId
    if wsmk then setEntryCsize bits 1 else bits
  bStart := dsegment.bCur
  bid := (dsegment.bint.map Bdevint.bid).getD 0
  lidStart := lidStart
  compSize := 0
  blockSize := 0
  newData := none

/-- An insertion under way. -/
structure Insertion where
  /-- Pool, disk and partition; the cached lists are still unchanged. -/
  state : State
  /-- Entries for the map the insertion started in. -/
  filled : List BlkEntry
  /-- New maps that are full. -/
  closedMaps : List BlkMap
  /-- The new map that takes the next entry. -/
  openMap : Option BlkMap
  /-- New lookups that are full. -/
  closedLookups : List MapLookup
  /-- The new lookup that takes the next map. -/
  openLookup : Option MapLookup

/-- Is the next page beyond the end of the segment, or is there no segment yet? -/
def metaSegmentFull (msegment : Tsegment) (metaBlocks : Nat) : Bool :=
  decide (msegment.bEnd < msegment.bCur + metaBlocks)

/-- Give a new lookup a page. -/
def tapePartitionAddMlookup (s : State) (lIdsStart fIdsStart sIdsStart : Nat) :
    Option MapLookup × State :=
  let ready :=
    match s.part.msegment.bint with
    | none => tapePartitionAllocSegment s .metaSeg
    | some bint =>
      if s.part.msegment.bStart ≠ 0 ∧ !metaSegmentFull s.part.msegment bint.metaBlocks then
        (true, s)
      else tapePartitionAllocSegment s .metaSeg
  match ready with
  | (false, s) => (none, s)
  | (true, s) =>
    match s.part.msegment.bint with
    | none => (none, s)
    | some bint =>
      let bCur := s.part.msegment.bCur
      (some (mapLookupNew bint.bid bCur lIdsStart fIdsStart sIdsStart),
        { s with part := s.part.moveSegment .metaSeg (bCur + bint.metaBlocks) })

/-- Is a lookup full, counting the maps that are not entered yet? -/
def MapLookup.isFull (mlookup : MapLookup) : Bool :=
  mlookup.mapNrs + mlookup.pendingNewMaps + 1 == nrMapDataEntries

/-- Note that a map will be entered into a lookup. -/
def MapLookup.addPending (mlookup : MapLookup) : MapLookup :=
  { mlookup with pendingNewMaps := (mlookup.pendingNewMaps + 1) % 2 ^ 16 }

/-- The lookup that takes the next map: a new one, or the one of the map the insertion started
in. -/
def Insertion.lookup (ins : Insertion) (start : Option BlkMap) : Option MapLookup :=
  match ins.openLookup with
  | some mlookup => some mlookup
  | none => start.bind ins.state.part.lookupOf

/-- Open a new lookup if there is none or the last one is full. -/
def insertionAddLookup (start : Option BlkMap) (lIdsStart fIdsStart sIdsStart : Nat)
    (ins : Insertion) : Bool × Insertion :=
  let full :=
    match ins.lookup start with
    | none => true
    | some mlookup => mlookup.isFull
  if !full then (true, ins)
  else
    match tapePartitionAddMlookup ins.state lIdsStart fIdsStart sIdsStart with
    | (none, s) => (false, { ins with state := s })
    | (some mlookup, s) =>
      (true, { ins with
        state := s
        closedLookups := ins.closedLookups ++ ins.openLookup.toList
        openLookup := some mlookup })

/-- Count the next map as pending in the lookup that takes it. -/
def insertionAddPending (start : Option BlkMap) (ins : Insertion) : Insertion :=
  match ins.openLookup, start with
  | some mlookup, _ => { ins with openLookup := some mlookup.addPending }
  | none, some map =>
    { ins with state := { ins.state with
      part := ins.state.part.modifyLookupOf map MapLookup.addPending } }
  | none, none => ins

/-- Give a new map a page. The page size is taken from the disk of the segment that was current
before a new one is allocated. -/
def insertionAddPage (start : Option BlkMap) (lIdsStart : Nat) (ins : Insertion) :
    Bool × Insertion :=
  match ins.state.part.msegment.bint, ins.lookup start with
  | some bint, some mlookup =>
    let metaBlocks := bint.metaBlocks
    let ready :=
      if metaSegmentFull ins.state.part.msegment metaBlocks then
        tapePartitionAllocSegment ins.state .metaSeg
      else (true, ins.state)
    match ready with
    | (false, s) => (false, { ins with state := s })
    | (true, s) =>
      let msegment := s.part.msegment
      let bid := (msegment.bint.map Bdevint.bid).getD 0
      let map := blkMapNew mlookup lIdsStart bid msegment.bCur msegment.segmentId
      (true, insertionAddPending start { ins with
        state := { s with part := s.part.moveSegment .metaSeg (msegment.bCur + metaBlocks) }
        closedMaps := ins.closedMaps ++ ins.openMap.toList
        openMap := some map })
  | _, _ => (false, ins)

/-- Open a new map, in a new lookup if need be. -/
def tapePartitionAddMap (start : Option BlkMap) (lIdsStart fIdsStart sIdsStart : Nat)
    (ins : Insertion) : Bool × Insertion :=
  match insertionAddLookup start lIdsStart fIdsStart sIdsStart ins with
  | (false, ins) => (false, ins)
  | (true, ins) => insertionAddPage start lIdsStart ins

/-- Bytes of an entry that go to the disk. -/
def BlkEntry.writeSize (entry : BlkEntry) : Nat :=
  if entry.compSize ≠ 0 then entry.compSize else entry.blockSize

/-- Place an entry at the data cursor. -/
def placeEntry (s : State) (entry : BlkEntry) (bint : Bdevint) (blocks : Nat) :
    State × BlkEntry :=
  let dsegment := s.part.dsegment
  ({ s with part := s.part.moveSegment .dataSeg (dsegment.bCur + blocks) },
    { entry with
      bStart := dsegment.bCur
      bid := bint.bid
      bits := setEntrySegmentId entry.bits dsegment.segmentId })

/-- Place an entry at the start of the next data segment. -/
def placeInNewSegment (s : State) (entry : BlkEntry) : Option BlkEntry × State :=
  match tapePartitionAllocSegment s .dataSeg with
  | (false, s) => (none, s)
  | (true, s) =>
    match s.part.dsegment.bint with
    | none => (none, s)
    | some bint =>
      let (s, entry) := placeEntry s entry bint (bint.blocks entry.writeSize)
      (some entry, s)

/-- Give an entry a place on disk. A mark takes no sectors. -/
def tapePartitionCheckDataSegment (s : State) (entry : BlkEntry) : Option BlkEntry × State :=
  match s.part.dsegment.bint with
  | none => placeInNewSegment s entry
  | some bint =>
    let blocks := if entry.isDataBlock then bint.blocks entry.writeSize else 0
    if entry.isDataBlock && decide (s.part.dsegment.bEnd < s.part.dsegment.bCur + blocks) then
      placeInNewSegment s entry
    else
      let (s, entry) := placeEntry s entry bint blocks
      (some entry, s)

/-- Entries of the map that takes the next entry. -/
def Insertion.count (ins : Insertion) (start : Option BlkMap) : Nat :=
  match ins.openMap with
  | some map => map.entries.length
  | none => ((start.map fun map => map.entries.length).getD 0) + ins.filled.length

/-- Does the next entry need a new map? -/
def Insertion.needsMap (ins : Insertion) (start : Option BlkMap) (fresh : Bool) : Bool :=
  (start.isNone && ins.openMap.isNone) || ins.count start == blkMaxEntries || fresh

/-- Add an entry to a map. -/
def BlkMap.addEntry (map : BlkMap) (entry : BlkEntry) : BlkMap :=
  { map with entries := map.entries ++ [entry], ioPending := true }

/-- Assign an entry that has its place on disk to its map. -/
def Insertion.addEntry (ins : Insertion) (entry : BlkEntry) : Insertion :=
  match ins.openMap with
  | some map => { ins with openMap := some (map.addEntry entry) }
  | none => { ins with filled := ins.filled ++ [entry] }

/-- Give one entry a map and a place on disk. -/
def insertEntry (start : Option BlkMap) (fresh : Bool) (fIdsStart sIdsStart : Nat)
    (ins : Insertion) (entry : BlkEntry) : Bool × Insertion :=
  let ready :=
    if ins.needsMap start fresh then
      tapePartitionAddMap start entry.lidStart fIdsStart sIdsStart ins
    else (true, ins)
  match ready with
  | (false, ins) => (false, ins)
  | (true, ins) =>
    match tapePartitionCheckDataSegment ins.state entry with
    | (none, s) => (false, { ins with state := s })
    | (some placed, s) => (true, { ins with state := s }.addEntry placed)

/-- Give every entry a map and a place on disk. -/
def insertEntries (start : Option BlkMap) (fresh : Bool) (fIdsStart sIdsStart : Nat) :
    Insertion → List BlkEntry → Bool × Insertion
  | ins, [] => (true, ins)
  | ins, entry :: rest =>
    match insertEntry start fresh fIdsStart sIdsStart ins entry with
    | (false, ins) => (false, ins)
    | (true, ins) => insertEntries start fresh fIdsStart sIdsStart ins rest

/-- Cached data of a new map above which its data is handed to the disk at once. -/
def maxCachedWrites : Nat := 1024 * 1024

/-- Hand the data of new maps to the disk; the last one waits if it is small and `tmark` is not
set. -/
def setupNewMaps (group : Bdevgroup) (tmark : Bool) : Disk → List BlkMap → Disk × List BlkMap
  | disk, [] => (disk, [])
  | disk, map :: rest =>
    let due := tmark || !rest.isEmpty ||
      decide ((map.entries.map BlkEntry.writeSize).sum > maxCachedWrites)
    let (disk, map) := if due then blkMapSetupWrites group disk map else (disk, map)
    let (disk, rest) := setupNewMaps group tmark disk rest
    (disk, map :: rest)

/-- The map the insertion started in, with its new entries. -/
def BlkMap.addEntries (map : BlkMap) (entries : List BlkEntry) : BlkMap :=
  if entries.isEmpty then map
  else { map with entries := map.entries ++ entries, ioPending := true }

/-- The cached maps after new maps were appended; the last one becomes the current map. -/
def Cursor.appendMaps (cursor : Cursor) (maps : List BlkMap) : Cursor :=
  match maps.getLast? with
  | none => cursor
  | some cur => .on (cursor.maps ++ maps.dropLast) cur []

/-- Put the result of an insertion in place. -/
def Insertion.commit (ins : Insertion) (tmark : Bool) : State :=
  let s := ins.state
  let filled := s.part.cursor.modifyCur fun map => map.addEntries ins.filled
  let newMaps := ins.closedMaps ++ ins.openMap.toList
  let (disk, filled) :=
    match newMaps, filled with
    | _ :: _, .on before cur after =>
      let (disk, cur) := blkMapSetupWrites s.group s.disk cur
      (disk, Cursor.on before cur after)
    | _ :: _, .loose maps cur =>
      let (disk, cur) := blkMapSetupWrites s.group s.disk cur
      (disk, Cursor.loose maps cur)
    | _, _ => (s.disk, filled)
  let (disk, newMaps) := setupNewMaps s.group tmark disk newMaps
  { s with
    disk := disk
    part := { s.part with
      cursor := filled.appendMaps newMaps
      mlookups := s.part.mlookups ++ ins.closedLookups ++ ins.openLookup.toList } }

/-- Undo a failed insertion: the write cursors are put back, and an empty tape is left with a
current map that was dropped. -/
def Insertion.reset (ins : Insertion) (before : State) : State :=
  let part := { ins.state.part with
    msegment := before.part.msegment
    dsegment := before.part.dsegment }
  let cursor :=
    match part.cursor, ins.closedMaps ++ ins.openMap.toList with
    | .null, _ :: _ => .dangling []
    | cursor, _ => cursor
  { ins.state with part := { part with cursor := cursor } }

/-- Append entries to the tape. -/
def blkEntriesWriteInsert (s : State) (entries : List BlkEntry) (tmark fresh : Bool)
    (fIdsStart sIdsStart : Nat) : Bool × State :=
  match insertEntries s.part.cursor.cur? fresh fIdsStart sIdsStart ⟨s, [], [], none, [], none⟩
      entries with
  | (true, ins) => (true, ins.commit tmark)
  | (false, ins) => (false, ins.reset s)

/-! ## Commands -/

/-- Logical id and mark counts at the position, for the objects that are appended there. -/
def appendIds (s : State) : Option (Nat × Nat × Nat) :=
  match s.part.cursor with
  | .null => some (0, 0, 0)
  | .dangling _ => none
  | .on _ map _ | .loose _ map =>
    (s.part.lookupOf map).map fun mlookup =>
      (blkMapCurrentLid map, mlookup.fIdsStart + mlookup.fIds, mlookup.sIdsStart + mlookup.sIds)

/-- Cut the tape off at the position and compute the write cursors. -/
def prepareWrite (s : State) : Option (Status × State) :=
  match blkMapOverwriteCheck s with
  | some (.ok, s) => tapePartitionLookupSegments s
  | other => other

/-- Write blocks at the position. -/
def blkMapWrite (env : Env) (buffered : Bool) (blocks : List WriteBlock) (s : State) :
    Option (Status × State) :=
  match if env.cacheFull then flushPass env (!buffered) s else some s with
  | none => none
  | some s =>
    match prepareWrite s with
    | some (.ok, s) =>
      match appendIds s with
      | none => none
      | some (lidStart, fIdsStart, sIdsStart) =>
        match blkEntriesWriteInsert s (setupEntries lidStart blocks) false false
            fIdsStart sIdsStart with
        | (false, s) => some (.mediaError, s)
        | (true, s) =>
          if buffered then some (.ok, s)
          else (flushPass env true s).map fun s => (.ok, s)
    | other => other

/-- The write command of a partition. -/
def tapePartitionWrite (env : Env) (buffered : Bool) (blocks : List WriteBlock) (s : State) :
    Option (Status × State) :=
  match tapePartitionPreWrite env s with
  | none => none
  | some s =>
    match blkMapWrite env buffered blocks s with
    | some (.ok, s) => some (.ok, tapePartitionPostWrite s)
    | other => other

/-- Does a mark need a new map because the current one has its full number of marks? -/
def markNeedsMap (wsmk : Bool) (cursor : Cursor) : Bool :=
  match cursor.cur? with
  | none => false
  | some map => if wsmk then map.sIds == maxSetMarksPerMap else map.fIds == maxFileMarksPerMap

/-- Count a mark in the current map and its lookup, and write the map's slot. -/
def countMark (wsmk : Bool) (s : State) : Option State :=
  match s.part.cursor.cur? with
  | none => none
  | some map =>
    let counted := if wsmk then { map with sIds := map.sIds + 1 } else { map with fIds := map.fIds + 1 }
    match s.part.lookupOf map with
    | none => none
    | some mlookup =>
      let mlookup := if wsmk then { mlookup with sIds := (mlookup.sIds + 1) % 2 ^ 16 }
        else { mlookup with fIds := (mlookup.fIds + 1) % 2 ^ 16 }
      (mapLookupEntryUpdate mlookup counted).map fun mlookup =>
        { s with part := { s.part with
          cursor := s.part.cursor.modifyCur fun _ => counted
          mlookups := modifyLookup s.part.mlookups map.mlookupBid map.mlookupBStart
            fun _ => mlookup } }

/-- Write one mark at the position. -/
def blkMapWriteFilemarks (env : Env) (wsmk : Bool) (s : State) : Option (Status × State) :=
  match prepareWrite s with
  | some (.ok, s) =>
    match appendIds s with
    | none => none
    | some (lidStart, fIdsStart, sIdsStart) =>
      match blkEntriesWriteInsert s [newMarkEntry wsmk lidStart s.part.dsegment] true
          (markNeedsMap wsmk s.part.cursor) fIdsStart sIdsStart with
      | (false, s) => some (.mediaError, s)
      | (true, s) =>
        ((tapePartitionFlushWrites env s).bind (countMark wsmk)).map fun s => (.ok, s)
  | other => other

/-- Write marks one by one. -/
def writeMarks (env : Env) (wsmk : Bool) : Nat → State → Option (Status × State)
  | 0, s => some (.ok, s)
  | count + 1, s =>
    match blkMapWriteFilemarks env wsmk s with
    | some (.ok, s) => writeMarks env wsmk count s
    | other => other

/-- The write filemarks command of a partition; `wsmk` asks for setmarks. -/
def tapePartitionWriteFilemarks (env : Env) (wsmk : Bool) (count : Nat) (s : State) :
    Option (Status × State) :=
  match tapePartitionPreWrite env s with
  | none => none
  | some s =>
    match writeMarks env wsmk count s with
    | some (.ok, s) =>
      (tapePartitionFlushWrites env (tapePartitionPostWrite s)).map fun s => (.ok, s)
    | other => other

end VirtualTape
