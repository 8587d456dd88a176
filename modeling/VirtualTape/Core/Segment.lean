import VirtualTape.Core.Partition

/-!
# Segments

A partition grows by segments of one unit each, numbered from zero for index pages and for data.
The number of a segment selects a slot of a segment map page, which records where the segment is.
A write cursor moves through a segment; when it is full the next slot is allocated, or taken as it
is if it already holds an address. The first meta segment of a v2 tape is no unit of its own: it
starts 8 MB into the unit that holds the segment maps.
-/

namespace VirtualTape

/-- Offset of the first meta segment of a v2 tape in the unit of the segment maps. -/
def firstMetaOffset : Nat := 2 * (4 * 1024 * 1024)

/-- The write cursor of a segment type. -/
def Partition.segment (part : Partition) : SegmentType → Tsegment
  | .metaSeg => part.msegment
  | .dataSeg => part.dsegment

/-- Replace the write cursor of a segment type. -/
def Partition.setSegment (part : Partition) (type : SegmentType) (tsegment : Tsegment) :
    Partition :=
  match type with
  | .metaSeg => { part with msegment := tsegment }
  | .dataSeg => { part with dsegment := tsegment }

/-- Is the segment the part of the unit of the segment maps that a v2 tape uses? -/
def tmapSkipSegment (part : Partition) (segmentId : Nat) (type : SegmentType) : Bool :=
  segmentId == 0 && type == .metaSeg && part.v2

/-- Where the first meta segment of a v2 tape is. -/
def firstMetaBlock (group : Bdevgroup) (part : Partition) : Option UnitRef :=
  (bdevFind group part.tmaps.bid).map fun bint =>
    ⟨bint.bid, part.tmaps.bStart + (firstMetaOffset >>> bint.sectorShift),
      part.tmaps.bStart + bint.unitBlocks⟩

/-- The segment behind the one a cursor fills, or the first one. -/
def Tsegment.nextId (tsegment : Tsegment) : Nat :=
  if tsegment.bStart ≠ 0 then tsegment.segmentId + 1 else tsegment.segmentId

/-- Obtain the sectors for a segment that has none yet. -/
def allocUnit (s : State) (type : SegmentType) (segmentId : Nat) : Option UnitRef × Bdevgroup :=
  if tmapSkipSegment s.part segmentId type then (firstMetaBlock s.group s.part, s.group)
  else bdevGetBlock s.group

/-- Enter a new segment into its segment map. The first four pages of the first meta segment are
cleared. -/
def recordUnit (s : State) (type : SegmentType) (segmentId : Nat) (bint : Bdevint)
    (found : UnitRef) : State :=
  let cleared :=
    if segmentId = 0 ∧ type = .metaSeg then
      s.disk.zeroRange found.bid found.bStart (4 * bint.metaBlocks)
    else s.disk
  { s with
    disk := cleared.setTmapEntry s.part.tmaps type segmentId (setBlock found.bStart found.bid)
    part := { s.part with used := s.part.used + bintUnitSize } }

/-- Move a write cursor to the start of a segment. -/
def State.openSegment (s : State) (type : SegmentType) (segmentId : Nat) (bint : Bdevint)
    (bStart bEnd : Nat) : State :=
  { s with part := s.part.setSegment type ⟨bStart, bStart, bEnd, segmentId, some bint⟩ }

/-- Move a write cursor to its next segment, allocating it if need be. -/
def tapePartitionAllocSegment (s : State) (type : SegmentType) : Bool × State :=
  let segmentId := (s.part.segment type).nextId
  match s.disk.tmapEntry s.part.tmaps type segmentId with
  | none => (false, s)
  | some 0 =>
    let (found, group) := allocUnit s type segmentId
    match found.bind fun unit => (bdevFind group unit.bid).map fun bint => (unit, bint) with
    | none => (false, { s with group := group })
    | some (unit, bint) =>
      (true, (recordUnit { s with group := group } type segmentId bint unit).openSegment
        type segmentId bint unit.bStart unit.bEnd)
  | some block =>
    match bdevFind s.group (blockBid block) with
    | none => (false, s)
    | some bint =>
      (true, s.openSegment type segmentId bint (blockBlocknr block)
        (blockBlocknr block + bint.unitBlocks))

/-- Point a write cursor to the start of a recorded segment. A segment that is not recorded leaves
the cursor alone. -/
def tapePartitionLookupSegment (s : State) (type : SegmentType) (segmentId : Nat) :
    Bool × State :=
  match s.disk.tmapEntry s.part.tmaps type segmentId with
  | none => (false, s)
  | some 0 => (true, s)
  | some block =>
    match bdevFind s.group (blockBid block) with
    | none => (false, s)
    | some bint =>
      let bEnd :=
        if tmapSkipSegment s.part segmentId type then
          s.part.tmaps.bStart +
            (((bdevFind s.group s.part.tmaps.bid).map Bdevint.unitBlocks).getD 0)
        else blockBlocknr block + bint.unitBlocks
      (true, s.openSegment type segmentId bint (blockBlocknr block) bEnd)

/-- Move a write cursor to a sector. -/
def Partition.moveSegment (part : Partition) (type : SegmentType) (bCur : Nat) : Partition :=
  part.setSegment type { part.segment type with bCur := bCur }

/-- Compute the cursor for index pages from the current map; outer `none` is a freed current
map. -/
def tapePartitionLookupCurMetaSegment (s : State) : Option (Status × State) :=
  match s.part.cursor with
  | .null => some (.ok, { s with part := s.part.setSegment .metaSeg .zero })
  | .dangling _ => none
  | .on _ map _ | .loose _ map =>
    let (found, s) := tapePartitionLookupSegment s .metaSeg map.segmentId
    if !found || s.part.msegment.bStart == 0 then some (.mediaError, s)
    else
      match bdevFind s.group map.bid with
      | none => none
      | some bint =>
        some (.ok, { s with part := s.part.moveSegment .metaSeg (map.bStart + bint.metaBlocks) })

/-- Compute the cursor for data from an entry: in front of it, or behind it if `atEnd`. -/
def positionDsegment (s : State) (entry : BlkEntry) (atEnd : Bool) : Option (Status × State) :=
  let (found, s) := tapePartitionLookupSegment s .dataSeg entry.segmentId
  if !found || s.part.dsegment.bStart == 0 then some (.mediaError, s)
  else
    match bdevFind s.group entry.bid with
    | none => none
    | some bint =>
      let blocks := if atEnd then bint.blocks entry.diskSize else 0
      some (.ok, { s with part := s.part.moveSegment .dataSeg (entry.bStart + blocks) })

/-- Compute the cursor for data from the position; outer `none` is a freed current map. -/
def tapePartitionLookupCurDataSegment (s : State) : Option (Status × State) :=
  match s.part.cursor with
  | .null => some (.ok, { s with part := s.part.setSegment .dataSeg .zero })
  | .dangling _ => none
  | .on _ map _ | .loose _ map =>
    match map.cEntry.bind fun index => map.entries[index]? with
    | some entry => positionDsegment s entry false
    | none =>
      match map.entries.getLast? with
      | some entry => positionDsegment s entry true
      | none =>
        -- an empty map behind other maps has no entry to take the position from
        if map.lIdsStart ≠ 0 then some (.mediaError, s)
        else
          let (found, s) := tapePartitionLookupSegment s .dataSeg 0
          if !found || s.part.dsegment.bStart == 0 then some (.mediaError, s) else some (.ok, s)

/-- Compute both write cursors from the position if that is due. -/
def tapePartitionLookupSegments (s : State) : Option (Status × State) :=
  if !s.part.lookupSegments then some (.ok, s)
  else
    match tapePartitionLookupCurMetaSegment s with
    | some (.ok, s) =>
      match tapePartitionLookupCurDataSegment s with
      | some (.ok, s) => some (.ok, { s with part := { s.part with lookupSegments := false } })
      | other => other
    | other => other

/-- Release the segments of a segment map page from slot `entryId` on, up to the first empty slot;
`fuel` counts the slots left. Yields the number of segments released. -/
def tmapEodFrom (type : SegmentType) (tmapId : Nat) : Nat → Nat → State → Nat × State
  | 0, _, s => (0, s)
  | fuel + 1, entryId, s =>
    let segmentId := tmapId * tsegmentMapMaxSegments + entryId
    match s.disk.tmapEntry s.part.tmaps type segmentId with
    | none | some 0 => (0, s)
    | some block =>
      if tmapSkipSegment s.part segmentId type then tmapEodFrom type tmapId fuel (entryId + 1) s
      else
        let s := { s with
          group := bdevReleaseBlock s.group (blockBid block) (blockBlocknr block)
          disk := s.disk.setTmapEntry s.part.tmaps type segmentId 0 }
        let (done, s) := tmapEodFrom type tmapId fuel (entryId + 1) s
        (done + 1, s)

/-- Release the segments of one segment map page from a slot on. -/
def tmapEodSegments (s : State) (type : SegmentType) (tmapId entryId : Nat) : Nat × State :=
  let (done, s) := tmapEodFrom type tmapId (tsegmentMapMaxSegments - entryId) entryId s
  (done, { s with part := { s.part with used := s.part.used - done * bintUnitSize } })

/-- Release the segments of successive segment map pages until one has none to release; `fuel`
counts the pages left. -/
def eodSegmentsFrom (type : SegmentType) : Nat → Nat → Nat → State → Bool × State
  | 0, _, _, s => (true, s)
  | fuel + 1, tmapId, entryId, s =>
    match s.disk.tmap s.part.tmaps type tmapId with
    | none => (false, s)
    | some _ =>
      let (done, s) := tmapEodSegments s type tmapId entryId
      if done = 0 then (true, s) else eodSegmentsFrom type fuel (tmapId + 1) 0 s

/-- Segment map pages of a segment type. -/
def Partition.maxTmaps (part : Partition) : SegmentType → Nat
  | .metaSeg => part.maxMetaTmaps
  | .dataSeg => part.maxDataTmaps

/-- Release all segments from `segmentId` on. -/
def eodSegments (s : State) (type : SegmentType) (segmentId : Nat) : Bool × State :=
  let tmapId := segmentId / tsegmentMapMaxSegments
  eodSegmentsFrom type (s.part.maxTmaps type - tmapId) tmapId
    (segmentId % tsegmentMapMaxSegments) s

/-- Release the segments behind the write cursors. -/
def tapePartitionEodCurSegment (s : State) : Option (Status × State) :=
  match tapePartitionLookupSegments s with
  | none => none
  | some (.ok, s) =>
    let (_, s) := eodSegments s .dataSeg (s.part.dsegment.segmentId + 1)
    let (_, s) := eodSegments s .metaSeg (s.part.msegment.segmentId + 1)
    some (.ok, s)
  | some (_, s) => some (.mediaError, s)

end VirtualTape
