import VirtualTape.Core.Position

/-!
# Tapes

Creating, loading and formatting. A tape is a list of partitions, the first of which is
the one that formatting keeps.
-/

namespace VirtualTape

/-- Segment map pages for data segments of a partition. -/
def calcDataTmaps (size tapeSize : Nat) : Nat :=
  let units := (size >>> bintUnitShift) + if tapeSize < bintUnitSize then 0 else 1
  let pages := units / tsegmentMapMaxSegments +
    if units % tsegmentMapMaxSegments = 0 then 0 else 1
  if pages = 0 then 1 else pages

/-- Segment map pages for meta segments of a partition. -/
def calcMetaTmaps (size tapeSize : Nat) : Nat :=
  let pages := calcDataTmaps size tapeSize >>> 2
  if pages = 0 then 1 else pages

/-- What the tape's own metadata says about a partition. -/
structure PartitionInfo where
  /-- Format flag of the tape. -/
  v2 : Bool
  /-- Recorded objects may not be overwritten. -/
  worm : Bool
  /-- Capacity of the tape. -/
  tapeSize : Nat
  /-- Capacity of the partition. -/
  size : Nat
  /-- The unit of the segment maps. -/
  tmaps : TmapsRef
  deriving DecidableEq, Repr

/-- A partition with nothing in memory yet. -/
def tapePartitionInit (info : PartitionInfo) : Partition where
  v2 := info.v2
  worm := info.worm
  tapeSize := info.tapeSize
  size := info.size
  used := 0
  tmaps := info.tmaps
  maxMetaTmaps := calcMetaTmaps info.size info.tapeSize
  maxDataTmaps := calcDataTmaps info.size info.tapeSize
  msegment := .zero
  dsegment := .zero
  mlookups := []
  cursor := .null
  lookupSegments := false
  dirWrite := false
  dirRead := false

/-- Clear the segment map pages of a partition. -/
def clearTmaps (disk : Disk) (part : Partition) : Disk :=
  { disk with tmap := fun ref type tmapId =>
      if ref = part.tmaps ∧ tmapId < part.maxTmaps type then some fun _ => 0
      else disk.tmap ref type tmapId }

/-- Create a partition. -/
def tapePartitionNew (group : Bdevgroup) (disk : Disk) (v2 worm : Bool) (tapeSize size : Nat) :
    Option State :=
  match bdevGetBlock group with
  | (none, _) => none
  | (some unit, group) =>
    let part := tapePartitionInit ⟨v2, worm, tapeSize, size, ⟨unit.bid, unit.bStart⟩⟩
    some ⟨group, clearTmaps disk part, part⟩

/-- Allocated segments of successive segment map pages, up to a page without any; `fuel` counts
the pages left. A page that cannot be read is an error. -/
def tmapsUsage (disk : Disk) (tmaps : TmapsRef) (type : SegmentType) : Nat → Nat → Option Nat
  | 0, _ => some 0
  | fuel + 1, tmapId =>
    match disk.tmap tmaps type tmapId with
    | none => none
    | some page =>
      let used := ((List.range tsegmentMapMaxSegments).filter fun entryId => page entryId ≠ 0).length
      if used = 0 then some 0
      else (tmapsUsage disk tmaps type fuel (tmapId + 1)).map fun rest => used + rest

/-- Load the first lookup and the first map from the start of the first meta segment, unless that is
not allocated or starts with zeros. -/
def tapePartitionLoadFirst (s : State) : Option State :=
  match s.part.msegment.bint with
  | none => some s
  | some bint =>
    match s.disk.readPage bint.bid s.part.msegment.bStart bint.metaBlocks with
    | .zero => some s
    | _ =>
      match mapLookupLoad s.group s.disk s.part.msegment.bStart bint.bid with
      | none => none
      | some mlookup =>
        if (mlookup.entries 0).block = 0 then none
        else
          (blkMapLoad s.group s.disk mlookup 0 false).map fun map =>
            { s with part := { s.part with
              mlookups := [mlookup]
              cursor := .on [] map [] } }

/-- Load a partition: count its segments, find its first lookup and its first map. -/
def tapePartitionLoad (group : Bdevgroup) (disk : Disk) (info : PartitionInfo) : Option State :=
  let part := tapePartitionInit info
  match tmapsUsage disk info.tmaps .metaSeg part.maxMetaTmaps 0,
      tmapsUsage disk info.tmaps .dataSeg part.maxDataTmaps 0 with
  | some metaUsed, some dataUsed =>
    let part := { part with
      used := (metaUsed + dataUsed) * bintUnitSize
      lookupSegments := true }
    match tapePartitionLookupSegment ⟨group, disk, part⟩ .metaSeg 0 with
    | (false, _) => none
    | (true, s) => tapePartitionLoadFirst s
  | _, _ => none

/-- Release all segments of a partition. Failing to release the meta segments is ignored. -/
def tapePartitionFreeAlloc (s : State) : Bool × State :=
  let (_, s) := eodSegments s .metaSeg 0
  eodSegments s .dataSeg 0

/-- Forget everything that is in memory about a partition. -/
def tapePartitionInvalidatePointers (part : Partition) : Partition :=
  { part with
    msegment := .zero
    dsegment := .zero
    mlookups := []
    cursor := .null
    lookupSegments := true }

/-- A tape with its pool and the disk contents. -/
structure TapeState where
  /-- The pool. -/
  group : Bdevgroup
  /-- The disk contents. -/
  disk : Disk
  /-- The first partition. -/
  first : Partition
  /-- The other partitions. -/
  others : List Partition

/-- Release everything that partitions hold, their segment maps included. -/
def tapeDeletePartitions : List Partition → Bdevgroup → Disk → Bool × Bdevgroup × Disk
  | [], group, disk => (true, group, disk)
  | part :: rest, group, disk =>
    match tapePartitionFreeAlloc ⟨group, disk, part⟩ with
    | (false, s) => (false, s.group, s.disk)
    | (true, s) =>
      tapeDeletePartitions rest (bdevReleaseBlock s.group part.tmaps.bid part.tmaps.bStart) s.disk

/-- Format a tape: delete all partitions but the first and release the segments of that one. -/
def tapeFormatDefault (setSize : Nat) (tape : TapeState) : Bool × TapeState :=
  match tapeDeletePartitions tape.others tape.group tape.disk with
  | (false, group, disk) => (false, { tape with group := group, disk := disk })
  | (true, group, disk) =>
    match tapePartitionFreeAlloc ⟨group, disk, tape.first⟩ with
    | (false, s) => (false, ⟨s.group, s.disk, s.part, []⟩)
    | (true, s) =>
      (true, ⟨s.group, s.disk,
        { tapePartitionInvalidatePointers s.part with size := setSize }, []⟩)

/-- What the tape's own metadata says about a partition in memory. -/
def Partition.info (part : Partition) : PartitionInfo :=
  ⟨part.v2, part.worm, part.tapeSize, part.size, part.tmaps⟩

end VirtualTape
