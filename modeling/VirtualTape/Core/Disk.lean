import VirtualTape.Core.Bdev

/-!
# What the disks hold

Disk contents are kept sector by sector, so that a write that covers part of an index page
destroys it. A page is its first sector, which carries the content, and the marked sectors behind
it; it reads back only if all of them are still in place. The segment map pages, which sit in an
area of their own in front of everything else of a partition, are kept apart: a page is the table
of its 511 packed addresses, or nothing if its checksum does not hold.
-/

namespace VirtualTape

/-- The two kinds of segments of a partition. -/
inductive SegmentType where
  /-- Index pages. -/
  | metaSeg
  /-- Data of blocks. -/
  | dataSeg
  deriving DecidableEq, Repr

/-- The content of a sector. -/
inductive Sector where
  /-- All zero. -/
  | zero
  /-- Anything else that is no part of a page or block below. -/
  | junk (tag : Nat)
  /-- The first sector of an index page. -/
  | head (page : Page)
  /-- A later sector of the index page that starts at `start`. -/
  | tail (start index : Nat)
  /-- A sector of a block's data. -/
  | data (payload index : Nat)

/-- Is the sector all zero? -/
def Sector.isZero : Sector → Bool
  | .zero => true
  | _ => false

/-- Is the sector number `index` of the page that starts at `start`? -/
def Sector.isTail (start index : Nat) : Sector → Bool
  | .tail pageStart pageIndex => pageStart == start && pageIndex == index
  | _ => false

/-- Identity of a partition's segment maps: the disk and first sector of the unit they are in. -/
structure TmapsRef where
  /-- Disk id. -/
  bid : Nat
  /-- First sector. -/
  bStart : Nat
  deriving DecidableEq, Repr

/-- The content of all disks of a pool. -/
structure Disk where
  /-- Content of a sector of a disk. -/
  sector : Nat → Nat → Sector
  /-- Segment map pages of a partition: packed addresses, zero for a segment not allocated. -/
  tmap : TmapsRef → SegmentType → Nat → Option (Nat → Nat)

/-- What reading a page-sized range yields. -/
inductive PageView where
  /-- Zeros only. -/
  | zero
  /-- Neither zeros nor an intact index page. -/
  | junk
  /-- An intact index page. -/
  | page (page : Page)

/-- Overwrite `blocks` sectors from `start` on. -/
def Disk.fill (disk : Disk) (bid start blocks : Nat) (content : Nat → Sector) : Disk :=
  { disk with sector := fun bint block =>
      if bint = bid ∧ start ≤ block ∧ block < start + blocks then content (block - start)
      else disk.sector bint block }

/-- Write an index page. -/
def Disk.writePage (disk : Disk) (bid start blocks : Nat) (page : Page) : Disk :=
  disk.fill bid start blocks fun index =>
    if index = 0 then .head page else .tail start index

/-- Write the data of a block. -/
def Disk.writeData (disk : Disk) (bid start blocks payload : Nat) : Disk :=
  disk.fill bid start blocks (.data payload)

/-- Overwrite a range with zeros. -/
def Disk.zeroRange (disk : Disk) (bid start blocks : Nat) : Disk :=
  disk.fill bid start blocks fun _ => .zero

/-- Read a page. -/
def Disk.readPage (disk : Disk) (bid start blocks : Nat) : PageView :=
  match disk.sector bid start with
  | .head page =>
    if (List.range' 1 (blocks - 1)).all fun index =>
        (disk.sector bid (start + index)).isTail start index
    then .page page else .junk
  | .zero =>
    if (List.range' 1 (blocks - 1)).all fun index => (disk.sector bid (start + index)).isZero
    then .zero else .junk
  | _ => .junk

/-- The recorded address of a segment, if its segment map page can be read. -/
def Disk.tmapEntry (disk : Disk) (tmaps : TmapsRef) (type : SegmentType) (segmentId : Nat) :
    Option Nat :=
  (disk.tmap tmaps type (segmentId / tsegmentMapMaxSegments)).map
    fun page => page (segmentId % tsegmentMapMaxSegments)

/-- Record the address of a segment. -/
def Disk.setTmapEntry (disk : Disk) (tmaps : TmapsRef) (type : SegmentType)
    (segmentId block : Nat) : Disk :=
  { disk with tmap := fun ref kind tmapId =>
      if ref = tmaps ∧ kind = type ∧ tmapId = segmentId / tsegmentMapMaxSegments then
        (disk.tmap ref kind tmapId).map fun page entryId =>
          if entryId = segmentId % tsegmentMapMaxSegments then block else page entryId
      else disk.tmap ref kind tmapId }

end VirtualTape
