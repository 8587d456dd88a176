import VirtualTape.Core.Raw

/-!
# Disks and allocation units

A storage pool is a group of disks cut into units of 64 MB. One bit per unit says whether it is
handed out; the first four units of a disk never are. Disks with free units are queued on
`allocList`, and successive requests are served by successive disks of the queue. A request takes
the first clear bit of the disk whose turn it is.
-/

namespace VirtualTape

/-- The geometry of a disk. -/
structure Bdevint where
  /-- Disk id. -/
  bid : Nat
  /-- Binary logarithm of the sector size. -/
  sectorShift : Nat
  /-- Number of whole units on the disk. -/
  units : Nat
  deriving DecidableEq, Repr

/-- A pool: its disks, their unit bitmaps and free counts, and the allocation queue. -/
structure Bdevgroup where
  /-- The disks of the pool. -/
  bints : List Bdevint
  /-- Which units of a disk are handed out. -/
  bmap : Nat → Nat → Bool
  /-- Free bytes of a disk. -/
  free : Nat → Nat
  /-- Disks that may have a free unit. -/
  allocList : List Nat
  /-- The disk whose turn it is. -/
  eligible : Option Nat

/-- Disks a system can have. -/
def tlMaxDisks : Nat := 512

/-- Find a disk by id. -/
def bdevFind (group : Bdevgroup) (bid : Nat) : Option Bdevint :=
  if bid < tlMaxDisks then group.bints.find? (fun bint => bint.bid == bid) else none

/-- Sectors that hold `size` bytes. -/
def Bdevint.blocks (bint : Bdevint) (size : Nat) : Nat :=
  (size >>> bint.sectorShift) + if size % 2 ^ bint.sectorShift = 0 then 0 else 1

/-- Sectors of an index page, rounded down as the source shifts. -/
def Bdevint.metaBlocks (bint : Bdevint) : Nat := lbaSize >>> bint.sectorShift

/-- Sectors of a unit. -/
def Bdevint.unitBlocks (bint : Bdevint) : Nat := bintUnitSize >>> bint.sectorShift

/-- First sector of a unit. -/
def Bdevint.unitStart (bint : Bdevint) (unit : Nat) : Nat :=
  (unit <<< bintUnitShift) >>> bint.sectorShift

/-- The unit a sector lies in. -/
def Bdevint.unitOf (bint : Bdevint) (block : Nat) : Nat :=
  (block <<< bint.sectorShift) >>> bintUnitShift

/-- The disk after `bid` on the queue, or the first one. -/
def bdevAllocListNextRotate (allocList : List Nat) (bid : Nat) : Option Nat :=
  match (allocList.dropWhile (fun other => other != bid)).tail.head? with
  | some next => some next
  | none => allocList.head?

/-- Walk the queue from `eligible` to a disk with free space, dropping full disks from it. -/
def bintGetEligibleFrom : Nat → Bdevgroup → Option Nat → Option Nat × Bdevgroup
  | 0, group, _ => (none, { group with eligible := none })
  | _ + 1, group, none => (none, { group with eligible := none })
  | fuel + 1, group, some bid =>
    if group.free bid ≠ 0 then
      (some bid, { group with eligible := bdevAllocListNextRotate group.allocList bid })
    else
      let next := bdevAllocListNextRotate group.allocList bid
      let shorter := { group with allocList := group.allocList.erase bid }
      if next = some bid then (none, { shorter with eligible := none })
      else bintGetEligibleFrom fuel shorter next

/-- The disk that serves the next request. Every round drops a disk from the queue, so its length
bounds the walk. -/
def bintGetEligible (group : Bdevgroup) : Option Nat × Bdevgroup :=
  let eligible := group.eligible.orElse fun _ => group.allocList.head?
  bintGetEligibleFrom (group.allocList.length + 1) group eligible

/-- The first unit of a disk that is not handed out. -/
def firstFreeUnit (group : Bdevgroup) (bint : Bdevint) : Option Nat :=
  (List.range' bintReservedSegments (bint.units - bintReservedSegments)).find?
    (fun unit => !group.bmap bint.bid unit)

/-- Set the bit of a unit. -/
def Bdevgroup.setBit (group : Bdevgroup) (bid unit : Nat) (value : Bool) : Bdevgroup :=
  { group with bmap := fun disk index =>
      if disk = bid ∧ index = unit then value else group.bmap disk index }

/-- Set the free bytes of a disk. -/
def Bdevgroup.setFree (group : Bdevgroup) (bid free : Nat) : Bdevgroup :=
  { group with free := fun disk => if disk = bid then free else group.free disk }

/-- A unit handed out: disk, first sector and the sector behind it. -/
structure UnitRef where
  /-- Disk id. -/
  bid : Nat
  /-- First sector. -/
  bStart : Nat
  /-- Sector behind the unit. -/
  bEnd : Nat
  deriving DecidableEq, Repr

/-- Hand out a unit. Only the disk whose turn it is is searched. -/
def bdevGetBlock (group : Bdevgroup) : Option UnitRef × Bdevgroup :=
  let (found, group) := bintGetEligible group
  match found.bind (bdevFind group) with
  | none => (none, group)
  | some bint =>
    match firstFreeUnit group bint with
    | none => (none, group)
    | some unit =>
      let start := bint.unitStart unit
      (some ⟨bint.bid, start, start + bint.unitBlocks⟩,
        (group.setBit bint.bid unit true).setFree bint.bid (group.free bint.bid - bintUnitSize))

/-- Queue a disk in front of the first queued disk that has less free space. -/
def bdevAllocListInsert (group : Bdevgroup) (bid : Nat) : Bdevgroup :=
  if bid ∈ group.allocList then group
  else
    let full := fun other => !decide (group.free other < group.free bid)
    { group with
      allocList := group.allocList.takeWhile full ++ bid :: group.allocList.dropWhile full }

/-- Take back the unit that holds a sector. -/
def bdevReleaseBlock (group : Bdevgroup) (bid block : Nat) : Bdevgroup :=
  match bdevFind group bid with
  | none => group
  | some bint =>
    let unit := bint.unitOf block
    let released :=
      if group.bmap bid unit then
        (group.setBit bid unit false).setFree bid (group.free bid + bintUnitSize)
      else group
    bdevAllocListInsert released bid

end VirtualTape
