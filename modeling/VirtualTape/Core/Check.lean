import VirtualTape.Core.Bindex
import VirtualTape.Core.Segment

/-!
# Checking a disk

A check of a disk builds a second bitmap from the segment maps of all tapes and then makes the index
pages of the disk agree with it. The tapes are found by going through the devices: a changer has them
in its elements and in its export list, a drive of its own in its media list. The pages of the second
bitmap are made as they are needed and dropped one by one when they are compared. A check that fails
on the way leaves the others behind.
-/

namespace VirtualTape

/-- A tape as a check sees it. -/
structure LoadedTape where
  /-- Its partitions. -/
  partitionList : List Partition

/-- A device as a check sees it. An element holds a tape or not; that of a drive is the tape in it. -/
inductive Tdevice where
  /-- `T_CHANGER`: storage elements, ports and drives, and the exported tapes. -/
  | mchanger (selemList ielemList delemList : List (Option LoadedTape))
      (exportList : List LoadedTape)
  /-- A drive of its own with its tapes. -/
  | tdrive (mediaList : List LoadedTape)

/-- What fails during a check. -/
structure CheckFaults extends IndexFaults where
  /-- There is no memory for the second copy of an index page. -/
  noPage : Nat → Bool

/-- Nothing fails. -/
def CheckFaults.none : CheckFaults := ⟨.none, fun _ => false⟩

/-! ## The second bitmap -/

/-- A page of the second bitmap, which is made if `alloc` says so. -/
def bintGetCheckIndex (faults : CheckFaults) (b : Bint) (indexId : Nat) (alloc : Bool) :
    Option (Bintindex × Bint) :=
  match b.checkList.find? fun index => index.indexId == indexId with
  | some index => some (index, b)
  | none =>
    if !alloc then none
    else if faults.noPage indexId then none
    else
      let index : Bintindex := ⟨indexId, Bytes.zero, []⟩
      some (index, { b with checkList := b.checkList ++ [index] })

/-- Change a page of the second bitmap. -/
def Bint.putCheckIndex (b : Bint) (index : Bintindex) : Bint :=
  { b with checkList := b.checkList.map fun other =>
      if other.indexId = index.indexId then index else other }

/-- Drop a page of the second bitmap; there is one of a number. -/
def Bint.dropCheckIndex (b : Bint) (indexId : Nat) : Bint :=
  { b with checkList := b.checkList.filter fun index => index.indexId ≠ indexId }

/-- Mark the unit of a sector, if it is one of this disk. -/
def checkBlock (faults : CheckFaults) (block bid : Nat) (b : Bint) : Bool × Bint :=
  if b.dev.bid ≠ bid then (true, b)
  else
    let (indexId, entry, pos) := calcIndexId b.dev block
    match bintGetCheckIndex faults b indexId true with
    | none => (false, b)
    | some (index, b) => (true, b.putCheckIndex { index with bmap := index.bmap.set entry pos })

/-- A loop that ends at the first failure. -/
def checkEach {α : Type} (check : α → Bint → Bool × Bint) : List α → Bint → Bool × Bint
  | [], b => (true, b)
  | x :: rest, b =>
    match check x b with
    | (false, b) => (false, b)
    | (true, b) => checkEach check rest b

/-! ## Going through the tapes -/

section Traversal

variable (faults : CheckFaults) (disk : Disk)

/-- Mark the segments of a segment map page, from an entry on up to the first empty one; `fuel` counts
the entries left. Yields whether there was none, or nothing on a failure. -/
def tmapCheckBlock (part : Partition) (type : SegmentType) (tmapId : Nat) (page : Nat → Nat) :
    Nat → Nat → Bint → Option Bool × Bint
  | 0, _, b => (some true, b)
  | fuel + 1, entryId, b =>
    if page entryId = 0 then (some false, b)
    else if tmapSkipSegment part (tmapId * tsegmentMapMaxSegments + entryId) type then
      tmapCheckBlock part type tmapId page fuel (entryId + 1) b
    else
      match checkBlock faults (blockBlocknr (page entryId)) (blockBid (page entryId)) b with
      | (false, b) => (none, b)
      | (true, b) => tmapCheckBlock part type tmapId page fuel (entryId + 1) b

/-- Mark the segments of successive segment map pages; `fuel` counts the pages left. -/
def checkTmapsFrom (part : Partition) (type : SegmentType) : Nat → Nat → Bint → Bool × Bint
  | 0, _, b => (true, b)
  | fuel + 1, tmapId, b =>
    match disk.tmap part.tmaps type tmapId with
    | none => (false, b)
    | some page =>
      match tmapCheckBlock faults part type tmapId page tsegmentMapMaxSegments 0 b with
      | (none, b) => (false, b)
      | (some false, b) => (true, b)
      | (some true, b) => checkTmapsFrom part type fuel (tmapId + 1) b

/-- Mark the segments of a type of a partition. -/
def tapePartitionCheckTmapBlocks (part : Partition) (type : SegmentType) : Bint → Bool × Bint :=
  checkTmapsFrom faults disk part type (part.maxTmaps type) 0

/-- Mark the units of a partition. -/
def tapePartitionCheckBlock (part : Partition) (b : Bint) : Bool × Bint :=
  match tapePartitionCheckTmapBlocks faults disk part .metaSeg b with
  | (false, b) => (false, b)
  | (true, b) =>
    match tapePartitionCheckTmapBlocks faults disk part .dataSeg b with
    | (false, b) => (false, b)
    | (true, b) =>
      if part.tmaps.bid ≠ b.dev.bid then (true, b)
      else checkBlock faults part.tmaps.bStart part.tmaps.bid b

/-- Mark the units of a tape. -/
def tapeCheckBlock (tape : LoadedTape) : Bint → Bool × Bint :=
  checkEach (tapePartitionCheckBlock faults disk) tape.partitionList

/-- Mark the units of exported tapes. -/
def mchangerCheckExportList (exportList : List LoadedTape) : Bint → Bool × Bint :=
  checkEach (tapeCheckBlock faults disk) exportList

/-- Mark the units of the tape in an element. -/
def mchangerCheckElement : Option LoadedTape → Bint → Bool × Bint
  | none, b => (true, b)
  | some tape, b => tapeCheckBlock faults disk tape b

/-- Mark the units of the tapes in elements. -/
def mchangerCheckElements (elements : List (Option LoadedTape)) : Bint → Bool × Bint :=
  checkEach (mchangerCheckElement faults disk) elements

/-- Mark the units of the tapes of a drive of its own. -/
def tdriveCheckBlock (mediaList : List LoadedTape) : Bint → Bool × Bint :=
  checkEach (tapeCheckBlock faults disk) mediaList

/-- Mark the units of the tapes of a changer. -/
def mchangerCheckBlock (selemList ielemList delemList : List (Option LoadedTape))
    (exportList : List LoadedTape) (b : Bint) : Bool × Bint :=
  match mchangerCheckElements faults disk selemList b with
  | (false, b) => (false, b)
  | (true, b) =>
    match mchangerCheckElements faults disk ielemList b with
    | (false, b) => (false, b)
    | (true, b) =>
      match mchangerCheckElements faults disk delemList b with
      | (false, b) => (false, b)
      | (true, b) => mchangerCheckExportList faults disk exportList b

/-- Mark the units of the tapes of a device, if there is one. -/
def tdeviceCheckBlock : Option Tdevice → Bint → Bool × Bint
  | none, b => (true, b)
  | some (.mchanger selemList ielemList delemList exportList), b =>
    mchangerCheckBlock faults disk selemList ielemList delemList exportList b
  | some (.tdrive mediaList), b => tdriveCheckBlock faults disk mediaList b

/-- Mark the units of all tapes. -/
def deviceCheckBlock (tdevices : List (Option Tdevice)) : Bint → Bool × Bint :=
  checkEach (tdeviceCheckBlock faults disk) tdevices

end Traversal

/-! ## Correcting the bitmap -/

/-- Bits of a byte that are set. -/
def getAllocedBlocks (val : BitVec 8) : Nat := (List.range' 0 8).countP fun j => val.getLsbD j

/-- An index page while it is compared. -/
structure IndexMerge where
  /-- The bits. -/
  bmap : Bytes
  /-- Bits cleared, by bytes. -/
  freedBlocks : Nat
  /-- Bits set, by bytes. -/
  allocedBlocks : Nat
  /-- Some byte was changed. -/
  needSync : Bool

/-- Compare a byte. -/
def IndexMerge.step (checkVal : Nat → BitVec 8) (merge : IndexMerge) (i : Nat) : IndexMerge :=
  if merge.bmap i = checkVal i then merge
  else
    let indexUsed := getAllocedBlocks (merge.bmap i)
    let checkUsed := getAllocedBlocks (checkVal i)
    { bmap := fun entry => if entry = i then checkVal i else merge.bmap entry
      freedBlocks :=
        if indexUsed < checkUsed then merge.freedBlocks
        else merge.freedBlocks + (indexUsed - checkUsed)
      allocedBlocks :=
        if indexUsed < checkUsed then merge.allocedBlocks + (checkUsed - indexUsed)
        else merge.allocedBlocks
      needSync := true }

/-- Compare the bytes of a page. -/
def mergeIndex (checkVal : Nat → BitVec 8) (bmapEntries : Nat) (bmap : Bytes) : IndexMerge :=
  (List.range bmapEntries).foldl (IndexMerge.step checkVal) ⟨bmap, 0, 0, false⟩

/-- A byte of a page of the second bitmap; without a page it is zero. -/
def checkVal (checkIndex : Option (Bintindex × Bint)) (i : Nat) : BitVec 8 :=
  (checkIndex.map fun found => found.1.bmap i).getD 0#8

/-- Make an index page agree with its page of the second bitmap, and drop that one. -/
def bintIndexCheck (faults : CheckFaults) (b : Bint) (indexId : Nat) : Bool × Bint :=
  let checkIndex := bintGetCheckIndex faults b indexId false
  match bintGetIndex faults.toIndexFaults b indexId with
  | none => (false, b.dropCheckIndex indexId)
  | some (index, b) =>
    let merge :=
      mergeIndex (checkVal checkIndex) (calcBmapEntries b.dev.usize indexId) index.bmap
    let b := b.dropCheckIndex indexId
    if !merge.needSync then (true, b)
    else
      let index := { index with bmap := merge.bmap }
      match bintIndexWrite faults.toIndexFaults b index with
      | (false, b) => (false, b.putIndex index)
      | (true, b) =>
        let free := bintIncrFree b.free (merge.freedBlocks <<< bintUnitShift)
        (true, { b.putIndex index with
          free := bintDecrFree free (merge.allocedBlocks <<< bintUnitShift) })

/-- Correct the index pages from one on; `fuel` counts the pages left. -/
def bintCheckFrom (faults : CheckFaults) : Nat → Nat → Bint → Bool × Bint
  | 0, _, b => (true, b)
  | fuel + 1, indexId, b =>
    match bintIndexCheck faults b indexId with
    | (false, b) => (false, b)
    | (true, b) => bintCheckFrom faults fuel (indexId + 1) b

/-- Check a disk. -/
def bintCheck (faults : CheckFaults) (disk : Disk) (tdevices : List (Option Tdevice)) (b : Bint) :
    Bool × Bint :=
  match deviceCheckBlock faults disk tdevices b with
  | (false, b) => (false, b)
  | (true, b) => bintCheckFrom faults (bintNindexes b.dev.usize) 0 b

end VirtualTape
