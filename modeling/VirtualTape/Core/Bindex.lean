import VirtualTape.Core.Bdev
import VirtualTape.Lib.Bitmap

/-!
# The bitmap pages of a disk

The bit of a unit is kept in an index page on its disk; a page has 4088 bytes of bits. Pages are
cached while they are used, and a page is written whenever one of its bits changes. Reading or
writing a page may fail, and then the change is taken back. A unit that is given back may be handed
to the disk to discard, and is not handed out again before that is done. Next to the bits the free
bytes of the disk are counted.

Unit and sector numbers are natural numbers. On a disk of less than 2^63 bytes they are the values of
the 64 bit words in which the source computes them; the size of a disk that is opened is a signed
64 bit number.
-/

namespace VirtualTape

/-- Bytes of bits of an index page; eight bytes are set aside. -/
def bmapEntries : Nat := lbaSize - 8

/-- Units of an index page. -/
def unitsPerIndex : Nat := bmapEntries * 8

/-- Index pages that are cached. -/
def bintMaxIndexCount : Nat := 8

/-- Size of the units that are never handed out. -/
def bintReservedSize : Nat := bintUnitSize * bintReservedSegments

/-- A disk as it is opened; one that is too small is refused. -/
structure BintDev where
  /-- Disk id. -/
  bid : Nat
  /-- Binary logarithm of the sector size. -/
  sectorShift : Nat
  /-- Size in bytes. -/
  size : Nat
  /-- A page is a whole number of sectors. -/
  shift_le : sectorShift ≤ 12
  /-- At least 4 GB. -/
  size_ge : 2 ^ 32 ≤ size
  /-- Sizes are 64 bit numbers. -/
  size_lt : size < 2 ^ 64

namespace BintDev

variable (dev : BintDev)

/-- The size that is used: whole units. -/
def usize : Nat := dev.size - dev.size % bintUnitSize

/-- The sector behind the last unit. -/
def bEnd : Nat := dev.usize >>> dev.sectorShift

/-- Number of whole units. -/
def units : Nat := dev.usize >>> bintUnitShift

/-- Sectors of a unit. -/
def unitBlocks : Nat := bintUnitSize >>> dev.sectorShift

/-- The geometry of the disk. -/
def bint : Bdevint := ⟨dev.bid, dev.sectorShift, dev.units⟩

end BintDev

/-- Number of index pages. -/
def bintNindexes (usize : Nat) : Nat :=
  let units := usize >>> bintUnitShift
  units / unitsPerIndex + if units % unitsPerIndex = 0 then 0 else 1

/-- First sector of the unit of a bit. -/
def calcAllocBlock (dev : BintDev) (indexId i j : Nat) : Nat :=
  ((indexId * unitsPerIndex + i * 8 + j) <<< bintUnitShift) >>> dev.sectorShift

/-- Bytes of a page that have bits of the disk. -/
def calcBmapEntries (usize indexId : Nat) : Nat :=
  let minUnits := min unitsPerIndex ((usize >>> bintUnitShift) - indexId * unitsPerIndex)
  minUnits / 8 + if minUnits % 8 = 0 then 0 else 1

/-- Page, byte and position of the bit of a sector. -/
def calcIndexId (dev : BintDev) (block : Nat) : Nat × Nat × Nat :=
  let units := (block <<< dev.sectorShift) >>> bintUnitShift
  (units / unitsPerIndex, units % unitsPerIndex / 8, units % unitsPerIndex % 8)

/-- First position of a byte that is looked at. -/
def getIterStart (indexId i : Nat) : Nat :=
  if indexId ≠ 0 ∨ i ≠ 0 then 0 else bintReservedSegments

/-- The 64 bit word of eight bytes. -/
def bmapWord (bmap : Bytes) (word : Nat) : Nat :=
  ((List.range 8).map fun i => (bmap (word * 8 + i)).toNat * 2 ^ (8 * i)).sum

/-- Checksum over the bits of a page. -/
def bintIndexCsum (bmap : Bytes) : Nat :=
  netCalcCsum16 ((List.range (bmapEntries / 8)).map (bmapWord bmap))

/-- An index page on disk. -/
structure RawBintindex where
  /-- The bits. -/
  bmap : Bytes
  /-- Checksum over the bits. -/
  csum : Nat

/-- An index page in memory. -/
structure Bintindex where
  /-- Number of the page. -/
  indexId : Nat
  /-- The bits. -/
  bmap : Bytes
  /-- Bits of units that are being discarded, by byte and position. -/
  unmapList : List (Nat × Nat)

/-- A disk with its index pages. -/
structure Bint where
  /-- The disk. -/
  dev : BintDev
  /-- Free bytes. -/
  free : Nat
  /-- Cached index pages. -/
  indexList : List Bintindex
  /-- Number of cached index pages, unless some had to stay. -/
  indexCount : Nat
  /-- Pages of a bitmap that a check of the disk builds. -/
  checkList : List Bintindex
  /-- Units that are given back are discarded. -/
  unmap : Bool
  /-- The index pages on disk. -/
  pages : Nat → RawBintindex

/-- Which pages cannot be read or written during a call. -/
structure IndexFaults where
  /-- Reading the page fails. -/
  read : Nat → Bool
  /-- Writing the page fails. -/
  write : Nat → Bool

/-- No page fails. -/
def IndexFaults.none : IndexFaults := ⟨fun _ => false, fun _ => false⟩

/-- Take from the free bytes, a 64 bit number. -/
def bintDecrFree (free used : Nat) : Nat := (free + (2 ^ 64 - used % 2 ^ 64)) % 2 ^ 64

/-- Add to the free bytes, a 64 bit number. -/
def bintIncrFree (free freed : Nat) : Nat := (free + freed) % 2 ^ 64

/-! ## Index pages -/

/-- Write an index page with its checksum. -/
def bintIndexWrite (faults : IndexFaults) (b : Bint) (index : Bintindex) : Bool × Bint :=
  if faults.write index.indexId then (false, b)
  else (true, { b with pages := fun id =>
    if id = index.indexId then ⟨index.bmap, bintIndexCsum index.bmap⟩ else b.pages id })

/-- Read an index page. -/
def bintIndexLoad (faults : IndexFaults) (b : Bint) (indexId : Nat) : Option Bintindex :=
  if faults.read indexId then none
  else if (b.pages indexId).csum = bintIndexCsum (b.pages indexId).bmap then
    some ⟨indexId, (b.pages indexId).bmap, []⟩
  else none

/-- Cache an index page. When there are enough, the oldest one is dropped unless units of it are
being discarded. -/
def bintIndexInsert (b : Bint) (index : Bintindex) : Bint :=
  match b.indexList with
  | [] => { b with indexCount := b.indexCount + 1, indexList := [index] }
  | oldest :: rest =>
    if b.indexCount < bintMaxIndexCount then
      { b with indexCount := b.indexCount + 1, indexList := b.indexList ++ [index] }
    else if oldest.unmapList.isEmpty then { b with indexList := rest ++ [index] }
    else { b with indexList := b.indexList ++ [index] }

/-- The index page with a number, from the cache or from disk. -/
def bintGetIndex (faults : IndexFaults) (b : Bint) (indexId : Nat) : Option (Bintindex × Bint) :=
  match b.indexList.find? fun index => index.indexId == indexId with
  | some index => some (index, b)
  | none => (bintIndexLoad faults b indexId).map fun index => (index, bintIndexInsert b index)

/-- Change a cached index page. -/
def Bint.putIndex (b : Bint) (index : Bintindex) : Bint :=
  { b with indexList := b.indexList.map fun other =>
      if other.indexId = index.indexId then index else other }

/-! ## Handing out units -/

/-- The clear bits of a page, by byte and position, in the order in which they are looked at. -/
def clearPlaces (dev : BintDev) (index : Bintindex) : List (Nat × Nat) :=
  (List.range (calcBmapEntries dev.usize index.indexId)).flatMap fun i =>
    if index.bmap i = 0xFF#8 then []
    else
      let start := getIterStart index.indexId i
      ((List.range' start (8 - start)).filter fun j => !(index.bmap i).getLsbD j).map (i, ·)

/-- The clear bit of a page that is taken: the first whose unit is not being discarded, or the first
one, which is waited for. -/
def bintFindPlace (dev : BintDev) (index : Bintindex) : Option (Nat × Nat) :=
  let clear := clearPlaces dev index
  (clear.find? fun place => !index.unmapList.contains place).orElse fun _ => clear.head?

/-- Hand out a unit of an index page. -/
def bintGetBlock (faults : IndexFaults) (b : Bint) (index : Bintindex) : Option UnitRef × Bint :=
  match bintFindPlace b.dev index with
  | none => (none, b)
  | some (i, j) =>
    let index := { index with unmapList := index.unmapList.filter fun place => place ≠ (i, j) }
    let b := b.putIndex index
    let block := calcAllocBlock b.dev index.indexId i j
    let bEnd := block + b.dev.unitBlocks
    if b.dev.bEnd < bEnd then (none, b)
    else
      let taken := { index with bmap := index.bmap.set i j }
      match bintIndexWrite faults b taken with
      | (false, b) => (none, b)
      | (true, b) =>
        (some ⟨b.dev.bid, block, bEnd⟩,
          { b.putIndex taken with free := bintDecrFree b.free bintUnitSize })

/-- Hand out a unit from an index page on; `fuel` counts the pages left. -/
def bintGetBlockFrom (faults : IndexFaults) : Nat → Nat → Bint → Option UnitRef × Bint
  | 0, _, b => (none, b)
  | fuel + 1, indexId, b =>
    match bintGetIndex faults b indexId with
    | none => (none, b)
    | some (index, b) =>
      match bintGetBlock faults b index with
      | (some unit, b) => (some unit, b)
      | (none, b) => bintGetBlockFrom faults fuel (indexId + 1) b

/-- Hand out a unit of a disk. -/
def bintGetAnyBlock (faults : IndexFaults) (b : Bint) : Option UnitRef × Bint :=
  bintGetBlockFrom faults (bintNindexes b.dev.usize) 0 b

/-! ## Taking units back -/

/-- Take back the unit that holds a sector. If its page cannot be written the bit is set again, but
the unit is counted as free and discarded all the same. -/
def bintReleaseBlock (faults : IndexFaults) (unmapFails : Bool) (b : Bint) (block : Nat) : Bint :=
  let (indexId, entry, pos) := calcIndexId b.dev block
  match bintGetIndex faults b indexId with
  | none => b
  | some (index, b) =>
    if !(index.bmap entry).getLsbD pos then b
    else
      let cleared := { index with bmap := index.bmap.clear entry pos }
      let (index, b) :=
        match bintIndexWrite faults b cleared with
        | (true, b) => (cleared, b)
        | (false, b) => (index, b)
      let unmapList :=
        if b.unmap && !unmapFails then index.unmapList ++ [(entry, pos)] else index.unmapList
      { b.putIndex { index with unmapList := unmapList } with
        free := bintIncrFree b.free bintUnitSize }

/-- A unit was discarded. -/
def bioUnmapEndBio (b : Bint) (indexId : Nat) (place : Nat × Nat) : Bint :=
  { b with indexList := b.indexList.map fun index =>
      if index.indexId = indexId then { index with unmapList := index.unmapList.erase place }
      else index }

/-! ## Adding and loading a disk -/

/-- Clear the index pages from one on; `fuel` counts the pages left. -/
def bintZeroIndexes (faults : IndexFaults) : Nat → Nat → Bint → Option Bint
  | 0, _, b => some b
  | fuel + 1, indexId, b =>
    match bintIndexWrite faults b ⟨indexId, Bytes.zero, []⟩ with
    | (false, _) => none
    | (true, b) => bintZeroIndexes faults fuel (indexId + 1) b

/-- Add a new disk; `pages` is what is found on it. -/
def bdevAddNew (faults : IndexFaults) (dev : BintDev) (unmap : Bool) (pages : Nat → RawBintindex) :
    Option Bint :=
  bintZeroIndexes faults (bintNindexes dev.usize) 0
    ⟨dev, dev.usize - bintReservedSize, [], 0, [], unmap, pages⟩

/-- Clear bits of a byte. In the last byte only those of whole units are counted. -/
def bintByteFree (dev : BintDev) (indexId i : Nat) (val : BitVec 8) : Nat :=
  if val = 0xFF#8 then 0
  else
    let start := getIterStart indexId i
    let last := indexId + 1 == bintNindexes dev.usize && i + 1 == calcBmapEntries dev.usize indexId
    ((List.range' start (8 - start)).takeWhile fun j =>
      !(last && decide (dev.bEnd < calcAllocBlock dev indexId i j + dev.unitBlocks))).countP
        fun j => !val.getLsbD j

/-- Clear bits of an index page. -/
def bintIndexFreeBlocks (dev : BintDev) (index : Bintindex) : Nat :=
  ((List.range (calcBmapEntries dev.usize index.indexId)).map fun i =>
    bintByteFree dev index.indexId i (index.bmap i)).sum

/-- Load the index pages from one on and count their clear bits; `fuel` counts the pages left. -/
def bintLoadFrom (faults : IndexFaults) : Nat → Nat → Nat → Bint → Option (Nat × Bint)
  | 0, _, free, b => some (free, b)
  | fuel + 1, indexId, free, b =>
    match bintIndexLoad faults b indexId with
    | none => none
    | some index =>
      bintLoadFrom faults fuel (indexId + 1) (free + bintIndexFreeBlocks b.dev index)
        (bintIndexInsert b index)

/-- Load a disk that was in use before. -/
def bintLoad (faults : IndexFaults) (dev : BintDev) (unmap : Bool) (pages : Nat → RawBintindex) :
    Option Bint :=
  (bintLoadFrom faults (bintNindexes dev.usize) 0 0 ⟨dev, 0, [], 0, [], unmap, pages⟩).map
    fun (free, b) => { b with free := free <<< bintUnitShift }

/-! ## The disks of a pool -/

/-- The disks of a pool with the allocation queue. -/
structure BdevPool where
  /-- The disks. -/
  bints : List Bint
  /-- Disks that may have a free unit. -/
  allocList : List Nat
  /-- The disk whose turn it is. -/
  eligible : Option Nat

/-- Is a unit of a disk handed out, as its disk says? -/
def Bint.bit (b : Bint) (unit : Nat) : Bool :=
  (b.pages (unit / unitsPerIndex)).bmap.bit (unit % unitsPerIndex)

namespace BdevPool

/-- A disk of a pool. -/
def find (pool : BdevPool) (bid : Nat) : Option Bint := pool.bints.find? fun b => b.dev.bid == bid

/-- The pool as one bitmap per disk. -/
def group (pool : BdevPool) : Bdevgroup where
  bints := pool.bints.map fun b => b.dev.bint
  bmap := fun bid unit => ((pool.find bid).map fun b => b.bit unit).getD false
  free := fun bid => ((pool.find bid).map Bint.free).getD 0
  allocList := pool.allocList
  eligible := pool.eligible

/-- Change a disk of a pool. -/
def put (pool : BdevPool) (b : Bint) : BdevPool :=
  { pool with bints := pool.bints.map fun other =>
      if other.dev.bid = b.dev.bid then b else other }

/-- Hand out a unit of the disk whose turn it is. -/
def getBlock (faults : IndexFaults) (pool : BdevPool) : Option UnitRef × BdevPool :=
  let (found, group) := bintGetEligible pool.group
  let pool := { pool with allocList := group.allocList, eligible := group.eligible }
  match found.bind pool.find with
  | none => (none, pool)
  | some b =>
    let (unit, b) := bintGetAnyBlock faults b
    (unit, pool.put b)

/-- Take back the unit that holds a sector, and queue its disk. -/
def releaseBlock (faults : IndexFaults) (unmapFails : Bool) (pool : BdevPool) (bid block : Nat) :
    BdevPool :=
  match pool.find bid with
  | none => pool
  | some b =>
    let pool := pool.put (bintReleaseBlock faults unmapFails b block)
    { pool with allocList := (bdevAllocListInsert pool.group bid).allocList }

end BdevPool

end VirtualTape
