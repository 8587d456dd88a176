import VirtualTape.Core.Bindex

/-!
# Where the scan of a bitmap looks

The places of a bitmap and the sectors of their units, for every size of a disk and of its sectors and
with the 64 bit words in which they are computed. A scan goes through the pages of a disk, through the
bytes of each page and through the bits of each byte. In the last byte it breaks off at the first unit
that ends behind the disk.
-/

namespace VirtualTape

/-- The size of a disk and of its sectors. -/
structure BintGeometry where
  /-- Binary logarithm of the sector size. -/
  sectorShift : Nat
  /-- Size in bytes. -/
  size : Nat
  /-- A unit is a whole number of sectors. -/
  shift_le : sectorShift ≤ bintUnitShift
  /-- The size of a disk that is opened is a signed 64 bit number, `i_size` or `mediasize`. -/
  size_lt : size < 2 ^ 63

/-- The number of the unit of a place. -/
def placeUnit (indexId i j : Nat) : Nat := indexId * unitsPerIndex + i * 8 + j

namespace BintGeometry

variable (geometry : BintGeometry)

/-- The size that is used: whole units. -/
def usize : Nat := geometry.size - geometry.size % bintUnitSize

/-- The sector behind the last unit. -/
def bEnd : Nat := geometry.usize >>> geometry.sectorShift

/-- Number of whole units. -/
def units : Nat := geometry.usize >>> bintUnitShift

/-- First sector of the unit of a place, in words of 64 bits. -/
def calcAllocBlock (indexId i j : Nat) : Nat :=
  ((placeUnit indexId i j % 2 ^ 64) <<< bintUnitShift % 2 ^ 64) >>> geometry.sectorShift

/-- Page, byte and position of the unit of a sector, in words of 64 bits. -/
def calcIndexId (block : Nat) : Nat × Nat × Nat :=
  let units := (block <<< geometry.sectorShift % 2 ^ 64) >>> bintUnitShift
  (units / unitsPerIndex, units % unitsPerIndex / 8, units % unitsPerIndex % 8)

/-- Does the unit of a place end behind the disk? -/
def endsBehind (indexId i j : Nat) : Bool :=
  decide (geometry.bEnd <
    (geometry.calcAllocBlock indexId i j + bintUnitSize >>> geometry.sectorShift) % 2 ^ 64)

/-- Is the byte the last one of the last page? -/
def isLastByte (indexId i : Nat) : Bool :=
  indexId + 1 == bintNindexes geometry.usize && i + 1 == calcBmapEntries geometry.usize indexId

/-- The positions of a byte that are looked at. -/
def scanByte (indexId i : Nat) : List Nat :=
  let start := getIterStart indexId i
  (List.range' start (8 - start)).takeWhile fun j =>
    !(geometry.isLastByte indexId i && geometry.endsBehind indexId i j)

/-- The units that a scan of all pages visits. -/
def scannedUnits : List Nat :=
  (List.range (bintNindexes geometry.usize)).flatMap fun indexId =>
    (List.range (calcBmapEntries geometry.usize indexId)).flatMap fun i =>
      (geometry.scanByte indexId i).map (placeUnit indexId i)

end BintGeometry

end VirtualTape
