import VirtualTape.Core.BitmapScan
import VirtualTape.Verif.FreeSpace
import Mathlib.Order.Monotone.Basic

/-!
# The places of a bitmap are its units

Places are unit numbers written with a page, a byte and a bit, and the first sector of a unit says
which unit it is, because its byte address is a 64 bit number. A scan runs through the numbers of
successive bytes in ascending order, without the units that are set aside, and where it breaks off the
units of the disk end.
-/

namespace VirtualTape

variable {indexId i j : Nat} (geometry : BintGeometry)

/-! ## Pages, bytes and bits -/

/-- A place is read back from its unit. -/
theorem placeUnit_split (indexId : Nat) (byte : i < bmapEntries) (bit : j < 8) :
    placeUnit indexId i j / unitsPerIndex = indexId ∧
      placeUnit indexId i j % unitsPerIndex / 8 = i ∧
      placeUnit indexId i j % unitsPerIndex % 8 = j := by
  obtain ⟨isPage, isRest⟩ := @unit_div indexId i j byte bit
  rw [placeUnit, isRest]
  exact ⟨isPage, by omega, by omega⟩

namespace BintGeometry

/-- The size that is used is the size of the units. -/
theorem usize_eq : geometry.usize = geometry.units * 2 ^ 26 := by
  rw [units, usize, Nat.shiftRight_eq_div_pow, show bintUnitSize = 2 ^ 26 from rfl,
    show bintUnitShift = 26 from rfl]
  omega

/-- There are fewer than 2^37 units. -/
theorem units_lt : geometry.units < 2 ^ 37 := by
  have isSize := geometry.usize_eq
  have le : geometry.usize ≤ geometry.size := Nat.sub_le _ _
  have less := geometry.size_lt
  omega

/-- A page has bits of the disk if and only if it is one of its pages. -/
theorem lt_bintNindexes :
    indexId < bintNindexes geometry.usize ↔ indexId * unitsPerIndex < geometry.units := by
  rw [bintNindexes, ← units, unitsPerIndex_eq]
  split <;> omega

/-- Bytes with bits of the disk, as a bound on the units of a page. -/
theorem lt_calcBmapEntries :
    i < calcBmapEntries geometry.usize indexId ↔
      i < bmapEntries ∧ indexId * unitsPerIndex + i * 8 < geometry.units := by
  have bytes : bmapEntries = 4088 := rfl
  rw [calcBmapEntries, ← units, unitsPerIndex_eq, bytes]
  split <;> omega

/-- A unit is a whole number of sectors. -/
theorem unitSectors : 2 ^ 26 = 2 ^ (26 - geometry.sectorShift) * 2 ^ geometry.sectorShift := by
  have le : geometry.sectorShift ≤ 26 := geometry.shift_le
  rw [← Nat.pow_add, Nat.sub_add_cancel le]

/-- The first sector of a unit that has a 64 bit byte address. -/
theorem calcAllocBlock_eq (fits : placeUnit indexId i j < 2 ^ 38) :
    geometry.calcAllocBlock indexId i j =
      placeUnit indexId i j * 2 ^ (26 - geometry.sectorShift) := by
  have isAddress : (placeUnit indexId i j % 2 ^ 64) <<< bintUnitShift % 2 ^ 64 =
      placeUnit indexId i j * 2 ^ 26 := by
    rw [Nat.shiftLeft_eq, show bintUnitShift = 26 from rfl]
    omega
  rw [calcAllocBlock, isAddress, Nat.shiftRight_eq_div_pow, geometry.unitSectors, ← Nat.mul_assoc,
    Nat.mul_div_cancel _ (Nat.two_pow_pos _)]

/-- A place is found from the first sector of its unit. -/
theorem calcIndexId_calcAllocBlock (byte : i < bmapEntries) (bit : j < 8)
    (fits : placeUnit indexId i j < 2 ^ 38) :
    geometry.calcIndexId (geometry.calcAllocBlock indexId i j) = (indexId, i, j) := by
  obtain ⟨isPage, isByte, isBit⟩ := placeUnit_split indexId byte bit
  have isUnit : (geometry.calcAllocBlock indexId i j <<< geometry.sectorShift % 2 ^ 64) >>>
      bintUnitShift = placeUnit indexId i j := by
    rw [geometry.calcAllocBlock_eq fits, Nat.shiftLeft_eq, Nat.mul_assoc, ← geometry.unitSectors,
      Nat.shiftRight_eq_div_pow, show bintUnitShift = 26 from rfl]
    omega
  rw [calcIndexId]
  simp only [isUnit, isPage, isByte, isBit]

/-- A unit ends behind the disk if and only if it is not one of the disk. -/
theorem endsBehind_iff (fits : placeUnit indexId i j + 1 < 2 ^ 38) :
    geometry.endsBehind indexId i j = true ↔ geometry.units ≤ placeUnit indexId i j := by
  have isShift := geometry.unitSectors
  have isBlock := geometry.calcAllocBlock_eq (show placeUnit indexId i j < 2 ^ 38 by omega)
  have positive : 0 < 2 ^ (26 - geometry.sectorShift) := Nat.two_pow_pos _
  have small : 2 ^ (26 - geometry.sectorShift) ≤ 2 ^ 26 :=
    Nat.pow_le_pow_right (by decide) (Nat.sub_le _ _)
  generalize 2 ^ (26 - geometry.sectorShift) = sectors at isShift isBlock positive small
  have isUnit : bintUnitSize >>> geometry.sectorShift = sectors := by
    rw [Nat.shiftRight_eq_div_pow, show bintUnitSize = 2 ^ 26 from rfl, isShift,
      Nat.mul_div_cancel _ (Nat.two_pow_pos _)]
  have isEnd : geometry.bEnd = geometry.units * sectors := by
    rw [bEnd, usize_eq, Nat.shiftRight_eq_div_pow, isShift, ← Nat.mul_assoc,
      Nat.mul_div_cancel _ (Nat.two_pow_pos _)]
  have noWrap : (placeUnit indexId i j + 1) * sectors < 2 ^ 64 :=
    calc (placeUnit indexId i j + 1) * sectors ≤ (placeUnit indexId i j + 1) * 2 ^ 26 :=
          Nat.mul_le_mul_left _ small
      _ < 2 ^ 38 * 2 ^ 26 := Nat.mul_lt_mul_of_pos_right fits (by decide)
      _ = 2 ^ 64 := by decide
  rw [endsBehind, decide_eq_true_iff, isBlock, isUnit, isEnd, ← Nat.succ_mul,
    Nat.mod_eq_of_lt noWrap, Nat.mul_lt_mul_right positive, Nat.lt_succ_iff]

end BintGeometry

/-! ## The order of a scan -/

/-- The units from one on up to another, without those that are set aside or behind the disk. -/
def unitsBetween (units lo hi : Nat) : List Nat :=
  List.range' (max bintReservedSegments lo) (min hi units - max bintReservedSegments lo)

/-- Units between successive bounds. -/
theorem unitsBetween_append (units : Nat) {lo mid hi : Nat} (lower : lo ≤ mid) (upper : mid ≤ hi) :
    unitsBetween units lo mid ++ unitsBetween units mid hi = unitsBetween units lo hi := by
  rw [unitsBetween, unitsBetween, unitsBetween]
  generalize bintReservedSegments = reserved
  by_cases beyond : units ≤ mid
  · have none : min hi units - max reserved mid = 0 := by omega
    have same : min mid units = min hi units := by omega
    rw [none, same, List.range'_zero, List.append_nil]
  · by_cases aside : mid ≤ reserved
    · have none : min mid units - max reserved lo = 0 := by omega
      have same : max reserved mid = max reserved lo := by omega
      rw [none, same, List.range'_zero, List.nil_append]
    · have next : max reserved mid = max reserved lo + (min mid units - max reserved lo) := by omega
      rw [next, List.range'_append_1]
      congr 1
      omega

/-- Units between bounds that a function gives. -/
theorem flatMap_unitsBetween (units : Nat) {bound : Nat → Nat}
    (ascending : ∀ n, bound n ≤ bound (n + 1)) (count : Nat) :
    ((List.range count).flatMap fun n => unitsBetween units (bound n) (bound (n + 1))) =
      unitsBetween units (bound 0) (bound count) := by
  induction count with
  | zero =>
    have none : min (bound 0) units - max bintReservedSegments (bound 0) = 0 := by omega
    rw [unitsBetween, none]
    rfl
  | succ count ih =>
    rw [List.range_succ, List.flatMap_append, ih, List.flatMap_singleton]
    exact unitsBetween_append units (monotone_nat_of_le_succ ascending (Nat.zero_le count))
      (ascending count)

namespace BintGeometry

/-- The scan of a byte visits its units that are not set aside and not behind the disk. -/
theorem scanByte_units (number : indexId < bintNindexes geometry.usize)
    (inside : i < calcBmapEntries geometry.usize indexId) :
    (geometry.scanByte indexId i).map (placeUnit indexId i) =
      unitsBetween geometry.units (indexId * unitsPerIndex + i * 8)
        (indexId * unitsPerIndex + (i + 1) * 8) := by
  have reserved : bintReservedSegments = 4 := rfl
  have bytes : bmapEntries = 4088 := rfl
  have perIndex := unitsPerIndex_eq
  have few := geometry.units_lt
  obtain ⟨fits, below⟩ := geometry.lt_calcBmapEntries.1 inside
  have startLe : getIterStart indexId i ≤ 8 := by
    unfold getIterStart
    split <;> omega
  have lowest : max bintReservedSegments (indexId * unitsPerIndex + i * 8) =
      indexId * unitsPerIndex + i * 8 + getIterStart indexId i := by
    unfold getIterStart
    rw [perIndex]
    split <;> omega
  have visited : geometry.scanByte indexId i = List.range' (getIterStart indexId i)
      (min (8 - getIterStart indexId i)
        (geometry.units - (indexId * unitsPerIndex + i * 8) - getIterStart indexId i)) := by
    rw [scanByte]
    cases last : geometry.isLastByte indexId i with
    | true =>
      rw [← takeWhile_range']
      refine takeWhile_congr fun place mem => ?_
      rw [List.mem_range'_1] at mem
      have behind := geometry.endsBehind_iff (show placeUnit indexId i place + 1 < 2 ^ 38 by
        rw [placeUnit]
        omega)
      rw [Bool.true_and, Bool.eq_iff_iff, Bool.not_eq_true', ← Bool.not_eq_true, behind,
        decide_eq_true_iff, placeUnit]
      omega
    | false =>
      have more : indexId * unitsPerIndex + i * 8 + 8 ≤ geometry.units := by
        rw [isLastByte, Bool.and_eq_false_iff, beq_eq_false_iff_ne, beq_eq_false_iff_ne] at last
        rcases last with other | other
        · have next : indexId + 1 < bintNindexes geometry.usize := by omega
          rw [lt_bintNindexes, Nat.succ_mul] at next
          omega
        · have next : i + 1 < calcBmapEntries geometry.usize indexId := by omega
          have rest := (geometry.lt_calcBmapEntries.1 next).2
          omega
      rw [Nat.min_eq_left (by omega), List.takeWhile_eq_self_iff.2 (by simp)]
  have shifted (count : Nat) : (List.range' (getIterStart indexId i) count).map (placeUnit indexId i) =
      List.range' (indexId * unitsPerIndex + i * 8 + getIterStart indexId i) count :=
    List.map_add_range' ..
  rw [visited, shifted, unitsBetween, lowest]
  congr 1
  omega

/-- The scan of a page visits its units that are not set aside and not behind the disk. -/
theorem scanPage_units (number : indexId < bintNindexes geometry.usize) :
    ((List.range (calcBmapEntries geometry.usize indexId)).flatMap fun i =>
        (geometry.scanByte indexId i).map (placeUnit indexId i)) =
      unitsBetween geometry.units (indexId * unitsPerIndex) ((indexId + 1) * unitsPerIndex) := by
  have bytes : ((List.range (calcBmapEntries geometry.usize indexId)).flatMap fun i =>
        (geometry.scanByte indexId i).map (placeUnit indexId i)) =
      (List.range (calcBmapEntries geometry.usize indexId)).flatMap fun i =>
        unitsBetween geometry.units (indexId * unitsPerIndex + i * 8)
          (indexId * unitsPerIndex + (i + 1) * 8) :=
    List.flatMap_congr fun i mem => geometry.scanByte_units number (List.mem_range.1 mem)
  have whole : min (indexId * unitsPerIndex + calcBmapEntries geometry.usize indexId * 8)
      geometry.units = min ((indexId + 1) * unitsPerIndex) geometry.units := by
    rw [calcBmapEntries, ← units, unitsPerIndex_eq]
    split <;> omega
  rw [bytes, flatMap_unitsBetween geometry.units (fun i => by omega), Nat.zero_mul, Nat.add_zero,
    unitsBetween, unitsBetween, whole]

/-- The scan visits the units of the disk that are not set aside, in order. -/
theorem scannedUnits_eq : geometry.scannedUnits =
    List.range' bintReservedSegments (geometry.units - bintReservedSegments) := by
  have pages : geometry.scannedUnits =
      (List.range (bintNindexes geometry.usize)).flatMap fun indexId =>
        unitsBetween geometry.units (indexId * unitsPerIndex) ((indexId + 1) * unitsPerIndex) :=
    List.flatMap_congr fun indexId mem => geometry.scanPage_units (List.mem_range.1 mem)
  have all : geometry.units ≤ bintNindexes geometry.usize * unitsPerIndex := by
    by_contra more
    exact absurd (geometry.lt_bintNindexes.2 (Nat.lt_of_not_le more)) (Nat.lt_irrefl _)
  rw [pages, flatMap_unitsBetween geometry.units (fun indexId =>
      Nat.mul_le_mul_right _ (Nat.le_succ indexId)), unitsBetween,
    Nat.zero_mul, Nat.max_eq_left (Nat.zero_le _), Nat.min_eq_right all]

/-- For every size of a disk and of its sectors: a place of one of the pages is found from the first
sector of its unit, and a scan visits the units of the disk that are not set aside, each of them
once. -/
theorem calcIndexId_scan :
    (∀ indexId i j, indexId < bintNindexes geometry.usize → i < bmapEntries → j < 8 →
      geometry.calcIndexId (geometry.calcAllocBlock indexId i j) = (indexId, i, j)) ∧
    geometry.scannedUnits =
      List.range' bintReservedSegments (geometry.units - bintReservedSegments) := by
  refine ⟨fun indexId i j number byte bit => ?_, geometry.scannedUnits_eq⟩
  have bytes : bmapEntries = 4088 := rfl
  rw [lt_bintNindexes] at number
  have near : placeUnit indexId i j < geometry.units + 32704 := by
    rw [placeUnit]
    omega
  refine geometry.calcIndexId_calcAllocBlock byte bit (near.trans ?_)
  have few := geometry.units_lt
  omega

/-- A disk of 4 GB with sectors of 512 bytes. -/
def fourGigabytes : BintGeometry := ⟨9, 2 ^ 32, by decide, by decide⟩

/-- On a disk of 4 GB a place is found again, and a scan visits the units 4 to 63. -/
theorem calcIndexId_scan_four :
    fourGigabytes.calcIndexId (fourGigabytes.calcAllocBlock 0 7 7) = (0, 7, 7) ∧
      fourGigabytes.scannedUnits = List.range' 4 60 := by
  obtain ⟨places, visits⟩ := fourGigabytes.calcIndexId_scan
  exact ⟨places 0 7 7 (by decide) (by decide) (by decide), visits⟩

end BintGeometry

end VirtualTape
