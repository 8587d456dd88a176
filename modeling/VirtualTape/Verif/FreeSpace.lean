import Mathlib.Algebra.BigOperators.Group.List.Basic
import Mathlib.Data.List.TakeWhile
import VirtualTape.Core.Bindex
import VirtualTape.Lib.Run

/-!
# The count of free bytes

The bits of a disk are those of its index pages, and every cached page is a copy of the page on disk,
whatever fails. Handing out a unit sets one clear bit and takes its size from the free bytes; taking
it back clears the bit and adds its size. Adding a disk and loading one count the clear bits from the
fifth unit to the last whole one. So the free bytes are exact as long as the page of a unit that is
taken back can be written: if it cannot, the bit stays set and the unit is counted as free.
-/

namespace VirtualTape

variable {dev : BintDev} {b b' : Bint} {index : Bintindex} {faults : IndexFaults}
  {indexId entry pos unit i j : Nat}

/-! ## Units and pages -/

/-- Units of an index page. -/
theorem unitsPerIndex_eq : unitsPerIndex = 32704 := rfl

namespace BintDev

variable (dev)

/-- The size that is used is a whole number of units. -/
theorem usize_eq : dev.usize = dev.units * 2 ^ 26 := by
  have whole : dev.usize % 2 ^ 26 = 0 := by
    simp only [usize, bintUnitSize, bintUnitShift]
    omega
  rw [units, Nat.shiftRight_eq_div_pow, bintUnitShift]
  omega

/-- A disk has at least 64 units. -/
theorem units_ge : 64 ≤ dev.units := by
  have large := dev.size_ge
  have whole := dev.usize_eq
  simp only [usize, bintUnitSize, bintUnitShift] at whole
  omega

/-- All bytes of a disk are counted in 64 bits. -/
theorem units_lt : dev.units * 2 ^ 26 < 2 ^ 64 := by
  have small := dev.size_lt
  rw [← dev.usize_eq, usize]
  omega

/-- Sectors of a unit. -/
theorem unitBlocks_eq : dev.unitBlocks = 2 ^ (26 - dev.sectorShift) := by
  have small := dev.shift_le
  rw [unitBlocks, bintUnitSize, bintUnitShift, Nat.shiftRight_eq_div_pow,
    Nat.pow_div (by omega) (by decide)]

/-- The first sector of a number of units. -/
theorem shift_units (units : Nat) :
    (units <<< bintUnitShift) >>> dev.sectorShift = units * 2 ^ (26 - dev.sectorShift) := by
  have small := dev.shift_le
  rw [Nat.shiftLeft_eq, Nat.shiftRight_eq_div_pow, bintUnitShift,
    Nat.mul_div_assoc _ (Nat.pow_dvd_pow 2 (by omega)), Nat.pow_div (by omega) (by decide)]

/-- The sector behind the last unit. -/
theorem bEnd_eq : dev.bEnd = dev.units * 2 ^ (26 - dev.sectorShift) := by
  rw [bEnd, usize_eq, ← dev.shift_units, Nat.shiftLeft_eq, bintUnitShift]

/-- A unit lies on the disk if and only if it does not end behind the last one. -/
theorem bEnd_lt_iff :
    dev.bEnd < calcAllocBlock dev indexId i j + dev.unitBlocks ↔
      dev.units ≤ indexId * unitsPerIndex + i * 8 + j := by
  have positive : 0 < 2 ^ (26 - dev.sectorShift) := Nat.two_pow_pos _
  rw [calcAllocBlock, dev.shift_units, dev.unitBlocks_eq, dev.bEnd_eq, ← Nat.succ_mul,
    Nat.mul_lt_mul_right positive, Nat.lt_succ_iff]

end BintDev

/-- A page has bits of the disk if and only if it is one of its pages. -/
theorem lt_bintNindexes : indexId < bintNindexes dev.usize ↔ indexId * unitsPerIndex < dev.units := by
  rw [bintNindexes, ← BintDev.units, unitsPerIndex_eq]
  split <;> omega

/-- Bytes with bits of the disk, as a bound on the units of a page. -/
theorem lt_calcBmapEntries :
    i < calcBmapEntries dev.usize indexId ↔
      i < bmapEntries ∧ indexId * unitsPerIndex + i * 8 < dev.units := by
  have bytes : bmapEntries = 4088 := rfl
  rw [calcBmapEntries, ← BintDev.units, unitsPerIndex_eq, bytes]
  split <;> omega

/-- The page, byte and position of a unit. -/
theorem unit_div (inside : i < bmapEntries) (small : j < 8) :
    (indexId * unitsPerIndex + i * 8 + j) / unitsPerIndex = indexId ∧
      (indexId * unitsPerIndex + i * 8 + j) % unitsPerIndex = i * 8 + j := by
  have bytes : bmapEntries = 4088 := rfl
  rw [unitsPerIndex_eq]
  omega

/-- Every unit has a place. -/
theorem exists_place (page : unit / unitsPerIndex = indexId) :
    ∃ i < bmapEntries, ∃ j < 8, indexId * unitsPerIndex + i * 8 + j = unit := by
  have bytes : bmapEntries = 4088 := rfl
  refine ⟨unit % unitsPerIndex / 8, ?_, unit % unitsPerIndex % 8, Nat.mod_lt _ (by decide), ?_⟩
  · rw [unitsPerIndex_eq]
    omega
  · rw [← page, unitsPerIndex_eq]
    omega

namespace Bint

/-- The bit of a place. -/
theorem bit_place (inside : i < bmapEntries) (small : j < 8) :
    b.bit (indexId * unitsPerIndex + i * 8 + j) = ((b.pages indexId).bmap i).getLsbD j := by
  obtain ⟨page, rest⟩ := unit_div inside small
  rw [bit, page, rest, Bytes.bit_mul_add _ _ _ small]

/-- Every cached page is a copy of the page on disk, and every page on disk can be read. -/
structure Synced (b : Bint) : Prop where
  /-- Cached pages are copies of pages of the disk. -/
  cached : ∀ index ∈ b.indexList, index.indexId < bintNindexes b.dev.usize ∧
    index.bmap = (b.pages index.indexId).bmap
  /-- Checksums hold. -/
  valid : ∀ indexId < bintNindexes b.dev.usize,
    (b.pages indexId).csum = bintIndexCsum (b.pages indexId).bmap

/-- The number of units that are not handed out. -/
def clearUnits (b : Bint) : Nat := countClear b.bit bintReservedSegments b.dev.units

/-- Nothing that is counted changed. -/
structure Same (b b' : Bint) : Prop where
  /-- The disk. -/
  dev : b'.dev = b.dev
  /-- The free bytes. -/
  free : b'.free = b.free
  /-- The pages on disk. -/
  pages : b'.pages = b.pages
  /-- Pages in memory are still copies. -/
  synced : b'.Synced

/-- The bits are the same. -/
theorem Same.bit_eq (same : Same b b') : b'.bit = b.bit := by
  funext unit
  rw [bit, bit, same.pages]

/-- Nothing changed twice. -/
theorem Same.trans {b'' : Bint} (first : Same b b') (second : Same b' b'') : Same b b'' :=
  ⟨second.dev.trans first.dev, second.free.trans first.free, second.pages.trans first.pages,
    second.synced⟩

end Bint

/-! ## Index pages in memory -/

/-- Caching a page of the disk. -/
theorem Bint.Synced.insert (synced : b.Synced) (inside : index.indexId < bintNindexes b.dev.usize)
    (copy : index.bmap = (b.pages index.indexId).bmap) : Bint.Same b (bintIndexInsert b index) := by
  have added (indexes : List Bintindex) (sub : ∀ other ∈ indexes, other ∈ b.indexList) :
      ∀ other ∈ indexes ++ [index], other.indexId < bintNindexes b.dev.usize ∧
        other.bmap = (b.pages other.indexId).bmap := by
    intro other mem
    rcases List.mem_append.1 mem with old | new
    · exact synced.cached other (sub other old)
    · obtain rfl := List.mem_singleton.1 new
      exact ⟨inside, copy⟩
  unfold bintIndexInsert
  split
  · exact ⟨rfl, rfl, rfl, added [] (by simp), synced.valid⟩
  · rename_i oldest rest isList
    split
    · exact ⟨rfl, rfl, rfl, added _ fun _ mem => mem, synced.valid⟩
    · split
      · refine ⟨rfl, rfl, rfl, added rest fun other mem => ?_, synced.valid⟩
        rw [isList]
        exact List.mem_cons_of_mem _ mem
      · exact ⟨rfl, rfl, rfl, added _ fun _ mem => mem, synced.valid⟩

/-- A page that is found is a copy of the page on disk, and is cached. -/
theorem Bint.Synced.getIndex (synced : b.Synced) (inside : indexId < bintNindexes b.dev.usize)
    (found : bintGetIndex faults b indexId = some (index, b')) :
    Bint.Same b b' ∧ index.indexId = indexId ∧ index.bmap = (b.pages indexId).bmap := by
  unfold bintGetIndex at found
  split at found
  · rename_i other isOther
    simp only [Option.some.injEq, Prod.mk.injEq] at found
    obtain ⟨rfl, rfl⟩ := found
    have number : other.indexId = indexId := by simpa using List.find?_some isOther
    have copy := (synced.cached other (List.mem_of_find?_eq_some isOther)).2
    exact ⟨⟨rfl, rfl, rfl, synced⟩, number, number ▸ copy⟩
  · rw [Option.map_eq_some_iff] at found
    obtain ⟨other, loaded, same⟩ := found
    simp only [Prod.mk.injEq] at same
    obtain ⟨rfl, rfl⟩ := same
    unfold bintIndexLoad at loaded
    split at loaded
    · exact absurd loaded (by simp)
    · split at loaded
      · obtain rfl := Option.some.inj loaded
        exact ⟨synced.insert inside rfl, rfl, rfl⟩
      · exact absurd loaded (by simp)

/-- Changing what is not on disk of a cached page. -/
theorem Bint.Synced.putIndex (synced : b.Synced) (inside : indexId < bintNindexes b.dev.usize)
    (unmapList : List (Nat × Nat)) :
    Bint.Same b (b.putIndex ⟨indexId, (b.pages indexId).bmap, unmapList⟩) := by
  refine ⟨rfl, rfl, rfl, fun other mem => ?_, synced.valid⟩
  obtain ⟨old, isOld, rfl⟩ := List.mem_map.1 mem
  split
  · exact ⟨inside, rfl⟩
  · exact synced.cached old isOld

/-- Changing a cached page and writing it. -/
theorem Bint.Synced.write (synced : b.Synced) (inside : indexId < bintNindexes b.dev.usize)
    {bmap : Bytes} {unmapList : List (Nat × Nat)} (unmapList' : List (Nat × Nat))
    (done : bintIndexWrite faults b ⟨indexId, bmap, unmapList⟩ = (true, b')) :
    b'.dev = b.dev ∧ b'.free = b.free ∧ (b'.putIndex ⟨indexId, bmap, unmapList'⟩).Synced ∧
      (b'.pages indexId).bmap = bmap ∧
      ∀ other, other ≠ indexId → b'.pages other = b.pages other := by
  unfold bintIndexWrite at done
  split at done
  · exact absurd done (by simp)
  · simp only [Prod.mk.injEq, true_and] at done
    subst done
    refine ⟨rfl, rfl, ⟨fun other mem => ?_, fun other less => ?_⟩, by simp, fun other ne => ?_⟩
    · obtain ⟨old, isOld, rfl⟩ := List.mem_map.1 mem
      simp only [Bint.putIndex]
      split
      · exact ⟨inside, by simp⟩
      · exact synced.cached old isOld
    · simp only [Bint.putIndex]
      split
      · rfl
      · exact synced.valid other less
    · simp only [if_neg ne]

/-! ## Handing out units -/

/-- The bit of a unit changed and nothing else on disk. -/
structure Bint.BitChanged (b b' : Bint) (unit : Nat) (value : Bool) : Prop where
  /-- The disk. -/
  dev : b'.dev = b.dev
  /-- Pages in memory are still copies. -/
  synced : b'.Synced
  /-- The bits. -/
  bit : ∀ other, b'.bit other = if other = unit then value else b.bit other

/-- The free bytes can be changed as well. -/
theorem Bint.BitChanged.setFree {value : Bool} (changed : Bint.BitChanged b b' unit value)
    (free : Nat) : Bint.BitChanged b { b' with free := free } unit value where
  dev := changed.dev
  synced := ⟨changed.synced.cached, changed.synced.valid⟩
  bit := changed.bit

/-- Nothing changed, then a bit did. -/
theorem Bint.Same.changed {b'' : Bint} {value : Bool} (same : Bint.Same b b')
    (changed : Bint.BitChanged b' b'' unit value) : Bint.BitChanged b b'' unit value where
  dev := changed.dev.trans same.dev
  synced := changed.synced
  bit other := by rw [changed.bit, same.bit_eq]

/-- Writing a page with one bit changed. -/
theorem Bint.Synced.writeBit (synced : b.Synced) (number : indexId < bintNindexes b.dev.usize)
    (inside : i < bmapEntries) (small : j < 8) {bmap : Bytes} {value : Bool}
    {unmapList : List (Nat × Nat)} (unmapList' : List (Nat × Nat))
    (change : ∀ n, bmap.bit n = if n = i * 8 + j then value else (b.pages indexId).bmap.bit n)
    (done : bintIndexWrite faults b ⟨indexId, bmap, unmapList⟩ = (true, b')) :
    b'.free = b.free ∧ Bint.BitChanged b (b'.putIndex ⟨indexId, bmap, unmapList'⟩)
      (indexId * unitsPerIndex + i * 8 + j) value := by
  obtain ⟨dev, free, synced', page, others⟩ := synced.write number unmapList' done
  refine ⟨free, dev, synced', fun other => ?_⟩
  have bytes : bmapEntries = 4088 := rfl
  have same : other = indexId * unitsPerIndex + i * 8 + j ↔
      other / unitsPerIndex = indexId ∧ other % unitsPerIndex = i * 8 + j := by
    rw [unitsPerIndex_eq]
    omega
  simp only [Bint.bit, Bint.putIndex]
  by_cases here : other / unitsPerIndex = indexId
  · rw [here, page, change]
    simp only [same, here, true_and]
  · rw [others _ here, if_neg fun eq => here (same.1 eq).1]

/-- The places that are looked at: clear bits of bytes that have units of the disk. -/
theorem mem_clearPlaces : (i, j) ∈ clearPlaces dev index ↔
    (i < bmapEntries ∧ index.indexId * unitsPerIndex + i * 8 < dev.units) ∧
      (getIterStart index.indexId i ≤ j ∧ j < 8) ∧ (index.bmap i).getLsbD j = false := by
  simp only [clearPlaces, List.mem_flatMap, List.mem_range, lt_calcBmapEntries]
  constructor
  · rintro ⟨byte, inside, mem⟩
    split at mem
    · exact absurd mem List.not_mem_nil
    · obtain ⟨place, isPlace, same⟩ := List.mem_map.1 mem
      cases same
      rw [List.mem_filter, List.mem_range'_1] at isPlace
      obtain ⟨⟨start, stop⟩, clear⟩ := isPlace
      exact ⟨inside, ⟨start, by omega⟩, by simpa using clear⟩
  · rintro ⟨inside, ⟨start, small⟩, clear⟩
    refine ⟨i, inside, ?_⟩
    have some : index.bmap i ≠ 0xFF#8 := by
      intro all
      rw [all] at clear
      exact absurd clear (by revert small; clear * -; revert j; decide)
    rw [if_neg some]
    refine List.mem_map.2 ⟨j, List.mem_filter.2 ⟨List.mem_range'_1.2 ⟨start, by omega⟩, ?_⟩, rfl⟩
    simpa using clear

/-- The place that is taken is one that is looked at. -/
theorem bintFindPlace_mem {place : Nat × Nat} (found : bintFindPlace dev index = some place) :
    place ∈ clearPlaces dev index := by
  unfold bintFindPlace at found
  simp only at found
  cases first : (clearPlaces dev index).find? fun place => !index.unmapList.contains place with
  | none =>
    rw [first] at found
    exact List.mem_of_head? found
  | some other =>
    rw [first] at found
    obtain rfl := Option.some.inj found
    exact List.mem_of_find?_eq_some first

/-- The first four units are passed over. -/
theorem getIterStart_le (start : getIterStart indexId i ≤ j) :
    bintReservedSegments ≤ indexId * unitsPerIndex + i * 8 + j := by
  have reserved : bintReservedSegments = 4 := rfl
  unfold getIterStart at start
  rw [unitsPerIndex_eq]
  split at start <;> omega

/-- A unit was handed out. -/
structure Bint.Took (b b' : Bint) (unit : Nat) : Prop where
  /-- It is not one of the first. -/
  low : bintReservedSegments ≤ unit
  /-- It is on the disk. -/
  high : unit < b.dev.units
  /-- It was not handed out. -/
  clear : b.bit unit = false
  /-- Its bit is set. -/
  changed : Bint.BitChanged b b' unit true
  /-- It is no longer counted as free. -/
  free : b'.free = bintDecrFree b.free bintUnitSize

/-- A unit as it is handed out. -/
def BintDev.unitRef (dev : BintDev) (unit : Nat) : UnitRef :=
  ⟨dev.bid, (unit <<< bintUnitShift) >>> dev.sectorShift,
    (unit <<< bintUnitShift) >>> dev.sectorShift + dev.unitBlocks⟩

/-- Handing out a unit of an index page. -/
theorem Bint.Synced.getBlock (synced : b.Synced) (number : index.indexId < bintNindexes b.dev.usize)
    (copy : index.bmap = (b.pages index.indexId).bmap) {found : Option UnitRef}
    (done : bintGetBlock faults b index = (found, b')) :
    found = none ∧ Bint.Same b b' ∨
      ∃ unit, found = some (b.dev.unitRef unit) ∧ Bint.Took b b' unit := by
  obtain ⟨indexId, bmap, unmapList⟩ := index
  obtain rfl : bmap = (b.pages indexId).bmap := copy
  unfold bintGetBlock at done
  split at done
  · simp only [Prod.mk.injEq] at done
    obtain ⟨rfl, rfl⟩ := done
    exact Or.inl ⟨rfl, rfl, rfl, rfl, synced⟩
  · rename_i i j isPlace
    obtain ⟨⟨inside, -⟩, ⟨start, small⟩, clear⟩ := mem_clearPlaces.1 (bintFindPlace_mem isPlace)
    have waited := synced.putIndex number (unmapList.filter fun place => decide (place ≠ (i, j)))
    simp only at done
    split at done
    · simp only [Prod.mk.injEq] at done
      obtain ⟨rfl, rfl⟩ := done
      exact Or.inl ⟨rfl, waited⟩
    · rename_i fits
      have high : indexId * unitsPerIndex + i * 8 + j < b.dev.units :=
        Nat.lt_of_not_le (mt (BintDev.bEnd_lt_iff b.dev).2 fits)
      have old : b.bit (indexId * unitsPerIndex + i * 8 + j) = false := by
        rw [Bint.bit_place inside small]
        exact clear
      split at done
      · rename_i unwritten
        simp only [Prod.mk.injEq] at done
        obtain ⟨rfl, rfl⟩ := done
        unfold bintIndexWrite at unwritten
        split at unwritten
        · simp only [Prod.mk.injEq, true_and] at unwritten
          subst unwritten
          exact Or.inl ⟨rfl, waited⟩
        · exact absurd unwritten (by simp)
      · rename_i written isWritten
        simp only [Prod.mk.injEq] at done
        obtain ⟨rfl, rfl⟩ := done
        obtain ⟨free, changed⟩ := waited.synced.writeBit number inside small _
          (fun n => Bytes.bit_set _ i j n small) isWritten
        have isDev : written.dev = b.dev := changed.dev
        refine Or.inr ⟨indexId * unitsPerIndex + i * 8 + j, ?_, getIterStart_le start, high, old, ?_,
          ?_⟩
        · rw [isDev]
          rfl
        · exact (waited.changed changed).setFree _
        · rw [free]
          rfl

/-- Nothing changed, then a unit was handed out. -/
theorem Bint.Same.took {b'' : Bint} (same : Bint.Same b b') (took : Bint.Took b' b'' unit) :
    Bint.Took b b'' unit where
  low := took.low
  high := same.dev ▸ took.high
  clear := same.bit_eq ▸ took.clear
  changed := same.changed took.changed
  free := same.free ▸ took.free

/-- Handing out a unit, from an index page on. -/
theorem Bint.Synced.getBlockFrom {fuel : Nat} {found : Option UnitRef} (synced : b.Synced)
    (number : indexId + fuel ≤ bintNindexes b.dev.usize)
    (done : bintGetBlockFrom faults fuel indexId b = (found, b')) :
    found = none ∧ Bint.Same b b' ∨
      ∃ unit, found = some (b.dev.unitRef unit) ∧ Bint.Took b b' unit := by
  induction fuel generalizing b indexId with
  | zero =>
    simp only [bintGetBlockFrom, Prod.mk.injEq] at done
    obtain ⟨rfl, rfl⟩ := done
    exact Or.inl ⟨rfl, rfl, rfl, rfl, synced⟩
  | succ fuel ih =>
    rw [bintGetBlockFrom] at done
    split at done
    · simp only [Prod.mk.injEq] at done
      obtain ⟨rfl, rfl⟩ := done
      exact Or.inl ⟨rfl, rfl, rfl, rfl, synced⟩
    · rename_i index loaded got
      obtain ⟨same, isNumber, copy⟩ := synced.getIndex (by omega) got
      rw [← isNumber, ← same.pages] at copy
      have less : index.indexId < bintNindexes loaded.dev.usize := by
        rw [isNumber, same.dev]
        omega
      split at done
      · rename_i ref taken gotBlock
        simp only [Prod.mk.injEq] at done
        obtain ⟨rfl, rfl⟩ := done
        rcases same.synced.getBlock less copy gotBlock with ⟨none, -⟩ | ⟨unit, isRef, took⟩
        · exact absurd none (by simp)
        · exact Or.inr ⟨unit, same.dev ▸ isRef, same.took took⟩
      · rename_i kept gotNone
        rcases same.synced.getBlock less copy gotNone with ⟨-, kept⟩ | ⟨unit, some, -⟩
        · have all := same.trans kept
          rcases ih kept.synced (by rw [all.dev]; omega) done with ⟨none, rest⟩ | ⟨unit, isRef, took⟩
          · exact Or.inl ⟨none, all.trans rest⟩
          · exact Or.inr ⟨unit, all.dev ▸ isRef, all.took took⟩
        · exact absurd some (by simp)

/-- Handing out a unit of a disk. -/
theorem Bint.Synced.getAnyBlock {found : Option UnitRef} (synced : b.Synced)
    (done : bintGetAnyBlock faults b = (found, b')) :
    found = none ∧ Bint.Same b b' ∨
      ∃ unit, found = some (b.dev.unitRef unit) ∧ Bint.Took b b' unit :=
  synced.getBlockFrom (by omega) done

/-! ## Taking units back -/

/-- A unit is counted as free again. -/
structure Bint.Freed (b b' : Bint) (unit : Nat) : Prop where
  /-- Its bit is clear. -/
  changed : Bint.BitChanged b b' unit false
  /-- It is counted. -/
  free : b'.free = bintIncrFree b.free bintUnitSize

/-- A unit is counted as free although it is not. -/
structure Bint.Miscounted (b b' : Bint) : Prop where
  /-- The disk. -/
  dev : b'.dev = b.dev
  /-- The pages on disk. -/
  pages : b'.pages = b.pages
  /-- Pages in memory are still copies. -/
  synced : b'.Synced
  /-- It is counted. -/
  free : b'.free = bintIncrFree b.free bintUnitSize

/-- Nothing changed but the count. -/
theorem Bint.Same.miscounted (same : Bint.Same b b') :
    Bint.Miscounted b { b' with free := bintIncrFree b.free bintUnitSize } where
  dev := same.dev
  pages := same.pages
  synced := ⟨same.synced.cached, same.synced.valid⟩
  free := rfl

/-- The page of a bit can be used: it is cached, or can be read. -/
def Bint.pageFound (b : Bint) (faults : IndexFaults) (indexId : Nat) : Bool :=
  (b.indexList.any fun index => index.indexId == indexId) || !faults.read indexId

/-- The unit that a sector lies in. -/
def BintDev.unitOf (dev : BintDev) (block : Nat) : Nat :=
  (block <<< dev.sectorShift) >>> bintUnitShift

/-- A sector of the disk lies in a unit of the disk. -/
theorem BintDev.unitOf_lt (dev : BintDev) {block : Nat} (inside : block < dev.bEnd) :
    dev.unitOf block < dev.units := by
  have small := dev.shift_le
  have split : (2 : Nat) ^ 26 = 2 ^ (26 - dev.sectorShift) * 2 ^ dev.sectorShift := by
    rw [← Nat.pow_add]
    congr 1
    omega
  rw [dev.bEnd_eq] at inside
  rw [unitOf, Nat.shiftLeft_eq, Nat.shiftRight_eq_div_pow, bintUnitShift,
    Nat.div_lt_iff_lt_mul (by decide), split, ← Nat.mul_assoc]
  exact Nat.mul_lt_mul_of_pos_right inside (Nat.two_pow_pos _)

/-- A page of the disk is found if it is cached or can be read. -/
theorem Bint.Synced.getIndex_isSome (synced : b.Synced)
    (inside : indexId < bintNindexes b.dev.usize) :
    (bintGetIndex faults b indexId).isSome = b.pageFound faults indexId := by
  unfold bintGetIndex Bint.pageFound
  cases cached : b.indexList.find? fun index => index.indexId == indexId with
  | some index =>
    have mem := List.mem_of_find?_eq_some cached
    have number := List.find?_some cached
    have any : (b.indexList.any fun index => index.indexId == indexId) = true :=
      List.any_eq_true.2 ⟨index, mem, number⟩
    simp [any]
  | none =>
    have none : (b.indexList.any fun index => index.indexId == indexId) = false := by
      rw [List.find?_eq_none] at cached
      simpa using cached
    rw [none, Bool.false_or, Option.isSome_map, bintIndexLoad, if_pos (synced.valid _ inside)]
    cases faults.read indexId <;> simp

/-- What taking back a unit does depends on its bit, on whether its page is found and on whether the
page can be written. -/
theorem Bint.Synced.releaseBlock (synced : b.Synced) (faults : IndexFaults) (unmapFails : Bool)
    {block : Nat} (inside : block < b.dev.bEnd) :
    if b.pageFound faults (b.dev.unitOf block / unitsPerIndex) && b.bit (b.dev.unitOf block) then
      if faults.write (b.dev.unitOf block / unitsPerIndex) then
        Bint.Miscounted b (bintReleaseBlock faults unmapFails b block)
      else Bint.Freed b (bintReleaseBlock faults unmapFails b block) (b.dev.unitOf block)
    else Bint.Same b (bintReleaseBlock faults unmapFails b block) := by
  have number : b.dev.unitOf block / unitsPerIndex < bintNindexes b.dev.usize := by
    have less := b.dev.unitOf_lt inside
    rw [lt_bintNindexes]
    exact Nat.lt_of_le_of_lt (Nat.div_mul_le_self _ _) less
  have isSome : (bintGetIndex faults b (b.dev.unitOf block / unitsPerIndex)).isSome =
      b.pageFound faults (b.dev.unitOf block / unitsPerIndex) := synced.getIndex_isSome number
  have entryLt : b.dev.unitOf block % unitsPerIndex / 8 < bmapEntries := by
    have bytes : bmapEntries = 4088 := rfl
    rw [unitsPerIndex_eq]
    omega
  have posLt : b.dev.unitOf block % unitsPerIndex % 8 < 8 := Nat.mod_lt _ (by decide)
  have whole : b.dev.unitOf block / unitsPerIndex * unitsPerIndex +
      b.dev.unitOf block % unitsPerIndex / 8 * 8 + b.dev.unitOf block % unitsPerIndex % 8 =
      b.dev.unitOf block := by
    rw [unitsPerIndex_eq]
    omega
  have places : calcIndexId b.dev block = (b.dev.unitOf block / unitsPerIndex,
      b.dev.unitOf block % unitsPerIndex / 8, b.dev.unitOf block % unitsPerIndex % 8) := rfl
  simp only [bintReleaseBlock, places]
  generalize b.dev.unitOf block = unit at *
  cases got : bintGetIndex faults b (unit / unitsPerIndex) with
  | none =>
    rw [got] at isSome
    rw [← isSome]
    exact ⟨rfl, rfl, rfl, synced⟩
  | some pair =>
    obtain ⟨⟨indexId, bmap, unmapList⟩, loaded⟩ := pair
    rw [got] at isSome
    obtain ⟨same, rfl, rfl⟩ := synced.getIndex number got
    rw [← isSome, Option.isSome_some, Bool.true_and]
    have isBit : ((b.pages (unit / unitsPerIndex)).bmap (unit % unitsPerIndex / 8)).getLsbD
        (unit % unitsPerIndex % 8) = b.bit unit := rfl
    simp only [isBit]
    cases taken : b.bit unit with
    | false => exact same
    | true =>
      have less : unit / unitsPerIndex < bintNindexes loaded.dev.usize := by rwa [same.dev]
      simp only [Bool.not_true, Bool.false_eq_true, if_false, if_true]
      cases fails : faults.write (unit / unitsPerIndex) with
      | true =>
        simp only [bintIndexWrite, fails, if_true]
        generalize (if (loaded.unmap && !unmapFails) = true then _ else _) = unmaps
        have put := same.trans (same.synced.putIndex less unmaps)
        rw [same.pages] at put
        rw [same.free]
        exact put.miscounted
      | false =>
        generalize write : bintIndexWrite faults loaded _ = result
        obtain ⟨done, written⟩ := result
        obtain rfl : done = true := by
          simp only [bintIndexWrite, fails, Bool.false_eq_true, if_false, Prod.mk.injEq] at write
          exact write.1.symm
        simp only [Bool.false_eq_true, if_false]
        obtain ⟨free, changed⟩ := same.synced.writeBit less entryLt posLt _
          (fun n => by rw [same.pages]; exact Bytes.bit_clear _ _ _ n posLt) write
        rw [whole] at changed
        exact ⟨(same.changed changed).setFree _, by rw [← same.free, ← free]⟩

/-! ## Counting clear bits -/

/-- A loop over the positions of a byte counts the clear bits of its units. -/
theorem countP_byte {bit : Nat → Bool} {val : BitVec 8} {base : Nat}
    (bits : ∀ place < 8, bit (base + place) = val.getLsbD place) (start count : Nat)
    (small : start + count ≤ 8) :
    (List.range' start count).countP (fun place => !val.getLsbD place) =
      countClear bit (base + start) (base + start + count) := by
  rw [← countP_range', ← List.map_add_range', List.countP_map]
  apply List.countP_congr
  intro place mem
  rw [List.mem_range'_1] at mem
  rw [Function.comp_apply, bits place (by omega)]

/-- The loop over a byte stops at the end of the disk. -/
theorem bintByteFree_eq {bit : Nat → Bool} {val : BitVec 8}
    (number : indexId < bintNindexes dev.usize) (inside : i < calcBmapEntries dev.usize indexId)
    (bits : ∀ place < 8, bit (indexId * unitsPerIndex + i * 8 + place) = val.getLsbD place) :
    bintByteFree dev indexId i val =
      countClear bit (max bintReservedSegments (indexId * unitsPerIndex + i * 8))
        (min (indexId * unitsPerIndex + i * 8 + 8) dev.units) := by
  have reserved : bintReservedSegments = 4 := rfl
  have bytes : bmapEntries = 4088 := rfl
  have perIndex := unitsPerIndex_eq
  have large := dev.units_ge
  obtain ⟨fits, below⟩ := lt_calcBmapEntries.1 inside
  have lowest : max bintReservedSegments (indexId * unitsPerIndex + i * 8) =
      indexId * unitsPerIndex + i * 8 + getIterStart indexId i := by
    unfold getIterStart
    rw [perIndex]
    split <;> omega
  have startLe : getIterStart indexId i ≤ 8 := by
    unfold getIterStart
    split <;> omega
  have startBelow : indexId * unitsPerIndex + i * 8 + getIterStart indexId i ≤ dev.units := by
    rw [← lowest]
    omega
  -- the positions that the loop visits: those of units of the disk
  have visited : ((List.range' (getIterStart indexId i) (8 - getIterStart indexId i)).takeWhile
      fun place => !((indexId + 1 == bintNindexes dev.usize &&
        i + 1 == calcBmapEntries dev.usize indexId) &&
          decide (dev.bEnd < calcAllocBlock dev indexId i place + dev.unitBlocks))) =
      List.range' (getIterStart indexId i)
        (min (8 - getIterStart indexId i)
          (dev.units - (indexId * unitsPerIndex + i * 8) - getIterStart indexId i)) := by
    cases last : indexId + 1 == bintNindexes dev.usize &&
        i + 1 == calcBmapEntries dev.usize indexId with
    | true =>
      rw [← takeWhile_range']
      congr 1
      funext place
      simp only [BintDev.bEnd_lt_iff, Bool.true_and, ← decide_not]
      apply decide_eq_decide.2
      omega
    | false =>
      have more : indexId * unitsPerIndex + i * 8 + 8 ≤ dev.units := by
        rw [Bool.and_eq_false_iff, beq_eq_false_iff_ne, beq_eq_false_iff_ne] at last
        rcases last with other | other
        · have next : indexId + 1 < bintNindexes dev.usize := by omega
          rw [lt_bintNindexes, Nat.succ_mul] at next
          omega
        · have next : i + 1 < calcBmapEntries dev.usize indexId := by omega
          have rest := (lt_calcBmapEntries.1 next).2
          omega
      rw [Nat.min_eq_left (by omega), List.takeWhile_eq_self_iff.2 (by simp)]
  have stop : indexId * unitsPerIndex + i * 8 + getIterStart indexId i +
      min (8 - getIterStart indexId i)
        (dev.units - (indexId * unitsPerIndex + i * 8) - getIterStart indexId i) =
      min (indexId * unitsPerIndex + i * 8 + 8) dev.units := by omega
  rw [lowest, ← stop, ← countP_byte bits _ _ (by omega), ← visited]
  unfold bintByteFree
  split
  · rename_i full
    have set : ∀ place < 8, (0xFF#8).getLsbD place = true := by decide
    symm
    rw [List.countP_eq_zero]
    intro place mem
    rw [visited, List.mem_range'_1] at mem
    simp [full, set place (by omega)]
  · rfl

/-- Counting in two parts, the first of which may be empty. -/
theorem countClear_step {bit : Nat → Bool} {lo mid hi least : Nat} (le : lo ≤ mid) (le' : mid ≤ hi)
    (low : mid = lo ∨ least ≤ mid) :
    countClear bit (max least lo) mid + countClear bit (max least mid) hi =
      countClear bit (max least lo) hi := by
  rcases low with rfl | least
  · rw [countClear_of_le (Nat.le_max_right _ _), Nat.zero_add]
  · rw [Nat.max_eq_right least, countClear_add (by omega) le']

/-- Adding up over the bytes of a page counts the clear bits of its units. -/
theorem bintIndexFreeBlocks_eq {bit : Nat → Bool}
    (number : index.indexId < bintNindexes dev.usize)
    (bits : ∀ i < bmapEntries, ∀ place < 8,
      bit (index.indexId * unitsPerIndex + i * 8 + place) = (index.bmap i).getLsbD place) :
    bintIndexFreeBlocks dev index =
      countClear bit (max bintReservedSegments (index.indexId * unitsPerIndex))
        (min ((index.indexId + 1) * unitsPerIndex) dev.units) := by
  have reserved : bintReservedSegments = 4 := rfl
  have bytes : bmapEntries = 4088 := rfl
  have perIndex := unitsPerIndex_eq
  have below := lt_bintNindexes.1 number
  have sums (count : Nat) (le : count ≤ calcBmapEntries dev.usize index.indexId) :
      ((List.range count).map fun i => bintByteFree dev index.indexId i (index.bmap i)).sum =
        countClear bit (max bintReservedSegments (index.indexId * unitsPerIndex))
          (min (index.indexId * unitsPerIndex + count * 8) dev.units) := by
    induction count with
    | zero =>
      rw [Nat.zero_mul, Nat.add_zero, Nat.min_eq_left (by omega), countClear_of_le (by omega)]
      rfl
    | succ count ih =>
      obtain ⟨fits, inside⟩ := lt_calcBmapEntries.1 (show count < _ from le)
      rw [List.range_succ, List.map_append, List.sum_append, ih (by omega), List.map_singleton,
        List.sum_singleton, bintByteFree_eq number le (bits count fits),
        Nat.min_eq_left (by omega), countClear_step (by omega) (by omega) (by omega),
        Nat.succ_mul, ← Nat.add_assoc]
  have end_ : min (index.indexId * unitsPerIndex + calcBmapEntries dev.usize index.indexId * 8)
      dev.units = min ((index.indexId + 1) * unitsPerIndex) dev.units := by
    rw [calcBmapEntries, ← BintDev.units, perIndex]
    split <;> omega
  rw [bintIndexFreeBlocks, sums _ (le_refl _), end_]

/-! ## Adding and loading a disk -/

/-- Loading the pages from one on counts the clear bits of their units. -/
theorem Bint.Synced.loadFrom {fuel free : Nat} (synced : b.Synced)
    (number : indexId + fuel ≤ bintNindexes b.dev.usize) :
    ∃ loaded, bintLoadFrom .none fuel indexId free b =
      some (free + countClear b.bit (max bintReservedSegments (indexId * unitsPerIndex))
        (min ((indexId + fuel) * unitsPerIndex) b.dev.units), loaded) := by
  induction fuel generalizing b indexId free with
  | zero =>
    refine ⟨b, ?_⟩
    rw [bintLoadFrom, countClear_of_le (by rw [Nat.add_zero]; omega), Nat.add_zero]
  | succ fuel ih =>
    have less : indexId < bintNindexes b.dev.usize := by omega
    have loads : bintIndexLoad .none b indexId =
        some ⟨indexId, (b.pages indexId).bmap, []⟩ := by
      rw [bintIndexLoad, if_pos (synced.valid indexId less)]
      rfl
    have same : Bint.Same b (bintIndexInsert b ⟨indexId, (b.pages indexId).bmap, []⟩) :=
      synced.insert less rfl
    have counts : bintIndexFreeBlocks b.dev ⟨indexId, (b.pages indexId).bmap, []⟩ =
        countClear b.bit (max bintReservedSegments (indexId * unitsPerIndex))
          (min ((indexId + 1) * unitsPerIndex) b.dev.units) :=
      bintIndexFreeBlocks_eq less fun i inside place small => Bint.bit_place inside small
    obtain ⟨loaded, done⟩ := ih same.synced (show indexId + 1 + fuel ≤ _ by rw [same.dev]; omega)
    refine ⟨loaded, ?_⟩
    rw [bintLoadFrom, loads]
    simp only
    rw [done, counts, same.bit_eq, same.dev, Nat.add_assoc]
    have perIndex := unitsPerIndex_eq
    have large := b.dev.units_ge
    have reserved : bintReservedSegments = 4 := rfl
    have first : (indexId + 1) * unitsPerIndex = indexId * unitsPerIndex + unitsPerIndex :=
      Nat.succ_mul _ _
    have last : (indexId + 1 + fuel) * unitsPerIndex = (indexId + 1) * unitsPerIndex +
        fuel * unitsPerIndex := Nat.add_mul _ _ _
    have rest : indexId + 1 + fuel = indexId + (fuel + 1) := by omega
    rw [← rest]
    -- the last page is cut at the end of the disk, and then no page follows
    rcases Nat.le_total ((indexId + 1) * unitsPerIndex) b.dev.units with inside | cut
    · rw [Nat.min_eq_left inside, countClear_step (by omega) (by omega) (by omega)]
    · have none : countClear b.bit (max bintReservedSegments ((indexId + 1) * unitsPerIndex))
          b.dev.units = 0 := countClear_of_le (by omega)
      rw [Nat.min_eq_right cut, Nat.min_eq_right (by omega), none, Nat.add_zero]

/-- Loading a disk counts the units that are not handed out. -/
theorem Bint.Synced.load (synced : b.Synced) :
    (bintLoad .none b.dev b.unmap b.pages).map Bint.free = some (bintUnitSize * b.clearUnits) := by
  have fresh : (⟨b.dev, 0, [], 0, [], b.unmap, b.pages⟩ : Bint).Synced :=
    ⟨by simp, synced.valid⟩
  obtain ⟨loaded, done⟩ := fresh.loadFrom (show 0 + bintNindexes b.dev.usize ≤ _ by simp)
  have whole : min ((0 + bintNindexes b.dev.usize) * unitsPerIndex) b.dev.units = b.dev.units := by
    have all : ¬ bintNindexes b.dev.usize < bintNindexes b.dev.usize := Nat.lt_irrefl _
    rw [lt_bintNindexes] at all
    rw [Nat.zero_add]
    omega
  rw [bintLoad, done]
  simp only [Option.map_some, whole]
  rw [Nat.zero_mul, Nat.zero_add, Nat.max_zero, Nat.shiftLeft_eq, Nat.mul_comm, bintUnitSize]
  rfl

/-- Clearing pages leaves the other ones. -/
theorem bintZeroIndexes_spec {fuel : Nat} (done : bintZeroIndexes faults fuel indexId b = some b') :
    b'.dev = b.dev ∧ b'.free = b.free ∧ b'.indexList = b.indexList ∧ ∀ other, b'.pages other =
      if indexId ≤ other ∧ other < indexId + fuel then ⟨Bytes.zero, bintIndexCsum Bytes.zero⟩
      else b.pages other := by
  induction fuel generalizing b indexId with
  | zero =>
    rw [bintZeroIndexes, Option.some.injEq] at done
    subst done
    exact ⟨rfl, rfl, rfl, fun other => by rw [if_neg (by omega)]⟩
  | succ fuel ih =>
    rw [bintZeroIndexes] at done
    unfold bintIndexWrite at done
    by_cases fails : faults.write indexId
    · simp only [fails, if_true] at done
      exact absurd done (by simp)
    · simp only [fails] at done
      obtain ⟨dev, free, indexes, pages⟩ := ih done
      refine ⟨dev, free, indexes, fun other => ?_⟩
      rw [pages other]
      by_cases here : other = indexId
      · rw [if_neg (by omega), if_pos (by omega)]
        exact if_pos here
      · simp only [if_neg here]
        by_cases inside : indexId ≤ other ∧ other < indexId + (fuel + 1)
        · rw [if_pos (by omega), if_pos inside]
        · rw [if_neg (by omega), if_neg inside]

/-- The free bytes of a disk are those of its clear units, and loading it counts the same. -/
structure Bint.Exact (b : Bint) : Prop where
  /-- As the bits say. -/
  free : b.free = bintUnitSize * b.clearUnits
  /-- As it would be loaded. -/
  load : (bintLoad .none b.dev b.unmap b.pages).map Bint.free = some b.free

/-- The bits of the units that are never handed out are clear. -/
def Bint.Reserved (b : Bint) : Prop := ∀ unit < bintReservedSegments, b.bit unit = false

/-- A new disk has all its units free but the first ones. -/
theorem bdevAddNew_spec {unmap : Bool} {pages : Nat → RawBintindex}
    (added : bdevAddNew faults dev unmap pages = some b) :
    b.dev = dev ∧ b.Synced ∧ b.free = dev.usize - bintReservedSize ∧
      b.free = bintUnitSize * b.clearUnits ∧ b.Reserved := by
  obtain ⟨isDev, free, indexes, cleared⟩ := bintZeroIndexes_spec added
  simp only [Nat.zero_le, Nat.zero_add, true_and] at cleared
  have zero (unit : Nat) (inside : unit < dev.units) : b.bit unit = false := by
    have number : unit / unitsPerIndex < bintNindexes dev.usize := by
      rw [lt_bintNindexes]
      exact Nat.lt_of_le_of_lt (Nat.div_mul_le_self _ _) inside
    rw [Bint.bit, cleared, if_pos number, Bytes.bit_zero]
  have large := dev.units_ge
  have reserved : bintReservedSegments = 4 := rfl
  refine ⟨isDev, ⟨?_, ?_⟩, free, ?_, ?_⟩
  · rw [indexes]
    simp
  · intro other less
    rw [isDev] at less
    rw [cleared, if_pos less]
  · have all : b.clearUnits = dev.units - bintReservedSegments := by
      rw [Bint.clearUnits, isDev]
      exact countClear_of_clear fun unit _ inside => zero unit inside
    rw [all, free, dev.usize_eq, bintReservedSize, reserved]
    simp only [bintUnitSize, bintUnitShift]
    omega
  · intro unit less
    exact zero unit (by omega)

/-! ## The count through every call -/

/-- The units that are not handed out are counted, and pages in memory are copies. -/
structure Bint.Counted (b : Bint) : Prop where
  /-- Pages in memory are copies. -/
  synced : b.Synced
  /-- The first bits are clear. -/
  reserved : b.Reserved
  /-- The count. -/
  free : b.free = bintUnitSize * b.clearUnits

namespace Bint.Counted

/-- What is counted is exact. -/
theorem exact (counted : b.Counted) : b.Exact :=
  ⟨counted.free, counted.free ▸ counted.synced.load⟩

/-- The bytes of the clear units fit into 64 bits. -/
theorem clearUnits_lt (b : Bint) : bintUnitSize * b.clearUnits + bintUnitSize < 2 ^ 64 := by
  have small := b.dev.units_lt
  have large := b.dev.units_ge
  have le : b.clearUnits ≤ b.dev.units - bintReservedSegments := countClear_le
  have reserved : bintReservedSegments = 4 := rfl
  simp only [bintUnitSize, bintUnitShift]
  omega

/-- Nothing changed. -/
theorem same (counted : b.Counted) (same : Same b b') : b'.Counted := by
  refine ⟨same.synced, fun unit less => ?_, ?_⟩
  · rw [same.bit_eq]
    exact counted.reserved unit less
  · rw [same.free, clearUnits, same.bit_eq, same.dev]
    exact counted.free

/-- A unit was handed out. -/
theorem took (counted : b.Counted) (took : Took b b' unit) : b'.Counted := by
  have less : b'.clearUnits + 1 = b.clearUnits := by
    rw [clearUnits, took.changed.dev]
    exact countClear_set ⟨took.low, took.high⟩ took.clear took.changed.bit
  have small := clearUnits_lt b
  refine ⟨took.changed.synced, fun other low => ?_, ?_⟩
  · have other_ne : other ≠ unit := by
      have above := took.low
      omega
    rw [took.changed.bit, if_neg other_ne]
    exact counted.reserved other low
  · rw [took.free, counted.free, ← less]
    rw [← less] at small
    simp only [bintDecrFree, bintUnitSize, bintUnitShift] at small ⊢
    omega

/-- A unit was taken back. -/
theorem freed (counted : b.Counted) (high : unit < b.dev.units) (taken : b.bit unit = true)
    (freed : Freed b b' unit) : b'.Counted := by
  have low : bintReservedSegments ≤ unit := by
    by_contra below
    rw [counted.reserved unit (by omega)] at taken
    exact absurd taken (by decide)
  have more : b.clearUnits + 1 = b'.clearUnits := by
    rw [clearUnits, clearUnits, freed.changed.dev]
    apply countClear_set ⟨low, high⟩
    · rw [freed.changed.bit, if_pos rfl]
    · intro other
      rw [freed.changed.bit]
      by_cases here : other = unit
      · rw [if_pos here, here, taken]
      · rw [if_neg here, if_neg here]
  have small := clearUnits_lt b
  refine ⟨freed.changed.synced, fun other less => ?_, ?_⟩
  · rw [freed.changed.bit, if_neg (by omega)]
    exact counted.reserved other less
  · rw [freed.free, counted.free, ← more]
    simp only [bintIncrFree, bintUnitSize, bintUnitShift] at small ⊢
    omega

/-- A unit that is only counted as free spoils the count. -/
theorem not_exact_of_miscounted (counted : b.Counted) (miscounted : Miscounted b b') :
    ¬ b'.Exact := by
  intro exact
  have kept : b'.clearUnits = b.clearUnits := by
    have bits : b'.bit = b.bit := by
      funext unit
      rw [bit, bit, miscounted.pages]
    rw [clearUnits, bits, miscounted.dev, clearUnits]
  have small := clearUnits_lt b
  have counts := exact.free
  rw [miscounted.free, counted.free, kept] at counts
  simp only [bintIncrFree, bintUnitSize, bintUnitShift] at small counts
  omega

end Bint.Counted

/-- Taking back the unit that holds a sector spoils the count: its page is at hand and its bit is
set, but the page cannot be written. -/
def Bint.miscounts (b : Bint) (faults : IndexFaults) (block : Nat) : Bool :=
  b.pageFound faults (b.dev.unitOf block / unitsPerIndex) && b.bit (b.dev.unitOf block) &&
    faults.write (b.dev.unitOf block / unitsPerIndex)

/-- Taking back a unit keeps the count, unless only the count is changed. -/
theorem Bint.Counted.releaseBlock (counted : b.Counted) (faults : IndexFaults) (unmapFails : Bool)
    {block : Nat} (inside : block < b.dev.bEnd) :
    if b.miscounts faults block then ¬ (bintReleaseBlock faults unmapFails b block).Exact
    else (bintReleaseBlock faults unmapFails b block).Counted := by
  have spec := counted.synced.releaseBlock faults unmapFails inside
  have high := b.dev.unitOf_lt inside
  unfold Bint.miscounts
  cases found : b.pageFound faults (b.dev.unitOf block / unitsPerIndex) with
  | false =>
    simp only [found, Bool.false_and, Bool.false_eq_true, if_false] at spec ⊢
    exact counted.same spec
  | true =>
    cases taken : b.bit (b.dev.unitOf block) with
    | false =>
      simp only [taken, Bool.and_false, Bool.false_and, Bool.false_eq_true, if_false] at spec ⊢
      exact counted.same spec
    | true =>
      cases fails : faults.write (b.dev.unitOf block / unitsPerIndex) with
      | false =>
        simp only [found, taken, fails, Bool.and_true, Bool.and_false, Bool.false_eq_true, if_false,
          if_true] at spec ⊢
        exact counted.freed high taken spec
      | true =>
        simp only [found, taken, fails, Bool.and_true, if_true] at spec ⊢
        exact counted.not_exact_of_miscounted spec

/-- Taking back a unit leaves the disk as it is. -/
theorem Bint.Synced.releaseBlock_dev (synced : b.Synced) (faults : IndexFaults) (unmapFails : Bool)
    {block : Nat} (inside : block < b.dev.bEnd) :
    (bintReleaseBlock faults unmapFails b block).dev = b.dev := by
  have spec := synced.releaseBlock faults unmapFails inside
  split at spec
  · split at spec
    · exact spec.dev
    · exact spec.changed.dev
  · exact spec.dev

/-- A discard that ends changes nothing that is counted. -/
theorem Bint.Counted.unmapEnd (counted : b.Counted) (place : Nat × Nat) :
    (bioUnmapEndBio b indexId place).Counted := by
  refine counted.same ⟨rfl, rfl, rfl, ⟨fun index mem => ?_, counted.synced.valid⟩⟩
  obtain ⟨old, isOld, rfl⟩ := List.mem_map.1 mem
  split
  · exact counted.synced.cached old isOld
  · exact counted.synced.cached old isOld

/-! ## Every sequence of calls -/

/-- What happens to the disks of a pool. -/
inductive PoolEvent
  /-- A unit is asked for. -/
  | getBlock (faults : IndexFaults)
  /-- The unit that holds a sector of a disk is given back. -/
  | releaseBlock (faults : IndexFaults) (unmapFails : Bool) (bid block : Nat)
  /-- The disk has discarded a unit. -/
  | unmapEnd (bid indexId : Nat) (place : Nat × Nat)

namespace BdevPool

/-- One call. Only sectors of a disk are given back. -/
def Step (pool : BdevPool) : PoolEvent → BdevPool → Prop
  | .getBlock faults, pool' => pool' = (pool.getBlock faults).2
  | .releaseBlock faults unmapFails bid block, pool' =>
    (∀ b, pool.find bid = some b → block < b.dev.bEnd) ∧
      pool' = pool.releaseBlock faults unmapFails bid block
  | .unmapEnd bid indexId place, pool' =>
    pool' = ((pool.find bid).map fun b => pool.put (bioUnmapEndBio b indexId place)).getD pool

/-- A unit that is given back has its page written, if its bit is set. -/
def Accounted (pool : BdevPool) : PoolEvent → Prop
  | .releaseBlock faults _ bid block =>
    ∀ b, pool.find bid = some b → b.miscounts faults block = false
  | _ => True

/-- All disks are new. -/
def New (pool : BdevPool) : Prop :=
  ∀ b ∈ pool.bints, ∃ faults dev unmap pages, bdevAddNew faults dev unmap pages = some b

variable {pool pool' : BdevPool}

/-- The disks after one of them changed. -/
theorem forall_put {P : Bint → Prop} (all : ∀ b ∈ pool.bints, P b) (new : P b') :
    ∀ b ∈ (pool.put b').bints, P b := by
  intro b mem
  obtain ⟨old, isOld, rfl⟩ := List.mem_map.1 mem
  split
  · exact new
  · exact all old isOld

/-- A disk that is found is one of the disks. -/
theorem mem_of_find {bid : Nat} (found : pool.find bid = some b) :
    b ∈ pool.bints ∧ b.dev.bid = bid :=
  ⟨List.mem_of_find?_eq_some found, by simpa using List.find?_some found⟩

/-- A disk that changed is one of the disks. -/
theorem mem_put {bid : Nat} (found : pool.find bid = some b) (same : b'.dev.bid = bid) :
    b' ∈ (pool.put b').bints := by
  obtain ⟨mem, isBid⟩ := mem_of_find found
  exact List.mem_map.2 ⟨b, mem, if_pos (isBid.trans same.symm)⟩

/-- Handing out a unit keeps the counts. -/
theorem getBlock_counted (counted : ∀ b ∈ pool.bints, b.Counted) :
    ∀ b ∈ (pool.getBlock faults).2.bints, b.Counted := by
  unfold getBlock
  generalize bintGetEligible pool.group = result
  obtain ⟨found, group⟩ := result
  simp only
  cases disk : found.bind (find { pool with
      allocList := group.allocList, eligible := group.eligible }) with
  | none => exact counted
  | some b =>
    generalize done : bintGetAnyBlock faults b = taken
    obtain ⟨unit, b'⟩ := taken
    obtain ⟨bid, -, isDisk⟩ := Option.bind_eq_some_iff.1 disk
    have before : b.Counted := counted b (List.mem_of_find?_eq_some isDisk)
    have after : b'.Counted := by
      rcases before.synced.getAnyBlock done with ⟨-, same⟩ | ⟨unit, -, took⟩
      · exact before.same same
      · exact before.took took
    simp only [done]
    exact forall_put counted after

/-- The counts after any call: they stay exact if and only if no unit is only counted as free. -/
theorem step_counted {event : PoolEvent} (counted : ∀ b ∈ pool.bints, b.Counted)
    (step : pool.Step event pool') :
    (pool.Accounted event → ∀ b ∈ pool'.bints, b.Counted) ∧
      (¬ pool.Accounted event → ∃ b ∈ pool'.bints, ¬ b.Exact) := by
  cases event with
  | getBlock faults =>
    obtain rfl : pool' = (pool.getBlock faults).2 := step
    exact ⟨fun _ => getBlock_counted counted, fun not => absurd trivial not⟩
  | unmapEnd bid indexId place =>
    obtain rfl := step
    refine ⟨fun _ => ?_, fun not => absurd trivial not⟩
    cases found : pool.find bid with
    | none => exact counted
    | some b => exact forall_put counted ((counted b (mem_of_find found).1).unmapEnd place)
  | releaseBlock faults unmapFails bid block =>
    obtain ⟨inside, rfl⟩ := step
    unfold releaseBlock
    cases found : pool.find bid with
    | none =>
      exact ⟨fun _ => counted, fun not => absurd (fun b isDisk => by simp [found] at isDisk) not⟩
    | some b =>
      have before := counted b (mem_of_find found).1
      have after := before.releaseBlock faults unmapFails (inside b found)
      have same := before.synced.releaseBlock_dev faults unmapFails (inside b found)
      cases miscounts : b.miscounts faults block with
      | false =>
        rw [if_neg (by simp [miscounts])] at after
        refine ⟨fun _ => forall_put counted after, fun not => absurd (fun other isOther => ?_) not⟩
        rw [found, Option.some.injEq] at isOther
        rw [← isOther, miscounts]
      | true =>
        rw [if_pos miscounts] at after
        refine ⟨fun accounted => ?_, fun _ => ⟨_, mem_put found ?_, after⟩⟩
        · exact absurd (accounted b found) (by simp [miscounts])
        · rw [same, (mem_of_find found).2]

/-- Calls that keep the counts. -/
def AccountedStep (pool : BdevPool) (event : PoolEvent) (pool' : BdevPool) : Prop :=
  pool.Step event pool' ∧ pool.Accounted event

/-- The counts of new disks. -/
theorem New.counted (new : pool.New) : ∀ b ∈ pool.bints, b.Counted := by
  intro b mem
  obtain ⟨faults, dev, unmap, pages, added⟩ := new b mem
  obtain ⟨-, synced, -, free, reserved⟩ := bdevAddNew_spec added
  exact ⟨synced, reserved, free⟩

/-- The counts along a run. -/
theorem run_counted {events : List PoolEvent} (new : pool.New)
    (run : Run AccountedStep pool events pool') : ∀ b ∈ pool'.bints, b.Counted :=
  Run.invariant run new.counted fun counted step => (step_counted counted step.1).1 step.2

/-- On new disks all units are free but the first four. Along every run of calls, whatever fails,
the free bytes are those of the clear bits and those that loading the disk would count, as long as a
unit that is given back has its page written; and the first call that does not do so spoils them. -/
theorem free_exact_iff {events : List PoolEvent} (new : pool.New)
    (run : Run AccountedStep pool events pool') :
    (∀ b ∈ pool.bints, b.free = b.dev.usize - bintReservedSize) ∧
      (∀ b ∈ pool'.bints, b.Exact) ∧
      ∀ event next, pool'.Step event next →
        ((∀ b ∈ next.bints, b.Exact) ↔ pool'.Accounted event) := by
  have counted := run_counted new run
  refine ⟨fun b mem => ?_, fun b mem => (counted b mem).exact, fun event next step => ?_⟩
  · obtain ⟨faults, dev, unmap, pages, added⟩ := new b mem
    obtain ⟨isDev, -, free, -⟩ := bdevAddNew_spec added
    rw [free, isDev]
  · obtain ⟨keeps, spoils⟩ := step_counted counted step
    constructor
    · intro exact
      by_contra not
      obtain ⟨b, mem, inexact⟩ := spoils not
      exact inexact (exact b mem)
    · intro accounted b mem
      exact (keeps accounted b mem).exact

/-- A disk of 4 GB with sectors of 512 bytes. -/
def sampleDev : BintDev := ⟨1, 9, 2 ^ 32, by decide, by decide, by decide⟩

/-- A pool with one new disk. -/
def samplePool : BdevPool :=
  ⟨(bdevAddNew .none sampleDev true fun _ => ⟨Bytes.zero, 0⟩).toList, [1], none⟩

/-- The disk of the pool is new. -/
theorem samplePool_new : samplePool.New := by
  intro b mem
  exact ⟨.none, sampleDev, true, fun _ => ⟨Bytes.zero, 0⟩, by simpa [samplePool] using mem⟩

/-- A unit was handed out. -/
def samplePoolTaken : BdevPool := (samplePool.getBlock .none).2

/-- The unit is given back, but its page cannot be written. -/
def samplePoolMiscounted : BdevPool :=
  samplePoolTaken.releaseBlock ⟨fun _ => false, fun _ => true⟩ false 1 (4 * 131072)

/-- Handing out a unit of a new disk leaves 59 of its 64 units free. -/
theorem free_exact_taken :
    samplePoolTaken.bints.map Bint.free = [59 * bintUnitSize] ∧
      (∀ b ∈ samplePoolTaken.bints, b.Exact) ∧
      ((∀ b ∈ samplePoolMiscounted.bints, b.Exact) ↔ samplePoolTaken.Accounted
        (.releaseBlock ⟨fun _ => false, fun _ => true⟩ false 1 (4 * 131072))) := by
  have all := free_exact_iff samplePool_new (.snoc .nil ⟨rfl, trivial⟩ :
    Run AccountedStep samplePool ([] ++ [.getBlock .none]) samplePoolTaken)
  refine ⟨by decide +kernel, all.2.1, all.2.2 _ _ ⟨?_, rfl⟩⟩
  decide +kernel

/-- After the unit was given back 60 units are counted as free, but only 59 have a clear bit. -/
theorem free_miscounted :
    samplePoolMiscounted.bints.map (fun b => (b.free, b.clearUnits)) = [(60 * bintUnitSize, 59)] := by
  decide +kernel

end BdevPool

end VirtualTape
