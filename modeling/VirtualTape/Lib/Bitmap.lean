import Mathlib.Order.Interval.Finset.Nat

/-!
# Bitmaps in bytes

A bitmap is a sequence of bytes; bit `n` is bit `n % 8` of byte `n / 8`. Bits are set and cleared by
masks. The clear bits of a range are counted as a finite set, so that a count can be cut into parts
and followed through the change of one bit, and a loop over positions counts the same set.
-/

namespace VirtualTape

/-- A sequence of bytes. -/
abbrev Bytes := Nat → BitVec 8

namespace Bytes

variable (bytes : Bytes) (entry pos n : Nat)

/-- A bit of a sequence of bytes. -/
def bit : Bool := (bytes (n / 8)).getLsbD (n % 8)

/-- Set a bit, given by byte and position. -/
def set : Bytes := fun i => if i = entry then bytes i ||| 1#8 <<< pos else bytes i

/-- Clear a bit, given by byte and position. -/
def clear : Bytes := fun i => if i = entry then bytes i &&& ~~~(1#8 <<< pos) else bytes i

/-- All bits clear. -/
def zero : Bytes := fun _ => 0#8

/-- A bit of the bitmap without any. -/
@[simp]
theorem bit_zero : zero.bit n = false := by simp [bit, zero]

/-- The bits of a byte with one bit. -/
theorem getLsbD_one_shiftLeft {index : Nat} (inside : index < 8) :
    (1#8 <<< pos).getLsbD index = decide (index = pos) := by
  rw [BitVec.getLsbD_shiftLeft]
  by_cases same : index = pos
  · subst same
    simp [inside]
  · by_cases less : index < pos
    · simp [less, same]
    · have positive : index - pos ≠ 0 := by omega
      simp [inside, less, same, positive, BitVec.getLsbD_one]

/-- A bit by its byte and position. -/
theorem bit_mul_add (small : pos < 8) : bytes.bit (entry * 8 + pos) = (bytes entry).getLsbD pos := by
  have byte : (entry * 8 + pos) / 8 = entry := by omega
  have place : (entry * 8 + pos) % 8 = pos := by omega
  rw [bit, byte, place]

/-- A bit is that of a byte and position if and only if its number is. -/
theorem div_mod_iff (small : pos < 8) : (n / 8 = entry ∧ n % 8 = pos) ↔ n = entry * 8 + pos := by
  omega

/-- The bits after one is set. -/
theorem bit_set (small : pos < 8) :
    (bytes.set entry pos).bit n = if n = entry * 8 + pos then true else bytes.bit n := by
  have inside : n % 8 < 8 := Nat.mod_lt n (by decide)
  unfold bit set
  by_cases here : n / 8 = entry
  · rw [if_pos here, BitVec.getLsbD_or, getLsbD_one_shiftLeft pos inside]
    by_cases same : n % 8 = pos
    · rw [if_pos ((div_mod_iff entry pos n small).1 ⟨here, same⟩)]
      simp [same]
    · rw [if_neg fun eq => same ((div_mod_iff entry pos n small).2 eq).2]
      simp [same]
  · rw [if_neg here, if_neg fun eq => here ((div_mod_iff entry pos n small).2 eq).1]

/-- The bits after one is cleared. -/
theorem bit_clear (small : pos < 8) :
    (bytes.clear entry pos).bit n = if n = entry * 8 + pos then false else bytes.bit n := by
  have inside : n % 8 < 8 := Nat.mod_lt n (by decide)
  unfold bit clear
  by_cases here : n / 8 = entry
  · rw [if_pos here, BitVec.getLsbD_and, BitVec.getLsbD_not, getLsbD_one_shiftLeft pos inside]
    by_cases same : n % 8 = pos
    · rw [if_pos ((div_mod_iff entry pos n small).1 ⟨here, same⟩)]
      simp [same]
    · rw [if_neg fun eq => same ((div_mod_iff entry pos n small).2 eq).2]
      simp [same, inside]
  · rw [if_neg here, if_neg fun eq => here ((div_mod_iff entry pos n small).2 eq).1]

end Bytes

/-! ## Counting clear bits -/

section Counting

variable (bit bit' : Nat → Bool) {lo mid hi n : Nat}

/-- The clear bits of a range. -/
def clearBits (lo hi : Nat) : Finset Nat := (Finset.Ico lo hi).filter fun n => bit n = false

/-- The number of clear bits of a range. -/
def countClear (lo hi : Nat) : Nat := (clearBits bit lo hi).card

variable {bit bit'}

/-- A clear bit of a range. -/
theorem mem_clearBits : n ∈ clearBits bit lo hi ↔ (lo ≤ n ∧ n < hi) ∧ bit n = false := by
  rw [clearBits, Finset.mem_filter, Finset.mem_Ico]

/-- An empty range has no clear bits. -/
theorem countClear_of_le (le : hi ≤ lo) : countClear bit lo hi = 0 := by
  rw [countClear, clearBits, Finset.Ico_eq_empty_of_le le]
  rfl

/-- Counting in two parts. -/
theorem countClear_add (le : lo ≤ mid) (le' : mid ≤ hi) :
    countClear bit lo mid + countClear bit mid hi = countClear bit lo hi := by
  have parts : clearBits bit lo hi = clearBits bit lo mid ∪ clearBits bit mid hi := by
    rw [clearBits, clearBits, clearBits, ← Finset.filter_union,
      Finset.Ico_union_Ico_eq_Ico le le']
  have apart : Disjoint (clearBits bit lo mid) (clearBits bit mid hi) := by
    rw [Finset.disjoint_left]
    intro n inside inside'
    have below := (mem_clearBits.1 inside).1.2
    have above := (mem_clearBits.1 inside').1.1
    omega
  rw [countClear, countClear, countClear, parts, Finset.card_union_of_disjoint apart]

/-- Only the bits of the range are counted. -/
theorem countClear_congr (same : ∀ n, lo ≤ n → n < hi → bit n = bit' n) :
    countClear bit lo hi = countClear bit' lo hi := by
  have equal : clearBits bit lo hi = clearBits bit' lo hi := by
    apply Finset.filter_congr
    intro n inside
    rw [Finset.mem_Ico] at inside
    rw [same n inside.1 inside.2]
  rw [countClear, countClear, equal]

/-- If only bits of a part of the range change, the counts change by those of the part. -/
theorem countClear_outside {first last : Nat} (le : first ≤ lo) (le' : lo ≤ hi) (le'' : hi ≤ last)
    (same : ∀ n, n < lo ∨ hi ≤ n → bit' n = bit n) :
    countClear bit' first last + countClear bit lo hi =
      countClear bit first last + countClear bit' lo hi := by
  have before : countClear bit' first lo = countClear bit first lo :=
    countClear_congr fun n _ less => same n (Or.inl less)
  have after : countClear bit' hi last = countClear bit hi last :=
    countClear_congr fun n more _ => same n (Or.inr more)
  have whole : countClear bit first lo + countClear bit lo last = countClear bit first last :=
    countClear_add le (Nat.le_trans le' le'')
  have whole' : countClear bit' first lo + countClear bit' lo last = countClear bit' first last :=
    countClear_add le (Nat.le_trans le' le'')
  have rest : countClear bit lo hi + countClear bit hi last = countClear bit lo last :=
    countClear_add le' le''
  have rest' : countClear bit' lo hi + countClear bit' hi last = countClear bit' lo last :=
    countClear_add le' le''
  omega

/-- With all bits clear every number is counted. -/
theorem countClear_of_clear (clear : ∀ n, lo ≤ n → n < hi → bit n = false) :
    countClear bit lo hi = hi - lo := by
  have all : clearBits bit lo hi = Finset.Ico lo hi := by
    apply Finset.filter_true_of_mem
    intro n inside
    rw [Finset.mem_Ico] at inside
    exact clear n inside.1 inside.2
  rw [countClear, all, Nat.card_Ico]

/-- There are no more clear bits than numbers. -/
theorem countClear_le : countClear bit lo hi ≤ hi - lo := by
  rw [countClear, clearBits, ← Nat.card_Ico]
  exact Finset.card_filter_le _ _

/-- Setting a clear bit of the range leaves one clear bit less. -/
theorem countClear_set (inside : lo ≤ n ∧ n < hi) (old : bit n = false)
    (change : ∀ m, bit' m = if m = n then true else bit m) :
    countClear bit' lo hi + 1 = countClear bit lo hi := by
  have erased : clearBits bit' lo hi = (clearBits bit lo hi).erase n := by
    ext m
    rw [Finset.mem_erase, mem_clearBits, mem_clearBits, change m]
    by_cases same : m = n
    · simp [same]
    · simp [same]
  have mem : n ∈ clearBits bit lo hi := mem_clearBits.2 ⟨inside, old⟩
  rw [countClear, countClear, erased, Finset.card_erase_add_one mem]

/-- The number of bits of a range that are set in one bitmap and clear in another. -/
def countCleared (bit bit' : Nat → Bool) (lo hi : Nat) : Nat :=
  ((Finset.Ico lo hi).filter fun n => bit n = true ∧ bit' n = false).card

/-- The bits set in one bitmap and those set only in another are those set in one of them. -/
theorem countClear_not_add_countCleared :
    countClear (fun n => !bit n) lo hi + countCleared bit' bit lo hi =
      ((Finset.Ico lo hi).filter fun n => bit n = true ∨ bit' n = true).card := by
  have apart : Disjoint (clearBits (fun n => !bit n) lo hi)
      ((Finset.Ico lo hi).filter fun n => bit' n = true ∧ bit n = false) := by
    rw [Finset.disjoint_left]
    intro n inside inside'
    have set := (mem_clearBits.1 inside).2
    have clear := (Finset.mem_filter.1 inside').2.2
    simp [clear] at set
  rw [countClear, countCleared, ← Finset.card_union_of_disjoint apart]
  congr 1
  ext n
  rw [Finset.mem_union, mem_clearBits, Finset.mem_filter, Finset.mem_filter, Finset.mem_Ico]
  cases bit n <;> cases bit' n <;> simp

/-- The bits set before and those that get set are the bits set after and those that get cleared. -/
theorem countClear_not_balance :
    countClear (fun n => !bit n) lo hi + countCleared bit' bit lo hi =
      countClear (fun n => !bit' n) lo hi + countCleared bit bit' lo hi := by
  rw [countClear_not_add_countCleared, countClear_not_add_countCleared]
  simp only [or_comm]

/-- A loop over successive positions counts the same set. -/
theorem countP_range' (bit : Nat → Bool) (lo count : Nat) :
    (List.range' lo count).countP (fun n => !bit n) = countClear bit lo (lo + count) := by
  induction count with
  | zero => rw [countClear_of_le (by omega), List.range'_zero, List.countP_nil]
  | succ count ih =>
    have last : countClear bit (lo + count) (lo + count + 1) = if bit (lo + count) then 0 else 1 := by
      rw [countClear, clearBits, Nat.Ico_succ_singleton, Finset.filter_singleton]
      cases bit (lo + count) <;> simp
    rw [List.range'_1_concat, List.countP_append, ih, List.countP_singleton, ← Nat.add_assoc,
      ← countClear_add (Nat.le_add_right lo count) (Nat.le_add_right _ 1), last]
    cases bit (lo + count) <;> simp

/-- A loop that breaks off depends on its condition for the values it may come to. -/
theorem takeWhile_congr {α : Type*} {p q : α → Bool} {values : List α}
    (same : ∀ value ∈ values, p value = q value) : values.takeWhile p = values.takeWhile q := by
  induction values with
  | nil => rfl
  | cons value values ih =>
    rw [List.forall_mem_cons] at same
    rw [List.takeWhile_cons, List.takeWhile_cons, same.1, ih same.2]

/-- A loop that stops at a bound. -/
theorem takeWhile_range' (lo count bound : Nat) :
    (List.range' lo count).takeWhile (fun n => decide (n < bound)) =
      List.range' lo (min count (bound - lo)) := by
  induction count generalizing lo with
  | zero => rw [List.range'_zero, List.takeWhile_nil, Nat.zero_min, List.range'_zero]
  | succ count ih =>
    rw [List.range'_succ]
    by_cases less : lo < bound
    · have more : min (count + 1) (bound - lo) = min count (bound - (lo + 1)) + 1 := by omega
      rw [List.takeWhile_cons_of_pos (by simpa using less), ih, more, List.range'_succ]
    · have none : min (count + 1) (bound - lo) = 0 := by omega
      rw [List.takeWhile_cons_of_neg (by simpa using less), none, List.range'_zero]

end Counting

end VirtualTape
