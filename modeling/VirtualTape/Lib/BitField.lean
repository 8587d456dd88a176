import Mathlib.Data.Nat.Bitwise

/-!
# Bit fields of a machine word

A word packs several numbers side by side. `extract lo len` reads the field of `len` bits that
starts at bit `lo`, and `insert lo value` ors a value into the field that starts at bit `lo`, the
way C macros build packed records. The lemmas say when an inserted value is read back and when
another field is left alone; nothing here depends on what the fields mean.
-/

namespace VirtualTape.BitField

/-- Read the `len` bits of `word` that start at bit `lo`. -/
def extract (lo len word : Nat) : Nat := (word >>> lo) &&& (2 ^ len - 1)

/-- Or `value` into `word` at bit `lo`; bits of `value` beyond its field are not masked off. -/
def insert (lo value word : Nat) : Nat := word ||| (value <<< lo)

/-- Clear the lowest `len` bits. -/
def clearLow (len word : Nat) : Nat := (word >>> len) <<< len

variable {lo len lo' len' value word : Nat}

/-- A bit of a field is the bit of the word at the same distance from the field's start. -/
theorem testBit_extract (lo len word index : Nat) :
    (extract lo len word).testBit index = (decide (index < len) && word.testBit (lo + index)) := by
  simp only [extract, Nat.and_two_pow_sub_one_eq_mod, Nat.testBit_mod_two_pow,
    Nat.testBit_shiftRight]

/-- A bit of a word with an inserted value comes from the word or from the value. -/
theorem testBit_insert (lo value word index : Nat) :
    (insert lo value word).testBit index =
      (word.testBit index || (decide (lo ≤ index) && value.testBit (index - lo))) := by
  simp only [insert, Nat.testBit_or, Nat.testBit_shiftLeft, ge_iff_le]

/-- A field never exceeds its width. -/
theorem extract_lt (lo len word : Nat) : extract lo len word < 2 ^ len := by
  rw [extract, Nat.and_two_pow_sub_one_eq_mod]
  exact Nat.mod_lt _ (Nat.two_pow_pos len)

/-- A word that fits below a field leaves that field empty. -/
theorem extract_of_lt (fits : word < 2 ^ lo) : extract lo len word = 0 := by
  rw [extract, Nat.shiftRight_eq_div_pow, Nat.div_eq_of_lt fits, Nat.zero_and]

/-- The lowest field of a word that fits into it is the word itself. -/
theorem extract_low_of_lt (fits : word < 2 ^ len) : extract 0 len word = word := by
  rw [extract, Nat.shiftRight_zero, Nat.and_two_pow_sub_one_eq_mod, Nat.mod_eq_of_lt fits]

/-- A value inserted into an empty field that is wide enough is read back. -/
theorem extract_insert (fits : value < 2 ^ len) (empty : extract lo len word = 0) :
    extract lo len (insert lo value word) = value := by
  refine Nat.eq_of_testBit_eq fun index => ?_
  have cleared := congrArg (fun field => field.testBit index) empty
  simp only [testBit_extract, Nat.zero_testBit, testBit_insert] at cleared ⊢
  by_cases inside : index < len
  · simp only [inside, decide_true, Bool.true_and] at cleared ⊢
    simp [cleared]
  · have beyond : value.testBit index = false :=
      Nat.testBit_lt_two_pow (lt_of_lt_of_le fits (Nat.pow_le_pow_right Nat.two_pos (by omega)))
    simp [inside, beyond]

/-- Inserting above a field leaves the field alone. -/
theorem extract_insert_above (apart : lo' + len' ≤ lo) :
    extract lo' len' (insert lo value word) = extract lo' len' word := by
  refine Nat.eq_of_testBit_eq fun index => ?_
  simp only [testBit_extract, testBit_insert]
  by_cases inside : index < len'
  · have below : ¬ lo ≤ lo' + index := by omega
    simp [below]
  · simp [inside]

/-- Inserting a value that fits its own field leaves every higher field alone. -/
theorem extract_insert_below (fits : value < 2 ^ len) (apart : lo + len ≤ lo') :
    extract lo' len' (insert lo value word) = extract lo' len' word := by
  refine Nat.eq_of_testBit_eq fun index => ?_
  simp only [testBit_extract, testBit_insert]
  have beyond : value.testBit (lo' + index - lo) = false :=
    Nat.testBit_lt_two_pow (lt_of_lt_of_le fits (Nat.pow_le_pow_right Nat.two_pos (by omega)))
  simp [beyond]

/-- Inserting what a field already holds changes nothing. -/
theorem insert_extract (lo len word : Nat) : insert lo (extract lo len word) word = word := by
  refine Nat.eq_of_testBit_eq fun index => ?_
  simp only [testBit_insert, testBit_extract]
  by_cases above : lo ≤ index
  · have same : lo + (index - lo) = index := by omega
    rw [same]
    cases word.testBit index <;> simp
  · simp [above]

/-- An inserted value that is not zero makes the word not zero. -/
theorem insert_ne_zero_of_word (nonzero : word ≠ 0) : insert lo value word ≠ 0 := by
  intro zero
  apply nonzero
  refine Nat.eq_of_testBit_eq fun index => ?_
  have bit := congrArg (fun packed => packed.testBit index) zero
  simp only [testBit_insert, Nat.zero_testBit, Bool.or_eq_false_iff] at bit
  rw [bit.1, Nat.zero_testBit]

end VirtualTape.BitField
