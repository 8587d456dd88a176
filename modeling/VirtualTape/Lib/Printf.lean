import Mathlib.Algebra.Ring.Nat
import Mathlib.Data.List.Induction
import Mathlib.Data.Nat.Basic

/-!
# Formatted output of integers

A format is a text with directives. `%%` prints a percent sign, and `%`, a width and `d` print the
next integer in decimal, filled up with blanks or, if the width starts with a zero, with zeros. Other
directives are not defined here, and neither is a directive for which no integer is left. A number
that is filled up with zeros can be read back, and it is longer than its width if it does not fit.
-/

namespace VirtualTape.Printf

/-! ## Numbers of a fixed width -/

/-- A number in decimal, filled up with zeros. -/
def zeroPadded (width number : Nat) : List Char := (Nat.toDigits 10 number).leftpad width '0'

/-- The number that decimal digits stand for. -/
def decimal (digits : List Char) : Nat := Nat.ofDigitChars 10 digits 0

/-- A number is read back. -/
@[simp]
theorem decimal_zeroPadded (width number : Nat) : decimal (zeroPadded width number) = number := by
  rw [decimal, zeroPadded, List.leftpad, Nat.ofDigitChars_append, Nat.ofDigitChars_replicate_zero,
    Nat.mul_zero, Nat.ofDigitChars_ten_toDigits]

/-- Digits stand for a number that fits. -/
theorem decimal_lt {digits : List Char} (isDigits : ∀ c ∈ digits, c.isDigit = true) :
    decimal digits < 10 ^ digits.length := by
  induction digits using List.reverseRecOn with
  | nil => decide
  | append_singleton digits c ih =>
    have before := ih fun other mem => isDigits other (List.mem_append_left [c] mem)
    have digit : c.toNat ≤ 57 := by
      have isDigit := isDigits c (List.mem_append_right digits List.mem_cons_self)
      rw [Char.isDigit, Bool.and_eq_true, decide_eq_true_iff, decide_eq_true_iff] at isDigit
      exact isDigit.2
    have value : decimal (digits ++ [c]) = 10 * decimal digits + (c.toNat - 48) := by
      rw [decimal, Nat.ofDigitChars_append, Nat.ofDigitChars_cons]
      rfl
    rw [value, List.length_append, List.length_singleton, Nat.pow_succ]
    omega

/-- Different numbers are printed differently. -/
theorem zeroPadded_injective (width : Nat) : Function.Injective (zeroPadded width) := by
  intro number other same
  rw [← decimal_zeroPadded width number, same, decimal_zeroPadded]

/-- A number has its width if and only if it fits. -/
theorem length_zeroPadded_iff {width : Nat} (positive : 0 < width) (number : Nat) :
    (zeroPadded width number).length = width ↔ number < 10 ^ width := by
  rw [← Nat.length_toDigits_le_iff (by decide) positive, zeroPadded, List.leftpad,
    List.length_append, List.length_replicate]
  omega

/-- Only digits are printed. -/
theorem isDigit_of_mem_zeroPadded {width number : Nat} {c : Char}
    (mem : c ∈ zeroPadded width number) : c.isDigit = true := by
  rw [zeroPadded, List.leftpad, List.mem_append] at mem
  rcases mem with zero | digit
  · rw [List.eq_of_mem_replicate zero]
    rfl
  · exact Nat.isDigit_of_mem_toDigits (by decide) (by decide) digit

/-! ## Formats -/

/-- A number as a directive with a width prints it. -/
def printed (width : List Char) (number : Nat) : List Char :=
  (Nat.toDigits 10 number).leftpad (decimal width) (if width.head? = some '0' then '0' else ' ')

/-- Print integers as the rest of a format says; inside a directive the width so far is kept. -/
def printRest : Option (List Char) → List Char → List Nat → Option (List Char)
  | none, [], _ => some []
  | some _, [], _ => none
  | none, c :: rest, numbers =>
    if c = '%' then printRest (some []) rest numbers
    else (printRest none rest numbers).map (c :: ·)
  | some width, c :: rest, numbers =>
    if c.isDigit then printRest (some (width ++ [c])) rest numbers
    else if c = '%' && width.isEmpty then (printRest none rest numbers).map ('%' :: ·)
    else if c = 'd' then
      match numbers with
      | [] => none
      | number :: numbers => (printRest none rest numbers).map (printed width number ++ ·)
    else none

/-- A character outside directives. -/
theorem printRest_text (c : Char) (rest : List Char) (numbers : List Nat) :
    printRest none (c :: rest) numbers =
      if c = '%' then printRest (some []) rest numbers
      else (printRest none rest numbers).map (c :: ·) := rfl

/-- A character inside a directive. -/
theorem printRest_inside (width : List Char) (c : Char) (rest : List Char) (numbers : List Nat) :
    printRest (some width) (c :: rest) numbers =
      if c.isDigit then printRest (some (width ++ [c])) rest numbers
      else if c = '%' && width.isEmpty then (printRest none rest numbers).map ('%' :: ·)
      else if c = 'd' then
        match numbers with
        | [] => none
        | number :: numbers => (printRest none rest numbers).map (printed width number ++ ·)
      else none := rfl

/-- Print integers as a format says. -/
def sprintf (format : List Char) (numbers : List Nat) : Option (List Char) :=
  printRest none format numbers

/-- A text without a percent sign is copied. -/
theorem sprintf_text {text : List Char} (plain : '%' ∉ text) (rest : List Char) (numbers : List Nat) :
    sprintf (text ++ rest) numbers = (sprintf rest numbers).map (text ++ ·) := by
  induction text with
  | nil => simp
  | cons c text ih =>
    rw [List.mem_cons, not_or] at plain
    rw [sprintf, List.cons_append, printRest_text, if_neg (Ne.symm plain.1), ← sprintf, ih plain.2,
      Option.map_map]
    rfl

/-- A digit inside a directive belongs to its width. -/
theorem printRest_digit {c : Char} (isDigit : c.isDigit = true) (width rest : List Char)
    (numbers : List Nat) :
    printRest (some width) (c :: rest) numbers = printRest (some (width ++ [c])) rest numbers := by
  rw [printRest_inside, if_pos isDigit]

/-- A width is read digit by digit. -/
theorem printRest_width {digits : List Char} (isDigits : ∀ c ∈ digits, c.isDigit = true)
    (width rest : List Char) (numbers : List Nat) :
    printRest (some width) (digits ++ rest) numbers =
      printRest (some (width ++ digits)) rest numbers := by
  induction digits generalizing width with
  | nil => simp
  | cons c digits ih =>
    rw [List.cons_append, printRest_digit (isDigits c List.mem_cons_self),
      ih fun other mem => isDigits other (List.mem_cons_of_mem c mem)]
    simp

/-- A directive with a width that starts with zero prints a number of that width. -/
theorem sprintf_zeroPadded (width number : Nat) (rest : List Char) (numbers : List Nat) :
    sprintf ('%' :: '0' :: Nat.toDigits 10 width ++ 'd' :: rest) (number :: numbers) =
      (sprintf rest numbers).map (zeroPadded width number ++ ·) := by
  have isDigits : ∀ c ∈ '0' :: Nat.toDigits 10 width, c.isDigit = true := by
    intro c mem
    rcases List.mem_cons.1 mem with rfl | mem
    · rfl
    · exact Nat.isDigit_of_mem_toDigits (by decide) (by decide) mem
  have isWidth : decimal ('0' :: Nat.toDigits 10 width) = width := by
    rw [decimal, Nat.ofDigitChars_cons]
    exact Nat.ofDigitChars_ten_toDigits
  have isPrinted : printed ('0' :: Nat.toDigits 10 width) number = zeroPadded width number := by
    rw [printed, isWidth]
    rfl
  have entered : sprintf ('%' :: '0' :: Nat.toDigits 10 width ++ 'd' :: rest) (number :: numbers) =
      printRest (some []) (('0' :: Nat.toDigits 10 width) ++ 'd' :: rest) (number :: numbers) := rfl
  rw [entered, printRest_width isDigits, List.nil_append, printRest_inside, if_neg (by decide),
    if_neg (by simp), if_pos rfl, ← isPrinted]
  rfl

/-- What is printed for a number has no percent sign and no `d`. -/
theorem count_printed {c : Char} (other : c.isDigit = false ∧ c ≠ ' ') (width : List Char)
    (number : Nat) : (printed width number).count c = 0 := by
  rw [List.count_eq_zero, printed, List.leftpad, List.mem_append]
  rintro (filled | digit)
  · have isFill := List.eq_of_mem_replicate filled
    split at isFill
    · exact absurd other.1 (by rw [isFill]; decide)
    · exact other.2 isFill
  · have isDigit := Nat.isDigit_of_mem_toDigits (by decide) (by decide) digit
    exact Bool.false_ne_true (other.1.symm.trans isDigit)

/-- What the next character of a directive can be. -/
theorem printRest_directive {width rest out : List Char} {c : Char} {numbers : List Nat}
    (prints : printRest (some width) (c :: rest) numbers = some out) :
    (c.isDigit = true ∧ printRest (some (width ++ [c])) rest numbers = some out) ∨
    (c = '%' ∧ ∃ text, printRest none rest numbers = some text ∧ out = '%' :: text) ∨
    (c = 'd' ∧ ∃ number others text, printRest none rest others = some text ∧
      out = printed width number ++ text) := by
  by_cases isDigit : c.isDigit = true
  · exact Or.inl ⟨isDigit, printRest_digit isDigit width rest numbers ▸ prints⟩
  by_cases isPercent : (c = '%' && width.isEmpty) = true
  · have taken : (printRest none rest numbers).map ('%' :: ·) = some out := by
      rwa [printRest_inside, if_neg isDigit, if_pos isPercent] at prints
    obtain ⟨text, isRest, rfl⟩ := Option.map_eq_some_iff.1 taken
    exact Or.inr (Or.inl ⟨by simpa using (Bool.and_eq_true_iff.1 isPercent).1, text, isRest, rfl⟩)
  by_cases isLetter : c = 'd'
  · rw [printRest_inside, if_neg isDigit, if_neg isPercent, if_pos isLetter] at prints
    cases numbers with
    | nil => cases prints
    | cons number numbers =>
      obtain ⟨text, isRest, rfl⟩ := Option.map_eq_some_iff.1 prints
      exact Or.inr (Or.inr ⟨isLetter, number, numbers, text, isRest, rfl⟩)
  · have undefined : printRest (some width) (c :: rest) numbers = none := by
      rw [printRest_inside, if_neg isDigit, if_neg isPercent, if_neg isLetter]
    rw [undefined] at prints
    cases prints

/-- Percent signs of a format, those of a directive that has been entered counted. -/
def percents (mode : Option (List Char)) (format : List Char) : Nat :=
  format.count '%' + if mode.isSome then 1 else 0

/-- Every directive that prints an integer takes up a percent sign and a `d`, and every printed
percent sign takes up two. -/
theorem printRest_counts {mode : Option (List Char)} {format out : List Char} {numbers : List Nat}
    (prints : printRest mode format numbers = some out) :
    ∃ used, percents mode format = 2 * out.count '%' + used ∧
      format.count 'd' = out.count 'd' + used := by
  induction format generalizing mode numbers out with
  | nil =>
    cases mode with
    | none =>
      obtain rfl : [] = out := by simpa [printRest] using prints
      exact ⟨0, rfl, rfl⟩
    | some width => simp [printRest] at prints
  | cons c rest ih =>
    cases mode with
    | none =>
      rw [printRest_text] at prints
      split at prints
      · rename_i isPercent
        obtain ⟨used, isPercents, isLetters⟩ := ih prints
        exact ⟨used, by simpa [percents, isPercent] using isPercents, by
          simpa [isPercent] using isLetters⟩
      · rename_i isText
        obtain ⟨text, isRest, rfl⟩ := Option.map_eq_some_iff.1 prints
        obtain ⟨used, isPercents, isLetters⟩ := ih isRest
        refine ⟨used, by simpa [percents, isText] using isPercents, ?_⟩
        rw [List.count_cons, List.count_cons, isLetters]
        omega
    | some width =>
      rcases printRest_directive prints with ⟨isDigit, goesOn⟩ | ⟨rfl, text, isRest, rfl⟩ |
        ⟨rfl, number, others, text, isRest, rfl⟩
      · obtain ⟨used, isPercents, isLetters⟩ := ih goesOn
        have notPercent : c ≠ '%' := fun same => absurd isDigit (by rw [same]; decide)
        have notLetter : c ≠ 'd' := fun same => absurd isDigit (by rw [same]; decide)
        exact ⟨used, by simpa [percents, notPercent] using isPercents, by
          simpa [notLetter] using isLetters⟩
      · obtain ⟨used, isPercents, isLetters⟩ := ih isRest
        have before : percents none rest = rest.count '%' := rfl
        refine ⟨used, ?_, by simpa using isLetters⟩
        simp only [percents, List.count_cons_self, Option.isSome_some, if_true]
        omega
      · obtain ⟨used, isPercents, isLetters⟩ := ih isRest
        have before : percents none rest = rest.count '%' := rfl
        refine ⟨used + 1, ?_, ?_⟩
        · rw [percents, List.count_append, count_printed (by decide),
            List.count_cons_of_ne (by decide)]
          simp only [Option.isSome_some, if_true]
          omega
        · rw [List.count_append, count_printed (by decide), List.count_cons_self]
          omega

end VirtualTape.Printf
