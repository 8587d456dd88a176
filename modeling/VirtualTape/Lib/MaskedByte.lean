import Mathlib.Data.List.Basic

/-!
# Bytes of which some bits are replaced

A mask says which bits of a byte are taken from a new byte; the others stay. Replacing the same bits
twice is replacing them once, and a byte stays as it is if and only if the new bits are the old ones.
When values are written one after the other, the last one that was written stays.
-/

namespace VirtualTape

/-- Take the bits of the mask from another byte. -/
def replaceBits (mask old new : UInt8) : UInt8 := (old &&& ~~~mask) ||| (new &&& mask)

/-- Two bytes with the same bits are the same. -/
theorem byte_ext {a b : UInt8}
    (same : ∀ place < 8, a.toBitVec.getLsbD place = b.toBitVec.getLsbD place) : a = b :=
  UInt8.toBitVec_inj.mp (BitVec.eq_of_getLsbD_eq fun place inside => same place inside)

/-- A bit is new inside the mask and old outside. -/
theorem replaceBits_bit (mask old new : UInt8) {place : Nat} (inside : place < 8) :
    (replaceBits mask old new).toBitVec.getLsbD place =
      if mask.toBitVec.getLsbD place then new.toBitVec.getLsbD place
      else old.toBitVec.getLsbD place := by
  rw [replaceBits, UInt8.toBitVec_or, UInt8.toBitVec_and, UInt8.toBitVec_and, UInt8.toBitVec_not,
    BitVec.getLsbD_or, BitVec.getLsbD_and, BitVec.getLsbD_and, BitVec.getLsbD_not,
    decide_eq_true inside]
  cases mask.toBitVec.getLsbD place <;> simp

/-- All bits are replaced. -/
theorem replaceBits_all (old new : UInt8) : replaceBits 0xFF old new = new := by
  have noBits : ~~~(0xFF : UInt8) = 0 := rfl
  have allBits : (0xFF : UInt8) = -1 := rfl
  rw [replaceBits, noBits, UInt8.and_zero, UInt8.zero_or, allBits, UInt8.and_neg_one]

/-- Replacing the same bits twice is replacing them once. -/
theorem replaceBits_replaceBits (mask old first second : UInt8) :
    replaceBits mask (replaceBits mask old first) second = replaceBits mask old second := by
  refine byte_ext fun place inside => ?_
  simp only [replaceBits_bit _ _ _ inside]
  split
  · rfl
  · rfl

/-- Inside the mask the bits are the new ones. -/
theorem replaceBits_and (mask old new : UInt8) : replaceBits mask old new &&& mask = new &&& mask := by
  refine byte_ext fun place inside => ?_
  rw [UInt8.toBitVec_and, UInt8.toBitVec_and, BitVec.getLsbD_and, BitVec.getLsbD_and,
    replaceBits_bit _ _ _ inside]
  cases mask.toBitVec.getLsbD place <;> simp

/-- A byte stays as it is if and only if the new bits are the old ones. -/
theorem replaceBits_eq_self_iff (mask old new : UInt8) :
    replaceBits mask old new = old ↔ new &&& mask = old &&& mask := by
  constructor
  · intro same
    rw [← replaceBits_and mask old new, same]
  · intro same
    refine byte_ext fun place inside => ?_
    have sameBit := congrArg (fun byte => byte.toBitVec.getLsbD place) same
    rw [UInt8.toBitVec_and, UInt8.toBitVec_and, BitVec.getLsbD_and, BitVec.getLsbD_and] at sameBit
    rw [replaceBits_bit _ _ _ inside]
    split
    · simp_all
    · rfl

/-! ## The last write -/

section LastWrite

variable {α β : Type*} (write : β → α → β) (writes : α → Bool)

/-- When values are written one after the other, the last one that was written stays. -/
theorem foldl_eq_last (keeps : ∀ value item, writes item = false → write value item = value)
    (absorbs : ∀ value earlier item, writes item = true →
      write (write value earlier) item = write value item) (items : List α) (value : β) :
    items.foldl write value = ((items.reverse.find? writes).map (write value)).getD value := by
  induction items generalizing value with
  | nil => rfl
  | cons item items ih =>
    rw [List.foldl_cons, ih, List.reverse_cons, List.find?_append]
    cases found : items.reverse.find? writes with
    | some last => exact absorbs value item last (List.find?_some found)
    | none =>
      cases isWrite : writes item with
      | true => simp [isWrite]
      | false => simp [isWrite, keeps value item isWrite]

/-- The value stays as it is if and only if the last item that is written leaves it. -/
theorem foldl_eq_self_iff (keeps : ∀ value item, writes item = false → write value item = value)
    (absorbs : ∀ value earlier item, writes item = true →
      write (write value earlier) item = write value item) (items : List α) (value : β) :
    items.foldl write value = value ↔
      ∀ item, items.reverse.find? writes = some item → write value item = value := by
  rw [foldl_eq_last write writes keeps absorbs]
  cases items.reverse.find? writes with
  | none => simp
  | some last => simp

end LastWrite

end VirtualTape
