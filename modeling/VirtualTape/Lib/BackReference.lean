import Mathlib.Data.List.Basic

/-!
# Copying from what was written

A list is extended by items of its own, one after the other, so items that were just appended can be
copied again.
-/

namespace VirtualTape

variable {α : Type} {ref : Nat} {out : List α}

/-- Append items of a list from a position on; none if an item is not there yet. -/
def copyBack : Nat → Nat → List α → Option (List α)
  | 0, _, out => some out
  | count + 1, ref, out => out[ref]?.bind fun item => copyBack count (ref + 1) (out ++ [item])

/-- From a position inside the list on, items are always there. -/
theorem copyBack_isSome (count : Nat) (inside : ref < out.length) :
    (copyBack count ref out).isSome = true := by
  induction count generalizing ref out with
  | zero => rfl
  | succ count ih =>
    rw [copyBack, List.getElem?_eq_getElem inside, Option.bind_some]
    exact ih (by simp [inside])

/-- Items that lie in front of the end can be copied at once. -/
theorem copyBack_disjoint (count : Nat) (apart : ref + count ≤ out.length) :
    copyBack count ref out = some (out ++ (out.drop ref).take count) := by
  induction count generalizing ref out with
  | zero => simp [copyBack]
  | succ count ih =>
    have inside : ref < out.length := by omega
    rw [copyBack, List.getElem?_eq_getElem inside, Option.bind_some, ih (by simp; omega),
      List.drop_append_of_le_length (by omega),
      List.take_append_of_le_length (by simp; omega), List.drop_eq_getElem_cons inside,
      List.take_succ_cons, List.append_assoc, List.singleton_append]

end VirtualTape
