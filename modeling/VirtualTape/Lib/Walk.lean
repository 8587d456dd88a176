import Mathlib.Data.List.Basic

/-!
# Counting walks

A walk goes along a list, counts some of its members and ends when it has counted enough, right
behind a member that stops it, or at the end of the list. A walk along several lists in a row may pass
over a list as a whole if nothing in it stops the walk and it has too few members that count.
-/

namespace VirtualTape

variable {α σ : Type}

/-- How a walk ended. -/
structure WalkEnd (σ : Type) where
  /-- Members passed. -/
  passed : Nat
  /-- Members left to count. -/
  left : Nat
  /-- What stopped the walk. -/
  stopped : Option σ
  deriving DecidableEq, Repr

namespace WalkEnd

/-- The same end, reached from further away. -/
def advance (steps : Nat) (result : WalkEnd σ) : WalkEnd σ :=
  { result with passed := steps + result.passed }

/-- The walk was stopped or counted enough. -/
def ended (result : WalkEnd σ) : Bool := result.stopped.isSome || result.left == 0

end WalkEnd

variable (counts : α → Bool) (stops : α → Option σ)

/-- Walk along a list until `todo` members are counted. -/
def walk : List α → Nat → WalkEnd σ
  | [], todo => ⟨0, todo, none⟩
  | x :: rest, todo =>
    if todo = 0 then ⟨0, 0, none⟩
    else
      let left := if counts x then todo - 1 else todo
      match stops x with
      | some status => ⟨1, left, some status⟩
      | none => (walk rest left).advance 1

variable {counts stops} {xs ys : List α} {todo : Nat}

end VirtualTape
