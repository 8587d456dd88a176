import Mathlib.Logic.Function.Basic

/-!
# Inventories

An inventory says what each place holds, if anything. Nothing is in two places. Taking something
out and putting something into an empty place keep that, and moves and exchanges are made of the
two.
-/

namespace VirtualTape

namespace Inventory

variable {P H : Type} {inv : P → Option H} {p q s t : P} {h k x y : H}

/-- Nothing is in two places. -/
def Single (inv : P → Option H) : Prop :=
  ∀ p q h, inv p = some h → inv q = some h → p = q

/-- Something is in some place. -/
def Holds (inv : P → Option H) (h : H) : Prop :=
  ∃ p, inv p = some h

variable [DecidableEq P]

/-- Put something into a place. -/
def put (inv : P → Option H) (p : P) (h : H) : P → Option H :=
  Function.update inv p (some h)

/-- Empty a place. -/
def take (inv : P → Option H) (p : P) : P → Option H :=
  Function.update inv p none

/-- A place is as it was left. -/
@[simp]
theorem put_same : put inv p h p = some h := by
  simp [put]

/-- A place is as it was left. -/
@[simp]
theorem take_same : take inv p p = none := by
  simp [take]

/-- Other places stay as they are. -/
theorem put_other (other : q ≠ p) : put inv p h q = inv q := by
  simp [put, other]

/-- Other places stay as they are. -/
theorem take_other (other : q ≠ p) : take inv p q = inv q := by
  simp [take, other]

/-- What is nowhere may be put anywhere. -/
theorem Single.put (single : Single inv) (absent : ¬ Holds inv h) : Single (put inv p h) := by
  intro q r k atQ atR
  by_cases isQ : q = p <;> by_cases isR : r = p
  · rw [isQ, isR]
  · subst isQ
    rw [put_same] at atQ
    rw [put_other isR] at atR
    exact absurd ⟨r, atR⟩ (Option.some.inj atQ ▸ absent)
  · subst isR
    rw [put_same] at atR
    rw [put_other isQ] at atQ
    exact absurd ⟨q, atQ⟩ (Option.some.inj atR ▸ absent)
  · rw [put_other isQ] at atQ
    rw [put_other isR] at atR
    exact single q r k atQ atR

/-- An emptied place holds nothing twice. -/
theorem Single.take (single : Single inv) : Single (take inv p) := by
  intro q r k atQ atR
  have notQ : q ≠ p := by
    rintro rfl
    simp at atQ
  have notR : r ≠ p := by
    rintro rfl
    simp at atR
  rw [take_other notQ] at atQ
  rw [take_other notR] at atR
  exact single q r k atQ atR

/-- What is held after putting something into an empty place. -/
theorem holds_put (empty : inv p = none) : Holds (put inv p h) k ↔ k = h ∨ Holds inv k := by
  constructor
  · rintro ⟨q, atQ⟩
    by_cases isQ : q = p
    · subst isQ
      rw [put_same] at atQ
      exact .inl (Option.some.inj atQ).symm
    · rw [put_other isQ] at atQ
      exact .inr ⟨q, atQ⟩
  · rintro (rfl | ⟨q, atQ⟩)
    · exact ⟨p, put_same⟩
    · have notP : q ≠ p := by
        rintro rfl
        rw [empty] at atQ
        simp at atQ
      exact ⟨q, by rw [put_other notP, atQ]⟩

/-- What is held after emptying a place. -/
theorem Single.holds_take (single : Single inv) (here : inv p = some h) :
    Holds (Inventory.take inv p) k ↔ k ≠ h ∧ Holds inv k := by
  constructor
  · rintro ⟨q, atQ⟩
    have notP : q ≠ p := by
      rintro rfl
      simp at atQ
    rw [take_other notP] at atQ
    refine ⟨?_, q, atQ⟩
    rintro rfl
    exact notP (single q p k atQ here)
  · rintro ⟨other, q, atQ⟩
    have notP : q ≠ p := by
      rintro rfl
      rw [here] at atQ
      exact other (Option.some.inj atQ).symm
    exact ⟨q, by rw [take_other notP, atQ]⟩

/-! ## Moves and exchanges -/

/-- Move what is in one place to another. -/
def move (inv : P → Option H) (s t : P) (x : H) : P → Option H :=
  put (take inv s) t x

/-- A move to a place that is empty without what is moved keeps everything, once. -/
theorem Single.move (single : Single inv) (here : inv s = some x)
    (empty : Inventory.take inv s t = none) :
    Single (move inv s t x) ∧ ∀ k, Holds (Inventory.move inv s t x) k ↔ Holds inv k := by
  have absent : ¬ Holds (Inventory.take inv s) x := fun held =>
    ((single.holds_take here).1 held).1 rfl
  refine ⟨single.take.put absent, fun k => ?_⟩
  unfold Inventory.move
  rw [holds_put empty, single.holds_take here]
  constructor
  · rintro (rfl | ⟨-, held⟩)
    · exact ⟨s, here⟩
    · exact held
  · intro held
    by_cases same : k = x
    · exact .inl same
    · exact .inr ⟨same, held⟩

/-- Move what is in a first place to a second one, and what is there to a third. -/
def exchange (inv : P → Option H) (s p t : P) (x y : H) : P → Option H :=
  put (move (take inv p) s p x) t y

/-- An exchange whose third place is empty without what is exchanged keeps everything, once. -/
theorem Single.exchange (single : Single inv) (apart : s ≠ p) (here : inv s = some x)
    (there : inv p = some y) (empty : Inventory.take inv s t = none) (other : t ≠ p) :
    Single (exchange inv s p t x y) ∧
      ∀ k, Holds (Inventory.exchange inv s p t x y) k ↔ Holds inv k := by
  have still : Inventory.take inv p s = some x := by rw [take_other apart, here]
  have cleared : Inventory.take (Inventory.take inv p) s p = none := by
    rw [take_other apart.symm, take_same]
  obtain ⟨once, held⟩ := single.take.move still cleared
  have absent : ¬ Holds (Inventory.move (Inventory.take inv p) s p x) y := fun found =>
    ((single.holds_take there).1 ((held y).1 found)).1 rfl
  have free : Inventory.move (Inventory.take inv p) s p x t = none := by
    unfold Inventory.move
    rw [put_other other]
    by_cases same : t = s
    · rw [same, take_same]
    · rw [take_other same, take_other other]
      rwa [take_other same] at empty
  refine ⟨once.put absent, fun k => ?_⟩
  unfold Inventory.exchange
  rw [holds_put free, held k, single.holds_take there]
  constructor
  · rintro (rfl | ⟨-, found⟩)
    · exact ⟨p, there⟩
    · exact found
  · intro found
    by_cases same : k = y
    · exact .inl same
    · exact .inr ⟨same, found⟩

end Inventory

end VirtualTape
