import Mathlib.Data.List.Basic

/-!
# Partly cached lists

A cache holds copies of some elements of a stored list, in the order of that list. `Cached` relates
the two: every stored element either has its copy at the front of the remaining cache, or is away,
which it may only be if `away` allows it. The rules say how caches are changed in place, joined,
split, and emptied of copies that may be away.
-/

namespace VirtualTape

/-- The first list holds copies of some elements of the second, in order; the others are away. -/
inductive Cached {α β : Type} (copy : α → β → Prop) (away : β → Prop) : List α → List β → Prop
  /-- Nothing is stored. -/
  | nil : Cached copy away [] []
  /-- The first stored element is cached. -/
  | here {a : α} {b : β} {as : List α} {bs : List β} (head : copy a b)
      (tail : Cached copy away as bs) : Cached copy away (a :: as) (b :: bs)
  /-- The first stored element is away. -/
  | away {b : β} {as : List α} {bs : List β} (head : away b) (tail : Cached copy away as bs) :
      Cached copy away as (b :: bs)

namespace Cached

variable {α β : Type} {copy copy' : α → β → Prop} {away away' : β → Prop}
  {as as' : List α} {bs bs' : List β}

/-- Every copy is a copy of a stored element. -/
theorem exists_of_mem (cached : Cached copy away as bs) {a : α} (mem : a ∈ as) :
    ∃ b ∈ bs, copy a b := by
  induction cached with
  | nil => exact absurd mem List.not_mem_nil
  | @here a' b as bs head tail ih =>
    rcases List.mem_cons.1 mem with rfl | rest
    · exact ⟨b, List.mem_cons_self, head⟩
    · obtain ⟨found, inside, isCopy⟩ := ih rest
      exact ⟨found, List.mem_cons_of_mem _ inside, isCopy⟩
  | away head tail ih =>
    obtain ⟨found, inside, isCopy⟩ := ih mem
    exact ⟨found, List.mem_cons_of_mem _ inside, isCopy⟩

/-- Every stored element is cached or away. -/
theorem cached_or_away (cached : Cached copy away as bs) {b : β} (mem : b ∈ bs) :
    (∃ a ∈ as, copy a b) ∨ away b := by
  induction cached with
  | nil => exact absurd mem List.not_mem_nil
  | @here a b' as bs head tail ih =>
    rcases List.mem_cons.1 mem with rfl | rest
    · exact Or.inl ⟨a, List.mem_cons_self, head⟩
    · refine (ih rest).imp_left ?_
      rintro ⟨found, inside, isCopy⟩
      exact ⟨found, List.mem_cons_of_mem _ inside, isCopy⟩
  | @away b' as bs head tail ih =>
    rcases List.mem_cons.1 mem with rfl | rest
    · exact Or.inr head
    · exact ih rest

/-- Caches of two parts make a cache of the whole. -/
theorem append (cached : Cached copy away as bs) (cached' : Cached copy away as' bs') :
    Cached copy away (as ++ as') (bs ++ bs') := by
  induction cached with
  | nil => exact cached'
  | here head tail ih => exact .here head ih
  | away head tail ih => exact .away head ih

/-- A cache of a whole is made of caches of its parts. -/
theorem of_append {whole : List α} (cached : Cached copy away whole (bs ++ bs')) :
    ∃ as as', whole = as ++ as' ∧ Cached copy away as bs ∧ Cached copy away as' bs' := by
  induction bs generalizing whole with
  | nil => exact ⟨[], whole, rfl, .nil, cached⟩
  | cons b bs ih =>
    cases cached with
    | here head tail =>
      obtain ⟨as, as', rfl, front, back⟩ := ih tail
      exact ⟨_ :: as, as', rfl, .here head front, back⟩
    | away head tail =>
      obtain ⟨as, as', rfl, front, back⟩ := ih tail
      exact ⟨as, as', rfl, .away head front, back⟩

/-- A cache and what it caches, split at a copy. -/
theorem split (cached : Cached copy away as bs) {a : α} (mem : a ∈ as) :
    ∃ front back before b behind, as = front ++ a :: back ∧ bs = before ++ b :: behind ∧
      Cached copy away front before ∧ copy a b ∧ Cached copy away back behind := by
  induction cached with
  | nil => exact absurd mem List.not_mem_nil
  | @here a' b as bs head tail ih =>
    rcases List.mem_cons.1 mem with rfl | rest
    · exact ⟨[], as, [], b, bs, rfl, rfl, .nil, head, tail⟩
    · obtain ⟨front, back, before, b', behind, rfl, rfl, first, isCopy, second⟩ := ih rest
      exact ⟨a' :: front, back, b :: before, b', behind, rfl, rfl, .here head first, isCopy, second⟩
  | @away b as bs head tail ih =>
    obtain ⟨front, back, before, b', behind, rfl, rfl, first, isCopy, second⟩ := ih mem
    exact ⟨front, back, b :: before, b', behind, rfl, rfl, .away head first, isCopy, second⟩

/-- Nothing cached means that everything is away. -/
theorem nil_iff : Cached copy away [] bs ↔ ∀ b ∈ bs, away b := by
  constructor
  · intro cached b mem
    rcases cached.cached_or_away mem with ⟨a, inside, -⟩ | gone
    · exact absurd inside List.not_mem_nil
    · exact gone
  · intro gone
    induction bs with
    | nil => exact .nil
    | cons b bs ih =>
      exact .away (gone b List.mem_cons_self) (ih fun c mem => gone c (List.mem_cons_of_mem _ mem))

/-- Where everything may be away, copies can be dropped. -/
theorem sublist (cached : Cached copy away as bs) (sub : as'.Sublist as)
    (allowed : ∀ b ∈ bs, away b) : Cached copy away as' bs := by
  induction cached generalizing as' with
  | nil =>
    rw [List.sublist_nil.1 sub]
    exact .nil
  | here head tail ih =>
    have rest := fun b mem => allowed b (List.mem_cons_of_mem _ mem)
    cases sub with
    | cons _ sub => exact .away (allowed _ List.mem_cons_self) (ih sub rest)
    | cons_cons _ sub => exact .here head (ih sub rest)
  | away head tail ih =>
    exact .away head (ih sub fun b mem => allowed b (List.mem_cons_of_mem _ mem))

end Cached

end VirtualTape
