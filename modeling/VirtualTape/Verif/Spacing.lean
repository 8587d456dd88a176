import VirtualTape.Lib.Walk
import VirtualTape.Core.SpaceCommand
import VirtualTape.Verif.Locate
import VirtualTape.Verif.ReadPosition

/-!
# Where SPACE leaves a tape

The reference for SPACE is a walk along the recorded objects, forward from the position or backward
from it. SPACE itself walks inside the current map, passes over whole maps by the counts of their
slots, and walks inside the map in which it has to stop. Forward, the number of objects of a map is
the distance to the next map. Backward the distance to the map in front is taken, which is right
because a map without marks is as long as the map in front of it.
-/

namespace VirtualTape

variable {tally : Prop} {origin s s' : State} {image : Image} {mlookup mlookup' : MapLookup}
  {map cur : BlkMap} {img : MapImage} {index slot fuel todo : Nat} {env : Env} {code : SpaceCode}
  {entries : List BlkEntry}

/-! ## Walks inside a map -/

/-- The reference for SPACE: step over objects until enough are counted, or a mark interrupts. -/
def spaceWalk (code : SpaceCode) (objects : List BlkEntry) (todo : Nat) : WalkEnd Status :=
  walk (iterSpaceCount code) (iterSpaceStop code) objects todo

/-- The status that belongs to the end of a walk inside a map. -/
def WalkEnd.status (result : WalkEnd Status) : Status := result.stopped.getD .ok

/-- The objects from a map on. -/
def Image.ahead (image : Image) (index : Nat) : List BlkEntry :=
  (image.maps.drop index).flatMap MapImage.entries

/-- The objects in front of a map, the nearest first. -/
def Image.behind (image : Image) (index : Nat) : List BlkEntry :=
  ((image.maps.take index).flatMap MapImage.entries).reverse

namespace Image

/-- The objects of a map come first. -/
theorem ahead_eq (found : image.maps[index]? = some img) :
    image.ahead index = img.entries ++ image.ahead (index + 1) := by
  obtain ⟨inside, isMap⟩ := List.getElem?_eq_some_iff.1 found
  rw [ahead, List.drop_eq_getElem_cons inside, isMap, List.flatMap_cons]
  rfl

/-- Behind the last map there is nothing. -/
theorem ahead_eq_nil (beyond : image.maps.length ≤ index) : image.ahead index = [] := by
  rw [ahead, List.drop_eq_nil_of_le beyond]
  rfl

/-- The objects behind a place in a map. -/
theorem objects_drop (found : image.maps[index]? = some img) {count : Nat}
    (le : count ≤ img.entries.length) :
    image.objects.drop (image.objectsBefore index + count) =
      img.entries.drop count ++ image.ahead (index + 1) := by
  have split : image.objects = (image.maps.take index).flatMap MapImage.entries ++
      image.ahead index := by
    rw [objects, ahead, ← List.flatMap_append, List.take_append_drop]
  rw [split, objectsBefore, List.drop_length_add_append, ahead_eq found,
    List.drop_append_of_le_length le]

/-- The objects in front of a place in a map, the nearest first. -/
theorem objects_take_reverse (found : image.maps[index]? = some img) {count : Nat}
    (le : count ≤ img.entries.length) :
    (image.objects.take (image.objectsBefore index + count)).reverse =
      (img.entries.take count).reverse ++ image.behind index := by
  rw [objects_take found le, List.reverse_append]
  rfl

end Image

namespace MapImage.Counted

variable (counted : img.Counted)

include counted

end MapImage.Counted

/-- The slot of a map reads back as the map. -/
theorem Clean.slot_at (clean : Clean origin tally s image)
    (at_ : SlotAt tally image s mlookup slot index) :
    ∃ img, image.maps[index]? = some img ∧ mlookup.entries slot = img.slot ∧ img.Fits ∧
      img.Counted ∧ mentryLidStart (mlookup.entries slot) = image.objectsBefore index := by
  obtain ⟨link, cached, inside, rfl⟩ := at_
  have found := List.getElem?_eq_getElem inside
  have isMap := (Image.maps_getElem? cached.mem inside).trans found
  have mem := List.mem_of_getElem? isMap
  have isSlot := cached.slot_eq found
  have fits := clean.readable.mapFits _ mem
  refine ⟨_, isMap, isSlot, fits, clean.counted _ mem, ?_⟩
  rw [isSlot, fits.slot_lidStart, clean.formed.map_start isMap]

/-- Behind the slot of the last map there is no slot; behind any other there is that of the next
map. -/
theorem Clean.nextEntry_cases (clean : Clean origin tally s image)
    (at_ : SlotAt tally image s mlookup slot index) :
    (index + 1 = image.maps.length ∧ mlookup.nextBlock = 0 ∧
        mapLookupNextEntry s mlookup slot = none) ∨
      ∃ mlookup' slot' s', mapLookupNextEntry s mlookup slot = some (mlookup', slot', s') ∧
        SlotAt tally image s' mlookup' slot' (index + 1) ∧ Fetched tally image s s' := by
  cases found : mapLookupNextEntry s mlookup slot with
  | some next =>
    obtain ⟨mlookup', slot', after⟩ := next
    exact Or.inr ⟨mlookup', slot', after, rfl, clean.nextEntry at_ found⟩
  | none =>
    obtain ⟨link, cached, inside, rfl⟩ := at_
    have count : mlookup.mapNrs = link.img.maps.length := cached.copy.page.mapNrs
    rw [mapLookupNextEntry, count] at found
    split at found
    · exact absurd found (by simp)
    · rename_i last
      rcases clean.loadNext cached with ⟨ends, -⟩ | ⟨next, link', after, loaded, ordinal, at', -⟩
      · have nextBlock : mlookup.nextBlock = image.wordAt (link.ordinal + 1) :=
          cached.copy.page.nextBlock
        have total := Image.last_link cached.mem ends
        refine Or.inl ⟨by omega, ?_, rfl⟩
        rw [nextBlock]
        exact clean.readable.wordAt_eq_zero.2 ends
      · have count' : next.mapNrs = link'.img.maps.length := at'.copy.page.mapNrs
        have nonempty := (clean.formed.lookups _ (Image.mem_of_mem_links at'.mem)).nonempty
        rw [loaded] at found
        simp only [count', List.length_eq_zero_iff, if_neg nonempty] at found
        exact absurd found (by simp)

/-- Behind the end of a map that is not the last one the tape goes on. -/
theorem Clean.hasNext (clean : Clean origin tally s image)
    (at_ : SlotAt tally image s mlookup map.mlookupEntryId index)
    (more : index + 1 < image.maps.length) : mapLookupMapHasNext mlookup map = true := by
  by_contra last
  rw [Bool.not_eq_true, mapLookupMapHasNext, Bool.or_eq_false_iff, Bool.and_eq_false_iff,
    bne_eq_false_iff_eq, bne_eq_false_iff_eq, bne_eq_false_iff_eq] at last
  rcases clean.nextEntry_cases at_ with ⟨isLast, -, -⟩ | ⟨next, slot, after, step, -, -⟩
  · omega
  · rw [mapLookupNextEntry, if_neg (by omega), mapLookupLoadNext, if_pos last.1] at step
    exact absurd step (by simp)

/-- Behind the last map there is nothing. -/
theorem Clean.hasNext_last (clean : Clean origin tally s image)
    (at_ : SlotAt tally image s mlookup map.mlookupEntryId index)
    (last : index + 1 = image.maps.length) : mapLookupMapHasNext mlookup map = false := by
  obtain ⟨link, cached, inside, number⟩ := at_
  have count : mlookup.mapNrs = link.img.maps.length := cached.copy.page.mapNrs
  rcases clean.nextEntry_cases ⟨link, cached, inside, number⟩ with
    ⟨-, nextBlock, none⟩ | ⟨next, slot, after, -, at', fetched⟩
  · have noSlot : ¬ map.mlookupEntryId + 1 < mlookup.mapNrs := by
      intro more
      rw [mapLookupNextEntry, if_pos more] at none
      exact absurd none (by simp)
    rw [mapLookupMapHasNext, nextBlock, Bool.or_eq_false_iff, Bool.and_eq_false_iff,
      bne_eq_false_iff_eq, bne_eq_false_iff_eq, bne_eq_false_iff_eq]
    exact ⟨rfl, Or.inr (by omega)⟩
  · obtain ⟨img, isMap, -⟩ := (fetched.clean clean).slot_at at'
    have inside' := (List.getElem?_eq_some_iff.1 isMap).1
    omega

/-- Every lookup that starts between two objects, and is cached or can be loaded, says which one is in
front of it. -/
def LinkedBack (image : Image) (stop start : Nat) (s : State) : Prop :=
  ∀ mlookup, mlookup ∈ s.part.mlookups ∨ s.Loads mlookup → ∀ link ∈ image.links,
    stop < link.img.lIdsStart → link.img.lIdsStart ≤ start →
    mlookup.bid = link.img.bid → mlookup.bStart = link.img.bStart →
    mlookup.prevBlock = image.prevWord link.ordinal

/-- Loading lookups keeps them linked. -/
theorem LinkedBack.fetched {stop start : Nat} (linked : LinkedBack image stop start s)
    (fetched : Fetched tally image s s') : LinkedBack image stop start s' := by
  intro mlookup known
  refine linked mlookup ?_
  rcases known with cached | loads
  · exact fetched.loaded mlookup cached
  · obtain ⟨mlookups, rfl⟩ := fetched.state
    exact Or.inr loads

section SpaceFrom

variable {within : Nat → BlkMap → Status × Nat × BlkMap}
  {across : Nat → MapLookup → Nat → State →
    Search (Option (MapLookup × Nat × Nat) × Status × State)}
  (poslast : Bool) {result : WalkEnd Status} {count : Nat}

end SpaceFrom

end VirtualTape
