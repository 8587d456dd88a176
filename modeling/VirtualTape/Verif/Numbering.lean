import VirtualTape.Verif.Places

/-!
# Numbers of objects and marks

The objects of an image are numbered from zero on, through all its maps. The first logical id of a
map or lookup is the number of objects in front of it, and its mark counts are the numbers of marks
in front of it.
-/

namespace VirtualTape

variable {image : Image} {link : Link} {map : MapImage} {lid index slot : Nat}
  {maps : List MapImage}

/-! ## Logical ids -/

/-- The objects of a map of a formed image are counted from its first logical id on. -/
theorem Consecutive.lids {lid : Nat} {maps : List MapImage} (consecutive : Consecutive lid maps)
    {img : MapImage} (mem : img ∈ maps) :
    img.entries.map BlkEntry.lidStart = List.range' img.lIdsStart img.entries.length := by
  induction maps generalizing lid with
  | nil => exact absurd mem List.not_mem_nil
  | cons head rest ih =>
    obtain ⟨start, lids, others⟩ := consecutive
    rcases List.mem_cons.1 mem with rfl | later
    · rw [start]
      exact lids
    · exact ih others later

/-- The first logical id of a map counts the objects in front of it. -/
theorem Consecutive.start (consecutive : Consecutive lid maps) (found : maps[index]? = some map) :
    map.lIdsStart = lid + ((maps.take index).flatMap MapImage.entries).length := by
  induction maps generalizing lid index with
  | nil => exact absurd found (by simp)
  | cons head rest ih =>
    obtain ⟨start, -, others⟩ := consecutive
    cases index with
    | zero =>
      obtain rfl := Option.some.inj found
      simpa using start
    | succ index =>
      rw [ih others found, List.take_succ_cons, List.flatMap_cons, List.length_append]
      omega

/-- Number of objects in front of a map. -/
def Image.objectsBefore (image : Image) (index : Nat) : Nat :=
  ((image.maps.take index).flatMap MapImage.entries).length

namespace Image

/-- The objects up to a place within a map. -/
theorem objects_take (found : image.maps[index]? = some map) {count : Nat}
    (le : count ≤ map.entries.length) :
    image.objects.take (image.objectsBefore index + count) =
      (image.maps.take index).flatMap MapImage.entries ++ map.entries.take count := by
  have inside := (List.getElem?_eq_some_iff.1 found).1
  have isMap := (List.getElem?_eq_some_iff.1 found).2
  have split : image.objects = (image.maps.take index).flatMap MapImage.entries ++
      (map.entries ++ (image.maps.drop (index + 1)).flatMap MapImage.entries) := by
    rw [Image.objects, ← List.flatMap_cons, ← isMap, ← List.drop_eq_getElem_cons inside,
      ← List.flatMap_append, List.take_append_drop]
  rw [split, Image.objectsBefore, List.take_length_add_append, List.take_append_of_le_length le]

/-- The objects in front of the next map. -/
theorem objectsBefore_succ (found : image.maps[index]? = some map) :
    image.objectsBefore (index + 1) = image.objectsBefore index + map.entries.length := by
  rw [objectsBefore, objectsBefore, List.take_add_one, found, List.flatMap_append,
    List.length_append]
  simp

/-- In front of the end are all objects. -/
theorem objectsBefore_length (image : Image) :
    image.objectsBefore image.maps.length = image.objects.length := by
  rw [objectsBefore, List.take_length]
  rfl

/-- In front of a later map are the objects of the earlier ones. -/
theorem objectsBefore_le (image : Image) {index' : Nat} (le : index ≤ index') :
    image.objectsBefore index ≤ image.objectsBefore index' := by
  have split := List.take_append_drop index (image.maps.take index')
  rw [List.take_take, Nat.min_eq_left le] at split
  rw [objectsBefore, objectsBefore, ← split, List.flatMap_append, List.length_append]
  exact Nat.le_add_right _ _

/-- A map with its objects ends within the image. -/
theorem objectsBefore_add_le (found : image.maps[index]? = some map) :
    image.objectsBefore index + map.entries.length ≤ image.objects.length := by
  have inside := (List.getElem?_eq_some_iff.1 found).1
  rw [← objectsBefore_succ found, ← objectsBefore_length]
  exact objectsBefore_le image inside

/-- Maps with objects have different numbers of objects in front. -/
theorem Filled.index_eq (filled : image.Filled) {index' : Nat} {map' : MapImage}
    (found : image.maps[index]? = some map) (found' : image.maps[index']? = some map')
    (same : image.objectsBefore index = image.objectsBefore index') : index = index' := by
  have nonempty := List.length_pos_iff.2 (filled map (List.mem_of_getElem? found))
  have nonempty' := List.length_pos_iff.2 (filled map' (List.mem_of_getElem? found'))
  have next := objectsBefore_succ found
  have next' := objectsBefore_succ found'
  rcases Nat.lt_trichotomy index index' with less | equal | more
  · have le := objectsBefore_le image (show index + 1 ≤ index' from less)
    omega
  · exact equal
  · have le := objectsBefore_le image (show index' + 1 ≤ index from more)
    omega

/-- The maps of a lookup are maps of the image. -/
theorem maps_getElem? (mem : link ∈ image.links) (inside : slot < link.img.maps.length) :
    image.maps[link.start + slot]? = link.img.maps[slot]? := by
  have found := List.getElem?_eq_getElem inside
  rw [← map_img_places, List.getElem?_map, places_of_slot mem found, Option.map_some, found]

namespace Formed

variable (formed : image.Formed)

include formed

/-- The first logical id of a map. -/
theorem map_start (found : image.maps[index]? = some map) :
    map.lIdsStart = image.objectsBefore index := by
  rw [formed.consecutive.start found, Nat.zero_add, objectsBefore]

/-- The first logical id of a lookup. -/
theorem link_start (mem : link ∈ image.links) :
    link.img.lIdsStart = image.objectsBefore link.start := by
  have sized := formed.lookups _ (mem_of_mem_links mem)
  have positive := List.length_pos_iff.2 sized.nonempty
  have isFirst := sized.lIdsStart
  rw [List.head?_eq_getElem?, Option.map_eq_some_iff] at isFirst
  obtain ⟨first, found, same⟩ := isFirst
  rw [← maps_getElem? mem positive, Nat.add_zero] at found
  rw [← same, formed.map_start found]

end Formed

end Image

/-! ## Marks -/

/-- The marks in front of a lookup are those of the lookups in front of it. -/
theorem TalliedFrom.start {image : List LookupImage} {filemarks setmarks ordinal : Nat}
    {img : LookupImage} (tallied : TalliedFrom filemarks setmarks image)
    (found : image[ordinal]? = some img) :
    img.fIdsStart = filemarks + ((image.take ordinal).map LookupImage.filemarks).sum ∧
      img.sIdsStart = setmarks + ((image.take ordinal).map LookupImage.setmarks).sum := by
  induction image generalizing filemarks setmarks ordinal with
  | nil => exact absurd found (by simp)
  | cons head rest ih =>
    obtain ⟨first, second, others⟩ := tallied
    cases ordinal with
    | zero =>
      obtain rfl := Option.some.inj found
      simpa using ⟨first, second⟩
    | succ ordinal =>
      have later := ih others found
      simp only [List.take_succ_cons, List.map_cons, List.sum_cons]
      omega

/-- Summing a count over the lookups is summing it over their maps. -/
theorem sum_lookups (count : MapImage → Nat) (image : Image) :
    (image.map fun mlookup => (mlookup.maps.map count).sum).sum = (image.maps.map count).sum := by
  induction image with
  | nil => rfl
  | cons head rest ih =>
    simp only [Image.maps, List.map_cons, List.sum_cons, List.flatMap_cons, List.map_append,
      List.sum_append] at ih ⊢
    omega

/-- Summing the counts of maps is counting their objects. -/
theorem sum_counts {kind : BlkEntry → Bool} {count : MapImage → Nat}
    (counted : ∀ map ∈ maps, count map = (map.entries.filter kind).length) :
    (maps.map count).sum = (maps.flatMap MapImage.entries).countP kind := by
  rw [List.countP_flatMap]
  congr 1
  apply List.map_congr_left
  intro map mem
  rw [counted map mem, ← List.countP_eq_length_filter]
  rfl

/-- The maps in front of a lookup. -/
theorem Image.maps_take_start (mem : link ∈ image.links) :
    Image.maps (image.take link.ordinal) = image.maps.take link.start := by
  obtain ⟨-, start⟩ := getElem?_of_mem_links mem
  have split : image.maps = Image.maps (image.take link.ordinal) ++
      Image.maps (image.drop link.ordinal) := by
    rw [Image.maps, Image.maps, Image.maps, ← List.flatMap_append, List.take_append_drop]
  rw [split, start, List.take_left]

/-- The filemarks among the objects in front of a map. -/
def Image.filemarksBefore (image : Image) (index : Nat) : Nat :=
  ((image.maps.take index).flatMap MapImage.entries).countP BlkEntry.isFilemark

/-- The setmarks among the objects in front of a map. -/
def Image.setmarksBefore (image : Image) (index : Nat) : Nat :=
  ((image.maps.take index).flatMap MapImage.entries).countP BlkEntry.isSetmark

/-- The marks in front of a lookup. -/
theorem Image.Tallied.link_start (tallied : image.Tallied)
    (counted : ∀ map ∈ image.maps, map.Counted) (mem : link ∈ image.links) :
    link.img.fIdsStart = image.filemarksBefore link.start ∧
      link.img.sIdsStart = image.setmarksBefore link.start := by
  have starts := TalliedFrom.start tallied (getElem?_of_mem_links mem).1
  have here : ∀ map ∈ image.maps.take link.start, map.Counted := fun map inside =>
    counted map (List.mem_of_mem_take inside)
  have filemarks := sum_lookups MapImage.fIds (image.take link.ordinal)
  have setmarks := sum_lookups MapImage.sIds (image.take link.ordinal)
  rw [maps_take_start mem] at filemarks setmarks
  rw [sum_counts fun map inside => (here map inside).filemarks] at filemarks
  rw [sum_counts fun map inside => (here map inside).setmarks] at setmarks
  constructor
  · rw [starts.1, Nat.zero_add]
    exact filemarks
  · rw [starts.2, Nat.zero_add]
    exact setmarks

end VirtualTape
