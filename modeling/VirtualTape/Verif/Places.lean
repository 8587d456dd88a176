import VirtualTape.Spec.Image

/-!
# Places of an image

The links of an image are its lookups in order, and its places are its maps in order; both know
where they are.
-/

namespace VirtualTape

variable {image : Image} {link : Link} {place : Place} {ordinal start : Nat}

/-- The links are the lookups in order. -/
theorem map_img_linksFrom (ordinal start : Nat) (image : List LookupImage) :
    (linksFrom ordinal start image).map Link.img = image := by
  induction image generalizing ordinal start with
  | nil => rfl
  | cons mlookup rest ih => simp only [linksFrom, List.map_cons, ih]

/-- A link knows its place in the chain and the number of maps in front of it. -/
theorem linksFrom_getElem? (image : List LookupImage) (index : Nat) :
    (linksFrom ordinal start image)[index]? = (image[index]?).map fun mlookup =>
      ⟨ordinal + index, start + ((image.take index).flatMap LookupImage.maps).length, mlookup⟩ := by
  induction image generalizing ordinal start index with
  | nil => rfl
  | cons mlookup rest ih =>
    cases index with
    | zero => simp [linksFrom]
    | succ index =>
      simp only [linksFrom, List.getElem?_cons_succ, ih, List.take_succ_cons, List.flatMap_cons,
        List.length_append]
      congr 1
      funext found
      simp only [Link.mk.injEq, and_true]
      omega

/-- The link at a place in the chain. -/
theorem Image.links_getElem? (image : Image) (index : Nat) :
    image.links[index]? = (image[index]?).map fun mlookup =>
      ⟨index, (Image.maps (image.take index)).length, mlookup⟩ := by
  simp only [Image.links, linksFrom_getElem?, Nat.zero_add, Image.maps]

/-- A link of an image is the lookup at its place. -/
theorem Image.getElem?_of_mem_links (mem : link ∈ image.links) :
    image[link.ordinal]? = some link.img ∧
      link.start = (Image.maps (image.take link.ordinal)).length := by
  obtain ⟨index, found⟩ := List.getElem?_of_mem mem
  rw [Image.links_getElem?, Option.map_eq_some_iff] at found
  obtain ⟨mlookup, at_, rfl⟩ := found
  exact ⟨at_, rfl⟩

/-- The lookup of a link is in the image. -/
theorem Image.mem_of_mem_links (mem : link ∈ image.links) : link.img ∈ image :=
  List.mem_of_getElem? (Image.getElem?_of_mem_links mem).1

/-- The places of a lookup are its maps in order. -/
theorem Link.map_img_places (link : Link) : link.places.map Place.img = link.img.maps := by
  refine List.ext_getElem? fun slot => ?_
  simp only [Link.places, List.getElem?_map, List.getElem?_mapIdx, Option.map_map]
  exact Option.map_id'

/-- The places are the maps in order. -/
theorem Image.map_img_places (image : Image) : image.places.map Place.img = image.maps := by
  rw [Image.places, List.map_flatMap, Image.maps]
  simp only [Link.map_img_places]
  conv_rhs => rw [← map_img_linksFrom 0 0 image]
  rw [List.flatMap_map]
  rfl

/-- The map of a place is in the image. -/
theorem Image.img_mem_maps (mem : place ∈ image.places) : place.img ∈ image.maps := by
  rw [← image.map_img_places]
  exact List.mem_map_of_mem mem

/-- A place of a lookup knows its slot. -/
theorem Link.mem_places (mem : place ∈ link.places) :
    link.img.maps[place.slot]? = some place.img ∧ place.mlookupBid = link.img.bid ∧
      place.mlookupBStart = link.img.bStart ∧ place.index = link.start + place.slot := by
  obtain ⟨slot, inside, rfl⟩ := List.mem_mapIdx.1 mem
  exact ⟨List.getElem?_eq_getElem inside, rfl, rfl, rfl⟩

/-- A slot of a lookup is one of its places. -/
theorem Link.place_mem {map : MapImage} {slot : Nat} (found : link.img.maps[slot]? = some map) :
    ⟨link.img.bid, link.img.bStart, slot, link.start + slot, map⟩ ∈ link.places := by
  obtain ⟨inside, rfl⟩ := List.getElem?_eq_some_iff.1 found
  exact List.mem_mapIdx.2 ⟨slot, inside, rfl⟩

/-- A place of an image is a slot of one of its lookups. -/
theorem Image.mem_places (mem : place ∈ image.places) :
    ∃ link ∈ image.links, place ∈ link.places := List.mem_flatMap.1 mem

/-- The places of a lookup of an image are places of the image. -/
theorem Image.place_mem_of_link (mem : link ∈ image.links) (inside : place ∈ link.places) :
    place ∈ image.places := List.mem_flatMap.2 ⟨link, mem, inside⟩

/-- The map in a slot of a lookup of the image is in the image. -/
theorem Image.map_mem_of_link {map : MapImage} {slot : Nat} (mem : link ∈ image.links)
    (found : link.img.maps[slot]? = some map) : map ∈ image.maps :=
  List.mem_flatMap.2 ⟨link.img, Image.mem_of_mem_links mem, List.mem_of_getElem? found⟩

/-! ## Numbers of places -/

/-- The maps up to a lookup and its own. -/
theorem Image.take_maps_length (mem : link ∈ image.links) :
    (Image.maps (image.take (link.ordinal + 1))).length = link.start + link.img.maps.length := by
  obtain ⟨found, start⟩ := Image.getElem?_of_mem_links mem
  rw [start, List.take_add_one, found]
  simp only [Option.toList_some, Image.maps, List.flatMap_append, List.flatMap_cons,
    List.flatMap_nil, List.append_nil, List.length_append]

/-- A lookup starts behind the maps of the one in front of it. -/
theorem Image.start_succ {link link' : Link} (mem : link ∈ image.links) (mem' : link' ∈ image.links)
    (next : link'.ordinal = link.ordinal + 1) :
    link'.start = link.start + link.img.maps.length := by
  rw [(Image.getElem?_of_mem_links mem').2, next, Image.take_maps_length mem]

/-- The places of a part of the chain are numbered from its start on. -/
theorem places_getElem?_index (image : List LookupImage) (index : Nat)
    (found : ((linksFrom ordinal start image).flatMap Link.places)[index]? = some place) :
    place.index = start + index := by
  induction image generalizing ordinal start index with
  | nil => exact absurd found (by simp [linksFrom])
  | cons mlookup rest ih =>
    have length : (Link.places ⟨ordinal, start, mlookup⟩).length = mlookup.maps.length := by
      rw [Link.places, List.length_mapIdx]
    rw [linksFrom, List.flatMap_cons] at found
    rcases Nat.lt_or_ge index mlookup.maps.length with inside | outside
    · rw [List.getElem?_append_left (by omega), Link.places, List.getElem?_mapIdx,
        Option.map_eq_some_iff] at found
      obtain ⟨map, -, rfl⟩ := found
      rfl
    · rw [List.getElem?_append_right (by omega), length] at found
      have number := ih (index - mlookup.maps.length) found
      omega

/-- The place with a number. -/
theorem Image.places_index {index : Nat} (found : image.places[index]? = some place) :
    place.index = index := by
  have number := places_getElem?_index image index found
  omega

/-- A place is at its number. -/
theorem Image.getElem?_of_mem_places (mem : place ∈ image.places) :
    image.places[place.index]? = some place := by
  obtain ⟨index, found⟩ := List.getElem?_of_mem mem
  rwa [Image.places_index found]

/-- The slot of a lookup by its number. -/
theorem Image.places_of_slot {map : MapImage} {slot : Nat} (mem : link ∈ image.links)
    (found : link.img.maps[slot]? = some map) :
    image.places[link.start + slot]? =
      some ⟨link.img.bid, link.img.bStart, slot, link.start + slot, map⟩ :=
  Image.getElem?_of_mem_places (Image.place_mem_of_link mem (Link.place_mem found))

end VirtualTape
