import VirtualTape.Lib.Cached
import VirtualTape.Verif.Readable

/-!
# Partitions without pending writes

As long as the last transfer was not a write, everything in memory is a copy of what the disk
holds. `Clean` says so for a partition and the image it holds: the cached lookups are copies in
chain order that include the first one, and the current map and the maps fetched behind it are
copies of successive maps. Maps in front of the current one are leftovers that nothing uses, and
after some rewinds the pointer to the current map dangles. The origin is the state in which moving
about began.
-/

namespace VirtualTape

/-- A lookup in memory is a copy of a lookup of an image. -/
def LinkCopy (tally : Prop) (image : Image) (mlookup : MapLookup) (link : Link) : Prop :=
  LookupCopy tally mlookup link.img (image.wordAt (link.ordinal + 1)) (image.prevWord link.ordinal)

/-- The cached lookups are copies in chain order; the first one is always cached. -/
def LookupsClean (tally : Prop) (image : Image) (mlookups : List MapLookup) : Prop :=
  Cached (LinkCopy tally image) (fun link => 0 < link.ordinal) mlookups image.links

/-- A map in memory is a copy of the map with a number. -/
def CopyAt (image : Image) (index : Nat) (map : BlkMap) : Prop :=
  ∃ place, image.places[index]? = some place ∧ MapCopy map place

/-- The current map and the maps cached behind it are copies of successive maps. -/
def CursorClean (image : Image) : Cursor → Prop
  | .null => image = []
  | .on _ cur after => ∃ index, CopyAt image index cur ∧
      ∀ offset map, after[offset]? = some map → CopyAt image (index + 1 + offset) map
  | .loose _ _ => False
  | .dangling _ => image ≠ []

/-- The current map and the maps cached behind it. -/
def Cursor.ahead : Cursor → List BlkMap
  | .on _ cur after => cur :: after
  | _ => []

/-- The lookup of a map is cached. -/
def Partition.Anchors (part : Partition) (map : BlkMap) : Prop :=
  ∃ mlookup ∈ part.mlookups, mlookup.bid = map.mlookupBid ∧ mlookup.bStart = map.mlookupBStart

/-- The lookups of the current map and of the maps cached behind it are cached. -/
def Partition.Anchored (part : Partition) : Prop := ∀ map ∈ part.cursor.ahead, part.Anchors map

/-- Moving about: only what is cached, the position and the flags change. -/
structure Moved (s s' : State) : Prop where
  /-- The pool. -/
  group : s'.group = s.group
  /-- The disk is only read. -/
  disk : s'.disk = s.disk
  /-- Only what is cached and the flags change. -/
  part : ∃ mlookups cursor lookupSegments dirRead, s'.part = { s.part with
    mlookups := mlookups
    cursor := cursor
    lookupSegments := lookupSegments
    dirRead := dirRead }
  /-- The write cursors are not declared valid. -/
  lookupSegments : s'.part.lookupSegments = true ∨
    s'.part.lookupSegments = s.part.lookupSegments

/-- A partition holds an image and has no pending writes. -/
structure Clean (origin : State) (tally : Prop) (s : State) (image : Image) : Prop where
  /-- The partition was moved about since its origin. -/
  moved : Moved origin s
  /-- The disk holds the image. -/
  readable : Readable s.group s.disk image
  /-- The image keeps to the sizes of its pages. -/
  formed : image.Formed
  /-- Every map has an object. -/
  filled : image.Filled
  /-- The marks of every map are counted. -/
  counted : ∀ map ∈ image.maps, map.Counted
  /-- The lookups count the marks in front of them, if asked for. -/
  tallied : tally → image.Tallied
  /-- The last transfer was not a write. -/
  dirWrite : s.part.dirWrite = false
  /-- The cached lookups. -/
  lookups : LookupsClean tally image s.part.mlookups
  /-- The cached maps. -/
  cursor : CursorClean image s.part.cursor
  /-- A lookup stays cached as long as a map refers to it. -/
  anchored : s.part.Anchored

variable {shift : Nat} {tally : Prop} {origin s s' : State} {image : Image} {mlookup : MapLookup}
  {link : Link} {place : Place}

namespace Moved

/-- Nothing has to change. -/
theorem refl (s : State) : Moved s s := ⟨rfl, rfl, ⟨_, _, _, _, rfl⟩, Or.inr rfl⟩

/-- Moving twice is moving. -/
theorem trans {s'' : State} (first : Moved s s') (second : Moved s' s'') : Moved s s'' := by
  obtain ⟨mlookups, cursor, flag, dirRead, part⟩ := first.part
  obtain ⟨mlookups', cursor', flag', dirRead', part'⟩ := second.part
  refine ⟨second.group.trans first.group, second.disk.trans first.disk,
    ⟨mlookups', cursor', flag', dirRead', ?_⟩, ?_⟩
  · rw [part', part]
  · rcases second.lookupSegments with set | same
    · exact Or.inl set
    · rw [same]
      exact first.lookupSegments

end Moved

/-- Moving about keeps a partition clean if what is cached afterwards are copies. -/
theorem Clean.move (clean : Clean origin tally s image) (moved : Moved s s')
    (lookups : LookupsClean tally image s'.part.mlookups)
    (cursor : CursorClean image s'.part.cursor) (anchored : s'.part.Anchored) :
    Clean origin tally s' image := by
  obtain ⟨mlookups, cursor', flag, dirRead, part⟩ := moved.part
  refine ⟨clean.moved.trans moved, ?_, clean.formed, clean.filled, clean.counted,
    clean.tallied, ?_, lookups, cursor, anchored⟩
  · rw [moved.group, moved.disk]
    exact clean.readable
  · rw [part]
    exact clean.dirWrite

end VirtualTape
