import Mathlib.Tactic.MkIffOfInductiveProp
import VirtualTape.Verif.Clean

/-!
# Partitions with one lookup

Whether a partition is clean can be computed if its index is a single lookup: the lookup and its maps
are loaded and compared with what is in memory.
-/

namespace VirtualTape

/-! ## What is computed -/

/-- The image that a lookup and its maps make up. -/
def oneLookup (mlookup : MapLookup) (maps : List BlkMap) : LookupImage where
  bid := mlookup.bid
  bStart := mlookup.bStart
  segmentId := 0
  lIdsStart := mlookup.lIdsStart
  fIdsStart := mlookup.fIdsStart
  sIdsStart := mlookup.sIdsStart
  maps := maps.map BlkMap.image

/-- A lookup describes an image, and there are no other lookups. -/
@[mk_iff]
structure MapLookup.Describes (mlookup : MapLookup) (img : LookupImage) : Prop where
  /-- The maps are counted. -/
  mapNrs : mlookup.mapNrs = img.maps.length
  /-- It has no successor. -/
  nextBlock : mlookup.nextBlock = 0
  /-- It has no predecessor. -/
  prevBlock : mlookup.prevBlock = 0
  /-- The first logical id. -/
  lIdsStart : mlookup.lIdsStart = img.lIdsStart
  /-- The filemarks in front. -/
  fIdsStart : mlookup.fIdsStart = img.fIdsStart
  /-- The setmarks in front. -/
  sIdsStart : mlookup.sIdsStart = img.sIdsStart
  /-- The slots. -/
  slots : ∀ index < img.maps.length,
    img.maps[index]?.map MapImage.slot = some (mlookup.entries index)

/-- A map fits into its slot and its page, has objects and counts its marks. -/
@[mk_iff]
structure MapImage.Sound (map : MapImage) : Prop where
  /-- The disk id fits. -/
  bid : map.bid < tlMaxDisks
  /-- The sector number fits, and is not the start of a disk. -/
  bStart : 0 < map.bStart ∧ map.bStart < 2 ^ 38
  /-- The first logical id fits. -/
  lIdsStart : map.lIdsStart < 2 ^ 56
  /-- There are objects, and they fit into a page. -/
  length : 0 < map.entries.length ∧ map.entries.length ≤ blkMaxEntries
  /-- The filemarks are counted and fit into a slot. -/
  fIds : map.fIds = (map.entries.filter BlkEntry.isFilemark).length ∧ map.fIds ≤ maxFileMarksPerMap
  /-- The setmarks are counted and fit into a slot. -/
  sIds : map.sIds = (map.entries.filter BlkEntry.isSetmark).length ∧ map.sIds ≤ maxSetMarksPerMap

/-- A map in memory says the same as one that was loaded, at any position. -/
@[mk_iff]
structure BlkMap.Matches (map loaded : BlkMap) : Prop where
  /-- It describes the same. -/
  image : map.image = loaded.image
  /-- It is in the same slot of the same lookup. -/
  slot : map.mlookupBid = loaded.mlookupBid ∧ map.mlookupBStart = loaded.mlookupBStart ∧
    map.mlookupEntryId = loaded.mlookupEntryId
  /-- Nothing of it is pending. -/
  settled : map.isNew = false ∧ map.ioPending = false ∧ map.dirty.isNone = true
  /-- Nothing of its entries is pending. -/
  entries : ∀ entry ∈ map.entries, entry.newData = none ∧ entry.loaded.bid = entry.bid ∧
    entry.loaded.bStart = entry.bStart ∧ entry.loaded.bits = entry.bits
  /-- A current entry exists. -/
  cEntry : map.cEntry.all (· < map.entries.length) = true

/-- Whether maps count their objects from a logical id on. -/
def consecutiveFrom : Nat → List MapImage → Bool
  | _, [] => true
  | lid, map :: rest =>
    decide (map.lIdsStart = lid ∧
      map.entries.map BlkEntry.lidStart = List.range' lid map.entries.length) &&
      consecutiveFrom (lid + map.entries.length) rest

instance (mlookup : MapLookup) (img : LookupImage) : Decidable (mlookup.Describes img) :=
  decidable_of_iff _ (MapLookup.describes_iff mlookup img).symm

instance (map : MapImage) : Decidable map.Sound := decidable_of_iff _ map.sound_iff.symm

instance (map loaded : BlkMap) : Decidable (map.Matches loaded) :=
  decidable_of_iff _ (BlkMap.matches_iff map loaded).symm

/-- A lookup and its maps are what the disk of a partition and its memory hold. -/
@[mk_iff]
structure State.Indexed (s : State) (mlookup : MapLookup) (maps : List BlkMap) (cur : BlkMap)
    (after : List BlkMap) : Prop where
  /-- The last transfer was not a write. -/
  dirWrite : s.part.dirWrite = false
  /-- Pages are whole sectors. -/
  sectors : ∀ bint ∈ s.group.bints, bint.metaBlocks = pageBlocks bint.sectorShift
  /-- The page of the lookup has an address. -/
  bStart : 0 < mlookup.bStart ∧ mlookup.bStart < 2 ^ 38
  /-- The lookup in memory. -/
  inMemory : mlookup.Describes (oneLookup mlookup maps)
  /-- The lookup on disk. -/
  onDisk : ∃ loaded ∈ mapLookupLoad s.group s.disk mlookup.bStart mlookup.bid,
    loaded.Describes (oneLookup mlookup maps)
  /-- Nothing of the lookup is pending. -/
  settled : mlookup.pendingNewMaps = 0 ∧ mlookup.isNew = false ∧ mlookup.ioPending = false ∧
    mlookup.dirty.isNone = true
  /-- The marks are counted, and there are none in front. -/
  marks : mlookup.fIds = (oneLookup mlookup maps).filemarks ∧
    mlookup.sIds = (oneLookup mlookup maps).setmarks ∧ mlookup.fIdsStart = 0 ∧ mlookup.sIdsStart = 0
  /-- There are maps, and they fit into the page. -/
  length : 0 < maps.length ∧ maps.length < nrMapDataEntries
  /-- The lookup starts where the first map starts. -/
  lIdsStart : maps.head?.map BlkMap.lIdsStart = some mlookup.lIdsStart
  /-- The maps. -/
  sound : ∀ map ∈ maps, map.image.Sound
  /-- The objects are counted from zero on. -/
  consecutive : consecutiveFrom 0 (maps.map BlkMap.image) = true
  /-- The maps in memory. -/
  cached : ∀ offset < (cur :: after).length, ∃ map ∈ (cur :: after)[offset]?,
    ∃ loaded ∈ maps[cur.mlookupEntryId + offset]?, map.Matches loaded

instance (s : State) (mlookup : MapLookup) (maps : List BlkMap) (cur : BlkMap)
    (after : List BlkMap) : Decidable (s.Indexed mlookup maps cur after) :=
  decidable_of_iff _ (State.indexed_iff s mlookup maps cur after).symm

/-- The lookup, its maps as they are loaded, the current map and the maps behind it. -/
def State.index (s : State) : Option (MapLookup × List BlkMap × BlkMap × List BlkMap) :=
  match s.part.mlookups, s.part.cursor with
  | [mlookup], .on _ cur after =>
    (walkSlots s.group s.disk mlookup mlookup.mapNrs).map fun maps => (mlookup, maps, cur, after)
  | _, _ => none

/-- The image of a partition with one lookup. -/
def State.image (s : State) : Image :=
  match s.index with
  | some (mlookup, maps, _, _) => [oneLookup mlookup maps]
  | none => []

/-- The partition has one lookup, and it is clean. -/
def State.isIndexed (s : State) : Bool :=
  s.index.any fun (mlookup, maps, cur, after) => decide (s.Indexed mlookup maps cur after)

/-! ## What follows -/

variable {s : State} {mlookup loaded : MapLookup} {maps after : List BlkMap} {map cur : BlkMap}
  {img : LookupImage} {group : Bdevgroup} {disk : Disk}

/-- A lookup that describes an image is a page of it. -/
theorem MapLookup.Describes.page (describes : mlookup.Describes img) :
    LookupPage mlookup.page img img.maps.length 0 0 where
  csum := mlookup.page_csum
  mapNrs := describes.mapNrs
  nextBlock := describes.nextBlock
  prevBlock := Or.inl describes.prevBlock
  lIdsStart := describes.lIdsStart
  fIdsStart := describes.fIdsStart
  sIdsStart := describes.sIdsStart
  slots index map found inside := by
    have slot := describes.slots index inside
    rw [found] at slot
    exact (Option.some.inj slot).symm

/-- A lookup that was loaded is stored. -/
theorem mapLookupLoad_stored {bStart bid : Nat}
    (sectors : ∀ bint ∈ group.bints, bint.metaBlocks = pageBlocks bint.sectorShift)
    (loads : mapLookupLoad group disk bStart bid = some loaded) (describes : loaded.Describes img)
    (isBid : img.bid = bid) (isStart : img.bStart = bStart) :
    ∃ bint shift, bdevFind group img.bid = some bint ∧ bint.metaBlocks = pageBlocks shift ∧
      LookupStored shift disk img img.maps.length 0 0 := by
  subst isBid isStart
  unfold mapLookupLoad at loads
  split at loads
  · cases loads
  · rename_i bint found
    split at loads
    · rename_i raw read
      split at loads
      · rename_i csum
        obtain rfl := Option.some.inj loads
        have blocks := sectors bint (bdevFind_some found).1
        refine ⟨bint, bint.sectorShift, found, blocks, raw, by rw [← blocks]; exact read, ?_⟩
        have page := describes.page
        rw [mapLookupOfRaw_page] at page
        exact { page with csum := csum }
      · cases loads
    · cases loads

/-- A map that was loaded is stored, and the disks of its entries are in the pool. -/
theorem blkMapLoad_stored {entryId : Nat}
    (sectors : ∀ bint ∈ group.bints, bint.metaBlocks = pageBlocks bint.sectorShift)
    (loads : blkMapLoad group disk mlookup entryId false = some map) :
    (∃ bint shift, bdevFind group map.bid = some bint ∧ bint.metaBlocks = pageBlocks shift ∧
      MapStored shift disk map.image) ∧
      (∀ entry ∈ map.image.entries, (bdevFind group entry.bid).isSome = true) ∧
      map.mlookupBid = mlookup.bid ∧ map.mlookupBStart = mlookup.bStart ∧
        map.mlookupEntryId = entryId := by
  simp only [blkMapLoad] at loads
  split at loads
  · cases loads
  · rename_i bint found
    split at loads
    · rename_i raw read
      split at loads
      · rename_i valid
        obtain rfl := Option.some.inj loads
        have blocks := sectors bint (bdevFind_some found).1
        have normal := map_loaded_rawEntries (mentryLidStart (mlookup.entries entryId)) raw
        refine ⟨⟨bint, bint.sectorShift, found, blocks, raw, by rw [← blocks]; exact read,
          valid.1, rfl, normal.symm⟩, ?_, rfl, rfl, rfl⟩
        intro entry mem
        have same : entry ∈ rawEntries (mentryLidStart (mlookup.entries entryId)) raw := normal ▸ mem
        exact List.all_eq_true.1 valid.2 entry same
      · cases loads
    · cases loads

/-- The maps of a lookup are loaded slot by slot. -/
theorem walkSlots_getElem? {count : Nat} (walked : walkSlots group disk mlookup count = some maps) :
    maps.length = count ∧ ∀ index map, maps[index]? = some map →
      blkMapLoad group disk mlookup index false = some map := by
  induction count generalizing maps with
  | zero =>
    obtain rfl := Option.some.inj walked
    exact ⟨rfl, by simp⟩
  | succ count ih =>
    unfold walkSlots at walked
    split at walked
    · rename_i before last front loads
      obtain rfl := Option.some.inj walked
      obtain ⟨length, each⟩ := ih front
      refine ⟨by simp [length], fun index map found => ?_⟩
      rcases Nat.lt_or_ge index before.length with inside | outside
      · rw [List.getElem?_append_left inside] at found
        exact each index map found
      · rw [List.getElem?_append_right outside, List.getElem?_singleton] at found
        split at found
        · obtain rfl := Option.some.inj found
          obtain rfl : index = count := by omega
          exact loads
        · cases found
    · cases walked

/-- Maps that were checked count their objects. -/
theorem consecutive_of_consecutiveFrom {images : List MapImage} {lid : Nat}
    (checked : consecutiveFrom lid images = true) : Consecutive lid images := by
  induction images generalizing lid with
  | nil => trivial
  | cons image rest ih =>
    simp only [consecutiveFrom, Bool.and_eq_true, decide_eq_true_eq] at checked
    exact ⟨checked.1.1, checked.1.2, ih checked.2⟩

/-- A map of one lookup has its place. -/
theorem oneLookup_place {index : Nat} (found : maps[index]? = some map) :
    (Image.places [oneLookup mlookup maps])[index]? =
      some ⟨mlookup.bid, mlookup.bStart, index, index, map.image⟩ := by
  simp [Image.places, Image.links, linksFrom, Link.places, oneLookup, found]

/-- The maps of one lookup. -/
theorem maps_oneLookup : Image.maps [oneLookup mlookup maps] = maps.map BlkMap.image := by
  simp [Image.maps, oneLookup]

/-- A map that matches one of a lookup is a copy of it. -/
theorem BlkMap.Matches.copyAt {index : Nat} {loaded : BlkMap} (same : map.Matches loaded)
    (found : maps[index]? = some loaded) (bid : loaded.mlookupBid = mlookup.bid)
    (bStart : loaded.mlookupBStart = mlookup.bStart) (slot : loaded.mlookupEntryId = index) :
    CopyAt [oneLookup mlookup maps] index map := by
  refine ⟨_, oneLookup_place found, same.image, same.slot.1.trans bid,
    same.slot.2.1.trans bStart, same.slot.2.2.trans slot, same.settled.1, same.settled.2.1,
    Option.isNone_iff_eq_none.1 same.settled.2.2, fun entry mem => (same.entries entry mem).1,
    fun entry mem => ?_, fun position isPosition => ?_⟩
  · obtain ⟨-, isBid, isStart, isBits⟩ := same.entries entry mem
    exact ⟨isBid, isStart, isBits⟩
  · simpa [isPosition] using same.cEntry

namespace State.Indexed

variable (indexed : s.Indexed mlookup maps cur after)

include indexed

/-- The maps fit into their slots. -/
theorem sound_of_mem {image : MapImage} (mem : image ∈ Image.maps [oneLookup mlookup maps]) :
    image.Sound := by
  rw [maps_oneLookup] at mem
  obtain ⟨map, isMap, rfl⟩ := List.mem_map.1 mem
  exact indexed.sound map isMap

variable (walked : walkSlots s.group s.disk mlookup mlookup.mapNrs = some maps)

include walked

/-- The disk holds the lookup and its maps. -/
theorem readable : Readable s.group s.disk [oneLookup mlookup maps] where
  lookups ordinal img found := by
    obtain ⟨isFirst, rfl⟩ : ordinal = 0 ∧ oneLookup mlookup maps = img := by
      rw [List.getElem?_singleton] at found
      split at found
      · exact ⟨‹_›, Option.some.inj found⟩
      · cases found
    obtain ⟨loaded, loads, describes⟩ := indexed.onDisk
    subst isFirst
    exact mapLookupLoad_stored indexed.sectors loads describes rfl rfl
  lookupFits := by
    intro img mem
    obtain rfl := List.mem_singleton.1 mem
    exact indexed.bStart
  lookupLength := by
    intro img mem
    obtain rfl := List.mem_singleton.1 mem
    simp only [oneLookup, List.length_map, ne_eq, List.map_eq_nil_iff]
    exact ⟨List.length_pos_iff.1 indexed.length.1, indexed.length.2⟩
  distinct := by
    intro ordinal ordinal' _ _ found found' _ _
    have inside := (List.getElem?_eq_some_iff.1 found).1
    have inside' := (List.getElem?_eq_some_iff.1 found').1
    simp only [List.length_singleton] at inside inside'
    omega
  maps image mem := by
    rw [maps_oneLookup] at mem
    obtain ⟨map, isMap, rfl⟩ := List.mem_map.1 mem
    obtain ⟨index, found⟩ := List.getElem?_of_mem isMap
    exact (blkMapLoad_stored indexed.sectors ((walkSlots_getElem? walked).2 index map found)).1
  mapPos _ mem := (indexed.sound_of_mem mem).bStart.1
  mapFits image mem := by
    have sound := indexed.sound_of_mem mem
    have marks : maxFileMarksPerMap = 15 ∧ maxSetMarksPerMap = 15 := by decide
    exact ⟨sound.bid, sound.bStart.2, sound.lIdsStart, by have := sound.fIds.2; omega,
      by have := sound.sIds.2; omega⟩
  entryDisk entry mem := by
    obtain ⟨image, isImage, inside⟩ := List.mem_flatMap.1 mem
    rw [maps_oneLookup] at isImage
    obtain ⟨map, isMap, rfl⟩ := List.mem_map.1 isImage
    obtain ⟨index, found⟩ := List.getElem?_of_mem isMap
    exact (blkMapLoad_stored indexed.sectors
      ((walkSlots_getElem? walked).2 index map found)).2.1 entry inside

/-- The maps in memory are copies. -/
theorem copyAt (offset : Nat) (found : (cur :: after)[offset]? = some map) :
    CopyAt [oneLookup mlookup maps] (cur.mlookupEntryId + offset) map ∧
      map.mlookupBid = mlookup.bid ∧ map.mlookupBStart = mlookup.bStart := by
  obtain ⟨other, isOther, loaded, isLoaded, same⟩ :=
    indexed.cached offset (List.getElem?_eq_some_iff.1 found).1
  obtain rfl := Option.some.inj (found.symm.trans isOther)
  obtain ⟨-, -, bid, bStart, slot⟩ :=
    blkMapLoad_stored indexed.sectors ((walkSlots_getElem? walked).2 _ _ isLoaded)
  exact ⟨same.copyAt isLoaded bid bStart slot, same.slot.1.trans bid, same.slot.2.1.trans bStart⟩

/-- The partition is clean. -/
theorem clean {before : List BlkMap} (lookups : s.part.mlookups = [mlookup])
    (cursor : s.part.cursor = .on before cur after) :
    Clean s True s [oneLookup mlookup maps] where
  moved := .refl s
  readable := indexed.readable walked
  formed := by
    refine ⟨fun img mem => ?_, fun image mem => ?_, ?_⟩
    · obtain rfl := List.mem_singleton.1 mem
      refine ⟨((indexed.readable walked).lookupLength _ List.mem_cons_self).1,
        ((indexed.readable walked).lookupLength _ List.mem_cons_self).2, ?_⟩
      rw [oneLookup, List.head?_map, Option.map_map]
      exact indexed.lIdsStart
    · have sound := indexed.sound_of_mem mem
      exact ⟨sound.length.2, sound.fIds.2, sound.sIds.2⟩
    · rw [maps_oneLookup]
      exact consecutive_of_consecutiveFrom indexed.consecutive
  filled image mem := List.length_pos_iff.1 (indexed.sound_of_mem mem).length.1
  counted image mem := ⟨(indexed.sound_of_mem mem).fIds.1, (indexed.sound_of_mem mem).sIds.1⟩
  tallied _ := ⟨indexed.marks.2.2.1, indexed.marks.2.2.2, trivial⟩
  dirWrite := indexed.dirWrite
  lookups := by
    rw [lookups]
    refine .here ⟨rfl, rfl, indexed.inMemory.page, fun _ => ⟨indexed.marks.1, indexed.marks.2.1⟩,
      indexed.settled.1, indexed.settled.2.1, indexed.settled.2.2.1,
      Option.isNone_iff_eq_none.1 indexed.settled.2.2.2⟩ .nil
  cursor := by
    rw [cursor]
    refine ⟨cur.mlookupEntryId, (indexed.copyAt walked 0 rfl).1, fun offset map found => ?_⟩
    rw [Nat.add_assoc, Nat.add_comm 1]
    exact (indexed.copyAt walked (offset + 1) found).1
  anchored map mem := by
    rw [cursor] at mem
    obtain ⟨offset, found⟩ := List.getElem?_of_mem mem
    obtain ⟨-, bid, bStart⟩ := indexed.copyAt walked offset found
    exact ⟨mlookup, by rw [lookups]; exact List.mem_cons_self, bid.symm, bStart.symm⟩

end State.Indexed

/-- What the index of a partition is made of. -/
theorem State.index_some (isIndex : s.index = some (mlookup, maps, cur, after)) :
    s.part.mlookups = [mlookup] ∧ (∃ before, s.part.cursor = .on before cur after) ∧
      walkSlots s.group s.disk mlookup mlookup.mapNrs = some maps := by
  unfold State.index at isIndex
  split at isIndex
  · rename_i lookups cursor
    obtain ⟨_, walked, same⟩ := Option.map_eq_some_iff.1 isIndex
    cases same
    exact ⟨lookups, ⟨_, cursor⟩, walked⟩
  · cases isIndex

/-- A partition that passes has the parts that were compared. -/
theorem State.exists_indexed (checked : s.isIndexed = true) :
    ∃ mlookup maps before cur after, s.Indexed mlookup maps cur after ∧
      s.image = [oneLookup mlookup maps] ∧ s.part.mlookups = [mlookup] ∧
      s.part.cursor = .on before cur after ∧
      walkSlots s.group s.disk mlookup mlookup.mapNrs = some maps := by
  unfold State.isIndexed State.image at *
  cases isIndex : s.index with
  | none =>
    rw [isIndex] at checked
    cases checked
  | some index =>
    obtain ⟨mlookup, maps, cur, after⟩ := index
    obtain ⟨lookups, ⟨before, cursor⟩, walked⟩ := State.index_some isIndex
    rw [isIndex] at checked
    exact ⟨mlookup, maps, before, cur, after, of_decide_eq_true checked, rfl, lookups, cursor, walked⟩

/-- A partition whose one lookup and its maps are found in order is clean. -/
theorem State.clean_of_isIndexed (checked : s.isIndexed = true) : Clean s True s s.image := by
  obtain ⟨mlookup, maps, before, cur, after, indexed, isImage, lookups, cursor, walked⟩ :=
    State.exists_indexed checked
  rw [isImage]
  exact indexed.clean walked lookups cursor

/-- Its current map is a copy of the map in its slot. -/
theorem State.copyAt_of_isIndexed (checked : s.isIndexed = true) :
    ∃ before cur after, s.part.cursor = .on before cur after ∧
      CopyAt s.image cur.mlookupEntryId cur := by
  obtain ⟨mlookup, maps, before, cur, after, indexed, isImage, -, cursor, walked⟩ :=
    State.exists_indexed checked
  rw [isImage]
  exact ⟨before, cur, after, cursor, (indexed.copyAt walked 0 rfl).1⟩

end VirtualTape
