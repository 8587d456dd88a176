import VirtualTape.Spec.Image

/-!
# Copies in memory

A map or lookup in memory is a copy of a part of an image if its fields say the same. Loading a
page that the disk holds yields such a copy.
-/

namespace VirtualTape

/-- The part of an image that a map in memory describes. -/
def BlkMap.image (map : BlkMap) : MapImage where
  bid := map.bid
  bStart := map.bStart
  segmentId := map.segmentId
  lIdsStart := map.lIdsStart
  fIds := map.fIds
  sIds := map.sIds
  entries := map.entries.map BlkEntry.loaded

/-- An entry in memory whose address and sizes are those that are read back. -/
structure BlkEntry.Settled (entry : BlkEntry) : Prop where
  /-- The disk. -/
  bid : entry.loaded.bid = entry.bid
  /-- The sector. -/
  bStart : entry.loaded.bStart = entry.bStart
  /-- The sizes. -/
  bits : entry.loaded.bits = entry.bits

/-- What was read back is settled. -/
theorem BlkEntry.settled_of_loaded {entry : BlkEntry} (same : entry.loaded = entry) :
    entry.Settled :=
  ⟨congrArg BlkEntry.bid same, congrArg BlkEntry.bStart same, congrArg BlkEntry.bits same⟩

/-- A map in memory that says the same as the disk. -/
structure MapCopy (map : BlkMap) (place : Place) : Prop where
  /-- The map it describes. -/
  image : map.image = place.img
  /-- The disk of its lookup. -/
  mlookupBid : map.mlookupBid = place.mlookupBid
  /-- The page of its lookup. -/
  mlookupBStart : map.mlookupBStart = place.mlookupBStart
  /-- Its slot. -/
  mlookupEntryId : map.mlookupEntryId = place.slot
  /-- It is entered. -/
  isNew : map.isNew = false
  /-- It is unchanged. -/
  ioPending : map.ioPending = false
  /-- No write of it is under way. -/
  dirty : map.dirty = none
  /-- No data of it waits. -/
  newData : ∀ entry ∈ map.entries, entry.newData = none
  /-- Its entries say where their data is. -/
  entries : ∀ entry ∈ map.entries, entry.Settled
  /-- A current entry exists. -/
  cEntry : ∀ index, map.cEntry = some index → index < map.entries.length

/-- The marks of the maps of a lookup are counted. -/
def LookupTally (mlookup : MapLookup) (img : LookupImage) : Prop :=
  mlookup.fIds = img.filemarks ∧ mlookup.sIds = img.setmarks

/-- A lookup in memory that says the same as the disk; its own count of marks has to be right only
if `tally` is asked for. -/
structure LookupCopy (tally : Prop) (mlookup : MapLookup) (img : LookupImage) (next prev : Nat) :
    Prop where
  /-- The disk of its page. -/
  bid : mlookup.bid = img.bid
  /-- Its page. -/
  bStart : mlookup.bStart = img.bStart
  /-- What it describes. -/
  page : LookupPage mlookup.page img img.maps.length next prev
  /-- Its marks. -/
  marks : tally → LookupTally mlookup img
  /-- No map waits to be entered. -/
  pendingNewMaps : mlookup.pendingNewMaps = 0
  /-- It is linked. -/
  isNew : mlookup.isNew = false
  /-- It is unchanged. -/
  ioPending : mlookup.ioPending = false
  /-- No write of it is under way. -/
  dirty : mlookup.dirty = none

variable {shift next prev : Nat} {group : Bdevgroup} {disk : Disk} {bint : Bdevint}
  {mlookup : MapLookup} {img : LookupImage} {map : MapImage}

/-- A lookup is written with its checksum. -/
theorem MapLookup.page_csum (mlookup : MapLookup) :
    mlookup.page.csum = lookupCsum mlookup.page.entries := rfl

/-! ## Loading a lookup -/

/-- A lookup that was read would be written as it was read. -/
theorem mapLookupOfRaw_page (bid bStart : Nat) (raw : RawMapLookup) :
    (mapLookupOfRaw bid bStart raw).page = { raw with csum := lookupCsum raw.entries } := rfl

/-! ## Slots -/

/-- The fields of a map fit into its slot. -/
structure MapImage.Fits (map : MapImage) : Prop where
  /-- The disk id fits. -/
  bid : map.bid < tlMaxDisks
  /-- The sector number fits. -/
  bStart : map.bStart < 2 ^ 38
  /-- The first logical id fits. -/
  lIdsStart : map.lIdsStart < 2 ^ 56
  /-- The filemarks fit. -/
  fIds : map.fIds < 2 ^ 4
  /-- The setmarks fit. -/
  sIds : map.sIds < 2 ^ 4

namespace MapImage.Fits

variable (fits : map.Fits)

include fits

/-- The disk id is read back from the slot. -/
theorem slot_bid : blockBid map.slot.block = map.bid := blockBid_setBlock fits.bStart fits.bid

/-- The sector number is read back from the slot. -/
theorem slot_bStart : blockBlocknr map.slot.block = map.bStart := blockBlocknr_setBlock fits.bStart

/-- The first logical id is read back from the slot. -/
theorem slot_lidStart : mentryLidStart map.slot = map.lIdsStart :=
  mentryLidStart_eq rfl fits.lIdsStart fits.fIds fits.sIds

/-- The filemarks are read back from the slot. -/
theorem slot_filemarks : mentryFilemarks map.slot = map.fIds :=
  mentryFilemarks_eq rfl fits.lIdsStart fits.fIds fits.sIds

/-- The setmarks are read back from the slot. -/
theorem slot_setmarks : mentrySetmarks map.slot = map.sIds :=
  mentrySetmarks_eq rfl fits.lIdsStart fits.fIds fits.sIds

end MapImage.Fits

/-- The marks of the slots of a page are those of the maps, as long as they fit. -/
theorem LookupPage.slot_sum {raw : RawMapLookup}
    (page : LookupPage raw img img.maps.length next prev) {read : MapLookupEntry → Nat}
    {field : MapImage → Nat} (reads : ∀ map ∈ img.maps, read map.slot = field map) :
    ((List.range img.maps.length).map fun slot => read (raw.entries slot)).sum =
      (img.maps.map field).sum := by
  congr 1
  refine List.ext_getElem? fun slot => ?_
  rw [List.getElem?_map, List.getElem?_map]
  rcases Nat.lt_or_ge slot img.maps.length with inside | outside
  · have found := List.getElem?_eq_getElem inside
    rw [found, List.getElem?_range inside, Option.map_some, Option.map_some,
      page.slots slot _ found inside, reads _ (List.getElem_mem inside)]
  · rw [List.getElem?_eq_none (by simpa using outside), List.getElem?_eq_none outside]
    rfl

/-- Marks of maps that fit into their slots, in a lookup that fits into its page. -/
theorem sum_marks_lt {maps : List MapImage} {field : MapImage → Nat}
    (small : ∀ map ∈ maps, field map < 2 ^ 4) (length : maps.length < nrMapDataEntries) :
    (maps.map field).sum < 2 ^ 16 := by
  have bound : (maps.map field).sum ≤ maps.length * 15 := by
    clear length
    induction maps with
    | nil => exact Nat.zero_le _
    | cons head rest ih =>
      have first := small head List.mem_cons_self
      have others := ih fun map mem => small map (List.mem_cons_of_mem _ mem)
      rw [List.map_cons, List.sum_cons, List.length_cons, Nat.add_mul]
      omega
  have slots : nrMapDataEntries = 253 := rfl
  omega

/-! ## Loading -/

/-- Loading a lookup that the disk holds yields a copy with its marks counted. -/
theorem LookupStored.load (stored : LookupStored shift disk img img.maps.length next prev)
    (found : bdevFind group img.bid = some bint) (blocks : bint.metaBlocks = pageBlocks shift)
    (fits : ∀ map ∈ img.maps, map.Fits) (length : img.maps.length < nrMapDataEntries)
    (tally : Prop) :
    ∃ mlookup, mapLookupLoad group disk img.bStart img.bid = some mlookup ∧
      LookupCopy tally mlookup img next prev := by
  obtain ⟨raw, read, page⟩ := stored
  refine ⟨mapLookupOfRaw img.bid img.bStart raw, ?_, ⟨rfl, rfl, ?_, fun _ => ⟨?_, ?_⟩, rfl, rfl,
    rfl, rfl⟩⟩
  · simp only [mapLookupLoad, found, blocks, read, page.csum, if_true]
  · rw [mapLookupOfRaw_page]
    exact { page with csum := rfl }
  · have small := sum_marks_lt (fun map mem => (fits map mem).fIds) length
    rw [mapLookupOfRaw, mapLookupResyncIds, page.mapNrs, slotFilemarks,
      page.slot_sum fun map mem => (fits map mem).slot_filemarks]
    exact Nat.mod_eq_of_lt small
  · have small := sum_marks_lt (fun map mem => (fits map mem).sIds) length
    rw [mapLookupOfRaw, mapLookupResyncIds, page.mapNrs, slotSetmarks,
      page.slot_sum fun map mem => (fits map mem).slot_setmarks]
    exact Nat.mod_eq_of_lt small

/-- The entries of a page are in normal form. -/
theorem map_loaded_rawEntries (lid : Nat) (raw : RawBlkMap) :
    (rawEntries lid raw).map BlkEntry.loaded = rawEntries lid raw := by
  rw [rawEntries, List.map_map]
  refine List.map_congr_left fun index _ => ?_
  exact loaded_blkMapLoadEntry _ _

/-- The map that loading a place yields. -/
def Place.load (place : Place) (cEntry : Option Nat) : BlkMap where
  bid := place.img.bid
  bStart := place.img.bStart
  segmentId := place.img.segmentId
  fIds := place.img.fIds
  sIds := place.img.sIds
  lIdsStart := place.img.lIdsStart
  entries := place.img.entries
  mlookupBid := place.mlookupBid
  mlookupBStart := place.mlookupBStart
  mlookupEntryId := place.slot
  cEntry := cEntry
  isNew := false
  ioPending := false
  dirty := none

/-- Loading a map that the disk holds yields its image, at the end or in front of its first
entry. -/
theorem MapStored.load {place : Place} (stored : MapStored shift disk place.img)
    (fits : place.img.Fits) (found : bdevFind group place.img.bid = some bint)
    (blocks : bint.metaBlocks = pageBlocks shift)
    (disks : ∀ entry ∈ place.img.entries, (bdevFind group entry.bid).isSome = true)
    (slot : mlookup.entries place.slot = place.img.slot) (bid : mlookup.bid = place.mlookupBid)
    (bStart : mlookup.bStart = place.mlookupBStart) (poslast : Bool) :
    blkMapLoad group disk mlookup place.slot poslast =
      some (place.load (if poslast then none else firstEntry place.img.entries)) := by
  obtain ⟨raw, read, page⟩ := stored
  have all : place.img.entries.all (fun entry => (bdevFind group entry.bid).isSome) = true := by
    rw [List.all_eq_true]
    exact disks
  simp only [blkMapLoad, slot, fits.slot_bid, fits.slot_bStart, found,
    blocks, read, blkMapOfRaw, fits.slot_filemarks, fits.slot_setmarks,
    fits.slot_lidStart, page.entries, page.csum, all, and_self, if_true, page.segmentId, bid, bStart,
    Place.load]

/-- What is loaded from a page that the disk holds is a copy. -/
theorem MapStored.copy {place : Place} (stored : MapStored shift disk place.img)
    {cEntry : Option Nat} (valid : ∀ index, cEntry = some index → index < place.img.entries.length) :
    MapCopy (place.load cEntry) place := by
  obtain ⟨raw, -, page⟩ := stored
  have normal : place.img.entries.map BlkEntry.loaded = place.img.entries := by
    rw [← page.entries, map_loaded_rawEntries]
  refine ⟨?_, rfl, rfl, rfl, rfl, rfl, rfl, ?_, ?_, valid⟩
  · simp only [BlkMap.image, Place.load, normal]
  · intro entry mem
    rw [Place.load, ← page.entries, rawEntries, List.mem_map] at mem
    obtain ⟨index, -, rfl⟩ := mem
    rfl
  · intro entry mem
    rw [Place.load, ← page.entries, rawEntries, List.mem_map] at mem
    obtain ⟨index, -, rfl⟩ := mem
    exact BlkEntry.settled_of_loaded (loaded_blkMapLoadEntry _ _)

/-- The position in front of the first entry is valid. -/
theorem firstEntry_valid (entries : List BlkEntry) (index : Nat)
    (first : firstEntry entries = some index) : index < entries.length := by
  unfold firstEntry at first
  split at first
  · exact absurd first (by simp)
  · rename_i nonempty
    obtain rfl := Option.some.inj first
    exact List.length_pos_iff.2 (by simpa using nonempty)

end VirtualTape
