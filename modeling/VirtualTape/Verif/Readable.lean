import VirtualTape.Spec.Recorded
import VirtualTape.Verif.Copies
import VirtualTape.Verif.Numbering

/-!
# Reading an image back

A disk that holds an image whose numbers fit yields that image: every lookup and every map can be
loaded.
-/

namespace VirtualTape

/-- A disk holds an image and every part of it can be loaded. The disks of a pool may differ in their
sector size. -/
structure Readable (group : Bdevgroup) (disk : Disk) (image : Image) : Prop where
  /-- The disk holds the lookups, linked in chain order. -/
  lookups : ∀ ordinal mlookup, image[ordinal]? = some mlookup →
    ∃ bint shift, bdevFind group mlookup.bid = some bint ∧ bint.metaBlocks = pageBlocks shift ∧
      LookupStored shift disk mlookup mlookup.maps.length (image.wordAt (ordinal + 1))
        (image.prevWord ordinal)
  /-- The sector numbers of the lookups fit into an address. -/
  lookupFits : ∀ mlookup ∈ image, 0 < mlookup.bStart ∧ mlookup.bStart < 2 ^ 38
  /-- The maps of a lookup fit into its page. -/
  lookupLength : ∀ mlookup ∈ image, mlookup.maps ≠ [] ∧ mlookup.maps.length < nrMapDataEntries
  /-- No two lookups have the same page. -/
  distinct : ∀ {ordinal ordinal' : Nat} {mlookup mlookup' : LookupImage},
    image[ordinal]? = some mlookup → image[ordinal']? = some mlookup' → mlookup.bid = mlookup'.bid →
    mlookup.bStart = mlookup'.bStart → ordinal = ordinal'
  /-- The disk holds the maps. -/
  maps : ∀ map ∈ image.maps, ∃ bint shift, bdevFind group map.bid = some bint ∧
    bint.metaBlocks = pageBlocks shift ∧ MapStored shift disk map
  /-- The maps are not at the start of a disk. -/
  mapPos : ∀ map ∈ image.maps, 0 < map.bStart
  /-- The fields of the maps fit into their slots. -/
  mapFits : ∀ map ∈ image.maps, map.Fits
  /-- The disks of the objects are in the pool. -/
  entryDisk : ∀ entry ∈ image.objects, (bdevFind group entry.bid).isSome = true

variable {shift : Nat} {s : State} {group : Bdevgroup} {disk : Disk} {image : Image}
  {mlookup : MapLookup} {img : LookupImage} {link : Link} {place : Place} {tally : Prop}

namespace Readable

variable (readable : Readable group disk image)

include readable

/-- The address of a lookup that is in the chain. -/
theorem word_eq {ordinal : Nat} (found : image[ordinal]? = some img) :
    image.wordAt ordinal = img.word ∧ blockBlocknr (image.wordAt ordinal) = img.bStart ∧
      blockBid (image.wordAt ordinal) = img.bid ∧ image.wordAt ordinal ≠ 0 := by
  have mem := List.mem_of_getElem? found
  obtain ⟨bint, -, disk, -, -⟩ := readable.lookups ordinal img found
  obtain ⟨positive, fits⟩ := readable.lookupFits img mem
  have word : image.wordAt ordinal = img.word := by
    rw [Image.wordAt, found]
    rfl
  rw [word, LookupImage.word]
  exact ⟨rfl, blockBlocknr_setBlock fits, blockBid_setBlock fits (bdevFind_some disk).2.2,
    setBlock_ne_zero positive⟩

/-- Behind the end of the chain there is no address. -/
theorem wordAt_eq_zero {ordinal : Nat} : image.wordAt ordinal = 0 ↔ image[ordinal]? = none := by
  constructor
  · intro zero
    cases found : image[ordinal]? with
    | none => rfl
    | some img => exact absurd zero (readable.word_eq found).2.2.2
  · intro missing
    rw [Image.wordAt, missing]
    rfl

/-- A lookup of the chain can be loaded. -/
theorem loadLookup (tally : Prop) {ordinal : Nat} (found : image[ordinal]? = some img) :
    ∃ mlookup, mapLookupLoad group disk (blockBlocknr (image.wordAt ordinal))
        (blockBid (image.wordAt ordinal)) = some mlookup ∧
      LookupCopy tally mlookup img (image.wordAt (ordinal + 1)) (image.prevWord ordinal) := by
  have mem := List.mem_of_getElem? found
  obtain ⟨-, start, disk, -⟩ := readable.word_eq found
  obtain ⟨bint, shift, bintFound, blocks, stored⟩ := readable.lookups ordinal img found
  rw [start, disk]
  refine stored.load bintFound blocks ?_ (readable.lookupLength img mem).2 tally
  intro map inside
  exact readable.mapFits map (List.mem_flatMap.2 ⟨img, mem, inside⟩)

/-- A map of the image can be loaded from its lookup. -/
theorem loadMap (mem : link ∈ image.links) (inside : place ∈ link.places)
    (bid : mlookup.bid = link.img.bid) (bStart : mlookup.bStart = link.img.bStart)
    (slot : mlookup.entries place.slot = place.img.slot) (poslast : Bool) :
    blkMapLoad group disk mlookup place.slot poslast =
      some (place.load (if poslast then none else firstEntry place.img.entries)) := by
  obtain ⟨found, sameBid, sameStart, -⟩ := Link.mem_places inside
  have mapMem := Image.map_mem_of_link mem found
  obtain ⟨bint, shift, bintFound, blocks, stored⟩ := readable.maps _ mapMem
  refine stored.load (readable.mapFits _ mapMem) bintFound blocks ?_ slot (bid.trans sameBid.symm)
    (bStart.trans sameStart.symm) poslast
  intro entry entryMem
  exact readable.entryDisk entry (List.mem_flatMap.2 ⟨_, mapMem, entryMem⟩)

/-- A map loaded from its place is a copy. -/
theorem loadMap_copy (mem : place ∈ image.places) (poslast : Bool) :
    MapCopy (place.load (if poslast then none else firstEntry place.img.entries)) place := by
  obtain ⟨-, shift, -, -, stored⟩ := readable.maps _ (Image.img_mem_maps mem)
  refine stored.copy fun index found => ?_
  cases poslast with
  | true => exact absurd found (by simp)
  | false => exact firstEntry_valid _ _ found

end Readable

/-! ## Loading the tape -/

/-- Readable segment map pages can be counted. -/
theorem tmapsUsage_isSome {tmaps : TmapsRef} {type : SegmentType} {pages : Nat}
    (readable : ∀ tmapId, tmapId < pages → (disk.tmap tmaps type tmapId).isSome = true)
    (fuel tmapId : Nat) (le : tmapId + fuel ≤ pages) :
    ∃ used, tmapsUsage disk tmaps type fuel tmapId = some used := by
  induction fuel generalizing tmapId with
  | zero => exact ⟨0, rfl⟩
  | succ fuel ih =>
    obtain ⟨page, found⟩ := Option.isSome_iff_exists.1 (readable tmapId (by omega))
    obtain ⟨rest, more⟩ := ih (tmapId + 1) (by omega)
    simp only [tmapsUsage, found, more]
    split
    · exact ⟨0, rfl⟩
    · exact ⟨_, rfl⟩

/-- The state in which loading a partition looks for its first meta segment. -/
def loadStart (group : Bdevgroup) (disk : Disk) (info : PartitionInfo) (used : Nat) : State :=
  ⟨group, disk, { tapePartitionInit info with used := used, lookupSegments := true }⟩

/-- The segment map pages that loading a partition reads can be read. -/
structure TmapsReadable (disk : Disk) (info : PartitionInfo) : Prop where
  /-- The pages for meta segments. -/
  metaPages : ∀ tmapId, tmapId < calcMetaTmaps info.size info.tapeSize →
    (disk.tmap info.tmaps .metaSeg tmapId).isSome = true
  /-- The pages for data segments. -/
  dataPages : ∀ tmapId, tmapId < calcDataTmaps info.size info.tapeSize →
    (disk.tmap info.tmaps .dataSeg tmapId).isSome = true

/-- Loading a tape counts its segments and then looks for its first meta segment. -/
theorem tapePartitionLoad_eq {info : PartitionInfo} (readable : TmapsReadable disk info) :
    ∃ used, tapePartitionLoad group disk info =
      match tapePartitionLookupSegment (loadStart group disk info used) .metaSeg 0 with
      | (false, _) => none
      | (true, s') => tapePartitionLoadFirst s' := by
  obtain ⟨metaUsed, countedMeta⟩ := tmapsUsage_isSome readable.metaPages
    (calcMetaTmaps info.size info.tapeSize) 0 (by omega)
  obtain ⟨dataUsed, countedData⟩ := tmapsUsage_isSome readable.dataPages
    (calcDataTmaps info.size info.tapeSize) 0 (by omega)
  refine ⟨(metaUsed + dataUsed) * bintUnitSize, ?_⟩
  rw [tapePartitionLoad]
  simp only [tapePartitionInit, countedMeta, countedData]
  rfl

end VirtualTape
