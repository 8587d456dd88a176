import VirtualTape.Verif.Chain

/-!
# Positioning and reading keep a partition clean

LOCATE, SPACE, REWIND and READ load maps and lookups and move the position. They never write once
pending writes are flushed, so on a clean partition they leave a clean partition with the same
image.
-/

namespace VirtualTape

variable {tally : Prop} {origin s s' : State} {image : Image} {mlookup mlookup' : MapLookup}
  {link : Link} {place : Place} {map : BlkMap} {index slot slot' fuel : Nat} {env : Env}

/-! ## Slots -/

/-- A slot in use of a cached lookup, with the number of its map. -/
def SlotAt (tally : Prop) (image : Image) (s : State) (mlookup : MapLookup) (slot index : Nat) :
    Prop :=
  ∃ link, CachedAt tally image s mlookup link ∧ slot < link.img.maps.length ∧
    index = link.start + slot

/-- A slot stays where it is. -/
theorem SlotAt.fetched (at_ : SlotAt tally image s mlookup slot index)
    (fetched : Fetched tally image s s') : SlotAt tally image s' mlookup slot index := by
  obtain ⟨link, cached, inside, number⟩ := at_
  exact ⟨link, cached.fetched fetched, inside, number⟩

/-- The map of a slot in use can be loaded. -/
theorem Clean.loadSlot (clean : Clean origin tally s image)
    (at_ : SlotAt tally image s mlookup slot index) (poslast : Bool) :
    ∃ place, image.places[index]? = some place ∧ place.slot = slot ∧
      blkMapLoad s.group s.disk mlookup slot poslast =
        some (place.load (if poslast then none else firstEntry place.img.entries)) ∧
      MapCopy (place.load (if poslast then none else firstEntry place.img.entries)) place := by
  have readable := clean.readable
  obtain ⟨link, ⟨-, mem, copy⟩, inside, rfl⟩ := at_
  have found := List.getElem?_eq_getElem inside
  have placed := Link.place_mem found
  have entry : mlookup.entries slot = link.img.maps[slot].slot :=
    copy.page.slots slot _ found inside
  refine ⟨_, Image.places_of_slot mem found, rfl, ?_, ?_⟩
  · exact readable.loadMap mem placed copy.bid copy.bStart entry poslast
  · exact readable.loadMap_copy (Image.place_mem_of_link mem placed) poslast

/-- The lookup of a copy of the map of a slot is cached. -/
theorem SlotAt.anchors {map : BlkMap} (at_ : SlotAt tally image s mlookup slot index)
    (copy : CopyAt image index map) : s.part.Anchors map := by
  obtain ⟨link, ⟨cached, mem, isCopy⟩, inside, rfl⟩ := at_
  obtain ⟨place, found, copied⟩ := copy
  have placed := Image.places_of_slot mem (List.getElem?_eq_getElem inside)
  obtain rfl := Option.some.inj (placed.symm.trans found)
  refine ⟨mlookup, cached, ?_, ?_⟩
  · rw [isCopy.bid, copied.mlookupBid]
  · rw [isCopy.bStart, copied.mlookupBStart]

/-- The slot behind a slot is that of the next map. -/
theorem Clean.nextEntry (clean : Clean origin tally s image)
    (at_ : SlotAt tally image s mlookup slot index)
    (found : mapLookupNextEntry s mlookup slot = some (mlookup', slot', s')) :
    SlotAt tally image s' mlookup' slot' (index + 1) ∧ Fetched tally image s s' := by
  obtain ⟨link, cached, inside, rfl⟩ := at_
  have count : mlookup.mapNrs = link.img.maps.length := cached.copy.page.mapNrs
  rw [mapLookupNextEntry, count] at found
  split at found
  · rename_i more
    simp only [Option.some.injEq, Prod.mk.injEq] at found
    obtain ⟨rfl, rfl, rfl⟩ := found
    exact ⟨⟨link, cached, more, by omega⟩, Fetched.refl clean.lookups⟩
  · rename_i last
    rcases clean.loadNext cached with ⟨-, none⟩ | ⟨next, link', after, loaded, ordinal, at', fetched⟩
    · rw [none] at found
      exact absurd found (by simp)
    · rw [loaded] at found
      have count' : next.mapNrs = link'.img.maps.length := at'.copy.page.mapNrs
      have start := Image.start_succ cached.mem at'.mem ordinal
      simp only at found
      split at found
      · exact absurd found (by simp)
      · rename_i nonempty
        simp only [Option.some.injEq, Prod.mk.injEq] at found
        obtain ⟨rfl, rfl, rfl⟩ := found
        exact ⟨⟨link', at', by omega, by omega⟩, fetched⟩

/-- The slot in front of a slot is that of the previous map. -/
theorem Clean.prevEntry (clean : Clean origin tally s image)
    (at_ : SlotAt tally image s mlookup slot index)
    (found : mapLookupPrevEntry s mlookup slot = some (mlookup', slot', s')) :
    SlotAt tally image s' mlookup' slot' (index - 1) ∧ Fetched tally image s s' := by
  obtain ⟨link, cached, inside, rfl⟩ := at_
  rw [mapLookupPrevEntry] at found
  split at found
  · simp only [Option.some.injEq, Prod.mk.injEq] at found
    obtain ⟨rfl, rfl, rfl⟩ := found
    exact ⟨⟨link, cached, by omega, by omega⟩, Fetched.refl clean.lookups⟩
  · rename_i first
    rcases clean.loadPrev cached with ⟨-, none⟩ | ⟨prev, link', after, loaded, ordinal, at', fetched⟩
    · rw [none] at found
      exact absurd found (by simp)
    · rw [loaded] at found
      have count' : prev.mapNrs = link'.img.maps.length := at'.copy.page.mapNrs
      have start := Image.start_succ at'.mem cached.mem ordinal.symm
      have nonempty := (clean.formed.lookups _ (Image.mem_of_mem_links at'.mem)).nonempty
      have positive := List.length_pos_iff.2 nonempty
      simp only [Option.map_some, Option.some.injEq, Prod.mk.injEq] at found
      obtain ⟨rfl, rfl, rfl⟩ := found
      exact ⟨⟨link', at', by omega, by omega⟩, fetched⟩

/-- The lookup of a cached map that is a copy. -/
theorem Clean.lookupOf (clean : Clean origin tally s image) (copy : CopyAt image index map)
    (found : s.part.lookupOf map = some mlookup) :
    SlotAt tally image s mlookup map.mlookupEntryId index := by
  obtain ⟨place, placed, copy⟩ := copy
  have mem := List.mem_of_getElem? placed
  obtain ⟨link, linkMem, inside⟩ := Image.mem_places mem
  obtain ⟨isMap, isBid, isStart, number⟩ := Link.mem_places inside
  have isCached := List.mem_of_find?_eq_some found
  have address := List.find?_some found
  simp only [Bool.and_eq_true, beq_iff_eq] at address
  obtain ⟨link', at_⟩ := clean.cachedAt isCached
  obtain rfl : link' = link := by
    refine Image.link_eq at_.mem linkMem (clean.readable.distinct
      (Image.getElem?_of_mem_links at_.mem).1 (Image.getElem?_of_mem_links linkMem).1 ?_ ?_)
    · rw [← at_.copy.bid, address.1, copy.mlookupBid, isBid]
    · rw [← at_.copy.bStart, address.2, copy.mlookupBStart, isStart]
  refine ⟨link', at_, ?_, ?_⟩
  · rw [copy.mlookupEntryId]
    exact (List.getElem?_eq_some_iff.1 isMap).1
  · rw [copy.mlookupEntryId, ← number, Image.places_index placed]

/-! ## Searching -/

/-- Following the chain towards an address ends at a cached lookup. -/
theorem Clean.locateLookup (clean : Clean origin tally s image)
    (at_ : CachedAt tally image s mlookup link) {start : MapLookup → Nat} {address : Nat}
    (ended : locateLookup start address fuel mlookup s = .found (mlookup', s')) :
    (∃ link', CachedAt tally image s' mlookup' link') ∧ Fetched tally image s s' := by
  induction fuel generalizing s mlookup link with
  | zero => exact absurd ended (by simp [VirtualTape.locateLookup])
  | succ fuel ih =>
    rw [VirtualTape.locateLookup] at ended
    split at ended
    · simp only [Search.found.injEq, Prod.mk.injEq] at ended
      obtain ⟨rfl, rfl⟩ := ended
      exact ⟨⟨link, at_⟩, Fetched.refl clean.lookups⟩
    · rcases clean.loadNext at_ with ⟨-, none⟩ | ⟨next, link', after, loaded, -, at', fetched⟩
      · rw [none] at ended
        exact absurd ended (by simp)
      · rw [loaded] at ended
        simp only at ended
        split at ended
        · simp only [Search.found.injEq, Prod.mk.injEq] at ended
          obtain ⟨rfl, rfl⟩ := ended
          exact ⟨⟨link, at_.fetched fetched⟩, fetched⟩
        · obtain ⟨found, more⟩ := ih (fetched.clean clean) at' ended
          exact ⟨found, fetched.trans more⟩

/-- The slot that is found for an address is in use. -/
theorem Clean.locateBy (clean : Clean origin tally s image) {start : MapLookup → Nat}
    {slotOf : MapLookup → Option Nat} {address : Nat}
    (inside : ∀ mlookup slot, slotOf mlookup = some slot → slot < mlookup.mapNrs)
    (ended : mapLookupLocateBy start slotOf address fuel s = .found (mlookup, slot, s')) :
    (∃ index, SlotAt tally image s' mlookup slot index) ∧ Fetched tally image s s' := by
  rw [mapLookupLocateBy] at ended
  split at ended
  · exact absurd ended (by simp)
  · rename_i first isFirst
    obtain ⟨link, at_⟩ := clean.cachedAt (List.mem_of_head? isFirst)
    split at ended
    · exact absurd ended (by simp)
    · exact absurd ended (by simp)
    · rename_i found after search
      obtain ⟨⟨link', at'⟩, fetched⟩ := clean.locateLookup at_ search
      split at ended
      · exact absurd ended (by simp)
      · rename_i nonempty
        simp only [Search.found.injEq, Prod.mk.injEq] at ended
        obtain ⟨rfl, rfl, rfl⟩ := ended
        have count : found.mapNrs = link'.img.maps.length := at'.copy.page.mapNrs
        refine ⟨⟨_, link', at', ?_, rfl⟩, fetched⟩
        cases isSlot : slotOf found with
        | none => simp only [Option.getD_none]; omega
        | some slot =>
          have less := inside found slot isSlot
          simp only [Option.getD_some]
          omega

/-- The slot of a logical id is in use. -/
theorem mapLookupLocateEntry_lt {address : Nat}
    (found : mapLookupLocateEntry mlookup address = some slot) : slot < mlookup.mapNrs := by
  rw [mapLookupLocateEntry] at found
  have short := (List.takeWhile_sublist (l := List.range mlookup.mapNrs)
    fun slot => decide (mentryLidStart (mlookup.entries slot) ≤ address)).length_le
  rw [List.length_range] at short
  split at found
  · exact absurd found (by simp)
  · obtain rfl := Option.some.inj found
    omega

/-- The slot of a file number is in use. -/
theorem mapLookupLocateFileEntry_lt {address : Nat}
    (found : mapLookupLocateFileEntry mlookup address = some slot) : slot < mlookup.mapNrs := by
  rw [mapLookupLocateFileEntry] at found
  split at found
  · exact absurd found (by simp)
  · simp only [Option.some.injEq] at found
    omega

/-- Passing over maps towards the end stops at a slot in use. -/
theorem Clean.spaceForwardFrom (clean : Clean origin tally s image) {code : SpaceCode}
    {todo todo' : Nat} (at_ : SlotAt tally image s mlookup slot index)
    (ended : spaceForwardFrom code fuel todo mlookup slot s = .found (mlookup', slot', todo', s')) :
    (∃ index', SlotAt tally image s' mlookup' slot' index') ∧ Fetched tally image s s' := by
  induction fuel generalizing s mlookup slot index todo with
  | zero => exact absurd ended (by simp [VirtualTape.spaceForwardFrom])
  | succ fuel ih =>
    rw [VirtualTape.spaceForwardFrom] at ended
    have stay : Fetched tally image s s := Fetched.refl clean.lookups
    split at ended
    · simp only [Search.found.injEq, Prod.mk.injEq] at ended
      obtain ⟨rfl, rfl, -, rfl⟩ := ended
      exact ⟨⟨index, at_⟩, stay⟩
    · split at ended
      · simp only [Search.found.injEq, Prod.mk.injEq] at ended
        obtain ⟨rfl, rfl, -, rfl⟩ := ended
        exact ⟨⟨index, at_⟩, stay⟩
      · rename_i step
        obtain ⟨next, fetched⟩ := clean.nextEntry at_ step
        simp only at ended
        split at ended
        · simp only [Search.found.injEq, Prod.mk.injEq] at ended
          obtain ⟨rfl, rfl, -, rfl⟩ := ended
          exact ⟨⟨index, at_.fetched fetched⟩, fetched⟩
        · obtain ⟨found, more⟩ := ih (fetched.clean clean) next ended
          exact ⟨found, fetched.trans more⟩

/-- Passing over maps towards the beginning stops at a slot in use. -/
theorem Clean.spaceBackwardFrom (clean : Clean origin tally s image) {code : SpaceCode}
    {todo todo' : Nat} (at_ : SlotAt tally image s mlookup slot index)
    (ended : spaceBackwardFrom code fuel todo mlookup slot s =
      .found (mlookup', slot', todo', s')) :
    (∃ index', SlotAt tally image s' mlookup' slot' index') ∧ Fetched tally image s s' := by
  induction fuel generalizing s mlookup slot index todo with
  | zero => exact absurd ended (by simp [VirtualTape.spaceBackwardFrom])
  | succ fuel ih =>
    rw [VirtualTape.spaceBackwardFrom] at ended
    have stay : Fetched tally image s s := Fetched.refl clean.lookups
    split at ended
    · simp only [Search.found.injEq, Prod.mk.injEq] at ended
      obtain ⟨rfl, rfl, -, rfl⟩ := ended
      exact ⟨⟨index, at_⟩, stay⟩
    · split at ended
      · simp only [Search.found.injEq, Prod.mk.injEq] at ended
        obtain ⟨rfl, rfl, -, rfl⟩ := ended
        exact ⟨⟨index, at_⟩, stay⟩
      · rename_i step
        obtain ⟨prev, fetched⟩ := clean.prevEntry at_ step
        simp only at ended
        split at ended
        · simp only [Search.found.injEq, Prod.mk.injEq] at ended
          obtain ⟨rfl, rfl, -, rfl⟩ := ended
          exact ⟨⟨index, at_.fetched fetched⟩, fetched⟩
        · obtain ⟨found, more⟩ := ih (fetched.clean clean) prev ended
          exact ⟨found, fetched.trans more⟩

/-! ## Positions within a map -/

/-- Only the position of a map changes, to one that it has. -/
def Repositioned (map map' : BlkMap) : Prop :=
  ∃ cEntry, map' = { map with cEntry := cEntry } ∧
    ∀ index, cEntry = some index → index < map.entries.length

/-- A copy stays a copy. -/
theorem MapCopy.reposition {map' : BlkMap} (copy : MapCopy map place)
    (moved : Repositioned map map') : MapCopy map' place := by
  obtain ⟨cEntry, rfl, valid⟩ := moved
  exact { copy with cEntry := valid }

/-- A copy of the map with a number stays one. -/
theorem CopyAt.reposition {map' : BlkMap} (copy : CopyAt image index map)
    (moved : Repositioned map map') : CopyAt image index map' := by
  obtain ⟨place, found, copy⟩ := copy
  exact ⟨place, found, copy.reposition moved⟩

/-- A copy has the position it says. -/
theorem CopyAt.cEntry (copy : CopyAt image index map) (position : Nat)
    (at_ : map.cEntry = some position) : position < map.entries.length := by
  obtain ⟨place, found, copy⟩ := copy
  exact copy.cEntry position at_

/-- Positioning in front of a logical id. -/
theorem blkMapLocate_repositioned (address : Nat) (map : BlkMap) :
    Repositioned map (blkMapLocate address map).2 := by
  rw [blkMapLocate]
  split
  · rename_i position found
    refine ⟨some position, rfl, fun index same => ?_⟩
    obtain rfl := Option.some.inj same
    exact (List.findIdx?_eq_some_iff_getElem.1 found).1
  · exact ⟨none, rfl, by simp⟩

/-- A filemark is among the entries. -/
theorem filemarkIndex_lt {number : Nat} {entries : List BlkEntry}
    (found : filemarkIndex number entries = some index) : index < entries.length := by
  rw [filemarkIndex, Option.map_eq_some_iff] at found
  obtain ⟨pair, isPair, rfl⟩ := found
  have mem := List.mem_of_getElem? isPair
  have inside := List.of_mem_zip (List.mem_of_mem_filter mem)
  exact List.mem_range.1 inside.1

/-- Positioning in front of a filemark. -/
theorem blkMapLocateFile_repositioned (mlookup : MapLookup) (address : Nat) (map : BlkMap) :
    Repositioned map (blkMapLocateFile mlookup address map).2 := by
  rw [blkMapLocateFile]
  split
  · rename_i position found
    refine ⟨some position, rfl, fun index same => ?_⟩
    obtain rfl := Option.some.inj same
    split at found
    · exact filemarkIndex_lt found
    · exact absurd found (by simp)
  · exact ⟨none, rfl, by simp⟩

/-- Positioning in front of the first entry. -/
theorem positionBop_repositioned (map : BlkMap) : Repositioned map map.positionBop :=
  ⟨_, rfl, fun _ at_ => firstEntry_valid _ _ at_⟩

/-- Spacing towards the end of a map. -/
theorem blkMapSpaceForward_repositioned (code : SpaceCode) (todo : Nat)
    (valid : ∀ position, map.cEntry = some position → position < map.entries.length) :
    Repositioned map (blkMapSpaceForward code todo map).2.2 := by
  rw [blkMapSpaceForward]
  split
  · exact ⟨map.cEntry, rfl, valid⟩
  · refine ⟨_, rfl, fun index at_ => ?_⟩
    rw [indexPosition] at at_
    split at at_
    · obtain rfl := Option.some.inj at_
      assumption
    · exact absurd at_ (by simp)

/-- Spacing over entries towards the beginning ends at an entry. -/
theorem spaceBackwardEntries_lt (code : SpaceCode) (entries : List BlkEntry) (start todo : Nat)
    (reached : Option Nat) (valid : ∀ position, reached = some position → position < entries.length)
    (position : Nat) (ended : (spaceBackwardEntries code entries start todo reached).2.2 =
      some position) : position < entries.length := by
  induction start generalizing todo reached with
  | zero => exact valid position ended
  | succ start ih =>
    rw [spaceBackwardEntries] at ended
    split at ended
    · exact valid position ended
    · rename_i entry found
      have inside : start < entries.length := (List.getElem?_eq_some_iff.1 found).1
      have here : ∀ position, some start = some position → position < entries.length := by
        intro position same
        obtain rfl := Option.some.inj same
        exact inside
      simp only at ended
      generalize (if iterSpaceCount code entry then todo - 1 else todo) = left at ended
      split at ended
      · exact here position ended
      · split at ended
        · exact here position ended
        · exact ih _ _ here ended

/-- Spacing towards the beginning of a map. -/
theorem blkMapSpaceBackward_repositioned (code : SpaceCode) (todo : Nat)
    (valid : ∀ position, map.cEntry = some position → position < map.entries.length) :
    Repositioned map (blkMapSpaceBackward code todo map).2.2 :=
  ⟨_, rfl, fun position => spaceBackwardEntries_lt code map.entries _ todo map.cEntry valid position⟩

/-! ## Positioning commands -/

/-- The current map of a clean partition is a copy on the list. -/
theorem Clean.on_cur (clean : Clean origin tally s image) (isCur : s.part.cursor.cur? = some map) :
    ∃ before after index, s.part.cursor = .on before map after ∧ CopyAt image index map ∧
      ∀ offset other, after[offset]? = some other → CopyAt image (index + 1 + offset) other := by
  have cursor := clean.cursor
  match found : s.part.cursor with
  | .null => simp [found, Cursor.cur?] at isCur
  | .dangling maps => simp [found, Cursor.cur?] at isCur
  | .loose maps cur => exact absurd (found ▸ cursor) (by simp [CursorClean])
  | .on before cur after =>
    rw [found] at cursor isCur
    obtain rfl := Option.some.inj isCur
    obtain ⟨index, copy, following⟩ := cursor
    exact ⟨before, after, index, rfl, copy, following⟩

/-- Making a copy the only cached map. -/
theorem Clean.setOnlyMap (clean : Clean origin tally s image)
    (at_ : SlotAt tally image s mlookup slot index) (copy : CopyAt image index map) :
    Clean origin tally (s.setOnlyMap map) image := by
  refine clean.move ⟨rfl, rfl, ⟨_, _, _, _, rfl⟩, Or.inr rfl⟩ clean.lookups
    ⟨index, copy, by simp⟩ fun other mem => ?_
  obtain rfl := List.mem_singleton.1 mem
  exact at_.anchors copy

/-- Moving within the current map. -/
theorem Clean.modifyCur (clean : Clean origin tally s image) {map' : BlkMap}
    (isCur : s.part.cursor.cur? = some map) (moved : Repositioned map map') :
    Clean origin tally (s.modifyCur fun _ => map') image := by
  obtain ⟨before, after, index, cursor, copy, following⟩ := clean.on_cur isCur
  refine clean.move ⟨rfl, rfl, ⟨_, _, _, _, rfl⟩, Or.inr rfl⟩ clean.lookups ?_ ?_
  · simp only [State.modifyCur, cursor, Cursor.modifyCur]
    exact ⟨index, copy.reposition moved, following⟩
  · have anchored := clean.anchored
    obtain ⟨cEntry, rfl, -⟩ := moved
    simp only [Partition.Anchored, State.modifyCur, cursor, Cursor.modifyCur, Cursor.ahead,
      List.forall_mem_cons] at anchored ⊢
    exact anchored

/-- Positioning in the map of a slot. -/
theorem Clean.locateIn (clean : Clean origin tally s image) {status : Status}
    {position : BlkMap → Status × BlkMap} (at_ : SlotAt tally image s mlookup slot index)
    (positioned : ∀ map, Repositioned map (position map).2)
    (done : locateIn s mlookup slot position = some (status, s')) :
    Clean origin tally s' image := by
  rw [VirtualTape.locateIn] at done
  split at done
  · exact absurd done (by simp)
  · rename_i cur isCur
    split at done
    · simp only [Option.some.injEq, Prod.mk.injEq] at done
      obtain ⟨-, rfl⟩ := done
      exact clean.modifyCur isCur (positioned cur)
    · obtain ⟨place, found, -, loaded, copy⟩ := clean.loadSlot at_ false
      rw [loaded] at done
      simp only [Option.some.injEq, Prod.mk.injEq] at done
      obtain ⟨-, rfl⟩ := done
      exact clean.setOnlyMap at_ ⟨place, found, copy.reposition (positioned _)⟩

/-- Positioning in front of a logical id. -/
theorem Clean.locateBlock (clean : Clean origin tally s image) {status : Status} {address : Nat}
    (done : tapePartitionLocateBlock env address s = some (status, s')) :
    Clean origin tally s' image := by
  rw [tapePartitionLocateBlock] at done
  split at done
  · exact absurd done (by simp)
  · simp only [Option.some.injEq, Prod.mk.injEq] at done
    exact done.2 ▸ clean
  · rename_i found
    obtain ⟨⟨index, at_⟩, fetched⟩ :=
      clean.locateBy (fun _ _ => mapLookupLocateEntry_lt) found
    exact (fetched.clean clean).locateIn at_ (blkMapLocate_repositioned address) done

/-- Positioning in front of a filemark. -/
theorem Clean.locateFile (clean : Clean origin tally s image) {status : Status} {address : Nat}
    (done : tapePartitionLocateFile env address s = some (status, s')) :
    Clean origin tally s' image := by
  rw [tapePartitionLocateFile] at done
  split at done
  · exact absurd done (by simp)
  · simp only [Option.some.injEq, Prod.mk.injEq] at done
    exact done.2 ▸ clean
  · rename_i found
    obtain ⟨⟨index, at_⟩, fetched⟩ :=
      clean.locateBy (fun _ _ => mapLookupLocateFileEntry_lt) found
    simp only at done
    split at done
    · exact absurd done (by simp)
    · rename_i owner _
      exact (fetched.clean clean).locateIn at_ (blkMapLocateFile_repositioned owner address) done

/-- Positioning at the end of data. -/
theorem Clean.spaceEod (clean : Clean origin tally s image) {status : Status}
    (done : tapePartitionSpaceEod env s = some (status, s')) : Clean origin tally s' image := by
  rw [tapePartitionSpaceEod] at done
  split at done
  · exact absurd done (by simp)
  · simp only [Option.some.injEq, Prod.mk.injEq] at done
    exact done.2 ▸ clean
  · rename_i last after found
    obtain ⟨link, at_, fetched, -⟩ := clean.findLast found
    have clean' := fetched.clean clean
    have count : last.mapNrs = link.img.maps.length := at_.copy.page.mapNrs
    split at done
    · simp only [Option.some.injEq, Prod.mk.injEq] at done
      exact done.2 ▸ clean'
    · have slot : SlotAt tally image after last (last.mapNrs - 1) (link.start + (last.mapNrs - 1)) :=
        ⟨link, at_, by omega, rfl⟩
      obtain ⟨place, isPlace, -, loaded, copy⟩ := clean'.loadSlot slot true
      rw [loaded] at done
      simp only [Option.some.injEq, Prod.mk.injEq] at done
      obtain ⟨-, rfl⟩ := done
      exact clean'.setOnlyMap slot ⟨place, isPlace, copy⟩

/-- Without pending writes there is nothing to flush. -/
theorem tapePartitionFlushWrites_clean (dirWrite : s.part.dirWrite = false) :
    tapePartitionFlushWrites env s = some s := by
  simp [tapePartitionFlushWrites, dirWrite]

/-- Getting ready to position leaves the position alone. -/
theorem Clean.preSpace (clean : Clean origin tally s image) (env : Env) :
    ∃ ready, tapePartitionPreSpace env s = some ready ∧ Clean origin tally ready image ∧
      ready.part.cursor = s.part.cursor := by
  rw [tapePartitionPreSpace, tapePartitionFlushWrites_clean clean.dirWrite]
  exact ⟨_, rfl, clean.move ⟨rfl, rfl, ⟨_, _, _, _, rfl⟩, Or.inr rfl⟩ clean.lookups clean.cursor
    clean.anchored, rfl⟩

/-- LOCATE keeps a partition clean. -/
theorem Clean.locate (clean : Clean origin tally s image) {status : Status} {target : LocateType}
    (done : tapePartitionLocate env target s = some (status, s')) : Clean origin tally s' image := by
  obtain ⟨ready, prepared, clean, -⟩ := clean.preSpace env
  rw [tapePartitionLocate, prepared] at done
  simp only at done
  split at done
  · simp only [Option.some.injEq, Prod.mk.injEq] at done
    exact done.2 ▸ clean
  · cases target with
    | block address => exact clean.locateBlock done
    | file address => exact clean.locateFile done
    | eod address => exact clean.spaceEod done

/-- What is passed over between maps leads to a slot in use. -/
def Across (tally : Prop) (image : Image) (s : State)
    (ended : Search (Option (MapLookup × Nat × Nat) × Status × State)) : Prop :=
  ∀ result status s', ended = .found (result, status, s') → Fetched tally image s s' ∧
    ∀ mlookup slot todo, result = some (mlookup, slot, todo) →
      ∃ index, SlotAt tally image s' mlookup slot index

/-- Finding the map in which spacing forward ends. -/
theorem Clean.mapLookupSpaceForward (clean : Clean origin tally s image) {code : SpaceCode}
    {todo : Nat} (at_ : SlotAt tally image s mlookup slot index) :
    Across tally image s (mapLookupSpaceForward code fuel todo mlookup slot s) := by
  intro result status s' ended
  rw [VirtualTape.mapLookupSpaceForward] at ended
  split at ended
  · simp only [Search.found.injEq, Prod.mk.injEq] at ended
    obtain ⟨rfl, -, rfl⟩ := ended
    exact ⟨Fetched.refl clean.lookups, by simp⟩
  · rename_i step
    obtain ⟨next, fetched⟩ := clean.nextEntry at_ step
    split at ended
    · exact absurd ended (by simp)
    · exact absurd ended (by simp)
    · rename_i search
      obtain ⟨found, more⟩ := (fetched.clean clean).spaceForwardFrom next search
      simp only [Search.found.injEq, Prod.mk.injEq] at ended
      obtain ⟨rfl, -, rfl⟩ := ended
      refine ⟨fetched.trans more, fun mlookup slot todo same => ?_⟩
      simp only [Option.some.injEq, Prod.mk.injEq] at same
      obtain ⟨rfl, rfl, -⟩ := same
      exact found

/-- Finding the map in which spacing backward ends. -/
theorem Clean.mapLookupSpaceBackward (clean : Clean origin tally s image) {code : SpaceCode}
    {todo : Nat} (at_ : SlotAt tally image s mlookup slot index) :
    Across tally image s (mapLookupSpaceBackward code fuel todo mlookup slot s) := by
  intro result status s' ended
  rw [VirtualTape.mapLookupSpaceBackward] at ended
  split at ended
  · simp only [Search.found.injEq, Prod.mk.injEq] at ended
    obtain ⟨rfl, -, rfl⟩ := ended
    exact ⟨Fetched.refl clean.lookups, by simp⟩
  · rename_i step
    obtain ⟨prev, fetched⟩ := clean.prevEntry at_ step
    split at ended
    · exact absurd ended (by simp)
    · exact absurd ended (by simp)
    · rename_i search
      obtain ⟨found, more⟩ := (fetched.clean clean).spaceBackwardFrom prev search
      simp only [Search.found.injEq, Prod.mk.injEq] at ended
      obtain ⟨rfl, -, rfl⟩ := ended
      refine ⟨fetched.trans more, fun mlookup slot todo same => ?_⟩
      simp only [Option.some.injEq, Prod.mk.injEq] at same
      obtain ⟨rfl, rfl, -⟩ := same
      exact found

/-- The current map after a change. -/
theorem cur?_modifyCur (isCur : s.part.cursor.cur? = some map) (map' : BlkMap) :
    (s.modifyCur fun _ => map').part.cursor.cur? = some map' := by
  cases found : s.part.cursor with
  | null => simp [found, Cursor.cur?] at isCur
  | dangling maps => simp [found, Cursor.cur?] at isCur
  | loose maps cur => simp [State.modifyCur, found, Cursor.modifyCur, Cursor.cur?]
  | on before cur after => simp [State.modifyCur, found, Cursor.modifyCur, Cursor.cur?]

/-- Spacing from the current map. -/
theorem Clean.spaceFrom (clean : Clean origin tally s image) {status : Status} {todo : Nat}
    {within : Nat → BlkMap → Status × Nat × BlkMap} {poslast : Bool}
    {across : Nat → MapLookup → Nat → State →
      Search (Option (MapLookup × Nat × Nat) × Status × State)}
    (positioned : ∀ todo map,
      (∀ position, map.cEntry = some position → position < map.entries.length) →
      Repositioned map (within todo map).2.2)
    (passed : ∀ todo s mlookup slot index, Clean origin tally s image →
      SlotAt tally image s mlookup slot index → Across tally image s (across todo mlookup slot s))
    {left : Nat} (done : spaceFrom within across poslast todo s = some (status, left, s')) :
    Clean origin tally s' image := by
  rw [VirtualTape.spaceFrom] at done
  split at done
  · exact absurd done (by simp)
  · rename_i cur isCur
    obtain ⟨-, -, index, -, copy, -⟩ := clean.on_cur isCur
    have moved := positioned todo cur copy.cEntry
    generalize within todo cur = result at done moved
    obtain ⟨ended, left, map⟩ := result
    have clean' := clean.modifyCur isCur moved
    have isCur' := cur?_modifyCur isCur map
    simp only at done
    split at done
    · simp only [Option.some.injEq, Prod.mk.injEq] at done
      exact done.2.2 ▸ clean'
    · split at done
      · simp only [Option.some.injEq, Prod.mk.injEq] at done
        exact done.2.2 ▸ clean'
      · split at done
        · exact absurd done (by simp)
        · rename_i mlookup found
          have at_ := clean'.lookupOf (copy.reposition moved) found
          have across' := passed left _ _ _ _ clean' at_
          split at done
          · exact absurd done (by simp)
          · simp only [Option.some.injEq, Prod.mk.injEq] at done
            exact done.2.2 ▸ clean'
          · rename_i search
            simp only [Option.some.injEq, Prod.mk.injEq] at done
            exact done.2.2 ▸ (across' _ _ _ search).1.clean clean'
          · rename_i search
            obtain ⟨fetched, slots⟩ := across' _ _ _ search
            obtain ⟨index', at'⟩ := slots _ _ _ rfl
            obtain ⟨place, isPlace, -, loaded, copied⟩ := (fetched.clean clean').loadSlot at' poslast
            rw [loaded] at done
            simp only [Option.some.injEq, Prod.mk.injEq] at done
            obtain ⟨-, -, rfl⟩ := done
            exact (fetched.clean clean').setOnlyMap at'
              ⟨place, isPlace, copied.reposition (positioned _ _ copied.cEntry)⟩

/-- SPACE keeps a partition clean. -/
theorem Clean.spaceCount (clean : Clean origin tally s image) {status : Status}
    {target : SpaceType} {left : Nat}
    (done : tapePartitionSpaceCount env target s = some (status, left, s')) :
    Clean origin tally s' image := by
  obtain ⟨ready, prepared, clean', -⟩ := clean.preSpace env
  unfold tapePartitionSpaceCount at done
  split at done
  · simp only [Option.some.injEq, Prod.mk.injEq] at done
    exact done.2.2 ▸ clean
  · simp only [Option.some.injEq, Prod.mk.injEq] at done
    exact done.2.2 ▸ clean
  · rw [prepared] at done
    simp only at done
    split at done
    · simp only [Option.some.injEq, Prod.mk.injEq] at done
      exact done.2.2 ▸ clean'
    · cases target with
      | endOfData =>
        obtain ⟨⟨ended, after⟩, spaced, same⟩ := Option.map_eq_some_iff.1 done
        simp only [Prod.mk.injEq] at same
        exact same.2.2 ▸ clean'.spaceEod spaced
      | forward code count =>
        refine clean'.spaceFrom (fun todo map => blkMapSpaceForward_repositioned code todo) ?_ done
        intro todo s mlookup slot index clean at_
        exact clean.mapLookupSpaceForward at_
      | backward code count =>
        refine clean'.spaceFrom (fun todo map => blkMapSpaceBackward_repositioned code todo) ?_ done
        intro todo s mlookup slot index clean at_
        exact clean.mapLookupSpaceBackward at_

/-- SPACE keeps a partition clean, whatever is left to count. -/
theorem Clean.space (clean : Clean origin tally s image) {status : Status} {target : SpaceType}
    (done : tapePartitionSpace env target s = some (status, s')) : Clean origin tally s' image := by
  obtain ⟨⟨ended, left, after⟩, spaced, same⟩ := Option.map_eq_some_iff.1 done
  obtain ⟨rfl, rfl⟩ := Prod.mk.inj same
  exact clean.spaceCount spaced

end VirtualTape
