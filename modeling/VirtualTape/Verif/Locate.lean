import Mathlib.Tactic.SplitIfs
import VirtualTape.Verif.OneLookup
import VirtualTape.Verif.Positioning

/-!
# Where LOCATE leaves a tape

A position is the number of objects in front of it. LOCATE to a block finds its lookup by following
the chain, its map by the slots and its entry by logical ids, and ends where it should. It reads the
current map first, so it does not work while the pointer to that map dangles.
-/

namespace VirtualTape

variable {tally : Prop} {origin s s' : State} {image : Image} {mlookup mlookup' : MapLookup}
  {link : Link} {place : Place} {map cur : BlkMap} {index slot address fuel : Nat} {env : Env}

/-! ## Positions -/

/-- The pointer to the current map dangles. -/
def Cursor.isDangling : Cursor → Bool
  | .dangling _ => true
  | _ => false

/-- The number of objects in front of the position. A rewind that leaves the pointer to the current
map dangling has moved to the beginning. -/
def PositionAt (image : Image) (position : Nat) : Cursor → Prop
  | .null => position = 0
  | .on _ cur _ => ∃ index, CopyAt image index cur ∧
      position = image.objectsBefore index + cur.cEntry.getD cur.entries.length
  | .loose _ _ => False
  | .dangling _ => position = 0

/-- A copy describes the map with its number. -/
theorem CopyAt.maps_getElem? (copy : CopyAt image index map) :
    image.maps[index]? = some map.image := by
  obtain ⟨place, found, copy⟩ := copy
  rw [← Image.map_img_places, List.getElem?_map, found, copy.image]
  rfl

/-- The entries of a map are numbered from its first logical id on. -/
def BlkMap.Numbered (map : BlkMap) : Prop :=
  map.entries.map BlkEntry.lidStart = List.range' map.lIdsStart map.entries.length

/-- Loading an entry does not change its logical id. -/
@[simp]
theorem BlkMap.image_entries_length (map : BlkMap) :
    map.image.entries.length = map.entries.length := List.length_map _

/-- The first logical id of a copy. -/
theorem CopyAt.lIdsStart (copy : CopyAt image index map) (formed : image.Formed) :
    map.lIdsStart = image.objectsBefore index := formed.map_start copy.maps_getElem?

/-- The entries of a copy are numbered. -/
theorem CopyAt.numbered (copy : CopyAt image index map) (formed : image.Formed) : map.Numbered := by
  have lids := formed.consecutive.lids (List.mem_of_getElem? copy.maps_getElem?)
  simp only [BlkMap.image, List.map_map, List.length_map, Function.comp_def,
    BlkEntry.loaded_lidStart] at lids
  exact lids

/-- The logical id of an entry. -/
theorem BlkMap.Numbered.lidStart (numbered : map.Numbered) {position : Nat} {entry : BlkEntry}
    (found : map.entries[position]? = some entry) : entry.lidStart = map.lIdsStart + position := by
  have inside := (List.getElem?_eq_some_iff.1 found).1
  have number := congrArg (fun list => list[position]?) numbered
  simp only [List.getElem?_map, found, Option.map_some, List.getElem?_range' inside,
    Option.some.injEq, Nat.one_mul] at number
  exact number

/-- Positions are unique. -/
theorem PositionAt.eq {cursor : Cursor} {position position' : Nat}
    (at_ : PositionAt image position cursor) (at' : PositionAt image position' cursor)
    (formed : image.Formed) : position = position' := by
  cases cursor with
  | null => exact at_.trans at'.symm
  | dangling maps => exact at_.trans at'.symm
  | loose maps cur => exact at_.elim
  | on before cur after =>
    obtain ⟨index, copy, rfl⟩ := at_
    obtain ⟨index', copy', rfl⟩ := at'
    rw [← copy.lIdsStart formed, ← copy'.lIdsStart formed]

/-! ## Searching the chain -/

/-- A prefix of the numbers from zero on. -/
theorem takeWhile_range (keep : Nat → Bool) (count : Nat) :
    ∃ stop ≤ count, (List.range count).takeWhile keep = List.range stop ∧
      (∀ number < stop, keep number = true) ∧ (stop < count → keep stop = false) := by
  induction count with
  | zero => exact ⟨0, le_refl 0, rfl, by simp, by simp⟩
  | succ count ih =>
    obtain ⟨stop, le, same, kept, ends⟩ := ih
    rw [List.range_succ, List.takeWhile_append, same, List.length_range, List.length_range]
    by_cases all : stop = count
    · subst all
      rw [if_pos rfl]
      cases last : keep stop with
      | true =>
        refine ⟨stop + 1, le_refl _, ?_, fun number less => ?_, by omega⟩
        · rw [List.takeWhile_cons_of_pos last, List.takeWhile_nil, List.range_succ]
        · rcases Nat.lt_succ_iff_lt_or_eq.1 less with before | rfl
          · exact kept number before
          · exact last
      | false =>
        refine ⟨stop, Nat.le_succ _, ?_, kept, fun _ => last⟩
        rw [List.takeWhile_cons_of_neg (by simp [last]), List.append_nil]
    · rw [if_neg all]
      exact ⟨stop, by omega, rfl, kept, fun _ => ends (by omega)⟩

/-- Behind the last lookup there are no maps. -/
theorem Image.last_link (mem : link ∈ image.links) (last : image[link.ordinal + 1]? = none) :
    link.start + link.img.maps.length = image.maps.length := by
  rw [← Image.take_maps_length mem, List.take_of_length_le (List.getElem?_eq_none_iff.1 last)]

/-- The first lookup of the chain is the first cached one. -/
theorem Clean.first_lookup (clean : Clean origin tally s image) (nonempty : image ≠ []) :
    ∃ first link, s.part.mlookups.head? = some first ∧ CachedAt tally image s first link ∧
      link.ordinal = 0 ∧ link.start = 0 := by
  have lookups := clean.lookups
  cases image with
  | nil => exact absurd rfl nonempty
  | cons img rest =>
    rw [LookupsClean, Image.links, linksFrom] at lookups
    generalize isList : s.part.mlookups = mlookups at lookups
    cases lookups with
    | @here first _ others _ head tail =>
      refine ⟨first, ⟨0, 0, img⟩, rfl, ⟨?_, List.mem_cons_self, head⟩, rfl, rfl⟩
      rw [isList]
      exact List.mem_cons_self
    | away head tail => exact absurd head (Nat.lt_irrefl 0)

/-- Without objects nothing is cached. -/
theorem Clean.mlookups_isEmpty (clean : Clean origin tally s image) :
    s.part.mlookups.isEmpty = true ↔ image = [] := by
  constructor
  · intro empty
    by_contra nonempty
    obtain ⟨first, link, head, -⟩ := clean.first_lookup nonempty
    rw [List.isEmpty_iff.1 empty] at head
    exact absurd head (by simp)
  · rintro rfl
    rw [List.isEmpty_iff, List.eq_nil_iff_forall_not_mem]
    intro mlookup mem
    obtain ⟨link, at_⟩ := clean.cachedAt mem
    exact absurd at_.mem List.not_mem_nil

/-- Following the chain ends at the last lookup that does not start beyond an address. -/
theorem Clean.locateLookup_ends (clean : Clean origin tally s image)
    (at_ : CachedAt tally image s mlookup link) (read : MapLookup → Nat)
    (start : LookupImage → Nat)
    (reads : ∀ mlookup link, LinkCopy tally image mlookup link → read mlookup = start link.img)
    (address fuel : Nat) (enough : image.length ≤ link.ordinal + fuel) :
    ∃ mlookup' link' s',
      VirtualTape.locateLookup read address fuel mlookup s = .found (mlookup', s') ∧
      CachedAt tally image s' mlookup' link' ∧ Fetched tally image s s' ∧
      (link' = link ∨ start link'.img ≤ address) ∧
      ∀ img, image[link'.ordinal + 1]? = some img → address < start img := by
  induction fuel generalizing s mlookup link with
  | zero =>
    have inside := (List.getElem?_eq_some_iff.1 (Image.getElem?_of_mem_links at_.mem).1).1
    omega
  | succ fuel ih =>
    have next : mlookup.nextBlock = image.wordAt (link.ordinal + 1) := at_.copy.page.nextBlock
    rw [VirtualTape.locateLookup]
    rcases clean.loadNext at_ with ⟨none, -⟩ | ⟨mlookup', link', after, loaded, ordinal, at', fetched⟩
    · rw [if_pos (next.trans (clean.readable.wordAt_eq_zero.2 none))]
      refine ⟨mlookup, link, s, rfl, at_, Fetched.refl clean.lookups, Or.inl rfl, ?_⟩
      intro img found
      rw [none] at found
      exact absurd found (by simp)
    · have found := (Image.getElem?_of_mem_links at'.mem).1
      rw [ordinal] at found
      have more : mlookup.nextBlock ≠ 0 := by
        rw [next]
        exact (clean.readable.word_eq found).2.2.2
      rw [if_neg more, loaded]
      simp only
      have begins := reads _ _ at'.copy
      by_cases beyond : read mlookup' > address
      · rw [if_pos beyond]
        refine ⟨mlookup, link, after, rfl, at_.fetched fetched, fetched, Or.inl rfl, ?_⟩
        intro img isImg
        obtain rfl := Option.some.inj (found.symm.trans isImg)
        omega
      · rw [if_neg beyond]
        obtain ⟨last, link'', s'', ended, at'', more, within, stops⟩ :=
          ih (fetched.clean clean) at' (by omega)
        refine ⟨last, link'', s'', ended, at'', fetched.trans more, Or.inr ?_, stops⟩
        rcases within with rfl | le
        · omega
        · exact le

/-- The slots of a cached lookup describe its maps. -/
theorem CachedAt.slot_eq (at_ : CachedAt tally image s mlookup link) {img : MapImage}
    (found : link.img.maps[slot]? = some img) : mlookup.entries slot = img.slot :=
  at_.copy.page.slots slot img found (List.getElem?_eq_some_iff.1 found).1

/-- The slot of a logical id, in a lookup that does not start beyond it. -/
theorem Clean.locateEntry (clean : Clean origin tally s image)
    (at_ : CachedAt tally image s mlookup link) (begins : link.img.lIdsStart ≤ address)
    (stops : ∀ img, image[link.ordinal + 1]? = some img → address < img.lIdsStart) :
    ∃ slot img, mapLookupLocateEntry mlookup address = some slot ∧
      slot < link.img.maps.length ∧ image.maps[link.start + slot]? = some img ∧
      img.lIdsStart ≤ address ∧ (address < img.lIdsStart + img.entries.length ∨
        link.start + slot + 1 = image.maps.length) := by
  have formed := clean.formed
  have count : mlookup.mapNrs = link.img.maps.length := at_.copy.page.mapNrs
  have positive := List.length_pos_iff.2 (formed.lookups _ (Image.mem_of_mem_links at_.mem)).nonempty
  have starts {slot : Nat} (inside : slot < link.img.maps.length) :
      mentryLidStart (mlookup.entries slot) = image.objectsBefore (link.start + slot) := by
    have found := List.getElem?_eq_getElem inside
    have inImage := (Image.maps_getElem? at_.mem inside).trans found
    rw [at_.slot_eq found, (clean.readable.mapFits _ (List.mem_of_getElem? inImage)).slot_lidStart,
      formed.map_start inImage]
  obtain ⟨stop, le, same, kept, ends⟩ := takeWhile_range
    (fun slot => decide (mentryLidStart (mlookup.entries slot) ≤ address)) mlookup.mapNrs
  -- the first slot does not start beyond the address, as its lookup does not
  have first : 0 < stop := by
    by_contra none
    have beyond := ends (by omega)
    have zero : stop = 0 := by omega
    rw [zero, decide_eq_false_iff_not, starts positive, Nat.add_zero,
      ← formed.link_start at_.mem] at beyond
    exact beyond begins
  have inside : stop - 1 < link.img.maps.length := by omega
  have found := (Image.maps_getElem? at_.mem inside).trans (List.getElem?_eq_getElem inside)
  have begun := of_decide_eq_true (kept (stop - 1) (by omega))
  rw [starts inside, ← formed.map_start found] at begun
  refine ⟨stop - 1, _, ?_, inside, found, begun, ?_⟩
  · rw [mapLookupLocateEntry, same, List.length_range, if_neg (by omega)]
  · have next := Image.objectsBefore_succ found
    rw [← formed.map_start found, show link.start + (stop - 1) + 1 = link.start + stop by omega]
      at next
    rw [show link.start + (stop - 1) + 1 = link.start + stop by omega, ← next]
    rcases Nat.lt_or_ge stop mlookup.mapNrs with more | all
    · have beyond := of_decide_eq_false (ends more)
      rw [starts (by omega)] at beyond
      exact Or.inl (by omega)
    · have whole : link.start + stop = link.start + link.img.maps.length := by omega
      rw [whole]
      cases after : image[link.ordinal + 1]? with
      | none => exact Or.inr (Image.last_link at_.mem after)
      | some img =>
        obtain ⟨link', mem', ordinal, rfl⟩ := Image.exists_link after
        rw [← Image.start_succ at_.mem mem' ordinal, ← formed.link_start mem']
        exact Or.inl (stops _ after)

/-- The map of a logical id is found: the last one that does not start beyond it. -/
theorem Clean.mapLookupLocate (clean : Clean origin tally s image) (nonempty : image ≠ [])
    (address : Nat) (enough : image.length ≤ fuel) :
    ∃ mlookup slot index img s',
      VirtualTape.mapLookupLocate address fuel s = .found (mlookup, slot, s') ∧
      SlotAt tally image s' mlookup slot index ∧ Fetched tally image s s' ∧
      image.maps[index]? = some img ∧ img.lIdsStart ≤ address ∧
      (address < img.lIdsStart + img.entries.length ∨ index + 1 = image.maps.length) := by
  obtain ⟨first, link, head, at_, ordinal, zero⟩ := clean.first_lookup nonempty
  obtain ⟨mlookup, link', s', ended, at', fetched, within, stops⟩ :=
    clean.locateLookup_ends at_ MapLookup.lIdsStart LookupImage.lIdsStart
      (fun _ _ copy => copy.page.lIdsStart) address fuel (by omega)
  have begins : link'.img.lIdsStart ≤ address := by
    rcases within with rfl | le
    · rw [clean.formed.link_start at_.mem, zero]
      exact Nat.zero_le _
    · exact le
  obtain ⟨slot, img, isSlot, inside, found, starts, reaches⟩ :=
    (fetched.clean clean).locateEntry at' begins stops
  have positive : mlookup.mapNrs ≠ 0 := by
    have count : mlookup.mapNrs = link'.img.maps.length := at'.copy.page.mapNrs
    omega
  refine ⟨mlookup, slot, link'.start + slot, img, s', ?_, ⟨link', at', inside, rfl⟩, fetched, found,
    starts, reaches⟩
  rw [VirtualTape.mapLookupLocate, mapLookupLocateBy, head]
  simp only [ended, positive, if_false, isSlot, Option.getD_some]

/-! ## The map of a slot -/

/-- The map that a slot describes is the current one exactly if that starts with the same logical
id. -/
theorem Clean.copyAt_of_lidStart (clean : Clean origin tally s image)
    (at_ : SlotAt tally image s mlookup slot index) {index' : Nat} (copy : CopyAt image index' cur)
    (same : mentryLidStart (mlookup.entries slot) = cur.lIdsStart) : CopyAt image index cur := by
  obtain ⟨link, cached, inside, rfl⟩ := at_
  have isMap := List.getElem?_eq_getElem inside
  have found := (Image.maps_getElem? cached.mem inside).trans isMap
  have fits := clean.readable.mapFits _ (List.mem_of_getElem? found)
  rw [cached.slot_eq isMap, fits.slot_lidStart, clean.formed.map_start found,
    copy.lIdsStart clean.formed] at same
  rw [clean.filled.index_eq found copy.maps_getElem? same]
  exact copy

/-- Positioning in the map of a slot ends in that map, as long as there is a current map. -/
theorem Clean.locateIn_ends (clean : Clean origin tally s image)
    (at_ : SlotAt tally image s mlookup slot index) (isCur : s.part.cursor.cur? = some cur)
    (position : BlkMap → Status × BlkMap) :
    ∃ map before after s', CopyAt image index map ∧
      VirtualTape.locateIn s mlookup slot position = some ((position map).1, s') ∧
      s'.part.cursor = .on before (position map).2 after ∧
      (map = cur ∧ mentryLidStart (mlookup.entries slot) = cur.lIdsStart ∨
        map.mlookupEntryId = slot ∧ mentryLidStart (mlookup.entries slot) ≠ cur.lIdsStart) := by
  obtain ⟨before, after, index', cursor, copy, -⟩ := clean.on_cur isCur
  rw [VirtualTape.locateIn, isCur]
  simp only
  by_cases same : mentryLidStart (mlookup.entries slot) = cur.lIdsStart
  · rw [if_pos same]
    refine ⟨cur, before, after, _, clean.copyAt_of_lidStart at_ copy same, rfl, ?_,
      Or.inl ⟨rfl, same⟩⟩
    rw [State.modifyCur, cursor]
    rfl
  · obtain ⟨place, found, isSlot, loaded, isCopy⟩ := clean.loadSlot at_ false
    rw [if_neg same, loaded]
    exact ⟨_, [], [], _, ⟨place, found, isCopy⟩, rfl, rfl,
      Or.inr ⟨isCopy.mlookupEntryId.trans isSlot, same⟩⟩

/-- Positioning a map in front of a logical id that it does not start beyond. -/
theorem BlkMap.Numbered.blkMapLocate (numbered : map.Numbered) (nonempty : map.entries ≠ [])
    (begins : map.lIdsStart ≤ address) :
    VirtualTape.blkMapLocate address map =
      (if address ≤ map.lIdsStart + map.entries.length then .ok else .eodReached,
        { map with cEntry := indexPosition map.entries (address - map.lIdsStart) }) := by
  have positive := List.length_pos_iff.2 nonempty
  rw [VirtualTape.blkMapLocate, indexPosition]
  by_cases inside : address - map.lIdsStart < map.entries.length
  · have isIndex : map.entries.findIdx? (fun entry => entry.lidStart == address) =
        some (address - map.lIdsStart) := by
      rw [List.findIdx?_eq_some_iff_getElem]
      refine ⟨inside, ?_, fun before less => ?_⟩
      · have lid := numbered.lidStart (List.getElem?_eq_getElem inside)
        rw [beq_iff_eq]
        omega
      · have lid := numbered.lidStart (List.getElem?_eq_getElem (Nat.lt_trans less inside))
        rw [Bool.not_eq_true, beq_eq_false_iff_ne]
        omega
    rw [isIndex, if_pos inside, if_pos (by omega)]
  · have isIndex : map.entries.findIdx? (fun entry => entry.lidStart == address) = none := by
      rw [List.findIdx?_eq_none_iff]
      intro entry mem
      obtain ⟨position, found⟩ := List.getElem?_of_mem mem
      have lid := numbered.lidStart found
      have less := (List.getElem?_eq_some_iff.1 found).1
      rw [beq_eq_false_iff_ne]
      omega
    have last : map.entries[map.entries.length - 1]? = some map.entries[map.entries.length - 1] :=
      List.getElem?_eq_getElem (by omega)
    have lid := numbered.lidStart last
    rw [isIndex, List.getLast?_eq_getElem?, last, if_neg inside]
    simp only [beq_iff_eq, lid]
    congr 1
    split_ifs <;> first | rfl | omega

/-! ## LOCATE to a block -/

/-- A command ends with a status and leaves the tape at a position, with the same image on disk. -/
def EndsAt (image : Image) (tally : Prop) (s : State) (outcome : Outcome) (status : Status)
    (position : Nat) : Prop :=
  ∃ s', outcome = some (status, s') ∧ PositionAt image position s'.part.cursor ∧
    Clean s tally s' image

/-- The origin can be forgotten. -/
theorem Clean.rebase (clean : Clean origin tally s image) : Clean s tally s image :=
  { clean with moved := .refl s }

/-- The current map of a tape with objects, unless its pointer dangles. -/
theorem Clean.cur_of_not_dangling (clean : Clean origin tally s image) (nonempty : image ≠ [])
    (held : s.part.cursor.isDangling = false) : ∃ cur, s.part.cursor.cur? = some cur := by
  have cursor := clean.cursor
  cases found : s.part.cursor with
  | null =>
    rw [found] at cursor
    exact absurd cursor nonempty
  | on before cur after => exact ⟨cur, rfl⟩
  | loose maps cur => exact ⟨cur, rfl⟩
  | dangling maps =>
    rw [found] at held
    exact absurd held (by simp [Cursor.isDangling])

/-- A dangling pointer is no current map. -/
theorem Cursor.cur?_of_isDangling {cursor : Cursor} (dangles : cursor.isDangling = true) :
    cursor.cur? = none := by
  cases cursor with
  | dangling maps => rfl
  | null | on | loose => exact absurd dangles (by simp [Cursor.isDangling])

/-- An empty tape has no current map, and its pointer does not dangle. -/
theorem Clean.cursor_of_empty (clean : Clean origin tally s []) : s.part.cursor = .null := by
  have cursor := clean.cursor
  cases found : s.part.cursor with
  | null => rfl
  | on before cur after =>
    rw [found] at cursor
    obtain ⟨index, copy, -⟩ := cursor
    exact absurd copy.maps_getElem? (by simp [Image.maps])
  | loose maps cur => exact absurd (found ▸ cursor) (by simp [CursorClean])
  | dangling maps => exact absurd rfl (found ▸ cursor)

/-- LOCATE on an empty tape. -/
theorem Clean.locate_empty (clean : Clean origin tally s []) (env : Env) (target : LocateType) :
    EndsAt [] tally s (tapePartitionLocate env target s)
      (if target.address = 0 then .ok else .eodReached) 0 := by
  obtain ⟨ready, prepared, clean', -⟩ := clean.rebase.preSpace env
  refine ⟨ready, ?_, ?_, clean'⟩
  · rw [tapePartitionLocate, prepared]
    simp only [clean'.mlookups_isEmpty.2 rfl, if_true]
  · rw [clean'.cursor_of_empty]
    exact rfl

/-- LOCATE to a block, with a current map. -/
theorem Clean.locateBlock_ends (clean : Clean s tally s image) (nonempty : image ≠ [])
    (enough : image.length ≤ env.fuel) (address : Nat) (isCur : s.part.cursor.cur? = some cur) :
    EndsAt image tally s (tapePartitionLocateBlock env address s)
      (if address ≤ image.objects.length then .ok else .eodReached)
      (min address image.objects.length) := by
  obtain ⟨mlookup, slot, index, img, after, search, at_, fetched, found, begins, reaches⟩ :=
    clean.mapLookupLocate nonempty address enough
  have clean' := fetched.clean clean
  rw [← fetched.cursor_eq] at isCur
  obtain ⟨map, before, behind, s', copy, done, cursor, -⟩ :=
    clean'.locateIn_ends at_ isCur (blkMapLocate address)
  obtain rfl := Option.some.inj (found.symm.trans copy.maps_getElem?)
  have formed := clean.formed
  have filled : map.entries ≠ [] := by
    have notEmpty := clean.filled _ (List.mem_of_getElem? found)
    exact fun none => notEmpty (by simp [BlkMap.image, none])
  have starts : map.lIdsStart ≤ address := begins
  have number := copy.lIdsStart formed
  have bound := Image.objectsBefore_add_le found
  rw [BlkMap.image_entries_length, ← number] at bound
  have whole : address < map.lIdsStart + map.entries.length ∨
      map.lIdsStart + map.entries.length = image.objects.length := by
    rcases reaches with less | last
    · exact Or.inl (by simpa [BlkMap.image] using less)
    · have next := Image.objectsBefore_succ found
      rw [last, Image.objectsBefore_length, BlkMap.image_entries_length, ← number] at next
      exact Or.inr next.symm
  have located := (copy.numbered formed).blkMapLocate filled starts
  have finished : tapePartitionLocateBlock env address s =
      some ((blkMapLocate address map).1, s') := by
    rw [tapePartitionLocateBlock, search]
    exact done
  refine ⟨s', ?_, ?_, clean.locateBlock finished⟩
  · rw [finished, located]
    congr 2
    split_ifs <;> first | rfl | omega
  · rw [cursor, located]
    have repositioned := copy.reposition (blkMapLocate_repositioned address map)
    rw [located] at repositioned
    refine ⟨index, repositioned, ?_⟩
    simp only [indexPosition, ← number]
    split_ifs with inside
    · simp only [Option.getD_some]
      omega
    · simp only [Option.getD_none]
      omega

/-- On a tape with objects LOCATE gets ready and leaves the pointer to the current map alone. -/
theorem Clean.locate_ready (clean : Clean s tally s image) (env : Env) (filled : image ≠ []) :
    ∃ ready, Clean s tally ready image ∧ ready.part.cursor = s.part.cursor ∧
      (∀ address, tapePartitionLocate env (.block address) s =
        tapePartitionLocateBlock env address ready) ∧
      ∀ number, tapePartitionLocate env (.file number) s =
        tapePartitionLocateFile env number ready := by
  obtain ⟨ready, prepared, clean', cursor⟩ := clean.preSpace env
  have notEmpty : ready.part.mlookups.isEmpty = false := by
    rw [Bool.eq_false_iff]
    exact fun none => filled (clean'.mlookups_isEmpty.1 none)
  refine ⟨ready, clean', cursor, fun address => ?_, fun number => ?_⟩
  all_goals
    rw [tapePartitionLocate, prepared]
    simp only [notEmpty, Bool.false_eq_true, if_false]

/-- LOCATE to a block ends where it should exactly if the pointer to the current map does not
dangle. -/
theorem tapePartitionLocate_block_iff (clean : Clean s tally s image) (env : Env)
    (enough : image.length ≤ env.fuel) (address : Nat) :
    EndsAt image tally s (tapePartitionLocate env (.block address) s)
        (if address ≤ image.objects.length then .ok else .eodReached)
        (min address image.objects.length) ↔
      s.part.cursor.isDangling = false := by
  by_cases empty : image = []
  · subst empty
    have ends := clean.locate_empty env (.block address)
    have dangles : s.part.cursor.isDangling = false := by
      rw [clean.cursor_of_empty]
      rfl
    refine iff_of_true ?_ dangles
    have none : Image.objects [] = [] := rfl
    rw [none, List.length_nil, Nat.min_zero]
    by_cases zero : address = 0
    · simpa [zero, LocateType.address] using ends
    · simpa [zero, LocateType.address] using ends
  · obtain ⟨ready, clean', cursor, starts, -⟩ := clean.locate_ready env empty
    rw [starts, ← cursor]
    constructor
    · rintro ⟨s', done, -, -⟩
      by_contra dangles
      rw [Bool.not_eq_false] at dangles
      obtain ⟨mlookup, slot, index, img, after, search, -, fetched, -⟩ :=
        clean'.mapLookupLocate empty address enough
      rw [tapePartitionLocateBlock, search] at done
      simp only [locateIn, fetched.cursor_eq, Cursor.cur?_of_isDangling dangles] at done
      exact absurd done (by simp)
    · intro held
      obtain ⟨cur, isCur⟩ := clean'.cur_of_not_dangling empty held
      obtain ⟨s', done, at_, clean''⟩ := clean'.rebase.locateBlock_ends empty enough address isCur
      exact ⟨s', done, at_, { clean'' with moved := clean'.moved.trans clean''.moved }⟩

/-! ## A small tape -/

/-- The position of a partition with one lookup. -/
def State.position (s : State) : Nat :=
  s.part.cursor.cur?.elim 0 fun cur =>
    s.image.objectsBefore cur.mlookupEntryId + cur.cEntry.getD cur.entries.length

/-- It is the position if the partition is found in order. -/
theorem State.positionAt_of_isIndexed (checked : s.isIndexed = true) :
    PositionAt s.image s.position s.part.cursor := by
  obtain ⟨before, cur, after, cursor, copy⟩ := State.copyAt_of_isIndexed checked
  rw [State.position, cursor]
  exact ⟨_, copy, rfl⟩

/-- A partition that is found in order, with its objects and its position. -/
theorem State.clean_at (checked : s.isIndexed = true) {position : Nat} (isImage : s.image = image)
    (isPosition : s.position = position) :
    Clean s True s image ∧ PositionAt image position s.part.cursor := by
  subst isImage isPosition
  exact ⟨State.clean_of_isIndexed checked, State.positionAt_of_isIndexed checked⟩

/-- A block of 512 bytes with its logical id. -/
def sampleBlock (lid : Nat) : BlkEntry :=
  ⟨setEntryEsize (setEntryBtype 0 1) 512, 64 + lid, 1, lid, 0, 512, none⟩

/-- A filemark with its logical id. -/
def sampleMark (lid : Nat) : BlkEntry := ⟨0, 67, 1, lid, 0, 0, none⟩

/-- A map of the lookup at sector 16, at its end. -/
def sampleMap (slot bStart lid filemarks : Nat) (entries : List BlkEntry) : BlkMap :=
  Place.load ⟨1, 16, slot, slot, ⟨1, bStart, 0, lid, filemarks, 0, entries⟩⟩ none

/-- A map of two blocks. -/
def firstMap : BlkMap := sampleMap 0 24 0 0 [sampleBlock 0, sampleBlock 1]

/-- A map of a block and two filemarks. -/
def secondMap : BlkMap := sampleMap 1 32 2 2 [sampleBlock 2, sampleMark 3, sampleMark 4]

/-- The lookup of the two maps. -/
def sampleLookup : MapLookup where
  bid := 1
  bStart := 16
  mapNrs := 2
  pendingNewMaps := 0
  nextBlock := 0
  prevBlock := 0
  lIdsStart := 0
  fIdsStart := 0
  sIdsStart := 0
  fIds := 2
  sIds := 0
  entries := fun slot =>
    if slot = 0 then firstMap.image.slot else if slot = 1 then secondMap.image.slot else ⟨0, 0⟩
  isNew := false
  ioPending := false
  dirty := none

/-- A tape with three blocks, in two maps, and two filemarks; it is at the end of data. -/
def sampleTape : State where
  group := smallPool
  disk := ((((blankDisk.writePage 1 16 8 (.lookup sampleLookup.page)).writePage 1 24 8
    (.map firstMap.page)).writePage 1 32 8 (.map secondMap.page)).writeData 1 64 1 7).writeData 1 65 2 8
  part := { smallTape.part with
    mlookups := [sampleLookup]
    cursor := .on [] secondMap [] }

/-- What it holds. -/
def sampleImage : Image := sampleTape.image

/-- It is found in order. -/
theorem sampleTape_isIndexed : sampleTape.isIndexed = true := by decide +kernel

/-- It is well formed and has no pending writes. -/
theorem sampleTape_clean : Clean sampleTape True sampleTape sampleImage :=
  State.clean_of_isIndexed sampleTape_isIndexed

/-- It holds five objects. -/
theorem sampleImage_objects_length : sampleImage.objects.length = 5 := by decide +kernel

/-- LOCATE to a block of the first map, from the end of the second. -/
theorem tapePartitionLocate_block_second :
    EndsAt sampleImage True sampleTape (tapePartitionLocate (syncEnv 4) (.block 1) sampleTape)
      .ok 1 := by
  have ends := (tapePartitionLocate_block_iff sampleTape_clean (syncEnv 4) (by decide +kernel) 1).2
    (by decide +kernel)
  rw [sampleImage_objects_length] at ends
  exact ends

/-- Sixteen filemarks, which take two maps. -/
def markedTape : State :=
  Outcome.state (tapePartitionWriteFilemarks (syncEnv 4) false 16 smallTape) smallTape

/-- The tape after LOCATE to the last filemark of the first map and READ, which goes on to the second
map. -/
def readOnTape : State :=
  let located := Outcome.state (tapePartitionLocate (syncEnv 4) (.block 14) markedTape) markedTape
  Outcome.state (tapePartitionRead (syncEnv 4) 512 1 located) located

/-- A rewind frees the current map when the first map is still cached in front of it, and the next
LOCATE uses it. -/
theorem tapePartitionLocate_after_rewind :
    ∃ s, tapeCmdRewind (syncEnv 4) readOnTape = some (.ok, s) ∧
      s.part.cursor.isDangling = true ∧ (recorded 4 s).map List.length = some 16 ∧
      tapePartitionLocate (syncEnv 4) (.block 0) s = none := by
  refine ⟨Outcome.state (tapeCmdRewind (syncEnv 4) readOnTape) readOnTape,
    Outcome.eq_some (by decide +kernel) readOnTape, by decide +kernel, by decide +kernel, ?_⟩
  exact Option.map_eq_none_iff.1 (show (tapePartitionLocate (syncEnv 4) (.block 0)
    (Outcome.state (tapeCmdRewind (syncEnv 4) readOnTape) readOnTape)).map Prod.fst = none by
      decide +kernel)

end VirtualTape
