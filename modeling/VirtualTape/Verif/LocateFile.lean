import VirtualTape.Verif.Locate

/-!
# Where LOCATE to a file leaves a tape

The lookups, their slots and the entries of a map are searched by the number of filemarks in front
of them. What is found is a filemark, and the tape is left in front of it, which is where the file
with that number ends.
-/

namespace VirtualTape

variable {tally : Prop} {origin s s' : State} {image : Image} {mlookup : MapLookup} {link : Link}
  {map cur : BlkMap} {index slot address number fuel : Nat} {env : Env} {xs : List BlkEntry}

/-! ## Marks in front of a slot -/

/-- A map with its marks. -/
theorem Image.filemarksBefore_succ {img : MapImage} (counted : img.Counted)
    (found : image.maps[index]? = some img) :
    image.filemarksBefore (index + 1) = image.filemarksBefore index + img.fIds := by
  rw [filemarksBefore, filemarksBefore, List.take_add_one, found, List.flatMap_append,
    List.countP_append, counted.filemarks, ← List.countP_eq_length_filter]
  simp

/-- A map with its marks. -/
theorem Image.setmarksBefore_succ {img : MapImage} (counted : img.Counted)
    (found : image.maps[index]? = some img) :
    image.setmarksBefore (index + 1) = image.setmarksBefore index + img.sIds := by
  rw [setmarksBefore, setmarksBefore, List.take_add_one, found, List.flatMap_append,
    List.countP_append, counted.setmarks, ← List.countP_eq_length_filter]
  simp

/-- The slots of a lookup count the marks in front of a map. -/
theorem Clean.slot_marks (clean : Clean origin True s image)
    (at_ : CachedAt True image s mlookup link) (count : Nat) (le : count ≤ link.img.maps.length) :
    mlookup.fIdsStart + slotFilemarks mlookup.entries count =
        image.filemarksBefore (link.start + count) ∧
      mlookup.sIdsStart + slotSetmarks mlookup.entries count =
        image.setmarksBefore (link.start + count) := by
  induction count with
  | zero =>
    have starts := (clean.tallied trivial).link_start clean.counted at_.mem
    have filemarks : mlookup.fIdsStart = link.img.fIdsStart := at_.copy.page.fIdsStart
    have setmarks : mlookup.sIdsStart = link.img.sIdsStart := at_.copy.page.sIdsStart
    simp [slotFilemarks, slotSetmarks, filemarks, setmarks, starts]
  | succ count ih =>
    have inside : count < link.img.maps.length := le
    have isMap := List.getElem?_eq_getElem inside
    have found := (Image.maps_getElem? at_.mem inside).trans isMap
    have mem := List.mem_of_getElem? found
    have fits := clean.readable.mapFits _ mem
    have before := ih (Nat.le_of_lt inside)
    have filemarks : slotFilemarks mlookup.entries (count + 1) =
        slotFilemarks mlookup.entries count + link.img.maps[count].fIds := by
      simp [slotFilemarks, List.range_succ, at_.slot_eq isMap, fits.slot_filemarks]
    have setmarks : slotSetmarks mlookup.entries (count + 1) =
        slotSetmarks mlookup.entries count + link.img.maps[count].sIds := by
      simp [slotSetmarks, List.range_succ, at_.slot_eq isMap, fits.slot_setmarks]
    rw [filemarks, setmarks, ← Nat.add_assoc, ← Nat.add_assoc, ← Nat.add_assoc, before.1, before.2,
      Image.filemarksBefore_succ (clean.counted _ mem) found,
      Image.setmarksBefore_succ (clean.counted _ mem) found]
    exact ⟨rfl, rfl⟩

/-- The slot of a file number, in a lookup that does not start beyond it. -/
theorem Clean.locateFileEntry (clean : Clean origin True s image)
    (at_ : CachedAt True image s mlookup link) (begins : link.img.fIdsStart ≤ address)
    (stops : ∀ img, image[link.ordinal + 1]? = some img → address < img.fIdsStart) :
    ∃ slot, mapLookupLocateFileEntry mlookup address = some slot ∧
      slot < link.img.maps.length ∧ image.filemarksBefore (link.start + slot) ≤ address ∧
      (address < image.filemarksBefore (link.start + slot + 1) ∨
        link.start + slot + 1 = image.maps.length) := by
  have tallied := clean.tallied trivial
  have count : mlookup.mapNrs = link.img.maps.length := at_.copy.page.mapNrs
  have positive := List.length_pos_iff.2
    (clean.formed.lookups _ (Image.mem_of_mem_links at_.mem)).nonempty
  obtain ⟨stop, le, same, kept, ends⟩ := takeWhile_range
    (fun slot => decide (mlookup.fIdsStart + slotFilemarks mlookup.entries (slot + 1) ≤ address))
    mlookup.mapNrs
  have passed {slot : Nat} (inside : slot < link.img.maps.length) :=
    (clean.slot_marks at_ (slot + 1) inside).1
  refine ⟨min stop (mlookup.mapNrs - 1), ?_, by omega, ?_, ?_⟩
  · rw [mapLookupLocateFileEntry, if_neg (by omega), same]
    simp only [List.length_range]
  · cases least : min stop (mlookup.mapNrs - 1) with
    | zero =>
      rw [Nat.add_zero, ← (tallied.link_start clean.counted at_.mem).1]
      exact begins
    | succ before =>
      have below := of_decide_eq_true (kept before (by omega))
      rw [passed (by omega)] at below
      exact below
  · rcases Nat.lt_or_ge stop mlookup.mapNrs with more | all
    · have beyond := of_decide_eq_false (ends more)
      rw [passed (by omega)] at beyond
      rw [Nat.min_eq_left (by omega)]
      exact Or.inl (Nat.lt_of_not_le beyond)
    · have whole : link.start + min stop (mlookup.mapNrs - 1) + 1 =
          link.start + link.img.maps.length := by omega
      rw [whole]
      cases after : image[link.ordinal + 1]? with
      | none => exact Or.inr (Image.last_link at_.mem after)
      | some img =>
        obtain ⟨link', mem', ordinal, rfl⟩ := Image.exists_link after
        rw [← Image.start_succ at_.mem mem' ordinal,
          ← (tallied.link_start clean.counted mem').1]
        exact Or.inl (stops _ after)

/-- The map of a file number is found: the one with that filemark, or the last one. -/
theorem Clean.mapLookupLocateFile (clean : Clean origin True s image) (nonempty : image ≠ [])
    (address : Nat) (enough : image.length ≤ fuel) :
    ∃ mlookup slot index s',
      VirtualTape.mapLookupLocateFile address fuel s = .found (mlookup, slot, s') ∧
      SlotAt True image s' mlookup slot index ∧ Fetched True image s s' ∧
      image.filemarksBefore index ≤ address ∧
      (address < image.filemarksBefore (index + 1) ∨ index + 1 = image.maps.length) := by
  obtain ⟨first, link, head, at_, ordinal, zero⟩ := clean.first_lookup nonempty
  obtain ⟨mlookup, link', s', ended, at', fetched, within, stops⟩ :=
    clean.locateLookup_ends at_ MapLookup.fIdsStart LookupImage.fIdsStart
      (fun _ _ copy => copy.page.fIdsStart) address fuel (by omega)
  have begins : link'.img.fIdsStart ≤ address := by
    rcases within with rfl | le
    · rw [((clean.tallied trivial).link_start clean.counted at_.mem).1, zero]
      exact Nat.zero_le _
    · exact le
  obtain ⟨slot, isSlot, inside, starts, reaches⟩ :=
    (fetched.clean clean).locateFileEntry at' begins stops
  have positive : mlookup.mapNrs ≠ 0 := by
    have count : mlookup.mapNrs = link'.img.maps.length := at'.copy.page.mapNrs
    omega
  refine ⟨mlookup, slot, link'.start + slot, s', ?_, ⟨link', at', inside, rfl⟩, fetched, starts,
    reaches⟩
  rw [VirtualTape.mapLookupLocateFile, mapLookupLocateBy, head]
  simp only [ended, positive, if_false, isSlot, Option.getD_some]

/-! ## Filemarks of a map -/

/-- The filemark with a number is found, if there is one. -/
theorem filemarkIndex_spec (number : Nat) (entries : List BlkEntry) :
    (∃ position entry, filemarkIndex number entries = some position ∧
        entries[position]? = some entry ∧ entry.isFilemark = true ∧
        (entries.take position).countP BlkEntry.isFilemark = number) ∨
      filemarkIndex number entries = none ∧ entries.countP BlkEntry.isFilemark ≤ number := by
  -- the indices are counted from an offset on, so that the induction goes through
  have from_ (offset number : Nat) (entries : List BlkEntry) :
      (∃ position entry, (((List.range' offset entries.length).zip entries).filter
            fun pair => pair.2.isFilemark)[number]? = some (offset + position, entry) ∧
          entries[position]? = some entry ∧ entry.isFilemark = true ∧
          (entries.take position).countP BlkEntry.isFilemark = number) ∨
        (((List.range' offset entries.length).zip entries).filter
          fun pair => pair.2.isFilemark)[number]? = none ∧
          entries.countP BlkEntry.isFilemark ≤ number := by
    induction entries generalizing offset number with
    | nil => exact Or.inr ⟨rfl, Nat.zero_le _⟩
    | cons first rest ih =>
      rw [List.length_cons, List.range'_succ, List.zip_cons_cons]
      cases mark : first.isFilemark with
      | true =>
        rw [List.filter_cons_of_pos (by simpa using mark), List.countP_cons_of_pos mark]
        cases number with
        | zero => exact Or.inl ⟨0, first, rfl, rfl, mark, rfl⟩
        | succ number =>
          rw [List.getElem?_cons_succ]
          rcases ih (offset + 1) number with ⟨position, entry, found, isEntry, isMark, before⟩ | none
          · refine Or.inl ⟨position + 1, entry, ?_, isEntry, isMark, ?_⟩
            · rw [found, Nat.add_assoc, Nat.add_comm 1]
            · rw [List.take_succ_cons, List.countP_cons_of_pos mark, before]
          · exact Or.inr ⟨none.1, Nat.succ_le_succ none.2⟩
      | false =>
        have notMark : ¬ first.isFilemark = true := by simp [mark]
        rw [List.filter_cons_of_neg (by simpa using mark), List.countP_cons_of_neg notMark]
        rcases ih (offset + 1) number with ⟨position, entry, found, isEntry, isMark, before⟩ | none
        · refine Or.inl ⟨position + 1, entry, ?_, isEntry, isMark, ?_⟩
          · rw [found, Nat.add_assoc, Nat.add_comm 1]
          · rw [List.take_succ_cons, List.countP_cons_of_neg notMark, before]
        · exact Or.inr none
  rw [filemarkIndex, List.range_eq_range']
  rcases from_ 0 number entries with ⟨position, entry, found, rest⟩ | ⟨none, few⟩
  · refine Or.inl ⟨position, entry, ?_, rest⟩
    rw [found, Option.map_some, Nat.zero_add]
  · exact Or.inr ⟨by rw [none, Option.map_none], few⟩

/-! ## The start of a file -/

/-- Number of objects in front of a file: all up to the filemark with its number, counted from one
on. -/
def fileStart : Nat → List BlkEntry → Nat
  | 0, _ => 0
  | _ + 1, [] => 0
  | number + 1, entry :: rest =>
    if entry.isFilemark then fileStart number rest + 1 else fileStart (number + 1) rest + 1

/-- In front of a file are as many filemarks as its number says. -/
theorem countP_take_fileStart (enough : number ≤ xs.countP BlkEntry.isFilemark) :
    (xs.take (fileStart number xs)).countP BlkEntry.isFilemark = number := by
  induction xs generalizing number with
  | nil =>
    have zero : number = 0 := by simpa using enough
    simp [zero]
  | cons entry rest ih =>
    cases number with
    | zero => rfl
    | succ number =>
      cases mark : entry.isFilemark with
      | true =>
        rw [List.countP_cons_of_pos mark] at enough
        rw [fileStart, if_pos mark, List.take_succ_cons, List.countP_cons_of_pos mark,
          ih (by omega)]
      | false =>
        have notMark : ¬ entry.isFilemark = true := by simp [mark]
        rw [List.countP_cons_of_neg notMark] at enough
        rw [fileStart, if_neg notMark, List.take_succ_cons, List.countP_cons_of_neg notMark,
          ih enough]

/-- There is a filemark at a position. -/
def markAt (xs : List BlkEntry) (position : Nat) : Bool := (xs[position]?).any BlkEntry.isFilemark

/-- The filemark at a position. -/
theorem markAt_iff {position : Nat} : markAt xs position = true ↔
    ∃ entry, xs[position]? = some entry ∧ entry.isFilemark = true := by
  cases found : xs[position]? <;> simp [markAt, found]

/-- A filemark adds one to the count. -/
theorem countP_take_succ {position : Nat} (mark : markAt xs position = true) :
    (xs.take (position + 1)).countP BlkEntry.isFilemark =
      (xs.take position).countP BlkEntry.isFilemark + 1 := by
  obtain ⟨entry, found, isMark⟩ := markAt_iff.1 mark
  rw [List.take_add_one, found, List.countP_append]
  simp [isMark]

/-- Later positions have no fewer filemarks in front. -/
theorem countP_take_le (xs : List BlkEntry) {position position' : Nat} (le : position ≤ position') :
    (xs.take position).countP BlkEntry.isFilemark ≤
      (xs.take position').countP BlkEntry.isFilemark := by
  rw [← Nat.min_eq_left le, ← List.take_take]
  exact (List.take_sublist _ _).countP_le

/-- Filemarks have different numbers. -/
theorem markAt_unique {position position' : Nat} (mark : markAt xs position = true)
    (mark' : markAt xs position' = true)
    (same : (xs.take position).countP BlkEntry.isFilemark =
      (xs.take position').countP BlkEntry.isFilemark) : position = position' := by
  have next := countP_take_succ mark
  have next' := countP_take_succ mark'
  rcases Nat.lt_trichotomy position position' with less | equal | more
  · have le := countP_take_le xs (show position + 1 ≤ position' from less)
    omega
  · exact equal
  · have le := countP_take_le xs (show position' + 1 ≤ position from more)
    omega

/-- A filemark has a number below the number of filemarks. -/
theorem countP_take_lt {position : Nat} (mark : markAt xs position = true) :
    (xs.take position).countP BlkEntry.isFilemark < xs.countP BlkEntry.isFilemark := by
  have next := countP_take_succ mark
  have le := (List.take_sublist (position + 1) xs).countP_le (p := BlkEntry.isFilemark)
  omega

/-! ## LOCATE to a file -/

/-- What is read back of a settled entry is the same kind of object. -/
theorem BlkEntry.Settled.isFilemark {entry : BlkEntry} (settled : entry.Settled) :
    entry.loaded.isFilemark = entry.isFilemark := by
  rw [BlkEntry.isFilemark, BlkEntry.isFilemark, BlkEntry.loaded_isDataBlock, settled.bits]

/-- What is read back of a settled entry is the same kind of object. -/
theorem BlkEntry.Settled.isSetmark {entry : BlkEntry} (settled : entry.Settled) :
    entry.loaded.isSetmark = entry.isSetmark := by
  rw [BlkEntry.isSetmark, BlkEntry.isSetmark, BlkEntry.loaded_isDataBlock, settled.bits]

/-- A copy has the marks of the map it describes. -/
theorem CopyAt.countP_take (copy : CopyAt image index map) (count : Nat) :
    (map.image.entries.take count).countP BlkEntry.isFilemark =
        (map.entries.take count).countP BlkEntry.isFilemark ∧
      (map.image.entries.take count).countP BlkEntry.isSetmark =
        (map.entries.take count).countP BlkEntry.isSetmark := by
  obtain ⟨place, -, copy⟩ := copy
  have settled : ∀ entry ∈ map.entries.take count, entry.Settled := fun entry mem =>
    copy.entries entry (List.mem_of_mem_take mem)
  rw [BlkMap.image, ← List.map_take, List.countP_map, List.countP_map]
  constructor
  · apply List.countP_congr
    intro entry mem
    simp [(settled entry mem).isFilemark]
  · apply List.countP_congr
    intro entry mem
    simp [(settled entry mem).isSetmark]

/-- The object at a place within a map. -/
theorem Image.objects_getElem? {img : MapImage} (found : image.maps[index]? = some img)
    {position : Nat} (inside : position < img.entries.length) :
    image.objects[image.objectsBefore index + position]? = img.entries[position]? := by
  have whole := congrArg (fun list => list[image.objectsBefore index + position]?)
    (Image.objects_take found (le_refl _))
  rw [List.getElem?_take_of_lt (by omega), List.take_length] at whole
  rw [whole, Image.objectsBefore, List.getElem?_append_right (Nat.le_add_right _ _),
    Nat.add_sub_cancel_left]

/-- How LOCATE to a file ends: in front of the filemark with the number, counted from zero on, or at
the end of data. -/
def FileFound (image : Image) (number : Nat) (status : Status) (position : Nat) : Prop :=
  status = .ok ∧ markAt image.objects position = true ∧
      (image.objects.take position).countP BlkEntry.isFilemark = number ∨
    status = .eodReached ∧ image.objects.countP BlkEntry.isFilemark ≤ number

/-- Positioning a map in front of a filemark. -/
theorem Clean.fileFound (clean : Clean origin True s image) (copy : CopyAt image index map)
    (at_ : SlotAt True image s mlookup map.mlookupEntryId index)
    (begins : image.filemarksBefore index ≤ number)
    (reaches : number < image.filemarksBefore (index + 1) ∨ index + 1 = image.maps.length) :
    FileFound image number (blkMapLocateFile mlookup number map).1
      (image.objectsBefore index +
        (blkMapLocateFile mlookup number map).2.cEntry.getD map.entries.length) := by
  obtain ⟨link, cached, inside, rfl⟩ := at_
  have starts := (clean.slot_marks cached map.mlookupEntryId (Nat.le_of_lt inside)).1
  have found := copy.maps_getElem?
  have counted := clean.counted _ (List.mem_of_getElem? found)
  have next := Image.filemarksBefore_succ counted found
  have total : map.image.fIds = map.entries.countP BlkEntry.isFilemark := by
    have whole := (copy.countP_take map.entries.length).1
    rw [List.take_length, List.take_of_length_le (by simp)] at whole
    rw [counted.filemarks, ← List.countP_eq_length_filter, whole]
  rw [blkMapLocateFile, starts, if_pos begins]
  rcases filemarkIndex_spec (number - image.filemarksBefore (link.start + map.mlookupEntryId))
    map.entries with ⟨position, entry, isIndex, isEntry, isMark, before⟩ | ⟨isIndex, few⟩
  · have less := (List.getElem?_eq_some_iff.1 isEntry).1
    have less' : position < map.image.entries.length := by simpa using less
    rw [isIndex]
    refine Or.inl ⟨rfl, markAt_iff.2 ⟨entry.loaded, ?_, ?_⟩, ?_⟩
    · rw [Option.getD_some, Image.objects_getElem? found less', BlkMap.image, List.getElem?_map,
        isEntry]
      rfl
    · obtain ⟨place, -, isCopy⟩ := copy
      rw [(isCopy.entries entry (List.mem_of_getElem? isEntry)).isFilemark, isMark]
    · rw [Option.getD_some, Image.objects_take found (Nat.le_of_lt less'), List.countP_append,
        (copy.countP_take position).1, before]
      exact Nat.add_sub_cancel' begins
  · rw [isIndex]
    refine Or.inr ⟨rfl, ?_⟩
    rw [total] at next
    have last : link.start + map.mlookupEntryId + 1 = image.maps.length := by
      rcases reaches with less | last
      · omega
      · exact last
    have all : image.filemarksBefore image.maps.length =
        image.objects.countP BlkEntry.isFilemark := by
      rw [Image.filemarksBefore, List.take_length]
      rfl
    rw [← all, ← last]
    omega

/-- The lookup of the map of a slot is cached. -/
theorem Clean.lookupOf_slot (clean : Clean origin tally s image)
    (at_ : SlotAt tally image s mlookup slot index) (copy : CopyAt image index map) :
    ∃ owner, s.part.lookupOf map = some owner ∧
      SlotAt tally image s owner map.mlookupEntryId index := by
  obtain ⟨link, cached, inside, number⟩ := at_
  have found : (s.part.lookupOf map).isSome = true := by
    obtain ⟨place, isPlace, isCopy⟩ := copy
    have here := Image.places_of_slot cached.mem (List.getElem?_eq_getElem inside)
    rw [← number] at here
    obtain rfl := Option.some.inj (isPlace.symm.trans here)
    rw [Partition.lookupOf, findLookup, List.find?_isSome]
    refine ⟨mlookup, cached.cached, ?_⟩
    rw [isCopy.mlookupBid, isCopy.mlookupBStart, cached.copy.bid, cached.copy.bStart]
    simp
  obtain ⟨owner, isOwner⟩ := Option.isSome_iff_exists.1 found
  exact ⟨owner, isOwner, clean.lookupOf copy isOwner⟩

/-- LOCATE to a file, with a current map. -/
theorem Clean.locateFile_ends (clean : Clean s True s image) (nonempty : image ≠ [])
    (enough : image.length ≤ env.fuel) (number : Nat) (isCur : s.part.cursor.cur? = some cur) :
    ∃ status position, EndsAt image True s (tapePartitionLocateFile env number s) status position ∧
      FileFound image number status position := by
  obtain ⟨mlookup, slot, index, after, search, at_, fetched, begins, reaches⟩ :=
    clean.mapLookupLocateFile nonempty number enough
  have clean' := fetched.clean clean
  rw [← fetched.cursor_eq] at isCur
  -- the lookup that the marks are counted from is that of the map
  have done : ∃ owner map before behind s', CopyAt image index map ∧
      SlotAt True image after owner map.mlookupEntryId index ∧
      tapePartitionLocateFile env number s =
        some ((blkMapLocateFile owner number map).1, s') ∧
      s'.part.cursor = .on before (blkMapLocateFile owner number map).2 behind := by
    rw [tapePartitionLocateFile, search]
    simp only [isCur]
    by_cases same : mentryLidStart (mlookup.entries slot) = cur.lIdsStart
    · obtain ⟨-, -, index', -, copy', -⟩ := clean'.on_cur isCur
      obtain ⟨owner, isOwner, ownerAt⟩ :=
        clean'.lookupOf_slot at_ (clean'.copyAt_of_lidStart at_ copy' same)
      obtain ⟨map, before, behind, s', copy, ended, cursor, which⟩ :=
        clean'.locateIn_ends at_ isCur (blkMapLocateFile owner number)
      obtain rfl : map = cur := by
        rcases which with ⟨isMap, -⟩ | ⟨-, differ⟩
        · exact isMap
        · exact absurd same differ
      rw [if_pos same, isOwner]
      exact ⟨owner, map, before, behind, s', copy, ownerAt, ended, cursor⟩
    · obtain ⟨map, before, behind, s', copy, ended, cursor, which⟩ :=
        clean'.locateIn_ends at_ isCur (blkMapLocateFile mlookup number)
      have isSlot : map.mlookupEntryId = slot := by
        rcases which with ⟨-, equal⟩ | ⟨isSlot, -⟩
        · exact absurd equal same
        · exact isSlot
      rw [if_neg same]
      exact ⟨mlookup, map, before, behind, s', copy, isSlot ▸ at_, ended, cursor⟩
  obtain ⟨owner, map, before, behind, s', copy, ownerAt, finished, cursor⟩ := done
  have result := clean'.fileFound copy ownerAt begins reaches
  have repositioned := blkMapLocateFile_repositioned owner number map
  refine ⟨_, _, ⟨s', finished, ?_, clean.locateFile finished⟩, result⟩
  rw [cursor]
  refine ⟨index, copy.reposition repositioned, ?_⟩
  obtain ⟨cEntry, isMap, -⟩ := repositioned
  rw [isMap]

/-- LOCATE to a file leaves the tape in front of its first object, or reports the end of data if there
is no such file. -/
def LocatesFile (image : Image) (s : State) (outcome : Outcome) (number : Nat) : Prop :=
  ∃ status position, EndsAt image True s outcome status position ∧
    (number ≤ image.objects.countP BlkEntry.isFilemark →
      status = .ok ∧ position = fileStart number image.objects) ∧
    (image.objects.countP BlkEntry.isFilemark < number → status = .eodReached)

/-- The tape is empty, or there is no such file, or a filemark starts it, which is then both where the
file starts and where it ends. -/
def fileIsEmpty (image : Image) (number : Nat) : Bool :=
  image.objects.isEmpty || decide (image.objects.countP BlkEntry.isFilemark < number) ||
    markAt image.objects (fileStart number image.objects)

/-- Stopping in front of the filemark with the number of a file is right exactly if the file is
empty. -/
theorem FileFound.iff {status : Status} {position : Nat}
    (found : FileFound image number status position) (nonempty : image.objects ≠ []) :
    ((number ≤ image.objects.countP BlkEntry.isFilemark →
        status = .ok ∧ position = fileStart number image.objects) ∧
      (image.objects.countP BlkEntry.isFilemark < number → status = .eodReached)) ↔
      fileIsEmpty image number = true := by
  have notEmpty : image.objects.isEmpty = false := by simpa using nonempty
  rw [fileIsEmpty, notEmpty, Bool.false_or, Bool.or_eq_true, decide_eq_true_iff]
  rcases found with ⟨rfl, mark, before⟩ | ⟨rfl, few⟩
  · have less := countP_take_lt mark
    rw [before] at less
    have start := countP_take_fileStart (Nat.le_of_lt less)
    constructor
    · rintro ⟨right, -⟩
      rw [← (right (Nat.le_of_lt less)).2]
      exact Or.inr mark
    · rintro (none | starts)
      · omega
      · refine ⟨fun _ => ⟨rfl, markAt_unique mark starts (before.trans start.symm)⟩, fun none => ?_⟩
        omega
  · constructor
    · rintro ⟨right, -⟩
      refine Or.inl (Nat.lt_of_not_le fun le => ?_)
      exact absurd (right le).1 (by simp)
    · rintro (none | starts)
      · exact ⟨fun le => absurd le (by omega), fun _ => rfl⟩
      · refine ⟨fun le => ?_, fun _ => rfl⟩
        have less := countP_take_lt starts
        rw [countP_take_fileStart le] at less
        omega

/-- A tape with an index has objects. -/
theorem Clean.objects_nonempty (clean : Clean origin tally s image) (nonempty : image ≠ []) :
    image.objects ≠ [] := by
  obtain ⟨mlookup, rest, rfl⟩ := List.exists_cons_of_ne_nil nonempty
  have sized := clean.formed.lookups mlookup List.mem_cons_self
  obtain ⟨map, maps, isMaps⟩ := List.exists_cons_of_ne_nil sized.nonempty
  have mem : map ∈ Image.maps (mlookup :: rest) := by simp [Image.maps, isMaps]
  have filled := clean.filled map mem
  intro none
  obtain ⟨entry, others, isEntries⟩ := List.exists_cons_of_ne_nil filled
  have inside : entry ∈ Image.objects (mlookup :: rest) :=
    List.mem_flatMap.2 ⟨map, mem, by simp [isEntries]⟩
  rw [none] at inside
  exact absurd inside List.not_mem_nil

/-- LOCATE to a file does what it should exactly if the file is empty or missing, or the tape is empty,
and the pointer to the current map does not dangle. -/
theorem tapePartitionLocate_file_iff (clean : Clean s True s image) (env : Env)
    (enough : image.length ≤ env.fuel) (number : Nat) :
    LocatesFile image s (tapePartitionLocate env (.file number) s) number ↔
      s.part.cursor.isDangling = false ∧ fileIsEmpty image number = true := by
  by_cases empty : image = []
  · subst empty
    have ends := clean.locate_empty env (.file number)
    have dangles : s.part.cursor.isDangling = false := by
      rw [clean.cursor_of_empty]
      rfl
    refine iff_of_true ⟨_, _, ends, ?_, ?_⟩ ⟨dangles, rfl⟩
    · intro le
      have zero : number = 0 := Nat.le_zero.1 le
      subst zero
      exact ⟨rfl, rfl⟩
    · intro less
      exact if_neg (Nat.ne_of_gt less)
  · obtain ⟨ready, clean', cursor, -, starts⟩ := clean.locate_ready env empty
    rw [starts, ← cursor]
    cases held : ready.part.cursor.isDangling with
    | true =>
      refine iff_of_false ?_ (by simp)
      rintro ⟨status, position, ⟨s', done, -, -⟩, -⟩
      obtain ⟨mlookup, slot, index, after, search, -, fetched, -⟩ :=
        clean'.mapLookupLocateFile empty number enough
      rw [tapePartitionLocateFile, search] at done
      simp only [locateIn, fetched.cursor_eq, Cursor.cur?_of_isDangling held] at done
      exact absurd done (by simp)
    | false =>
      obtain ⟨cur, isCur⟩ := clean'.cur_of_not_dangling empty held
      obtain ⟨status, position, ⟨s', done, at_, clean''⟩, found⟩ :=
        clean'.rebase.locateFile_ends empty enough number isCur
      have iff := found.iff (clean.objects_nonempty empty)
      rw [← iff, eq_self_iff_true, true_and]
      constructor
      · rintro ⟨status', position', ⟨s'', done', at', -⟩, right⟩
        rw [done] at done'
        simp only [Option.some.injEq, Prod.mk.injEq] at done'
        obtain ⟨rfl, rfl⟩ := done'
        rw [at_.eq at' clean.formed]
        exact right
      · intro right
        exact ⟨status, position, ⟨s', done, at_,
          { clean'' with moved := clean'.moved.trans clean''.moved }⟩, right⟩

/-- LOCATE to the second file of the small tape, which is empty. -/
theorem tapePartitionLocate_file_second :
    LocatesFile sampleImage sampleTape (tapePartitionLocate (syncEnv 4) (.file 1) sampleTape) 1 :=
  (tapePartitionLocate_file_iff sampleTape_clean (syncEnv 4) (by decide +kernel) 1).2
    ⟨by decide +kernel, by decide +kernel⟩

/-- A tape with two files of one block each. -/
def filesTape : State :=
  let file (s : State) : State :=
    let written := Outcome.state (tapePartitionWrite (syncEnv 4) false [⟨512, 0, 1⟩] s) s
    Outcome.state (tapePartitionWriteFilemarks (syncEnv 4) false 1 written) written
  file (file smallTape)

/-- The second file starts behind two objects, but LOCATE to it ends behind three: in front of the
second filemark. -/
theorem tapePartitionLocate_file_ends_behind :
    (recorded 4 filesTape).map (List.map BlkEntry.isFilemark) = some [false, true, false, true] ∧
      (recorded 4 filesTape).map (fileStart 1) = some 2 ∧
      ∃ s, tapePartitionLocate (syncEnv 4) (.file 1) filesTape = some (.ok, s) ∧
        s.part.cursor.cur?.map blkMapCurrentLid = some 3 :=
  ⟨by decide +kernel, by decide +kernel, _, Outcome.eq_some (by decide +kernel) filesTape,
    by decide +kernel⟩

end VirtualTape
