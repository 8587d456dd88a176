import VirtualTape.Core.Read
import VirtualTape.Verif.Reading
import VirtualTape.Verif.Spacing

/-!
# The walk of a read

A read steps over the objects of the tape one by one, from map to map, and loads the maps it comes to.
It ends where a walk along the flat list of objects ends that counts blocks of the size asked for and is
stopped by marks and by blocks of another size.
-/

namespace VirtualTape

variable {tally : Prop} {origin s s' : State} {image : Image} {map cur : BlkMap} {index number : Nat}
  {env : Env} {before after : List BlkMap} {blockSize : Nat}

/-! ## Reading a flat tape -/

/-- A data block of a size. -/
def BlkEntry.isBlockOf (blockSize : Nat) (entry : BlkEntry) : Bool :=
  entry.isDataBlock && entry.blockSize == blockSize

/-- The longest run of at most so many data blocks of a size at the front. -/
def readRun (blockSize count : Nat) (objects : List BlkEntry) : List BlkEntry :=
  (objects.take count).takeWhile (BlkEntry.isBlockOf blockSize)

/-- What a read that found a shorter run reports, according to the object behind the run. -/
def readEnd (blockSize : Nat) : Option BlkEntry → Status
  | none => .eodReached
  | some entry =>
    if entry.isFilemark then .filemarkEncountered
    else if entry.isSetmark then .setmarkEncountered
    else if entry.blockSize < blockSize then .underLength
    else .overLength

/-- The object that cuts a run short. -/
def readCut (blockSize count : Nat) (objects : List BlkEntry) : Option BlkEntry :=
  if (readRun blockSize count objects).length = count then none
  else objects[(readRun blockSize count objects).length]?

/-- How a read of a flat tape ends. -/
structure FlatRead where
  /-- Status. -/
  status : Status
  /-- Objects passed. -/
  passed : Nat
  /-- Number of blocks in the run. -/
  blocks : Nat
  /-- Size of a block of another size behind the run, zero if there is none. -/
  odd : Nat
  deriving DecidableEq, Repr

/-- Read blocks at the front of a list of objects: a run that is cut short ends behind the object that
cuts it. -/
def flatRead (blockSize count : Nat) (objects : List BlkEntry) : FlatRead where
  status :=
    if (readRun blockSize count objects).length = count then .ok
    else readEnd blockSize (readCut blockSize count objects)
  passed :=
    (readRun blockSize count objects).length +
      if (readCut blockSize count objects).isSome then 1 else 0
  blocks := (readRun blockSize count objects).length
  odd :=
    match readCut blockSize count objects with
    | some entry => if entry.isDataBlock then entry.blockSize else 0
    | none => 0

section FlatRead

variable {entry : BlkEntry} {count : Nat} {objects : List BlkEntry}

/-- A block of the size asked for is passed. -/
theorem flatRead_block (isBlock : entry.isBlockOf blockSize = true) :
    flatRead blockSize (count + 1) (entry :: objects) =
      { flatRead blockSize count objects with
        passed := 1 + (flatRead blockSize count objects).passed
        blocks := 1 + (flatRead blockSize count objects).blocks } := by
  have run : readRun blockSize (count + 1) (entry :: objects) =
      entry :: readRun blockSize count objects := by
    rw [readRun, List.take_succ_cons, List.takeWhile_cons_of_pos isBlock]
    rfl
  have cut : readCut blockSize (count + 1) (entry :: objects) = readCut blockSize count objects := by
    simp only [readCut, run, List.length_cons, Nat.add_right_cancel_iff, List.getElem?_cons_succ]
  simp only [flatRead, run, cut, List.length_cons, Nat.add_right_cancel_iff]
  rw [Nat.add_comm _ 1, Nat.add_assoc]

/-- Anything else cuts the run. -/
theorem flatRead_other (other : entry.isBlockOf blockSize = false) :
    flatRead blockSize (count + 1) (entry :: objects) =
      ⟨readEnd blockSize (some entry), 1, 0, if entry.isDataBlock then entry.blockSize else 0⟩ := by
  have run : readRun blockSize (count + 1) (entry :: objects) = [] := by
    rw [readRun, List.take_succ_cons, List.takeWhile_cons_of_neg (by simp [other])]
  have cut : readCut blockSize (count + 1) (entry :: objects) = some entry := by
    simp [readCut, run]
  simp [flatRead, run, cut]

/-- What stops a read is what cuts the run. -/
theorem readStop_eq (blockSize : Nat) (entry : BlkEntry) :
    readStop blockSize entry =
      if entry.isBlockOf blockSize then none else some (readEnd blockSize (some entry)) := by
  rw [readStop, readEnd, BlkEntry.isBlockOf, BlkEntry.isFilemark, BlkEntry.isSetmark]
  cases entry.isDataBlock with
  | false => cases h : entryCsize entry.bits == 0 <;> simp_all
  | true =>
    rcases Nat.lt_trichotomy entry.blockSize blockSize with less | same | more
    · simp [less, Nat.ne_of_lt less]
    · simp [same]
    · simp [more, Nat.not_lt_of_gt more, Nat.ne_of_gt more]

end FlatRead

/-! ## Entries as they are read back -/

/-- The sizes of an entry are those that are read back. -/
structure BlkEntry.Exact (group : Bdevgroup) (entry : BlkEntry) : Prop where
  /-- The block size. -/
  blockSize : entry.loaded.blockSize = entry.blockSize
  /-- Whether the block is compressed. -/
  compSize : entry.loaded.compSize = 0 ↔ entry.compSize = 0
  /-- The sectors of the block. -/
  sectors : ∀ bint, bdevFind group entry.bid = some bint →
    bint.blocks entry.loaded.writeSize = bint.blocks entry.writeSize

/-- The sizes of all entries of a map are those that are read back. -/
def BlkMap.Exact (group : Bdevgroup) (map : BlkMap) : Prop := ∀ entry ∈ map.entries, entry.Exact group

/-- The sizes of all entries of the current map and the maps cached behind it are those that are read
back. -/
def State.Exact (s : State) : Prop := ∀ map ∈ s.part.cursor.ahead, map.Exact s.group

/-- What was read back is exact. -/
theorem BlkEntry.exact_of_loaded {group : Bdevgroup} {entry : BlkEntry} (same : entry.loaded = entry) :
    entry.Exact group :=
  ⟨by rw [same], by rw [same], fun _ _ => by rw [same]⟩

/-- A partition is exact if all that is cached was read back. -/
theorem State.exact_of_loaded
    (same : ∀ map ∈ s.part.cursor.ahead, ∀ entry ∈ map.entries, entry.loaded = entry) : s.Exact :=
  fun map mem entry inside => BlkEntry.exact_of_loaded (same map mem entry inside)

/-- A map that was loaded is exact. -/
theorem Place.load_exact {place : Place} {position : Option Nat}
    (copied : MapCopy (place.load position) place) (group : Bdevgroup) :
    (place.load position).Exact group := by
  intro entry mem
  have same : place.img.entries.map BlkEntry.loaded = place.img.entries :=
    congrArg MapImage.entries copied.image
  obtain ⟨at_, inside, rfl⟩ := List.getElem_of_mem mem
  apply BlkEntry.exact_of_loaded
  have each := congrArg (fun entries => entries[at_]?) same
  simp only [List.getElem?_map] at each
  have found : place.img.entries[at_]? = some (place.load position).entries[at_] :=
    List.getElem?_eq_getElem inside
  rw [found] at each
  exact Option.some.inj each

/-! ## Entries as they are written -/

/-- A quotient that is rounded up is bounded by what its divisor makes up. -/
theorem roundUp_le_iff {unit : Nat} (positive : 0 < unit) (size count : Nat) :
    size / unit + (if size % unit = 0 then 0 else 1) ≤ count ↔ size ≤ count * unit := by
  split
  · rename_i whole
    rw [Nat.add_zero, Nat.div_le_iff_le_mul_add_pred positive]
    have exact := Nat.div_add_mod size unit
    rw [whole, Nat.add_zero] at exact
    rw [← exact, Nat.mul_comm count, Nat.mul_le_mul_left_iff positive]
    have less : unit * (size / unit) ≤ unit * count + (unit - 1) ↔
        unit * (size / unit) < unit * (count + 1) := by
      rw [Nat.mul_add]
      omega
    rw [less, Nat.mul_lt_mul_left positive]
    omega
  · rename_i rest
    rw [Nat.succ_le_iff, Nat.div_lt_iff_lt_mul positive]
    have differ : size ≠ count * unit := by
      rintro rfl
      exact rest (Nat.mul_mod_left _ _)
    omega

/-- Sizes that are rounded up to 512 bytes take the same number of sectors. -/
theorem Bdevint.blocks_compBlocks {bint : Bdevint} (coarse : 9 ≤ bint.sectorShift) (size : Nat) :
    bint.blocks (compBlocks size <<< 9) = bint.blocks size := by
  obtain ⟨more, isShift⟩ := Nat.exists_eq_add_of_le coarse
  refine eq_of_forall_ge_iff fun count => ?_
  have units : count * 2 ^ bint.sectorShift = count * 2 ^ more * 512 := by
    rw [isShift, Nat.pow_add, Nat.mul_comm (2 ^ 9), Nat.mul_assoc]
  simp only [Bdevint.blocks, Nat.shiftRight_eq_div_pow]
  rw [roundUp_le_iff (Nat.two_pow_pos _), roundUp_le_iff (Nat.two_pow_pos _), units,
    Nat.shiftLeft_eq, Nat.mul_le_mul_right_iff (by decide)]
  simp only [compBlocks, Nat.shiftRight_eq_div_pow]
  exact roundUp_le_iff (by decide) _ _

/-- The sizes of an entry fit into its word. -/
structure BlkEntry.Fits (entry : BlkEntry) : Prop where
  /-- The block size. -/
  blockSize : entry.blockSize < 2 ^ 24
  /-- The compressed size, in units of 512 bytes. -/
  compSize : compBlocks entry.compSize < 2 ^ 15

/-- The sizes that are put into the word of a new entry are read back from it. -/
theorem BlkEntry.Fits.sized {entry : BlkEntry} (fits : entry.Fits)
    (noEsize : entryEsize entry.bits = 0) (noCsize : entryCsize entry.bits = 0) :
    entry.sized.loaded.blockSize = entry.blockSize ∧
      entry.sized.loaded.compSize = compBlocks entry.compSize <<< 9 := by
  have esize : entryEsize entry.sized.bits = entry.blockSize := by
    refine BitField.extract_insert fits.blockSize ?_
    rw [setEntryCsize, BitField.extract_insert_above (by decide)]
    exact noEsize
  have csize : entryCsize entry.sized.bits = compBlocks entry.compSize := by
    refine (BitField.extract_insert_below fits.blockSize (by decide)).trans ?_
    exact BitField.extract_insert fits.compSize noCsize
  have again : entry.sized.sized.bits = entry.sized.bits := by
    change setEntryEsize (setEntryCsize entry.sized.bits (compBlocks entry.compSize))
      entry.blockSize = entry.sized.bits
    rw [← csize, setEntryCsize, entryCsize, BitField.insert_extract, ← esize, setEntryEsize,
      entryEsize, BitField.insert_extract]
  refine ⟨?_, ?_⟩
  · rw [← esize, ← again]
    rfl
  · rw [← csize, ← again]
    rfl

/-- A new entry is exact once its sizes were put into its word. -/
theorem BlkEntry.Fits.exact {entry : BlkEntry} (fits : entry.Fits)
    (noEsize : entryEsize entry.bits = 0) (noCsize : entryCsize entry.bits = 0) {group : Bdevgroup}
    (coarse : ∀ bint ∈ group.bints, 9 ≤ bint.sectorShift) : entry.sized.Exact group := by
  obtain ⟨blockSize, compSize⟩ := fits.sized noEsize noCsize
  have none : compBlocks entry.compSize <<< 9 = 0 ↔ entry.compSize = 0 := by
    simp only [compBlocks, Nat.shiftLeft_eq, Nat.shiftRight_eq_div_pow]
    split <;> omega
  refine ⟨blockSize, by rw [compSize]; exact none, fun bint found => ?_⟩
  have mem : bint ∈ group.bints := by
    unfold bdevFind at found
    split at found
    · exact List.mem_of_find?_eq_some found
    · exact absurd found (by simp)
  have isSize : entry.sized.writeSize =
      if entry.compSize ≠ 0 then entry.compSize else entry.blockSize := rfl
  rw [BlkEntry.writeSize, compSize, blockSize, isSize]
  by_cases stored : entry.compSize = 0
  · rw [if_neg (not_not_intro (none.2 stored)), if_neg (not_not_intro stored)]
  · rw [if_pos (mt none.1 stored), if_pos stored]
    exact Bdevint.blocks_compBlocks (coarse bint mem) _

/-- A block that was written is exact. -/
theorem placeEntry_exact {s : State} {block : WriteBlock} {lidStart : Nat}
    (fits : (newWriteEntry block lidStart).Fits) (small : s.part.dsegment.segmentId < 2 ^ 22)
    (bint : Bdevint) (blocks : Nat) {group : Bdevgroup}
    (coarse : ∀ bint ∈ group.bints, 9 ≤ bint.sectorShift) :
    (placeEntry s (newWriteEntry block lidStart) bint blocks).2.sized.Exact group := by
  generalize isEntry : newWriteEntry block lidStart = entry at fits
  have isBits : entry.bits = setEntryBtype 0 1 := by rw [← isEntry, newWriteEntry]
  have empty (lo len : Nat) (above : 22 ≤ lo) :
      BitField.extract lo len (placeEntry s entry bint blocks).2.bits =
        BitField.extract lo len (BitField.clearLow 22 (setEntryBtype 0 1)) := by
    rw [placeEntry, isBits, setEntrySegmentId]
    exact BitField.extract_insert_below small (by omega)
  have placed : (placeEntry s entry bint blocks).2.Fits := ⟨fits.blockSize, fits.compSize⟩
  refine placed.exact ?_ ?_ coarse
  · rw [entryEsize, empty 23 24 (by decide)]
    decide
  · rw [entryCsize, empty 47 15 (by decide)]
    decide

/-! ## Stepping from map to map -/

/-- Fetching maps behind a map yields the next map if there is one, and exact maps only. -/
theorem Clean.readaheadFrom_some (clean : Clean origin tally s image) (count : Nat) (first : Bool)
    {prev : BlkMap} (copy : CopyAt image index prev) (anchors : s.part.Anchors prev) :
    ∃ maps s', blkMapsReadaheadFrom count first prev s = some (maps, s') ∧
      (∀ map ∈ maps, map.Exact s.group) ∧
      (first = true → 0 < count → index + 1 < image.maps.length → maps ≠ []) := by
  induction count generalizing s first prev index with
  | zero => exact ⟨[], s, rfl, by simp, by simp⟩
  | succ count ih =>
    obtain ⟨mlookup, found⟩ : ∃ mlookup, s.part.lookupOf prev = some mlookup := by
      obtain ⟨mlookup, cached, bid, bStart⟩ := anchors
      rw [← Option.isSome_iff_exists, Partition.lookupOf, findLookup, List.find?_isSome]
      exact ⟨mlookup, cached, by simp [bid, bStart]⟩
    have at_ := clean.lookupOf copy found
    rw [blkMapsReadaheadFrom, found]
    simp only
    split
    · rename_i later
      refine ⟨[], _, rfl, by simp, fun isFirst => ?_⟩
      rw [isFirst] at later
      exact absurd later (by simp)
    · split
      · rename_i last
        refine ⟨[], s, rfl, by simp, fun _ _ more => ?_⟩
        rw [clean.hasNext at_ more] at last
        exact absurd last (by simp)
      · rename_i goesOn
        rcases clean.nextEntry_cases at_ with ⟨last, -, -⟩ | ⟨next, slot, after, step, at', fetched⟩
        · rw [clean.hasNext_last at_ last] at goesOn
          exact absurd goesOn (by simp)
        · have clean' := fetched.clean clean
          obtain ⟨place, isPlace, -, loaded, copied⟩ := clean'.loadSlot at' true
          rw [if_pos rfl] at loaded copied
          have copyNext : CopyAt image (index + 1) _ := ⟨place, isPlace, copied⟩
          obtain ⟨maps, s', more, exact, -⟩ := ih clean' false copyNext (at'.anchors copyNext)
          have group : after.group = s.group := by
            obtain ⟨mlookups, rfl⟩ := fetched.state
            rfl
          rw [group] at exact
          refine ⟨place.load none :: maps, s', ?_, ?_, by simp⟩
          · rw [step]
            simp only [loaded, more, Option.map_some]
          · rw [List.forall_mem_cons]
            exact ⟨Place.load_exact copied s.group, exact⟩

/-- The current map is a copy of a map of the image, and those cached behind it are copies of the maps
that follow. -/
structure Seated (image : Image) (number : Nat) (before : List BlkMap) (cur : BlkMap)
    (after : List BlkMap) (s : State) : Prop where
  /-- The cached maps. -/
  cursor : s.part.cursor = .on before cur after
  /-- The current map. -/
  copy : CopyAt image number cur
  /-- The maps behind it. -/
  following : CopiesFrom image (number + 1) after

/-- The last map that is cached. -/
theorem Seated.last (seated : Seated image number before cur after s) :
    CopyAt image (number + after.length) (after.getLast?.getD cur) ∧
      after.getLast?.getD cur ∈ s.part.cursor.ahead := by
  rw [seated.cursor]
  rcases List.eq_nil_or_concat' after with rfl | ⟨front, other, rfl⟩
  · exact ⟨seated.copy, List.mem_cons_self⟩
  · have found : (front ++ [other])[front.length]? = some other := by simp
    have at_ := seated.following front.length other found
    rw [Nat.add_assoc, Nat.add_comm 1] at at_
    rw [List.getLast?_concat, Option.getD_some, List.length_append, List.length_singleton]
    exact ⟨at_, List.mem_cons_of_mem _ (List.mem_append_right _ (List.mem_singleton_self other))⟩

/-- Fetching maps behind the last cached one always ends; the cached maps stay exact. -/
theorem Clean.readahead_some (clean : Clean origin tally s image) (exact : s.Exact)
    (seated : Seated image number before cur after s) :
    ∃ maps s', blkMapsReadahead s = some s' ∧ Seated image number before cur (after ++ maps) s' ∧
      s'.group = s.group ∧ s'.disk = s.disk ∧ s'.Exact ∧
      (number + after.length + 1 < image.maps.length → maps ≠ []) := by
  obtain ⟨lastCopy, lastAhead⟩ := seated.last
  obtain ⟨maps, s', done, exactMaps, some⟩ :=
    clean.readaheadFrom_some minMapReadAhead true lastCopy (clean.anchored _ lastAhead)
  obtain ⟨fetched, copies, -⟩ := clean.readaheadFrom lastCopy done
  obtain ⟨mlookups, rfl⟩ := fetched.state
  refine ⟨maps, { s with part := { s.part with
    mlookups := mlookups, cursor := .on before cur (after ++ maps) } }, ?_, ⟨rfl, seated.copy, ?_⟩,
    rfl, rfl, ?_, some rfl (by decide)⟩
  · rw [blkMapsReadahead, seated.cursor]
    simp only [done, Option.map_some]
  · refine seated.following.append ?_
    rwa [Nat.add_right_comm] at copies
  · intro map mem
    rw [Cursor.ahead, ← List.cons_append, List.mem_append] at mem
    rcases mem with cached | fetchedNow
    · refine exact map ?_
      rw [seated.cursor]
      exact cached
    · exact exactMaps map fetchedNow

/-- A map is cached behind the current one if the tape has one. -/
theorem Clean.ensureNextMap_cases (clean : Clean origin tally s image) (exact : s.Exact)
    (seated : Seated image number before cur after s) :
    (number + 1 = image.maps.length ∧ after = [] ∧ VirtualTape.ensureNextMap s = some s) ∨
      ∃ next rest s', VirtualTape.ensureNextMap s = some s' ∧
        Seated image number before cur (next :: rest) s' ∧ s'.group = s.group ∧ s'.disk = s.disk ∧
        s'.Exact := by
  cases after with
  | cons next rest =>
    refine Or.inr ⟨next, rest, s, ?_, seated, rfl, rfl, exact⟩
    rw [VirtualTape.ensureNextMap, seated.cursor]
  | nil =>
    have isCur : s.part.cursor.cur? = some cur := by
      rw [seated.cursor]
      rfl
    obtain ⟨mlookup, found⟩ := clean.lookupOf_cur isCur
    have at_ := clean.lookupOf seated.copy found
    have inside := (List.getElem?_eq_some_iff.1 seated.copy.maps_getElem?).1
    by_cases last : number + 1 = image.maps.length
    · refine Or.inl ⟨last, rfl, ?_⟩
      rw [VirtualTape.ensureNextMap, seated.cursor]
      simp only [found, clean.hasNext_last at_ last, Bool.false_eq_true, if_false]
    · have more : number + 1 < image.maps.length := by omega
      obtain ⟨maps, s', done, seated', group, disk, exact', some⟩ := clean.readahead_some exact seated
      obtain ⟨next, rest, rfl⟩ := List.exists_cons_of_ne_nil (some more)
      refine Or.inr ⟨next, rest, s', ?_, seated', group, disk, exact'⟩
      rw [VirtualTape.ensureNextMap, seated.cursor]
      simp only [found, clean.hasNext at_ more, if_true, done]

/-- The next map of the tape is stepped to if there is one. -/
theorem Clean.stepToNextMap_cases (clean : Clean origin tally s image) (exact : s.Exact)
    (seated : Seated image number before cur after s) :
    (number + 1 = image.maps.length ∧ after = [] ∧ VirtualTape.stepToNextMap s = some (false, s)) ∨
      ∃ next rest s', VirtualTape.stepToNextMap s = some (true, s') ∧
        Seated image (number + 1) (before ++ [cur]) next rest s' ∧ next.cEntry = some 0 ∧
        Clean origin tally s' image ∧ s'.group = s.group ∧ s'.disk = s.disk ∧ s'.Exact := by
  rcases clean.ensureNextMap_cases exact seated with
    ⟨last, rfl, ensured⟩ | ⟨next, rest, ready, ensured, seated', group, disk, exact'⟩
  · refine Or.inl ⟨last, rfl, ?_⟩
    rw [VirtualTape.stepToNextMap, ensured]
    simp only [seated.cursor]
  · have stepped : VirtualTape.stepToNextMap s = some (true, { ready with part := { ready.part with
        cursor := .on (before ++ [cur]) next.positionBop rest } }) := by
      rw [VirtualTape.stepToNextMap, ensured]
      simp only [seated'.cursor]
    have copy := seated'.following 0 next rfl
    refine Or.inr ⟨next.positionBop, rest, _, stepped, ⟨rfl, ?_, ?_⟩, ?_,
      clean.stepToNextMap stepped, group, disk, ?_⟩
    · exact copy.reposition (positionBop_repositioned _)
    · intro offset map found
      have at_ := seated'.following (offset + 1) map found
      rwa [← Nat.add_assoc, Nat.add_right_comm] at at_
    · have filled := clean.filled _ (List.mem_of_getElem? copy.maps_getElem?)
      have nonempty : next.entries ≠ [] := fun none => filled (by simp [BlkMap.image, none])
      simp [BlkMap.positionBop, firstEntry, nonempty]
    · intro map mem
      rw [Cursor.ahead, List.mem_cons] at mem
      have cached := exact'
      simp only [State.Exact, seated'.cursor, Cursor.ahead, List.forall_mem_cons] at cached
      rcases mem with rfl | later
      · exact cached.2.1
      · exact cached.2.2 map later

/-! ## Stepping from entry to entry -/

/-- All maps but the first. -/
theorem CopiesFrom.tail {maps : List BlkMap} (copies : CopiesFrom image index (map :: maps)) :
    CopiesFrom image (index + 1) maps := by
  intro offset other found
  have at_ := copies (offset + 1) other found
  rwa [← Nat.add_assoc, Nat.add_right_comm] at at_

/-- Maps that are copies hold the objects from the first of them on. -/
theorem CopiesFrom.ahead {maps : List BlkMap} (copies : CopiesFrom image index maps) :
    image.ahead index =
      (maps.flatMap BlkMap.entries).map BlkEntry.loaded ++ image.ahead (index + maps.length) := by
  induction maps generalizing index with
  | nil => rfl
  | cons map rest ih =>
    have copy : CopyAt image index map := copies 0 map rfl
    rw [Image.ahead_eq copy.maps_getElem?, ih copies.tail, List.flatMap_cons, List.map_append,
      List.append_assoc, List.length_cons, Nat.add_assoc, Nat.add_comm 1]
    rfl

/-- The objects in front of a map that follows some maps. -/
theorem CopiesFrom.objectsBefore {maps : List BlkMap} (copies : CopiesFrom image index maps) :
    image.objectsBefore (index + maps.length) =
      image.objectsBefore index + (maps.flatMap BlkMap.entries).length := by
  induction maps generalizing index with
  | nil => rfl
  | cons map rest ih =>
    have copy : CopyAt image index map := copies 0 map rfl
    have entries : map.image.entries.length = map.entries.length := List.length_map _
    rw [List.length_cons, Nat.add_comm rest.length, ← Nat.add_assoc, ih copies.tail,
      Image.objectsBefore_succ copy.maps_getElem?, entries, List.flatMap_cons, List.length_append,
      Nat.add_assoc]

/-- The entries passed by a read that went over some maps as a whole. -/
def trailed (path : List BlkMap) (cur : BlkMap) (position : Option Nat) : List BlkEntry :=
  path.flatMap BlkMap.entries ++ cur.entries.take (position.getD cur.entries.length)

/-- Where a read is that started in map `first` and went over the maps of a path as a whole. -/
structure Trail (origin : State) (tally : Prop) (image : Image) (first : Nat)
    (before path : List BlkMap) (cur : BlkMap) (after : List BlkMap) (position : Option Nat)
    (s : State) : Prop where
  /-- The partition is clean. -/
  clean : Clean origin tally s image
  /-- What is cached is exact. -/
  exact : s.Exact
  /-- The current map. -/
  seated : Seated image (first + path.length) (before ++ path) cur after s
  /-- The maps passed. -/
  copies : CopiesFrom image first path
  /-- Their entries are exact. -/
  exactPath : ∀ map ∈ path, map.Exact s.group
  /-- The position is in the current map. -/
  valid : ∀ index, position = some index → index < cur.entries.length
  /-- Only the last map is left for good. -/
  last : position = none → after = [] ∧ first + path.length + 1 = image.maps.length

namespace Trail

variable {first count : Nat} {path : List BlkMap} {position : Option Nat}

/-- The objects passed, and those that follow. -/
theorem ahead (trail : Trail origin tally image first before path cur after position s) :
    image.ahead first = (trailed path cur position).map BlkEntry.loaded ++
      ((cur.entries.drop (position.getD cur.entries.length)).map BlkEntry.loaded ++
        image.ahead (first + path.length + 1)) := by
  have entries : cur.image.entries = cur.entries.map BlkEntry.loaded := rfl
  rw [trail.copies.ahead, Image.ahead_eq trail.seated.copy.maps_getElem?, trailed, List.map_append,
    List.append_assoc, entries]
  congr 1
  rw [← List.append_assoc, ← List.map_append, List.take_append_drop]

/-- The objects that follow. -/
theorem drop (trail : Trail origin tally image first before path cur after position s) :
    (image.ahead first).drop (trailed path cur position).length =
      (cur.entries.drop (position.getD cur.entries.length)).map BlkEntry.loaded ++
        image.ahead (first + path.length + 1) := by
  rw [trail.ahead, ← List.length_map BlkEntry.loaded, List.drop_left]

/-- The objects passed. -/
theorem take (trail : Trail origin tally image first before path cur after position s) :
    (image.ahead first).take (trailed path cur position).length =
      (trailed path cur position).map BlkEntry.loaded := by
  rw [trail.ahead, ← List.length_map BlkEntry.loaded, List.take_left]

/-- The number of objects in front of the position. -/
theorem objectsBefore (trail : Trail origin tally image first before path cur after position s) :
    image.objectsBefore (first + path.length) + position.getD cur.entries.length =
      image.objectsBefore first + (trailed path cur position).length := by
  have inside : position.getD cur.entries.length ≤ cur.entries.length := by
    cases position with
    | none => exact Nat.le_refl _
    | some index => exact Nat.le_of_lt (trail.valid index rfl)
  rw [trail.copies.objectsBefore, trailed, List.length_append, List.length_take_of_le inside,
    Nat.add_assoc]

/-- At the end nothing follows. -/
theorem drop_none (trail : Trail origin tally image first before path cur after none s) :
    (image.ahead first).drop (trailed path cur none).length = [] := by
  rw [trail.drop, Option.getD_none, List.drop_length, Image.ahead_eq_nil (trail.last rfl).2.ge]
  rfl

/-- The entry at the position is the next object. -/
theorem drop_some (trail : Trail origin tally image first before path cur after (some index) s)
    {entry : BlkEntry} (found : cur.entries[index]? = some entry) :
    (image.ahead first).drop (trailed path cur (some index)).length =
      entry.loaded :: (image.ahead first).drop ((trailed path cur (some index)).length + 1) := by
  obtain ⟨inside, isEntry⟩ := List.getElem?_eq_some_iff.1 found
  rw [← List.drop_drop, trail.drop, Option.getD_some, List.drop_eq_getElem_cons inside, isEntry]
  rfl

/-- A read that passes an entry inside a map, or the last entry of one. -/
theorem next (trail : Trail origin tally image first before path cur after (some index) s) :
    ∃ path' cur' after' position s', blkEntryReadNext index s = some (position, s') ∧
      Trail origin tally image first before path' cur' after' position s' ∧
      s'.group = s.group ∧ s'.disk = s.disk ∧
      (trailed path' cur' position).length = (trailed path cur (some index)).length + 1 := by
  have inside := trail.valid index rfl
  by_cases more : index + 1 < cur.entries.length
  · refine ⟨path, cur, after, some (index + 1), s, ?_, ⟨trail.clean, trail.exact, trail.seated,
      trail.copies, trail.exactPath, ?_, by simp⟩, rfl, rfl, ?_⟩
    · rw [blkEntryReadNext, trail.seated.cursor]
      simp only [more, if_true]
    · rintro _ ⟨⟩
      exact more
    · simp only [trailed, Option.getD_some, List.length_append, List.length_take]
      omega
  · have read := blkEntryReadNext.eq_1 index s
    rw [trail.seated.cursor] at read
    simp only [if_neg more] at read
    rcases trail.clean.stepToNextMap_cases trail.exact trail.seated with
      ⟨last, rfl, stays⟩ | ⟨next, rest, s', stepped, seated, start, clean', group, disk, exact⟩
    · refine ⟨path, cur, [], none, s, ?_, ⟨trail.clean, trail.exact, trail.seated, trail.copies,
        trail.exactPath, by simp, fun _ => ⟨rfl, last⟩⟩, rfl, rfl, ?_⟩
      · rw [read, stays]
      · simp only [trailed, Option.getD_some, Option.getD_none, List.length_append,
          List.length_take]
        omega
    · refine ⟨path ++ [cur], next, rest, some 0, s', ?_, ⟨clean', exact, ?_, ?_, ?_, ?_, by simp⟩,
        group, disk, ?_⟩
      · rw [read, stepped]
        simp only [seated.cursor, start]
      · rw [List.length_append, List.length_singleton, ← Nat.add_assoc, ← List.append_assoc]
        exact seated
      · refine trail.copies.append (CopiesFrom.cons trail.seated.copy CopiesFrom.nil)
      · intro map mem
        rw [group]
        rcases List.mem_append.1 mem with passed | last
        · exact trail.exactPath map passed
        · obtain rfl := List.mem_singleton.1 last
          refine trail.exact map ?_
          rw [trail.seated.cursor]
          exact List.mem_cons_self
      · rintro _ ⟨⟩
        exact seated.copy.cEntry 0 start
      · simp only [trailed, Option.getD_some, List.take_zero, List.append_nil, List.flatMap_append,
          List.flatMap_cons, List.flatMap_nil, List.length_append, List.length_take]
        omega

/-- An entry of the current map is exact. -/
theorem entry_exact (trail : Trail origin tally image first before path cur after position s)
    {entry : BlkEntry} (mem : entry ∈ cur.entries) : entry.Exact s.group := by
  refine trail.exact cur ?_ entry mem
  rw [trail.seated.cursor]
  exact List.mem_cons_self

/-- What is read back of an entry stops a read like the entry itself. -/
theorem entry_loaded (trail : Trail origin tally image first before path cur after position s)
    {entry : BlkEntry} (mem : entry ∈ cur.entries) :
    readStop blockSize entry.loaded = readStop blockSize entry := by
  obtain ⟨place, -, copied⟩ := trail.seated.copy
  have settled := copied.entries entry mem
  rw [readStop, readStop, BlkEntry.loaded_isDataBlock, settled.isFilemark,
    (trail.entry_exact mem).blockSize]

/-- A read ends as the read of a flat tape does, from wherever it has come to. -/
theorem run (trail : Trail origin tally image first before path cur after (some index) s)
    (count done : Nat) :
    ∃ run path' cur' after' s', blkMapReadRun blockSize count done index s = some (run, s') ∧
      Trail origin tally image first before path' cur' after' run.position s' ∧
      s'.group = s.group ∧ s'.disk = s.disk ∧
      ∀ result, result = flatRead blockSize count
          ((image.ahead first).drop (trailed path cur (some index)).length) →
        (trailed path' cur' run.position).length =
          (trailed path cur (some index)).length + result.passed ∧
        run.status = result.status ∧ run.dataBlocks = done + result.blocks ∧
        run.iliBlockSize = result.odd := by
  induction count generalizing path cur after index s done with
  | zero =>
    refine ⟨⟨.ok, done, 0, some index⟩, path, cur, after, s, rfl, trail, rfl, rfl, ?_⟩
    rintro _ rfl
    exact ⟨rfl, rfl, rfl, rfl⟩
  | succ count ih =>
    have inside := trail.valid index rfl
    have found : cur.entries[index]? = some cur.entries[index] := List.getElem?_eq_getElem inside
    generalize isEntry : cur.entries[index] = entry at found
    have mem : entry ∈ cur.entries := List.mem_of_getElem? found
    obtain ⟨path', cur', after', position, s', read, trail', group, disk, length⟩ := trail.next
    have step : blkMapReadRun blockSize (count + 1) done index s =
        match readStop blockSize entry, position with
        | some status, _ =>
          some (⟨status, done, if entry.isDataBlock then entry.blockSize else 0, position⟩, s')
        | none, none => some (⟨if count = 0 then .ok else .eodReached, done + 1, 0, none⟩, s')
        | none, some index => blkMapReadRun blockSize count (done + 1) index s' := by
      rw [blkMapReadRun, trail.seated.cursor]
      simp only [found, read]
      cases readStop blockSize entry <;> cases position <;> rfl
    have stop := readStop_eq blockSize entry.loaded
    rw [trail.entry_loaded mem] at stop
    rw [trail.drop_some found, ← length, step, stop]
    cases isBlock : entry.loaded.isBlockOf blockSize with
    | false =>
      refine ⟨_, path', cur', after', s', rfl, trail', group, disk, ?_⟩
      rintro _ rfl
      rw [flatRead_other isBlock]
      refine ⟨length, rfl, rfl, ?_⟩
      rw [BlkEntry.loaded_isDataBlock, (trail.entry_exact mem).blockSize]
    | true =>
      rw [flatRead_block isBlock]
      cases position with
      | none =>
        refine ⟨_, path', cur', after', s', rfl, trail', group, disk, ?_⟩
        rintro _ rfl
        rw [trail'.drop_none]
        cases count with
        | zero => exact ⟨length, rfl, rfl, rfl⟩
        | succ count => exact ⟨length, rfl, rfl, rfl⟩
      | some next =>
        obtain ⟨run, path'', cur'', after'', s'', runs, trail'', group', disk', ends⟩ :=
          ih trail' (done + 1)
        refine ⟨run, path'', cur'', after'', s'', runs, trail'', group'.trans group,
          disk'.trans disk, ?_⟩
        rintro _ rfl
        obtain ⟨steps, status, blocks, odd⟩ := ends _ rfl
        refine ⟨?_, status, ?_, odd⟩
        · simp only [steps, length, Nat.add_assoc]
        · simp only [blocks, Nat.add_assoc]

end Trail

/-! ## The beginning of a read -/

/-- The current map of a clean partition, with what is cached behind it. -/
theorem Clean.seated (clean : Clean origin tally s image) (isCursor : s.part.cursor = .on before cur after)
    {position : Nat} (at_ : PositionAt image position s.part.cursor) :
    ∃ number, Seated image number before cur after s ∧
      position = image.objectsBefore number + cur.cEntry.getD cur.entries.length := by
  have cursor := clean.cursor
  rw [isCursor] at cursor at_
  obtain ⟨number, copy, following⟩ := cursor
  have here : PositionAt image
      (image.objectsBefore number + cur.cEntry.getD cur.entries.length) (.on before cur after) :=
    ⟨number, copy, rfl⟩
  exact ⟨number, ⟨isCursor, copy, following⟩, at_.eq here clean.formed⟩

end VirtualTape
