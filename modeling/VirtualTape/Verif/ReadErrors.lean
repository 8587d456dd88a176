import VirtualTape.Verif.ReadData

/-!
# Reads that fail

The page of a map that cannot be read is told apart from the end of the tape at one place only: in
front of the first object of a read. Everywhere else it looks like the end of the tape, and neither a
failed read of data nor a failed inflation is noticed at all.
-/

namespace VirtualTape

variable {tally : Prop} {origin s s' : State} {image : Image} {cur : BlkMap} {number position : Nat}
  {mlookup : MapLookup} {slot : Nat} {env : Env} {before after : List BlkMap} {fixed : Bool}
  {blockSize numBlocks : Nat} {group : Bdevgroup} {disk : Disk} {faults : ReadFaults} {link : Link}

/-! ## Pages that cannot be read -/

/-- Is a sector of a page among those that cannot be read? -/
def ReadFaults.hitsPage (faults : ReadFaults) (group : Bdevgroup) (bid start : Nat) : Bool :=
  (bdevFind group bid).any fun bint =>
    faults.sector bid start ||
      (List.range' 1 (bint.metaBlocks - 1)).any fun index => faults.sector bid (start + index)

/-- The partition on a disk with failing sectors. -/
def State.failing (s : State) (faults : ReadFaults) : State :=
  { s with disk := s.disk.failing faults.sector }

/-- A page with a failing sector is not read. -/
theorem Disk.readPage_failing (disk : Disk) (fails : Nat → Nat → Bool) (bid start blocks : Nat) :
    (disk.failing fails).readPage bid start blocks =
      if (fails bid start || (List.range' 1 (blocks - 1)).any fun index => fails bid (start + index))
      then .junk else disk.readPage bid start blocks := by
  cases first : fails bid start with
  | true => simp [Disk.readPage, Disk.failing, first]
  | false =>
    rw [Bool.false_or]
    split
    · rename_i later
      rw [List.any_eq_true] at later
      obtain ⟨index, inside, hit⟩ := later
      have broken (test : Sector → Nat → Bool) (no : test (.junk 0) index = false) :
          ((List.range' 1 (blocks - 1)).all fun index =>
            test ((disk.failing fails).sector bid (start + index)) index) = false := by
        rw [List.all_eq_false]
        refine ⟨index, inside, ?_⟩
        simp [Disk.failing, hit, no]
      have tails := broken (fun sector index => sector.isTail start index) rfl
      have zeros := broken (fun sector _ => sector.isZero) rfl
      rw [Disk.readPage]
      simp only [tails, zeros]
      split <;> rfl
    · rename_i fine
      rw [Bool.not_eq_true, List.any_eq_false] at fine
      have same (test : Sector → Nat → Bool) :
          ((List.range' 1 (blocks - 1)).all fun index =>
            test ((disk.failing fails).sector bid (start + index)) index) =
          (List.range' 1 (blocks - 1)).all fun index =>
            test (disk.sector bid (start + index)) index := by
        rw [Bool.eq_iff_iff, List.all_eq_true, List.all_eq_true]
        refine forall₂_congr fun index inside => ?_
        simp [Disk.failing, fine index inside]
      have here : (disk.failing fails).sector bid start = disk.sector bid start := by
        simp [Disk.failing, first]
      have tails := same fun sector index => sector.isTail start index
      have zeros := same fun sector _ => sector.isZero
      simp only [Disk.readPage, here, tails, zeros]

/-- A lookup whose page cannot be read is not loaded. -/
theorem mapLookupLoad_failing (group : Bdevgroup) (disk : Disk) (faults : ReadFaults)
    (bStart bid : Nat) :
    mapLookupLoad group (disk.failing faults.sector) bStart bid =
      if faults.hitsPage group bid bStart then none else mapLookupLoad group disk bStart bid := by
  rw [mapLookupLoad, mapLookupLoad, ReadFaults.hitsPage]
  cases bdevFind group bid with
  | none => rfl
  | some bint =>
    simp only [Option.any_some, Disk.readPage_failing]
    generalize (faults.sector _ _ || _) = hit
    cases hit <;> rfl

/-- A map whose page cannot be read is not loaded. -/
theorem blkMapLoad_failing (group : Bdevgroup) (disk : Disk) (faults : ReadFaults)
    (mlookup : MapLookup) (slot : Nat) (poslast : Bool) :
    blkMapLoad group (disk.failing faults.sector) mlookup slot poslast =
      if faults.hitsPage group (blockBid (mlookup.entries slot).block)
          (blockBlocknr (mlookup.entries slot).block) then none
      else blkMapLoad group disk mlookup slot poslast := by
  rw [blkMapLoad, blkMapLoad, ReadFaults.hitsPage]
  cases bdevFind group (blockBid (mlookup.entries slot).block) with
  | none => rfl
  | some bint =>
    simp only [Option.any_some, Disk.readPage_failing]
    generalize (faults.sector _ _ || _) = hit
    cases hit <;> rfl

/-! ## Fetching the next map -/

/-- The next lookup is found unless it has to be loaded and cannot be read. -/
theorem mapLookupLoadNext_failing (s : State) (faults : ReadFaults) (mlookup : MapLookup) :
    mapLookupLoadNext (s.failing faults) mlookup =
      if mapLookupNextAvail s mlookup = false ∧ faults.hitsPage s.group
          (blockBid mlookup.nextBlock) (blockBlocknr mlookup.nextBlock) = true then none
      else (mapLookupLoadNext s mlookup).map fun (next, s') => (next, s'.failing faults) := by
  rw [mapLookupLoadNext, mapLookupLoadNext, mapLookupNextAvail]
  by_cases ends : mlookup.nextBlock = 0
  · simp [ends]
  · have goesOn : (mlookup.nextBlock != 0) = true := by simpa using ends
    rw [if_neg ends, if_neg ends, goesOn, Bool.true_and]
    simp only [State.failing, mapLookupLoad_failing]
    cases (mlookupGetNext s.part.mlookups mlookup).filter (·.isAt mlookup.nextBlock) with
    | some next => simp
    | none =>
      simp only [Option.isSome_none, true_and]
      split
      · rfl
      · rw [Option.map_map]
        rfl

/-- The map behind a slot, if it can be fetched. -/
def fetchNextMap (s : State) (mlookup : MapLookup) (slot : Nat) : Option BlkMap :=
  (mapLookupNextEntry s mlookup slot).bind fun (next, entryId, s) =>
    blkMapLoad s.group s.disk next entryId true

/-- The next lookup is cached if and only if the code says so. -/
theorem Clean.nextAvail_iff (clean : Clean origin tally s image)
    (at_ : CachedAt tally image s mlookup link) {img : LookupImage}
    (found : image[link.ordinal + 1]? = some img) :
    mapLookupNextAvail s mlookup = true ↔
      ∃ other ∈ s.part.mlookups, other.bid = img.bid ∧ other.bStart = img.bStart := by
  have readable := clean.readable
  have nextBlock : mlookup.nextBlock = image.wordAt (link.ordinal + 1) := at_.copy.page.nextBlock
  obtain ⟨front, back, before, behind, cached, links, splits, first, second, apart⟩ :=
    clean.split at_
  obtain ⟨link', rest, rfl, ordinal, rfl, mem⟩ := splits.behind_eq links found
  have nonzero := (readable.word_eq found).2.2.2
  have getNext : mlookupGetNext s.part.mlookups mlookup = back.head? := by
    rw [cached, mlookupGetNext_append apart]
  have avail : mapLookupNextAvail s mlookup =
      (back.head?.filter (·.isAt (image.wordAt (link.ordinal + 1)))).isSome := by
    rw [mapLookupNextAvail, nextBlock, getNext]
    simp [nonzero]
  rw [avail]
  cases second with
  | @here a _ rest' _ head tail =>
    have isAt := (readable.isAt_wordAt head mem found).2 ordinal
    refine iff_of_true (by simp [isAt]) ⟨a, ?_, head.bid, head.bStart⟩
    rw [cached]
    exact List.mem_append_right _ (List.mem_cons_of_mem _ List.mem_cons_self)
  | away head tail =>
    obtain ⟨inside, later⟩ := Image.links_behind_next links ordinal
    rw [Cached.filter_head? clean tail inside later found back.head?
      fun other => List.mem_of_head?]
    refine iff_of_false (by simp) ?_
    rintro ⟨other, otherMem, bid, bStart⟩
    -- whatever is cached is a copy of another lookup
    have elsewhere : ∀ link'' ∈ image.links, LinkCopy tally image other link'' →
        link''.ordinal = link.ordinal + 1 := fun link'' linkMem copy =>
      readable.distinct (Image.getElem?_of_mem_links linkMem).1 found (copy.bid.symm.trans bid)
        (copy.bStart.symm.trans bStart)
    rw [cached] at otherMem
    rcases List.mem_append.1 otherMem with inFront | inBack
    · obtain ⟨link'', linkMem, copy⟩ := first.exists_of_mem inFront
      have same := elsewhere link'' (links ▸ List.mem_append_left _ linkMem) copy
      have less := splits.before link'' linkMem
      omega
    · rcases List.mem_cons.1 inBack with rfl | inBack
      · have same := elsewhere link at_.mem at_.copy
        omega
      · obtain ⟨link'', linkMem, copy⟩ := tail.exists_of_mem inBack
        exact later link'' linkMem (elsewhere link'' (inside link'' linkMem) copy)

/-- The slot behind a slot is found unless its lookup has to be loaded and cannot be read. -/
theorem mapLookupNextEntry_failing (s : State) (faults : ReadFaults) (mlookup : MapLookup)
    (slot : Nat) :
    mapLookupNextEntry (s.failing faults) mlookup slot =
      if ¬ slot + 1 < mlookup.mapNrs ∧ mapLookupNextAvail s mlookup = false ∧
          faults.hitsPage s.group (blockBid mlookup.nextBlock) (blockBlocknr mlookup.nextBlock) = true
        then none
      else (mapLookupNextEntry s mlookup slot).map
        fun (next, entryId, s') => (next, entryId, s'.failing faults) := by
  rw [mapLookupNextEntry, mapLookupNextEntry, mapLookupLoadNext_failing]
  by_cases inside : slot + 1 < mlookup.mapNrs
  · simp [inside]
  · simp only [inside, if_false, not_false_eq_true, true_and]
    by_cases hit : mapLookupNextAvail s mlookup = false ∧ faults.hitsPage s.group
        (blockBid mlookup.nextBlock) (blockBlocknr mlookup.nextBlock) = true
    · simp only [if_pos hit]
    · simp only [if_neg hit]
      cases mapLookupLoadNext s mlookup with
      | none => rfl
      | some next =>
        simp only [Option.map_some]
        split <;> rfl

/-- Does a fault keep a map from being fetched? Its lookup is read if it is not cached. -/
def ReadFaults.hitsMap (faults : ReadFaults) (group : Bdevgroup) (mlookups : List MapLookup)
    (place : Place) : Bool :=
  faults.hitsPage group place.img.bid place.img.bStart ||
    (!(mlookups.any fun mlookup =>
        mlookup.bid == place.mlookupBid && mlookup.bStart == place.mlookupBStart) &&
      faults.hitsPage group place.mlookupBid place.mlookupBStart)

/-- The map in a slot lies where its place says. -/
theorem Clean.slot_place (clean : Clean origin tally s image)
    (at_ : SlotAt tally image s mlookup slot number) {place : Place}
    (isPlace : image.places[number]? = some place) :
    mlookup.bid = place.mlookupBid ∧ mlookup.bStart = place.mlookupBStart ∧
      blockBid (mlookup.entries slot).block = place.img.bid ∧
      blockBlocknr (mlookup.entries slot).block = place.img.bStart := by
  obtain ⟨img, isMap, isSlot, fits, -⟩ := clean.slot_at at_
  obtain ⟨link, cached, inside, rfl⟩ := at_
  have here := Image.places_of_slot cached.mem (List.getElem?_eq_getElem inside)
  obtain rfl := Option.some.inj (isPlace.symm.trans here)
  rw [Image.maps_getElem? cached.mem inside, List.getElem?_eq_getElem inside] at isMap
  obtain rfl := Option.some.inj isMap
  refine ⟨cached.copy.bid, cached.copy.bStart, ?_, ?_⟩
  · rw [isSlot]
    exact fits.slot_bid
  · rw [isSlot]
    exact fits.slot_bStart

/-- The next map is fetched unless its page, or that of its lookup if it is not cached, cannot be
read. -/
theorem Clean.fetchNextMap_failing (clean : Clean origin tally s image)
    (at_ : SlotAt tally image s mlookup slot number) {place : Place}
    (isPlace : image.places[number + 1]? = some place) (faults : ReadFaults) :
    fetchNextMap (s.failing faults) mlookup slot =
      if faults.hitsMap s.group s.part.mlookups place then none else some (place.load none) := by
  have more : number + 1 < image.maps.length := by
    rw [← Image.map_img_places, List.length_map]
    exact (List.getElem?_eq_some_iff.1 isPlace).1
  rcases clean.nextEntry_cases at_ with ⟨last, -, -⟩ | ⟨next, entryId, s', step, next_at, fetched⟩
  · omega
  · have clean' := fetched.clean clean
    obtain ⟨bid, bStart, mapBid, mapStart⟩ := clean'.slot_place next_at isPlace
    obtain ⟨place', isPlace', -, loaded, -⟩ := clean'.loadSlot next_at true
    obtain rfl := Option.some.inj (isPlace'.symm.trans isPlace)
    have group : s'.group = s.group := by
      obtain ⟨mlookups, rfl⟩ := fetched.state
      rfl
    -- reading the lookup is what can go wrong before the map is read
    have lookup : (¬ slot + 1 < mlookup.mapNrs ∧ mapLookupNextAvail s mlookup = false ∧
        faults.hitsPage s.group (blockBid mlookup.nextBlock) (blockBlocknr mlookup.nextBlock) =
          true) ↔
        (!(s.part.mlookups.any fun mlookup =>
          mlookup.bid == place'.mlookupBid && mlookup.bStart == place'.mlookupBStart) &&
            faults.hitsPage s.group place'.mlookupBid place'.mlookupBStart) = true := by
      rw [Bool.and_eq_true, Bool.not_eq_true', List.any_eq_false]
      simp only [Bool.and_eq_true, beq_iff_eq]
      rw [mapLookupNextEntry] at step
      split at step
      · rename_i inside
        simp only [Option.some.injEq, Prod.mk.injEq] at step
        obtain ⟨rfl, rfl, rfl⟩ := step
        obtain ⟨link, cached, -⟩ := at_
        exact iff_of_false (fun all => all.1 inside) fun both => both.1 _ cached.cached ⟨bid, bStart⟩
      · rename_i beyond
        obtain ⟨link, cached, -⟩ := at_
        rcases clean.loadNext cached with ⟨-, ends⟩ | ⟨next', link', s'', loads, ordinal, at', -⟩
        · rw [ends] at step
          exact absurd step (by simp)
        · have found := (Image.getElem?_of_mem_links at'.mem).1
          rw [ordinal] at found
          have nextBlock : mlookup.nextBlock = image.wordAt (link.ordinal + 1) :=
            cached.copy.page.nextBlock
          obtain ⟨-, start, disk, -⟩ := clean.readable.word_eq found
          rw [loads] at step
          simp only at step
          split at step
          · exact absurd step (by simp)
          · simp only [Option.some.injEq, Prod.mk.injEq] at step
            obtain ⟨rfl, -, -⟩ := step
            have avail := clean.nextAvail_iff cached found
            rw [← at'.copy.bid, ← at'.copy.bStart, bid, bStart] at avail
            rw [nextBlock, start, disk, ← at'.copy.bid, ← at'.copy.bStart, bid, bStart,
              ← Bool.not_eq_true, avail]
            simp [beyond]
    have reads : fetchNextMap (s.failing faults) mlookup slot =
        if (!(s.part.mlookups.any fun mlookup =>
          mlookup.bid == place'.mlookupBid && mlookup.bStart == place'.mlookupBStart) &&
            faults.hitsPage s.group place'.mlookupBid place'.mlookupBStart) = true then none
        else if faults.hitsPage s.group place'.img.bid place'.img.bStart = true then none
        else some (place'.load none) := by
      rw [fetchNextMap, mapLookupNextEntry_failing, step]
      simp only [lookup]
      split
      · rfl
      · simp only [Option.map_some, Option.bind_some, State.failing, blkMapLoad_failing, group, mapBid,
          mapStart]
        rw [← group, loaded]
        rfl
    rw [reads, ReadFaults.hitsMap]
    cases faults.hitsPage s.group place'.img.bid place'.img.bStart <;> simp

/-! ## In front of the first object -/

/-- Fetching maps behind a map starts with the next one. -/
theorem blkMapsReadaheadFrom_first (count : Nat) (found : s.part.lookupOf cur = some mlookup)
    (more : mapLookupMapHasNext mlookup cur = true) :
    (fetchNextMap s mlookup cur.mlookupEntryId = none →
      ∃ s', blkMapsReadaheadFrom (count + 1) true cur s = some ([], s')) ∧
    ∀ map, fetchNextMap s mlookup cur.mlookupEntryId = some map →
      ∀ maps s', blkMapsReadaheadFrom (count + 1) true cur s = some (maps, s') →
        ∃ rest, maps = map :: rest := by
  rw [blkMapsReadaheadFrom, found, fetchNextMap]
  simp only [Bool.not_true, Bool.false_and, Bool.false_eq_true, if_false, more]
  cases mapLookupNextEntry s mlookup cur.mlookupEntryId with
  | none => exact ⟨fun _ => ⟨s, rfl⟩, fun map fetched => absurd fetched (by simp)⟩
  | some next =>
    obtain ⟨next, entryId, ready⟩ := next
    simp only [Option.bind_some]
    cases blkMapLoad ready.group ready.disk next entryId true with
    | none => exact ⟨fun _ => ⟨ready, rfl⟩, fun map fetched => absurd fetched (by simp)⟩
    | some map =>
      refine ⟨fun none => absurd none (by simp), ?_⟩
      intro map' same maps s' done
      obtain rfl := Option.some.inj same
      simp only [Option.map_eq_some_iff, Prod.mk.injEq] at done
      obtain ⟨⟨rest, last⟩, -, rfl, -⟩ := done
      exact ⟨rest, rfl⟩

/-- At the end of the cached maps no map is stepped to if the next one cannot be fetched. -/
theorem stepToNextMap_fails (isCursor : s.part.cursor = .on before cur [])
    (found : s.part.lookupOf cur = some mlookup) (more : mapLookupMapHasNext mlookup cur = true)
    (none : fetchNextMap s mlookup cur.mlookupEntryId = none) :
    ∃ s', stepToNextMap s = some (false, s') ∧ s'.part.cursor = .on before cur [] := by
  have start : minMapReadAhead = 3 + 1 := rfl
  have ensured : ensureNextMap s = (blkMapsReadaheadFrom (3 + 1) true cur s).map
      fun read => { read.2 with part := { read.2.part with cursor := .on before cur read.1 } } := by
    rw [ensureNextMap, isCursor]
    simp only [found, more, if_true, blkMapsReadahead, isCursor, start]
    rfl
  obtain ⟨s', done⟩ := (blkMapsReadaheadFrom_first 3 found more).1 none
  rw [stepToNextMap, ensured, done]
  exact ⟨_, rfl, rfl⟩

/-- A read that steps over objects never ends with an error. -/
theorem blkMapReadRun_ne_mediaError {count done index : Nat} {run : ReadRun}
    (ends : blkMapReadRun blockSize count done index s = some (run, s')) :
    run.status ≠ .mediaError := by
  induction count generalizing s done index with
  | zero =>
    simp only [blkMapReadRun, Option.some.injEq, Prod.mk.injEq] at ends
    obtain ⟨rfl, -⟩ := ends
    exact Status.noConfusion
  | succ count ih =>
    rw [blkMapReadRun] at ends
    split at ends
    · split at ends
      · exact absurd ends (by simp)
      · rename_i entry _
        split at ends
        · exact absurd ends (by simp)
        · split at ends
          · rename_i status _ stops _
            simp only [Option.some.injEq, Prod.mk.injEq] at ends
            obtain ⟨rfl, -⟩ := ends
            rw [readStop_eq] at stops
            split at stops
            · exact absurd stops (by simp)
            · obtain rfl := Option.some.inj stops
              unfold readEnd
              repeat' split
              all_goals exact Status.noConfusion
          · simp only [Option.some.injEq, Prod.mk.injEq] at ends
            obtain ⟨rfl, -⟩ := ends
            simp only
            split <;> exact Status.noConfusion
          · exact ih ends
    · exact absurd ends (by simp)

/-- A read reports an error only in front of its first object, and then it has not moved. -/
theorem blkMapReadOn_mediaError (env : Env) (faults : ReadFaults) (fixed : Bool)
    (blockSize numBlocks : Nat) {ready : State} (isCursor : s.part.cursor = .on before cur after)
    (freed : blkMapFreeTillCur env s = some ready) (transfer : Transfer) :
    blkMapReadOn env faults fixed blockSize numBlocks s = some (.mediaError, transfer, s') ↔
      transfer = .empty ∧ readStart env.fuel ready = some (.mediaError, none, s') := by
  rw [blkMapReadOn, isCursor]
  simp only [freed]
  cases started : readStart env.fuel ready with
  | none => simp
  | some result =>
    obtain ⟨status, _ | index, start⟩ := result
    · simp only [Option.some.injEq, Prod.mk.injEq, true_and]
      constructor
      · rintro ⟨rfl, rfl, rfl⟩
        exact ⟨rfl, rfl, rfl⟩
      · rintro ⟨rfl, rfl, rfl⟩
        exact ⟨rfl, rfl, rfl⟩
    · refine iff_of_false (fun ends => ?_) fun both => absurd both.2 (by simp)
      simp only at ends
      cases runs : blkMapReadRun blockSize numBlocks 0 index start with
      | none =>
        rw [runs] at ends
        exact absurd ends (by simp)
      | some result =>
        obtain ⟨run, landed⟩ := result
        have status := blkMapReadRun_ne_mediaError runs
        rw [runs] at ends
        simp only at ends
        split at ends
        · rw [Option.map_eq_some_iff] at ends
          obtain ⟨last, -, same⟩ := ends
          simp only [Prod.mk.injEq] at same
          exact status same.1
        · simp only [Option.some.injEq, Prod.mk.injEq] at ends
          exact status ends.1

/-- The next map cannot be fetched. -/
def NextFails (faults : ReadFaults) (group : Bdevgroup) (mlookups : List MapLookup) (image : Image)
    (number : Nat) : Prop :=
  ∃ place, image.places[number + 1]? = some place ∧ faults.hitsMap group mlookups place = true

/-- A read starts with an error if it has to fetch the next map and cannot. -/
theorem Clean.readStart_fails (clean : Clean origin tally s image)
    (seated : Seated image number before cur [] s) (atEnd : cur.cEntry = none)
    (fails : NextFails faults s.group s.part.mlookups image number) (fuel : Nat) :
    ∃ s', VirtualTape.readStart (fuel + 1) (s.failing faults) = some (.mediaError, none, s') ∧
      s'.part.cursor = .on before cur [] := by
  obtain ⟨place, isPlace, hits⟩ := fails
  have isCur : s.part.cursor.cur? = some cur := by
    rw [seated.cursor]
    rfl
  obtain ⟨mlookup, found⟩ := clean.lookupOf_cur isCur
  have at_ := clean.lookupOf seated.copy found
  have more : number + 1 < image.maps.length := by
    rw [← Image.map_img_places, List.length_map]
    exact (List.getElem?_eq_some_iff.1 isPlace).1
  have hasNext := clean.hasNext at_ more
  have fetches := clean.fetchNextMap_failing at_ isPlace faults
  rw [if_pos hits] at fetches
  have same : (s.failing faults).part.cursor.cur? = some cur := isCur
  have sameLookup : (s.failing faults).part.lookupOf cur = some mlookup := found
  obtain ⟨s', step, stays⟩ := stepToNextMap_fails (show (s.failing faults).part.cursor = _ from
    seated.cursor) sameLookup hasNext fetches
  refine ⟨s', ?_, stays⟩
  rw [VirtualTape.readStart, same]
  simp only [atEnd, sameLookup, hasNext, Bool.not_true, Bool.false_eq_true, if_false, step]

/-! ## Behind the first object -/

/-- Maps that follow a map were fetched. -/
structure FetchedAhead (tally : Prop) (image : Image) (number : Nat) (s : State) (maps : List BlkMap)
    (s' : State) : Prop extends Fetched tally image s s' where
  /-- They are copies. -/
  copies : CopiesFrom image (number + 1) maps
  /-- Their lookups are cached. -/
  anchors : ∀ map ∈ maps, s'.part.Anchors map
  /-- They were read back. -/
  exact : ∀ map ∈ maps, map.Exact s.group

/-- Lookups may be fetched alone. -/
theorem Fetched.noMaps (fetched : Fetched tally image s s') : FetchedAhead tally image number s [] s' :=
  ⟨fetched, CopiesFrom.nil, by simp, by simp⟩

/-- Fetching ahead from a failing disk yields maps that follow. -/
theorem Clean.readaheadFrom_failing (clean : Clean origin tally s image) {count : Nat} {first : Bool}
    {prev : BlkMap} {maps : List BlkMap} {t : State} (copy : CopyAt image number prev)
    (done : blkMapsReadaheadFrom count first prev (s.failing faults) = some (maps, t)) :
    ∃ s', t = s'.failing faults ∧ FetchedAhead tally image number s maps s' := by
  induction count generalizing s first prev number maps with
  | zero =>
    simp only [blkMapsReadaheadFrom, Option.some.injEq, Prod.mk.injEq] at done
    obtain ⟨rfl, rfl⟩ := done
    exact ⟨s, rfl, (Fetched.refl clean.lookups).noMaps⟩
  | succ count ih =>
    have stay : FetchedAhead tally image number s [] s := (Fetched.refl clean.lookups).noMaps
    have sameLookup : (s.failing faults).part.lookupOf prev = s.part.lookupOf prev := rfl
    rw [blkMapsReadaheadFrom, sameLookup] at done
    split at done
    · exact absurd done (by simp)
    · rename_i mlookup found
      have at_ := clean.lookupOf copy found
      split at done
      · -- the lookup is fetched, no map of it is
        simp only [Option.some.injEq, Prod.mk.injEq] at done
        obtain ⟨rfl, rfl⟩ := done
        obtain ⟨link, cached, -, -⟩ := at_
        rw [mapLookupLoadNext_failing]
        split
        · exact ⟨s, rfl, stay⟩
        · rcases clean.loadNext cached with ⟨-, last⟩ | ⟨next, link', ready, loaded, -, -, fetched⟩
          · rw [last]
            exact ⟨s, rfl, stay⟩
          · rw [loaded]
            exact ⟨ready, rfl, fetched.noMaps⟩
      · split at done
        · simp only [Option.some.injEq, Prod.mk.injEq] at done
          obtain ⟨rfl, rfl⟩ := done
          exact ⟨s, rfl, stay⟩
        · rw [mapLookupNextEntry_failing] at done
          cases isNext : mapLookupNextEntry s mlookup prev.mlookupEntryId with
          | none =>
            rw [isNext, Option.map_none, ite_self] at done
            simp only [Option.some.injEq, Prod.mk.injEq] at done
            obtain ⟨rfl, rfl⟩ := done
            exact ⟨s, rfl, stay⟩
          | some step =>
            obtain ⟨next, entryId, ready⟩ := step
            obtain ⟨nextAt, fetched⟩ := clean.nextEntry at_ isNext
            have clean' := fetched.clean clean
            obtain ⟨place, isPlace, -, loaded, copied⟩ := clean'.loadSlot nextAt true
            rw [if_pos rfl] at loaded copied
            have sameLoad : blkMapLoad (ready.failing faults).group (ready.failing faults).disk next
                entryId true = if faults.hitsPage ready.group (blockBid (next.entries entryId).block)
                  (blockBlocknr (next.entries entryId).block) then none else some (place.load none) := by
              rw [← loaded]
              exact blkMapLoad_failing ready.group ready.disk faults next entryId true
            rw [isNext, Option.map_some] at done
            split at done
            · simp only [Option.some.injEq, Prod.mk.injEq] at done
              obtain ⟨rfl, rfl⟩ := done
              exact ⟨s, rfl, stay⟩
            · rename_i goesOn
              rw [Option.ite_none_left_eq_some] at goesOn
              obtain ⟨-, goesOn⟩ := goesOn
              simp only [Option.some.injEq, Prod.mk.injEq] at goesOn
              obtain ⟨rfl, rfl, rfl⟩ := goesOn
              rw [sameLoad] at done
              split at done
              · simp only [Option.some.injEq, Prod.mk.injEq] at done
                obtain ⟨rfl, rfl⟩ := done
                exact ⟨ready, rfl, fetched.noMaps⟩
              · rename_i map loads
                rw [Option.ite_none_left_eq_some, Option.some.injEq] at loads
                obtain ⟨-, rfl⟩ := loads
                simp only [Option.map_eq_some_iff, Prod.mk.injEq] at done
                obtain ⟨⟨rest, last⟩, further, rfl, rfl⟩ := done
                have copyNext : CopyAt image (number + 1) _ := ⟨place, isPlace, copied⟩
                obtain ⟨s', isLast, more⟩ := ih clean' copyNext further
                have group : ready.group = s.group := by
                  obtain ⟨mlookups, rfl⟩ := fetched.state
                  rfl
                refine ⟨s', isLast, fetched.trans more.toFetched,
                  CopiesFrom.cons copyNext more.copies, ?_, ?_⟩
                · rw [List.forall_mem_cons]
                  exact ⟨(nextAt.fetched more.toFetched).anchors copyNext, more.anchors⟩
                · rw [List.forall_mem_cons, ← group]
                  exact ⟨Place.load_exact copied ready.group, more.exact⟩

/-- Where a read on a failing disk is, and what was cached when it started: some lookups, and the maps
up to a number. -/
structure Wanders (origin : State) (tally : Prop) (image : Image) (lookups : List MapLookup)
    (reach number : Nat) (before : List BlkMap) (cur : BlkMap) (after : List BlkMap) (s : State) :
    Prop where
  /-- The partition is clean. -/
  clean : Clean origin tally s image
  /-- What is cached is exact. -/
  exact : s.Exact
  /-- The current map. -/
  seated : Seated image number before cur after s
  /-- The lookups are still cached. -/
  kept : ∀ mlookup ∈ lookups, mlookup ∈ s.part.mlookups
  /-- The maps are passed or still cached. -/
  reached : reach ≤ number + after.length

variable {lookups : List MapLookup} {reach : Nat}

/-- A map is cached behind the current one unless the tape ends or the next map cannot be fetched. -/
theorem Wanders.ensureNextMap {t : State}
    (wanders : Wanders origin tally image lookups reach number before cur after s)
    (ensured : VirtualTape.ensureNextMap (s.failing faults) = some t) :
    ∃ s' maps, t = s'.failing faults ∧ s'.group = s.group ∧
      Wanders origin tally image lookups reach number before cur (after ++ maps) s' ∧
      (after ++ maps = [] → number + 1 = image.maps.length ∨
        NextFails faults s.group s.part.mlookups image number) := by
  have cursor : (s.failing faults).part.cursor = .on before cur after := wanders.seated.cursor
  rw [VirtualTape.ensureNextMap, cursor] at ensured
  cases after with
  | cons next rest =>
    obtain rfl := Option.some.inj ensured
    refine ⟨s, [], rfl, rfl, ?_, by simp⟩
    rwa [List.append_nil]
  | nil =>
    have isCur : s.part.cursor.cur? = some cur := by
      rw [wanders.seated.cursor]
      rfl
    obtain ⟨mlookup, found⟩ := wanders.clean.lookupOf_cur isCur
    have at_ := wanders.clean.lookupOf wanders.seated.copy found
    have sameLookup : (s.failing faults).part.lookupOf cur = some mlookup := found
    have inside := (List.getElem?_eq_some_iff.1 wanders.seated.copy.maps_getElem?).1
    simp only [sameLookup] at ensured
    by_cases last : number + 1 = image.maps.length
    · rw [wanders.clean.hasNext_last at_ last, if_neg Bool.false_ne_true] at ensured
      obtain rfl := Option.some.inj ensured
      refine ⟨s, [], rfl, rfl, ?_, fun _ => Or.inl last⟩
      rwa [List.append_nil]
    · have hasNext := wanders.clean.hasNext at_ (show number + 1 < image.maps.length by omega)
      rw [hasNext, if_pos rfl, blkMapsReadahead, cursor, Option.map_eq_some_iff] at ensured
      obtain ⟨⟨maps, ready⟩, done, rfl⟩ := ensured
      obtain ⟨s', rfl, ahead⟩ := wanders.clean.readaheadFrom_failing wanders.seated.copy done
      obtain ⟨mlookups, rfl⟩ := ahead.state
      refine ⟨{ s with part := { s.part with mlookups := mlookups, cursor := .on before cur maps } },
        maps, rfl, rfl, ?_, fun none => Or.inr ?_⟩
      · have isAhead : cur ∈ s.part.cursor.ahead := by
          rw [wanders.seated.cursor]
          exact List.mem_cons_self
        refine ⟨(ahead.toFetched.clean wanders.clean).move ⟨rfl, rfl, ⟨_, _, _, _, rfl⟩, Or.inr rfl⟩
          ahead.lookups ⟨number, wanders.seated.copy, ahead.copies⟩ fun map mem => ?_,
          fun map mem => ?_, ⟨rfl, wanders.seated.copy, ahead.copies⟩,
          fun mlookup mem => ahead.kept _ (wanders.kept mlookup mem), ?_⟩
        · rcases List.mem_cons.1 mem with rfl | fetched
          · exact ahead.toFetched.anchors (wanders.clean.anchored map isAhead)
          · exact ahead.anchors map fetched
        · rcases List.mem_cons.1 mem with rfl | fetched
          · exact wanders.exact map isAhead
          · exact ahead.exact map fetched
        · have reached := wanders.reached
          rw [List.length_nil] at reached
          omega
      · obtain rfl : maps = [] := none
        have isPlace := List.getElem?_eq_getElem (l := image.places) (i := number + 1) (by
          rw [← List.length_map Place.img, Image.map_img_places]
          omega)
        refine ⟨_, isPlace, ?_⟩
        have fetches := wanders.clean.fetchNextMap_failing at_ isPlace faults
        by_contra fine
        rw [if_neg fine] at fetches
        obtain ⟨rest, isCons⟩ := (blkMapsReadaheadFrom_first 3 sameLookup hasNext).2 _ fetches _ _ done
        exact absurd isCons (by simp)

/-- The next map is stepped to unless the tape ends or the map cannot be fetched. -/
theorem Wanders.stepToNextMap {ok : Bool} {t : State}
    (wanders : Wanders origin tally image lookups reach number before cur after s)
    (stepped : VirtualTape.stepToNextMap (s.failing faults) = some (ok, t)) :
    (ok = false ∧ (∃ s', t = s'.failing faults ∧ s'.group = s.group ∧
        Wanders origin tally image lookups reach number before cur [] s') ∧
      (number + 1 = image.maps.length ∨ NextFails faults s.group s.part.mlookups image number)) ∨
    (ok = true ∧ ∃ s' next rest, t = s'.failing faults ∧ s'.group = s.group ∧
      Wanders origin tally image lookups reach (number + 1) (before ++ [cur]) next rest s' ∧
      next.cEntry = some 0) := by
  rw [VirtualTape.stepToNextMap] at stepped
  cases ensured : VirtualTape.ensureNextMap (s.failing faults) with
  | none =>
    rw [ensured] at stepped
    exact absurd stepped (by simp)
  | some ready =>
    obtain ⟨s', maps, rfl, group, wanders', ends⟩ := wanders.ensureNextMap ensured
    have cursor : (s'.failing faults).part.cursor = .on before cur (after ++ maps) :=
      wanders'.seated.cursor
    rw [ensured] at stepped
    simp only [cursor] at stepped
    cases isAfter : after ++ maps with
    | nil =>
      rw [isAfter] at stepped wanders'
      simp only [Option.some.injEq, Prod.mk.injEq] at stepped
      obtain ⟨rfl, rfl⟩ := stepped
      exact Or.inl ⟨rfl, ⟨s', rfl, group, wanders'⟩, ends isAfter⟩
    | cons next rest =>
      rw [isAfter] at stepped wanders'
      simp only [Option.some.injEq, Prod.mk.injEq] at stepped
      obtain ⟨rfl, rfl⟩ := stepped
      rcases wanders'.clean.stepToNextMap_cases wanders'.exact wanders'.seated with
        ⟨-, none, -⟩ | ⟨next', rest', s'', step, seated, start, clean, group', -, exact⟩
      · exact absurd none (by simp)
      · have same : VirtualTape.stepToNextMap s' = some (true, { s' with part := { s'.part with
            cursor := .on (before ++ [cur]) next.positionBop rest } }) := by
          rw [VirtualTape.stepToNextMap, VirtualTape.ensureNextMap, wanders'.seated.cursor]
          simp only [wanders'.seated.cursor]
        rw [same] at step
        simp only [Option.some.injEq, Prod.mk.injEq, true_and] at step
        subst step
        obtain ⟨-, rfl, rfl⟩ := Cursor.on.inj seated.cursor
        refine Or.inr ⟨rfl, { s' with part := { s'.part with
          cursor := .on (before ++ [cur]) next.positionBop rest } }, _, _, rfl, group, ⟨clean, exact, seated, wanders'.kept, ?_⟩, start⟩
        have reached := wanders'.reached
        rw [List.length_cons] at reached
        omega

/-- What is read back of an entry stops a read like the entry itself. -/
theorem Wanders.readStop_loaded
    (wanders : Wanders origin tally image lookups reach number before cur after s) {entry : BlkEntry}
    (mem : entry ∈ cur.entries) : readStop blockSize entry.loaded = readStop blockSize entry := by
  obtain ⟨place, -, copied⟩ := wanders.seated.copy
  have settled := copied.entries entry mem
  have exact : entry.Exact s.group := by
    refine wanders.exact cur ?_ entry mem
    rw [wanders.seated.cursor]
    exact List.mem_cons_self
  rw [readStop, readStop, BlkEntry.loaded_isDataBlock, settled.isFilemark, exact.blockSize]

/-- The entry at the position is the next object. -/
theorem CopyAt.objects_drop (copy : CopyAt image number cur) {index : Nat} {entry : BlkEntry}
    (found : cur.entries[index]? = some entry) :
    image.objects.drop (image.objectsBefore number + index) =
      entry.loaded :: image.objects.drop (image.objectsBefore number + index + 1) := by
  obtain ⟨inside, isEntry⟩ := List.getElem?_eq_some_iff.1 found
  have entries : cur.image.entries = cur.entries.map BlkEntry.loaded := rfl
  have fits : index < cur.image.entries.length := by rwa [entries, List.length_map]
  rw [Nat.add_assoc, Image.objects_drop copy.maps_getElem? (Nat.le_of_lt fits),
    Image.objects_drop copy.maps_getElem? fits, List.drop_eq_getElem_cons fits, List.cons_append]
  simp only [entries, List.getElem_map, isEntry]

/-- A fault that is hit although many lookups are cached is hit if fewer are. -/
theorem NextFails.anti {mlookups : List MapLookup}
    (fails : NextFails faults group mlookups image number)
    (kept : ∀ mlookup ∈ lookups, mlookup ∈ mlookups) : NextFails faults group lookups image number := by
  obtain ⟨place, isPlace, hits⟩ := fails
  refine ⟨place, isPlace, ?_⟩
  rw [ReadFaults.hitsMap, Bool.or_eq_true, Bool.and_eq_true, Bool.not_eq_true', List.any_eq_false]
    at hits ⊢
  exact hits.imp_right fun both => ⟨fun mlookup mem => both.1 mlookup (kept mlookup mem), both.2⟩

/-- An object that stops a read is not the end of data. -/
theorem readEnd_ne_eodReached (blockSize : Nat) (entry : BlkEntry) :
    readEnd blockSize (some entry) ≠ .eodReached := by
  simp only [readEnd]
  repeat' split
  all_goals exact Status.noConfusion

/-- An object that is asked for and exists is passed. -/
theorem flatRead_passed_pos (blockSize count : Nat) {objects : List BlkEntry} (some : objects ≠ []) :
    0 < (flatRead blockSize (count + 1) objects).passed := by
  obtain ⟨entry, rest, rfl⟩ := List.exists_cons_of_ne_nil some
  cases isBlock : entry.isBlockOf blockSize with
  | true =>
    rw [flatRead_block isBlock]
    exact Nat.lt_of_lt_of_le Nat.one_pos (Nat.le_add_right _ _)
  | false =>
    rw [flatRead_other isBlock]
    exact Nat.one_pos

/-- A map that cannot be fetched holds objects. -/
theorem Clean.drop_ne_nil (clean : Clean origin tally s image)
    (fails : NextFails faults group lookups image number) :
    image.objects.drop (image.objectsBefore (number + 1)) ≠ [] := by
  obtain ⟨place, isPlace, -⟩ := fails
  have isMap : image.maps[number + 1]? = some place.img := by
    rw [← Image.map_img_places, List.getElem?_map, isPlace]
    rfl
  have filled := List.length_pos_iff.2 (clean.filled _ (List.mem_of_getElem? isMap))
  have within := Image.objectsBefore_add_le isMap
  rw [ne_eq, List.drop_eq_nil_iff]
  omega

/-- The next object is stepped to unless the tape ends or its map cannot be fetched. -/
theorem Wanders.readNext {index : Nat} {next : Option Nat} {t : State}
    (wanders : Wanders origin tally image lookups reach number before cur after s)
    (inside : index < cur.entries.length)
    (read : blkEntryReadNext index (s.failing faults) = some (next, t)) :
    (next = none ∧ index + 1 = cur.entries.length ∧
      (∃ s', t = s'.failing faults ∧ Wanders origin tally image lookups reach number before cur [] s') ∧
      (number + 1 = image.maps.length ∨ NextFails faults s.group lookups image number)) ∨
    ∃ index' number' before' cur' after' s', next = some index' ∧ t = s'.failing faults ∧
      s'.group = s.group ∧ Wanders origin tally image lookups reach number' before' cur' after' s' ∧
      index' < cur'.entries.length ∧
      image.objectsBefore number' + index' = image.objectsBefore number + index + 1 := by
  have cursor : (s.failing faults).part.cursor = .on before cur after := wanders.seated.cursor
  rw [blkEntryReadNext, cursor] at read
  simp only at read
  split at read
  · rename_i more
    simp only [Option.some.injEq, Prod.mk.injEq] at read
    obtain ⟨rfl, rfl⟩ := read
    exact Or.inr ⟨index + 1, number, before, cur, after, s, rfl, rfl, rfl, wanders, more, rfl⟩
  · rename_i last
    have isLast : index + 1 = cur.entries.length := by omega
    cases stepped : VirtualTape.stepToNextMap (s.failing faults) with
    | none =>
      rw [stepped] at read
      exact absurd read (by simp)
    | some result =>
      obtain ⟨ok, t'⟩ := result
      rw [stepped] at read
      rcases wanders.stepToNextMap stepped with
        ⟨rfl, ⟨s', rfl, -, wanders'⟩, ends⟩ | ⟨rfl, s', next', rest, rfl, group, wanders', start⟩
      · simp only [Option.some.injEq, Prod.mk.injEq] at read
        obtain ⟨rfl, rfl⟩ := read
        exact Or.inl ⟨rfl, isLast, ⟨s', rfl, wanders'⟩,
          ends.imp_right fun fails => fails.anti wanders.kept⟩
      · have cursor' : (s'.failing faults).part.cursor = .on (before ++ [cur]) next' rest :=
          wanders'.seated.cursor
        simp only [cursor', Option.some.injEq, Prod.mk.injEq] at read
        obtain ⟨rfl, rfl⟩ := read
        refine Or.inr ⟨0, number + 1, before ++ [cur], next', rest, s', start, rfl, group, wanders',
          wanders'.seated.copy.cEntry 0 start, ?_⟩
        rw [Image.objectsBefore_succ wanders.seated.copy.maps_getElem?, cur.image_entries_length]
        omega

/-- A map that is needed for an object a read asks for cannot be fetched; it was not cached when the
read started. -/
def StopsShort (faults : ReadFaults) (blockSize count position : Nat) (image : Image)
    (group : Bdevgroup) (lookups : List MapLookup) (reach last : Nat) : Prop :=
  reach ≤ last ∧ NextFails faults group lookups image last ∧
    image.objectsBefore (last + 1) <
      position + (flatRead blockSize count (image.objects.drop position)).passed

/-- A read on a failing disk that reports the end of data is at the end of the last map, or a map that
it needs cannot be fetched. -/
theorem Wanders.run_eod {count done index : Nat} {run : ReadRun} {t : State}
    (wanders : Wanders origin tally image lookups reach number before cur after s)
    (inside : index < cur.entries.length)
    (runs : blkMapReadRun blockSize count done index (s.failing faults) = some (run, t))
    (ended : run.status = .eodReached) :
    run.position = none ∧ ∃ last before' cur' s', t = s'.failing faults ∧
      Wanders origin tally image lookups reach last before' cur' [] s' ∧
      (last + 1 = image.maps.length ∨
        StopsShort faults blockSize count (image.objectsBefore number + index) image s.group lookups
          reach last) := by
  induction count generalizing s number before cur after done index with
  | zero =>
    simp only [blkMapReadRun, Option.some.injEq, Prod.mk.injEq] at runs
    obtain ⟨rfl, -⟩ := runs
    exact absurd ended (by simp)
  | succ count ih =>
    have cursor : (s.failing faults).part.cursor = .on before cur after := wanders.seated.cursor
    have found : cur.entries[index]? = some cur.entries[index] := List.getElem?_eq_getElem inside
    generalize cur.entries[index] = entry at found
    have mem : entry ∈ cur.entries := List.mem_of_getElem? found
    have stop := readStop_eq blockSize entry.loaded
    rw [wanders.readStop_loaded mem] at stop
    have objects := wanders.seated.copy.objects_drop found
    -- what is passed behind this block is passed with it
    have onward (isBlock : entry.loaded.isBlockOf blockSize = true) {last : Nat} {group : Bdevgroup}
        (short : StopsShort faults blockSize count (image.objectsBefore number + index + 1) image group
          lookups reach last) :
        StopsShort faults blockSize (count + 1) (image.objectsBefore number + index) image group
          lookups reach last := by
      refine ⟨short.1, short.2.1, ?_⟩
      rw [objects, flatRead_block isBlock]
      have less := short.2.2
      simp only
      omega
    rw [blkMapReadRun, cursor] at runs
    simp only [found] at runs
    cases read : blkEntryReadNext index (s.failing faults) with
    | none =>
      rw [read] at runs
      exact absurd runs (by simp)
    | some result =>
      obtain ⟨next, t'⟩ := result
      rw [read] at runs
      simp only at runs
      cases isBlock : entry.loaded.isBlockOf blockSize with
      | false =>
        simp only [stop, isBlock, Bool.false_eq_true, if_false, Option.some.injEq,
          Prod.mk.injEq] at runs
        obtain ⟨rfl, -⟩ := runs
        exact absurd ended (readEnd_ne_eodReached blockSize entry.loaded)
      | true =>
        rw [stop, if_pos isBlock] at runs
        rcases wanders.readNext inside read with ⟨rfl, isLast, ⟨s', rfl, wanders'⟩, ends⟩ |
          ⟨index', number', before', cur', after', s', rfl, rfl, group, wanders', inside', same⟩
        · simp only [Option.some.injEq, Prod.mk.injEq] at runs
          obtain ⟨rfl, rfl⟩ := runs
          refine ⟨rfl, number, before, cur, s', rfl, wanders', ends.imp_right fun fails => ?_⟩
          refine ⟨by simpa using wanders'.reached, fails, ?_⟩
          have position : image.objectsBefore (number + 1) = image.objectsBefore number + index + 1 := by
            rw [Image.objectsBefore_succ wanders.seated.copy.maps_getElem?, cur.image_entries_length]
            omega
          obtain ⟨more, rfl⟩ : ∃ more, count = more + 1 := by
            refine Nat.exists_eq_succ_of_ne_zero fun none => ?_
            rw [none, if_pos rfl] at ended
            exact absurd ended (by simp)
          have remain : image.objects.drop (image.objectsBefore number + index + 1) ≠ [] := by
            rw [← position]
            exact wanders.clean.drop_ne_nil fails
          have passed := flatRead_passed_pos blockSize more remain
          rw [objects, flatRead_block isBlock, position]
          simp only
          omega
        · obtain ⟨position, last, before'', cur'', s'', isLast, wanders'', ends⟩ :=
            ih wanders' inside' runs
          rw [same, group] at ends
          exact ⟨position, last, before'', cur'', s'', isLast, wanders'', ends.imp_right (onward isBlock)⟩

/-- The lookups that stay cached when a read drops those in front of the position. -/
def State.lookupsAhead (env : Env) (s : State) : List MapLookup :=
  ((blkMapFreeTillCur env s).map fun s => s.part.mlookups).getD []

/-- The beginning of a read on a failing disk: at the end of the tape, with an error, or at the first
object. -/
theorem Wanders.readStart {fuel : Nat} {status : Status} {start : Option Nat} {t : State}
    (wanders : Wanders origin tally image lookups reach number before cur after s)
    (started : VirtualTape.readStart (fuel + 2) (s.failing faults) = some (status, start, t)) :
    (start = none ∧ status = .eodReached ∧ t = s.failing faults ∧ cur.cEntry = none ∧
      number + 1 = image.maps.length) ∨
    (start = none ∧ status = .mediaError ∧ cur.cEntry = none ∧ reach ≤ number ∧
      NextFails faults s.group s.part.mlookups image number) ∨
    ∃ index number' before' cur' after' s', start = some index ∧ t = s'.failing faults ∧
      s'.group = s.group ∧ Wanders origin tally image lookups reach number' before' cur' after' s' ∧
      index < cur'.entries.length ∧ image.objectsBefore number' + index =
        image.objectsBefore number + cur.cEntry.getD cur.entries.length := by
  have isCur : s.part.cursor.cur? = some cur := by
    rw [wanders.seated.cursor]
    rfl
  obtain ⟨mlookup, found⟩ := wanders.clean.lookupOf_cur isCur
  have at_ := wanders.clean.lookupOf wanders.seated.copy found
  have same : (s.failing faults).part.cursor.cur? = some cur := isCur
  have sameLookup : (s.failing faults).part.lookupOf cur = some mlookup := found
  rw [VirtualTape.readStart, same] at started
  simp only [sameLookup] at started
  cases isPosition : cur.cEntry with
  | some index =>
    rw [isPosition] at started
    simp only [Option.some.injEq, Prod.mk.injEq] at started
    obtain ⟨rfl, rfl, rfl⟩ := started
    exact Or.inr (Or.inr ⟨index, number, before, cur, after, s, rfl, rfl, rfl, wanders,
      wanders.seated.copy.cEntry index isPosition, rfl⟩)
  | none =>
    rw [isPosition] at started
    simp only at started
    split at started
    · rename_i last
      simp only [Option.some.injEq, Prod.mk.injEq] at started
      obtain ⟨rfl, rfl, rfl⟩ := started
      refine Or.inl ⟨rfl, rfl, rfl, rfl, ?_⟩
      have inside := (List.getElem?_eq_some_iff.1 wanders.seated.copy.maps_getElem?).1
      by_contra more
      rw [wanders.clean.hasNext at_ (by omega)] at last
      exact absurd last (by simp)
    · rename_i hasNext
      cases stepped : VirtualTape.stepToNextMap (s.failing faults) with
      | none =>
        rw [stepped] at started
        exact absurd started (by simp)
      | some result =>
        obtain ⟨ok, t'⟩ := result
        rw [stepped] at started
        rcases wanders.stepToNextMap stepped with
          ⟨rfl, ⟨s', -, -, wanders'⟩, ends⟩ | ⟨rfl, s', next, rest, rfl, group, wanders', isFirst⟩
        · simp only [Option.some.injEq, Prod.mk.injEq] at started
          obtain ⟨rfl, rfl, -⟩ := started
          refine Or.inr (Or.inl ⟨rfl, rfl, rfl, wanders'.reached, ends.resolve_left fun last => ?_⟩)
          rw [wanders.clean.hasNext_last at_ last] at hasNext
          exact hasNext rfl
        · have isNext : (s'.failing faults).part.cursor.cur? = some next := by
            rw [State.failing, wanders'.seated.cursor]
            rfl
          simp only [VirtualTape.readStart, isNext, isFirst, Option.some.injEq,
            Prod.mk.injEq] at started
          obtain ⟨rfl, rfl, rfl⟩ := started
          refine Or.inr (Or.inr ⟨0, number + 1, before ++ [cur], next, rest, s', rfl, rfl, group,
            wanders', wanders'.seated.copy.cEntry 0 isFirst, ?_⟩)
          rw [Image.objectsBefore_succ wanders.seated.copy.maps_getElem?, cur.image_entries_length]
          rfl

/-- The end of the last map is the end of the tape. -/
theorem CopyAt.positionAt_end (copy : CopyAt image number cur) (last : number + 1 = image.maps.length)
    (atEnd : cur.cEntry = none) : PositionAt image image.objects.length (.on before cur after) := by
  refine ⟨number, copy, ?_⟩
  rw [atEnd, Option.getD_none, ← cur.image_entries_length,
    ← Image.objectsBefore_succ copy.maps_getElem?, last, Image.objectsBefore_length]

/-- The last steps of a read set the position in the current map and may fetch maps behind it. -/
theorem readEnds_cursor {run : ReadRun} {status : Status} {transfer transfer' : Transfer} {t t' : State}
    {ahead : Bool}
    (ends : (if ahead then
        (blkMapsReadahead (t.modifyCur fun map => { map with cEntry := run.position })).map
          fun s => (run.status, transfer, s)
      else some (run.status, transfer, t.modifyCur fun map => { map with cEntry := run.position })) =
        some (status, transfer', t')) :
    run.status = status ∧ ∀ before cur after, t.part.cursor = .on before cur after →
      ∃ maps, t'.part.cursor = .on before { cur with cEntry := run.position } maps := by
  have moved (before : List BlkMap) (cur : BlkMap) (after : List BlkMap)
      (isCursor : t.part.cursor = .on before cur after) :
      (t.modifyCur fun map => { map with cEntry := run.position }).part.cursor =
        .on before { cur with cEntry := run.position } after := by
    rw [State.modifyCur, isCursor]
    rfl
  cases ahead with
  | false =>
    simp only [Bool.false_eq_true, if_false, Option.some.injEq, Prod.mk.injEq] at ends
    obtain ⟨rfl, -, rfl⟩ := ends
    exact ⟨rfl, fun before cur after isCursor => ⟨after, moved before cur after isCursor⟩⟩
  | true =>
    simp only [if_true, Option.map_eq_some_iff, Prod.mk.injEq] at ends
    obtain ⟨t'', fetched, rfl, -, rfl⟩ := ends
    refine ⟨rfl, fun before cur after isCursor => ?_⟩
    rw [blkMapsReadahead, moved before cur after isCursor, Option.map_eq_some_iff] at fetched
    obtain ⟨⟨maps, last⟩, -, rfl⟩ := fetched
    exact ⟨after ++ maps, rfl⟩

/-- What is cached when a read starts. -/
theorem Clean.wanders (clean : Clean s tally s image) (exact : s.Exact) (env : Env)
    (seated : Seated image number before cur after s) (faults : ReadFaults) :
    ∃ freed, blkMapFreeTillCur env (s.failing faults) = some (freed.failing faults) ∧
      freed.group = s.group ∧ freed.part.mlookups = s.lookupsAhead env ∧
      Wanders s tally image (s.lookupsAhead env) (number + after.length) number [] cur after freed := by
  obtain ⟨freed, isFreed, cleanFreed, exactFreed, seatedFreed, group, -⟩ :=
    clean.freeTillCur_seated exact env seated
  have ahead : freed.part.mlookups = s.lookupsAhead env := by
    rw [State.lookupsAhead, isFreed]
    rfl
  refine ⟨freed, ?_, group, ahead, cleanFreed, exactFreed, seatedFreed, fun _ mem => ahead ▸ mem,
    Nat.le_refl _⟩
  have same : (s.failing faults).part.cursor = .on before cur after := seated.cursor
  rw [blkMapFreeTillCur, seated.cursor] at isFreed
  rw [blkMapFreeTillCur, same, ← Option.some.inj isFreed]
  rfl

/-- A read on a failing disk that reports the end of data has come to it, or a map that it needs cannot
be fetched. -/
theorem Clean.readOn_eod (clean : Clean s tally s image) (exact : s.Exact) (enough : 2 ≤ env.fuel)
    (at_ : PositionAt image position s.part.cursor) {transfer : Transfer} {t : State}
    (ends : blkMapReadOn env faults fixed blockSize numBlocks (s.failing faults) =
      some (.eodReached, transfer, t)) :
    PositionAt image image.objects.length t.part.cursor ∨
      ∃ before cur after number last, Seated image number before cur after s ∧
        position = image.objectsBefore number + cur.cEntry.getD cur.entries.length ∧
        StopsShort faults blockSize numBlocks position image s.group (s.lookupsAhead env)
          (number + after.length) last := by
  have cursor := clean.cursor
  cases isCursor : s.part.cursor with
  | null =>
    rw [isCursor] at cursor at_
    obtain rfl : image = [] := cursor
    have same : (s.failing faults).part.cursor = .null := isCursor
    rw [blkMapReadOn, same] at ends
    simp only [Option.some.injEq, Prod.mk.injEq, true_and] at ends
    rw [← ends.2, same]
    exact Or.inl rfl
  | loose maps map =>
    rw [isCursor] at cursor
    exact cursor.elim
  | dangling maps =>
    have same : (s.failing faults).part.cursor = .dangling maps := isCursor
    rw [blkMapReadOn, same, blkMapFreeTillCur, same] at ends
    exact absurd ends (by simp)
  | on before cur after =>
    obtain ⟨number, seated, isPosition⟩ := clean.seated isCursor at_
    obtain ⟨freed, isFreed, group, -, wanders⟩ := clean.wanders exact env seated faults
    obtain ⟨fuel, isFuel⟩ : ∃ more, env.fuel = more + 2 := ⟨env.fuel - 2, by omega⟩
    have same : (s.failing faults).part.cursor = .on before cur after := isCursor
    rw [blkMapReadOn, same] at ends
    simp only [isFreed, isFuel] at ends
    cases started : VirtualTape.readStart (fuel + 2) (freed.failing faults) with
    | none =>
      rw [started] at ends
      exact absurd ends (by simp)
    | some result =>
      obtain ⟨status, start, ready⟩ := result
      rw [started] at ends
      rcases wanders.readStart started with ⟨rfl, rfl, rfl, atEnd, last⟩ | ⟨rfl, rfl, -⟩ |
        ⟨index, number', before', cur', after', s', rfl, rfl, group', wanders', inside, starts⟩
      · simp only [Option.some.injEq, Prod.mk.injEq, true_and] at ends
        have onCur : (freed.failing faults).part.cursor = .on [] cur after :=
          wanders.seated.cursor
        rw [← ends.2, onCur]
        exact Or.inl (seated.copy.positionAt_end last atEnd)
      · exact absurd ends (by simp)
      · simp only at ends
        cases runs : blkMapReadRun blockSize numBlocks 0 index (s'.failing faults) with
        | none =>
          rw [runs] at ends
          exact absurd ends (by simp)
        | some result =>
          obtain ⟨run, t'⟩ := result
          rw [runs] at ends
          simp only at ends
          obtain ⟨isStatus, onCur⟩ := readEnds_cursor ends
          obtain ⟨none, last, before'', cur'', s'', rfl, wanders'', stops⟩ :=
            wanders'.run_eod inside runs isStatus
          have onLast : (s''.failing faults).part.cursor = .on before'' cur'' [] :=
            wanders''.seated.cursor
          obtain ⟨maps, isAfter⟩ := onCur before'' cur'' [] onLast
          rw [none] at isAfter
          rw [isAfter]
          refine stops.imp (fun isLast => ?_) fun short => ?_
          · exact (wanders''.seated.copy.reposition ⟨Option.none, rfl, by simp⟩).positionAt_end isLast rfl
          · refine ⟨before, cur, after, number, last, seated, isPosition, ?_⟩
            rwa [starts, ← isPosition, group', group] at short

/-! ## Reporting a fault -/

/-- The objects whose data a read needs: the run of blocks, and in variable mode a block of another size
behind it. -/
def readNeeds (fixed : Bool) (blockSize numBlocks : Nat) (objects : List BlkEntry) : List BlkEntry :=
  readRun blockSize numBlocks objects ++
    if fixed then [] else (readCut blockSize numBlocks objects).toList.filter BlkEntry.isDataBlock

/-- A map holds an object on the way of a read and is not cached. -/
def NeedsMap (blockSize numBlocks : Nat) (image : Image) (position : Nat) (s : State) (number : Nat) :
    Prop :=
  (∀ map ∈ s.part.cursor.ahead, ¬ CopyAt image number map) ∧
    position < image.objectsBefore (number + 1) ∧
    image.objectsBefore number <
      position + (flatRead blockSize numBlocks (image.objects.drop position)).passed

/-- Something that a read needs fails: the data of a block cannot be read or does not inflate, or a map
on the way cannot be fetched, because its page or the page of its lookup cannot be read. -/
def ReadFaults.Hit (faults : ReadFaults) (env : Env) (fixed : Bool) (blockSize numBlocks : Nat)
    (image : Image) (position : Nat) (s : State) : Prop :=
  (∃ entry ∈ readNeeds fixed blockSize numBlocks (image.objects.drop position),
    entry.fails s.group faults = true ∨ entry.compSize ≠ 0 ∧ faults.inflate entry = true) ∨
  ∃ number place, image.places[number]? = some place ∧
    NeedsMap blockSize numBlocks image position s number ∧
    faults.hitsMap s.group (s.lookupsAhead env) place = true

/-- A read reports an error and stays where it is. -/
def ReportsError (env : Env) (faults : ReadFaults) (fixed : Bool) (blockSize numBlocks : Nat)
    (image : Image) (position : Nat) (s : State) : Prop :=
  ∃ transfer s', blkMapReadData env faults fixed blockSize numBlocks s =
      some (.mediaError, transfer, s') ∧ PositionAt image position s'.part.cursor

/-- A read that reports the end of data is at the end of data. -/
def EndIsReached (env : Env) (faults : ReadFaults) (fixed : Bool) (blockSize numBlocks : Nat)
    (image : Image) (s : State) : Prop :=
  ∀ transfer s', blkMapReadData env faults fixed blockSize numBlocks s =
      some (.eodReached, transfer, s') → PositionAt image image.objects.length s'.part.cursor

/-- The position is at the end of the current map, no map is cached behind it, and the next map cannot
be fetched. -/
def FailsInFront (env : Env) (faults : ReadFaults) (image : Image) (s : State) : Prop :=
  ∃ before cur number, s.part.cursor = .on before cur [] ∧ cur.cEntry = none ∧
    CopyAt image number cur ∧ NextFails faults s.group (s.lookupsAhead env) image number

/-- The number of a copy is determined. -/
theorem Clean.copy_number (clean : Clean origin tally s image) {other : Nat}
    (copy : CopyAt image number cur) (copy' : CopyAt image other cur) : number = other := by
  have starts := (copy.lIdsStart clean.formed).symm.trans (copy'.lIdsStart clean.formed)
  have later {low high : Nat} (low_at : CopyAt image low cur) (less : low < high) :
      image.objectsBefore low < image.objectsBefore high := by
    have filled := clean.filled _ (List.mem_of_getElem? low_at.maps_getElem?)
    have up := image.objectsBefore_le (Nat.succ_le_of_lt less)
    rw [Image.objectsBefore_succ low_at.maps_getElem?] at up
    have some := List.length_pos_iff.2 filled
    omega
  rcases Nat.lt_trichotomy number other with less | same | more
  · exact absurd starts (Nat.ne_of_lt (later copy less))
  · exact same
  · exact absurd starts (Nat.ne_of_gt (later copy' more))

/-- A read reports an error if and only if it fails in front of its first object. -/
theorem Clean.reportsError_iff (clean : Clean s tally s image) (exact : s.Exact)
    (enough : 2 ≤ env.fuel) (at_ : PositionAt image position s.part.cursor) (faults : ReadFaults) (fixed : Bool)
    (blockSize numBlocks : Nat) :
    ReportsError env faults fixed blockSize numBlocks image position s ↔
      FailsInFront env faults image s := by
  have cursor := clean.cursor
  cases isCursor : s.part.cursor with
  | null =>
    refine iff_of_false ?_ ?_
    · rintro ⟨transfer, s', ends, -⟩
      rw [blkMapReadData, blkMapReadOn, isCursor] at ends
      exact absurd ends (by simp)
    · rintro ⟨before, cur, number, onCur, -⟩
      rw [isCursor] at onCur
      exact absurd onCur (by simp)
  | loose maps map =>
    rw [isCursor] at cursor
    exact cursor.elim
  | dangling maps =>
    refine iff_of_false ?_ ?_
    · rintro ⟨transfer, s', ends, -⟩
      rw [blkMapReadData, blkMapReadOn, isCursor, blkMapFreeTillCur, isCursor] at ends
      exact absurd ends (by simp)
    · rintro ⟨before, cur, number, onCur, -⟩
      rw [isCursor] at onCur
      exact absurd onCur (by simp)
  | on before cur after =>
    obtain ⟨number, seated, isPosition⟩ := clean.seated isCursor at_
    obtain ⟨freed, isFreed, group, ahead, wanders⟩ := clean.wanders exact env seated faults
    obtain ⟨fuel, isFuel⟩ : ∃ more, env.fuel = more + 2 := ⟨env.fuel - 2, by omega⟩
    have onFailing : (s.failing faults).part.cursor = .on before cur after := isCursor
    have reads (transfer : Transfer) (s' : State) :
        blkMapReadOn env faults fixed blockSize numBlocks (s.failing faults) =
            some (.mediaError, transfer, s') ↔
          transfer = .empty ∧
            VirtualTape.readStart (fuel + 2) (freed.failing faults) = some (.mediaError, none, s') := by
      rw [← isFuel]
      exact blkMapReadOn_mediaError env faults fixed blockSize numBlocks onFailing isFreed transfer
    constructor
    · rintro ⟨transfer, s', ends, -⟩
      rw [blkMapReadData, Option.map_eq_some_iff] at ends
      obtain ⟨⟨status, transfer', last⟩, ends, same⟩ := ends
      simp only [Prod.mk.injEq] at same
      obtain ⟨rfl, -, -⟩ := same
      rcases wanders.readStart ((reads transfer' last).1 ends).2 with
        ⟨-, eod, -⟩ | ⟨-, -, atEnd, reached, next⟩ | ⟨index, _, _, _, _, _, some, -⟩
      · cases eod
      · obtain rfl : after = [] := List.length_eq_zero_iff.1 (by omega)
        rw [group, ahead] at next
        exact ⟨before, cur, number, isCursor, atEnd, seated.copy, next⟩
      · cases some
    · rintro ⟨before', cur', number', onCur, atEnd, copy, next⟩
      rw [isCursor] at onCur
      obtain ⟨rfl, rfl, rfl⟩ := Cursor.on.inj onCur
      obtain rfl := clean.copy_number seated.copy copy
      rw [← ahead, ← group] at next
      obtain ⟨s', starts, stays⟩ :=
        wanders.clean.readStart_fails wanders.seated atEnd next (fuel + 1)
      refine ⟨.empty, { s' with disk := s.disk }, ?_, ?_⟩
      · have ends := (reads .empty s').2 ⟨rfl, starts⟩
        rw [blkMapReadData]
        have same : ({ s with disk := s.disk.failing faults.sector } : State) = s.failing faults := rfl
        rw [same, ends]
        rfl
      · change PositionAt image position s'.part.cursor
        rw [stays]
        exact ⟨number, seated.copy, isPosition⟩

/-- A read that could not fetch a map it needs hit a fault. -/
theorem Clean.hit_of_stopsShort (clean : Clean origin tally s image)
    (seated : Seated image number before cur after s)
    (isPosition : position = image.objectsBefore number + cur.cEntry.getD cur.entries.length)
    {last : Nat} (short : StopsShort faults blockSize numBlocks position image s.group
      (s.lookupsAhead env) (number + after.length) last) (fixed : Bool) :
    faults.Hit env fixed blockSize numBlocks image position s := by
  obtain ⟨reached, ⟨place, isPlace, hits⟩, onWay⟩ := short
  refine Or.inr ⟨last + 1, place, isPlace, ⟨fun map mem copy => ?_, ?_, onWay⟩, hits⟩
  · -- the maps that are cached have smaller numbers
    rw [seated.cursor, Cursor.ahead, List.mem_cons] at mem
    rcases mem with rfl | mem
    · have same := clean.copy_number seated.copy copy
      omega
    · obtain ⟨offset, inside, rfl⟩ := List.getElem_of_mem mem
      have same := clean.copy_number (seated.following offset _ (List.getElem?_eq_getElem inside)) copy
      omega
  · have isMap : image.maps[last + 1]? = some place.img := by
      rw [← Image.map_img_places, List.getElem?_map, isPlace]
      rfl
    have filled := List.length_pos_iff.2 (clean.filled _ (List.mem_of_getElem? isMap))
    have le := cur.position_le seated.copy.cEntry
    have up := image.objectsBefore_le (show number + 1 ≤ last + 1 by omega)
    rw [Image.objectsBefore_succ seated.copy.maps_getElem?, cur.image_entries_length] at up
    rw [Image.objectsBefore_succ isMap]
    omega

/-- READ reports every fault of what it needs and stays where it is, and reports the end of data only
there, if and only if such a fault keeps it from fetching the map with the first object. -/
theorem blkMapReadData_reports_iff (clean : Clean s tally s image) (exact : s.Exact)
    (enough : 2 ≤ env.fuel) (at_ : PositionAt image position s.part.cursor) (faults : ReadFaults)
    (fixed : Bool) (blockSize numBlocks : Nat) :
    ((faults.Hit env fixed blockSize numBlocks image position s →
        ReportsError env faults fixed blockSize numBlocks image position s) ∧
      EndIsReached env faults fixed blockSize numBlocks image s) ↔
      (faults.Hit env fixed blockSize numBlocks image position s →
        FailsInFront env faults image s) := by
  have reports := clean.reportsError_iff exact enough at_ faults fixed blockSize numBlocks
  constructor
  · intro both hit
    exact reports.1 (both.1 hit)
  · intro inFront
    refine ⟨fun hit => reports.2 (inFront hit), fun transfer s' ends => ?_⟩
    have whole := ends
    rw [blkMapReadData, Option.map_eq_some_iff] at ends
    obtain ⟨⟨status, transfer', t⟩, ends, same⟩ := ends
    simp only [Prod.mk.injEq] at same
    obtain ⟨rfl, -, rfl⟩ := same
    rcases clean.readOn_eod exact enough at_ ends with
      reached | ⟨before, cur, after, number, last, seated, isPosition, short⟩
    · exact reached
    · -- a fault that is hit is reported, and the end of data is not an error
      have hit := clean.hit_of_stopsShort seated isPosition short fixed
      obtain ⟨transfer'', s'', error, -⟩ := reports.2 (inFront hit)
      rw [whole] at error
      exact absurd error (by simp)

/-- The page of the second map of the small tape cannot be read. -/
def secondMapFails : ReadFaults := ⟨fun _ block => block == 32, fun _ => false⟩

/-- The small tape after both blocks of its first map were read while the second map could not be. -/
@[irreducible]
def stoppedTape : State :=
  let located := MoveCommand.play (syncEnv 4) [.locate 0] sampleTape
  ((blkMapReadData (syncEnv 4) secondMapFails true 512 2 located).map fun result => result.2.2).getD
    located

/-- It is well formed, in front of the third block, and what is cached was read back. -/
theorem stoppedTape_clean_at : (Clean stoppedTape True stoppedTape sampleImage ∧
    PositionAt sampleImage 2 stoppedTape.part.cursor) ∧ stoppedTape.Exact :=
  ⟨State.clean_at (by decide +kernel) (by decide +kernel) (by decide +kernel),
    State.exact_of_loaded (by decide +kernel)⟩

/-- Its position is the end of the first map, no other map is cached, and the second one cannot be
fetched. -/
theorem stoppedTape_cursor : (∃ before cur, stoppedTape.part.cursor = .on before cur [] ∧
      cur.cEntry = none ∧ CopyAt sampleImage 0 cur) ∧
    NextFails secondMapFails stoppedTape.group (stoppedTape.lookupsAhead (syncEnv 4)) sampleImage 0 := by
  have hits : (sampleImage.places[1]?).any (secondMapFails.hitsMap stoppedTape.group
      (stoppedTape.lookupsAhead (syncEnv 4))) = true := by decide +kernel
  have alone : stoppedTape.part.cursor.ahead.length = 1 := by decide +kernel
  have first : stoppedTape.part.cursor.cur?.map (fun cur => (cur.cEntry, cur.mlookupEntryId)) =
      some (none, 0) := by decide +kernel
  have isImage : stoppedTape.image = sampleImage := by decide +kernel
  obtain ⟨before, cur, after, cursor, copy⟩ :=
    State.copyAt_of_isIndexed (show stoppedTape.isIndexed = true by decide +kernel)
  rw [cursor] at alone first
  simp only [Cursor.cur?, Option.map_some, Option.some.injEq, Prod.mk.injEq] at first
  rw [isImage, first.2] at copy
  obtain rfl : after = [] := List.length_eq_zero_iff.1 (Nat.succ.inj alone)
  exact ⟨⟨before, cur, cursor, first.1, copy⟩, (Option.any_eq_true _ _).1 hits⟩

/-- READ of the third block then needs the second map, reports an error and stays where it is. -/
theorem blkMapReadData_reports_stopped :
    secondMapFails.Hit (syncEnv 4) true 512 1 sampleImage 2 stoppedTape ∧
      ReportsError (syncEnv 4) secondMapFails true 512 1 sampleImage 2 stoppedTape ∧
      EndIsReached (syncEnv 4) secondMapFails true 512 1 sampleImage stoppedTape := by
  obtain ⟨⟨clean, at_⟩, exact⟩ := stoppedTape_clean_at
  obtain ⟨⟨before, cur, cursor, atEnd, copy⟩, place, isPlace, hits⟩ := stoppedTape_cursor
  have enough : 2 ≤ (syncEnv 4).fuel := by decide
  have inFront : FailsInFront (syncEnv 4) secondMapFails sampleImage stoppedTape :=
    ⟨before, cur, 0, cursor, atEnd, copy, place, isPlace, hits⟩
  have hit : secondMapFails.Hit (syncEnv 4) true 512 1 sampleImage 2 stoppedTape := by
    refine Or.inr ⟨1, place, isPlace, ⟨fun map mem other => ?_, by decide +kernel, by decide +kernel⟩,
      hits⟩
    rw [cursor] at mem
    obtain rfl := List.mem_singleton.1 mem
    exact absurd (clean.copy_number copy other) (by decide)
  have both := (blkMapReadData_reports_iff clean exact enough at_ secondMapFails true 512 1).2
    fun _ => inFront
  exact ⟨hit, both.1 hit, both.2⟩

/-- One compressed block. -/
def compressedTape : State :=
  Outcome.state (tapePartitionWrite (syncEnv 4) false [⟨8192, 4096, 1⟩] smallTape) smallTape

/-- A block none of whose sectors can be read is reported as read, and so is a block that does not
inflate. -/
theorem blkMapReadData_hides_fault :
    (∃ s, tapePartitionLocate (syncEnv 4) (.block 0) blockTape = some (.ok, s) ∧
      (blkMapReadData (syncEnv 4) ⟨fun _ _ => true, fun _ => false⟩ true (8 * 1024 * 1024) 1 s).map
        (fun (status, transfer, _) => (status, transfer.doneBlocks,
          (transfer.delivered.getD []).map fun piece => piece.data.isNone)) =
            some (.ok, 1, [true])) ∧
    ∃ s, tapePartitionLocate (syncEnv 4) (.block 0) compressedTape = some (.ok, s) ∧
      (blkMapReadData (syncEnv 4) ⟨fun _ _ => false, fun _ => true⟩ true 8192 1 s).map
        (fun (status, transfer, _) => (status, transfer.doneBlocks,
          (transfer.delivered.getD []).map fun piece => piece.data.isNone)) =
            some (.ok, 1, [true]) :=
  ⟨⟨Outcome.state (tapePartitionLocate (syncEnv 4) (.block 0) blockTape) blockTape,
      Outcome.eq_some (by decide +kernel) blockTape, by decide +kernel⟩,
    ⟨Outcome.state (tapePartitionLocate (syncEnv 4) (.block 0) compressedTape) compressedTape,
      Outcome.eq_some (by decide +kernel) compressedTape, by decide +kernel⟩⟩

end VirtualTape
