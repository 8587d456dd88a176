import VirtualTape.Verif.Positioning

/-!
# Rewinding and reading keep a partition clean

REWIND keeps the first map if it happens to be at the front of the list, and READ steps from map to
map, fetching successive ones when it runs off the cached maps.
-/

namespace VirtualTape

variable {tally : Prop} {origin s s' : State} {image : Image} {mlookup mlookup' : MapLookup}
  {link : Link} {place : Place} {map cur : BlkMap} {index : Nat} {env : Env} {status : Status}
  {before after : List BlkMap}

/-! ## Rewind -/

/-- A partition with a cached lookup holds something. -/
theorem Clean.nonempty (clean : Clean origin tally s image) (mem : mlookup ∈ s.part.mlookups) :
    image ≠ [] := by
  obtain ⟨link, at_⟩ := clean.cachedAt mem
  exact List.ne_nil_of_mem (Image.mem_of_mem_links at_.mem)

/-- Rewinding to a cached first map. -/
theorem CursorClean.rewindCached {cursor cursor' : Cursor} (clean : CursorClean image cursor)
    (nonempty : image ≠ []) (done : cursor.rewindCached = some cursor') :
    CursorClean image cursor' := by
  unfold Cursor.rewindCached at done
  split at done
  · obtain rfl := Option.some.inj done
    obtain ⟨index, copy, -⟩ := clean
    exact ⟨index, copy.reposition (positionBop_repositioned _), by simp⟩
  · obtain rfl := Option.some.inj done
    exact nonempty
  · exact clean.elim
  · obtain rfl := Option.some.inj done
    exact nonempty
  · exact absurd done (by simp)

/-- After rewinding to a cached first map the current map, if there is one, is the same. -/
theorem Partition.Anchored.rewindCached {part : Partition} {cursor : Cursor} {flag : Bool}
    (anchored : part.Anchored) (done : part.cursor.rewindCached = some cursor) :
    Partition.Anchored { part with cursor := cursor, lookupSegments := flag } := by
  intro map mem
  unfold Cursor.rewindCached at done
  split at done
  · rename_i cur after isCursor
    obtain rfl := Option.some.inj done
    obtain rfl := List.mem_singleton.1 mem
    have isCur : cur ∈ part.cursor.ahead := by
      rw [isCursor]
      exact List.mem_cons_self
    exact anchored cur isCur
  · obtain rfl := Option.some.inj done
    exact absurd mem List.not_mem_nil
  · obtain rfl := Option.some.inj done
    exact absurd mem List.not_mem_nil
  · obtain rfl := Option.some.inj done
    exact absurd mem List.not_mem_nil
  · exact absurd done (by simp)

/-- The first slot of the first cached lookup is that of the first map. -/
theorem Clean.slot_zero (clean : Clean origin tally s image)
    (first : s.part.mlookups.head? = some mlookup) : ∃ index, SlotAt tally image s mlookup 0 index := by
  obtain ⟨link, at_⟩ := clean.cachedAt (List.mem_of_head? first)
  have nonempty := (clean.formed.lookups _ (Image.mem_of_mem_links at_.mem)).nonempty
  exact ⟨_, link, at_, List.length_pos_iff.2 nonempty, rfl⟩

/-- Positioning at the beginning. -/
theorem Clean.positionBop (clean : Clean origin tally s image)
    (done : tapePartitionPositionBop env s = some (status, s')) : Clean origin tally s' image := by
  rw [tapePartitionPositionBop, tapePartitionFlushWrites_clean clean.dirWrite] at done
  simp only at done
  split at done
  · simp only [Option.some.injEq, Prod.mk.injEq] at done
    exact done.2 ▸ clean
  · rename_i mlookup first
    split at done
    · simp only [Option.some.injEq, Prod.mk.injEq] at done
      exact done.2 ▸ clean
    · split at done
      · rw [Option.map_eq_some_iff] at done
        obtain ⟨cursor, rewound, same⟩ := done
        simp only [Prod.mk.injEq] at same
        obtain ⟨-, rfl⟩ := same
        exact clean.move ⟨rfl, rfl, ⟨_, _, _, _, rfl⟩, Or.inl rfl⟩ clean.lookups
          (clean.cursor.rewindCached (clean.nonempty (List.mem_of_head? first)) rewound)
          (clean.anchored.rewindCached rewound)
      · obtain ⟨index, at_⟩ := clean.slot_zero first
        obtain ⟨place, found, -, loaded, copy⟩ := clean.loadSlot at_ false
        rw [loaded] at done
        simp only [Option.some.injEq, Prod.mk.injEq] at done
        obtain ⟨-, rfl⟩ := done
        refine clean.move ⟨rfl, rfl, ⟨_, _, _, _, rfl⟩, Or.inl rfl⟩ clean.lookups
          ⟨index, ⟨place, found, copy⟩, by simp⟩ fun map mem => ?_
        obtain rfl := List.mem_singleton.1 mem
        exact at_.anchors ⟨place, found, copy⟩

/-- REWIND keeps a partition clean. -/
theorem Clean.rewind (clean : Clean origin tally s image)
    (done : tapeCmdRewind env s = some (status, s')) : Clean origin tally s' image := by
  obtain ⟨ready, prepared, clean', -⟩ := clean.preSpace env
  rw [tapeCmdRewind, prepared] at done
  exact clean'.positionBop done

/-! ## Dropping what was cached -/

/-- Lookups behind the first can be dropped. -/
theorem LookupsClean.sublist {first : MapLookup} {rest rest' : List MapLookup}
    (clean : LookupsClean tally image (first :: rest)) (sub : rest'.Sublist rest) :
    LookupsClean tally image (first :: rest') := by
  unfold LookupsClean at clean ⊢
  cases image with
  | nil => cases clean
  | cons img imgs =>
    have later : ∀ link ∈ linksFrom 1 (0 + img.maps.length) imgs, 0 < link.ordinal := by
      intro link mem
      obtain ⟨position, found⟩ := List.mem_iff_getElem?.1 mem
      rw [linksFrom_getElem?, Option.map_eq_some_iff] at found
      obtain ⟨-, -, rfl⟩ := found
      exact Nat.add_pos_left Nat.one_pos position
    cases clean with
    | here head tail => exact .here head (tail.sublist sub later)
    | away head tail => exact absurd head (Nat.lt_irrefl 0)

/-- Dropping lookups yields some of them. -/
theorem freeLookupsUntil_sublist (kept isCur : MapLookup → Bool) (mlookups : List MapLookup) :
    (freeLookupsUntil kept isCur mlookups).Sublist mlookups := by
  induction mlookups with
  | nil => exact List.Sublist.slnil
  | cons mlookup rest ih =>
    rw [freeLookupsUntil]
    split
    · exact List.Sublist.refl _
    · split
      · exact ih.cons_cons mlookup
      · exact ih.cons mlookup

/-- Dropping the lookups in front of the current one. -/
theorem LookupsClean.freeTillCur {mlookups : List MapLookup}
    (clean : LookupsClean tally image mlookups) (env : Env) (cur : BlkMap) (maps : List BlkMap) :
    LookupsClean tally image (mapLookupFreeTillCur env mlookups cur maps) := by
  cases mlookups with
  | nil => exact clean
  | cons first rest => exact clean.sublist (freeLookupsUntil_sublist _ _ rest)

/-- A lookup that is kept stays cached. -/
theorem mem_freeLookupsUntil {kept isCur : MapLookup → Bool} {mlookups : List MapLookup}
    (mem : mlookup ∈ mlookups) (keep : kept mlookup = true) :
    mlookup ∈ freeLookupsUntil kept isCur mlookups := by
  induction mlookups with
  | nil => exact mem
  | cons first rest ih =>
    rw [freeLookupsUntil]
    split
    · exact mem
    · rcases List.mem_cons.1 mem with rfl | later
      · rw [if_pos keep]
        exact List.mem_cons_self
      · split
        · exact List.mem_cons_of_mem _ (ih later)
        · exact ih later

/-- The lookup of a map that stays cached is not dropped. -/
theorem mem_mapLookupFreeTillCur {mlookups : List MapLookup} {maps : List BlkMap}
    (mem : mlookup ∈ mlookups) (inside : map ∈ maps) (bid : mlookup.bid = map.mlookupBid)
    (bStart : mlookup.bStart = map.mlookupBStart) :
    mlookup ∈ mapLookupFreeTillCur env mlookups cur maps := by
  have referenced : mlookup.referenced maps = true := by
    rw [MapLookup.referenced, List.any_eq_true]
    exact ⟨map, inside, by simp [bid, bStart]⟩
  have keep : mapLookupKept env maps mlookup = true := by
    simp [mapLookupKept, referenced]
  cases mlookups with
  | nil => exact mem
  | cons first rest =>
    rcases List.mem_cons.1 mem with rfl | later
    · exact List.mem_cons_self
    · exact List.mem_cons_of_mem _ (mem_freeLookupsUntil later keep)

/-- Dropping what is cached in front of the position. -/
theorem Clean.freeTillCur (clean : Clean origin tally s image)
    (done : blkMapFreeTillCur env s = some s') : Clean origin tally s' image := by
  have cursor := clean.cursor
  rw [blkMapFreeTillCur] at done
  split at done
  · exact Option.some.inj done ▸ clean
  · rename_i before cur after isCursor
    obtain rfl := Option.some.inj done
    rw [isCursor] at cursor
    refine clean.move ⟨rfl, rfl, ⟨_, _, _, _, rfl⟩, Or.inr rfl⟩
      (clean.lookups.freeTillCur env cur _) cursor fun map mem => ?_
    have ahead : map ∈ s.part.cursor.ahead := by
      rw [isCursor]
      exact mem
    obtain ⟨mlookup, cached, bid, bStart⟩ := clean.anchored map ahead
    exact ⟨mlookup, mem_mapLookupFreeTillCur cached mem bid bStart, bid, bStart⟩
  · rename_i isCursor
    rw [isCursor] at cursor
    exact cursor.elim
  · exact absurd done (by simp)

/-! ## Reading ahead -/

/-- Successive maps are copies from a number on. -/
def CopiesFrom (image : Image) (index : Nat) (maps : List BlkMap) : Prop :=
  ∀ offset map, maps[offset]? = some map → CopyAt image (index + offset) map

/-- No map at all. -/
theorem CopiesFrom.nil : CopiesFrom image index [] := by
  intro offset map found
  simp at found

/-- One more map in front. -/
theorem CopiesFrom.cons {maps : List BlkMap} (copy : CopyAt image index map)
    (copies : CopiesFrom image (index + 1) maps) : CopiesFrom image index (map :: maps) := by
  intro offset other found
  cases offset with
  | zero =>
    obtain rfl := Option.some.inj found
    exact copy
  | succ offset =>
    have following := copies offset other found
    rwa [Nat.add_assoc, Nat.add_comm 1] at following

/-- Further maps behind. -/
theorem CopiesFrom.append {maps maps' : List BlkMap} (copies : CopiesFrom image index maps)
    (more : CopiesFrom image (index + maps.length) maps') :
    CopiesFrom image index (maps ++ maps') := by
  intro offset other found
  rcases Nat.lt_or_ge offset maps.length with inside | beyond
  · rw [List.getElem?_append_left inside] at found
    exact copies offset other found
  · rw [List.getElem?_append_right beyond] at found
    have following := more _ other found
    rwa [Nat.add_assoc, Nat.add_sub_cancel' beyond] at following

/-- Fetching ahead yields the maps that follow. -/
theorem Clean.readaheadFrom (clean : Clean origin tally s image) {count : Nat} {first : Bool}
    {prev : BlkMap} {maps : List BlkMap} (copy : CopyAt image index prev)
    (done : blkMapsReadaheadFrom count first prev s = some (maps, s')) :
    Fetched tally image s s' ∧ CopiesFrom image (index + 1) maps ∧
      ∀ map ∈ maps, s'.part.Anchors map := by
  have none (s : State) : ∀ map ∈ ([] : List BlkMap), s.part.Anchors map := by simp
  induction count generalizing s first prev index maps with
  | zero =>
    simp only [blkMapsReadaheadFrom, Option.some.injEq, Prod.mk.injEq] at done
    obtain ⟨rfl, rfl⟩ := done
    exact ⟨Fetched.refl clean.lookups, CopiesFrom.nil, none _⟩
  | succ count ih =>
    have stay : Fetched tally image s s := Fetched.refl clean.lookups
    rw [blkMapsReadaheadFrom] at done
    split at done
    · exact absurd done (by simp)
    · rename_i mlookup found
      have at_ := clean.lookupOf copy found
      split at done
      · -- the lookup is fetched, no map of it is
        simp only [Option.some.injEq, Prod.mk.injEq] at done
        obtain ⟨rfl, rfl⟩ := done
        obtain ⟨link, cached, -, -⟩ := at_
        rcases clean.loadNext cached with ⟨-, last⟩ | ⟨next, link', after, loaded, -, -, fetched⟩
        · rw [last]
          exact ⟨stay, CopiesFrom.nil, none _⟩
        · rw [loaded]
          exact ⟨fetched, CopiesFrom.nil, none _⟩
      · split at done
        · simp only [Option.some.injEq, Prod.mk.injEq] at done
          obtain ⟨rfl, rfl⟩ := done
          exact ⟨stay, CopiesFrom.nil, none _⟩
        · split at done
          · simp only [Option.some.injEq, Prod.mk.injEq] at done
            obtain ⟨rfl, rfl⟩ := done
            exact ⟨stay, CopiesFrom.nil, none _⟩
          · rename_i step
            obtain ⟨next, fetched⟩ := clean.nextEntry at_ step
            have clean' := fetched.clean clean
            obtain ⟨place, isPlace, -, loaded, copied⟩ := clean'.loadSlot next true
            rw [loaded] at done
            simp only [Option.map_eq_some_iff, Prod.mk.injEq] at done
            obtain ⟨⟨rest, last⟩, further, rfl, rfl⟩ := done
            have copyNext : CopyAt image (index + 1) _ := ⟨place, isPlace, copied⟩
            obtain ⟨more, copies, anchors⟩ := ih clean' copyNext further
            refine ⟨fetched.trans more, CopiesFrom.cons copyNext copies, ?_⟩
            rw [List.forall_mem_cons]
            exact ⟨(next.fetched more).anchors copyNext, anchors⟩

/-- Fetching maps behind the last cached one. -/
theorem Clean.readahead (clean : Clean origin tally s image)
    (done : blkMapsReadahead s = some s') : Clean origin tally s' image := by
  have cursor := clean.cursor
  rw [blkMapsReadahead] at done
  split at done
  · rename_i before cur after isCursor
    rw [isCursor] at cursor
    obtain ⟨index, copy, following⟩ := cursor
    rw [Option.map_eq_some_iff] at done
    obtain ⟨⟨maps, last⟩, fetchedMaps, rfl⟩ := done
    have lastCopy : CopyAt image (index + after.length) (after.getLast?.getD cur) := by
      rcases List.eq_nil_or_concat after with rfl | ⟨front, other, rfl⟩
      · exact copy
      · have found : (front.concat other)[front.length]? = some other := by simp
        have at_ := following front.length other found
        rw [Nat.add_assoc, Nat.add_comm 1] at at_
        simpa using at_
    obtain ⟨fetched, copies, anchors⟩ := clean.readaheadFrom lastCopy fetchedMaps
    refine (fetched.clean clean).move ⟨rfl, rfl, ⟨_, _, _, _, rfl⟩, Or.inr rfl⟩ fetched.lookups
      ⟨index, copy, CopiesFrom.append following ?_⟩ fun map mem => ?_
    · rwa [Nat.add_right_comm] at copies
    · rw [Cursor.ahead, ← List.cons_append, List.mem_append] at mem
      rcases mem with cached | fetchedNow
      · have ahead : map ∈ s.part.cursor.ahead := by
          rw [isCursor]
          exact cached
        exact fetched.anchors (clean.anchored map ahead)
      · exact anchors map fetchedNow
  · exact absurd done (by simp)

/-- Fetching the next map if there is none. -/
theorem Clean.ensureNextMap (clean : Clean origin tally s image)
    (done : ensureNextMap s = some s') : Clean origin tally s' image := by
  rw [VirtualTape.ensureNextMap] at done
  split at done
  · split at done
    · exact absurd done (by simp)
    · split at done
      · exact clean.readahead done
      · exact Option.some.inj done ▸ clean
  · exact Option.some.inj done ▸ clean
  · exact absurd done (by simp)

/-- Stepping to the next map. -/
theorem Clean.stepToNextMap (clean : Clean origin tally s image) {stepped : Bool}
    (done : stepToNextMap s = some (stepped, s')) : Clean origin tally s' image := by
  rw [VirtualTape.stepToNextMap] at done
  split at done
  · exact absurd done (by simp)
  · rename_i ready ensured
    have clean' := clean.ensureNextMap ensured
    have cursor := clean'.cursor
    split at done
    · rename_i before cur next rest isCursor
      rw [isCursor] at cursor
      obtain ⟨index, -, following⟩ := cursor
      simp only [Option.some.injEq, Prod.mk.injEq] at done
      obtain ⟨-, rfl⟩ := done
      refine clean'.move ⟨rfl, rfl, ⟨_, _, _, _, rfl⟩, Or.inr rfl⟩ clean'.lookups
        ⟨index + 1, (following 0 next rfl).reposition (positionBop_repositioned _), ?_⟩ ?_
      · intro offset map found
        have at_ := following (offset + 1) map found
        rwa [← Nat.add_assoc, Nat.add_right_comm] at at_
      · have anchored := clean'.anchored
        simp only [Partition.Anchored, isCursor, Cursor.ahead, List.forall_mem_cons] at anchored ⊢
        exact anchored.2
    · simp only [Option.some.injEq, Prod.mk.injEq] at done
      exact done.2 ▸ clean'

/-- A position that the current map has. -/
def ValidPosition (s : State) (position : Option Nat) : Prop :=
  ∀ cur index, s.part.cursor.cur? = some cur → position = some index → index < cur.entries.length

/-- The position behind an entry. -/
theorem Clean.readNext (clean : Clean origin tally s image) {position : Option Nat}
    (done : blkEntryReadNext index s = some (position, s')) :
    Clean origin tally s' image ∧ ValidPosition s' position := by
  rw [blkEntryReadNext] at done
  split at done
  · rename_i before cur after isCursor
    split at done
    · rename_i more
      simp only [Option.some.injEq, Prod.mk.injEq] at done
      obtain ⟨rfl, rfl⟩ := done
      refine ⟨clean, fun cur' index' isCur same => ?_⟩
      simp only [isCursor, Cursor.cur?, Option.some.injEq] at isCur
      obtain rfl := isCur
      obtain rfl := Option.some.inj same
      exact more
    · split at done
      · exact absurd done (by simp)
      · rename_i stepped
        simp only [Option.some.injEq, Prod.mk.injEq] at done
        obtain ⟨rfl, rfl⟩ := done
        exact ⟨clean.stepToNextMap stepped, fun _ _ _ same => by simp at same⟩
      · rename_i after' stepped
        have clean' := clean.stepToNextMap stepped
        split at done
        · rename_i before' next rest isCursor'
          simp only [Option.some.injEq, Prod.mk.injEq] at done
          obtain ⟨rfl, rfl⟩ := done
          refine ⟨clean', fun cur' index' isCur same => ?_⟩
          obtain ⟨-, -, number, -, copy, -⟩ := clean'.on_cur isCur
          simp only [isCursor', Cursor.cur?, Option.some.injEq] at isCur
          obtain rfl := isCur
          exact copy.cEntry index' same
        · exact absurd done (by simp)
  · exact absurd done (by simp)

/-- Reading blocks from a position on. -/
theorem Clean.readFrom (clean : Clean origin tally s image) {blockSize count : Nat}
    {position : Option Nat} (valid : ValidPosition s (some index))
    (done : blkMapReadFrom blockSize count index s = some (status, position, s')) :
    Clean origin tally s' image ∧ ValidPosition s' position := by
  induction count generalizing s index with
  | zero =>
    simp only [blkMapReadFrom, Option.some.injEq, Prod.mk.injEq] at done
    obtain ⟨-, rfl, rfl⟩ := done
    exact ⟨clean, valid⟩
  | succ count ih =>
    rw [blkMapReadFrom] at done
    split at done
    · split at done
      · exact absurd done (by simp)
      · split at done
        · exact absurd done (by simp)
        · rename_i next after read
          obtain ⟨clean', valid'⟩ := clean.readNext read
          split at done
          · simp only [Option.some.injEq, Prod.mk.injEq] at done
            obtain ⟨-, rfl, rfl⟩ := done
            exact ⟨clean', valid'⟩
          · simp only [Option.some.injEq, Prod.mk.injEq] at done
            obtain ⟨-, rfl, rfl⟩ := done
            exact ⟨clean', valid'⟩
          · exact ih clean' valid' done
    · exact absurd done (by simp)

/-- Stepping over the ends of maps before a read. -/
theorem Clean.readStart (clean : Clean origin tally s image) {fuel : Nat} {position : Option Nat}
    (done : readStart fuel s = some (status, position, s')) :
    Clean origin tally s' image ∧ ValidPosition s' position := by
  induction fuel generalizing s with
  | zero => exact absurd done (by simp [VirtualTape.readStart])
  | succ fuel ih =>
    rw [VirtualTape.readStart] at done
    split at done
    · exact absurd done (by simp)
    · rename_i cur isCur
      split at done
      · rename_i index isPosition
        simp only [Option.some.injEq, Prod.mk.injEq] at done
        obtain ⟨-, rfl, rfl⟩ := done
        refine ⟨clean, fun cur' index' isCur' same => ?_⟩
        obtain rfl := Option.some.inj (isCur.symm.trans isCur')
        obtain ⟨-, -, number, -, copy, -⟩ := clean.on_cur isCur
        exact copy.cEntry index' (isPosition.trans same)
      · split at done
        · exact absurd done (by simp)
        · split at done
          · simp only [Option.some.injEq, Prod.mk.injEq] at done
            obtain ⟨-, rfl, rfl⟩ := done
            exact ⟨clean, fun _ _ _ same => by simp at same⟩
          · split at done
            · exact absurd done (by simp)
            · rename_i stepped
              simp only [Option.some.injEq, Prod.mk.injEq] at done
              obtain ⟨-, rfl, rfl⟩ := done
              exact ⟨clean.stepToNextMap stepped, fun _ _ _ same => by simp at same⟩
            · rename_i stepped
              exact ih (clean.stepToNextMap stepped) done

/-- Moving the current map to a position that it has. -/
theorem Clean.setPosition (clean : Clean origin tally s image) {position : Option Nat}
    (valid : ValidPosition s position) :
    Clean origin tally (s.modifyCur fun map => { map with cEntry := position }) image := by
  cases isCur : s.part.cursor.cur? with
  | none =>
    have same : (s.modifyCur fun map => { map with cEntry := position }) = s := by
      cases found : s.part.cursor with
      | null =>
        simp only [State.modifyCur, found, Cursor.modifyCur]
        rw [← found]
      | dangling maps =>
        simp only [State.modifyCur, found, Cursor.modifyCur]
        rw [← found]
      | loose maps cur => simp [found, Cursor.cur?] at isCur
      | on before cur after => simp [found, Cursor.cur?] at isCur
    rw [same]
    exact clean
  | some cur =>
    obtain ⟨before, after, index, found, -, -⟩ := clean.on_cur isCur
    have moved : Repositioned cur { cur with cEntry := position } :=
      ⟨position, rfl, fun number same => valid cur number isCur same⟩
    have result := clean.modifyCur isCur moved
    simp only [State.modifyCur, found, Cursor.modifyCur] at result ⊢
    exact result

/-- Reading blocks at the position. -/
theorem Clean.mapRead (clean : Clean origin tally s image) {blockSize count : Nat}
    (done : blkMapRead env blockSize count s = some (status, s')) : Clean origin tally s' image := by
  unfold blkMapRead at done
  split at done
  · simp only [Option.some.injEq, Prod.mk.injEq] at done
    exact done.2 ▸ clean
  · split at done
    · exact absurd done (by simp)
    · rename_i freed
      have clean' := clean.freeTillCur freed
      split at done
      · exact absurd done (by simp)
      · rename_i started
        simp only [Option.some.injEq, Prod.mk.injEq] at done
        exact done.2 ▸ (clean'.readStart started).1
      · rename_i started
        obtain ⟨atStart, validStart⟩ := clean'.readStart started
        split at done
        · exact absurd done (by simp)
        · rename_i read
          obtain ⟨atEnd, validEnd⟩ := atStart.readFrom validStart read
          have positioned := atEnd.setPosition validEnd
          simp only at done
          split at done
          · rw [Option.map_eq_some_iff] at done
            obtain ⟨last, ahead, same⟩ := done
            simp only [Prod.mk.injEq] at same
            exact same.2 ▸ positioned.readahead ahead
          · simp only [Option.some.injEq, Prod.mk.injEq] at done
            exact done.2 ▸ positioned

/-- READ keeps a partition clean. -/
theorem Clean.read (clean : Clean origin tally s image) {blockSize count : Nat}
    (done : tapePartitionRead env blockSize count s = some (status, s')) :
    Clean origin tally s' image := by
  rw [tapePartitionRead] at done
  simp only at done
  split at done
  · exact absurd done (by simp)
  · rename_i ready prepared
    have clean' : Clean origin tally ready image := by
      split at prepared
      · exact Option.some.inj prepared ▸ clean
      · rw [tapePartitionFlushWrites_clean clean.dirWrite] at prepared
        exact clean.freeTillCur prepared
    split at done
    · rename_i read
      simp only [Option.some.injEq, Prod.mk.injEq] at done
      obtain ⟨-, rfl⟩ := done
      have atEnd := clean'.mapRead read
      exact atEnd.move ⟨rfl, rfl, ⟨_, _, _, _, rfl⟩, Or.inr rfl⟩ atEnd.lookups atEnd.cursor
        atEnd.anchored
    · exact clean'.mapRead done

end VirtualTape
