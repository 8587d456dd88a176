import VirtualTape.Verif.Segments
import VirtualTape.Verif.Spacing
import VirtualTape.Verif.ReadPosition

/-!
# What an overwrite gives back

A write in front of the end of data first cuts the tape off at the position and releases the segments
behind the write cursors. The segments of a partition are numbered without a gap, so that what is left
are the segments up to the cursors. These are the segments of the last remaining object and map if the
cursors are computed from the position.
-/

namespace VirtualTape

variable {s s' s'' : State} {type kind : SegmentType} {segmentId lo mid hi count : Nat}

/-! ## Recorded segments -/

/-- Is a segment recorded? -/
def State.holds (s : State) (type : SegmentType) (segmentId : Nat) : Bool :=
  (s.entry type segmentId).any (· != 0)

/-- The segments that the segment map pages of a kind have slots for. -/
def Partition.slots (part : Partition) (type : SegmentType) : Nat :=
  part.maxTmaps type * tsegmentMapMaxSegments

/-- The partition has the first so many segments of each kind and no others, and the space in use is
theirs. -/
structure Booked (s : State) (counts : SegmentType → Nat) : Prop where
  /-- The segment map pages can be read. -/
  pages : ∀ type, ∀ tmapId < s.part.maxTmaps type,
    (s.disk.tmap s.part.tmaps type tmapId).isSome = true
  /-- They have a slot for every segment. -/
  counts_le : ∀ type, counts type ≤ s.part.slots type
  /-- The recorded segments. -/
  holds : ∀ type, ∀ segmentId < s.part.slots type,
    (s.holds type segmentId = true ↔ segmentId < counts type)
  /-- The space in use. -/
  used : s.part.used = bintUnitSize * (counts .dataSeg + counts .metaSeg)

/-- The recorded segments are counted in one way. -/
theorem Booked.counts_eq {counts counts' : SegmentType → Nat} (booked : Booked s counts)
    (booked' : Booked s counts') : counts = counts' := by
  funext type
  have same (segmentId : Nat) (slot : segmentId < s.part.slots type) :
      segmentId < counts type ↔ segmentId < counts' type :=
    (booked.holds type segmentId slot).symm.trans (booked'.holds type segmentId slot)
  have le := booked.counts_le type
  have le' := booked'.counts_le type
  by_contra differ
  rcases Nat.lt_or_gt_of_ne differ with less | more
  · exact absurd ((same _ (by omega)).2 less) (Nat.lt_irrefl _)
  · exact absurd ((same _ (by omega)).1 more) (Nat.lt_irrefl _)

/-! ## Releasing segments -/

/-- The segments of a kind with numbers in a range were released. -/
structure Released (type : SegmentType) (lo hi : Nat) (s s' : State) : Prop where
  /-- Of the partition only the space in use changes. -/
  part : s'.part = { s.part with used := s'.part.used }
  /-- The segment map pages can be read as before. -/
  pages : ∀ kind tmapId, (s'.disk.tmap s.part.tmaps kind tmapId).isSome =
    (s.disk.tmap s.part.tmaps kind tmapId).isSome
  /-- The recorded segments. -/
  holds : ∀ kind other, s'.holds kind other = true ↔
    s.holds kind other = true ∧ ¬ (kind = type ∧ lo ≤ other ∧ other < hi)

namespace Released

/-- Nothing was released. -/
theorem refl (le : hi ≤ lo) : Released type lo hi s s :=
  ⟨rfl, fun _ _ => rfl, fun _ _ => ⟨fun held => ⟨held, by omega⟩, And.left⟩⟩

/-- Two ranges that make up a third one. -/
theorem trans {lo' hi' lo'' hi'' : Nat} (first : Released type lo hi s s')
    (second : Released type lo' hi' s' s'')
    (union : ∀ other, lo'' ≤ other ∧ other < hi'' ↔
      lo ≤ other ∧ other < hi ∨ lo' ≤ other ∧ other < hi') : Released type lo'' hi'' s s'' := by
  refine ⟨?_, fun kind tmapId => ?_, fun kind other => ?_⟩
  · rw [second.part, first.part]
  · have tmaps : s'.part.tmaps = s.part.tmaps := by rw [first.part]
    have later := second.pages kind tmapId
    rw [tmaps] at later
    rw [later, first.pages]
  · rw [second.holds, first.holds, and_assoc, union, and_or_left, not_or]

/-- The space in use does not matter. -/
theorem setUsed (step : Released type lo hi s s') (used : Nat) :
    Released type lo hi s { s' with part := { s'.part with used := used } } :=
  ⟨by rw [step.part], step.pages, step.holds⟩

end Released

/-- Releasing one segment. -/
theorem released_one {block : Nat} (recorded : s.entry type segmentId = some block)
    (group : Bdevgroup) :
    Released type segmentId (segmentId + 1) s
      { s with group := group, disk := s.disk.setTmapEntry s.part.tmaps type segmentId 0 } := by
  refine ⟨rfl, fun kind tmapId => Disk.isSome_tmap_setTmapEntry _ _ _, fun kind other => ?_⟩
  simp only [State.holds, State.entry]
  by_cases same : kind = type ∧ other = segmentId
  · obtain ⟨rfl, rfl⟩ := same
    rw [Disk.tmapEntry_setTmapEntry recorded]
    simp
  · rw [Disk.tmapEntry_setTmapEntry_of_ne (fun ⟨_, isType, isId⟩ => same ⟨isType, isId⟩)]
    refine ⟨fun held => ⟨held, fun ⟨isType, above, below⟩ => same ⟨isType, by omega⟩⟩, And.left⟩

/-- A segment map page is released up to the last recorded segment. -/
theorem tmapEodFrom_released (tmapId fuel entryId : Nat)
    (later : ∀ other, tmapId * tsegmentMapMaxSegments + entryId ≤ other →
      other < tmapId * tsegmentMapMaxSegments + entryId + fuel →
      (s.holds type other = true ↔ other < count))
    (positive : 0 < tmapId * tsegmentMapMaxSegments + entryId) {done : Nat} {s' : State}
    (ended : tmapEodFrom type tmapId fuel entryId s = (done, s')) :
    done = min count (tmapId * tsegmentMapMaxSegments + entryId + fuel) -
        (tmapId * tsegmentMapMaxSegments + entryId) ∧ s'.part = s.part ∧
      Released type (tmapId * tsegmentMapMaxSegments + entryId)
        (min count (tmapId * tsegmentMapMaxSegments + entryId + fuel)) s s' := by
  induction fuel generalizing entryId s done with
  | zero =>
    rw [tmapEodFrom] at ended
    obtain ⟨rfl, rfl⟩ := Prod.mk.inj ended
    exact ⟨by omega, rfl, .refl (by omega)⟩
  | succ fuel ih =>
    have here := later _ (Nat.le_refl _) (by omega)
    rw [tmapEodFrom] at ended
    simp only at ended
    rw [State.holds, State.entry] at here
    split at ended
    · rename_i none
      obtain ⟨rfl, rfl⟩ := Prod.mk.inj ended
      rw [none] at here
      have beyond : count ≤ tmapId * tsegmentMapMaxSegments + entryId := by
        by_contra less
        exact absurd (here.2 (by omega)) (by simp)
      exact ⟨by omega, rfl, .refl (by omega)⟩
    · rename_i empty
      obtain ⟨rfl, rfl⟩ := Prod.mk.inj ended
      rw [empty] at here
      have beyond : count ≤ tmapId * tsegmentMapMaxSegments + entryId := by
        by_contra less
        exact absurd (here.2 (by omega)) (by simp)
      exact ⟨by omega, rfl, .refl (by omega)⟩
    · rename_i block nonzero recorded
      rw [recorded] at here
      have inside : tmapId * tsegmentMapMaxSegments + entryId < count :=
        here.1 (by simpa using nonzero)
      have whole : tmapSkipSegment s.part (tmapId * tsegmentMapMaxSegments + entryId) type =
          false := by
        rw [tmapSkipSegment, beq_eq_false_iff_ne.2 (Nat.ne_of_gt positive)]
        rfl
      rw [if_neg (by rw [whole]; simp)] at ended
      have one := released_one recorded
        (bdevReleaseBlock s.group (blockBid block) (blockBlocknr block))
      generalize isNext : ({ s with
        group := bdevReleaseBlock s.group (blockBid block) (blockBlocknr block)
        disk := s.disk.setTmapEntry s.part.tmaps type
          (tmapId * tsegmentMapMaxSegments + entryId) 0 } : State) = next at ended one
      cases rest : tmapEodFrom type tmapId fuel (entryId + 1) next with
      | mk released after =>
        rw [rest] at ended
        obtain ⟨rfl, rfl⟩ := Prod.mk.inj ended
        have later' (other : Nat) (above : tmapId * tsegmentMapMaxSegments + (entryId + 1) ≤ other)
            (below : other < tmapId * tsegmentMapMaxSegments + (entryId + 1) + fuel) :
            next.holds type other = true ↔ other < count := by
          rw [one.holds]
          have same := later other (by omega) (by omega)
          constructor
          · exact fun held => same.1 held.1
          · exact fun less => ⟨same.2 less, by omega⟩
        obtain ⟨rfl, part, more⟩ := ih (entryId + 1) later' (by omega) rest
        refine ⟨by omega, ?_, ?_⟩
        · rw [part, ← isNext]
        · have stop : tmapId * tsegmentMapMaxSegments + (entryId + 1) + fuel =
              tmapId * tsegmentMapMaxSegments + entryId + (fuel + 1) := by omega
          rw [stop] at more
          exact one.trans more fun other => by omega

/-- Releasing a segment map page, stated by hand: unfolding the definition would run through the
slots. -/
theorem tmapEodSegments_eq (s : State) (type : SegmentType) (tmapId entryId : Nat) :
    tmapEodSegments s type tmapId entryId =
      match tmapEodFrom type tmapId (tsegmentMapMaxSegments - entryId) entryId s with
      | (done, s) =>
        (done, { s with part := { s.part with used := s.part.used - done * bintUnitSize } }) := rfl

/-- One segment map page is released, and the space in use becomes less by what was released. -/
theorem tmapEodSegments_released (tmapId entryId : Nat) (inside : entryId < tsegmentMapMaxSegments)
    (later : ∀ other, tmapId * tsegmentMapMaxSegments + entryId ≤ other →
      other < (tmapId + 1) * tsegmentMapMaxSegments → (s.holds type other = true ↔ other < count))
    (positive : 0 < tmapId * tsegmentMapMaxSegments + entryId) :
    (tmapEodSegments s type tmapId entryId).1 =
        min count ((tmapId + 1) * tsegmentMapMaxSegments) -
          (tmapId * tsegmentMapMaxSegments + entryId) ∧
      (tmapEodSegments s type tmapId entryId).2.part.used =
        s.part.used - (tmapEodSegments s type tmapId entryId).1 * bintUnitSize ∧
      Released type (tmapId * tsegmentMapMaxSegments + entryId)
        (min count ((tmapId + 1) * tsegmentMapMaxSegments)) s
        (tmapEodSegments s type tmapId entryId).2 := by
  have stop : tmapId * tsegmentMapMaxSegments + entryId + (tsegmentMapMaxSegments - entryId) =
      (tmapId + 1) * tsegmentMapMaxSegments := by
    rw [Nat.add_mul]
    omega
  have ended := tmapEodFrom_released tmapId (tsegmentMapMaxSegments - entryId) entryId
    (fun other above below => later other above (stop ▸ below)) positive rfl
  rw [stop] at ended
  rw [tmapEodSegments_eq]
  generalize tmapEodFrom type tmapId (tsegmentMapMaxSegments - entryId) entryId s = result at ended
  obtain ⟨done, after⟩ := result
  obtain ⟨isDone, part, released⟩ := ended
  simp only at isDone part released ⊢
  generalize bintUnitSize = unit
  refine ⟨isDone, ?_, released.setUsed _⟩
  rw [part]

/-- Successive segment map pages are released up to the last recorded segment, and the space in use
becomes less by what was released. -/
theorem eodSegmentsFrom_released (fuel tmapId entryId : Nat)
    (inside : entryId < tsegmentMapMaxSegments)
    (pages : ∀ page, tmapId ≤ page → page < tmapId + fuel →
      (s.disk.tmap s.part.tmaps type page).isSome = true)
    (later : ∀ other, tmapId * tsegmentMapMaxSegments + entryId ≤ other →
      other < (tmapId + fuel) * tsegmentMapMaxSegments → (s.holds type other = true ↔ other < count))
    (positive : 0 < tmapId * tsegmentMapMaxSegments + entryId)
    (reach : count ≤ (tmapId + fuel) * tsegmentMapMaxSegments) :
    Released type (tmapId * tsegmentMapMaxSegments + entryId) count s
        (eodSegmentsFrom type fuel tmapId entryId s).2 ∧
      (eodSegmentsFrom type fuel tmapId entryId s).2.part.used = s.part.used -
        (count - (tmapId * tsegmentMapMaxSegments + entryId)) * bintUnitSize := by
  generalize isUnit : bintUnitSize = unit
  induction fuel generalizing tmapId entryId s with
  | zero =>
    have beyond : count ≤ tmapId * tsegmentMapMaxSegments + entryId := by
      rw [Nat.add_zero] at reach
      omega
    refine ⟨.refl beyond, ?_⟩
    rw [Nat.sub_eq_zero_of_le beyond, Nat.zero_mul, Nat.sub_zero]
    rfl
  | succ fuel ih =>
    obtain ⟨page, found⟩ := Option.isSome_iff_exists.1 (pages tmapId (Nat.le_refl _) (by omega))
    have pageEnd : (tmapId + 1) * tsegmentMapMaxSegments ≤
        (tmapId + (fuel + 1)) * tsegmentMapMaxSegments := Nat.mul_le_mul_right _ (by omega)
    have step := tmapEodSegments_released tmapId entryId inside
      (fun other above below => later other above (by omega)) positive
    rw [isUnit] at step
    rw [eodSegmentsFrom_succ, found]
    generalize tmapEodSegments s type tmapId entryId = result at step
    obtain ⟨done, next⟩ := result
    obtain ⟨isDone, used, released⟩ := step
    simp only at isDone used released ⊢
    have ordered : tmapId * tsegmentMapMaxSegments + entryId <
        (tmapId + 1) * tsegmentMapMaxSegments := by
      rw [Nat.add_mul]
      omega
    split
    · rename_i none
      have beyond : count ≤ tmapId * tsegmentMapMaxSegments + entryId := by omega
      refine ⟨released.trans (Released.refl (Nat.le_refl 0)) fun other => by omega, ?_⟩
      rw [used, none, Nat.sub_eq_zero_of_le beyond]
    · have tmaps : next.part.tmaps = s.part.tmaps := by rw [released.part]
      have pages' (page : Nat) (above : tmapId + 1 ≤ page) (below : page < tmapId + 1 + fuel) :
          (next.disk.tmap next.part.tmaps type page).isSome = true := by
        rw [tmaps, released.pages]
        exact pages page (by omega) (by omega)
      have later' (other : Nat) (above : (tmapId + 1) * tsegmentMapMaxSegments + 0 ≤ other)
          (below : other < (tmapId + 1 + fuel) * tsegmentMapMaxSegments) :
          next.holds type other = true ↔ other < count := by
        rw [released.holds]
        rw [Nat.add_right_comm] at below
        have same := later other (by omega) below
        exact ⟨fun held => same.1 held.1, fun less => ⟨same.2 less, by omega⟩⟩
      obtain ⟨more, rest⟩ := ih (tmapId + 1) 0 (by decide) pages' later' (by omega)
        (by rw [Nat.add_right_comm]; exact reach)
      rw [Nat.add_zero] at more
      rw [used, Nat.sub_sub, ← Nat.add_mul] at rest
      have total : done + (count - ((tmapId + 1) * tsegmentMapMaxSegments + 0)) =
          count - (tmapId * tsegmentMapMaxSegments + entryId) := by omega
      rw [total] at rest
      exact ⟨released.trans more fun other => by omega, rest⟩

/-- What is left after a release. -/
theorem Released.booked {counts : SegmentType → Nat}
    (released : Released type segmentId (counts type) s s') (booked : Booked s counts)
    (used : s'.part.used = s.part.used - (counts type - segmentId) * bintUnitSize) :
    Booked s' (Function.update counts type (min (counts type) segmentId)) := by
  have maxTmaps (kind : SegmentType) : s'.part.maxTmaps kind = s.part.maxTmaps kind := by
    rw [released.part]
    cases kind <;> rfl
  have slots (kind : SegmentType) : s'.part.slots kind = s.part.slots kind := by
    rw [Partition.slots, Partition.slots, maxTmaps]
  refine ⟨fun kind tmapId page => ?_, fun kind => ?_, fun kind other slot => ?_, ?_⟩
  · have tmaps : s'.part.tmaps = s.part.tmaps := by rw [released.part]
    rw [maxTmaps] at page
    rw [tmaps, released.pages]
    exact booked.pages kind tmapId page
  · have le := booked.counts_le kind
    rw [slots]
    by_cases same : kind = type
    · subst same
      rw [Function.update_self]
      exact (Nat.min_le_left _ _).trans le
    · rwa [Function.update_of_ne same]
  · rw [slots] at slot
    rw [released.holds, booked.holds kind other slot]
    by_cases same : kind = type
    · subst same
      rw [Function.update_self]
      simp only [true_and]
      omega
    · rw [Function.update_of_ne same]
      simp only [same, false_and, not_false_iff, and_true]
  · rw [used, booked.used]
    generalize bintUnitSize = unit
    rw [Nat.mul_comm _ unit, ← Nat.mul_sub]
    congr 1
    cases type with
    | dataSeg =>
      rw [Function.update_self, Function.update_of_ne (by simp)]
      omega
    | metaSeg =>
      rw [Function.update_self, Function.update_of_ne (by simp)]
      omega

/-- Releasing all segments of a kind from a number on, other than the first. -/
theorem Booked.eodSegments {counts : SegmentType → Nat} (booked : Booked s counts)
    (type : SegmentType) (positive : 0 < segmentId) :
    Booked (eodSegments s type segmentId).2
        (Function.update counts type (min (counts type) segmentId)) ∧
      (eodSegments s type segmentId).2.part =
        { s.part with used := (eodSegments s type segmentId).2.part.used } := by
  have segments : 0 < tsegmentMapMaxSegments := by decide
  have isId : segmentId / tsegmentMapMaxSegments * tsegmentMapMaxSegments +
      segmentId % tsegmentMapMaxSegments = segmentId := Nat.div_add_mod' _ _
  have later (other : Nat) (above : segmentId / tsegmentMapMaxSegments * tsegmentMapMaxSegments +
      segmentId % tsegmentMapMaxSegments ≤ other) (below : other < (segmentId / tsegmentMapMaxSegments +
        (s.part.maxTmaps type - segmentId / tsegmentMapMaxSegments)) * tsegmentMapMaxSegments) :
      s.holds type other = true ↔ other < counts type := by
    refine booked.holds type other ?_
    rw [Partition.slots, ← Nat.div_lt_iff_lt_mul segments]
    rw [isId] at above
    have page := Nat.div_le_div_right (c := tsegmentMapMaxSegments) above
    rw [← Nat.div_lt_iff_lt_mul segments] at below
    omega
  have reach : counts type ≤ (segmentId / tsegmentMapMaxSegments +
      (s.part.maxTmaps type - segmentId / tsegmentMapMaxSegments)) * tsegmentMapMaxSegments :=
    Nat.le_trans (booked.counts_le type) (Nat.mul_le_mul_right _ (by omega))
  have ended : Released type segmentId (counts type) s (VirtualTape.eodSegments s type segmentId).2 ∧
      (VirtualTape.eodSegments s type segmentId).2.part.used =
        s.part.used - (counts type - segmentId) * bintUnitSize := by
    have step := eodSegmentsFrom_released
      (s.part.maxTmaps type - segmentId / tsegmentMapMaxSegments)
      (segmentId / tsegmentMapMaxSegments) (segmentId % tsegmentMapMaxSegments)
      (Nat.mod_lt _ segments) (fun page above below => booked.pages type page (by omega))
      later (isId.symm ▸ positive) reach
    rw [isId] at step
    exact step
  generalize VirtualTape.eodSegments s type segmentId = result at ended
  obtain ⟨released, used⟩ := ended
  refine ⟨released.booked booked used, released.part⟩

/-! ## The write cursors -/

/-- The recorded segments and the space in use stay the same. -/
structure SameBooks (s s' : State) : Prop where
  /-- The segment maps. -/
  tmap : s'.disk.tmap = s.disk.tmap
  /-- Where they are. -/
  tmaps : s'.part.tmaps = s.part.tmaps
  /-- The number of their pages. -/
  maxTmaps : ∀ type, s'.part.maxTmaps type = s.part.maxTmaps type
  /-- The space in use. -/
  used : s'.part.used = s.part.used

namespace SameBooks

/-- Nothing has to change. -/
theorem refl (s : State) : SameBooks s s := ⟨rfl, rfl, fun _ => rfl, rfl⟩

/-- Two steps are one. -/
theorem trans (first : SameBooks s s') (second : SameBooks s' s'') : SameBooks s s'' :=
  ⟨second.tmap.trans first.tmap, second.tmaps.trans first.tmaps,
    fun type => (second.maxTmaps type).trans (first.maxTmaps type), second.used.trans first.used⟩

/-- The recorded segments. -/
theorem holds (same : SameBooks s s') (type : SegmentType) (segmentId : Nat) :
    s'.holds type segmentId = s.holds type segmentId := by
  simp only [State.holds, State.entry, Disk.tmapEntry, same.tmap, same.tmaps]

/-- What is recorded stays so. -/
theorem booked {counts : SegmentType → Nat} (same : SameBooks s s') (booked : Booked s counts) :
    Booked s' counts := by
  have slots (type : SegmentType) : s'.part.slots type = s.part.slots type := by
    rw [Partition.slots, Partition.slots, same.maxTmaps]
  refine ⟨fun type tmapId page => ?_, fun type => ?_, fun type segmentId slot => ?_,
    same.used.trans booked.used⟩
  · rw [same.maxTmaps] at page
    rw [same.tmap, same.tmaps]
    exact booked.pages type tmapId page
  · rw [slots]
    exact booked.counts_le type
  · rw [slots] at slot
    rw [same.holds]
    exact booked.holds type segmentId slot

end SameBooks

/-- Moving a write cursor. -/
theorem sameBooks_setSegment (s : State) (type : SegmentType) (tsegment : Tsegment) :
    SameBooks s { s with part := s.part.setSegment type tsegment } := by
  refine ⟨rfl, s.part.setSegment_tmaps tsegment type,
    fun kind => s.part.setSegment_maxTmaps tsegment type kind, ?_⟩
  cases type <;> rfl

/-- A cursor was moved into a segment; nothing else changed. -/
def MovedTo (type : SegmentType) (segmentId : Nat) (s s' : State) : Prop :=
  ∃ tsegment, tsegment.segmentId = segmentId ∧
    s' = { s with part := s.part.setSegment type tsegment }

/-- Moving a cursor inside its segment. -/
theorem MovedTo.moveSegment (moved : MovedTo type segmentId s s') (bCur : Nat) :
    MovedTo type segmentId s { s' with part := s'.part.moveSegment type bCur } := by
  obtain ⟨tsegment, rfl, rfl⟩ := moved
  refine ⟨{ tsegment with bCur := bCur }, rfl, ?_⟩
  cases type <;> rfl

/-- A cursor that was moved to a recorded segment is in that segment. -/
theorem tapePartitionLookupSegment_ok (held : s.holds type segmentId = true)
    (found : tapePartitionLookupSegment s type segmentId = (true, s')) :
    MovedTo type segmentId s s' := by
  unfold tapePartitionLookupSegment at found
  rw [State.holds, State.entry] at held
  split at found
  · exact absurd found (by simp)
  · rename_i empty
    rw [empty] at held
    exact absurd held (by simp)
  · split at found
    · exact absurd found (by simp)
    · obtain ⟨-, rfl⟩ := Prod.mk.inj found
      exact ⟨_, rfl, rfl⟩

/-- The cursor for index pages is computed from the current map. -/
theorem tapePartitionLookupCurMetaSegment_ok {before after : List BlkMap} {map : BlkMap}
    (isCur : s.part.cursor = .on before map after) (held : s.holds .metaSeg map.segmentId = true)
    (found : tapePartitionLookupCurMetaSegment s = some (.ok, s')) :
    MovedTo .metaSeg map.segmentId s s' := by
  unfold tapePartitionLookupCurMetaSegment at found
  simp only [isCur] at found
  cases looked : tapePartitionLookupSegment s .metaSeg map.segmentId with
  | mk ok moved =>
    simp only [looked] at found
    cases ok with
    | false => exact absurd found (by simp)
    | true =>
      have there := tapePartitionLookupSegment_ok held looked
      split at found
      · exact absurd found (by simp)
      · split at found
        · exact absurd found (by simp)
        · simp only [Option.some.injEq, Prod.mk.injEq, true_and] at found
          exact found ▸ there.moveSegment _

/-- The cursor for data is computed from an entry. -/
theorem positionDsegment_ok {entry : BlkEntry} {atEnd : Bool}
    (held : s.holds .dataSeg entry.segmentId = true)
    (found : positionDsegment s entry atEnd = some (.ok, s')) :
    MovedTo .dataSeg entry.segmentId s s' := by
  unfold positionDsegment at found
  cases looked : tapePartitionLookupSegment s .dataSeg entry.segmentId with
  | mk ok moved =>
    simp only [looked] at found
    cases ok with
    | false => exact absurd found (by simp)
    | true =>
      have there := tapePartitionLookupSegment_ok held looked
      split at found
      · exact absurd found (by simp)
      · split at found
        · exact absurd found (by simp)
        · simp only [Option.some.injEq, Prod.mk.injEq, true_and] at found
          exact found ▸ there.moveSegment _

/-- The segment of the last entry of a map, the first segment if it has none. -/
def BlkMap.lastSegment (map : BlkMap) : Nat :=
  (map.entries.getLast?.map BlkEntry.segmentId).getD 0

/-- At the end of a map the cursor for data is computed from the last entry. An empty map has to be
the first one. -/
theorem tapePartitionLookupCurDataSegment_ok {before after : List BlkMap} {map : BlkMap}
    (isCur : s.part.cursor = .on before map after) (atEnd : map.cEntry = none)
    (held : s.holds .dataSeg map.lastSegment = true)
    (found : tapePartitionLookupCurDataSegment s = some (.ok, s')) :
    MovedTo .dataSeg map.lastSegment s s' ∧ (map.entries = [] → map.lIdsStart = 0) := by
  unfold tapePartitionLookupCurDataSegment at found
  simp only [isCur, atEnd, Option.bind_none] at found
  rw [BlkMap.lastSegment] at held ⊢
  cases last : map.entries.getLast? with
  | some entry =>
    rw [last] at held
    simp only [last] at found
    refine ⟨positionDsegment_ok held found, fun none => ?_⟩
    rw [none] at last
    exact absurd last (by simp)
  | none =>
    rw [last] at held
    simp only [last] at found
    split at found
    · exact absurd found (by simp)
    · rename_i first
      refine ⟨?_, fun _ => not_not.1 first⟩
      cases looked : tapePartitionLookupSegment s .dataSeg 0 with
      | mk ok moved =>
        simp only [looked] at found
        cases ok with
        | false => exact absurd found (by simp)
        | true =>
          split at found
          · exact absurd found (by simp)
          · simp only [Option.some.injEq, Prod.mk.injEq, true_and] at found
            exact found ▸ tapePartitionLookupSegment_ok held looked

/-- What the cursors have to be: the segment of the current map, and that of its last entry. -/
def BlkMap.lastSegments (map : BlkMap) : SegmentType → Nat
  | .metaSeg => map.segmentId
  | .dataSeg => map.lastSegment

/-- The cursors are computed from the position if that is due, and stay otherwise. -/
theorem tapePartitionLookupSegments_ok {before after : List BlkMap} {map : BlkMap}
    (isCur : s.part.cursor = .on before map after) (atEnd : map.cEntry = none)
    (held : ∀ type, s.holds type (map.lastSegments type) = true)
    (found : tapePartitionLookupSegments s = some (.ok, s')) :
    SameBooks s s' ∧
      if s.part.lookupSegments then
        (∀ type, (s'.part.segment type).segmentId = map.lastSegments type) ∧
          (map.entries = [] → map.lIdsStart = 0)
      else s' = s := by
  unfold tapePartitionLookupSegments at found
  cases due : s.part.lookupSegments with
  | false =>
    rw [due] at found
    simp only [Bool.not_false, if_true, Option.some.injEq, Prod.mk.injEq, true_and] at found
    subst found
    simp [SameBooks.refl]
  | true =>
    rw [due] at found
    simp only [Bool.not_true, Bool.false_eq_true, if_false] at found
    split at found
    · rename_i indexed found'
      obtain ⟨msegment, isMap, rfl⟩ := tapePartitionLookupCurMetaSegment_ok isCur (held .metaSeg)
        found'
      split at found
      · rename_i located found''
        have held' := (sameBooks_setSegment s .metaSeg msegment).holds .dataSeg map.lastSegment
        obtain ⟨⟨dsegment, isLast, rfl⟩, first⟩ := tapePartitionLookupCurDataSegment_ok
          (s := { s with part := s.part.setSegment .metaSeg msegment }) isCur atEnd
          (held'.trans (held .dataSeg)) found''
        simp only [Option.some.injEq, Prod.mk.injEq, true_and] at found
        subst found
        refine ⟨⟨rfl, rfl, fun type => ?_, rfl⟩, ?_⟩
        · cases type <;> rfl
        · rw [if_pos rfl]
          refine ⟨fun type => ?_, first⟩
          cases type with
          | metaSeg => exact isMap
          | dataSeg => exact isLast
      · rename_i other
        exact (other _ found).elim
    · rename_i other
      exact (other _ found).elim

/-- What is left behind the cursors is released. -/
theorem tapePartitionEodCurSegment_ok {counts : SegmentType → Nat} (booked : Booked s counts)
    (done : tapePartitionEodCurSegment s = some (.ok, s')) :
    ∃ ready, tapePartitionLookupSegments s = some (.ok, ready) ∧ (SameBooks s ready →
      Booked s' fun type => min (counts type) ((ready.part.segment type).segmentId + 1)) := by
  unfold tapePartitionEodCurSegment at done
  split at done
  · exact absurd done (by simp)
  · rename_i ready looked
    refine ⟨ready, looked, fun same => ?_⟩
    obtain ⟨data, dataPart⟩ := (same.booked booked).eodSegments .dataSeg
      (Nat.succ_pos ready.part.dsegment.segmentId)
    have msegment : (eodSegments ready .dataSeg (ready.part.dsegment.segmentId + 1)).2.part.msegment =
        ready.part.msegment := by rw [dataPart]
    obtain ⟨both, -⟩ := data.eodSegments .metaSeg
      (Nat.succ_pos (eodSegments ready .dataSeg
        (ready.part.dsegment.segmentId + 1)).2.part.msegment.segmentId)
    simp only [Option.some.injEq, Prod.mk.injEq, true_and] at done
    rw [← done]
    convert both using 1
    funext type
    cases type with
    | metaSeg =>
      rw [Function.update_self, Function.update_of_ne (by simp), msegment]
      rfl
    | dataSeg =>
      rw [Function.update_of_ne (by simp), Function.update_self]
      rfl
  · exact absurd done (by simp)

/-! ## Cutting the tape off -/

/-- The recorded segments, the write cursors and whether they are due stay the same. -/
structure SameCursors (s s' : State) : Prop extends SameBooks s s' where
  /-- The write cursors. -/
  segment : ∀ type, s'.part.segment type = s.part.segment type
  /-- Whether they are due. -/
  lookupSegments : s'.part.lookupSegments = s.part.lookupSegments

/-- Writing a lookup does not touch the segment maps. -/
theorem completeLookup_tmap (group : Bdevgroup) (disk : Disk) (mlookup : MapLookup) :
    (completeLookup group disk mlookup).1.tmap = disk.tmap := by
  unfold completeLookup
  split <;> rfl

/-- Writing a lookup and waiting for it does not touch the segment maps. -/
theorem mapLookupFlushWait_tmap (group : Bdevgroup) (disk : Disk) (mlookup : MapLookup) :
    (mapLookupFlushWait group disk mlookup).1.tmap = disk.tmap := by
  have handed : (mapLookupFlushMeta group disk mlookup).1.tmap = disk.tmap := by
    unfold mapLookupFlushMeta
    split
    · rfl
    · exact completeLookup_tmap group disk mlookup
  exact (completeLookup_tmap group _ _).trans handed

/-- Cutting the chain of lookups off does not touch the segment maps. -/
theorem mapLookupWriteEod_tmap (s : State) (map : BlkMap) (mlookup : MapLookup) :
    (mapLookupWriteEod s map mlookup).disk.tmap = s.disk.tmap := by
  unfold mapLookupWriteEod
  exact mapLookupFlushWait_tmap _ _ _

variable {before after : List BlkMap} {map : BlkMap}

/-- Cutting off the maps behind the current one. -/
theorem blkMapCutMaps_same (isCur : s.part.cursor = .on before map after)
    (done : blkMapCutMaps s map = some s') :
    SameCursors s s' ∧ ∃ after', s'.part.cursor = .on before map after' := by
  unfold blkMapCutMaps at done
  split at done
  · exact absurd done (by simp)
  · split at done
    · obtain rfl := Option.some.inj done
      refine ⟨⟨⟨mapLookupWriteEod_tmap _ _ _, rfl, fun type => ?_, rfl⟩, fun type => ?_, rfl⟩, [], ?_⟩
      · cases type <;> rfl
      · cases type <;> rfl
      · simp only [mapLookupWriteEod, isCur, Cursor.dropAfter]
    · obtain rfl := Option.some.inj done
      exact ⟨⟨SameBooks.refl s, fun _ => rfl, rfl⟩, after, isCur⟩

/-- The current map cut off at the position. -/
structure CutAt (map map' : BlkMap) : Prop where
  /-- The position is its end. -/
  cEntry : map'.cEntry = none
  /-- The entries in front of the position. -/
  entries : map'.entries = map.entries.take (map.cEntry.getD map.entries.length)
  /-- The first logical id. -/
  lIdsStart : map'.lIdsStart = map.lIdsStart
  /-- The segment. -/
  segmentId : map'.segmentId = map.segmentId

/-- Cutting off the entries behind the position of a map that is not being written. -/
theorem blkMapCutEntries_same (isCur : s.part.cursor = .on before map after)
    (ioPending : map.ioPending = false) (dirty : map.dirty = none)
    (done : blkMapCutEntries s map = some s') :
    SameCursors s s' ∧ ∃ map', s'.part.cursor = .on before map' after ∧ CutAt map map' := by
  unfold blkMapCutEntries at done
  split at done
  · rename_i atEnd
    obtain rfl := Option.some.inj done
    refine ⟨⟨SameBooks.refl s, fun _ => rfl, rfl⟩, map, isCur, atEnd, ?_, rfl, rfl⟩
    rw [atEnd, Option.getD_none, List.take_length]
  · rename_i index inside
    simp only at done
    split at done
    · exact absurd done (by simp)
    · simp only [blkMapFlushMeta, blkMapUpdateIds, ioPending, completeMap, dirty, Bool.not_false,
        if_true] at done
      obtain rfl := Option.some.inj done
      refine ⟨⟨⟨mapLookupFlushWait_tmap _ _ _, rfl, fun type => ?_, rfl⟩, fun type => ?_, rfl⟩,
        blkMapUpdateIds { map with entries := map.entries.take index, cEntry := none }, ?_,
        ⟨rfl, ?_, rfl, rfl⟩⟩
      · cases type <;> rfl
      · cases type <;> rfl
      · simp only [isCur, Cursor.modifyCur, blkMapUpdateIds, ioPending, dirty]
      · rw [inside]
        rfl

/-- Cutting the tape off at the position, up to the release of segments. -/
theorem blkMapWriteEod_ok (isCur : s.part.cursor = .on before map after)
    (ioPending : map.ioPending = false) (dirty : map.dirty = none)
    (done : blkMapWriteEod s = some (.ok, s')) :
    ∃ cut before after map', SameCursors s cut ∧ cut.part.cursor = .on before map' after ∧
      CutAt map map' ∧ tapePartitionEodCurSegment cut = some (.ok, s') := by
  unfold blkMapWriteEod at done
  simp only [isCur, Cursor.cur?] at done
  split at done
  · exact absurd done (by simp)
  · rename_i first cutMaps
    obtain ⟨same, after', isCur'⟩ := blkMapCutMaps_same isCur cutMaps
    split at done
    · exact absurd done (by simp)
    · rename_i second cutEntries
      obtain ⟨same', map', isMap, cutAt⟩ := blkMapCutEntries_same isCur' ioPending dirty cutEntries
      refine ⟨{ second with part := { second.part with dirRead := false } }, before, after', map', ?_,
        isMap, cutAt, done⟩
      exact ⟨same.toSameBooks.trans ⟨same'.tmap, same'.tmaps, same'.maxTmaps, same'.used⟩,
        fun type => (same'.segment type).trans (same.segment type),
        same'.lookupSegments.trans same.lookupSegments⟩

/-! ## What is left of the tape -/

variable {origin : State} {tally : Prop} {image : Image} {index position : Nat}
  {counts : SegmentType → Nat}

/-- The segments of a tape hold its objects and maps, and the write cursors are in them unless they
are due. -/
structure Filed (s : State) (image : Image) (counts : SegmentType → Nat) : Prop
    extends Booked s counts where
  /-- The segments of the objects. -/
  objects : ∀ entry ∈ image.objects, entry.segmentId < counts .dataSeg
  /-- The segments of the maps. -/
  maps : ∀ map ∈ image.maps, map.segmentId < counts .metaSeg
  /-- The segments of the write cursors. -/
  cursors : s.part.lookupSegments = false → ∀ type, (s.part.segment type).segmentId < counts type

/-- Moving about leaves the recorded segments alone. -/
theorem Moved.sameBooks (moved : Moved s s') : SameBooks s s' := by
  obtain ⟨mlookups, cursor, lookupSegments, dirRead, isPart⟩ := moved.part
  refine ⟨by rw [moved.disk], by rw [isPart], fun type => ?_, by rw [isPart]⟩
  rw [isPart]
  cases type <;> rfl

/-- Moving about leaves the write cursors alone. -/
theorem Moved.segment (moved : Moved s s') (type : SegmentType) :
    s'.part.segment type = s.part.segment type := by
  obtain ⟨mlookups, cursor, lookupSegments, dirRead, isPart⟩ := moved.part
  rw [isPart]
  cases type <;> rfl

/-- A tape that is moved about stays filed. -/
theorem Filed.move (filed : Filed s image counts) (moved : Moved s s') : Filed s' image counts where
  toBooked := moved.sameBooks.booked filed.toBooked
  objects := filed.objects
  maps := filed.maps
  cursors := by
    intro valid type
    rw [moved.segment]
    rcases moved.lookupSegments with due | same
    · exact absurd (due.symm.trans valid) (by simp)
    · exact filed.cursors (same.symm.trans valid) type

/-- The segments of the last object in front of a position, the first segment if there is none, and
of the map the position is in. -/
def State.lastSegments (s : State) (image : Image) (position : Nat) : SegmentType → Nat
  | .metaSeg => (s.part.cursor.cur?.map BlkMap.segmentId).getD 0
  | .dataSeg => ((image.objects.take position).getLast?.map BlkEntry.segmentId).getD 0

/-- The last entry of a map that was cut off is the last object of the tape. -/
theorem CutAt.lastSegment_eq {map' : BlkMap} (cut : CutAt map map') (copy : CopyAt image index map)
    (isPosition : position = image.objectsBefore index + map.cEntry.getD map.entries.length)
    (some : map'.entries ≠ [] ∨ position = 0) :
    map'.lastSegment = s.lastSegments image position .dataSeg := by
  rw [BlkMap.lastSegment, State.lastSegments]
  rcases List.eq_nil_or_concat' map'.entries with none | ⟨front, last, isEntries⟩
  · have start : position = 0 := some.resolve_left (not_not_intro none)
    rw [none, start, List.take_zero]
  · have le := map.position_le copy.cEntry
    have objects := Image.objects_take_reverse copy.maps_getElem?
      (le.trans_eq map.image_entries_length.symm)
    have isCut : map.image.entries.take (map.cEntry.getD map.entries.length) =
        (front ++ [last]).map BlkEntry.loaded := by
      rw [← isEntries, cut.entries, List.map_take]
      rfl
    rw [← isPosition, isCut, List.map_append, List.map_singleton, List.reverse_append,
      List.reverse_singleton, List.singleton_append, List.cons_append] at objects
    have mem : last ∈ map.entries := by
      refine List.mem_of_mem_take (i := map.cEntry.getD map.entries.length) ?_
      rw [← cut.entries, isEntries]
      exact List.mem_append_right _ (List.mem_singleton_self last)
    obtain ⟨place, -, copied⟩ := copy
    have bits := (copied.entries last mem).bits
    have isLast : (image.objects.take position).getLast? = Option.some last.loaded := by
      rw [List.getLast?_eq_head?_reverse, objects, List.head?_cons]
    rw [isLast, isEntries, List.getLast?_concat, Option.map_some, Option.map_some, Option.getD_some,
      Option.getD_some, BlkEntry.segmentId, BlkEntry.segmentId, bits]

/-- The last object in front of a position is in a recorded segment. -/
theorem Filed.lastObject_lt (filed : Filed s image counts) (inFront : position < image.objects.length) :
    s.lastSegments image position .dataSeg < counts .dataSeg := by
  rw [State.lastSegments]
  cases last : (image.objects.take position).getLast? with
  | none =>
    rw [Option.map_none, Option.getD_none]
    exact Nat.lt_of_le_of_lt (Nat.zero_le _) (filed.objects _ (List.getElem_mem inFront))
  | some entry =>
    rw [Option.map_some, Option.getD_some]
    exact filed.objects _ (List.mem_of_mem_take (List.mem_of_getLast? last))

/-- The first map is empty if no object is left in it. -/
theorem CutAt.entries_or_start {map' : BlkMap} (cut : CutAt map map') (copy : CopyAt image index map)
    (formed : image.Formed)
    (isPosition : position = image.objectsBefore index + map.cEntry.getD map.entries.length)
    (first : map'.entries = [] → map'.lIdsStart = 0) : map'.entries ≠ [] ∨ position = 0 := by
  by_cases none : map'.entries = []
  · right
    have start := first none
    have length := congrArg List.length cut.entries
    rw [none, List.length_take, Nat.min_eq_left (map.position_le copy.cEntry), List.length_nil] at length
    rw [cut.lIdsStart, copy.lIdsStart formed] at start
    omega
  · exact Or.inl none

/-- A successful check in front of the end of data cuts the tape off. -/
theorem Clean.overwriteCheck_cuts (clean : Clean origin tally s image)
    (at_ : PositionAt image position s.part.cursor) (inFront : position < image.objects.length)
    (done : blkMapOverwriteCheck s = some (.ok, s')) :
    ∃ before map after index, s.part.cursor = .on before map after ∧ CopyAt image index map ∧
      position = image.objectsBefore index + map.cEntry.getD map.entries.length ∧
      blkMapWriteEod s = some (.ok, s') := by
  cases cursor : s.part.cursor with
  | null =>
    have empty := clean.cursor
    rw [cursor] at empty
    obtain rfl : image = [] := empty
    exact absurd inFront (Nat.not_lt_zero _)
  | dangling maps =>
    simp only [blkMapOverwriteCheck, cursor] at done
    exact absurd done (by simp)
  | loose maps cur =>
    rw [cursor] at at_
    exact at_.elim
  | on before map after =>
    rw [cursor] at at_
    obtain ⟨index, copy, isPosition⟩ := at_
    refine ⟨before, map, after, index, rfl, copy, isPosition, ?_⟩
    have isCur : s.part.cursor.cur? = some map := by
      rw [cursor]
      rfl
    obtain ⟨mlookup, found⟩ := clean.lookupOf_cur isCur
    have slot := clean.lookupOf copy found
    have nonempty : map.entries.isEmpty = false := by
      have filled := clean.filled _ (List.mem_of_getElem? copy.maps_getElem?)
      rw [List.isEmpty_eq_false_iff]
      exact fun none => filled (by simp [BlkMap.image, none])
    simp only [blkMapOverwriteCheck, cursor, clean.dirWrite, found, nonempty, Bool.false_and,
      Bool.false_eq_true, if_false] at done
    split at done
    · rename_i atEnd
      rw [Bool.and_eq_true, Bool.not_eq_true', Option.isNone_iff_eq_none] at atEnd
      have inside := (List.getElem?_eq_some_iff.1 copy.maps_getElem?).1
      have next := Image.objectsBefore_succ copy.maps_getElem?
      rw [atEnd.2, Option.getD_none, ← map.image_entries_length, ← next] at isPosition
      have more : index + 1 < image.maps.length := by
        by_contra last
        rw [show index + 1 = image.maps.length by omega, Image.objectsBefore_length] at isPosition
        omega
      rw [clean.hasNext slot more] at atEnd
      exact absurd atEnd.1 (by simp)
    · split at done
      · exact absurd done (by simp)
      · split at done
        · rename_i cut
          rw [cut]
          exact done
        · exact absurd done (by simp)
        · exact absurd done (by simp)

/-- An overwrite at a position gives back what is behind it exactly if the write cursors are due or
are already in the segments of the last remaining object and map. -/
theorem Filed.overwriteCheck_iff (filed : Filed s image counts) (clean : Clean origin tally s image)
    (at_ : PositionAt image position s.part.cursor)
    (inFront : position < image.objects.length)
    (done : blkMapOverwriteCheck s = some (.ok, s')) :
    Booked s' (fun type => s.lastSegments image position type + 1) ↔
      s.part.lookupSegments = true ∨
        ∀ type, (s.part.segment type).segmentId = s.lastSegments image position type := by
  obtain ⟨before, map, after, index, isCur, copy, isPosition, cuts⟩ :=
    clean.overwriteCheck_cuts at_ inFront done
  obtain ⟨place, isPlace, copied⟩ := copy
  obtain ⟨cut, before', after', map', same, isCur', cutAt, released⟩ :=
    blkMapWriteEod_ok isCur copied.ioPending copied.dirty cuts
  have copy : CopyAt image index map := ⟨place, isPlace, copied⟩
  obtain ⟨ready, looked, left⟩ := tapePartitionEodCurSegment_ok (same.booked filed.toBooked) released
  have isMap : map'.segmentId = s.lastSegments image position .metaSeg := by
    rw [cutAt.segmentId, State.lastSegments, isCur]
    rfl
  have mapHeld : s.lastSegments image position .metaSeg < counts .metaSeg := by
    rw [← isMap, cutAt.segmentId]
    exact filed.maps _ (List.mem_of_getElem? copy.maps_getElem?)
  have lastHeld := filed.lastObject_lt inFront
  have held (type : SegmentType) : cut.holds type (map'.lastSegments type) = true := by
    have below : map'.lastSegments type < counts type := by
      cases type with
      | metaSeg =>
        rw [BlkMap.lastSegments, isMap]
        exact mapHeld
      | dataSeg =>
        rw [BlkMap.lastSegments]
        by_cases none : map'.entries = []
        · rw [BlkMap.lastSegment, none]
          exact Nat.lt_of_le_of_lt (Nat.zero_le _) lastHeld
        · rw [cutAt.lastSegment_eq copy isPosition (Or.inl none)]
          exact lastHeld
    rw [same.holds, filed.holds type _ (below.trans_le (filed.counts_le type))]
    exact below
  obtain ⟨books, cursors⟩ := tapePartitionLookupSegments_ok isCur' cutAt.cEntry held looked
  have final := left books
  rw [same.lookupSegments] at cursors
  cases due : s.part.lookupSegments with
  | true =>
    rw [due, if_pos rfl] at cursors
    obtain ⟨ids, first⟩ := cursors
    refine iff_of_true ?_ (Or.inl rfl)
    have last := cutAt.lastSegment_eq (s := s) copy isPosition
      (cutAt.entries_or_start copy clean.formed isPosition first)
    convert final using 1
    funext type
    rw [ids type]
    cases type with
    | metaSeg =>
      rw [BlkMap.lastSegments, isMap]
      exact (Nat.min_eq_right mapHeld).symm
    | dataSeg =>
      rw [BlkMap.lastSegments, last]
      exact (Nat.min_eq_right lastHeld).symm
  | false =>
    rw [due, if_neg (by simp)] at cursors
    subst cursors
    have counted : (fun type => min (counts type) ((ready.part.segment type).segmentId + 1)) =
        fun type => (s.part.segment type).segmentId + 1 := by
      funext type
      rw [same.segment]
      exact Nat.min_eq_right (filed.cursors due type)
    rw [counted] at final
    simp only [Bool.false_eq_true, false_or]
    constructor
    · intro booked type
      exact Nat.succ.inj (congrFun (final.counts_eq booked) type)
    · intro ids
      simpa only [ids] using final

/-- Whatever moves were made before, an overwrite gives back what is behind the last remaining object
and map, and the space in use is that of the segments left, exactly if the write cursors are due or are
already in the segments of that object and map. -/
theorem blkMapOverwriteCheck_reclaims_iff {moves : List (Env × MoveCommand)} {s'' : State}
    (clean : Clean s tally s image) (filed : Filed s image counts) (run : Run MoveStep s moves s')
    (at_ : PositionAt image position s'.part.cursor) (inFront : position < image.objects.length)
    (done : blkMapOverwriteCheck s' = some (.ok, s'')) :
    Booked s'' (fun type => s'.lastSegments image position type + 1) ↔
      s'.part.lookupSegments = true ∨
        ∀ type, (s'.part.segment type).segmentId = s'.lastSegments image position type := by
  have reached := clean.run run
  exact (filed.move reached.moved).overwriteCheck_iff reached at_ inFront done

/-- Nine blocks of eight megabytes, which take two segments. -/
def blocksTape : State :=
  Outcome.state (tapePartitionWrite (syncEnv 4) false
    (List.replicate 9 ⟨8 * 1024 * 1024, 0, 0⟩) smallTape) smallTape

/-- The tape with the nine blocks, rewound. -/
def rewoundBlocks : State := MoveCommand.play (syncEnv 4) [.rewind] blocksTape

/-- It is well formed. -/
theorem rewoundBlocks_clean : Clean rewoundBlocks True rewoundBlocks rewoundBlocks.image :=
  State.clean_of_isIndexed (by decide +kernel)

/-- Two segments for data and one for index pages. -/
def blocksCounts : SegmentType → Nat
  | .metaSeg => 1
  | .dataSeg => 2

/-- These are the segments of the tape. -/
theorem rewoundBlocks_filed : Filed rewoundBlocks rewoundBlocks.image blocksCounts where
  pages type := by cases type <;> decide +kernel
  counts_le type := by cases type <;> decide +kernel
  holds type := by cases type <;> decide +kernel
  used := by decide +kernel
  objects := by decide +kernel
  maps := by decide +kernel
  cursors := by
    intro valid
    exact absurd valid (by decide +kernel)

/-- The tape with the nine blocks in front of its fourth block. -/
def locatedBlocks : State := MoveCommand.play (syncEnv 4) [.locate 3] rewoundBlocks

/-- The position is in front of the fourth block. -/
theorem locatedBlocks_positionAt : PositionAt rewoundBlocks.image 3 locatedBlocks.part.cursor :=
  (State.clean_at (by decide +kernel) (by decide +kernel) (by decide +kernel)).2

/-- Nine blocks are written and the tape is rewound. Overwriting the fourth block after a LOCATE to it
then releases the second data segment, since REWIND declared the write cursors due. -/
theorem blkMapOverwriteCheck_reclaims_blocks :
    locatedBlocks.holds .dataSeg 1 = true ∧
      ∃ s, blkMapOverwriteCheck locatedBlocks = some (.ok, s) ∧ Booked s fun _ => 1 := by
  have done := Outcome.eq_some (show (blkMapOverwriteCheck locatedBlocks).map Prod.fst = some .ok by
    decide +kernel) locatedBlocks
  refine ⟨by decide +kernel, _, done, ?_⟩
  have run : Run MoveStep rewoundBlocks [(syncEnv 4, .locate 3)] locatedBlocks :=
    MoveCommand.run_play (show MoveCommand.ends _ [.locate 3] _ = true by decide +kernel)
  have booked := (blkMapOverwriteCheck_reclaims_iff rewoundBlocks_clean rewoundBlocks_filed run
    locatedBlocks_positionAt (by decide +kernel) done).2 (Or.inl (by decide +kernel))
  have counts : (fun type => locatedBlocks.lastSegments rewoundBlocks.image 3 type + 1) =
      fun _ => 1 := by
    funext type
    cases type <;> decide +kernel
  rwa [counts] at booked

/-- LOCATE to the beginning leaves the write cursors where they are. Overwriting the first block then
cuts off all blocks and releases none of their segments. -/
theorem blkMapOverwriteCheck_keeps_segment :
    ∃ s s', tapePartitionLocate (syncEnv 4) (.block 0) blocksTape = some (.ok, s) ∧
      blkMapOverwriteCheck s = some (.ok, s') ∧
      (s'.part.cursor.cur?.map fun map => (map.lIdsStart, map.entries.length)) = some (0, 0) ∧
      s'.holds .dataSeg 1 = true ∧ s'.part.used = 3 * bintUnitSize := by
  refine ⟨Outcome.state (tapePartitionLocate (syncEnv 4) (.block 0) blocksTape) blocksTape,
    Outcome.state (blkMapOverwriteCheck (Outcome.state (tapePartitionLocate (syncEnv 4) (.block 0)
      blocksTape) blocksTape)) blocksTape,
    Outcome.eq_some (by decide +kernel) blocksTape, Outcome.eq_some (by decide +kernel) blocksTape,
    by decide +kernel, by decide +kernel, by decide +kernel⟩

end VirtualTape
