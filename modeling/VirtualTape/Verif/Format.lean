import VirtualTape.Spec.Recorded
import VirtualTape.Verif.Readable
import VirtualTape.Verif.Segments

/-!
# Formatting

FORMAT MEDIUM releases the segments of a tape and forgets what is in memory. Releasing never writes
a sector and passes over the first meta segment of a v2 tape, so that what loading the tape finds
afterwards depends on whether that segment was recorded and on what its first page holds.
-/

namespace VirtualTape

variable {s s' s'' : State} {type kind : SegmentType} {segmentId : Nat}

/-! ## What releasing segments leaves alone -/

/-- Releasing segments of a partition: no sector is written, the disks stay, and so do the segment
maps of other partitions and the segment that is passed over. -/
structure Releases (s s' : State) : Prop where
  /-- No sector is written. -/
  sectors : s'.disk.sector = s.disk.sector
  /-- The disks stay. -/
  bints : s'.group.bints = s.group.bints
  /-- Of the partition only the space accounting changes. -/
  part : ∃ used, s'.part = { s.part with used := used }
  /-- The segment maps of other partitions stay. -/
  others : ∀ tmaps, tmaps ≠ s.part.tmaps → s'.disk.tmap tmaps = s.disk.tmap tmaps
  /-- Segment map pages can be read as before. -/
  pages : ∀ tmaps type tmapId,
    (s'.disk.tmap tmaps type tmapId).isSome = (s.disk.tmap tmaps type tmapId).isSome
  /-- The segment that shares the unit of the segment maps is passed over. -/
  skipped : ∀ type segmentId, tmapSkipSegment s.part segmentId type = true →
    s'.entry type segmentId = s.entry type segmentId

namespace Releases

/-- Nothing has to be released. -/
theorem refl (s : State) : Releases s s :=
  ⟨rfl, rfl, ⟨s.part.used, rfl⟩, fun _ _ => rfl, fun _ _ _ => rfl, fun _ _ _ => rfl⟩

/-- Releasing twice is releasing. -/
theorem trans (first : Releases s s') (second : Releases s' s'') : Releases s s'' := by
  obtain ⟨used, part⟩ := first.part
  obtain ⟨used', part'⟩ := second.part
  have tmaps : s'.part.tmaps = s.part.tmaps := by rw [part]
  refine ⟨second.sectors.trans first.sectors, second.bints.trans first.bints, ⟨used', ?_⟩, ?_, ?_, ?_⟩
  · rw [part', part]
  · intro ref ne
    rw [second.others ref (tmaps ▸ ne), first.others ref ne]
  · intro ref type tmapId
    rw [second.pages, first.pages]
  · intro type segmentId skip
    have skip' : tmapSkipSegment s'.part segmentId type = true := by
      rw [part]
      exact skip
    rw [second.skipped type segmentId skip', first.skipped type segmentId skip]

/-- The space accounting has no part in it. -/
theorem setUsed (step : Releases s s') (used : Nat) :
    Releases s { s' with part := { s'.part with used := used } } := by
  obtain ⟨used', part⟩ := step.part
  refine ⟨step.sectors, step.bints, ⟨used, ?_⟩, step.others, step.pages, step.skipped⟩
  rw [part]

end Releases

/-- Releasing one segment. -/
theorem releases_one (whole : tmapSkipSegment s.part segmentId type = false) (bid block : Nat) :
    Releases s { s with
      group := bdevReleaseBlock s.group bid block
      disk := s.disk.setTmapEntry s.part.tmaps type segmentId 0 } := by
  refine ⟨rfl, bdevReleaseBlock_bints _ _ _, ⟨s.part.used, rfl⟩, ?_, ?_, ?_⟩
  · intro ref ne
    funext kind tmapId
    exact if_neg fun same => ne same.1
  · intro ref kind tmapId
    exact s.disk.isSome_tmap_setTmapEntry ref kind tmapId
  · intro kind other skip
    refine Disk.tmapEntry_setTmapEntry_of_ne fun same => ?_
    obtain ⟨-, rfl, rfl⟩ := same
    rw [whole] at skip
    exact Bool.false_ne_true skip

/-- A relation that one released segment, the space accounting and going on keep holds along every
release of segments. -/
structure ReleaseRule (keeps : State → State → Prop) : Prop where
  /-- Nothing has to be released. -/
  refl : ∀ s, keeps s s
  /-- Releasing goes on. -/
  trans : ∀ {s s' s''}, keeps s s' → keeps s' s'' → keeps s s''
  /-- One segment is released. -/
  one : ∀ {s type segmentId}, tmapSkipSegment s.part segmentId type = false → ∀ bid block,
    keeps s { s with
      group := bdevReleaseBlock s.group bid block
      disk := s.disk.setTmapEntry s.part.tmaps type segmentId 0 }
  /-- The space accounting has no part in it. -/
  setUsed : ∀ {s s'}, keeps s s' → ∀ used, keeps s { s' with part := { s'.part with used := used } }

namespace ReleaseRule

variable {keeps : State → State → Prop} (rule : ReleaseRule keeps)
include rule

/-- Releasing the segments of a page. -/
theorem tmapEodFrom (type : SegmentType) (tmapId fuel entryId : Nat) (s : State) :
    keeps s (tmapEodFrom type tmapId fuel entryId s).2 := by
  induction fuel generalizing entryId s with
  | zero => exact rule.refl s
  | succ fuel ih =>
    simp only [VirtualTape.tmapEodFrom]
    split
    · exact rule.refl s
    · exact rule.refl s
    · rename_i block nonzero recorded
      cases skip : tmapSkipSegment s.part (tmapId * tsegmentMapMaxSegments + entryId) type with
      | true =>
        rw [if_pos rfl]
        exact ih (entryId + 1) s
      | false =>
        rw [if_neg Bool.false_ne_true]
        exact rule.trans (rule.one skip _ _) (ih (entryId + 1) _)

/-- Releasing the segments of a page, with the space accounting. -/
theorem tmapEodSegments (s : State) (type : SegmentType) (tmapId entryId : Nat) :
    keeps s (tmapEodSegments s type tmapId entryId).2 := by
  have step := rule.tmapEodFrom type tmapId (tsegmentMapMaxSegments - entryId) entryId s
  simp only [VirtualTape.tmapEodSegments]
  generalize VirtualTape.tmapEodFrom type tmapId (tsegmentMapMaxSegments - entryId) entryId s =
    released at step
  exact rule.setUsed step _

/-- Releasing the segments of successive pages. -/
theorem eodSegmentsFrom (type : SegmentType) (fuel tmapId entryId : Nat) (s : State) :
    keeps s (eodSegmentsFrom type fuel tmapId entryId s).2 := by
  induction fuel generalizing tmapId entryId s with
  | zero => exact rule.refl s
  | succ fuel ih =>
    rw [eodSegmentsFrom_succ]
    cases s.disk.tmap s.part.tmaps type tmapId with
    | none => exact rule.refl s
    | some page =>
      have step := rule.tmapEodSegments s type tmapId entryId
      generalize VirtualTape.tmapEodSegments s type tmapId entryId = released at step
      obtain ⟨done, after⟩ := released
      simp only
      split
      · exact step
      · exact rule.trans step (ih (tmapId + 1) 0 after)

/-- Releasing all segments of a partition. -/
theorem tapePartitionFreeAlloc (s : State) : keeps s (tapePartitionFreeAlloc s).2 := by
  have first := rule.eodSegmentsFrom .metaSeg (s.part.maxTmaps .metaSeg) 0 0 s
  simp only [VirtualTape.tapePartitionFreeAlloc, eodSegments, Nat.zero_div, Nat.zero_mod, Nat.sub_zero]
  generalize VirtualTape.eodSegmentsFrom .metaSeg (s.part.maxTmaps .metaSeg) 0 0 s = released at first
  exact rule.trans first (rule.eodSegmentsFrom _ _ _ _ _)

end ReleaseRule

/-- Releasing all segments of a partition leaves the rest alone. -/
theorem tapePartitionFreeAlloc_releases (s : State) :
    Releases s (tapePartitionFreeAlloc s).2 :=
  ReleaseRule.tapePartitionFreeAlloc ⟨Releases.refl, Releases.trans, releases_one, Releases.setUsed⟩ s

/-- Deleting partitions leaves the sectors, the disks and the segment maps of other partitions
alone. -/
theorem tapeDeletePartitions_frame {parts : List Partition} {group group' : Bdevgroup}
    {disk disk' : Disk} {tmaps : TmapsRef} (apart : ∀ part ∈ parts, part.tmaps ≠ tmaps)
    (done : tapeDeletePartitions parts group disk = (true, group', disk')) :
    disk'.sector = disk.sector ∧ group'.bints = group.bints ∧ disk'.tmap tmaps = disk.tmap tmaps := by
  induction parts generalizing group disk with
  | nil =>
    simp only [tapeDeletePartitions, Prod.mk.injEq] at done
    obtain ⟨-, rfl, rfl⟩ := done
    exact ⟨rfl, rfl, rfl⟩
  | cons part rest ih =>
    have step := tapePartitionFreeAlloc_releases ⟨group, disk, part⟩
    rw [tapeDeletePartitions] at done
    generalize tapePartitionFreeAlloc ⟨group, disk, part⟩ = released at step done
    obtain ⟨ok, after⟩ := released
    cases ok with
    | false => simp at done
    | true =>
      simp only at done
      obtain ⟨sectors, bints, maps⟩ :=
        ih (fun other mem => apart other (List.mem_cons_of_mem _ mem)) done
      refine ⟨sectors.trans step.sectors, ?_, ?_⟩
      · rw [bints, bdevReleaseBlock_bints, step.bints]
      · rw [maps, step.others tmaps (apart part List.mem_cons_self).symm]

/-! ## What loading finds -/

/-- The first meta segment is not recorded, or its first page is all zero. -/
def startsBlank (group : Bdevgroup) (disk : Disk) (tmaps : TmapsRef) : Bool :=
  match disk.tmapEntry tmaps .metaSeg 0 with
  | none => false
  | some 0 => true
  | some block =>
    match bdevFind group (blockBid block) with
    | none => false
    | some bint =>
      match disk.readPage (blockBid block) (blockBlocknr block) bint.metaBlocks with
      | .zero => true
      | _ => false

/-- Nothing is in memory about a partition. -/
def Partition.isBlank (part : Partition) : Prop := part.mlookups = [] ∧ part.cursor = .null

/-- Looking for the first lookup finds nothing exactly if the first page is all zero. -/
theorem tapePartitionLoadFirst_blank {bint : Bdevint} (opened : s.part.msegment.bint = some bint)
    (blank : s.part.isBlank) :
    (∃ s', tapePartitionLoadFirst s = some s' ∧ s'.part.isBlank) ↔
      s.disk.readPage bint.bid s.part.msegment.bStart bint.metaBlocks = .zero := by
  rw [tapePartitionLoadFirst, opened]
  simp only
  split
  · rename_i zero
    exact ⟨fun _ => zero, fun _ => ⟨s, rfl, blank⟩⟩
  · rename_i nonzero
    refine ⟨fun ⟨s', found, empty⟩ => ?_, fun zero => absurd zero nonzero⟩
    split at found
    · exact absurd found (by simp)
    · split at found
      · exact absurd found (by simp)
      · rw [Option.map_eq_some_iff] at found
        obtain ⟨map, -, rfl⟩ := found
        exact absurd empty.1 (by simp)

/-- Loading finds nothing exactly if the tape starts blank. -/
theorem tapePartitionLoad_blank {group : Bdevgroup} {disk : Disk} {info : PartitionInfo}
    (readable : TmapsReadable disk info) :
    (∃ s, tapePartitionLoad group disk info = some s ∧ s.part.isBlank) ↔
      startsBlank group disk info.tmaps = true := by
  obtain ⟨used, load⟩ : ∃ used, tapePartitionLoad group disk info = _ :=
    tapePartitionLoad_eq readable
  have entry : (loadStart group disk info used).disk.tmapEntry
      (loadStart group disk info used).part.tmaps .metaSeg 0 = disk.tmapEntry info.tmaps .metaSeg 0 :=
    rfl
  rw [load, tapePartitionLookupSegment, entry, startsBlank]
  generalize disk.tmapEntry info.tmaps .metaSeg 0 = recorded
  match recorded with
  | none => simp
  | some 0 =>
    refine ⟨fun _ => rfl, fun _ => ⟨loadStart group disk info used, rfl, rfl, rfl⟩⟩
  | some (pred + 1) =>
    have find : bdevFind (loadStart group disk info used).group (blockBid (pred + 1)) =
      bdevFind group (blockBid (pred + 1)) := rfl
    simp only [find]
    cases found : bdevFind group (blockBid (pred + 1)) with
    | none => simp
    | some bint =>
      simp only
      rw [tapePartitionLoadFirst_blank rfl ⟨rfl, rfl⟩, (bdevFind_some found).2.1]
      show disk.readPage _ (blockBlocknr (pred + 1)) _ = .zero ↔ _
      generalize disk.readPage _ (blockBlocknr (pred + 1)) _ = view
      cases view <;> simp

/-! ## Formatting -/

/-- What a format leaves behind: nothing in memory, the sectors and the disks as they were, the
segment maps as readable as they were, and the first meta segment of a v2 tape where it was. -/
theorem tapeFormatDefault_frame {setSize : Nat} {tape tape' : TapeState}
    (v2 : tape.first.v2 = true) (apart : ∀ part ∈ tape.others, part.tmaps ≠ tape.first.tmaps)
    (done : tapeFormatDefault setSize tape = (true, tape')) :
    tape'.first.isBlank ∧ tape'.first.info = { tape.first.info with size := setSize } ∧
      (∀ type tmapId, (tape'.disk.tmap tape.first.tmaps type tmapId).isSome =
        (tape.disk.tmap tape.first.tmaps type tmapId).isSome) ∧
      startsBlank tape'.group tape'.disk tape.first.tmaps =
        startsBlank tape.group tape.disk tape.first.tmaps := by
  rw [tapeFormatDefault] at done
  split at done
  · simp at done
  · rename_i group disk deleted
    obtain ⟨sectors, bints, maps⟩ := tapeDeletePartitions_frame apart deleted
    have step := tapePartitionFreeAlloc_releases ⟨group, disk, tape.first⟩
    generalize tapePartitionFreeAlloc ⟨group, disk, tape.first⟩ = released at step done
    obtain ⟨ok, after⟩ := released
    cases ok with
    | false => simp at done
    | true =>
      simp only [Prod.mk.injEq, true_and] at done
      obtain ⟨used, part⟩ := step.part
      simp only at part step
      subst done
      have entry : after.disk.tmapEntry tape.first.tmaps .metaSeg 0 =
          tape.disk.tmapEntry tape.first.tmaps .metaSeg 0 := by
        have kept := step.skipped .metaSeg 0 (by simp [tmapSkipSegment, v2])
        simp only [State.entry, part] at kept
        rw [kept, Disk.tmapEntry, Disk.tmapEntry, maps]
      have find : ∀ bid, bdevFind after.group bid = bdevFind tape.group bid := fun bid =>
        bdevFind_congr (step.bints.trans bints) bid
      have read : ∀ bid start blocks, after.disk.readPage bid start blocks =
          tape.disk.readPage bid start blocks := fun bid start blocks => by
        simp only [Disk.readPage, step.sectors, sectors]
      refine ⟨⟨rfl, rfl⟩, ?_, fun type tmapId => ?_, ?_⟩
      · simp only [part]
        rfl
      · rw [step.pages, maps]
      · simp only [startsBlank, entry, find, read]

/-- A tape of one partition. -/
def State.tape (s : State) : TapeState := ⟨s.group, s.disk, s.part, []⟩

/-- Formatting a v2 tape leaves a tape that is empty in memory, and empty for whoever loads it
exactly if it started blank before. -/
theorem tapeFormatDefault_empties_iff {setSize : Nat} {tape tape' : TapeState}
    (v2 : tape.first.v2 = true) (apart : ∀ part ∈ tape.others, part.tmaps ≠ tape.first.tmaps)
    (readable : TmapsReadable tape.disk { tape.first.info with size := setSize })
    (done : tapeFormatDefault setSize tape = (true, tape')) :
    (tape'.first.isBlank ∧ ∃ s,
        tapePartitionLoad tape'.group tape'.disk tape'.first.info = some s ∧ s.part.isBlank) ↔
      startsBlank tape.group tape.disk tape.first.tmaps = true := by
  obtain ⟨blank, info, pages, starts⟩ := tapeFormatDefault_frame v2 apart done
  have readable' : TmapsReadable tape'.disk tape'.first.info := by
    rw [info]
    exact ⟨fun tmapId less => (pages _ _).trans (readable.metaPages tmapId less),
      fun tmapId less => (pages _ _).trans (readable.dataPages tmapId less)⟩
  rw [tapePartitionLoad_blank readable', info, ← starts]
  exact and_iff_right blank

/-- A new tape is formatted: it stays empty. -/
theorem tapeFormatDefault_empties_new :
    startsBlank smallTape.group smallTape.disk smallTape.part.tmaps = true ∧
      ∃ s, tapePartitionLoad (tapeFormatDefault smallSize smallTape.tape).2.group
        (tapeFormatDefault smallSize smallTape.tape).2.disk
        (tapeFormatDefault smallSize smallTape.tape).2.first.info = some s ∧ s.part.isBlank := by
  have starts : startsBlank smallTape.group smallTape.disk smallTape.part.tmaps = true := by
    decide +kernel
  have readable : TmapsReadable smallTape.tape.disk
      { smallTape.tape.first.info with size := smallSize } := by
    constructor
    · intro tmapId less
      exact congrArg Option.isSome (if_pos ⟨rfl, less⟩)
    · intro tmapId less
      exact congrArg Option.isSome (if_pos ⟨rfl, less⟩)
  have done : tapeFormatDefault smallSize smallTape.tape =
      (true, (tapeFormatDefault smallSize smallTape.tape).2) :=
    Prod.ext (by decide +kernel) rfl
  exact ⟨starts, ((tapeFormatDefault_empties_iff rfl (by simp [State.tape]) readable done).2
    starts).2⟩

/-- A tape to which one block was written, and which was then formatted. -/
def smallTapeWritten : State :=
  Outcome.state (tapePartitionWrite (syncEnv 4) false [⟨512, 0, 1⟩] smallTape) smallTape

/-- After a block was written and the tape was formatted, loading it does not find an empty tape: it
finds the lookup that the format left in place. -/
theorem tapeFormatDefault_keeps_lookup :
    tapePartitionWrite (syncEnv 4) false [⟨512, 0, 1⟩] smallTape = some (.ok, smallTapeWritten) ∧
      (tapeFormatDefault smallSize smallTapeWritten.tape).1 = true ∧
      ((tapePartitionLoad (tapeFormatDefault smallSize smallTapeWritten.tape).2.group
        (tapeFormatDefault smallSize smallTapeWritten.tape).2.disk
        (tapeFormatDefault smallSize smallTapeWritten.tape).2.first.info).map
          fun s => s.part.mlookups.length) = some 1 :=
  ⟨Outcome.eq_some (by decide +kernel) smallTape, by decide +kernel, by decide +kernel⟩

end VirtualTape
