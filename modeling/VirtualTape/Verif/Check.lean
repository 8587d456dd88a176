import VirtualTape.Core.Check
import VirtualTape.Core.Tape
import VirtualTape.Verif.FreeSpace

/-!
# What a check of a disk does

Going through the tapes marks the units that their segment maps name, on top of what an earlier check
has left, and changes nothing else. Correcting the index pages makes every bit that the disk has a
byte for agree with the marks, and takes the difference into the free bytes. So the bits are those of
the recorded segments, and a second check has nothing to do, as long as every recorded segment is on
a segment map page that is looked at and nothing was left behind by an earlier check.
-/

namespace VirtualTape

variable {b b' b'' : Bint} {faults : CheckFaults} {disk : Disk} {part : Partition}
  {type : SegmentType} {dev : BintDev} {indexId block bid unit i j : Nat} {α : Type}

/-! ## Marking units -/

/-- The mark of a unit in the second bitmap. -/
def Bint.shadow (b : Bint) (unit : Nat) : Bool :=
  ((b.checkList.find? fun index => index.indexId == unit / unitsPerIndex).map
    fun index => index.bmap.bit (unit % unitsPerIndex)).getD false

/-- Units were marked and nothing else changed. -/
structure Bint.Marked (b b' : Bint) (marks : Nat → Prop) : Prop where
  /-- Only the second bitmap changed. -/
  rest : b' = { b with checkList := b'.checkList }
  /-- The marks. -/
  shadow : ∀ unit, b'.shadow unit = true ↔ b.shadow unit = true ∨ marks unit

namespace Bint.Marked

variable {marks marks' : Nat → Prop}

/-- The disk is the same. -/
theorem dev_eq (marked : Marked b b' marks) : b'.dev = b.dev := by
  rw [marked.rest]

/-- No unit was marked. -/
theorem refl (none : ∀ unit, ¬ marks unit) : Marked b b marks :=
  ⟨rfl, fun unit => by simp [none unit]⟩

/-- The marks in other words. -/
theorem congr (marked : Marked b b' marks) (same : ∀ unit, marks unit ↔ marks' unit) :
    Marked b b' marks' :=
  ⟨marked.rest, fun unit => by rw [marked.shadow, same]⟩

/-- Units were marked twice. -/
theorem trans (first : Marked b b' marks) (second : Marked b' b'' marks') :
    Marked b b'' fun unit => marks unit ∨ marks' unit := by
  refine ⟨?_, fun unit => ?_⟩
  · rw [second.rest, first.rest]
  · rw [second.shadow, first.shadow, or_assoc]

end Bint.Marked

/-- A page of the second bitmap that was made or found. -/
theorem bintGetCheckIndex_spec {index : Bintindex}
    (got : bintGetCheckIndex faults b indexId true = some (index, b')) :
    b' = { b with checkList := b'.checkList } ∧
      (b'.checkList.find? fun other => other.indexId == indexId) = some index ∧
      ∀ unit, b'.shadow unit = b.shadow unit := by
  unfold bintGetCheckIndex at got
  split at got
  · rename_i other found
    simp only [Option.some.injEq, Prod.mk.injEq] at got
    obtain ⟨rfl, rfl⟩ := got
    exact ⟨rfl, found, fun _ => rfl⟩
  · rename_i missing
    simp only [Bool.not_true, Bool.false_eq_true, if_false] at got
    split at got
    · exact absurd got (by simp)
    · simp only [Option.some.injEq, Prod.mk.injEq] at got
      obtain ⟨rfl, rfl⟩ := got
      refine ⟨rfl, ?_, fun unit => ?_⟩
      · rw [List.find?_append, missing]
        simp
      · simp only [Bint.shadow, List.find?_append]
        cases old : b.checkList.find? fun index => index.indexId == unit / unitsPerIndex with
        | some index => simp
        | none =>
          by_cases here : indexId = unit / unitsPerIndex
          · simp [here]
          · simp [here]

/-- The marks after the bits of a page of the second bitmap were changed. -/
theorem Bint.shadow_putCheckIndex {index : Bintindex} {bmap : Bytes}
    (found : (b.checkList.find? fun other => other.indexId == indexId) = some index) :
    (b.putCheckIndex { index with bmap := bmap }).shadow unit =
      if unit / unitsPerIndex = indexId then bmap.bit (unit % unitsPerIndex)
      else b.shadow unit := by
  have number : index.indexId = indexId := by simpa using List.find?_some found
  have keeps (page : Nat) : ((fun other : Bintindex => other.indexId == page) ∘
      fun other => if other.indexId = index.indexId then { index with bmap := bmap } else other) =
      fun other => other.indexId == page := by
    funext other
    rw [Function.comp_apply]
    split
    · rename_i same
      rw [same]
    · rfl
  simp only [Bint.shadow, Bint.putCheckIndex, List.find?_map, keeps]
  by_cases here : unit / unitsPerIndex = indexId
  · rw [if_pos here, here, found]
    simp
  · rw [if_neg here]
    cases other : b.checkList.find? fun other => other.indexId == unit / unitsPerIndex with
    | none => rfl
    | some old =>
      have differs : old.indexId ≠ index.indexId := by
        have isPage : old.indexId = unit / unitsPerIndex := by simpa using List.find?_some other
        rw [isPage, number]
        exact here
      simp [differs]

/-- Marking the unit of a sector. -/
theorem checkBlock_marked (done : checkBlock faults block bid b = (true, b')) :
    Bint.Marked b b' fun unit => bid = b.dev.bid ∧ b.dev.unitOf block = unit := by
  unfold checkBlock at done
  split at done
  · rename_i other
    simp only [Prod.mk.injEq, true_and] at done
    subst done
    exact .refl fun unit marked => other marked.1.symm
  · rename_i same
    rw [not_not] at same
    have places : calcIndexId b.dev block = (b.dev.unitOf block / unitsPerIndex,
      b.dev.unitOf block % unitsPerIndex / 8, b.dev.unitOf block % unitsPerIndex % 8) := rfl
    simp only [places] at done
    split at done
    · exact absurd done (by simp)
    · rename_i index loaded got
      simp only [Prod.mk.injEq, true_and] at done
      subst done
      obtain ⟨rest, found, shadow⟩ := bintGetCheckIndex_spec got
      refine ⟨by rw [rest]; rfl, fun unit => ?_⟩
      rw [Bint.shadow_putCheckIndex found,
        Bytes.bit_set _ _ _ _ (Nat.mod_lt _ (by decide)), Nat.div_add_mod', same]
      by_cases here : unit / unitsPerIndex = b.dev.unitOf block / unitsPerIndex
      · have old : index.bmap.bit (unit % unitsPerIndex) = b.shadow unit := by
          rw [← shadow, Bint.shadow, here, found]
          rfl
        have unit_eq : unit % unitsPerIndex = b.dev.unitOf block % unitsPerIndex ↔
            b.dev.unitOf block = unit := by
          constructor
          · intro rests
            rw [← Nat.div_add_mod unit unitsPerIndex, here, rests, Nat.div_add_mod]
          · intro isUnit
            rw [isUnit]
        rw [if_pos here, old]
        simp only [unit_eq, true_and]
        by_cases isUnit : b.dev.unitOf block = unit
        · simp [isUnit]
        · simp [isUnit]
      · rw [if_neg here, shadow]
        have other : b.dev.unitOf block ≠ unit := by
          intro isUnit
          rw [isUnit] at here
          exact here rfl
        simp [other]

/-- A loop marks what its rounds mark. -/
theorem checkEach_marked {check : α → Bint → Bool × Bint} (marks : BintDev → α → Nat → Prop)
    {items : List α} (each : ∀ item ∈ items, ∀ {b b'}, check item b = (true, b') →
      Bint.Marked b b' (marks b.dev item)) (done : checkEach check items b = (true, b')) :
    Bint.Marked b b' fun unit => ∃ item ∈ items, marks b.dev item unit := by
  induction items generalizing b with
  | nil =>
    simp only [checkEach, Prod.mk.injEq, true_and] at done
    subst done
    exact .refl (by simp)
  | cons item rest ih =>
    rw [checkEach] at done
    split at done
    · exact absurd done (by simp)
    · rename_i first isFirst
      have head := each item List.mem_cons_self isFirst
      have tail := ih (fun item mem => each item (List.mem_cons_of_mem _ mem)) done
      rw [head.dev_eq] at tail
      exact (head.trans tail).congr fun unit => by simp

/-! ## The units of the tapes -/

/-- The recorded address of a segment, zero for none. -/
def Partition.recorded (part : Partition) (disk : Disk) (type : SegmentType) (segmentId : Nat) : Nat :=
  (disk.tmapEntry part.tmaps type segmentId).getD 0

/-- A segment of a partition is the unit of a disk. The first meta segment of a v2 tape is none. -/
def Partition.HasUnit (part : Partition) (disk : Disk) (dev : BintDev) (type : SegmentType)
    (segmentId unit : Nat) : Prop :=
  part.recorded disk type segmentId ≠ 0 ∧ tmapSkipSegment part segmentId type = false ∧
    blockBid (part.recorded disk type segmentId) = dev.bid ∧
    dev.unitOf (blockBlocknr (part.recorded disk type segmentId)) = unit

/-- The segments of a type that are recorded are the first ones. -/
def Partition.IsPrefix (part : Partition) (disk : Disk) (type : SegmentType) : Prop :=
  ∃ count, ∀ segmentId, part.recorded disk type segmentId ≠ 0 ↔ segmentId < count

/-- A slot of a segment map page. -/
theorem Partition.recorded_slot {tmapId entryId : Nat} {page : Nat → Nat}
    (isPage : disk.tmap part.tmaps type tmapId = some page)
    (inside : entryId < tsegmentMapMaxSegments) :
    part.recorded disk type (tmapId * tsegmentMapMaxSegments + entryId) = page entryId := by
  have size : tsegmentMapMaxSegments = 511 := rfl
  have number : (tmapId * tsegmentMapMaxSegments + entryId) / tsegmentMapMaxSegments = tmapId := by
    rw [size] at inside ⊢
    omega
  have slot : (tmapId * tsegmentMapMaxSegments + entryId) % tsegmentMapMaxSegments = entryId := by
    rw [size] at inside ⊢
    omega
  rw [recorded, Disk.tmapEntry, number, slot, isPage]
  rfl

/-- Going through a segment map page: its units are marked up to the first empty slot. -/
theorem tmapCheckBlock_marked {tmapId fuel entryId : Nat} {page : Nat → Nat} {full : Bool}
    (isPage : disk.tmap part.tmaps type tmapId = some page)
    (inside : entryId + fuel ≤ tsegmentMapMaxSegments) (isPrefix : part.IsPrefix disk type)
    (done : tmapCheckBlock faults part type tmapId page fuel entryId b = (some full, b')) :
    (Bint.Marked b b' fun unit => ∃ slot, entryId ≤ slot ∧ slot < entryId + fuel ∧
      part.HasUnit disk b.dev type (tmapId * tsegmentMapMaxSegments + slot) unit) ∧
      (full = false → ∃ slot < entryId + fuel,
        part.recorded disk type (tmapId * tsegmentMapMaxSegments + slot) = 0) := by
  induction fuel generalizing b entryId with
  | zero =>
    simp only [tmapCheckBlock, Prod.mk.injEq, Option.some.injEq] at done
    obtain ⟨rfl, rfl⟩ := done
    exact ⟨.refl fun unit marked => by omega, by simp⟩
  | succ fuel ih =>
    have slot : part.recorded disk type (tmapId * tsegmentMapMaxSegments + entryId) = page entryId :=
      Partition.recorded_slot isPage (by omega)
    rw [tmapCheckBlock] at done
    split at done
    · rename_i zero
      simp only [Prod.mk.injEq, Option.some.injEq] at done
      obtain ⟨rfl, rfl⟩ := done
      refine ⟨.refl ?_, fun _ => ⟨entryId, by omega, slot.trans zero⟩⟩
      rintro unit ⟨other, behind, -, recorded, -⟩
      obtain ⟨count, recorded_iff⟩ := isPrefix
      have before := mt (recorded_iff _).2 (not_not.2 (slot.trans zero))
      have after := (recorded_iff _).1 recorded
      omega
    · rename_i nonzero
      have head : ∃ b₁, Bint.Marked b b₁ (part.HasUnit disk b.dev type
            (tmapId * tsegmentMapMaxSegments + entryId)) ∧
          tmapCheckBlock faults part type tmapId page fuel (entryId + 1) b₁ = (some full, b') := by
        split at done
        · rename_i skipped
          refine ⟨b, .refl ?_, done⟩
          rintro unit ⟨-, kept, -⟩
          rw [skipped] at kept
          exact absurd kept (by decide)
        · rename_i kept
          split at done
          · exact absurd done (by simp)
          · rename_i b₁ marked
            refine ⟨b₁, (checkBlock_marked marked).congr fun unit => ?_, done⟩
            rw [Partition.HasUnit, slot]
            simp [nonzero, kept]
      obtain ⟨b₁, marked, rest⟩ := head
      obtain ⟨tail, ended⟩ := ih (by omega) rest
      rw [marked.dev_eq] at tail
      refine ⟨(marked.trans tail).congr fun unit => ⟨?_, ?_⟩, fun isEnd => ?_⟩
      · rintro (here | ⟨other, behind, before, hasUnit⟩)
        · exact ⟨entryId, by omega, by omega, here⟩
        · exact ⟨other, by omega, by omega, hasUnit⟩
      · rintro ⟨other, behind, before, hasUnit⟩
        rcases Nat.eq_or_lt_of_le behind with rfl | later
        · exact Or.inl hasUnit
        · exact Or.inr ⟨other, later, by omega, hasUnit⟩
      · obtain ⟨other, before, zero⟩ := ended isEnd
        exact ⟨other, by omega, zero⟩

/-- Going through successive segment map pages. -/
theorem checkTmapsFrom_marked {fuel tmapId : Nat} (isPrefix : part.IsPrefix disk type)
    (done : checkTmapsFrom faults disk part type fuel tmapId b = (true, b')) :
    Bint.Marked b b' fun unit => ∃ segmentId, tmapId * tsegmentMapMaxSegments ≤ segmentId ∧
      segmentId < (tmapId + fuel) * tsegmentMapMaxSegments ∧
      part.HasUnit disk b.dev type segmentId unit := by
  have size : tsegmentMapMaxSegments = 511 := rfl
  induction fuel generalizing b tmapId with
  | zero =>
    simp only [checkTmapsFrom, Prod.mk.injEq, true_and] at done
    subst done
    refine .refl ?_
    rintro unit ⟨segmentId, behind, before, -⟩
    rw [Nat.add_zero] at before
    omega
  | succ fuel ih =>
    have width : (tmapId + (fuel + 1)) * tsegmentMapMaxSegments =
        (tmapId + 1 + fuel) * tsegmentMapMaxSegments := by
      congr 1
      omega
    have next : (tmapId + 1) * tsegmentMapMaxSegments =
        tmapId * tsegmentMapMaxSegments + tsegmentMapMaxSegments := Nat.succ_mul _ _
    have more : (tmapId + 1) * tsegmentMapMaxSegments ≤
        (tmapId + 1 + fuel) * tsegmentMapMaxSegments :=
      Nat.mul_le_mul_right _ (Nat.le_add_right _ _)
    rw [checkTmapsFrom] at done
    split at done
    · exact absurd done (by simp)
    · rename_i page isPage
      split at done
      · exact absurd done (by simp)
      · rename_i last checked
        simp only [Prod.mk.injEq, true_and] at done
        subst done
        obtain ⟨marked, ended⟩ := tmapCheckBlock_marked isPage (by omega) isPrefix checked
        obtain ⟨slot, before, zero⟩ := ended rfl
        obtain ⟨count, recorded_iff⟩ := isPrefix
        have stop : count ≤ tmapId * tsegmentMapMaxSegments + slot :=
          Nat.le_of_not_lt fun less => (recorded_iff _).2 less zero
        refine marked.congr fun unit => ⟨?_, ?_⟩
        · rintro ⟨other, behind, inside, hasUnit⟩
          exact ⟨_, by omega, by omega, hasUnit⟩
        · rintro ⟨segmentId, behind, inside, hasUnit⟩
          have recorded := (recorded_iff _).1 hasUnit.1
          obtain ⟨other, rfl⟩ := Nat.exists_eq_add_of_le behind
          exact ⟨other, by omega, by omega, hasUnit⟩
      · rename_i b₁ checked
        obtain ⟨marked, -⟩ := tmapCheckBlock_marked isPage (by omega) isPrefix checked
        have tail := ih done
        rw [marked.dev_eq] at tail
        refine (marked.trans tail).congr fun unit => ⟨?_, ?_⟩
        · rintro (⟨other, behind, inside, hasUnit⟩ | ⟨segmentId, behind, inside, hasUnit⟩)
          · exact ⟨_, by omega, by omega, hasUnit⟩
          · exact ⟨segmentId, by omega, by omega, hasUnit⟩
        · rintro ⟨segmentId, behind, inside, hasUnit⟩
          by_cases here : segmentId < (tmapId + 1) * tsegmentMapMaxSegments
          · obtain ⟨other, rfl⟩ := Nat.exists_eq_add_of_le behind
            exact Or.inl ⟨other, by omega, by omega, hasUnit⟩
          · exact Or.inr ⟨segmentId, by omega, by omega, hasUnit⟩

/-- A unit of a partition: the one of its segment maps, or a segment on a segment map page that a
bound on the pages allows. -/
def Partition.Uses (part : Partition) (disk : Disk) (dev : BintDev)
    (allowed : SegmentType → Nat → Prop) (unit : Nat) : Prop :=
  (part.tmaps.bid = dev.bid ∧ dev.unitOf part.tmaps.bStart = unit) ∨
    ∃ type segmentId, allowed type segmentId ∧ part.HasUnit disk dev type segmentId unit

/-- The segment map page of a segment is one of those that are looked at. -/
def Partition.Mapped (part : Partition) (type : SegmentType) (segmentId : Nat) : Prop :=
  segmentId < part.maxTmaps type * tsegmentMapMaxSegments

/-- Going through the segment map pages of a type. -/
theorem tapePartitionCheckTmapBlocks_marked (isPrefix : part.IsPrefix disk type)
    (done : tapePartitionCheckTmapBlocks faults disk part type b = (true, b')) :
    Bint.Marked b b' fun unit => ∃ segmentId, part.Mapped type segmentId ∧
      part.HasUnit disk b.dev type segmentId unit :=
  (checkTmapsFrom_marked isPrefix done).congr fun unit => by
    simp only [Nat.zero_mul, Nat.zero_le, Nat.zero_add, true_and, Partition.Mapped]

/-- Going through a partition. -/
theorem tapePartitionCheckBlock_marked (isPrefix : ∀ type, part.IsPrefix disk type)
    (done : tapePartitionCheckBlock faults disk part b = (true, b')) :
    Bint.Marked b b' (part.Uses disk b.dev part.Mapped) := by
  unfold tapePartitionCheckBlock at done
  split at done
  · exact absurd done (by simp)
  · rename_i b₁ checkedMeta
    have metas := tapePartitionCheckTmapBlocks_marked (isPrefix .metaSeg) checkedMeta
    split at done
    · exact absurd done (by simp)
    · rename_i b₂ checkedData
      have datas := tapePartitionCheckTmapBlocks_marked (isPrefix .dataSeg) checkedData
      have last : Bint.Marked b₂ b' fun unit =>
          part.tmaps.bid = b₂.dev.bid ∧ b₂.dev.unitOf part.tmaps.bStart = unit := by
        split at done
        · rename_i other
          simp only [Prod.mk.injEq, true_and] at done
          subst done
          exact .refl fun unit marked => other marked.1
        · exact checkBlock_marked done
      rw [datas.dev_eq, metas.dev_eq] at last
      rw [metas.dev_eq] at datas
      refine ((metas.trans datas).trans last).congr fun unit => ⟨?_, ?_⟩
      · rintro ((⟨segmentId, mapped⟩ | ⟨segmentId, mapped⟩) | tmaps)
        · exact Or.inr ⟨.metaSeg, segmentId, mapped⟩
        · exact Or.inr ⟨.dataSeg, segmentId, mapped⟩
        · exact Or.inl tmaps
      · rintro (tmaps | ⟨type, segmentId, mapped⟩)
        · exact Or.inr tmaps
        · cases type with
          | metaSeg => exact Or.inl (Or.inl ⟨segmentId, mapped⟩)
          | dataSeg => exact Or.inl (Or.inr ⟨segmentId, mapped⟩)

/-! ## The tapes of the devices -/

/-- The tapes of a device: in slots, ports and drives and exported ones, or those of the drive. -/
def Tdevice.Has (tape : LoadedTape) : Tdevice → Prop
  | .mchanger selemList ielemList delemList exportList =>
    some tape ∈ selemList ∨ some tape ∈ ielemList ∨ some tape ∈ delemList ∨ tape ∈ exportList
  | .tdrive mediaList => tape ∈ mediaList

/-- The partitions of all tapes. -/
def Loaded (tdevices : List (Option Tdevice)) (part : Partition) : Prop :=
  ∃ device tape, some device ∈ tdevices ∧ device.Has tape ∧ part ∈ tape.partitionList

/-- The units of a tape that a check marks. -/
def LoadedTape.Visits (tape : LoadedTape) (disk : Disk) (dev : BintDev) (unit : Nat) : Prop :=
  ∃ part ∈ tape.partitionList, part.Uses disk dev part.Mapped unit

/-- The segments that the partitions of a tape record are the first ones. -/
def LoadedTape.IsPrefix (tape : LoadedTape) (disk : Disk) : Prop :=
  ∀ part ∈ tape.partitionList, ∀ type, part.IsPrefix disk type

/-- Going through a tape. -/
theorem tapeCheckBlock_marked {tape : LoadedTape} (isPrefix : tape.IsPrefix disk)
    (done : tapeCheckBlock faults disk tape b = (true, b')) :
    Bint.Marked b b' (tape.Visits disk b.dev) := by
  have marked := checkEach_marked (fun dev (part : Partition) => part.Uses disk dev part.Mapped)
    (fun part mem _ _ done => tapePartitionCheckBlock_marked (isPrefix part mem) done) done
  exact marked

/-- Going through a list of tapes. -/
theorem checkTapes_marked {tapes : List LoadedTape}
    (isPrefix : ∀ tape ∈ tapes, tape.IsPrefix disk)
    (done : checkEach (tapeCheckBlock faults disk) tapes b = (true, b')) :
    Bint.Marked b b' fun unit => ∃ tape ∈ tapes, tape.Visits disk b.dev unit :=
  checkEach_marked (fun dev tape => tape.Visits disk dev)
    (fun tape mem _ _ done => tapeCheckBlock_marked (isPrefix tape mem) done) done

/-- Going through elements. -/
theorem mchangerCheckElements_marked {elements : List (Option LoadedTape)}
    (isPrefix : ∀ tape, some tape ∈ elements → tape.IsPrefix disk)
    (done : mchangerCheckElements faults disk elements b = (true, b')) :
    Bint.Marked b b' fun unit => ∃ tape, some tape ∈ elements ∧ tape.Visits disk b.dev unit := by
  have marked := checkEach_marked
    (fun dev element unit => ∃ tape, element = some tape ∧ tape.Visits disk dev unit)
    (fun element mem b b' done => by
      cases element with
      | none =>
        simp only [mchangerCheckElement, Prod.mk.injEq, true_and] at done
        subst done
        exact .refl (by simp)
      | some tape =>
        exact (tapeCheckBlock_marked (isPrefix tape mem) done).congr (by simp)) done
  refine marked.congr fun unit => ⟨?_, ?_⟩
  · rintro ⟨element, mem, tape, rfl, visits⟩
    exact ⟨tape, mem, visits⟩
  · rintro ⟨tape, mem, visits⟩
    exact ⟨some tape, mem, tape, rfl, visits⟩

/-- Going through a device. -/
theorem tdeviceCheckBlock_marked {device : Tdevice}
    (isPrefix : ∀ tape, device.Has tape → tape.IsPrefix disk)
    (done : tdeviceCheckBlock faults disk (some device) b = (true, b')) :
    Bint.Marked b b' fun unit => ∃ tape, device.Has tape ∧ tape.Visits disk b.dev unit := by
  cases device with
  | tdrive mediaList => exact checkTapes_marked isPrefix done
  | mchanger selemList ielemList delemList exportList =>
    simp only [tdeviceCheckBlock, mchangerCheckBlock] at done
    split at done
    · exact absurd done (by simp)
    · rename_i b₁ checkedSlots
      have slots := mchangerCheckElements_marked (fun tape mem => isPrefix tape (Or.inl mem))
        checkedSlots
      split at done
      · exact absurd done (by simp)
      · rename_i b₂ checkedPorts
        have ports := mchangerCheckElements_marked
          (fun tape mem => isPrefix tape (Or.inr (Or.inl mem))) checkedPorts
        split at done
        · exact absurd done (by simp)
        · rename_i b₃ checkedDrives
          have drives := mchangerCheckElements_marked
            (fun tape mem => isPrefix tape (Or.inr (Or.inr (Or.inl mem)))) checkedDrives
          have exports := checkTapes_marked
            (fun tape mem => isPrefix tape (Or.inr (Or.inr (Or.inr mem)))) done
          rw [drives.dev_eq, ports.dev_eq, slots.dev_eq] at exports
          rw [ports.dev_eq, slots.dev_eq] at drives
          rw [slots.dev_eq] at ports
          refine (((slots.trans ports).trans drives).trans exports).congr fun unit => ?_
          simp only [Tdevice.Has, or_and_right, exists_or, or_assoc]

/-- The units that a check marks. -/
def Visited (tdevices : List (Option Tdevice)) (disk : Disk) (dev : BintDev) (unit : Nat) : Prop :=
  ∃ part, Loaded tdevices part ∧ part.Uses disk dev part.Mapped unit

/-- Going through all devices. -/
theorem deviceCheckBlock_marked {tdevices : List (Option Tdevice)}
    (isPrefix : ∀ part, Loaded tdevices part → ∀ type, part.IsPrefix disk type)
    (done : deviceCheckBlock faults disk tdevices b = (true, b')) :
    Bint.Marked b b' (Visited tdevices disk b.dev) := by
  have marked := checkEach_marked
    (fun dev slot unit => ∃ device tape, slot = some device ∧ device.Has tape ∧
      tape.Visits disk dev unit)
    (fun slot mem b b' done => by
      cases slot with
      | none =>
        simp only [tdeviceCheckBlock, Prod.mk.injEq, true_and] at done
        subst done
        exact .refl (by simp)
      | some device =>
        have tapes (tape : LoadedTape) (has : device.Has tape) : tape.IsPrefix disk :=
          fun part isPart => isPrefix part ⟨device, tape, mem, has, isPart⟩
        exact (tdeviceCheckBlock_marked tapes done).congr (by simp)) done
  refine marked.congr fun unit => ⟨?_, ?_⟩
  · rintro ⟨slot, mem, device, tape, rfl, has, part, isPart, uses⟩
    exact ⟨part, ⟨device, tape, mem, has, isPart⟩, uses⟩
  · rintro ⟨part, ⟨device, tape, mem, has, isPart⟩, uses⟩
    exact ⟨some device, mem, device, tape, rfl, has, part, isPart, uses⟩

/-! ## Correcting the bitmap -/

/-- Bits of a byte that are set. -/
theorem getAllocedBlocks_eq {bit : Nat → Bool} {val : BitVec 8} {base : Nat}
    (bits : ∀ place < 8, bit (base + place) = val.getLsbD place) :
    getAllocedBlocks val = countClear (fun n => !bit n) base (base + 8) := by
  have shifted : List.range' base 8 = (List.range' 0 8).map (base + ·) := by
    rw [List.map_add_range', Nat.add_zero]
  rw [getAllocedBlocks, ← countP_range' (fun n => !bit n) base 8, shifted, List.countP_map]
  apply List.countP_congr
  intro place mem
  rw [List.mem_range'_1] at mem
  rw [Function.comp_apply, bits place (by omega), Bool.not_not]

/-- Comparing the first bytes of a page: they are those of the second bitmap, and the bits that were
cleared and set make up the difference. -/
theorem mergeIndex_spec (checkVal : Nat → BitVec 8) (bmap : Bytes) (count : Nat) :
    (∀ i, (mergeIndex checkVal count bmap).bmap i = if i < count then checkVal i else bmap i) ∧
      (mergeIndex checkVal count bmap).freedBlocks +
          ((List.range count).map fun i => getAllocedBlocks (checkVal i)).sum =
        (mergeIndex checkVal count bmap).allocedBlocks +
          ((List.range count).map fun i => getAllocedBlocks (bmap i)).sum ∧
      ((mergeIndex checkVal count bmap).needSync = false ↔ ∀ i < count, bmap i = checkVal i) := by
  induction count with
  | zero => simp [mergeIndex]
  | succ count ih =>
    obtain ⟨bytes, sums, sync⟩ := ih
    have step : mergeIndex checkVal (count + 1) bmap =
        (mergeIndex checkVal count bmap).step checkVal count := by
      rw [mergeIndex, List.range_succ, List.foldl_append]
      rfl
    rw [step, List.range_succ, List.map_append, List.map_append, List.sum_append, List.sum_append]
    generalize mergeIndex checkVal count bmap = merge at bytes sums sync
    have here : merge.bmap count = bmap count := by rw [bytes, if_neg (by omega)]
    unfold IndexMerge.step
    by_cases same : merge.bmap count = checkVal count
    · rw [if_pos same]
      rw [here] at same
      refine ⟨fun i => ?_, ?_, ?_⟩
      · rw [bytes]
        by_cases isLast : i = count
        · rw [isLast, if_neg (by omega), if_pos (by omega), same]
        · by_cases less : i < count
          · rw [if_pos less, if_pos (by omega)]
          · rw [if_neg less, if_neg (by omega)]
      · rw [List.map_singleton, List.map_singleton, List.sum_singleton, List.sum_singleton, same]
        omega
      · rw [sync, Nat.forall_lt_succ_right]
        exact ⟨fun all => ⟨all, same⟩, fun all => all.1⟩
    · rw [if_neg same]
      rw [here] at same
      refine ⟨fun i => ?_, ?_, ?_⟩
      · simp only
        by_cases isLast : i = count
        · rw [if_pos isLast, isLast, if_pos (by omega)]
        · rw [if_neg isLast, bytes]
          by_cases less : i < count
          · rw [if_pos less, if_pos (by omega)]
          · rw [if_neg less, if_neg (by omega)]
      · simp only [List.map_singleton, List.sum_singleton, here]
        split <;> omega
      · simp only [Bool.true_eq_false, false_iff]
        exact fun all => same (all count (by omega))

/-- Adding up over the bytes of a page counts the bits that are set. -/
theorem sum_getAllocedBlocks (bit : Nat → Bool) (bmap : Bytes) (base count : Nat)
    (bits : ∀ i < count, ∀ place < 8, bit (base + i * 8 + place) = (bmap i).getLsbD place) :
    ((List.range count).map fun i => getAllocedBlocks (bmap i)).sum =
      countClear (fun n => !bit n) base (base + count * 8) := by
  induction count with
  | zero =>
    rw [countClear_of_le (by omega)]
    rfl
  | succ count ih =>
    have next : base + (count + 1) * 8 = base + count * 8 + 8 := by omega
    rw [List.range_succ, List.map_append, List.sum_append, List.map_singleton, List.sum_singleton,
      ih fun i less => bits i (by omega), getAllocedBlocks_eq (bits count (by omega)), next,
      countClear_add (by omega) (by omega)]

/-- A unit has a bit in the bytes of the disk. -/
def BintDev.Checked (dev : BintDev) (unit : Nat) : Prop := unit / 8 * 8 < dev.units

instance : Decidable (dev.Checked unit) := Nat.decLt _ _

/-- The units in the bytes of a page. -/
theorem BintDev.checked_iff (inside : i < bmapEntries) (small : j < 8) :
    dev.Checked (indexId * unitsPerIndex + i * 8 + j) ↔ i < calcBmapEntries dev.usize indexId := by
  rw [lt_calcBmapEntries, BintDev.Checked, unitsPerIndex_eq]
  omega

/-- Number of bits that are set. -/
def Bint.usedUnits (b : Bint) : Nat :=
  countClear (fun unit => !b.bit unit) 0 (bintNindexes b.dev.usize * unitsPerIndex)

/-- Some pages were made to agree with the second bitmap. -/
structure Bint.Corrected (b b' : Bint) (first last : Nat) : Prop where
  /-- The disk. -/
  dev : b'.dev = b.dev
  /-- Pages in memory are copies. -/
  synced : b'.Synced
  /-- The bits. -/
  bit : ∀ unit, b'.bit unit =
    if (first ≤ unit / unitsPerIndex ∧ unit / unitsPerIndex < last) ∧ b.dev.Checked unit then
      b.shadow unit
    else b.bit unit
  /-- The pages of the second bitmap are dropped. -/
  shadow : ∀ unit, b'.shadow unit =
    if first ≤ unit / unitsPerIndex ∧ unit / unitsPerIndex < last then false else b.shadow unit
  /-- The free bytes change by what is set and cleared. -/
  free : (b'.free + bintUnitSize * b'.usedUnits) % 2 ^ 64 =
    (b.free + bintUnitSize * b.usedUnits) % 2 ^ 64
  /-- Without a difference nothing is written. -/
  same : (∀ unit, first ≤ unit / unitsPerIndex → unit / unitsPerIndex < last →
    b.dev.Checked unit → b.shadow unit = b.bit unit) → b'.pages = b.pages ∧ b'.free = b.free

/-- The marks after a page of the second bitmap was dropped. -/
theorem Bint.shadow_dropCheckIndex :
    (b.dropCheckIndex indexId).shadow unit =
      if unit / unitsPerIndex = indexId then false else b.shadow unit := by
  simp only [Bint.shadow, Bint.dropCheckIndex, List.find?_filter]
  by_cases here : unit / unitsPerIndex = indexId
  · rw [if_pos here, List.find?_eq_none.2 fun index mem => by simp [here]]
    rfl
  · have others : (fun index : Bintindex => decide (decide (index.indexId ≠ indexId) = true ∧
        (index.indexId == unit / unitsPerIndex) = true)) =
        fun index => index.indexId == unit / unitsPerIndex := by
      funext index
      by_cases isPage : index.indexId = unit / unitsPerIndex
      · simp [isPage, here]
      · simp [isPage]
    rw [if_neg here, others]

/-- Finding a page leaves the second bitmap alone. -/
theorem bintGetIndex_checkList {index : Bintindex} {faults : IndexFaults}
    (got : bintGetIndex faults b indexId = some (index, b')) : b'.checkList = b.checkList := by
  unfold bintGetIndex at got
  split at got
  · simp only [Option.some.injEq, Prod.mk.injEq] at got
    rw [got.2]
  · rw [Option.map_eq_some_iff] at got
    obtain ⟨other, -, same⟩ := got
    simp only [Prod.mk.injEq] at same
    rw [← same.2]
    unfold bintIndexInsert
    split
    · rfl
    · split
      · rfl
      · split <;> rfl

/-- Writing a page leaves the second bitmap alone. -/
theorem bintIndexWrite_checkList {index : Bintindex} {faults : IndexFaults} {ok : Bool}
    (done : bintIndexWrite faults b index = (ok, b')) : b'.checkList = b.checkList := by
  unfold bintIndexWrite at done
  split at done
  · simp only [Prod.mk.injEq] at done
    rw [done.2]
  · simp only [Prod.mk.injEq] at done
    rw [← done.2]

/-- The bytes of a page of the second bitmap. -/
theorem Bint.shadow_place (inside : i < bmapEntries) (small : j < 8) :
    b.shadow (indexId * unitsPerIndex + i * 8 + j) =
      (checkVal (bintGetCheckIndex faults b indexId false) i).getLsbD j := by
  obtain ⟨page, rest⟩ := unit_div inside small
  rw [Bint.shadow, page, rest, checkVal]
  unfold bintGetCheckIndex
  cases found : b.checkList.find? fun index => index.indexId == indexId with
  | none => simp
  | some index => simp [Bytes.bit_mul_add _ _ _ small]

/-- The first bytes of a page were replaced. -/
structure Bint.PageMerged (b b' : Bint) (indexId : Nat) (checkVal : Nat → BitVec 8) : Prop where
  /-- The disk. -/
  dev : b'.dev = b.dev
  /-- The other pages. -/
  others : ∀ other, other ≠ indexId → b'.pages other = b.pages other
  /-- The bytes of the page. -/
  bytes : ∀ i, (b'.pages indexId).bmap i =
    if i < calcBmapEntries b.dev.usize indexId then checkVal i else (b.pages indexId).bmap i

namespace Bint.PageMerged

variable {checkVal : Nat → BitVec 8}

/-- The bits after the first bytes of a page were replaced by those of the second bitmap. -/
theorem bit_eq (merged : PageMerged b b' indexId checkVal)
    (marks : ∀ i < bmapEntries, ∀ j < 8,
      b.shadow (indexId * unitsPerIndex + i * 8 + j) = (checkVal i).getLsbD j) :
    b'.bit unit = if (indexId ≤ unit / unitsPerIndex ∧ unit / unitsPerIndex < indexId + 1) ∧
      b.dev.Checked unit then b.shadow unit else b.bit unit := by
  by_cases here : unit / unitsPerIndex = indexId
  · obtain ⟨i, inside, j, small, rfl⟩ := exists_place here
    rw [Bint.bit_place inside small, Bint.bit_place inside small, merged.bytes,
      marks i inside j small]
    have checked : b.dev.Checked (indexId * unitsPerIndex + i * 8 + j) ↔
        i < calcBmapEntries b.dev.usize indexId := BintDev.checked_iff inside small
    by_cases less : i < calcBmapEntries b.dev.usize indexId
    · rw [if_pos less, if_pos ⟨by omega, checked.2 less⟩]
    · rw [if_neg less, if_neg fun all => less (checked.1 all.2)]
  · rw [if_neg (by omega), Bint.bit, Bint.bit, merged.others _ here]

/-- The number of bits set changes by what the bytes have. -/
theorem usedUnits_add (merged : PageMerged b b' indexId checkVal)
    (number : indexId < bintNindexes b.dev.usize) :
    b'.usedUnits + ((List.range (calcBmapEntries b.dev.usize indexId)).map fun i =>
        getAllocedBlocks ((b.pages indexId).bmap i)).sum =
      b.usedUnits + ((List.range (calcBmapEntries b.dev.usize indexId)).map fun i =>
        getAllocedBlocks (checkVal i)).sum := by
  have bytes : bmapEntries = 4088 := rfl
  have entries (i : Nat) (less : i < calcBmapEntries b.dev.usize indexId) : i < bmapEntries :=
    (lt_calcBmapEntries.1 less).1
  have size : calcBmapEntries b.dev.usize indexId * 8 ≤ unitsPerIndex := by
    have most : ¬ bmapEntries < calcBmapEntries b.dev.usize indexId := fun less =>
      Nat.lt_irrefl _ (entries _ less)
    rw [unitsPerIndex_eq]
    omega
  have stop : (indexId + 1) * unitsPerIndex ≤ bintNindexes b.dev.usize * unitsPerIndex :=
    Nat.mul_le_mul_right _ number
  rw [Nat.succ_mul] at stop
  -- the bits in front of the bytes and behind them are the same
  have outside (other : Nat) (apart : other < indexId * unitsPerIndex ∨
      indexId * unitsPerIndex + calcBmapEntries b.dev.usize indexId * 8 ≤ other) :
      b'.bit other = b.bit other := by
    by_cases here : other / unitsPerIndex = indexId
    · obtain ⟨i, inside, j, small, rfl⟩ := exists_place here
      rw [Bint.bit_place inside small, Bint.bit_place inside small, merged.bytes,
        if_neg (by omega)]
    · rw [Bint.bit, Bint.bit, merged.others _ here]
  have old := sum_getAllocedBlocks b.bit (b.pages indexId).bmap (indexId * unitsPerIndex)
    (calcBmapEntries b.dev.usize indexId) fun i less place small =>
      Bint.bit_place (entries i less) small
  have new := sum_getAllocedBlocks b'.bit checkVal (indexId * unitsPerIndex)
    (calcBmapEntries b.dev.usize indexId) fun i less place small => by
      rw [Bint.bit_place (entries i less) small, merged.bytes, if_pos less]
  rw [old, new, usedUnits, usedUnits, merged.dev]
  exact countClear_outside (Nat.zero_le _) (by omega) (by omega) fun other apart => by
    rw [outside other apart]

/-- A page that was made to agree with the second bitmap is corrected. -/
theorem corrected (merged : PageMerged b b' indexId checkVal) (synced : b'.Synced)
    (number : indexId < bintNindexes b.dev.usize)
    (marks : ∀ i < bmapEntries, ∀ j < 8,
      b.shadow (indexId * unitsPerIndex + i * 8 + j) = (checkVal i).getLsbD j)
    (shadow : ∀ unit, b'.shadow unit =
      if unit / unitsPerIndex = indexId then false else b.shadow unit)
    (free : (b'.free + bintUnitSize * ((List.range (calcBmapEntries b.dev.usize indexId)).map fun i =>
        getAllocedBlocks (checkVal i)).sum) % 2 ^ 64 =
      (b.free + bintUnitSize * ((List.range (calcBmapEntries b.dev.usize indexId)).map fun i =>
        getAllocedBlocks ((b.pages indexId).bmap i)).sum) % 2 ^ 64)
    (same : (∀ i < calcBmapEntries b.dev.usize indexId, (b.pages indexId).bmap i = checkVal i) →
      b'.pages = b.pages ∧ b'.free = b.free) :
    Corrected b b' indexId (indexId + 1) where
  dev := merged.dev
  synced := synced
  bit _ := merged.bit_eq marks
  shadow unit := by
    rw [shadow]
    by_cases here : unit / unitsPerIndex = indexId
    · rw [if_pos here, if_pos (by omega)]
    · rw [if_neg here, if_neg (by omega)]
  free := by
    have used := merged.usedUnits_add number
    simp only [bintUnitSize, bintUnitShift] at free ⊢
    omega
  same agree := by
    refine same fun i less => BitVec.eq_of_getLsbD_eq fun j small => ?_
    have inside := (lt_calcBmapEntries.1 less).1
    have page : (indexId * unitsPerIndex + i * 8 + j) / unitsPerIndex = indexId :=
      (unit_div inside small).1
    have agrees := agree (indexId * unitsPerIndex + i * 8 + j) (by omega) (by omega)
      ((BintDev.checked_iff inside small).2 less)
    rw [marks i inside j small, Bint.bit_place inside small] at agrees
    exact agrees.symm

end Bint.PageMerged

/-- Correcting an index page. -/
theorem bintIndexCheck_corrected (synced : b.Synced) (number : indexId < bintNindexes b.dev.usize)
    (done : bintIndexCheck faults b indexId = (true, b')) :
    Bint.Corrected b b' indexId (indexId + 1) := by
  unfold bintIndexCheck at done
  simp only at done
  split at done
  · exact absurd done (by simp)
  · rename_i index loaded got
    obtain ⟨kept, isNumber, copy⟩ := synced.getIndex number got
    have checkList := bintGetIndex_checkList got
    have marks : ∀ i < bmapEntries, ∀ j < 8, b.shadow (indexId * unitsPerIndex + i * 8 + j) =
        (checkVal (bintGetCheckIndex faults b indexId false) i).getLsbD j :=
      fun i inside j small => Bint.shadow_place inside small
    have shadow (unit : Nat) : (loaded.dropCheckIndex indexId).shadow unit =
        if unit / unitsPerIndex = indexId then false else b.shadow unit := by
      rw [Bint.shadow_dropCheckIndex, Bint.shadow, Bint.shadow, checkList]
    generalize checkVal (bintGetCheckIndex faults b indexId false) = checkVal at done marks
    obtain ⟨bytes, sums, sync⟩ := mergeIndex_spec checkVal index.bmap
      (calcBmapEntries loaded.dev.usize indexId)
    generalize mergeIndex checkVal (calcBmapEntries loaded.dev.usize indexId) index.bmap = merge
      at done bytes sums sync
    rw [kept.dev, copy] at bytes sums sync
    have dropped : (loaded.dropCheckIndex indexId).Synced := ⟨kept.synced.cached, kept.synced.valid⟩
    split at done
    · rename_i unchanged
      simp only [Prod.mk.injEq, true_and] at done
      subst done
      have agree := sync.1 (by simpa using unchanged)
      have merged : Bint.PageMerged b (loaded.dropCheckIndex indexId) indexId checkVal := by
        refine ⟨kept.dev, fun other _ => by rw [Bint.dropCheckIndex, kept.pages], fun i => ?_⟩
        rw [Bint.dropCheckIndex, kept.pages]
        split
        · rename_i less
          exact agree i less
        · rfl
      refine merged.corrected dropped number marks shadow ?_ fun _ => ⟨kept.pages, kept.free⟩
      have equal : ((List.range (calcBmapEntries b.dev.usize indexId)).map fun i =>
          getAllocedBlocks (checkVal i)) = (List.range (calcBmapEntries b.dev.usize indexId)).map
          fun i => getAllocedBlocks ((b.pages indexId).bmap i) :=
        List.map_congr_left fun i mem => by rw [agree i (List.mem_range.1 mem)]
      rw [Bint.dropCheckIndex, kept.free, equal]
    · rename_i changed
      split at done
      · exact absurd done (by simp)
      · rename_i written isWritten
        simp only [Prod.mk.injEq, true_and] at done
        subst done
        have less : index.indexId < bintNindexes (loaded.dropCheckIndex indexId).dev.usize := by
          rw [isNumber, Bint.dropCheckIndex, kept.dev]
          exact number
        obtain ⟨dev, free, synced', page, others⟩ := dropped.write less index.unmapList isWritten
        have isFree : written.free = b.free := free.trans kept.free
        have list := bintIndexWrite_checkList isWritten
        rw [isNumber] at page others
        refine Bint.PageMerged.corrected ⟨dev.trans kept.dev, fun other ne => ?_, fun i => ?_⟩
          ⟨synced'.cached, synced'.valid⟩ number marks (fun unit => ?_) ?_ fun agree => ?_
        · exact (others other ne).trans (congrFun kept.pages other)
        · rw [← bytes i]
          exact congrFun page i
        · rw [← shadow unit, Bint.shadow, Bint.shadow, ← list]
          rfl
        · rw [isFree]
          simp only [bintIncrFree, bintDecrFree, bintUnitSize, bintUnitShift, Nat.shiftLeft_eq]
          omega
        · exact absurd (sync.2 agree) (by simpa using changed)

namespace Bint.Corrected

variable {first mid last : Nat}

/-- No page was looked at. -/
theorem refl (synced : b.Synced) : Corrected b b first first where
  dev := rfl
  synced := synced
  bit unit := by rw [if_neg (by omega)]
  shadow unit := by rw [if_neg (by omega)]
  free := rfl
  same _ := ⟨rfl, rfl⟩

/-- Pages and the pages behind them. -/
theorem trans (le : first ≤ mid) (le' : mid ≤ last) (front : Corrected b b' first mid)
    (back : Corrected b' b'' mid last) : Corrected b b'' first last where
  dev := back.dev.trans front.dev
  synced := back.synced
  bit unit := by
    rw [back.bit, front.bit, front.shadow, front.dev]
    by_cases early : first ≤ unit / unitsPerIndex ∧ unit / unitsPerIndex < mid
    · rw [if_neg (by omega)]
      by_cases checked : b.dev.Checked unit
      · rw [if_pos ⟨early, checked⟩, if_pos ⟨by omega, checked⟩]
      · rw [if_neg fun all => checked all.2, if_neg fun all => checked all.2]
    · have notEarly : ¬ ((first ≤ unit / unitsPerIndex ∧ unit / unitsPerIndex < mid) ∧
          b.dev.Checked unit) := fun all => early all.1
      rw [if_neg early, if_neg notEarly]
      by_cases late : (mid ≤ unit / unitsPerIndex ∧ unit / unitsPerIndex < last) ∧ b.dev.Checked unit
      · rw [if_pos late, if_pos ⟨by omega, late.2⟩]
      · rw [if_neg late, if_neg fun all => late ⟨by omega, all.2⟩]
  shadow unit := by
    rw [back.shadow, front.shadow]
    by_cases early : first ≤ unit / unitsPerIndex ∧ unit / unitsPerIndex < mid
    · rw [if_neg (by omega), if_pos early, if_pos (by omega)]
    · rw [if_neg early]
      by_cases late : mid ≤ unit / unitsPerIndex ∧ unit / unitsPerIndex < last
      · rw [if_pos late, if_pos (by omega)]
      · rw [if_neg late, if_neg (by omega)]
  free := back.free.trans front.free
  same agree := by
    obtain ⟨pages, free⟩ := front.same fun unit low high => agree unit low (by omega)
    have bits : b'.bit = b.bit := by
      funext unit
      rw [Bint.bit, Bint.bit, pages]
    obtain ⟨pages', free'⟩ := back.same fun unit low high checked => by
      rw [front.shadow, if_neg (by omega), bits]
      exact agree unit (by omega) high (front.dev ▸ checked)
    exact ⟨pages'.trans pages, free'.trans free⟩

end Bint.Corrected

/-- Correcting successive index pages. -/
theorem bintCheckFrom_corrected {fuel : Nat} (synced : b.Synced)
    (number : indexId + fuel ≤ bintNindexes b.dev.usize)
    (done : bintCheckFrom faults fuel indexId b = (true, b')) :
    Bint.Corrected b b' indexId (indexId + fuel) := by
  induction fuel generalizing b indexId with
  | zero =>
    simp only [bintCheckFrom, Prod.mk.injEq, true_and] at done
    subst done
    exact .refl synced
  | succ fuel ih =>
    rw [bintCheckFrom] at done
    split at done
    · exact absurd done (by simp)
    · rename_i b₁ isFirst
      have front := bintIndexCheck_corrected synced (by omega) isFirst
      have back := ih front.synced (by rw [front.dev]; omega) done
      have whole : indexId + 1 + fuel = indexId + (fuel + 1) := by omega
      rw [whole] at back
      exact front.trans (by omega) (by omega) back

/-! ## A check that nothing disturbs -/

/-- A loop gets to its end if every round does so. -/
theorem checkEach_succeeds {check check' : α → Bint → Bool × Bint} {items : List α}
    (each : ∀ item ∈ items, ∀ {b b'}, check item b = (true, b') → ∀ b₂, (check' item b₂).1 = true)
    (done : checkEach check items b = (true, b')) (b₂ : Bint) :
    (checkEach check' items b₂).1 = true := by
  induction items generalizing b b₂ with
  | nil => rfl
  | cons item rest ih =>
    rw [checkEach] at done ⊢
    split at done
    · exact absurd done (by simp)
    · rename_i b₁ isFirst
      have head := each item List.mem_cons_self isFirst b₂
      generalize check' item b₂ = result at head
      obtain ⟨ok, b₃⟩ := result
      obtain rfl : ok = true := head
      exact ih (fun item mem => each item (List.mem_cons_of_mem _ mem)) done b₃

/-- Without failures a unit is marked. -/
theorem checkBlock_succeeds (b : Bint) : (checkBlock .none block bid b).1 = true := by
  unfold checkBlock
  split
  · rfl
  · have found (indexId : Nat) : ∃ pair, bintGetCheckIndex .none b indexId true = some pair := by
      unfold bintGetCheckIndex
      split
      · exact ⟨_, rfl⟩
      · exact ⟨_, rfl⟩
    generalize calcIndexId b.dev block = place
    obtain ⟨indexId, entry, pos⟩ := place
    obtain ⟨⟨index, b₁⟩, got⟩ := found indexId
    simp only [got]

/-- Without failures a segment map page is gone through as before. -/
theorem tmapCheckBlock_succeeds {tmapId fuel entryId : Nat} {page : Nat → Nat} {full : Bool}
    (done : tmapCheckBlock faults part type tmapId page fuel entryId b = (some full, b'))
    (b₂ : Bint) : (tmapCheckBlock .none part type tmapId page fuel entryId b₂).1 = some full := by
  induction fuel generalizing b b₂ entryId with
  | zero =>
    simp only [tmapCheckBlock, Prod.mk.injEq] at done ⊢
    exact done.1
  | succ fuel ih =>
    rw [tmapCheckBlock] at done ⊢
    split at done
    · rename_i zero
      rw [if_pos zero]
      simp only [Prod.mk.injEq] at done
      exact done.1
    · rename_i nonzero
      rw [if_neg nonzero]
      split at done
      · rename_i skipped
        rw [if_pos skipped]
        exact ih done b₂
      · rename_i kept
        rw [if_neg kept]
        split at done
        · exact absurd done (by simp)
        · have marked : (checkBlock .none (blockBlocknr (page entryId)) (blockBid (page entryId))
            b₂).1 = true := checkBlock_succeeds b₂
          generalize checkBlock .none (blockBlocknr (page entryId)) (blockBid (page entryId)) b₂ =
            result at marked
          obtain ⟨ok, b₃⟩ := result
          obtain rfl : ok = true := marked
          exact ih done b₃

/-- Without failures successive segment map pages are gone through as before. -/
theorem checkTmapsFrom_succeeds {fuel tmapId : Nat}
    (done : checkTmapsFrom faults disk part type fuel tmapId b = (true, b')) (b₂ : Bint) :
    (checkTmapsFrom .none disk part type fuel tmapId b₂).1 = true := by
  induction fuel generalizing b b₂ tmapId with
  | zero => rfl
  | succ fuel ih =>
    rw [checkTmapsFrom] at done ⊢
    split at done
    · exact absurd done (by simp)
    · rename_i page isPage
      split at done
      · exact absurd done (by simp)
      · rename_i b₁ checked
        have first := tmapCheckBlock_succeeds checked b₂
        generalize tmapCheckBlock .none part type tmapId page tsegmentMapMaxSegments 0 b₂ = result
          at first
        obtain ⟨full, b₃⟩ := result
        obtain rfl : full = some false := first
        rfl
      · rename_i b₁ checked
        have first := tmapCheckBlock_succeeds checked b₂
        generalize tmapCheckBlock .none part type tmapId page tsegmentMapMaxSegments 0 b₂ = result
          at first ⊢
        obtain ⟨full, b₃⟩ := result
        obtain rfl : full = some true := first
        exact ih done b₃

/-- One loop after another gets to its end if each of them does so. -/
theorem fst_of_fst {first second : Bint → Bool × Bint} (isFirst : ∀ b, (first b).1 = true)
    (isSecond : ∀ b, (second b).1 = true) (b : Bint) :
    (match first b with
      | (false, b) => (false, b)
      | (true, b) => second b).1 = true := by
  have head := isFirst b
  generalize first b = result at head
  obtain ⟨ok, b₁⟩ := result
  obtain rfl : ok = true := head
  exact isSecond b₁

/-- Without failures a partition is gone through as before. -/
theorem tapePartitionCheckBlock_succeeds
    (done : tapePartitionCheckBlock faults disk part b = (true, b')) (b₂ : Bint) :
    (tapePartitionCheckBlock .none disk part b₂).1 = true := by
  unfold tapePartitionCheckBlock at done
  split at done
  · exact absurd done (by simp)
  · rename_i b₁ checkedMeta
    split at done
    · exact absurd done (by simp)
    · rename_i b₃ checkedData
      refine fst_of_fst (checkTmapsFrom_succeeds checkedMeta)
        (fst_of_fst (checkTmapsFrom_succeeds checkedData) fun b => ?_) b₂
      split
      · rfl
      · exact checkBlock_succeeds b

/-- Without failures a tape is gone through as before. -/
theorem tapeCheckBlock_succeeds {tape : LoadedTape}
    (done : tapeCheckBlock faults disk tape b = (true, b')) (b₂ : Bint) :
    (tapeCheckBlock .none disk tape b₂).1 = true := by
  unfold tapeCheckBlock at done ⊢
  exact checkEach_succeeds (fun _ _ _ _ done => tapePartitionCheckBlock_succeeds done) done b₂

/-- Without failures a list of tapes is gone through as before. -/
theorem checkTapes_succeeds {tapes : List LoadedTape}
    (done : checkEach (tapeCheckBlock faults disk) tapes b = (true, b')) (b₂ : Bint) :
    (checkEach (tapeCheckBlock .none disk) tapes b₂).1 = true :=
  checkEach_succeeds (fun _ _ _ _ done => tapeCheckBlock_succeeds done) done b₂

/-- Without failures elements are gone through as before. -/
theorem mchangerCheckElements_succeeds {elements : List (Option LoadedTape)}
    (done : mchangerCheckElements faults disk elements b = (true, b')) (b₂ : Bint) :
    (mchangerCheckElements .none disk elements b₂).1 = true := by
  refine checkEach_succeeds (fun element _ b b' done b₂ => ?_) done b₂
  cases element with
  | none => rfl
  | some tape => exact tapeCheckBlock_succeeds done b₂

/-- Without failures all devices are gone through as before. -/
theorem deviceCheckBlock_succeeds {tdevices : List (Option Tdevice)}
    (done : deviceCheckBlock faults disk tdevices b = (true, b')) (b₂ : Bint) :
    (deviceCheckBlock .none disk tdevices b₂).1 = true := by
  refine checkEach_succeeds (fun slot _ b b' done b₂ => ?_) done b₂
  match slot with
  | none => rfl
  | some (.tdrive mediaList) =>
    exact checkTapes_succeeds done b₂
  | some (.mchanger selemList ielemList delemList exportList) =>
    simp only [tdeviceCheckBlock, mchangerCheckBlock] at done
    split at done
    · exact absurd done (by simp)
    · rename_i b₁ checkedSlots
      split at done
      · exact absurd done (by simp)
      · rename_i b₃ checkedPorts
        split at done
        · exact absurd done (by simp)
        · rename_i b₄ checkedDrives
          exact fst_of_fst (mchangerCheckElements_succeeds checkedSlots)
            (fst_of_fst (mchangerCheckElements_succeeds checkedPorts)
              (fst_of_fst (mchangerCheckElements_succeeds checkedDrives)
                (checkTapes_succeeds done))) b₂

/-- Without failures an index page is corrected. -/
theorem bintIndexCheck_succeeds (synced : b.Synced) (number : indexId < bintNindexes b.dev.usize) :
    (bintIndexCheck .none b indexId).1 = true := by
  have found : (bintGetIndex .none b indexId).isSome = true := by
    rw [synced.getIndex_isSome number, Bint.pageFound]
    simp [IndexFaults.none]
  obtain ⟨⟨index, b₁⟩, got⟩ := Option.isSome_iff_exists.1 found
  have got' : bintGetIndex CheckFaults.none.toIndexFaults b indexId = some (index, b₁) := got
  unfold bintIndexCheck
  simp only [got']
  split
  · rfl
  · simp only [bintIndexWrite, CheckFaults.none, IndexFaults.none, Bool.false_eq_true, if_false]

/-- Without failures all index pages are corrected. -/
theorem bintCheckFrom_succeeds {fuel : Nat} (synced : b.Synced)
    (number : indexId + fuel ≤ bintNindexes b.dev.usize) :
    (bintCheckFrom .none fuel indexId b).1 = true := by
  induction fuel generalizing b indexId with
  | zero => rfl
  | succ fuel ih =>
    have head : (bintIndexCheck .none b indexId).1 = true :=
      bintIndexCheck_succeeds synced (by omega)
    rw [bintCheckFrom]
    generalize isFirst : bintIndexCheck .none b indexId = result at head
    obtain ⟨ok, b₁⟩ := result
    obtain rfl : ok = true := head
    have front := bintIndexCheck_corrected synced (by omega) isFirst
    exact ih front.synced (by rw [front.dev]; omega)

/-! ## The whole check -/

section Whole

variable {tdevices : List (Option Tdevice)}

/-- The bits after a check. -/
structure Bint.CheckedBy (tdevices : List (Option Tdevice)) (disk : Disk) (b b' : Bint) : Prop where
  /-- The disk. -/
  dev : b'.dev = b.dev
  /-- Pages in memory are copies. -/
  synced : b'.Synced
  /-- A bit is set if it was marked by an earlier check or is marked now. -/
  bit : ∀ unit, b.dev.Checked unit →
    (b'.bit unit = true ↔ b.shadow unit = true ∨ Visited tdevices disk b.dev unit)
  /-- No marks are left. -/
  shadow : ∀ unit, b.dev.Checked unit → b'.shadow unit = false
  /-- The free bytes change by what is set and cleared. -/
  free : (b'.free + bintUnitSize * b'.usedUnits) % 2 ^ 64 =
    (b.free + bintUnitSize * b.usedUnits) % 2 ^ 64
  /-- Without a difference nothing is written. -/
  same : (∀ unit, b.dev.Checked unit →
    (b.bit unit = true ↔ b.shadow unit = true ∨ Visited tdevices disk b.dev unit)) →
      b'.pages = b.pages ∧ b'.free = b.free

/-- A unit that has a bit has a page. -/
theorem BintDev.Checked.page_lt (checked : dev.Checked unit) :
    unit / unitsPerIndex < bintNindexes dev.usize := by
  rw [lt_bintNindexes]
  rw [BintDev.Checked] at checked
  rw [unitsPerIndex_eq]
  omega

/-- What a check does that does not fail. -/
theorem bintCheck_checkedBy (synced : b.Synced)
    (isPrefix : ∀ part, Loaded tdevices part → ∀ type, part.IsPrefix disk type)
    (done : bintCheck faults disk tdevices b = (true, b')) :
    Bint.CheckedBy tdevices disk b b' := by
  unfold bintCheck at done
  split at done
  · exact absurd done (by simp)
  · rename_i b₁ traversed
    have marked := deviceCheckBlock_marked isPrefix traversed
    have pages : b₁.pages = b.pages := by rw [marked.rest]
    have indexes : b₁.indexList = b.indexList := by rw [marked.rest]
    have free : b₁.free = b.free := by rw [marked.rest]
    have bits : b₁.bit = b.bit := by
      funext unit
      rw [Bint.bit, Bint.bit, pages]
    have used : b₁.usedUnits = b.usedUnits := by
      rw [Bint.usedUnits, Bint.usedUnits, bits, marked.dev_eq]
    have synced₁ : b₁.Synced := by
      refine ⟨?_, ?_⟩
      · rw [indexes, pages, marked.dev_eq]
        exact synced.cached
      · rw [pages, marked.dev_eq]
        exact synced.valid
    have corrected := bintCheckFrom_corrected synced₁ (by omega) done
    have inside (unit : Nat) (checked : b.dev.Checked unit) :
        0 ≤ unit / unitsPerIndex ∧ unit / unitsPerIndex < 0 + bintNindexes b₁.dev.usize := by
      rw [marked.dev_eq, Nat.zero_add]
      exact ⟨Nat.zero_le _, checked.page_lt⟩
    refine ⟨corrected.dev.trans marked.dev_eq, corrected.synced, fun unit checked => ?_,
      fun unit checked => ?_, ?_, fun agree => ?_⟩
    · rw [corrected.bit, if_pos ⟨inside unit checked, by rwa [marked.dev_eq]⟩, marked.shadow]
    · rw [corrected.shadow, if_pos (inside unit checked)]
    · rw [corrected.free, free, used]
    · obtain ⟨samePages, sameFree⟩ := corrected.same fun unit _ _ checked => by
        rw [marked.dev_eq] at checked
        rw [Bool.eq_iff_iff, marked.shadow, bits, agree unit checked]
      exact ⟨samePages.trans pages, sameFree.trans free⟩

/-- Without failures a check that came to its end does so again. -/
theorem bintCheck_succeeds {b₂ : Bint} (synced : b₂.Synced)
    (isPrefix : ∀ part, Loaded tdevices part → ∀ type, part.IsPrefix disk type)
    (done : bintCheck faults disk tdevices b = (true, b')) :
    ∃ b₃, bintCheck .none disk tdevices b₂ = (true, b₃) := by
  unfold bintCheck at done
  split at done
  · exact absurd done (by simp)
  · rename_i b₁ traversed
    have head := deviceCheckBlock_succeeds traversed b₂
    generalize again : deviceCheckBlock .none disk tdevices b₂ = result at head
    obtain ⟨ok, b₃⟩ := result
    obtain rfl : ok = true := head
    have marked := deviceCheckBlock_marked isPrefix again
    have synced₃ : b₃.Synced := by
      rw [marked.rest]
      exact ⟨synced.cached, synced.valid⟩
    have tail : (bintCheckFrom .none (bintNindexes b₃.dev.usize) 0 b₃).1 = true :=
      bintCheckFrom_succeeds synced₃ (by omega)
    refine ⟨(bintCheckFrom .none (bintNindexes b₃.dev.usize) 0 b₃).2, ?_⟩
    rw [bintCheck, again]
    exact Prod.ext tail rfl

/-- The units that the tapes record. -/
def Referenced (tdevices : List (Option Tdevice)) (disk : Disk) (dev : BintDev) (unit : Nat) : Prop :=
  ∃ part, Loaded tdevices part ∧ part.Uses disk dev (fun _ _ => True) unit

/-- What a check of a disk is for: the bits are those of the recorded units, the free bytes have
changed with them, and there is nothing left to do. -/
structure Bint.Restored (tdevices : List (Option Tdevice)) (disk : Disk) (b b' : Bint) : Prop where
  /-- Pages in memory are copies of those on disk. -/
  synced : b'.Synced
  /-- The bits. -/
  bits : ∀ unit, bintReservedSegments ≤ unit → unit < b.dev.units →
    (b'.bit unit = true ↔ Referenced tdevices disk b.dev unit)
  /-- The free bytes, as 64 bit numbers. -/
  free : (b'.free + bintUnitSize *
      countCleared b'.bit b.bit 0 (bintNindexes b.dev.usize * unitsPerIndex)) % 2 ^ 64 =
    (b.free + bintUnitSize *
      countCleared b.bit b'.bit 0 (bintNindexes b.dev.usize * unitsPerIndex)) % 2 ^ 64
  /-- Another check changes nothing. -/
  again : ∃ b'', bintCheck .none disk tdevices b' = (true, b'') ∧ b''.pages = b'.pages ∧
    b''.free = b'.free

/-- A check that comes to its end restores the bitmap if and only if every recorded segment is on a
segment map page that is looked at, and every mark that an earlier check has left is made again. -/
theorem bintCheck_restored_iff (synced : b.Synced)
    (isPrefix : ∀ part, Loaded tdevices part → ∀ type, part.IsPrefix disk type)
    (done : bintCheck faults disk tdevices b = (true, b')) :
    Bint.Restored tdevices disk b b' ↔
      (∀ unit, bintReservedSegments ≤ unit → unit < b.dev.units →
        Referenced tdevices disk b.dev unit → Visited tdevices disk b.dev unit) ∧
      (∀ unit, b.dev.Checked unit → b.shadow unit = true → Visited tdevices disk b.dev unit) := by
  have first := bintCheck_checkedBy synced isPrefix done
  have checkedOf (unit : Nat) (high : unit < b.dev.units) : b.dev.Checked unit := by
    rw [BintDev.Checked]
    omega
  obtain ⟨b'', again⟩ := bintCheck_succeeds first.synced isPrefix done
  have second := bintCheck_checkedBy first.synced isPrefix again
  -- the second time only what is marked now counts
  have secondBit (unit : Nat) (checked : b.dev.Checked unit) :
      b'.shadow unit = true ∨ Visited tdevices disk b'.dev unit ↔
        Visited tdevices disk b.dev unit := by
    rw [first.shadow unit checked, first.dev]
    simp
  constructor
  · intro restored
    obtain ⟨last, isLast, pages, -⟩ := restored.again
    obtain rfl : b'' = last := by
      rw [again, Prod.mk.injEq] at isLast
      exact isLast.2
    have visited (unit : Nat) (checked : b.dev.Checked unit) (set : b'.bit unit = true) :
        Visited tdevices disk b.dev unit := by
      have kept : b''.bit unit = true := by
        rw [Bint.bit, pages]
        exact set
      exact (secondBit unit checked).1 ((second.bit unit (first.dev ▸ checked)).1 kept)
    refine ⟨fun unit low high referenced => ?_, fun unit checked stale => ?_⟩
    · exact visited unit (checkedOf unit high) ((restored.bits unit low high).2 referenced)
    · exact visited unit checked ((first.bit unit checked).2 (Or.inl stale))
  · rintro ⟨mapped, stale⟩
    have bit (unit : Nat) (checked : b.dev.Checked unit) :
        b'.bit unit = true ↔ Visited tdevices disk b.dev unit := by
      rw [first.bit unit checked]
      exact ⟨fun either => either.elim (stale unit checked) id, Or.inr⟩
    refine ⟨first.synced, fun unit low high => ?_, ?_, b'', again, second.same fun unit checked => ?_⟩
    · rw [bit unit (checkedOf unit high)]
      refine ⟨?_, mapped unit low high⟩
      rintro ⟨part, loaded, tmaps | ⟨type, segmentId, -, hasUnit⟩⟩
      · exact ⟨part, loaded, Or.inl tmaps⟩
      · exact ⟨part, loaded, Or.inr ⟨type, segmentId, trivial, hasUnit⟩⟩
    · have free := first.free
      have balance : b.usedUnits + countCleared b'.bit b.bit 0
          (bintNindexes b.dev.usize * unitsPerIndex) = b'.usedUnits + countCleared b.bit b'.bit 0
          (bintNindexes b.dev.usize * unitsPerIndex) := by
        rw [Bint.usedUnits, Bint.usedUnits, first.dev]
        exact countClear_not_balance
      simp only [bintUnitSize, bintUnitShift] at free ⊢
      omega
    · rw [first.dev] at checked
      rw [bit unit checked, secondBit unit checked]

/-- A tape with one partition, whose segment maps are in a unit of a disk with 512 byte sectors. -/
def checkTapeAt (unit : Nat) : LoadedTape :=
  ⟨[tapePartitionInit ⟨true, false, 2 ^ 30, 2 ^ 30, ⟨1, unit * 131072⟩⟩]⟩

/-- A changer with a tape in a slot, and a drive of its own with another tape. -/
def checkDevices : List (Option Tdevice) :=
  [none, some (.mchanger [some (checkTapeAt 4), none] [] [] []), some (.tdrive [checkTapeAt 6])]

/-- The first tape has its data segment, if it has one, in the fifth unit. The segment maps of the
second tape are empty, but may be unreadable. -/
def checkDisk (recorded readable : Bool) : Disk where
  sector := fun _ _ => .zero
  tmap := fun ref type tmapId =>
    if tmapId ≠ 0 then none
    else if ref.bStart = 4 * 131072 then
      some fun entryId =>
        if recorded ∧ type = .dataSeg ∧ entryId = 0 then setBlock (5 * 131072) 1 else 0
    else if readable then some fun _ => 0 else none

/-- The disk with the units of both tapes and the segment handed out. -/
def checkBint : Option Bint :=
  (bdevAddNew .none BdevPool.sampleDev true fun _ => ⟨Bytes.zero, 0⟩).map fun b =>
    (bintGetAnyBlock .none (bintGetAnyBlock .none (bintGetAnyBlock .none b).2).2).2

/-- A partition has segment map pages. -/
theorem tapePartitionInit_maxTmaps_pos (info : PartitionInfo) (type : SegmentType) :
    0 < (tapePartitionInit info).maxTmaps type := by
  have positive (pages : Nat) : 0 < if pages = 0 then 1 else pages := by split <;> omega
  cases type with
  | metaSeg => exact positive _
  | dataSeg => exact positive _

/-- The tapes of the sample. -/
theorem loaded_checkDevices {part : Partition} (loaded : Loaded checkDevices part) :
    ∃ unit, (unit = 4 ∨ unit = 6) ∧
      part = tapePartitionInit ⟨true, false, 2 ^ 30, 2 ^ 30, ⟨1, unit * 131072⟩⟩ := by
  obtain ⟨device, tape, isDevice, has, isPart⟩ := loaded
  simp only [checkDevices, List.mem_cons, Option.some.injEq, List.not_mem_nil, or_false,
    reduceCtorEq, false_or] at isDevice
  rcases isDevice with rfl | rfl
  · simp only [Tdevice.Has, List.mem_cons, Option.some.injEq, List.not_mem_nil, or_false,
      reduceCtorEq] at has
    rw [has] at isPart
    exact ⟨4, Or.inl rfl, List.mem_singleton.1 isPart⟩
  · simp only [Tdevice.Has, List.mem_singleton] at has
    rw [has] at isPart
    exact ⟨6, Or.inr rfl, List.mem_singleton.1 isPart⟩

/-- The segments of the sample. -/
theorem recorded_checkDisk {unit segmentId : Nat} (isUnit : unit = 4 ∨ unit = 6)
    (type : SegmentType) :
    (tapePartitionInit ⟨true, false, 2 ^ 30, 2 ^ 30, ⟨1, unit * 131072⟩⟩).recorded
      (checkDisk true true) type segmentId =
      if unit = 4 ∧ type = .dataSeg ∧ segmentId = 0 then setBlock (5 * 131072) 1 else 0 := by
  have size : tsegmentMapMaxSegments = 511 := rfl
  have zero : segmentId / tsegmentMapMaxSegments = 0 ∧ segmentId % tsegmentMapMaxSegments = 0 ↔
      segmentId = 0 := by
    rw [size]
    omega
  unfold Partition.recorded Disk.tmapEntry checkDisk tapePartitionInit
  rcases isUnit with rfl | rfl
  · by_cases first : segmentId / tsegmentMapMaxSegments = 0
    · simp only [first, true_and] at zero
      simp [first, zero]
    · have other : segmentId ≠ 0 := fun isZero => first (zero.2 isZero).1
      simp [first, other]
  · by_cases first : segmentId / tsegmentMapMaxSegments = 0
    · simp [first]
    · simp [first]

/-- The first check of a new disk with the tapes of the sample restores the bitmap. -/
theorem bintCheck_restored_sample :
    ∃ b b', bdevAddNew .none BdevPool.sampleDev true (fun _ => ⟨Bytes.zero, 0⟩) = some b ∧
      bintCheck .none (checkDisk true true) checkDevices b = (true, b') ∧
      Bint.Restored checkDevices (checkDisk true true) b b' := by
  have runs : ((bdevAddNew .none BdevPool.sampleDev true fun _ => ⟨Bytes.zero, 0⟩).map fun b =>
      ((bintCheck .none (checkDisk true true) checkDevices b).1, b.checkList.length)) =
      some (true, 0) := by decide +kernel
  obtain ⟨b, isNew, isRun⟩ := Option.map_eq_some_iff.1 runs
  rw [Prod.mk.injEq, List.length_eq_zero_iff] at isRun
  obtain ⟨done, noMarks⟩ := isRun
  generalize check : bintCheck .none (checkDisk true true) checkDevices b = result at done
  obtain ⟨ok, b'⟩ := result
  obtain rfl : ok = true := done
  have synced := (bdevAddNew_spec isNew).2.1
  have isPrefix : ∀ part, Loaded checkDevices part → ∀ type,
      part.IsPrefix (checkDisk true true) type := by
    intro part loaded type
    obtain ⟨unit, isUnit, rfl⟩ := loaded_checkDevices loaded
    refine ⟨if unit = 4 ∧ type = .dataSeg then 1 else 0, fun segmentId => ?_⟩
    rw [recorded_checkDisk isUnit]
    have nonzero : setBlock (5 * 131072) 1 ≠ 0 := by decide
    by_cases has : unit = 4 ∧ type = .dataSeg
    · by_cases first : segmentId = 0
      · simp [has, first, nonzero]
      · simp [has, first]
    · rw [if_neg has, if_neg fun all => has ⟨all.1, all.2.1⟩]
      simp
  refine ⟨b, b', isNew, check, (bintCheck_restored_iff synced isPrefix check).2
    ⟨fun unit low high => ?_, fun unit checked marked => ?_⟩⟩
  · rintro ⟨part, loaded, tmaps | ⟨type, segmentId, -, hasUnit⟩⟩
    · exact ⟨part, loaded, Or.inl tmaps⟩
    · refine ⟨part, loaded, Or.inr ⟨type, segmentId, ?_, hasUnit⟩⟩
      obtain ⟨place, isPlace, rfl⟩ := loaded_checkDevices loaded
      have recorded := hasUnit.1
      rw [recorded_checkDisk isPlace] at recorded
      have first : segmentId = 0 := by
        by_contra other
        simp [other] at recorded
      rw [first]
      exact Nat.mul_pos (tapePartitionInit_maxTmaps_pos _ type) (by decide)
  · rw [Bint.shadow, noMarks] at marked
    exact absurd marked (by simp)

/-- A check finds the segment maps of the second tape unreadable. Then the segment of the first tape
is released, and a second check comes to its end. It hands out the unit of the segment again, which no
tape records; a third check takes it back. -/
theorem bintCheck_uses_old_marks :
    (checkBint.map fun b =>
      let failed := bintCheck .none (checkDisk true false) checkDevices b
      let released := bintReleaseBlock .none false failed.2 (5 * 131072)
      let second := bintCheck .none (checkDisk false true) checkDevices released
      let third := bintCheck .none (checkDisk false true) checkDevices second.2
      ((failed.1, released.bit 5), (second.1, second.2.bit 5, second.2.free),
        (third.1, third.2.bit 5, third.2.free))) =
    some ((false, false), (true, true, 57 * bintUnitSize), (true, false, 58 * bintUnitSize)) := by
  decide +kernel

end Whole

end VirtualTape
