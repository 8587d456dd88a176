import VirtualTape.Core.Disk

/-!
# Segment maps on disk

A slot of a segment map keeps its value until it is set.
-/

namespace VirtualTape

variable {disk : Disk} {tmaps : TmapsRef} {type : SegmentType} {segmentId block : Nat}

/-- A slot that can be read holds what was recorded. -/
theorem Disk.tmapEntry_setTmapEntry {old : Nat}
    (readable : disk.tmapEntry tmaps type segmentId = some old) :
    (disk.setTmapEntry tmaps type segmentId block).tmapEntry tmaps type segmentId = some block := by
  simp only [Disk.tmapEntry, Option.map_eq_some_iff] at readable
  obtain ⟨page, found, -⟩ := readable
  simp only [Disk.tmapEntry, Disk.setTmapEntry, and_self, if_true, found, Option.map_some]

/-- Recording a segment leaves the slots of others alone. -/
theorem Disk.tmapEntry_setTmapEntry_of_ne {ref : TmapsRef} {kind : SegmentType} {other : Nat}
    (ne : ¬ (ref = tmaps ∧ kind = type ∧ other = segmentId)) :
    (disk.setTmapEntry tmaps type segmentId block).tmapEntry ref kind other =
      disk.tmapEntry ref kind other := by
  simp only [Disk.tmapEntry, Disk.setTmapEntry]
  by_cases page : ref = tmaps ∧ kind = type ∧
      other / tsegmentMapMaxSegments = segmentId / tsegmentMapMaxSegments
  · have slot : other % tsegmentMapMaxSegments ≠ segmentId % tsegmentMapMaxSegments := by
      intro same
      apply ne
      refine ⟨page.1, page.2.1, ?_⟩
      rw [← Nat.div_add_mod other tsegmentMapMaxSegments, page.2.2, same, Nat.div_add_mod]
    rw [if_pos page, Option.map_map]
    simp only [Function.comp_def, if_neg slot]
  · rw [if_neg page]

/-- Recording a segment does not change which segment map pages can be read. -/
theorem Disk.isSome_tmap_setTmapEntry (ref : TmapsRef) (kind : SegmentType) (tmapId : Nat) :
    ((disk.setTmapEntry tmaps type segmentId block).tmap ref kind tmapId).isSome =
      (disk.tmap ref kind tmapId).isSome := by
  simp only [Disk.setTmapEntry]
  split
  · rw [Option.isSome_map]
  · rfl

end VirtualTape
