import VirtualTape.Core.Segment
import VirtualTape.Verif.Medium
import VirtualTape.Verif.Pool

/-!
# The segments of a partition

What is recorded about a segment, and which fields moving a cursor and releasing a page of segments
leave alone.
-/

namespace VirtualTape

/-- The recorded address of a segment of a partition. -/
def State.entry (s : State) (type : SegmentType) (segmentId : Nat) : Option Nat :=
  s.disk.tmapEntry s.part.tmaps type segmentId

section Fields

variable (part : Partition) (tsegment : Tsegment)

/-- Moving a cursor leaves the segment maps alone. -/
@[simp]
theorem Partition.setSegment_tmaps (type : SegmentType) :
    (part.setSegment type tsegment).tmaps = part.tmaps := by
  cases type <;> rfl

/-- Moving a cursor leaves the number of segment map pages alone. -/
@[simp]
theorem Partition.setSegment_maxTmaps (type kind : SegmentType) :
    (part.setSegment type tsegment).maxTmaps kind = part.maxTmaps kind := by
  cases type <;> cases kind <;> rfl

end Fields

/-- One page of releasing, stated by hand: unfolding the definition would run through the slots. -/
theorem eodSegmentsFrom_succ (s : State) (type : SegmentType) (fuel tmapId entryId : Nat) :
    eodSegmentsFrom type (fuel + 1) tmapId entryId s =
      match s.disk.tmap s.part.tmaps type tmapId with
      | none => (false, s)
      | some _ =>
        let (done, s) := tmapEodSegments s type tmapId entryId
        if done = 0 then (true, s) else eodSegmentsFrom type fuel (tmapId + 1) 0 s := rfl

end VirtualTape
