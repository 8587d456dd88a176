import Mathlib.Data.Int.Order.Basic
import Mathlib.Tactic.MkIffOfInductiveProp
import Mathlib.Tactic.SplitIfs
import VirtualTape.Core.Admission
import VirtualTape.Spec.Recorded

/-!
# What an admitted write leaves of the capacity

An admitted write should stay below the capacity of its partition, and leave 512 MB of it unless a
warning is given. The check works with a total whose parts are cut to 32 bits, and with the capacity
of the tape.
-/

namespace VirtualTape

variable {s : State} {verdict : WriteVerdict}

/-- The bytes of a partition once the queued writes and the new one are done. -/
def Partition.total (part : Partition) (pendingSize blockSize numBlocks : Nat) : Nat :=
  part.used + pendingSize + blockSize * numBlocks

variable {part : Partition} {pendingSize blockSize numBlocks : Nat}

end VirtualTape
