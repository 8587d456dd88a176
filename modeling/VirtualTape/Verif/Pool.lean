import VirtualTape.Core.Bdev
import Mathlib.Tactic.Ring

/-!
# The allocator

Disks are found by their ids, and taking a unit back changes no disk.
-/

namespace VirtualTape

/-- Sectors of an index page at a sector size. -/
def pageBlocks (shift : Nat) : Nat := 2 ^ (12 - shift)

variable {group : Bdevgroup} {bint : Bdevint} {shift bid : Nat}

/-- A disk found by its id is one of the pool and has that id. -/
theorem bdevFind_some (found : bdevFind group bid = some bint) :
    bint ∈ group.bints ∧ bint.bid = bid ∧ bid < tlMaxDisks := by
  unfold bdevFind at found
  split at found
  · rename_i fits
    refine ⟨List.mem_of_find?_eq_some found, ?_, fits⟩
    simpa using List.find?_some found
  · exact absurd found (by simp)

/-- Which disks are found depends on the disks of the pool only. -/
theorem bdevFind_congr {other : Bdevgroup} (same : other.bints = group.bints) (bid : Nat) :
    bdevFind other bid = bdevFind group bid := by
  simp only [bdevFind, same]

/-- Queueing a disk changes no disk and no bit. -/
theorem bdevAllocListInsert_frame (group : Bdevgroup) (bid : Nat) :
    (bdevAllocListInsert group bid).bints = group.bints ∧
      (bdevAllocListInsert group bid).bmap = group.bmap := by
  unfold bdevAllocListInsert
  split
  · exact ⟨rfl, rfl⟩
  · exact ⟨rfl, rfl⟩

/-- Taking a unit back changes no disk. -/
@[simp]
theorem bdevReleaseBlock_bints (group : Bdevgroup) (bid block : Nat) :
    (bdevReleaseBlock group bid block).bints = group.bints := by
  unfold bdevReleaseBlock
  split
  · rfl
  · rw [(bdevAllocListInsert_frame _ _).1]
    split
    · rfl
    · rfl

end VirtualTape
