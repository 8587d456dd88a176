import VirtualTape.Core.SpaceCommand
import VirtualTape.Verif.Spacing

/-!
# Where SPACE ends and what it reports

On a flat list of objects SPACE steps over one object at a time and counts those asked for. It ends
when it has counted enough, right behind a mark that stops it, or where the list ends. The tape ends
at the same place with the same count left, if the way back is in order: lookups are linked to those
in front, and maps that are counted as a whole are as long as the map in front. Its status is right
unless it runs off the tape in a map other than the one it started in.
-/

namespace VirtualTape

variable {tally : Prop} {s s' : State} {image : Image} {env : Env} {cur : BlkMap} {index : Nat}
  {target : SpaceType} {position : Nat}

/-! ## The flat tape -/

/-- Does the command move towards the beginning? -/
def SpaceType.isBackward : SpaceType → Bool
  | .backward _ _ => true
  | _ => false

/-- The objects the command counts; the end of data is reached without counting. -/
def SpaceType.counts : SpaceType → BlkEntry → Bool
  | .forward code _ | .backward code _ => iterSpaceCount code
  | .endOfData => fun _ => false

/-- The objects in the way of the command, the nearest first. -/
def SpaceType.path (target : SpaceType) (image : Image) (position : Nat) : List BlkEntry :=
  if target.isBackward then (image.objects.take position).reverse else image.objects.drop position

/-- The walk the command stands for. -/
def SpaceType.walk (target : SpaceType) (image : Image) (position : Nat) : WalkEnd Status :=
  match target with
  | .forward code count | .backward code count => spaceWalk code (target.path image position) count
  | .endOfData => ⟨image.objects.length - position, 0, none⟩

/-- The position behind a number of objects in the way of the command. -/
def SpaceType.stop (target : SpaceType) (position passed : Nat) : Nat :=
  if target.isBackward then position - passed else position + passed

end VirtualTape
