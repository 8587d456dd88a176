import VirtualTape.Core.Position

/-!
# The SPACE command of a drive

The drive decodes the command, hands it to the tape and turns the status of the tape into sense data.
The information field of the sense data is the count that is left.
-/

namespace VirtualTape

/-- The count of a command: 24 bits in two's complement. -/
def spaceCommandCount (field : Nat) : Int :=
  if field > 0x7FFFFF then -((0x7FFFFF - field % 2 ^ 23 + 1 : Nat) : Int) else field

/-- What a code and a count ask for; `none` is a code that is not supported. -/
def spaceTarget (code : Nat) (count : Int) : Option SpaceType :=
  let move (code : SpaceCode) : SpaceType :=
    if 0 < count then .forward code count.toNat else .backward code (-count).toNat
  match code with
  | 0 => some (move .blocks)
  | 1 => some (move .filemarks)
  | 3 => some .endOfData
  | 4 => some (move .setmarks)
  | _ => none

/-- The answer to a SPACE command. -/
inductive SpaceReply where
  /-- GOOD status. -/
  | good
  /-- The code is not supported. -/
  | illegalRequest
  /-- Sense data for a status of the tape, with the information field. -/
  | sense (status : Status) (info : Nat)
  deriving DecidableEq, Repr

/-- The answer for a status of the tape and a count that is left. -/
def spaceReply (status : Status) (left : Nat) : SpaceReply :=
  match status with
  | .ok => .good
  | .mediaError => .sense .mediaError 0
  | status => .sense status left

/-- The SPACE command. -/
def tdriveCmdSpace (env : Env) (code field : Nat) (s : State) : Option (SpaceReply × State) :=
  let count := spaceCommandCount field
  if count = 0 ∧ code ≠ 3 then some (.good, s)
  else
    match spaceTarget code count with
    | none => some (.illegalRequest, s)
    | some target =>
      (tapePartitionSpaceCount env target s).map fun (status, left, s) => (spaceReply status left, s)

end VirtualTape
