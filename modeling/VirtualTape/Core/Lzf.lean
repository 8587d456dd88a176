import VirtualTape.Lib.BackReference

/-!
# Decompressing a block

A block compressed with LZF is a sequence of literal runs, a control byte below 32 and the bytes of
the run, and of references to what was already decompressed, a control byte with the length and the
high bits of the distance. Compressed blocks are read from disk, so they may hold any bytes.
-/

namespace VirtualTape

/-- What a control byte and the bytes that belong to it say. -/
inductive LzfToken
  /-- Bytes as they are. -/
  | literals (bytes : List UInt8)
  /-- So many bytes and two more, from a distance in two bytes and one more back. -/
  | reference (len high : Nat) (low : UInt8)

/-- What `lzf_decompress` comes to. -/
inductive LzfResult
  /-- A byte outside the buffers was read. -/
  | overrun
  /-- It returned 0. -/
  | fails
  /-- What was decompressed. -/
  | decoded (out : List UInt8)

/-- Read a control byte and what belongs to it; none if the input ends before. -/
def lzfRead : List UInt8 → Option (LzfToken × List UInt8)
  | [] => none
  | ctrl :: input =>
    if ctrl.toNat < 32 then
      if input.length < ctrl.toNat + 1 then none
      else some (.literals (input.take (ctrl.toNat + 1)), input.drop (ctrl.toNat + 1))
    else
      let high := ctrl.toNat % 32
      match input with
      | [] => none
      | byte :: input =>
        if ctrl.toNat / 32 = 7 then
          match input with
          | [] => none
          | low :: input => some (.reference (7 + byte.toNat) high low, input)
        else some (.reference (ctrl.toNat / 32) high byte, input)

/-- Copy the bytes of a reference: many that do not overlap are copied at once. -/
def lzfCopy (len ref : Nat) (out : List UInt8) : Option (List UInt8) :=
  if 9 < len ∧ ref + (len + 2) ≤ out.length then some (out ++ (out.drop ref).take (len + 2))
  else copyBack (len + 2) ref out

/-- Do what a control byte says. -/
def lzfApply (outLen : Nat) (out : List UInt8) : LzfToken → LzfResult
  | .literals bytes =>
    if outLen < out.length + bytes.length then .fails else .decoded (out ++ bytes)
  | .reference len high low =>
    if outLen < out.length + len + 2 then .fails
    else if out.length < high * 256 + 1 + low.toNat then .fails
    else ((lzfCopy len (out.length - (high * 256 + 1 + low.toNat)) out).map
      LzfResult.decoded).getD .overrun

/-- Decompress the bytes left; `fuel` bounds the control bytes. -/
def lzfDecompressFrom (outLen : Nat) : Nat → List UInt8 → List UInt8 → LzfResult
  | _, [], out => .decoded out
  | 0, _ :: _, _ => .overrun
  | fuel + 1, ctrl :: input, out =>
    match lzfRead (ctrl :: input) with
    | none => .fails
    | some (token, rest) =>
      match lzfApply outLen out token with
      | .decoded out => lzfDecompressFrom outLen fuel rest out
      | stopped => stopped

/-- Decompress a block into a buffer. The first control byte is read in any case. -/
def lzfDecompress (outLen : Nat) (input : List UInt8) : LzfResult :=
  if input.length = 0 then .overrun else lzfDecompressFrom outLen input.length input []

end VirtualTape
