import Mathlib.Init

/-!
# Makes of tapes

The make of a tape decides its usual capacity, the barcodes it may have, the attributes that it starts
with and how many partitions it can be given.
-/

namespace VirtualTape

/-- Makes of tapes. -/
inductive VolType
  /-- `VOL_TYPE_UNKNOWN`. -/
  | unknown
  /-- `VOL_TYPE_CLEANING`. -/
  | cleaning
  /-- `VOL_TYPE_DIAGNOSTICS`. -/
  | diagnostics
  /-- `VOL_TYPE_DLT_4`. -/
  | dlt4
  /-- `VOL_TYPE_VSTAPE`. -/
  | vstape
  /-- `VOL_TYPE_SDLT_1`. -/
  | sdlt1
  /-- `VOL_TYPE_SDLT_2`. -/
  | sdlt2
  /-- `VOL_TYPE_SDLT_3`. -/
  | sdlt3
  /-- `VOL_TYPE_LTO_1`. -/
  | lto1
  /-- `VOL_TYPE_LTO_2`. -/
  | lto2
  /-- `VOL_TYPE_LTO_3`. -/
  | lto3
  /-- `VOL_TYPE_LTO_4`. -/
  | lto4
  /-- `VOL_TYPE_LTO_5`. -/
  | lto5
  /-- `VOL_TYPE_LTO_6`. -/
  | lto6
  deriving DecidableEq, Repr

/-- Usual capacity of a make. -/
def getVolSizeDefault : VolType → Nat
  | .lto1 => 100 * 1024 * 1024 * 1024
  | .lto2 => 200 * 1024 * 1024 * 1024
  | .lto3 => 400 * 1024 * 1024 * 1024
  | .lto4 => 800 * 1024 * 1024 * 1024
  | .lto5 => 1500 * 1024 * 1024 * 1024
  | .lto6 => 2500 * 1024 * 1024 * 1024
  | .sdlt1 => 110 * 1024 * 1024 * 1024
  | .sdlt2 => 160 * 1024 * 1024 * 1024
  | .sdlt3 => 320 * 1024 * 1024 * 1024
  | .vstape => 80 * 1024 * 1024 * 1024
  | .dlt4 => 40 * 1024 * 1024 * 1024
  | _ => 0

end VirtualTape
