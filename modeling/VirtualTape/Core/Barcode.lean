import VirtualTape.Lib.Printf
import VirtualTape.Core.VolType

/-!
# Adding cartridges with a series of barcodes

The management server adds cartridges to a library. Several cartridges at once get their barcodes from
a prefix of six characters: the last run of digits in it is counted up. The prefix is cut around this
run by a scan from its end, and a format is printed from the pieces with which every barcode is then
printed. A barcode that has not the length of the type is refused.
-/

namespace VirtualTape

open Printf (sprintf decimal)

/-- The size that the configuration gives to all cartridges in gigabytes, zero if it gives none. -/
def checkMaxVcartSize (configured : Int) : Nat :=
  if 1 ≤ configured ∧ configured ≤ 1600 then configured.toNat else 0

/-- Capacity of a new cartridge. -/
def getSizeSpec (maxVcartSize : Nat) (voltype : VolType) : Nat :=
  if maxVcartSize ≠ 0 then maxVcartSize * 1024 * 1024 * 1024 % 2 ^ 64
  else getVolSizeDefault voltype

/-- Has a barcode the length of its type? -/
def vollabelValid (label : List Char) : VolType → Bool
  | .lto1 | .lto2 | .lto3 | .lto4 | .lto5 | .lto6 => label.length == 8
  | .dlt4 | .vstape => label.length == 6
  | .sdlt1 | .sdlt2 | .sdlt3 => label.length == 7
  | _ => false

/-- What is put behind the prefix of a barcode. -/
def getVoltagSuffix : VolType → Bool → List Char
  | .lto1, worm => if !worm then ['L', '1'] else ['L', 'R']
  | .lto2, worm => if !worm then ['L', '2'] else ['L', 'S']
  | .lto3, worm => if !worm then ['L', '3'] else ['L', 'T']
  | .lto4, worm => if !worm then ['L', '4'] else ['L', 'U']
  | .lto5, worm => if !worm then ['L', '5'] else ['L', 'V']
  | .lto6, worm => if !worm then ['L', '6'] else ['L', 'W']
  | .dlt4, _ | .vstape, _ => []
  | .sdlt1, _ | .sdlt2, _ | .sdlt3, _ => ['S']
  | _, _ => []

/-! ## The format of a series -/

/-- Scan the first `count` characters of a prefix from their end. The result is the place of the last
digit and, if there is one, the place of the character in front of its run; `last` is the place of the
last digit behind. -/
def scanLabel (label : List Char) : Nat → Option Nat → Option Nat × Option Nat
  | 0, last => (last, none)
  | i + 1, last =>
    if (label.getD i ' ').isDigit then scanLabel label i (last.or (some i))
    else
      match last with
      | some place => if 0 < place then (last, some i) else scanLabel label i last
      | none => scanLabel label i none

/-- The number at the start of a text. -/
def atoi (text : List Char) : Nat := decimal (text.takeWhile Char.isDigit)

/-- The first number of a series and the format of its barcodes. If no other character was found in
front of the run, the whole prefix is taken to be the run. -/
def getLabelFormat (label suffix : List Char) : Option (Nat × List Char) :=
  if label.length ≠ 6 then none
  else
    match scanLabel label 6 none with
    | (none, _) => none
    | (some last, split) =>
      let (header, range, trailer) :=
        match split with
        | some i => (label.take (i + 1), (label.drop (i + 1)).take (last - i), label.drop (last + 1))
        | none => ([], [], [])
      let range := if range.isEmpty then label else range
      some (atoi range,
        header ++ ('%' :: '0' :: Nat.toDigits 10 range.length ++ 'd' :: (trailer ++ suffix)))

/-! ## Adding cartridges -/

/-- A cartridge as the server knows it. -/
structure Vcartridge where
  /-- The library. -/
  tlId : Nat
  /-- The type. -/
  type : VolType
  /-- Capacity. -/
  size : Nat
  /-- The pool. -/
  groupId : Nat
  /-- Name of the pool. -/
  groupName : String
  /-- May recorded objects not be overwritten? -/
  worm : Bool
  /-- The barcode. -/
  label : List Char
  /-- May the cartridge go into any free slot? -/
  useFreeSlot : Bool
  /-- Tape id. -/
  tapeId : Nat
  deriving DecidableEq, Repr

/-- What is asked for. -/
structure AddVolumes where
  /-- The library. -/
  tlId : Nat
  /-- The pool. -/
  groupId : Nat
  /-- Name of the pool. -/
  groupName : String
  /-- Are the cartridges of the pool write once? -/
  groupWorm : Bool
  /-- Type of the cartridges. -/
  voltype : VolType
  /-- Number of cartridges. -/
  nvolumes : Nat
  /-- Are they to be write once? -/
  worm : Bool
  /-- Barcode, or prefix of the barcodes. -/
  label : List Char

/-- What the configuration, the database and the kernel answer; the number counts the cartridges that
were added before. -/
structure AddEnv where
  /-- May cartridges go into any free slot? -/
  useFreeSlot : Bool
  /-- The size that the configuration gives. -/
  maxVcartSize : Int
  /-- Is no cartridge found with a barcode? -/
  labelUnique : Nat → List Char → Bool
  /-- Is there memory for one more? -/
  hasMemory : Nat → Bool
  /-- A tape id that is free, or zero. -/
  nextTapeId : Nat → Nat
  /-- The error with which the database or the kernel refuse a cartridge. -/
  addNewVcartridge : Nat → Vcartridge → Option String

/-- The cartridges that were added, and the error with which this ended. -/
structure AddResult where
  /-- The new cartridges. -/
  added : List Vcartridge
  /-- The error. -/
  error : Option String
  deriving DecidableEq, Repr

/-- The end of an error text. -/
def addedText (i : Nat) : String := " Number of VCartridges added are " ++ toString i

/-- The cartridge with a barcode. -/
def AddVolumes.vinfo (request : AddVolumes) (env : AddEnv) (i : Nat) (label : List Char) : Vcartridge :=
  ⟨request.tlId, request.voltype, getSizeSpec (checkMaxVcartSize env.maxVcartSize) request.voltype,
    request.groupId, request.groupName, request.worm || request.groupWorm, label, env.useFreeSlot,
    env.nextTapeId i⟩

/-- Add the cartridges from one on; the number of those left is counted down. Nothing is returned if
printing a barcode is not defined. -/
def addVolumesFrom (env : AddEnv) (request : AddVolumes) (labelfmt : List Char) :
    Nat → Nat → Nat → List Vcartridge → Option AddResult
  | 0, _, _, added => some ⟨added, none⟩
  | left + 1, i, start, added =>
    match if request.nvolumes = 1 then some request.label else sprintf labelfmt [start] with
    | none => none
    | some vollabel =>
      if request.nvolumes ≠ 1 && !vollabelValid vollabel request.voltype then
        some ⟨added, some ("VCartridge label \"" ++ String.ofList vollabel ++ "\" is not valid." ++
          addedText i)⟩
      else if !env.labelUnique i vollabel then
        some ⟨added, some ("VCartridge label \"" ++ String.ofList vollabel ++ "\" is not unique." ++
          addedText i)⟩
      else if !env.hasMemory i then
        some ⟨added, some ("Memory allocation failure." ++ addedText i)⟩
      else
        let vinfo := request.vinfo env i vollabel
        if vinfo.tapeId = 0 then
          some ⟨added, some ("Reached maximum possible tape ids. A service restart might help." ++
            addedText i)⟩
        else
          match env.addNewVcartridge i vinfo with
          | some text => some ⟨added, some (text ++ "." ++ addedText i)⟩
          | none => addVolumesFrom env request labelfmt left (i + 1) (start + 1) (added ++ [vinfo])

/-- Add cartridges to a library. -/
def vdeviceAddVolumes (env : AddEnv) (request : AddVolumes) : Option AddResult :=
  if getSizeSpec (checkMaxVcartSize env.maxVcartSize) request.voltype = 0 then
    some ⟨[], some "Unable to get a size specification for the VCartridge(s) type"⟩
  else if 1 < request.nvolumes then
    match getLabelFormat request.label (getVoltagSuffix request.voltype request.worm) with
    | none =>
      some ⟨[], some "Cannot get a numeric range from the specified barcode label prefix"⟩
    | some (start, labelfmt) => addVolumesFrom env request labelfmt request.nvolumes 0 start []
  else addVolumesFrom env request [] request.nvolumes 0 0 []

end VirtualTape
