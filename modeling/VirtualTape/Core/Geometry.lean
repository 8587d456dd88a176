import VirtualTape.Core.ElementStatus

/-!
# Building a library

A new library has a transport and the slots and ports of its configuration; drives are added one by
one. The page of a new cartridge describes the library it was made for, with an array of descriptors
for the drives.
-/

namespace VirtualTape

/-- `TL_MAX_DRIVES`. -/
def tlMaxDrives : Nat := 7

/-- `ELEMENT_DESCRIPTOR_ACCESS_MASK`. -/
def elementDescriptorAccessMask : UInt8 := 0x08

/-- `IE_MASK_INENAB` and `IE_MASK_EXENAB`. -/
def ieMaskEnab : UInt8 := 0x20 ||| 0x10

/-- What is used of a `struct vdeviceinfo` for a library. -/
structure LibraryConfig where
  /-- Library id. -/
  tlId : Nat
  /-- Name. -/
  name : String
  /-- Serial number. -/
  serialNumber : String
  /-- Make. -/
  make : Nat
  /-- Number of slots. -/
  slots : Nat
  /-- Number of ports. -/
  ieports : Nat
  /-- The library is a `LIBRARY_TYPE_VHP_EMLSERIES`. -/
  emlSeries : Bool
  /-- The serial number of a drive is reported as its alternate volume tag. -/
  serialAsAvoltag : Bool

/-- What is used of a `struct tdrive` when a drive is added and described. -/
structure Tdrive where
  /-- Target id. -/
  targetId : Nat
  /-- Make. -/
  make : Nat
  /-- Name. -/
  name : String
  /-- Serial number. -/
  serialNumber : String
  /-- Bytes of the serial number. -/
  serialBytes : Nat → UInt8
  /-- Bytes of the device identifier. -/
  identifier : Nat → UInt8
  /-- Length of the device identifier. -/
  identifierLength : UInt8

/-- A library with its drives in the order in which they were added. -/
structure Mchanger where
  /-- The configuration. -/
  config : LibraryConfig
  /-- The elements. -/
  library : ElementLibrary
  /-- The drives. -/
  tdrives : List Tdrive
  /-- Every drive has an element. -/
  drives_eq : (library.elements .dataTransfer).length = tdrives.length

/-- A new element: it can be reached and is empty. -/
def newElement (flags : UInt8) : StatusElement :=
  ⟨0, elementDescriptorAccessMask ||| flags, 0, 0, 0, 0, fun _ => 0, fun _ => 0, fun _ => 0⟩

/-- The library with its transport only. -/
def bareLibrary (config : LibraryConfig) : ElementLibrary where
  elements type := if type = .mediumTransport then [newElement 0] else []
  addressed := by
    intro type index element found
    split at found
    · rename_i isTransport
      cases index with
      | zero =>
        cases found
        rw [isTransport]
        rfl
      | succ index => cases found
    · cases found
  transport := rfl
  emlSeries := config.emlSeries
  devidLen := 0
  devidShort := by decide
  serialAsAvoltag := config.serialAsAvoltag

/-- A slot is not the transport. -/
theorem storage_ne_transport : ElementType.storage ≠ .mediumTransport := by
  decide

/-- A port is not the transport. -/
theorem importExport_ne_transport : ElementType.importExport ≠ .mediumTransport := by
  decide

/-- A drive is not the transport. -/
theorem dataTransfer_ne_transport : ElementType.dataTransfer ≠ .mediumTransport := by
  decide

/-- Add slots. -/
def addSlots : Nat → ElementLibrary → ElementLibrary
  | 0, library => library
  | count + 1, library =>
    addSlots count (mchangerAddElement library .storage (newElement 0) storage_ne_transport)

/-- Add ports. -/
def addPorts : Nat → ElementLibrary → ElementLibrary
  | 0, library => library
  | count + 1, library =>
    addPorts count
      (mchangerAddElement library .importExport (newElement ieMaskEnab) importExport_ne_transport)

/-- Adding slots and ports adds no drive. -/
theorem addSlots_addPorts_drives (slots ports : Nat) (library : ElementLibrary) :
    (addPorts ports (addSlots slots library)).elements .dataTransfer =
      library.elements .dataTransfer := by
  have afterPorts (library : ElementLibrary) : (addPorts ports library).elements .dataTransfer =
      library.elements .dataTransfer := by
    induction ports generalizing library with
    | zero => rfl
    | succ ports ih => exact ih _
  have afterSlots : (addSlots slots library).elements .dataTransfer =
      library.elements .dataTransfer := by
    induction slots generalizing library with
    | zero => rfl
    | succ slots ih => exact ih _
  rw [afterPorts, afterSlots]

/-- A new library. -/
def mchangerNew (config : LibraryConfig) : Mchanger where
  config := config
  library := addPorts config.ieports (addSlots config.slots (bareLibrary config))
  tdrives := []
  drives_eq := by
    rw [addSlots_addPorts_drives]
    rfl

/-- The element of a drive. -/
def Tdrive.element (tdrive : Tdrive) : StatusElement :=
  { newElement 0 with serialNumber := tdrive.serialBytes, identifier := tdrive.identifier }

/-- Add a drive, unless there are too many; `tdrive` is what `tdrive_new` returns. -/
def mchangerAddTdrive (mchanger : Mchanger) (tdrive : Option Tdrive) : Mchanger :=
  if tlMaxDrives < mchanger.tdrives.length then mchanger
  else
    match tdrive with
    | none => mchanger
    | some tdrive =>
      let library :=
        mchangerAddElement mchanger.library .dataTransfer tdrive.element dataTransfer_ne_transport
      { mchanger with
        library :=
          { library with
            devidLen := max library.devidLen tdrive.identifierLength.toNat
            devidShort := Nat.max_lt.2 ⟨library.devidShort, tdrive.identifierLength.toNat_lt⟩ }
        tdrives := mchanger.tdrives ++ [tdrive]
        drives_eq := by
          simp [library, mchangerAddElement, mchanger.drives_eq] }

/-- A `struct drive_info`. -/
structure DriveInfo where
  /-- Target id. -/
  targetId : Nat
  /-- Make. -/
  make : Nat
  /-- Name. -/
  name : String
  /-- Serial number. -/
  serialNumber : String

/-- A `struct vtl_info`. The descriptors of the drives are numbered from the start of the array on,
which has room for `tlMaxDrives` of them. -/
structure VtlInfo where
  /-- Name. -/
  name : String
  /-- Serial number. -/
  serialNumber : String
  /-- Library id. -/
  tlId : Nat
  /-- Number of slots. -/
  slots : Nat
  /-- Make. -/
  type : Nat
  /-- Number of ports. -/
  ieports : Nat
  /-- Number of drives. -/
  drives : Nat
  /-- The descriptors that were written, with their places. -/
  driveInfo : List (Nat × DriveInfo)

/-- Descriptors of drives, written from a place on. -/
def describeDrives : Nat → List Tdrive → List (Nat × DriveInfo)
  | _, [] => []
  | place, tdrive :: tdrives =>
    (place, ⟨tdrive.targetId % 2 ^ 16, tdrive.make % 2 ^ 16, tdrive.name, tdrive.serialNumber⟩) ::
      describeDrives (place + 1) tdrives

/-- What the page of a new cartridge says about its library. -/
def mchangerInitTapeMetadata (mchanger : Mchanger) : VtlInfo where
  name := mchanger.config.name
  serialNumber := mchanger.config.serialNumber
  tlId := mchanger.config.tlId % 2 ^ 16
  slots := (mchanger.library.elements .storage).length % 2 ^ 16
  type := mchanger.config.make % 2 ^ 8
  ieports := (mchanger.library.elements .importExport).length % 2 ^ 8
  drives := mchanger.tdrives.length % 2 ^ 8
  driveInfo := describeDrives 0 mchanger.tdrives

end VirtualTape
