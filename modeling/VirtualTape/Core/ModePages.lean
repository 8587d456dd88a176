import VirtualTape.Lib.Buffer
import VirtualTape.Core.Drive
import VirtualTape.Core.VolType

/-!
# Mode pages

A drive keeps its mode pages as bytes. MODE SELECT takes a parameter header, a block descriptor and
pages from a list, one after the other, and applies each of them as it comes to it. A partition page is
checked against the tape in the drive first. A block descriptor may be cut by the end of the list, and
is then read on behind it.
-/

namespace VirtualTape

/-- What MODE SELECT reads of a tape. -/
structure ModeTape where
  /-- Make of the tape. -/
  make : VolType
  /-- Capacity it is restricted to. -/
  setSize : Nat

/-- What MODE SELECT works on. -/
structure ModeDrive where
  /-- The tape in the drive. -/
  tape : Option ModeTape
  /-- Device specific parameter: write protection and buffered mode. -/
  wp : UInt8
  /-- The `struct mode_parameter_block_descriptor`. -/
  blockDescriptor : Fin 8 → UInt8
  /-- The `struct data_compression_page`. -/
  compressionPage : Fin 16 → UInt8
  /-- The `struct device_configuration_page`. -/
  configurationPage : Fin 16 → UInt8
  /-- The `struct medium_partition_page`. -/
  partitionPage : Fin 16 → UInt8

/-- `CONTROL_MODE_PAGE`. -/
def controlModePageCode : UInt8 := 0x0A

/-- `DATA_COMPRESSION_PAGE`. -/
def dataCompressionPage : UInt8 := 0x0F

/-- `DEVICE_CONFIGURATION_PAGE`. -/
def deviceConfigurationPage : UInt8 := 0x10

/-- `MEDIUM_PARTITION_PAGE`. -/
def mediumPartitionPage : UInt8 := 0x11

/-! ## The header and the block descriptor -/

/-- `tdrive_update_mode_header` and `tdrive_update_mode_header10`. -/
def tdriveUpdateModeHeader (deviceSpecificParameter : UInt8) (drive : ModeDrive) : ModeDrive :=
  if (deviceSpecificParameter >>> 4) &&& 0x07 ≠ 0 then { drive with wp := drive.wp ||| 0x10 }
  else { drive with wp := drive.wp &&& 0x8F }

/-- A byte of a list, or of the memory behind it. -/
def listByte (behind : Nat → Option UInt8) (data : List UInt8) (place : Nat) : Option UInt8 :=
  data[place]?.or (behind (place - data.length))

/-- How a block descriptor is taken. -/
inductive DescriptorUpdate
  /-- It is refused. -/
  | refused
  /-- The list was read outside, where nothing is. -/
  | outside
  /-- It is taken. -/
  | updated (drive : ModeDrive)

/-- `tdrive_update_block_descriptor`. It does not see how much of the list is left, so a list that ends
inside the descriptor is read on behind its end. -/
def tdriveUpdateBlockDescriptor (behind : Nat → Option UInt8) (data : List UInt8) (dataLen : Nat)
    (drive : ModeDrive) : DescriptorUpdate :=
  if dataLen < 8 then .refused
  else
    match listByte behind data 5, listByte behind data 6, listByte behind data 7 with
    | some high, some middle, some low =>
      let blockLength := ofBe [high, middle, low]
      if blockLength ≠ 0 ∧ tdriveMaxBlockSize < blockLength then .refused
      else .updated
        { drive with
          blockDescriptor := Function.update (Function.update
            (Function.update drive.blockDescriptor 5 high) 6 middle) 7 low }
    | _, _, _ => .outside

/-! ## Pages -/

/-- `update_data_compression_page`; none when it reads outside the list. -/
def updateDataCompressionPage (data : List UInt8) (page : Fin 16 → UInt8) :
    Option (Fin 16 → UInt8) :=
  data[2]?.map fun dcc => Function.update page 2 ((page 2 &&& 0x7F) ||| (dcc &&& 0x80))

/-- `update_device_configuration_page`; none when it reads outside the list. The shift binds tighter
than the mask, so it is bit 0 that is tested. -/
def updateDeviceConfigurationPage (data : List UInt8) (page : Fin 16 → UInt8) :
    Option (Fin 16 → UInt8) :=
  data[1]?.bind fun pageLength =>
    if pageLength ≠ 0x0E then some page
    else
      data[10]?.bind fun sew => data[14]?.map fun algorithm =>
        Function.update (Function.update page 10
          (if sew &&& ((0x8 : UInt8) >>> 3) ≠ 0 then page 10 ||| 0x08 else page 10 &&& 0xF7)) 14 algorithm

/-- The sizes of a partition page; none when they are outside the list. -/
def readSizes (data : List UInt8) : Nat → Nat → Option (List UInt16)
  | 0, _ => some []
  | count + 1, offset =>
    data[offset]?.bind fun high => data[offset + 1]?.bind fun low =>
      (readSizes data count (offset + 2)).map (UInt16.ofNat (ofBe [high, low]) :: ·)

/-- Partitions a make can have besides the first one. -/
def getMaxAdditionalPartitions : VolType → Nat
  | .lto5 => 1
  | .lto6 => 3
  | _ => 0

/-- The fields of a new partition page that are checked. -/
structure MediumPartitionPage where
  /-- Number of partitions besides the first one. -/
  addlPartitionsDefined : Nat
  /-- Unit of the sizes. -/
  psum : Nat
  /-- Exponent of ten of the sizes. -/
  partitionUnits : Nat
  /-- The sizes. -/
  partitionSize : Nat → UInt16

/-- The fields of a partition page from its bytes. -/
def partitionFields (addl fdp units : UInt8) (sizes : Nat → UInt16) : MediumPartitionPage where
  addlPartitionsDefined := addl.toNat
  psum := ((fdp >>> 3) &&& 0x3).toNat
  partitionUnits := units.toNat
  partitionSize := sizes

/-- A size from its number of units, in words of 64 bits. -/
def partitionSizeFromUnits (partSize : UInt16) (units : Nat) : Nat :=
  partSize.toNat * Nat.iterate (· * 10 % 2 ^ 64) (units - 1) 10 % 2 ^ 64

/-- The loop over the sizes of a new page: whether one of them fills up the tape, and the sum of the
others; `count` sizes are left. None if a second one is to fill up the tape, or one behind the first
two. -/
def addSizes (new : MediumPartitionPage) : Nat → Nat → Bool → Nat → Option (Bool × Nat)
  | 0, _, fill, size => some (fill, size)
  | count + 1, pnum, fill, size =>
    if new.partitionSize pnum = 0xFFFF then
      if fill || decide (pnum > 1) then none else addSizes new count (pnum + 1) true size
    else
      addSizes new count (pnum + 1) fill
        ((size + partitionSizeFromUnits (new.partitionSize pnum) (new.partitionUnits % 16)) % 2 ^ 64)

/-- Is a new page refused by its fields alone? The length of the data follows the 8 bytes in front of
the sizes. -/
def refusesFields (tape : ModeTape) (new : MediumPartitionPage) (dataLen : Nat) : Bool :=
  decide (dataLen < 8) ||
  (new.partitionUnits != 0 && decide (new.partitionUnits % 16 < 9)) ||
  (new.partitionUnits == 0 && decide (new.addlPartitionsDefined > 1)) ||
  decide (new.addlPartitionsDefined > getMaxAdditionalPartitions tape.make) ||
  new.psum != 3 ||
  decide (dataLen < 8 + (new.addlPartitionsDefined + 1) * 2)

/-- Is a new page refused by its sizes? -/
def refusesSizes (tape : ModeTape) (new : MediumPartitionPage) : Bool :=
  new.partitionUnits != 0 &&
    match addSizes new (new.addlPartitionsDefined + 1) 0 false 0 with
    | none => true
    | some (fill, size) => !fill && decide (tape.setSize < size)

/-- The length that a partition page is given. -/
def partitionPageLength (addl : UInt8) : Nat := 8 + (addl.toNat + 1) * 2

/-- The bits of a partition page that say how partitions are made. -/
def partitionFlags (old new : UInt8) : UInt8 :=
  (old &&& 0x1B) |||
    if new &&& 0x20 ≠ 0 then 0x20 else if new &&& 0x40 ≠ 0 then 0x40
    else if new &&& 0x80 ≠ 0 then 0x80 else 0

/-- The partition page after a new one was accepted. -/
def acceptPartitionPage (addl fdp units : UInt8) (data : List UInt8) (page : Fin 16 → UInt8) :
    Fin 16 → UInt8 := fun place =>
  if place = 1 then UInt8.ofNat (partitionPageLength addl)
  else if place = 3 then addl
  else if place = 4 then partitionFlags (page 4) fdp
  else if place = 6 then units &&& 0x0F
  else if 8 ≤ place.val ∧ place.val < partitionPageLength addl then data[place.val]?.getD (page place)
  else page place

/-- What becomes of a partition page. -/
inductive PartitionUpdate
  /-- It is refused. -/
  | refused
  /-- The list was read outside. -/
  | outside
  /-- It is accepted. -/
  | accepted (page : Fin 16 → UInt8)

/-- `update_medium_partition_page` on the bytes of a page. -/
def ModeDrive.updateMediumPartitionPage (data : List UInt8) (drive : ModeDrive) : PartitionUpdate :=
  match drive.tape with
  | none => .refused
  | some tape =>
    if data.length < 8 then .refused
    else
      match data[3]?, data[4]?, data[6]? with
      | some addl, some fdp, some units =>
        if refusesFields tape (partitionFields addl fdp units fun _ => 0) data.length then .refused
        else
          match readSizes data (addl.toNat + 1) 8 with
          | none => .outside
          | some sizes =>
            if refusesSizes tape (partitionFields addl fdp units fun pnum => sizes[pnum]?.getD 0) then
              .refused
            else .accepted (acceptPartitionPage addl fdp units data drive.partitionPage)
      | _, _, _ => .outside

/-- How far MODE SELECT has come in its list. -/
structure SelectState where
  /-- The drive. -/
  drive : ModeDrive
  /-- A sense was constructed: the command ends with CHECK CONDITION. -/
  check : Bool
  /-- The pages that were taken so far, each with what follows it. -/
  applied : List (List UInt8)

/-- The switch over the page codes; none when the list is read outside. -/
def applyModePage (data : List UInt8) (state : SelectState) : Option SelectState :=
  data[0]?.bind fun first =>
    let pageCode := first &&& 0x3F
    let state := { state with applied := state.applied ++ [data] }
    let drive := state.drive
    if pageCode = dataCompressionPage then
      (updateDataCompressionPage data drive.compressionPage).map fun page =>
        { state with drive := { drive with compressionPage := page } }
    else if pageCode = mediumPartitionPage then
      match drive.updateMediumPartitionPage data with
      | .refused => some { state with check := true }
      | .outside => none
      | .accepted page => some { state with drive := { drive with partitionPage := page } }
    else if pageCode = deviceConfigurationPage then
      (updateDeviceConfigurationPage data drive.configurationPage).map fun page =>
        { state with drive := { drive with configurationPage := page } }
    else some state

/-- `get_mode_page_length`; none when it reads outside the list. -/
def getModePageLength (data : List UInt8) : Option Nat :=
  data[0]?.bind fun first => data[1]?.bind fun second =>
    let pageCode := first &&& 0x3F
    if (pageCode = deviceConfigurationPage ∧ second ≠ 0x0E) ∨
        (pageCode = controlModePageCode ∧ second ≠ 0x0A) then
      data[2]?.bind fun third => data[3]?.map fun fourth => (ofBe [third, fourth] + 4) % 2 ^ 16
    else some (second.toNat + 2)

/-- How MODE SELECT ends. -/
inductive SelectEnd
  /-- It is still in its loop. -/
  | running
  /-- The list was read outside. -/
  | outside
  /-- It has ended. -/
  | done (state : SelectState)

/-- The loop over the pages. The length of a page is kept in a variable of so many bits. -/
def selectLoop (width : Nat) : Nat → List UInt8 → SelectState → SelectEnd
  | 0, _, _ => .running
  | fuel + 1, data, state =>
    if data.length ≤ 4 then .done state
    else
      match getModePageLength data with
      | none => .outside
      | some length =>
        let pageLength := length % 2 ^ width
        if data.length < pageLength then .done state
        else
          match applyModePage data state with
          | none => .outside
          | some state => selectLoop width fuel (data.drop pageLength) state

/-- MODE SELECT(6) or MODE SELECT(10). -/
inductive ModeForm
  /-- Six bytes. -/
  | six
  /-- Ten bytes. -/
  | ten
  deriving DecidableEq, Repr

namespace ModeForm

/-- Size of the parameter header. -/
def headerLength : ModeForm → Nat
  | six => 4
  | ten => 8

/-- The device specific parameter in the header. -/
def deviceSpecific : ModeForm → List UInt8 → Option UInt8
  | six, list => list[2]?
  | ten, list => list[3]?

/-- The block descriptor length in the header. -/
def blockDescriptorLength : ModeForm → List UInt8 → Option Nat
  | six, list => list[3]?.map UInt8.toNat
  | ten, list => list[6]?.bind fun high => list[7]?.map fun low => ofBe [high, low]

/-- Bits of the variable that holds the length of a page. -/
def lengthWidth : ModeForm → Nat
  | six => 16
  | ten => 8

end ModeForm

/-- `tdrive_cmd_mode_select6` and `tdrive_cmd_mode_select10` with a parameter list and what is behind
it in memory; the fuel bounds the loop over the pages. -/
def tdriveCmdModeSelectIn (behind : Nat → Option UInt8) (form : ModeForm) (fuel : Nat)
    (list : List UInt8) (drive : ModeDrive) : SelectEnd :=
  if list.length < form.headerLength then .done ⟨drive, true, []⟩
  else
    match form.deviceSpecific list, form.blockDescriptorLength list with
    | some deviceSpecificParameter, some blockDescriptorLength =>
      let drive := tdriveUpdateModeHeader deviceSpecificParameter drive
      let data := list.drop form.headerLength
      if blockDescriptorLength = 0 then selectLoop form.lengthWidth fuel data ⟨drive, false, []⟩
      else
        match tdriveUpdateBlockDescriptor behind data blockDescriptorLength drive with
        | .refused => .done ⟨drive, true, []⟩
        | .outside => .outside
        | .updated drive =>
          selectLoop form.lengthWidth fuel (data.drop blockDescriptorLength) ⟨drive, false, []⟩
    | _, _ => .outside

/-- MODE SELECT where nothing is behind the list, so that reading there is seen. -/
def tdriveCmdModeSelect (form : ModeForm) (fuel : Nat) (list : List UInt8) (drive : ModeDrive) :
    SelectEnd :=
  tdriveCmdModeSelectIn (fun _ => none) form fuel list drive

/-- `tdrive_cmd_mode_select6`. -/
def tdriveCmdModeSelect6 := tdriveCmdModeSelect .six

/-- `tdrive_cmd_mode_select10`. -/
def tdriveCmdModeSelect10 := tdriveCmdModeSelect .ten

end VirtualTape
