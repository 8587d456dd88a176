import VirtualTape.Lib.Buffer
import VirtualTape.Core.Changer

/-!
# READ ELEMENT STATUS

A library keeps its elements in one list for each type, in the order in which they were added, and
each element has the descriptor that is reported for it. The command goes through the lists of the
requested types, and for each of them it copies the descriptors into the buffer as far as there is
room and then puts a page header in front of them.
-/

namespace VirtualTape

/-! ## Elements -/

/-- What is reported of a `struct mchanger_element`. -/
structure StatusElement where
  /-- Element address. -/
  address : Nat
  /-- Flags. -/
  flags : UInt8
  /-- Additional sense code. -/
  asc : UInt8
  /-- Additional sense code qualifier. -/
  ascq : UInt8
  /-- SVALID and INVERT. -/
  invert : UInt8
  /-- Source storage element address. -/
  sourceStorageElementAddress : Nat
  /-- Memory from the volume tag on. -/
  voltag : Nat → UInt8
  /-- Memory from the serial number on. -/
  serialNumber : Nat → UInt8
  /-- Memory from the device identifier on. -/
  identifier : Nat → UInt8

/-- The first bytes of memory. -/
def firstBytes (memory : Nat → UInt8) (count : Nat) : List UInt8 := (List.range count).map memory

/-- Size of a `struct element_status_data` and of a `struct element_status_page`. -/
def elementStatusSize : Nat := 8

/-- Size of a `struct element_descriptor_common`. -/
def elementDescriptorCommonSize : Nat := 12

/-- Size of a `struct voltag`. -/
def voltagSize : Nat := 36

/-- Size of a `struct device_identifier`. -/
def deviceIdentifierSize : Nat := 4

/-- Size of a `struct identifier`. -/
def identifierSize : Nat := 132

/-- `VHP_EMLESERIES_ID_INCR`. -/
def vhpEmlSeriesIdIncr : Nat := 10

/-- `ELEMENT_DESCRIPTOR_EXCEPT_MASK`. -/
def elementDescriptorExceptMask : UInt8 := 0x04

/-- The `struct element_descriptor_common` of an element. -/
def StatusElement.common (element : StatusElement) : List UInt8 :=
  beBytes 2 element.address ++
    [element.flags, 0, element.asc, element.ascq, 0, 0, 0, element.invert] ++
    beBytes 2 element.sourceStorageElementAddress

/-- Element type codes. -/
def ElementType.code : ElementType → Nat
  | .mediumTransport => 1
  | .storage => 2
  | .importExport => 3
  | .dataTransfer => 4

/-- Where the addresses of a type begin. -/
def ElementType.startAddress : ElementType → Nat
  | .mediumTransport => 0
  | .dataTransfer => 256
  | .importExport => 768
  | .storage => 1024

/-- The elements of a library, with what their descriptors depend on. -/
structure ElementLibrary where
  /-- The elements of each type. -/
  elements : ElementType → List StatusElement
  /-- Elements have the addresses that follow each other from the first one of their type. -/
  addressed : ∀ type index element, (elements type)[index]? = some element →
    element.address = (type.startAddress + index) % 2 ^ 16
  /-- There is one transport. -/
  transport : (elements .mediumTransport).length = 1
  /-- The library is a `LIBRARY_TYPE_VHP_EMLSERIES`. -/
  emlSeries : Bool
  /-- Length of the longest device identifier. -/
  devidLen : Nat
  /-- That length is stored in a byte. -/
  devidShort : devidLen < 256
  /-- The serial number of a drive is reported as its alternate volume tag. -/
  serialAsAvoltag : Bool

/-- `get_next_element_address`. -/
def getNextElementAddress (library : ElementLibrary) (type : ElementType) : Nat :=
  (type.startAddress + (library.elements type).length) % 2 ^ 16

/-- `mchanger_add_element` for a slot, a port or a drive. -/
def mchangerAddElement (library : ElementLibrary) (type : ElementType) (element : StatusElement)
    (other : type ≠ .mediumTransport) : ElementLibrary where
  elements := Function.update library.elements type (library.elements type ++
    [{ element with address := getNextElementAddress library type }])
  addressed := by
    intro asked index found isFound
    by_cases isType : asked = type
    · subst isType
      rw [Function.update_self] at isFound
      rcases Nat.lt_or_ge index (library.elements asked).length with before | behind
      · rw [List.getElem?_append_left before] at isFound
        exact library.addressed asked index found isFound
      · rw [List.getElem?_append_right behind, List.getElem?_singleton] at isFound
        split at isFound
        · rename_i isLast
          cases isFound
          rw [getNextElementAddress, show (library.elements asked).length = index by omega]
        · cases isFound
    · rw [Function.update_of_ne isType] at isFound
      exact library.addressed asked index found isFound
  transport := by
    rw [Function.update_of_ne other.symm]
    exact library.transport
  emlSeries := library.emlSeries
  devidLen := library.devidLen
  devidShort := library.devidShort
  serialAsAvoltag := library.serialAsAvoltag

/-! ## Descriptors -/

/-- The command. -/
structure StatusRequest where
  /-- Element type code; zero asks for all types. -/
  elementTypeCode : Nat
  /-- Starting element address. -/
  startElementAddress : Nat
  /-- Number of elements. -/
  numElements : Nat
  /-- The number is given in two bytes. -/
  numShort : numElements < 2 ^ 16
  /-- Allocation length. -/
  allocationLength : Nat
  /-- Volume tags are asked for. -/
  voltag : Bool
  /-- Device identifiers are asked for. -/
  dvcid : Bool
  deriving DecidableEq, Repr

/-- How the elements of one type are reported. -/
structure PageFormat where
  /-- The type. -/
  elementType : ElementType
  /-- Room in the buffer. -/
  allocLen : Nat
  /-- Volume tags. -/
  voltag : Bool
  /-- Device identifiers. -/
  dvcid : Bool
  /-- Length of an identifier. -/
  idlength : Nat
  /-- Length of an alternate volume tag. -/
  avoltagLen : Nat
  /-- The library is a `LIBRARY_TYPE_VHP_EMLSERIES`. -/
  emlSeries : Bool

/-- `element_idlength`. -/
def elementIdlength (library : ElementLibrary) : ElementType → Nat
  | .dataTransfer => library.devidLen
  | _ => 0

/-- How `read_element_status` reports a type. -/
def pageFormat (library : ElementLibrary) (request : StatusRequest) (type : ElementType) :
    PageFormat where
  elementType := type
  allocLen := request.allocationLength
  voltag := request.voltag
  dvcid := request.dvcid
  idlength :=
    if !request.dvcid then deviceIdentifierSize
    else deviceIdentifierSize + elementIdlength library type +
      if library.emlSeries then vhpEmlSeriesIdIncr else 0
  avoltagLen :=
    if request.voltag && type == .dataTransfer && library.serialAsAvoltag then voltagSize else 0
  emlSeries := library.emlSeries

namespace PageFormat

variable (format : PageFormat)

/-- `descriptor_len`, the identifier and the alternate volume tag together. -/
def descriptorLength : Nat :=
  elementDescriptorCommonSize + (if format.voltag then voltagSize else 0) + format.idlength +
    format.avoltagLen

/-- `element_descriptor_copy_status`. -/
def elementDescriptorCopyStatus (element : StatusElement) (place : Buffer × Nat) : Buffer × Nat :=
  let place := Buffer.copyPart format.allocLen element.common place
  if format.voltag then Buffer.copyPart format.allocLen (firstBytes element.voltag voltagSize) place else place

/-- `copy_avoltag`. -/
def copyAvoltag (element : StatusElement) (buffer : Buffer) (offset minLen : Nat) : Buffer :=
  let buffer := buffer.write offset (List.replicate minLen 0)
  if 4 < minLen then buffer.write (offset + 4) (firstBytes element.serialNumber minLen) else buffer

/-- `copy_identifier`. -/
def copyIdentifier (element : StatusElement) (buffer : Buffer) (offset minLen : Nat) : Buffer :=
  let buffer := buffer.write offset (List.replicate minLen 0)
  if !format.dvcid || format.elementType != .dataTransfer then buffer
  else
    let buffer := buffer.write offset (firstBytes element.identifier minLen)
    if format.emlSeries && decide (identifierSize ≤ minLen) then
      buffer.write (offset + 3) [element.identifier 3 + UInt8.ofNat vhpEmlSeriesIdIncr]
    else buffer

/-- `error_element_descriptor`. -/
def errorElementDescriptor (address : Nat) (place : Buffer × Nat) : Buffer × Nat :=
  let minLen := min elementDescriptorCommonSize (format.allocLen - place.2)
  let place :=
    if 0 < minLen then
      (((place.1.write place.2 (List.replicate minLen 0)).write place.2 (beBytes 2 address)).write
        (place.2 + 2) [elementDescriptorExceptMask], place.2 + minLen)
    else place
  let place :=
    if format.voltag then Buffer.copyPart format.allocLen (List.replicate voltagSize 0) place else place
  Buffer.copyPart format.allocLen (List.replicate format.idlength 0) place

/-- The alternate volume tag of an element, if there is to be one. -/
def avoltagPart (element : StatusElement) (place : Buffer × Nat) : Buffer × Nat :=
  if format.avoltagLen = 0 then place
  else
    let minLen := min (format.allocLen - place.2) voltagSize
    if 0 < minLen then (copyAvoltag element place.1 place.2 minLen, place.2 + minLen) else place

/-- The identifier of an element. -/
def identifierPart (element : StatusElement) (place : Buffer × Nat) : Buffer × Nat :=
  let minLen := min (format.allocLen - place.2) format.idlength
  if 0 < minLen then
    (format.copyIdentifier element place.1 place.2 minLen, place.2 + minLen)
  else place

/-- The descriptor of an element that is there. -/
def elementDescriptor (element : StatusElement) (place : Buffer × Nat) : Buffer × Nat :=
  format.identifierPart element
    (format.avoltagPart element (format.elementDescriptorCopyStatus element place))

end PageFormat

/-! ## Pages -/

/-- What the loop over the elements of a type works on. -/
structure StatusLoop where
  /-- The buffer. -/
  buffer : Buffer
  /-- Where the next descriptor goes. -/
  offset : Nat
  /-- Elements reported so far, `num_elements_read` and `num_elements_avail`. -/
  numElementsRead : Nat
  /-- Lowest address reported so far. -/
  firstElementAddress : Option Nat
  /-- Bytes of descriptors of this type. -/
  byteCount : Nat
  /-- The address that is expected next. -/
  currentAddress : Nat

/-- Report the element that is there, or the expected address that is not there. -/
def PageFormat.report (format : PageFormat) (element : StatusElement) (loop : StatusLoop) :
    StatusLoop :=
  let place :=
    if element.address = loop.currentAddress then
      format.elementDescriptor element (loop.buffer, loop.offset)
    else format.errorElementDescriptor loop.currentAddress (loop.buffer, loop.offset)
  { buffer := place.1
    offset := place.2
    numElementsRead := loop.numElementsRead + 1
    firstElementAddress :=
      match loop.firstElementAddress with
      | none => some element.address
      | some first => some (if element.address < first then element.address else first)
    byteCount := loop.byteCount + format.descriptorLength
    currentAddress := (loop.currentAddress + 1) % 2 ^ 16 }

/-- The loop of `read_element_status` over the elements that it does not pass over. The number is how
many elements may still be reported. -/
def PageFormat.reportAll (format : PageFormat) : Nat → List StatusElement → StatusLoop → StatusLoop
  | 0, _, loop => loop
  | _, [], loop => loop
  | left + 1, element :: rest, loop =>
    if element.address = loop.currentAddress then
      format.reportAll left rest (format.report element loop)
    else format.reportAll left (element :: rest) (format.report element loop)

/-- `get_start_address`. -/
def getStartAddress (type : ElementType) (startAddress : Nat) : Nat :=
  if startAddress < type.startAddress then type.startAddress else startAddress

/-- The element is passed over. -/
def StatusElement.skipped (element : StatusElement) (type : ElementType)
    (startElementAddress : Nat) : Bool :=
  (element.address == 0 && type != .mediumTransport) ||
    decide (element.address < startElementAddress)

/-- What the pages have in common. -/
structure StatusRead where
  /-- The buffer. -/
  buffer : Buffer
  /-- Where the next page goes. -/
  bufferOffset : Nat
  /-- Elements reported so far, `num_elements_read` and `num_elements_avail`. -/
  numElementsRead : Nat
  /-- Bytes reported so far. -/
  bytesRead : Nat
  /-- Lowest address reported so far. -/
  firstElementAddress : Option Nat

/-- The header of a page. -/
def PageFormat.pageHeader (format : PageFormat) (byteCount : Nat) : List UInt8 :=
  [UInt8.ofNat format.elementType.code,
    (if format.voltag then 0x80 else 0) ||| (if format.avoltagLen = 0 then 0 else 0x40)] ++
    beBytes 2 format.descriptorLength ++ beBytes 4 byteCount

/-- `read_element_status`. -/
def readElementStatus (library : ElementLibrary) (request : StatusRequest) (type : ElementType)
    (read : StatusRead) : StatusRead :=
  if request.numElements ≤ read.numElementsRead then read
  else
    let format := pageFormat library request type
    let loop := format.reportAll (request.numElements - read.numElementsRead)
      ((library.elements type).filter fun element =>
        !element.skipped type request.startElementAddress)
      { buffer := read.buffer
        offset := read.bufferOffset + elementStatusSize
        numElementsRead := read.numElementsRead
        firstElementAddress := read.firstElementAddress
        byteCount := 0
        currentAddress := getStartAddress type request.startElementAddress }
    let read :=
      { read with
        buffer := loop.buffer
        numElementsRead := loop.numElementsRead
        firstElementAddress := loop.firstElementAddress }
    if loop.byteCount = 0 then read
    else
      let bytesRead := read.bytesRead + (loop.byteCount + elementStatusSize)
      if read.bufferOffset + elementStatusSize ≤ request.allocationLength then
        { read with
          buffer := loop.buffer.write read.bufferOffset (format.pageHeader loop.byteCount)
          bufferOffset := loop.offset
          bytesRead := bytesRead }
      else { read with bytesRead := bytesRead }

/-- A type is asked for. -/
def StatusRequest.asks (request : StatusRequest) (type : ElementType) : Bool :=
  request.elementTypeCode == 0 || request.elementTypeCode == type.code

/-- The types in the order in which they are reported. -/
def statusTypes : List ElementType := [.mediumTransport, .dataTransfer, .importExport, .storage]

/-- How READ ELEMENT STATUS ends. -/
inductive ElementStatus
  /-- `INVALID_FIELD_IN_CDB`. -/
  | illegalRequest
  /-- Data is returned, so many bytes of a buffer. -/
  | data (buffer : Buffer) (dxferLen : Nat)

/-- The `struct element_status_data`. -/
def StatusRead.header (read : StatusRead) : List UInt8 :=
  beBytes 2 (read.firstElementAddress.getD 0xFFFF) ++ beBytes 2 read.numElementsRead ++
    beBytes 4 read.bytesRead

/-- `mchanger_cmd_read_element_status`. -/
def mchangerCmdReadElementStatus (library : ElementLibrary) (request : StatusRequest) :
    ElementStatus :=
  if request.allocationLength < elementStatusSize then .illegalRequest
  else
    let read := statusTypes.foldl
      (fun read type =>
        if request.asks type then readElementStatus library request type read else read)
      { buffer := Buffer.allocate request.allocationLength fun _ => 0
        bufferOffset := elementStatusSize
        numElementsRead := 0
        bytesRead := 0
        firstElementAddress := none }
    .data (read.buffer.write 0 read.header) (min request.allocationLength (read.bytesRead + 8))

end VirtualTape
