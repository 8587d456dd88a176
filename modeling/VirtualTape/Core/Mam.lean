import VirtualTape.Lib.Buffer
import VirtualTape.Core.VolType

/-!
# Medium auxiliary memory

A partition keeps its attributes in one page: an array of raw attributes in front, then the values
one behind the other, and a checksum at the end. Attributes in memory point to their values in the
page. READ ATTRIBUTE copies attributes to a buffer and WRITE ATTRIBUTE changes them, checking the
whole list before it applies any of it.
-/

namespace VirtualTape

/-- A `struct mam_attribute`. -/
structure MamAttribute where
  /-- Identifier. -/
  identifier : Nat
  /-- Format, with the bit that makes it read-only. -/
  format : Nat
  /-- Length of the value. -/
  length : Nat
  /-- The attribute is there. -/
  valid : UInt8
  /-- Where the value is in the page. -/
  value : Nat
  deriving DecidableEq, Repr

/-- An entry of the table `mam_attributes`. -/
def mamEntry (identifier format length : Nat) (valid : UInt8) : MamAttribute :=
  ⟨identifier, format, length, valid, 0⟩

/-- The reserved entries of `mam_attributes`, which always come in fours. -/
def mamReserved : List MamAttribute :=
  [mamEntry 0xFFFF 0x00 8 0, mamEntry 0xFFFF 0x00 8 0, mamEntry 0xFFFF 0x01 8 0,
    mamEntry 0xFFFF 0x01 8 0]

/-- The table `mam_attributes`. -/
def mamAttributes : List MamAttribute :=
  [mamEntry 0x0000 0x80 8 1, mamEntry 0x0001 0x80 8 1, mamEntry 0x0002 0x80 8 1,
    mamEntry 0x0003 0x80 8 1, mamEntry 0x0004 0x80 8 1, mamEntry 0x0005 0x81 8 1,
    mamEntry 0x0006 0x80 1 1, mamEntry 0x0007 0x80 1 1, mamEntry 0x0008 0x01 32 1,
    mamEntry 0x0009 0x00 4 1] ++
  mamReserved ++
  [mamEntry 0x020A 0x01 40 1, mamEntry 0x020B 0x01 40 1, mamEntry 0x020C 0x01 40 1,
    mamEntry 0x020D 0x01 40 1] ++
  mamReserved ++
  [mamEntry 0x0220 0x80 8 1, mamEntry 0x0221 0x80 8 1, mamEntry 0x0222 0x80 8 1,
    mamEntry 0x0223 0x80 8 1, mamEntry 0x0224 0x80 8 1, mamEntry 0x0225 0x80 8 1] ++
  mamReserved ++
  [mamEntry 0x0400 0x01 8 1, mamEntry 0x0401 0x01 32 1, mamEntry 0x0402 0x80 4 1,
    mamEntry 0x0403 0x80 4 1, mamEntry 0x0404 0x81 8 1, mamEntry 0x0405 0x80 1 1,
    mamEntry 0x0406 0x81 8 1, mamEntry 0x0407 0x80 8 1, mamEntry 0x0408 0x80 1 1,
    mamEntry 0x0409 0x80 2 1] ++
  mamReserved ++
  [mamEntry 0x0800 0x01 8 0, mamEntry 0x0801 0x01 32 0, mamEntry 0x0802 0x01 8 0,
    mamEntry 0x0803 0x02 160 0, mamEntry 0x0804 0x01 12 0, mamEntry 0x0805 0x00 1 0,
    mamEntry 0x0806 0x01 32 0, mamEntry 0x0807 0x02 80 0, mamEntry 0x0808 0x02 160 0,
    mamEntry 0x0809 0x01 16 0, mamEntry 0x080A 0x00 1 0, mamEntry 0x080B 0x01 16 0,
    mamEntry 0x080C 0x00 256 0] ++
  mamReserved ++
  [mamEntry 0x1500 0x00 4 0]

/-- Where the values begin, `MAM_ATTRIBUTE_DATA_OFFSET`. -/
def mamAttributeDataOffset : Nat := 90 * 5

/-- Where the checksum is: a `struct raw_mam` from the end of the page. -/
def rawMamOffset : Nat := 4096 - 8

/-- The longest value of an attribute. -/
def mamAttrMaxLength (attr : MamAttribute) : Nat :=
  if attr.identifier = 0x0008 then 32 else if attr.identifier = 0x080C then 256 else attr.length

/-- The auxiliary memory of a partition. -/
structure Mam where
  /-- The page, `mam_data`. -/
  page : Buffer
  /-- The attributes. -/
  attributes : List MamAttribute
  /-- `PARTITION_MAM_CORRUPT`. -/
  corrupt : Bool

/-- The auxiliary memory and its page on disk. -/
structure MamState where
  /-- In memory. -/
  mam : Mam
  /-- On disk. -/
  disk : Nat → UInt8

/-! ## Layout -/

/-- Size of a `struct raw_attribute`. -/
def rawAttributeSize : Nat := 3

/-- Length in a raw attribute. -/
def rawLength (page : Buffer) (index : Nat) : Nat :=
  (page.data (rawAttributeSize * index)).toNat +
    256 * (page.data (rawAttributeSize * index + 1)).toNat

/-- Validity in a raw attribute. -/
def rawValid (page : Buffer) (index : Nat) : UInt8 := page.data (rawAttributeSize * index + 2)

/-- Set the length in a raw attribute. -/
def setRawLength (page : Buffer) (index length : Nat) : Buffer :=
  page.write (rawAttributeSize * index) (leBytes 2 length)

/-- Set the validity in a raw attribute. -/
def setRawValid (page : Buffer) (index : Nat) (valid : UInt8) : Buffer :=
  page.write (rawAttributeSize * index + 2) [valid]

/-- Give attributes their values from `ptr` on, and with `load` what the raw attributes say. -/
def mamInitFrom (page : Buffer) (load : Bool) :
    Nat → Nat → List MamAttribute → List MamAttribute
  | _, _, [] => []
  | index, ptr, attr :: rest =>
    let placed := { attr with value := ptr }
    let attr :=
      if load then { placed with valid := rawValid page index, length := rawLength page index }
      else placed
    attr :: mamInitFrom page load (index + 1) (ptr + mamAttrMaxLength attr) rest

/-- `tape_partition_mam_init`. -/
def tapePartitionMamInit (page : Buffer) (load : Bool) : List MamAttribute :=
  mamInitFrom page load 0 mamAttributeDataOffset mamAttributes

/-! ## Setting attributes -/

namespace Mam

variable (mam : Mam)

/-- Index of an attribute, `tape_partition_mam_get_attribute`. -/
def getAttribute (identifier : Nat) : Option Nat :=
  if identifier = 0xFFFF then none
  else mam.attributes.findIdx? fun attr => attr.identifier == identifier

/-- Change an attribute. -/
def modify (index : Nat) (change : MamAttribute → MamAttribute) : Mam :=
  { mam with attributes := mam.attributes.modify index change }

/-- Store bytes as the value of an attribute and make it valid, for those that have it. -/
def setBytes (identifier : Nat) (bytes : MamAttribute → Option (List UInt8)) : Mam :=
  match mam.getAttribute identifier with
  | none => mam
  | some index =>
    match mam.attributes[index]? with
    | none => mam
    | some attr =>
      match bytes attr with
      | none => mam
      | some stored =>
        { mam.modify index ({ · with valid := 1 }) with page := mam.page.write attr.value stored }

/-- `tape_partition_mam_set_word`. -/
def setWord (identifier val : Nat) : Mam := mam.setBytes identifier fun _ => some (beBytes 4 val)

/-- `tape_partition_mam_set_long`. -/
def setLong (identifier val : Nat) : Mam := mam.setBytes identifier fun _ => some (beBytes 8 val)

/-- `tape_partition_mam_set_ascii`: refused when too long, and filled up with spaces. -/
def setAscii (identifier : Nat) (val : List UInt8) : Mam :=
  mam.setBytes identifier fun attr =>
    if attr.length < val.length then none
    else some (val ++ List.replicate (attr.length - val.length) 0x20)

/-- `tape_partition_mam_memset`, which is only asked to make attributes valid. -/
def memset (identifier : Nat) (val : UInt8) : Mam :=
  mam.setBytes identifier fun attr => some (List.replicate attr.length val)

/-- Copy length and validity of the attributes to the page. -/
def rawFrom (page : Buffer) : Nat → List MamAttribute → Buffer
  | _, [] => page
  | index, attr :: rest =>
    rawFrom (setRawValid (setRawLength page index attr.length) index attr.valid) (index + 1) rest

/-- `net_calc_csum16` of the page up to the checksum. -/
def csum : Nat :=
  65535 - ((List.range (rawMamOffset / 2)).map fun index =>
    (mam.page.data (2 * index)).toNat + 256 * (mam.page.data (2 * index + 1)).toNat).sum % 65536

end Mam

/-- `LTO-CVE`. -/
def ltoCve : List UInt8 := [0x4C, 0x54, 0x4F, 0x2D, 0x43, 0x56, 0x45]

/-- `20130501`. -/
def manufactureDate : List UInt8 := [0x32, 0x30, 0x31, 0x33, 0x30, 0x35, 0x30, 0x31]

/-- `is_lto_tape`. -/
def isLtoTape : VolType → Bool
  | .lto1 | .lto2 | .lto3 | .lto4 | .lto5 | .lto6 => true
  | _ => false

/-- The values that `tape_partition_mam_write_default` sets. -/
def mamSetDefault (make : VolType) (mam : Mam) : Mam :=
  let mam := (((mam.memset 0x0005 0x20).memset 0x0008 0x20).memset 0x020A 0x20).memset 0x020B 0x20
  let mam := (((mam.memset 0x020C 0x20).memset 0x020D 0x20).memset 0x0400 0x20).memset 0x0401 0x20
  let mam :=
    if isLtoTape make then
      ((mam.setAscii 0x0005 ltoCve).setAscii 0x0404 ltoCve).setWord 0x0403 127
    else mam
  (mam.setAscii 0x0406 manufactureDate).setLong 0x0407 4096

/-- `tape_partition_write_mam`. -/
def tapePartitionWriteMam (io : Bool) (state : MamState) : Bool × MamState :=
  if state.mam.corrupt then (false, state)
  else
    let page := state.mam.page.write rawMamOffset (leBytes 2 state.mam.csum)
    (io, { mam := { state.mam with page := page }, disk := if io then page.data else state.disk })

/-- `tape_partition_mam_write_default`. -/
def tapePartitionMamWriteDefault (io : Bool) (make : VolType) (state : MamState) :
    Bool × MamState :=
  let mam := mamSetDefault make state.mam
  tapePartitionWriteMam io
    { state with mam := { mam with page := Mam.rawFrom mam.page 0 mam.attributes } }

/-- `tape_partition_create_mam`, over a page on disk with whatever is in it. -/
def tapePartitionCreateMam (io : Bool) (make : VolType) (disk : Nat → UInt8) :
    Bool × MamState :=
  let page := Buffer.allocate 4096 fun _ => 0
  tapePartitionMamWriteDefault io make ⟨⟨page, tapePartitionMamInit page false, false⟩, disk⟩

/-- All bytes of a page are zero. -/
def zeroPage (page : Buffer) : Bool := (List.range 4096).all fun index => page.data index == 0

/-- `tape_partition_load_mam`. The memory behind the page holds whatever was in it. -/
def tapePartitionLoadMam (io : Bool) (make : VolType) (stale disk : Nat → UInt8) :
    Bool × MamState :=
  let page := Buffer.allocate 4096 fun index => if index < 4096 then disk index else stale index
  let mam : Mam := ⟨page, tapePartitionMamInit page true, false⟩
  let stored := (page.data rawMamOffset).toNat + 256 * (page.data (rawMamOffset + 1)).toNat
  if mam.csum = stored then (true, ⟨mam, disk⟩)
  else if zeroPage page then tapePartitionMamWriteDefault io make ⟨mam, disk⟩
  else (true, ⟨{ mam with corrupt := true }, disk⟩)

/-! ## READ ATTRIBUTE -/

/-- Size of a `struct read_attribute`. -/
def readAttributeSize : Nat := 5

/-- The attribute is reported when reading from an identifier on. -/
def MamAttribute.reported (first : Nat) (attr : MamAttribute) : Bool :=
  attr.identifier != 0xFFFF && attr.valid != 0 && decide (first ≤ attr.identifier)

/-- The header of an attribute. -/
def MamAttribute.header (attr : MamAttribute) : List UInt8 :=
  beBytes 2 attr.identifier ++ beBytes 1 attr.format ++ beBytes 2 attr.length

/-- The first bytes of a value. -/
def Mam.valueBytes (mam : Mam) (attr : MamAttribute) (count : Nat) : List UInt8 :=
  (List.range count).map fun index => mam.page.data (attr.value + index)

/-- Copy attributes to the buffer. The value is stored behind the place of the header also when the
header did not fit. -/
def copyReadAttributes (allocationLength first : Nat) (mam : Mam) :
    Buffer → Nat → Nat → List MamAttribute → Buffer × Nat × Nat
  | buffer, done, avail, [] => (buffer, done, avail)
  | buffer, done, avail, attr :: rest =>
    if !attr.reported first then copyReadAttributes allocationLength first mam buffer done avail rest
    else
      let avail := avail + (attr.length + readAttributeSize)
      let value := done + readAttributeSize
      let (buffer, done) :=
        if done + readAttributeSize ≤ allocationLength then
          (buffer.write done attr.header, done + readAttributeSize)
        else (buffer, done)
      if 0 < allocationLength - done then
        let minLen := min (allocationLength - done) attr.length
        copyReadAttributes allocationLength first mam
          (buffer.write value (mam.valueBytes attr minLen)) (done + minLen) avail rest
      else copyReadAttributes allocationLength first mam buffer done avail rest

/-- How READ ATTRIBUTE ends. -/
inductive ReadAttributes
  /-- `INVALID_FIELD_IN_CDB`. -/
  | illegalRequest
  /-- `AUXILIARY_MEMORY_READ_ERROR`. -/
  | mediumError
  /-- There is no buffer. -/
  | noBuffer
  /-- Data is returned, so many bytes of a buffer. -/
  | data (buffer : Buffer) (dxferLen : Nat)

/-- `tape_partition_update_mam`, with the size of the partition and how much of it is used. -/
def tapePartitionUpdateMam (size used : Nat) (mam : Mam) : Mam :=
  (mam.setLong 0x0000 ((size + 2 ^ 64 - used) % 2 ^ 64 / 2 ^ 20)).setWord 0x0001 (size / 2 ^ 20)

/-- `tdrive_copy_read_attributes`. The length of a buffer is an `int`, and there is none of a negative
length. -/
def tdriveCopyReadAttributes (allocationLength first size used : Nat) (stale : Nat → UInt8)
    (mam : Mam) : ReadAttributes :=
  if allocationLength < 4 then .illegalRequest
  else if mam.corrupt then .mediumError
  else
    match (mam.getAttribute first).bind (mam.attributes[·]?) with
    | none => .illegalRequest
    | some attr =>
      if attr.valid = 0 then .illegalRequest
      else if 2 ^ 31 ≤ allocationLength then .noBuffer
      else
        let mam := tapePartitionUpdateMam size used mam
        let (buffer, done, avail) := copyReadAttributes allocationLength first mam
          (Buffer.allocate allocationLength stale) 4 0 mam.attributes
        .data (buffer.write 0 (beBytes 4 avail)) done

/-! ## WRITE ATTRIBUTE -/

/-- The header of an attribute in a parameter list. -/
structure AttributeHeader where
  /-- Identifier. -/
  identifier : Nat
  /-- Format. -/
  format : Nat
  /-- Length of the value. -/
  length : Nat
  deriving DecidableEq, Repr

/-- Read a header; none when that would read outside the list. -/
def readHeader : List UInt8 → Option (AttributeHeader × List UInt8)
  | id1 :: id2 :: format :: len1 :: len2 :: rest =>
    some (⟨ofBe [id1, id2], format.toNat, ofBe [len1, len2]⟩, rest)
  | _ => none

/-- `mam_attr_length_valid`. -/
def mamAttrLengthValid (length : Nat) (attr : MamAttribute) : Bool :=
  if length = 0 then true
  else if attr.identifier = 0x0008 then decide (length ≤ 32)
  else if attr.identifier = 0x080C then decide (23 ≤ length) && decide (length ≤ 256)
  else length == attr.length

/-- A header is accepted for an attribute. -/
def AttributeHeader.acceptedFor (header : AttributeHeader) (attr : MamAttribute) : Bool :=
  !attr.format.testBit 7 && attr.format == header.format && mamAttrLengthValid header.length attr

/-- A header is accepted. -/
def Mam.accepts (mam : Mam) (header : AttributeHeader) : Bool :=
  match (mam.getAttribute header.identifier).bind (mam.attributes[·]?) with
  | none => false
  | some attr => header.acceptedFor attr

/-- The first loop of `tdrive_cmd_write_attribute`: whether all attributes are accepted; none when it
reads outside the list. The fuel is the length of the list. -/
def checkAttributes (mam : Mam) : Nat → Nat → List UInt8 → Option Bool
  | fuel, todo, bytes =>
    if todo ≤ readAttributeSize then some true
    else
      match fuel, readHeader bytes with
      | fuel + 1, some (header, rest) =>
        if todo - readAttributeSize < header.length then some true
        else if !mam.accepts header then some false
        else checkAttributes mam fuel (todo - readAttributeSize - header.length)
          (rest.drop header.length)
      | _, _ => none

/-- `mam_attr_set_length`. -/
def mamAttrSetLength (length : Nat) (attr : MamAttribute) : MamAttribute :=
  if length ≠ 0 ∧ (attr.identifier = 0x0008 ∨ attr.identifier = 0x080C) then
    { attr with length := length }
  else attr

/-- Apply one attribute of a parameter list. -/
def Mam.applyAttribute (mam : Mam) (header : AttributeHeader) (value : List UInt8) : Mam :=
  match mam.getAttribute header.identifier with
  | none => mam
  | some index =>
    match mam.attributes[index]? with
    | none => mam
    | some attr =>
      if header.length = 0 then
        { mam.modify index ({ · with valid := 0 }) with page := setRawValid mam.page index 0 }
      else
        let changed := mamAttrSetLength header.length { attr with valid := 1 }
        { mam.modify index (fun _ => changed) with
          page := setRawValid
            (setRawLength (mam.page.write attr.value value) index changed.length) index 1 }

/-- The second loop of `tdrive_cmd_write_attribute`; none when it reads outside the list. -/
def applyAttributes : Nat → Nat → List UInt8 → Mam → Option Mam
  | fuel, todo, bytes, mam =>
    if todo ≤ readAttributeSize then some mam
    else
      match fuel, readHeader bytes with
      | fuel + 1, some (header, rest) =>
        if todo - readAttributeSize < header.length then some mam
        else if rest.length < header.length then none
        else applyAttributes fuel (todo - readAttributeSize - header.length)
          (rest.drop header.length) (mam.applyAttribute header (rest.take header.length))
      | _, _ => none

/-- How WRITE ATTRIBUTE ends. -/
inductive WriteAttribute
  /-- The command is done. -/
  | good
  /-- `INVALID_FIELD_IN_CDB`. -/
  | illegalRequest
  /-- `AUXILIARY_MEMORY_WRITE_ERROR`. -/
  | mediumError
  /-- The page could not be written. -/
  | writeError
  deriving DecidableEq, Repr

/-- `tdrive_cmd_write_attribute` with a parameter list of the length that the command gives; none
when it reads outside the list. -/
def tdriveCmdWriteAttribute (io : Bool) (list : List UInt8) (state : MamState) :
    Option (WriteAttribute × MamState) :=
  if list = [] then some (.good, state)
  else if list.length < 4 then none
  else
    let parameterLength := ofBe (list.take 4)
    if list.length < (parameterLength + 4) % 2 ^ 32 then some (.illegalRequest, state)
    else if state.mam.corrupt then some (.mediumError, state)
    else
      match checkAttributes state.mam list.length parameterLength (list.drop 4) with
      | none => none
      | some false => some (.illegalRequest, state)
      | some true =>
        match applyAttributes list.length parameterLength (list.drop 4) state.mam with
        | none => none
        | some mam =>
          match tapePartitionWriteMam io { state with mam := mam } with
          | (true, state) => some (.good, state)
          | (false, state) => some (.writeError, state)

end VirtualTape
