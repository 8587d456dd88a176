import Mathlib.Data.List.FinRange
import VirtualTape.Lib.Run

/-!
# Medium changer

The elements of a library, the cartridges in them, and the commands and calls that move cartridges.
What an element is and its address do not change; what it holds and its descriptor do. Elements are
numbered in the order in which the changer searches its four lists.
-/

namespace VirtualTape

/-- Element types. -/
inductive ElementType
  /-- `MEDIUM_TRANSPORT_ELEMENT`. -/
  | mediumTransport
  /-- `STORAGE_ELEMENT`. -/
  | storage
  /-- `IMPORT_EXPORT_ELEMENT`. -/
  | importExport
  /-- `DATA_TRANSFER_ELEMENT`. -/
  | dataTransfer
  deriving DecidableEq, Repr

/-- The elements of a library. -/
structure Layout (n : ℕ) where
  /-- Type of each element. -/
  type : Fin n → ElementType
  /-- Address of each element. -/
  address : Fin n → ℕ
  /-- The transport has the address `DEFAULT_MT_START_ADDRESS`. -/
  transport : ∀ i, type i = .mediumTransport → address i = 0

/-- Type of the `i`th element of a library with so many slots and ports; the rest are drives. -/
def elementTypeAt (slots ieports i : ℕ) : ElementType :=
  if i = 0 then .mediumTransport
  else if i < 1 + slots then .storage
  else if i < 1 + slots + ieports then .importExport
  else .dataTransfer

/-- `get_next_element_address` for the `i`th element. -/
def elementAddressAt (slots ieports i : ℕ) : ℕ :=
  match elementTypeAt slots ieports i with
  | .mediumTransport => 0
  | .storage => (1024 + (i - 1)) % 2 ^ 16
  | .importExport => (768 + (i - 1 - slots)) % 2 ^ 16
  | .dataTransfer => (256 + (i - 1 - slots - ieports)) % 2 ^ 16

/-- The elements that `mchanger_new` and `mchanger_add_tdrive` make. -/
def Layout.new (slots ieports drives : ℕ) : Layout (1 + slots + ieports + drives) where
  type i := elementTypeAt slots ieports i
  address i := elementAddressAt slots ieports i
  transport i isTransport := by simp [elementAddressAt, isTransport]

/-- What an element holds, and its descriptor. -/
structure Element where
  /-- The cartridge: `element_data`, or the tape of the drive. -/
  tape : Option ℕ
  /-- `TDRIVE_FLAGS_TAPE_LOADED` of the drive. -/
  loaded : Bool
  /-- `ELEMENT_DESCRIPTOR_ACCESS_MASK`. -/
  access : Bool
  /-- `ELEMENT_DESCRIPTOR_FULL_MASK`. -/
  full : Bool
  /-- `IE_MASK_IMPEXP`. -/
  impexp : Bool
  /-- `ELEMENT_DESCRIPTOR_SVALID_MASK`. -/
  svalid : Bool
  /-- `ELEMENT_DESCRIPTOR_INVERT_MASK`. -/
  invert : Bool
  /-- Source storage element address. -/
  sourceAddress : ℕ
  deriving DecidableEq, Repr

/-- A cartridge. -/
structure Tape where
  /-- Identifier. -/
  tapeId : ℕ
  /-- Make. -/
  make : ℕ
  /-- Locked for export. -/
  locked : Bool
  /-- `MEDIA_STATUS_EXPORTED`. -/
  exported : Bool
  deriving DecidableEq, Repr

/-- A library with `n` elements. Cartridges are numbered as they are allocated. -/
structure Library (n : ℕ) where
  /-- The elements. -/
  element : Fin n → Element
  /-- Exported cartridges. -/
  exportList : List ℕ
  /-- The cartridges that are allocated. -/
  tape : ℕ → Option Tape
  /-- Number of the next one. -/
  nextTape : ℕ

/-- What a command finds around the library. -/
structure ChangerEnv (n : ℕ) where
  /-- A drive takes a make: `tdrive_media_valid`. -/
  mediaValid : Fin n → ℕ → Bool
  /-- Some initiator the command does not come from prevents removal from a drive. -/
  prevents : Fin n → Bool
  /-- `tape_cmd_unload` fails in a drive. -/
  unloadFails : Fin n → Bool
  /-- `tape_write_metadata` fails for a cartridge. -/
  writeFails : ℕ → Bool
  /-- The changer has initiators. -/
  initiators : Bool
  /-- `tape_new` or `tape_load` fails. -/
  tapeFails : Bool

/-- Why a command fails. -/
inductive ChangerSense
  /-- `INVALID_ELEMENT_ADDRESS_ASC`. -/
  | invalidElementAddress
  /-- `MEDIUM_SOURCE_ELEMENT_EMPTY_ASC`. -/
  | mediumSourceElementEmpty
  /-- `MEDIUM_DESTINATION_ELEMENT_FULL_ASC`. -/
  | mediumDestinationElementFull
  /-- `MEDIUM_MAGAZINE_NOT_ACCESSIBLE_ASC`. -/
  | mediumMagazineNotAccessible
  /-- `INVALID_FIELD_IN_CDB_ASC`. -/
  | invalidFieldInCdb
  /-- `INCOMPATIBLE_MEDIUM_INSTALLED_ASC`. -/
  | incompatibleMediumInstalled
  /-- `UNLOAD_TAPE_FAILURE_ASC`. -/
  | unloadTapeFailure
  deriving DecidableEq, Repr

variable {n : ℕ} (layout : Layout n) (env : ChangerEnv n) (lib : Library n)

namespace Library

/-- Change one element. -/
def update (i : Fin n) (f : Element → Element) : Library n :=
  { lib with element := Function.update lib.element i (f (lib.element i)) }

/-- A cartridge by its number. -/
def tapeOf (h : ℕ) : Tape :=
  (lib.tape h).getD ⟨0, 0, false, false⟩

/-- Allocate a cartridge. -/
def alloc (tape : Tape) : Library n :=
  { lib with
    tape := Function.update lib.tape lib.nextTape (some tape)
    nextTape := lib.nextTape + 1 }

/-- `tape_free`. -/
def tapeFree (h : ℕ) : Library n :=
  { lib with tape := Function.update lib.tape h none }

/-- Set or clear `MEDIA_STATUS_EXPORTED`. -/
def setExported (h : ℕ) (exported : Bool) : Library n :=
  { lib with
    tape := Function.update lib.tape h
      ((lib.tape h).map fun tape => { tape with exported := exported }) }

end Library

/-! ## Elements -/

/-- `mchanger_get_element`. -/
def mchangerGetElement (address : ℕ) : Option (Fin n) :=
  (List.finRange n).find? fun i => layout.address i == address

/-- `element_vcartridge`. -/
def elementVcartridge (i : Fin n) : Option ℕ :=
  if layout.type i = .mediumTransport then none else (lib.element i).tape

/-- `tdrive_unload_tape`: whether it succeeds. -/
def tdriveUnloadTape (i : Fin n) : Bool × Library n :=
  if (lib.element i).tape = none then (true, lib)
  else if !(lib.element i).loaded then (true, lib.update i fun e => { e with tape := none })
  else if env.prevents i then (false, lib)
  else if env.unloadFails i then (false, lib)
  else (true, lib.update i fun e => { e with tape := none, loaded := false })

/-- `tdrive_load_tape`. -/
def tdriveLoadTape (i : Fin n) (h : ℕ) : Library n :=
  if (lib.element i).tape ≠ none then lib
  else lib.update i fun e => { e with tape := some h, loaded := true }

/-- The tape is unloaded if the element is a drive. -/
def unloadElement (i : Fin n) : Bool × Library n :=
  if layout.type i = .dataTransfer then tdriveUnloadTape env lib i else (true, lib)

/-- The cartridge is loaded into a drive, or put into any other element. -/
def loadElement (i : Fin n) (h : ℕ) : Library n :=
  if layout.type i = .dataTransfer then tdriveLoadTape lib i h
  else lib.update i fun e => { e with tape := some h }

/-- Any element but a drive is emptied. -/
def clearElement (i : Fin n) : Library n :=
  if layout.type i = .dataTransfer then lib else lib.update i fun e => { e with tape := none }

/-- `update_element_descriptor_source_storage_address`, from an element of a type and address. -/
def updateSourceStorageAddress (type : ElementType) (address : ℕ) (source destination : Element) :
    Element :=
  if type = .storage then { destination with svalid := true, sourceAddress := address }
  else if source.svalid then
    { destination with svalid := true, sourceAddress := source.sourceAddress }
  else { destination with svalid := false, sourceAddress := 0 }

/-- The destination's half of `mchanger_move_update`. -/
def fillElement (destination source : Fin n) (sourceElement : Element) : Library n :=
  lib.update destination fun e =>
    { updateSourceStorageAddress (layout.type source) (layout.address source) sourceElement e with
      full := true }

/-- `mchanger_move_update`. -/
def mchangerMoveUpdate (destination source : Fin n) : Library n :=
  (fillElement layout lib destination source (lib.element source)).update source fun e =>
    { e with full := false }

/-! ## MOVE MEDIUM -/

/-- A MOVE MEDIUM command. -/
structure MoveCmd where
  /-- Medium transport address. -/
  mediumTransport : ℕ
  /-- Source address. -/
  source : ℕ
  /-- Destination address. -/
  destination : ℕ
  /-- Invert. -/
  invert : Bool
  deriving DecidableEq, Repr

/-- The medium transport of a MOVE MEDIUM: address zero stands for the first one. -/
def moveTransport (address : ℕ) : Option (Fin n) :=
  if address ≠ 0 then mchangerGetElement layout address
  else (List.finRange n).find? fun i => layout.type i == .mediumTransport

/-- The checks of MOVE MEDIUM on two different elements, the source holding a cartridge. -/
def moveSense (cmd : MoveCmd) (source destination : Fin n) (h : ℕ) : Option ChangerSense :=
  if (lib.tapeOf h).locked then some .mediumMagazineNotAccessible
  else if (elementVcartridge layout lib destination).isSome then some .mediumDestinationElementFull
  else match moveTransport layout cmd.mediumTransport with
    | none => some .invalidElementAddress
    | some transport =>
      if !(lib.element source).access then some .mediumMagazineNotAccessible
      else if cmd.invert && !(lib.element transport).invert then some .invalidFieldInCdb
      else if layout.type destination = .dataTransfer ∧
          env.mediaValid destination (lib.tapeOf h).make = false then
        some .incompatibleMediumInstalled
      else none

/-- The moves of MOVE MEDIUM. -/
def moveElements (source destination : Fin n) (h : ℕ) : Option ChangerSense × Library n :=
  match unloadElement layout env lib source with
  | (false, lib) => (some .unloadTapeFailure, lib)
  | (true, lib) =>
    let lib := loadElement layout lib destination h
    let lib := clearElement layout lib source
    let lib := mchangerMoveUpdate layout lib destination source
    let lib := lib.update source fun e => { e with svalid := false, sourceAddress := 0 }
    (none, if layout.type source = .importExport then
      lib.update source fun e => { e with impexp := false } else lib)

/-- `mchanger_cmd_move_medium`. Two elements found by address never share one. -/
def mchangerCmdMoveMedium (cmd : MoveCmd) : Option ChangerSense × Library n :=
  if cmd.source = 0 ∨ cmd.destination = 0 then (some .invalidElementAddress, lib)
  else match mchangerGetElement layout cmd.source, mchangerGetElement layout cmd.destination with
    | some source, some destination =>
      if source = destination then (none, lib)
      else match elementVcartridge layout lib source with
        | none => (some .mediumSourceElementEmpty, lib)
        | some h =>
          match moveSense layout env lib cmd source destination h with
          | some sense => (some sense, lib)
          | none => moveElements layout env lib source destination h
    | _, _ => (some .invalidElementAddress, lib)

/-! ## EXCHANGE MEDIUM -/

/-- An EXCHANGE MEDIUM command. -/
structure ExchangeCmd where
  /-- Medium transport address. -/
  mediumTransport : ℕ
  /-- Source address. -/
  source : ℕ
  /-- First destination address. -/
  firstDest : ℕ
  /-- Second destination address. -/
  secondDest : ℕ
  /-- Invert the first cartridge. -/
  inv1 : Bool
  /-- Invert the second cartridge. -/
  inv2 : Bool
  deriving DecidableEq, Repr

/-- The checks of EXCHANGE MEDIUM on elements of which the first two hold cartridges. -/
def exchangeSense (cmd : ExchangeCmd) (source firstDest secondDest : Fin n) (x y : ℕ) :
    Option ChangerSense :=
  if (elementVcartridge layout lib secondDest).isSome ∧ secondDest ≠ source then
    some .mediumDestinationElementFull
  else match mchangerGetElement layout cmd.mediumTransport with
    | none => some .invalidElementAddress
    | some transport =>
      if (cmd.inv1 || cmd.inv2) && !(lib.element transport).invert then some .invalidFieldInCdb
      else if (lib.tapeOf x).locked || (lib.tapeOf y).locked then
        some .mediumMagazineNotAccessible
      else if !(lib.element source).access || !(lib.element firstDest).access then
        some .mediumMagazineNotAccessible
      else if layout.type firstDest = .dataTransfer ∧
          env.mediaValid firstDest (lib.tapeOf x).make = false then
        some .incompatibleMediumInstalled
      else if layout.type secondDest = .dataTransfer ∧
          env.mediaValid secondDest (lib.tapeOf y).make = false then
        some .incompatibleMediumInstalled
      else none

/-- `mchanger_exchange_update`: the first destination is copied before it is updated. -/
def mchangerExchangeUpdate (secondDest firstDest source : Fin n) : Library n :=
  let tmpElement := lib.element firstDest
  let lib := mchangerMoveUpdate layout lib firstDest source
  let lib := fillElement layout lib secondDest firstDest tmpElement
  if layout.type source = .importExport ∧ source ≠ secondDest then
    lib.update source fun e => { e with impexp := false }
  else lib

/-- The moves of EXCHANGE MEDIUM. -/
def exchangeElements (source firstDest secondDest : Fin n) (x y : ℕ) :
    Option ChangerSense × Library n :=
  match unloadElement layout env lib source with
  | (false, lib) => (some .unloadTapeFailure, lib)
  | (true, lib) =>
    match unloadElement layout env lib firstDest with
    -- the source may be unloaded already
    | (false, lib) => (some .unloadTapeFailure, lib)
    | (true, lib) =>
      let lib := loadElement layout lib firstDest x
      let lib := clearElement layout lib source
      let lib := loadElement layout lib secondDest y
      (none, mchangerExchangeUpdate layout lib secondDest firstDest source)

/-- `mchanger_cmd_exchange_medium`. -/
def mchangerCmdExchangeMedium (cmd : ExchangeCmd) : Option ChangerSense × Library n :=
  if cmd.source = 0 ∨ cmd.firstDest = 0 ∨ cmd.secondDest = 0 then
    (some .invalidElementAddress, lib)
  else match mchangerGetElement layout cmd.source, mchangerGetElement layout cmd.firstDest,
      mchangerGetElement layout cmd.secondDest with
    | some source, some firstDest, some secondDest =>
      match elementVcartridge layout lib source, elementVcartridge layout lib firstDest with
      | some x, some y =>
        match exchangeSense layout env lib cmd source firstDest secondDest x y with
        | some sense => (some sense, lib)
        | none => exchangeElements layout env lib source firstDest secondDest x y
      | _, _ => (some .mediumSourceElementEmpty, lib)
    | _, _, _ => (some .invalidElementAddress, lib)

/-! ## Free elements -/

/-- `storage_element_in_use`: a cartridge in a drive came from the slot. -/
def storageElementInUse (slot : Fin n) : Bool :=
  (List.finRange n).any fun i =>
    layout.type i == .dataTransfer && (elementVcartridge layout lib i).isSome &&
      (lib.element i).sourceAddress == layout.address slot

/-- `get_free_storage_element`. -/
def getFreeStorageElement : Option (Fin n) :=
  (List.finRange n).find? fun i =>
    layout.type i == .storage && (lib.element i).tape.isNone && !storageElementInUse layout lib i

/-- `get_free_ie_element`. -/
def getFreeIeElement : Option (Fin n) :=
  (List.finRange n).find? fun i => layout.type i == .importExport && (lib.element i).tape.isNone

/-- `element_address_valid_for_voltype`. -/
def elementAddressValidForVoltype (volType : ℕ) (i : Fin n) : Bool :=
  layout.type i != .mediumTransport && (elementVcartridge layout lib i).isNone &&
    (layout.type i != .dataTransfer || env.mediaValid i volType)

/-- `get_free_element`. -/
def getFreeElement (eaddress volType : ℕ) (useFreeSlot : Bool) : Option (Fin n) :=
  let asked := if eaddress = 0 then none else
    (mchangerGetElement layout eaddress).filter (elementAddressValidForVoltype layout env lib volType)
  match asked with
  | some i => some i
  | none =>
    match getFreeStorageElement layout lib with
    | none => none
    | some slot =>
      if useFreeSlot || !env.initiators then some slot
      else some ((getFreeIeElement layout lib).getD slot)

/-! ## Calls of the daemon -/

/-- The flags of an element that is given a cartridge. -/
def fillFlags (i : Fin n) : Library n :=
  lib.update i fun e =>
    { e with access := true, full := true, impexp := e.impexp || layout.type i == .importExport }

/-- `mchanger_new_vcartridge`. -/
def mchangerNewVcartridge (tape : Tape) (useFreeSlot : Bool) : Bool × Library n :=
  match getFreeElement layout env lib 0 tape.make useFreeSlot with
  | none => (false, lib)
  | some i =>
    if env.tapeFails then (false, lib)
    else (true, fillFlags layout
      ((lib.alloc tape).update i fun e => { e with tape := some lib.nextTape }) i)

/-- `mchanger_load_vcartridge`. -/
def mchangerLoadVcartridge (tape : Tape) (eaddress : ℕ) : Bool × Library n :=
  match getFreeElement layout env lib eaddress tape.make true with
  | none => (false, lib)
  | some i =>
    if env.tapeFails then (false, lib)
    else if tape.exported then
      (true, { lib.alloc tape with exportList := lib.nextTape :: lib.exportList })
    else (true, fillFlags layout (loadElement layout (lib.alloc tape) i lib.nextTape) i)

/-- A cartridge has an identifier. -/
def hasTapeId (tapeId : ℕ) (h : ℕ) : Bool :=
  (lib.tapeOf h).tapeId == tapeId

/-- `mchanger_delete_vcartridge`. -/
def mchangerDeleteVcartridge (tapeId : ℕ) : Bool × Library n :=
  match (List.finRange n).find? fun i =>
      (elementVcartridge layout lib i).any (hasTapeId lib tapeId) with
  | some i =>
    let h := ((lib.element i).tape).getD 0
    if layout.type i = .dataTransfer then
      match tdriveUnloadTape env lib i with
      | (false, lib) => (false, lib)
      | (true, lib) => (true, (lib.tapeFree h).update i fun e => { e with full := false })
    else (true, (lib.tapeFree h).update i fun e =>
      { e with tape := none, full := false, impexp := e.impexp && layout.type i != .importExport })
  | none =>
    match lib.exportList.find? (hasTapeId lib tapeId) with
    | some h => (true, { lib.tapeFree h with exportList := lib.exportList.erase h })
    | none => (false, lib)

/-- One round of `mchanger_check_for_exported_volumes`. The bit is set before the write. -/
def exportElement (i : Fin n) : Library n :=
  match elementVcartridge layout lib i with
  | none => lib
  | some h =>
    if layout.type i ≠ .importExport ∨ (lib.element i).impexp = true then lib
    else if env.writeFails h then lib.setExported h true
    else
      ({ lib.setExported h true with exportList := h :: lib.exportList } : Library n).update i
        fun e => { e with tape := none, full := false, impexp := false }

/-- `mchanger_check_for_exported_volumes`, which is what `mchanger_vcartridge_info` changes. -/
def mchangerCheckForExportedVolumes : Library n :=
  (List.finRange n).foldl (exportElement layout env) lib

/-- `mchanger_reload_export_vcartridge`. -/
def mchangerReloadExportVcartridge (tapeId : ℕ) : Bool × Library n :=
  match lib.exportList.find? (hasTapeId lib tapeId) with
  | none => (false, lib)
  | some h =>
    match getFreeStorageElement layout lib with
    | none => (false, lib)
    | some i =>
      if env.writeFails h then (false, (lib.setExported h false).setExported h true)
      else (true, fillFlags layout
        ({ lib.setExported h false with exportList := lib.exportList.erase h }.update i fun e =>
          { e with tape := some h }) i)

/-! ## Steps -/

/-- What happens to a library. -/
inductive ChangerEvent
  /-- MOVE MEDIUM. -/
  | move (cmd : MoveCmd)
  /-- EXCHANGE MEDIUM. -/
  | exchange (cmd : ExchangeCmd)
  /-- A new cartridge. -/
  | new (tape : Tape) (useFreeSlot : Bool)
  /-- A cartridge loaded at an address. -/
  | load (tape : Tape) (eaddress : ℕ)
  /-- A cartridge deleted. -/
  | delete (tapeId : ℕ)
  /-- Information about a cartridge, which exports. -/
  | info
  /-- An exported cartridge brought back. -/
  | reload (tapeId : ℕ)
  deriving DecidableEq, Repr

/-- The library after an event. -/
def changerEvent : ChangerEvent → Library n
  | .move cmd => (mchangerCmdMoveMedium layout env lib cmd).2
  | .exchange cmd => (mchangerCmdExchangeMedium layout env lib cmd).2
  | .new tape useFreeSlot => (mchangerNewVcartridge layout env lib tape useFreeSlot).2
  | .load tape eaddress => (mchangerLoadVcartridge layout env lib tape eaddress).2
  | .delete tapeId => (mchangerDeleteVcartridge layout env lib tapeId).2
  | .info => mchangerCheckForExportedVolumes layout env lib
  | .reload tapeId => (mchangerReloadExportVcartridge layout env lib tapeId).2

/-- An event and its circumstances as a step. -/
def ChangerStep (lib : Library n) (label : ChangerEnv n × ChangerEvent) (after : Library n) :
    Prop :=
  after = changerEvent layout label.1 lib label.2

/-- A library without cartridges. -/
def Library.empty (n : ℕ) : Library n where
  element _ := ⟨none, false, true, false, false, false, false, 0⟩
  exportList := []
  tape _ := none
  nextTape := 0

end VirtualTape
