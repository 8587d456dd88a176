import VirtualTape.Core.Reservation

/-!
# Access to a reserved device

Before a command reaches its handler, the device looks it up in a table of what a reservation
allows. Drives and changers have a table each. RESERVE, RELEASE and a reset change the same record
as PERSISTENT RESERVE OUT.
-/

namespace VirtualTape

/-- Operation codes, with the fields the tables read. -/
inductive ScsiOp
  /-- TEST UNIT READY. -/
  | testUnitReady
  /-- INQUIRY. -/
  | inquiry
  /-- REQUEST SENSE. -/
  | requestSense
  /-- REPORT LUNS. -/
  | reportLuns
  /-- READ BLOCK LIMITS. -/
  | readBlockLimits
  /-- REPORT DENSITY SUPPORT. -/
  | reportDensitySupport
  /-- MODE SENSE(6). -/
  | modeSense6
  /-- MODE SENSE(10). -/
  | modeSense10
  /-- MODE SELECT(6). -/
  | modeSelect6
  /-- MODE SELECT(10). -/
  | modeSelect10
  /-- LOG SENSE. -/
  | logSense
  /-- LOG SELECT. -/
  | logSelect
  /-- READ ATTRIBUTE. -/
  | readAttribute
  /-- WRITE ATTRIBUTE. -/
  | writeAttribute
  /-- READ BUFFER. -/
  | readBuffer
  /-- SEND DIAGNOSTIC. -/
  | sendDiagnostic
  /-- RECEIVE DIAGNOSTIC RESULTS. -/
  | receiveDiagnosticResults
  /-- LOAD UNLOAD. -/
  | loadUnload
  /-- REWIND. -/
  | rewind
  /-- WRITE(6). -/
  | write6
  /-- WRITE FILEMARKS. -/
  | writeFilemarks
  /-- ERASE. -/
  | erase
  /-- SET CAPACITY. -/
  | setCapacity
  /-- FORMAT MEDIUM. -/
  | formatMedium
  /-- READ(6). -/
  | read6
  /-- SPACE. -/
  | space
  /-- READ POSITION. -/
  | readPosition
  /-- LOCATE. -/
  | locate
  /-- LOCATE(16). -/
  | locate16
  /-- PREVENT ALLOW MEDIUM REMOVAL, and whether it prevents. -/
  | preventAllow (prevent : Bool)
  /-- RESERVE(6). -/
  | reserve
  /-- RELEASE(6). -/
  | release
  /-- PERSISTENT RESERVE IN. -/
  | persistentReserveIn
  /-- PERSISTENT RESERVE OUT. -/
  | persistentReserveOut
  /-- READ ELEMENT STATUS, and whether current data will do. -/
  | readElementStatus (curdata : Bool)
  /-- POSITION TO ELEMENT. -/
  | positionToElement
  /-- INITIALIZE ELEMENT STATUS. -/
  | initializeElementStatus
  /-- INITIALIZE ELEMENT STATUS WITH RANGE. -/
  | initializeElementStatusWithRange
  /-- INITIALIZE ELEMENT STATUS WITH RANGE, the second code. -/
  | initializeElementStatusWithRangep
  /-- MOVE MEDIUM. -/
  | moveMedium
  /-- EXCHANGE MEDIUM. -/
  | exchangeMedium
  /-- Any other code. -/
  | other (code : Nat)
  deriving DecidableEq, Repr

/-- The two kinds of device. -/
inductive DeviceKind
  /-- A tape drive. -/
  | drive
  /-- A medium changer. -/
  | changer
  deriving DecidableEq, Repr

/-- A reservation stands in the way of a nexus: its ports are not those that reserved. -/
def deviceReserved (reservation : Reservation) (nexus : Nexus) : Bool :=
  reservation.isReserved && !reservation.nexus.portsEqual nexus

/-- Commands the persistent types refuse for writers and for all access alike. -/
def PersistentType.allowsWrites (type : PersistentType) (registered : Bool) : Bool :=
  match type with
  | .writeExclusive | .exclusiveAccess => false
  | .writeExclusiveRo | .exclusiveAccessRo => registered
  | _ => true

/-- Commands the persistent types refuse for all access only. -/
def PersistentType.allowsReads (type : PersistentType) (registered : Bool) : Bool :=
  match type with
  | .exclusiveAccess => false
  | .exclusiveAccessRo => registered
  | _ => true

/-- The table of `tdrive_cmd_access_ok` for a legacy reservation. -/
def tdriveReserveOk : ScsiOp → Bool
  | .logSelect | .modeSelect6 | .modeSelect10 | .writeAttribute | .modeSense6 | .modeSense10
  | .persistentReserveIn | .persistentReserveOut | .testUnitReady | .reserve | .erase | .locate
  | .locate16 | .loadUnload | .read6 | .readPosition | .rewind | .space | .write6
  | .writeFilemarks | .setCapacity | .formatMedium | .readAttribute | .readBuffer
  | .sendDiagnostic | .receiveDiagnosticResults => false
  | .preventAllow prevent => !prevent
  | _ => true

/-- The table of `tdrive_cmd_access_ok` for a persistent reservation. -/
def tdrivePersistentOk (type : PersistentType) (registered : Bool) : ScsiOp → Bool
  | .logSelect | .modeSense6 | .modeSense10 | .modeSelect6 | .modeSelect10 | .writeAttribute
  | .testUnitReady | .erase | .loadUnload | .write6 | .writeFilemarks | .setCapacity
  | .formatMedium | .sendDiagnostic | .receiveDiagnosticResults => type.allowsWrites registered
  | .locate | .locate16 | .read6 | .readPosition | .rewind | .space | .readAttribute
  | .readBuffer => type.allowsReads registered
  | .preventAllow prevent => !prevent || type.allowsWrites registered
  | .release | .reserve => false
  | _ => true

/-- `tdrive_cmd_access_ok`. -/
def tdriveCmdAccessOk (reservation : Reservation) (nexus : Nexus) (op : ScsiOp) : Bool :=
  if !deviceReserved reservation nexus then true
  else if reservation.type == .reserve then tdriveReserveOk op
  else tdrivePersistentOk reservation.persistentType
    (initiatorHasRegisteredAr reservation.registrationList nexus) op

/-- The table of `mchanger_cmd_access_ok` for a legacy reservation. -/
def mchangerReserveOk : ScsiOp → Bool
  | .logSelect | .modeSelect6 | .modeSelect10 | .modeSense6 | .modeSense10
  | .persistentReserveIn | .persistentReserveOut | .testUnitReady | .reserve | .exchangeMedium
  | .positionToElement | .initializeElementStatus | .initializeElementStatusWithRange
  | .initializeElementStatusWithRangep => false
  | .readElementStatus curdata => curdata
  | .preventAllow prevent => !prevent
  -- MOVE MEDIUM is not listed, unlike EXCHANGE MEDIUM
  | _ => true

/-- The table of `mchanger_cmd_access_ok` for a persistent reservation. -/
def mchangerPersistentOk (type : PersistentType) (registered : Bool) : ScsiOp → Bool
  | .logSelect | .modeSense6 | .modeSense10 | .modeSelect6 | .modeSelect10 | .testUnitReady =>
    type.allowsWrites registered
  | .readElementStatus curdata => curdata || type.allowsWrites registered
  | .preventAllow prevent => !prevent || type.allowsWrites registered
  | .inquiry | .persistentReserveIn | .persistentReserveOut | .reportLuns => true
  | _ => false

/-- `mchanger_cmd_access_ok`. -/
def mchangerCmdAccessOk (reservation : Reservation) (nexus : Nexus) (op : ScsiOp) : Bool :=
  if !deviceReserved reservation nexus then true
  else if reservation.type == .reserve then mchangerReserveOk op
  else mchangerPersistentOk reservation.persistentType
    (initiatorHasRegisteredAr reservation.registrationList nexus) op

/-- The table of a device. -/
def cmdAccessOk : DeviceKind → Reservation → Nexus → ScsiOp → Bool
  | .drive => tdriveCmdAccessOk
  | .changer => mchangerCmdAccessOk

/-- `tdrive_check_cmd`: the commands a drive has handlers for. -/
def tdriveCheckCmd : ScsiOp → Bool
  | .readElementStatus _ | .positionToElement | .initializeElementStatus
  | .initializeElementStatusWithRange | .initializeElementStatusWithRangep | .moveMedium
  | .exchangeMedium | .other _ => false
  | _ => true

/-- `mchanger_check_cmd`: the commands a changer has handlers for. -/
def mchangerCheckCmd : ScsiOp → Bool
  | .testUnitReady | .inquiry | .readElementStatus _ | .positionToElement
  | .initializeElementStatus | .initializeElementStatusWithRange
  | .initializeElementStatusWithRangep | .modeSense6 | .modeSense10 | .logSense | .moveMedium
  | .exchangeMedium | .reportLuns | .requestSense | .preventAllow _ | .reserve | .release
  | .persistentReserveIn | .persistentReserveOut => true
  | _ => false

/-- The commands a device has handlers for. -/
def checkCmd : DeviceKind → ScsiOp → Bool
  | .drive => tdriveCheckCmd
  | .changer => mchangerCheckCmd

/-- A command that nothing else stands in the way of reaches its handler. -/
def executes (kind : DeviceKind) (reservation : Reservation) (nexus : Nexus) (op : ScsiOp) : Bool :=
  checkCmd kind op && cmdAccessOk kind reservation nexus op

/-- A changer does not reserve elements: it rejects the bit that asks for it. -/
def rejectsElement : DeviceKind → Bool → Bool
  | .drive, _ => false
  | .changer, element => element

/-- `tdrive_cmd_reserve` and `mchanger_cmd_reserve`. -/
def cmdReserve (kind : DeviceKind) (reservation : Reservation) (nexus : Nexus) (element : Bool) :
    Reservation :=
  if rejectsElement kind element then reservation
  else if !cmdAccessOk kind reservation nexus .reserve then reservation
  else { reservation with isReserved := true, type := .reserve, nexus := nexus }

/-- `tdrive_cmd_release` and `mchanger_cmd_release`. -/
def cmdRelease (kind : DeviceKind) (reservation : Reservation) (nexus : Nexus) (element : Bool) :
    Reservation :=
  if rejectsElement kind element then reservation
  else if reservation.nexus == nexus then { reservation with isReserved := false }
  else reservation

/-- The part of `tdrive_reset` and `mchanger_reset` that concerns the reservation. -/
def deviceReset (reservation : Reservation) : Reservation :=
  if reservation.isReserved && reservation.type == .reserve then
    { reservation with isReserved := false, type := .none }
  else reservation

/-- What changes the reservation of a device. -/
inductive ReservationEvent
  /-- RESERVE(6), with the element bit. -/
  | reserve (nexus : Nexus) (element : Bool)
  /-- RELEASE(6), with the element bit. -/
  | release (nexus : Nexus) (element : Bool)
  /-- PERSISTENT RESERVE OUT. -/
  | reserveOut (nexus : Nexus) (cmd : ReserveOut)
  /-- A reset. -/
  | reset
  deriving DecidableEq, Repr

/-- One event: a command that has access runs its handler. -/
def reservationEvent (kind : DeviceKind) (reservation : Reservation) :
    ReservationEvent → Reservation
  | .reserve nexus element =>
    if cmdAccessOk kind reservation nexus .reserve then cmdReserve kind reservation nexus element
    else reservation
  | .release nexus element =>
    if cmdAccessOk kind reservation nexus .release then cmdRelease kind reservation nexus element
    else reservation
  | .reserveOut nexus cmd =>
    if cmdAccessOk kind reservation nexus .persistentReserveOut then
      (cmdPersistentReserveOut reservation nexus cmd).2
    else reservation
  | .reset => deviceReset reservation

/-- One event as a step. -/
def ReservationStep (kind : DeviceKind) (r : Reservation) (event : ReservationEvent)
    (r' : Reservation) : Prop :=
  r' = reservationEvent kind r event

end VirtualTape
