import VirtualTape.Lib.Run

/-!
# Reservations

A device keeps one record for its reservation, which a legacy RESERVE and a PERSISTENT RESERVE OUT
share, and a list of registrations. Each service action of PERSISTENT RESERVE OUT is one function.
-/

namespace VirtualTape

/-- An initiator, the target port it uses and the interface between them. -/
structure Nexus where
  /-- Initiator port. -/
  iPrt : Nat × Nat
  /-- Target port. -/
  tPrt : Nat × Nat
  /-- Interface, `init_int`. -/
  initInt : Nat
  deriving DecidableEq, Repr

/-- The ports are the same, whatever the interface. -/
def Nexus.portsEqual (first second : Nexus) : Bool :=
  first.iPrt == second.iPrt && first.tPrt == second.tPrt

/-- How a device is reserved. -/
inductive ReservationType
  /-- Neither way. -/
  | none
  /-- `RESERVATION_TYPE_RESERVE`. -/
  | reserve
  /-- `RESERVATION_TYPE_PERSISTENT`. -/
  | persistent
  deriving DecidableEq, Repr

/-- The type of a persistent reservation, four bits of the command. -/
inductive PersistentType
  /-- `RESERVATION_TYPE_WRITE_EXCLUSIVE`. -/
  | writeExclusive
  /-- `RESERVATION_TYPE_EXCLUSIVE_ACCESS`. -/
  | exclusiveAccess
  /-- `RESERVATION_TYPE_WRITE_EXCLUSIVE_RO`. -/
  | writeExclusiveRo
  /-- `RESERVATION_TYPE_EXCLUSIVE_ACCESS_RO`. -/
  | exclusiveAccessRo
  /-- `RESERVATION_TYPE_WRITE_EXCLUSIVE_AR`. -/
  | writeExclusiveAr
  /-- `RESERVATION_TYPE_EXCLUSIVE_ACCESS_AR`. -/
  | exclusiveAccessAr
  /-- Any other code. -/
  | other (code : Nat)
  deriving DecidableEq, Repr

/-- A registration. -/
structure Registration where
  /-- The key. -/
  key : Nat
  /-- The nexus. -/
  nexus : Nexus
  deriving DecidableEq, Repr

/-- The reservation record of a device. -/
structure Reservation where
  /-- Changes to the registrations. -/
  generation : Nat
  /-- The device is reserved. -/
  isReserved : Bool
  /-- In which way. -/
  type : ReservationType
  /-- Type of a persistent reservation. -/
  persistentType : PersistentType
  /-- Key with which a persistent reservation was made. -/
  persistentKey : Nat
  /-- The nexus that reserved. -/
  nexus : Nexus
  /-- The registrations. -/
  registrationList : List Registration
  deriving DecidableEq, Repr

/-- The record of a new device. -/
def Reservation.initial : Reservation := ⟨0, false, .none, .other 0, 0, ⟨(0, 0), (0, 0), 0⟩, []⟩

/-- How a service action ends. -/
inductive ReserveStatus
  /-- The command is done. -/
  | good
  /-- `SCSI_STATUS_RESERV_CONFLICT`. -/
  | reservConflict
  /-- `SSD_KEY_ILLEGAL_REQUEST`. -/
  | illegalRequest
  deriving DecidableEq, Repr

/-- Parameters of a service action. -/
structure ReserveParam where
  /-- Key of the caller. -/
  key : Nat
  /-- Service action key. -/
  serviceActionKey : Nat
  /-- Reservation type. -/
  type : PersistentType
  deriving DecidableEq, Repr

/-! ## Questions -/

/-- A nexus is registered, with whatever key. -/
def initiatorHasRegisteredAr (list : List Registration) (nexus : Nexus) : Bool :=
  list.any fun tmp => tmp.nexus == nexus

/-- A nexus is registered with a key. -/
def initiatorHasRegistered (key : Nat) (nexus : Nexus) (list : List Registration) : Bool :=
  list.any fun tmp => tmp.nexus == nexus && tmp.key == key

/-- One of the two all registrants types. -/
def PersistentType.isAr : PersistentType → Bool
  | .writeExclusiveAr | .exclusiveAccessAr => true
  | _ => false

namespace Reservation

/-- The device is reserved for all registrants. -/
def inPersistentArType (reservation : Reservation) : Bool :=
  reservation.isReserved && reservation.type == .persistent && reservation.persistentType.isAr

/-- A nexus holds the persistent reservation. -/
def isPersistentReservationHolder (reservation : Reservation) (nexus : Nexus) : Bool :=
  reservation.type == .persistent &&
    match reservation.persistentType with
    | .writeExclusive | .exclusiveAccess | .writeExclusiveRo | .exclusiveAccessRo =>
      reservation.nexus == nexus
    | .writeExclusiveAr | .exclusiveAccessAr =>
      initiatorHasRegisteredAr reservation.registrationList nexus
    | .other _ => false

/-! ## Service actions -/

/-- End a persistent reservation. -/
def persistentReservationReset (reservation : Reservation) : Reservation :=
  { reservation with
    isReserved := false
    type := .none
    persistentType := .other 0
    persistentKey := 0 }

/-- One change more. -/
def nextGeneration (reservation : Reservation) : Reservation :=
  { reservation with generation := (reservation.generation + 1) % 2 ^ 32 }

/-- End the reservation if it depends on a registration that was removed. -/
def persistentReservationRemoveRegistration (reservation : Reservation) (nexus : Nexus) :
    Reservation :=
  if !reservation.isReserved then reservation
  else if reservation.inPersistentArType then
    if reservation.registrationList.isEmpty then reservation.persistentReservationReset
    else reservation
  else if reservation.isPersistentReservationHolder nexus then
    reservation.persistentReservationReset
  else reservation

/-- Give the first registration of a nexus a new key. -/
def setKey (nexus : Nexus) (key : Nat) : List Registration → List Registration
  | [] => []
  | tmp :: rest =>
    if tmp.nexus = nexus then { tmp with key := key } :: rest else tmp :: setKey nexus key rest

/-- Change the registration of a nexus that has one: remove it, or give it a new key. -/
def changeRegistration (reservation : Reservation) (nexus : Nexus) (serviceActionKey : Nat) :
    Reservation :=
  let changed :=
    if serviceActionKey = 0 then
      ({ reservation with registrationList :=
        reservation.registrationList.eraseP fun tmp => tmp.nexus == nexus }
          : Reservation).persistentReservationRemoveRegistration nexus
    else { reservation with
      registrationList := setKey nexus serviceActionKey reservation.registrationList }
  changed.nextGeneration

/-- Add a registration. -/
def addRegistration (reservation : Reservation) (nexus : Nexus) (serviceActionKey : Nat) :
    Reservation :=
  ({ reservation with registrationList :=
    ⟨serviceActionKey, nexus⟩ :: reservation.registrationList } : Reservation).nextGeneration

/-- REGISTER. -/
def persistentReservationHandleRegister (reservation : Reservation) (nexus : Nexus)
    (param : ReserveParam) : ReserveStatus × Reservation :=
  match reservation.registrationList.find? fun tmp => tmp.nexus == nexus with
  | some tmp =>
    if param.key ≠ tmp.key then (.reservConflict, reservation)
    else (.good, reservation.changeRegistration nexus param.serviceActionKey)
  | none =>
    if param.key = 0 ∧ param.serviceActionKey = 0 then (.good, reservation.nextGeneration)
    else if param.key ≠ 0 then (.reservConflict, reservation)
    else (.good, reservation.addRegistration nexus param.serviceActionKey)

/-- REGISTER AND IGNORE EXISTING KEY. -/
def persistentReservationHandleRegisterAndIgnore (reservation : Reservation) (nexus : Nexus)
    (param : ReserveParam) : ReserveStatus × Reservation :=
  match reservation.registrationList.find? fun tmp => tmp.nexus == nexus with
  | some _ => (.good, reservation.changeRegistration nexus param.serviceActionKey)
  | none =>
    if param.serviceActionKey = 0 then (.good, reservation.nextGeneration)
    else (.good, reservation.addRegistration nexus param.serviceActionKey)

/-- RESERVE. -/
def persistentReservationHandleReserve (reservation : Reservation) (nexus : Nexus)
    (param : ReserveParam) : ReserveStatus × Reservation :=
  if !initiatorHasRegistered param.key nexus reservation.registrationList then
    (.reservConflict, reservation)
  else if reservation.isReserved && !reservation.isPersistentReservationHolder nexus then
    (.reservConflict, reservation)
  else if reservation.isReserved &&
      (reservation.persistentKey != param.key || reservation.persistentType != param.type) then
    (.reservConflict, reservation)
  else if reservation.isReserved then (.good, reservation)
  else (.good, { reservation with
    isReserved := true
    type := .persistent
    persistentType := param.type
    persistentKey := param.key
    nexus := nexus })

/-- RELEASE. -/
def persistentReservationHandleRelease (reservation : Reservation) (nexus : Nexus)
    (param : ReserveParam) : ReserveStatus × Reservation :=
  if !reservation.isReserved then (.good, reservation)
  else if !initiatorHasRegistered param.key nexus reservation.registrationList then
    (.reservConflict, reservation)
  else if !reservation.inPersistentArType && reservation.nexus != nexus then (.good, reservation)
  else if !reservation.inPersistentArType && reservation.persistentKey != param.key then
    (.reservConflict, reservation)
  else if reservation.persistentType != param.type then (.illegalRequest, reservation)
  else (.good, reservation.persistentReservationReset)

/-- CLEAR. -/
def persistentReservationHandleClear (reservation : Reservation) (nexus : Nexus)
    (param : ReserveParam) : ReserveStatus × Reservation :=
  if !initiatorHasRegistered param.key nexus reservation.registrationList then
    (.reservConflict, reservation)
  else
    (.good, ({ reservation with registrationList := [] }
      : Reservation).persistentReservationReset.nextGeneration)

/-- PREEMPT, and PREEMPT AND ABORT, which also aborts commands of the removed registrants. -/
def persistentReservationHandlePreempt (reservation : Reservation) (nexus : Nexus)
    (param : ReserveParam) : ReserveStatus × Reservation :=
  let isAr := reservation.inPersistentArType
  if !initiatorHasRegistered param.key nexus reservation.registrationList then
    (.reservConflict, reservation)
  else if reservation.isReserved && reservation.persistentKey != param.key then
    (.reservConflict, reservation)
  else if !isAr && reservation.isReserved && param.serviceActionKey == 0 then
    (.illegalRequest, reservation)
  else
    let kept := { reservation with registrationList := reservation.registrationList.filter fun tmp =>
      tmp.nexus == nexus ||
        (tmp.key != param.serviceActionKey && (!isAr || param.serviceActionKey != 0)) }
    let taken :=
      if (reservation.isReserved && !isAr && reservation.persistentKey == param.serviceActionKey) ||
          (isAr && param.serviceActionKey == 0) then
        { kept with
          type := .persistent
          nexus := nexus
          persistentKey := param.key
          persistentType := param.type }
      else kept
    (.good, taken.nextGeneration)

end Reservation

/-! ## PERSISTENT RESERVE OUT -/

/-- Service actions. -/
inductive ServiceAction
  /-- `SERVICE_ACTION_REGISTER`. -/
  | register
  /-- `SERVICE_ACTION_REGISTER_IGNORE`. -/
  | registerIgnore
  /-- `SERVICE_ACTION_RESERVE`. -/
  | reserve
  /-- `SERVICE_ACTION_RELEASE`. -/
  | release
  /-- `SERVICE_ACTION_CLEAR`. -/
  | clear
  /-- `SERVICE_ACTION_PREEMPT`. -/
  | preempt
  /-- `SERVICE_ACTION_PREEMPT_ABORT`. -/
  | preemptAbort
  /-- Any other code. -/
  | other (code : Nat)
  deriving DecidableEq, Repr

/-- A PERSISTENT RESERVE OUT command. -/
structure ReserveOut where
  /-- Service action. -/
  serviceAction : ServiceAction
  /-- Scope. -/
  scope : Nat
  /-- Parameter list length. -/
  parameterListLength : Nat
  /-- The parameters. -/
  param : ReserveParam
  deriving DecidableEq, Repr

/-- `tdrive_cmd_persistent_reserve_out` and `mchanger_cmd_persistent_reserve_out`. -/
def cmdPersistentReserveOut (reservation : Reservation) (nexus : Nexus) (cmd : ReserveOut) :
    ReserveStatus × Reservation :=
  if cmd.scope ≠ 0 ∨ cmd.parameterListLength ≠ 24 then (.illegalRequest, reservation)
  else match cmd.serviceAction with
    | .register => reservation.persistentReservationHandleRegister nexus cmd.param
    | .registerIgnore => reservation.persistentReservationHandleRegisterAndIgnore nexus cmd.param
    | .reserve => reservation.persistentReservationHandleReserve nexus cmd.param
    | .release => reservation.persistentReservationHandleRelease nexus cmd.param
    | .clear => reservation.persistentReservationHandleClear nexus cmd.param
    | .preempt | .preemptAbort => reservation.persistentReservationHandlePreempt nexus cmd.param
    | .other _ => (.illegalRequest, reservation)

/-- A PERSISTENT RESERVE OUT command by some nexus. -/
structure ReserveOutBy where
  /-- The nexus. -/
  nexus : Nexus
  /-- The command. -/
  cmd : ReserveOut
  deriving DecidableEq, Repr

/-- One such command, on a device without a legacy reservation. -/
def ReserveOutStep (r : Reservation) (request : ReserveOutBy) (r' : Reservation) : Prop :=
  r' = (cmdPersistentReserveOut r request.nexus request.cmd).2

end VirtualTape
