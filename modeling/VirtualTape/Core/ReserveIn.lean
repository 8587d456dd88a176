import VirtualTape.Lib.Buffer
import VirtualTape.Core.FcRules

/-!
# PERSISTENT RESERVE IN

The three service actions that report the registrations and the reservation. Each fills a buffer of
the allocation length: a header, then descriptors one after the other for as long as they fit. The
offset behind the last descriptor is a 16-bit number and goes on growing past the buffer.
-/

namespace VirtualTape

/-- `TARGET_INT_LOCAL`. -/
def targetIntLocal : Nat := 0x01

/-- `TARGET_INT_ISCSI`. -/
def targetIntIscsi : Nat := 0x02

/-- The four bits that stand for a persistent reservation type. -/
def PersistentType.code : PersistentType → Nat
  | .writeExclusive => 0x01
  | .exclusiveAccess => 0x03
  | .writeExclusiveRo => 0x05
  | .exclusiveAccessRo => 0x06
  | .writeExclusiveAr => 0x07
  | .exclusiveAccessAr => 0x08
  | .other code => code

/-- A registration with the name of its initiator. -/
structure Registrant where
  /-- The registration. -/
  registration : Registration
  /-- Characters of `init_name`, without the one that ends it. -/
  initName : List UInt8

/-- The reservation record of a device, with what only the reports use. -/
structure ReserveReport where
  /-- The record. -/
  reservation : Reservation
  /-- Relative port of the nexus that reserved, `r_prt`. -/
  rPrt : Nat
  /-- The registrations and their names. -/
  registrants : List Registrant
  /-- They are the registrations of the record. -/
  named : registrants.map Registrant.registration = reservation.registrationList

/-- What a service action leaves in the command. -/
structure ReserveInData where
  /-- The buffer, `data_ptr`. -/
  buffer : Buffer
  /-- How much of it is returned, `dxfer_len`. -/
  dxferLen : Nat

/-- Bytes of zero. -/
def bzero (count : Nat) : List UInt8 := List.replicate count 0

section Copy

variable {α : Type} (allocationLength : Nat) (size : α → Nat) (copy : Buffer → Nat → α → Buffer)

/-- Copy the descriptors that fit behind `done` and skip the others. -/
def copyDescriptors : Buffer → Nat → List α → Buffer × Nat
  | buffer, done, [] => (buffer, done)
  | buffer, done, item :: rest =>
    if allocationLength < done + size item then
      copyDescriptors buffer ((done + size item) % 2 ^ 16) rest
    else copyDescriptors (copy buffer done item) ((done + size item) % 2 ^ 16) rest

/-- Set the additional length and what is returned. -/
def reserveInDone (copied : Buffer × Nat) : ReserveInData where
  buffer := copied.1.write 4 (beBytes 4 ((copied.2 + 2 ^ 32 - 8) % 2 ^ 32))
  dxferLen := if copied.2 < allocationLength then copied.2 else allocationLength

end Copy

/-- The buffer of a service action, with the generation in front. -/
def reserveInBuffer (allocationLength : Nat) (stale : Nat → UInt8) (reservation : Reservation) :
    Buffer :=
  (Buffer.allocate allocationLength stale).write 0 (beBytes 4 reservation.generation)

/-! ## READ KEYS -/

/-- Report the keys. -/
def persistentReservationReadKeys (allocationLength : Nat) (stale : Nat → UInt8)
    (report : ReserveReport) : ReserveInData :=
  reserveInDone allocationLength <|
    copyDescriptors allocationLength (fun _ => 8)
      (fun buffer done item => buffer.write done (beBytes 8 item.registration.key))
      (reserveInBuffer allocationLength stale report.reservation) 8 report.registrants

/-! ## READ RESERVATION -/

/-- The descriptor of the reservation, a `struct pin_data`. -/
def pinData (reservation : Reservation) : List UInt8 :=
  beBytes 8 (if reservation.inPersistentArType then 0 else reservation.persistentKey) ++
    bzero 5 ++ beBytes 1 reservation.persistentType.code ++ bzero 2

/-- Size of the variable `pin_data`, which is a pointer. -/
def pinDataPointerSize : Nat := 8

/-- Report the reservation. Whether the descriptor fits is asked with the size of a pointer to it. -/
def persistentReservationReadReservations (allocationLength : Nat) (stale : Nat → UInt8)
    (report : ReserveReport) : ReserveInData :=
  let buffer := reserveInBuffer allocationLength stale report.reservation
  reserveInDone allocationLength <|
    if report.reservation.isReserved then
      (if 8 + pinDataPointerSize ≤ allocationLength then
          buffer.write 8 (pinData report.reservation)
        else buffer, 8 + 16)
    else (buffer, 8)

/-! ## READ FULL STATUS -/

namespace Registrant

variable (item : Registrant)

/-- The initiator came over iSCSI. -/
def isIscsi : Bool := item.registration.nexus.initInt == targetIntIscsi

/-- The initiator came over Fibre Channel. -/
def isFc : Bool := item.registration.nexus.initInt == targetIntFc

/-- The initiator is a local one. -/
def isLocal : Bool := item.registration.nexus.initInt == targetIntLocal

/-- Size of the transport identifier, 16 bits. -/
def transportSize : Nat :=
  if item.isIscsi then (4 + item.initName.length) % 2 ^ 16
  else if item.isFc then 24
  else if item.isLocal then 24
  else 0

/-- Size of the descriptor, 16 bits. -/
def descSize : Nat := (24 + item.transportSize) % 2 ^ 16

end Registrant

namespace ReserveReport

variable (report : ReserveReport)

/-- A registrant is reported as a holder of the reservation. -/
def marksHolder (item : Registrant) : Bool :=
  report.reservation.isReserved &&
    report.reservation.isPersistentReservationHolder item.registration.nexus

/-- A descriptor up to its transport identifier, a `struct pfull_data`. The additional length is a
32-bit field that is given a 16-bit number. -/
def pfullData (item : Registrant) : List UInt8 :=
  beBytes 8 item.registration.key ++ bzero 4 ++
    (if report.marksHolder item then 1 :: beBytes 1 report.reservation.persistentType.code
      else bzero 2) ++
    bzero 4 ++ beBytes 2 report.rPrt ++ (beBytes 2 item.transportSize ++ bzero 2)

end ReserveReport

namespace Registrant

variable (item : Registrant)

/-- The transport identifier of an iSCSI initiator up to its name. -/
def transportIdCommon : List UInt8 :=
  [0x05, 0] ++ beBytes 2 ((item.transportSize + 2 ^ 16 - 4) % 2 ^ 16)

/-- The transport identifier of a Fibre Channel initiator. -/
def transportIdFc : List UInt8 :=
  let (first, second) := item.registration.nexus.iPrt
  (if second = 0 then bzero 1 else [0x04]) ++ bzero 7 ++ leBytes 8 first ++
    (if second = 0 then bzero 8 else leBytes 8 second)

/-- The transport identifier of a local initiator. -/
def transportIdScsi : List UInt8 := [0x01, 0] ++ beBytes 2 0x07 ++ bzero 20

/-- Store a transport identifier. The name is copied with the character that ends it. -/
def copyTransportId (buffer : Buffer) (done : Nat) : Buffer :=
  let cleared := buffer.write done (bzero item.transportSize)
  if item.isIscsi then
    (cleared.write done item.transportIdCommon).write ((done + 4) % 2 ^ 16) (item.initName ++ [0])
  else if item.isFc then cleared.write done item.transportIdFc
  else if item.isLocal then cleared.write done transportIdScsi
  else cleared

end Registrant

/-- Report the registrations in full. -/
def persistentReservationReadFull (allocationLength : Nat) (stale : Nat → UInt8)
    (report : ReserveReport) : ReserveInData :=
  reserveInDone allocationLength <|
    copyDescriptors allocationLength Registrant.descSize
      (fun buffer done item =>
        item.copyTransportId (buffer.write done (report.pfullData item)) ((done + 24) % 2 ^ 16))
      (reserveInBuffer allocationLength stale report.reservation) 8 report.registrants

/-! ## The command -/

/-- Service actions of PERSISTENT RESERVE IN. -/
inductive ReserveInAction
  /-- `SERVICE_ACTION_READ_KEYS`. -/
  | readKeys
  /-- `SERVICE_ACTION_READ_RESERVATIONS`. -/
  | readReservations
  /-- `SERVICE_ACTION_READ_FULL`. -/
  | readFull
  deriving DecidableEq, Repr

/-- Report what a service action asks for. -/
def cmdPersistentReserveIn (action : ReserveInAction) (allocationLength : Nat)
    (stale : Nat → UInt8) (report : ReserveReport) : ReserveInData :=
  match action with
  | .readKeys => persistentReservationReadKeys allocationLength stale report
  | .readReservations => persistentReservationReadReservations allocationLength stale report
  | .readFull => persistentReservationReadFull allocationLength stale report

end VirtualTape
