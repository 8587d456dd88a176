import Mathlib.Tactic.SplitIfs
import VirtualTape.Core.Access

/-!
# Reservation exclusion

Which commands that write or move media get past a reservation of somebody else, and which legacy
commands end a persistent reservation. The tables compare ports only, the drive's table knows
neither the all registrants types nor unknown ones, and the changer's legacy table does not list
MOVE MEDIUM.
-/

namespace VirtualTape

variable {r r' : Reservation} {nexus : Nexus} {kind : DeviceKind} {op : ScsiOp}

/-! ## Reservation states -/

/-- A reserved device is so in one of the two ways. -/
def Reservation.Kept (r : Reservation) : Prop :=
  r.isReserved = true → r.type ≠ .none

namespace Reservation

/-- An ended reservation is no reservation. -/
theorem Kept.of_free (free : r.isReserved = false) : r.Kept := by
  intro reserved
  simp [free] at reserved

/-- A legacy or a persistent reservation. -/
theorem Kept.of_type (typed : r.type ≠ .none) : r.Kept := fun _ => typed

/-- The generation does not matter. -/
theorem Kept.nextGeneration (kept : r.Kept) : r.nextGeneration.Kept := kept

/-- A registration changes neither the reservation nor its type, or ends both. -/
theorem Kept.changeRegistration (kept : r.Kept) (nexus : Nexus) (key : ℕ) :
    (r.changeRegistration nexus key).Kept := by
  unfold Reservation.changeRegistration persistentReservationRemoveRegistration
  apply Kept.nextGeneration
  split_ifs
  all_goals first
    | exact kept
    | exact .of_free rfl

/-- PERSISTENT RESERVE OUT. -/
theorem Kept.cmd (kept : r.Kept) (nexus : Nexus) (cmd : ReserveOut) :
    (cmdPersistentReserveOut r nexus cmd).2.Kept := by
  unfold cmdPersistentReserveOut
  split_ifs
  · exact kept
  cases cmd.serviceAction with
  | register =>
    simp only [persistentReservationHandleRegister]
    split
    · split_ifs
      · exact kept
      · exact kept.changeRegistration nexus _
    · split_ifs <;> exact kept
  | registerIgnore =>
    simp only [persistentReservationHandleRegisterAndIgnore]
    split
    · exact kept.changeRegistration nexus _
    · split_ifs <;> exact kept
  | reserve =>
    simp only [persistentReservationHandleReserve]
    split_ifs
    all_goals first
      | exact kept
      | exact .of_type (by simp)
  | release =>
    simp only [persistentReservationHandleRelease]
    split_ifs
    all_goals first
      | exact kept
      | exact .of_free rfl
  | clear =>
    simp only [persistentReservationHandleClear]
    split_ifs
    · exact kept
    · exact .of_free rfl
  | preempt | preemptAbort =>
    simp only [persistentReservationHandlePreempt]
    split_ifs
    all_goals first
      | exact kept
      | exact Kept.nextGeneration (.of_type (by simp))
  | other code => exact kept

/-- Every event. -/
theorem Kept.event (kept : r.Kept) (event : ReservationEvent) :
    (reservationEvent kind r event).Kept := by
  cases event with
  | reserve nexus element =>
    simp only [reservationEvent, cmdReserve]
    split_ifs
    all_goals first
      | exact kept
      | exact .of_type (by simp)
  | release nexus element =>
    simp only [reservationEvent, cmdRelease]
    split_ifs
    all_goals first
      | exact kept
      | exact .of_free rfl
  | reserveOut nexus cmd =>
    simp only [reservationEvent]
    split_ifs
    · exact kept.cmd nexus cmd
    · exact kept
  | reset =>
    simp only [reservationEvent, deviceReset]
    split_ifs
    · exact .of_free rfl
    · exact kept

end Reservation

/-- Every reachable reservation is of one of the two kinds. -/
theorem Run.reservation_kept {events : List ReservationEvent}
    (run : Run (ReservationStep kind) .initial events r) : r.Kept :=
  run.invariant (.of_free rfl) fun {_ event _} kept step => by
    rw [step]
    exact kept.event event

/-! ## Exclusion -/

/-- One of the two registrants only types. -/
def PersistentType.isRo : PersistentType → Bool
  | .writeExclusiveRo | .exclusiveAccessRo => true
  | _ => false

/-- A nexus that neither holds the reservation nor is registered, where registration counts. -/
def Reservation.Excludes (r : Reservation) (nexus : Nexus) : Prop :=
  r.isReserved = true ∧
    match r.type with
    | .persistent =>
      if r.persistentType.isAr then initiatorHasRegisteredAr r.registrationList nexus = false
      else r.nexus ≠ nexus ∧
        (r.persistentType.isRo = true →
          initiatorHasRegisteredAr r.registrationList nexus = false)
    | _ => r.nexus ≠ nexus

/-- Commands that write, change the mode or move media. -/
def ScsiOp.modifies : ScsiOp → Bool
  | .moveMedium | .exchangeMedium | .write6 | .writeFilemarks | .erase | .formatMedium
  | .setCapacity | .modeSelect6 | .modeSelect10 => true
  | _ => false

/-- The types the drive's table knows. -/
def PersistentType.listed : PersistentType → Bool
  | .writeExclusive | .exclusiveAccess | .writeExclusiveRo | .exclusiveAccessRo => true
  | _ => false

/-- How a command of an excluded nexus gets past: from the same ports as the holder, on a drive
under a persistent type its table does not know, or as a MOVE MEDIUM under a legacy reservation of a
changer. -/
def slipsPast (kind : DeviceKind) (r : Reservation) (nexus : Nexus) (op : ScsiOp) : Bool :=
  checkCmd kind op &&
    (r.nexus.portsEqual nexus ||
      match kind with
      | .drive => r.type == .persistent && !r.persistentType.listed
      | .changer => r.type == .reserve && op == .moveMedium)

/-- What an excluded nexus may write under a persistent type. -/
theorem Reservation.Excludes.allowsWrites (excluded : r.Excludes nexus)
    (persistent : r.type = .persistent) :
    r.persistentType.allowsWrites (initiatorHasRegisteredAr r.registrationList nexus) =
      !r.persistentType.listed := by
  have out := excluded.2
  simp only [persistent] at out
  cases type : r.persistentType <;>
    simp_all [PersistentType.allowsWrites, PersistentType.listed, PersistentType.isAr,
      PersistentType.isRo]

/-- A modifying command on a drive. -/
theorem Reservation.Excludes.drive_executes (excluded : r.Excludes nexus) (kept : r.Kept)
    (modifies : op.modifies = true) :
    executes .drive r nexus op = slipsPast .drive r nexus op := by
  have reserved := excluded.1
  cases ports : r.nexus.portsEqual nexus with
  | true => simp [executes, slipsPast, cmdAccessOk, tdriveCmdAccessOk, deviceReserved, ports]
  | false =>
    cases type : r.type with
    | none => exact absurd type (kept reserved)
    | reserve =>
      cases op <;> simp_all [executes, slipsPast, cmdAccessOk, tdriveCmdAccessOk, tdriveReserveOk,
        deviceReserved, checkCmd, tdriveCheckCmd, ScsiOp.modifies]
    | persistent =>
      have writes := excluded.allowsWrites type
      cases op <;> simp_all [executes, slipsPast, cmdAccessOk, tdriveCmdAccessOk,
        tdrivePersistentOk, deviceReserved, checkCmd, tdriveCheckCmd, ScsiOp.modifies]

/-- A modifying command on a changer. -/
theorem Reservation.Excludes.changer_executes (excluded : r.Excludes nexus) (kept : r.Kept)
    (modifies : op.modifies = true) :
    executes .changer r nexus op = slipsPast .changer r nexus op := by
  have reserved := excluded.1
  cases ports : r.nexus.portsEqual nexus with
  | true => simp [executes, slipsPast, cmdAccessOk, mchangerCmdAccessOk, deviceReserved, ports]
  | false =>
    cases type : r.type with
    | none => exact absurd type (kept reserved)
    | reserve | persistent =>
      cases op <;> simp_all [executes, slipsPast, cmdAccessOk, mchangerCmdAccessOk,
        mchangerReserveOk, mchangerPersistentOk, deviceReserved, checkCmd, mchangerCheckCmd,
        ScsiOp.modifies]

/-! ## Legacy commands under a persistent reservation -/

/-- A persistent reservation is held. -/
def Reservation.HeldPersistently (r : Reservation) : Prop :=
  r.isReserved = true ∧ r.type = .persistent

/-- Under a persistent reservation, access to RESERVE and RELEASE is a matter of ports. -/
theorem Reservation.HeldPersistently.access (held : r.HeldPersistently) (kind : DeviceKind)
    (nexus : Nexus) (legacy : op = .reserve ∨ op = .release) :
    cmdAccessOk kind r nexus op = r.nexus.portsEqual nexus := by
  obtain ⟨reserved, persistent⟩ := held
  rcases legacy with rfl | rfl <;> cases kind <;>
    cases ports : r.nexus.portsEqual nexus <;>
      simp [cmdAccessOk, tdriveCmdAccessOk, mchangerCmdAccessOk, tdrivePersistentOk,
        mchangerPersistentOk, deviceReserved, reserved, persistent, ports]

/-- RESERVE(6) leaves a persistent reservation alone unless it comes from the holder's ports. -/
theorem Reservation.HeldPersistently.reserve_iff (held : r.HeldPersistently) (element : Bool) :
    reservationEvent kind r (.reserve nexus element) = r ↔
      (r.nexus.portsEqual nexus && !rejectsElement kind element) = false := by
  have access := held.access kind nexus (.inl rfl)
  simp only [reservationEvent, cmdReserve, access]
  cases r.nexus.portsEqual nexus with
  | false => simp
  | true =>
    cases rejectsElement kind element with
    | true => simp
    | false =>
      simp only [Bool.false_eq_true, if_false, Bool.not_true, if_true, Bool.not_false,
        Bool.and_self, Bool.true_eq_false, iff_false]
      intro same
      have type := congrArg Reservation.type same
      simp [held.2] at type

/-- Equal nexuses have equal ports. -/
theorem Nexus.portsEqual_self : nexus.portsEqual nexus = true := by
  simp [Nexus.portsEqual]

/-- RELEASE(6) leaves a persistent reservation alone unless it comes from the holder. -/
theorem Reservation.HeldPersistently.release_iff (held : r.HeldPersistently) (element : Bool) :
    reservationEvent kind r (.release nexus element) = r ↔
      (r.nexus == nexus && !rejectsElement kind element) = false := by
  have access := held.access kind nexus (.inr rfl)
  simp only [reservationEvent, cmdRelease, access]
  by_cases same : r.nexus = nexus
  · subst same
    rw [Nexus.portsEqual_self]
    cases rejectsElement kind element with
    | true => simp
    | false =>
      simp only [Bool.false_eq_true, if_false, beq_self_eq_true, if_true, Bool.not_false,
        Bool.and_self, Bool.true_eq_false, iff_false]
      intro unchanged
      have reserved := congrArg Reservation.isReserved unchanged
      simp [held.1] at reserved
  · simp [same]

/-- In every reachable state, a modifying command of an excluded nexus is kept from its handler
exactly if it does not slip past, and a persistent reservation survives RESERVE(6) and RELEASE(6)
exactly if they do not come from the ports, or the nexus, of its holder. -/
theorem reservation_excludes_iff {events : List ReservationEvent}
    (run : Run (ReservationStep kind) .initial events r) :
    (∀ nexus op, r.Excludes nexus → op.modifies = true →
      (executes kind r nexus op = false ↔ slipsPast kind r nexus op = false)) ∧
    (r.HeldPersistently → ∀ nexus element,
      (reservationEvent kind r (.reserve nexus element) = r ↔
        (r.nexus.portsEqual nexus && !rejectsElement kind element) = false) ∧
      (reservationEvent kind r (.release nexus element) = r ↔
        (r.nexus == nexus && !rejectsElement kind element) = false)) := by
  have kept := run.reservation_kept
  constructor
  · intro nexus op excluded modifies
    cases kind with
    | drive => rw [excluded.drive_executes kept modifies]
    | changer => rw [excluded.changer_executes kept modifies]
  · intro held nexus element
    exact ⟨held.reserve_iff element, held.release_iff element⟩

/-- The nexus that reserves. -/
def reserver : Nexus := ⟨(1, 0), (2, 0), 0⟩

/-- A nexus with another initiator port. -/
def stranger : Nexus := ⟨(3, 0), (2, 0), 0⟩

/-- A device after a RESERVE(6). -/
def legacyReserved : Reservation :=
  ⟨0, true, .reserve, .other 0, 0, reserver, []⟩

/-- RESERVE(6) on a new device. -/
theorem legacyReserved_run (kind : DeviceKind) :
    Run (ReservationStep kind) .initial [.reserve reserver false] legacyReserved :=
  .snoc .nil (by cases kind <;> unfold ReservationStep <;> decide)

/-- The reservation excludes the stranger. -/
theorem legacyReserved_excludes : legacyReserved.Excludes stranger :=
  ⟨rfl, show reserver ≠ stranger by decide⟩

/-- A stranger's WRITE(6) does not get past a RESERVE(6). -/
theorem reservation_excludes_write : executes .drive legacyReserved stranger .write6 = false :=
  ((reservation_excludes_iff (legacyReserved_run .drive)).1 stranger .write6
    legacyReserved_excludes rfl).2 (by decide)

/-- A stranger's MOVE MEDIUM gets past a RESERVE(6) of a changer, and the holder of a persistent
reservation of a drive loses it by its own RESERVE(6). -/
theorem mchangerCmdAccessOk_moves :
    (∃ events r, Run (ReservationStep .changer) .initial events r ∧ r.Excludes stranger ∧
      executes .changer r stranger .moveMedium = true) ∧
    ∃ events r, Run (ReservationStep .drive) .initial events r ∧ r.HeldPersistently ∧
      reservationEvent .drive r (.reserve reserver false) ≠ r := by
  constructor
  · exact ⟨_, legacyReserved, legacyReserved_run .changer, legacyReserved_excludes, by decide⟩
  · refine ⟨[.reserveOut reserver ⟨.register, 0, 24, 0, 1, .other 0⟩,
      .reserveOut reserver ⟨.reserve, 0, 24, 1, 0, .writeExclusive⟩],
      ⟨1, true, .persistent, .writeExclusive, 1, reserver, [⟨1, reserver⟩]⟩,
      .snoc (.snoc .nil rfl) (by unfold ReservationStep; decide), ⟨rfl, rfl⟩, by decide⟩

end VirtualTape
