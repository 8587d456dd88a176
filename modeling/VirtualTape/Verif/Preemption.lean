import VirtualTape.Core.Access
import VirtualTape.Verif.Reservation

/-!
# What a PERSISTENT RESERVE OUT command may change

A nexus changes its own registration. What it can do to the registrations of others and to their
reservation is limited to CLEAR and PREEMPT, with a key under which it is registered. PREEMPT also
asks for the key of the reservation, so it takes over only from holders with the caller's own key.
-/

namespace VirtualTape

variable {r r' : Reservation} {nexus : Nexus} {param : ReserveParam} {cmd : ReserveOut}
  {key : ℕ} {kind : DeviceKind}

/-- The reservation is the same, whatever happened to the registrations. -/
structure Reservation.Unmoved (r r' : Reservation) : Prop where
  /-- It is held as before. -/
  isReserved : r'.isReserved = r.isReserved
  /-- In the same way. -/
  type : r'.type = r.type
  /-- With the same type. -/
  persistentType : r'.persistentType = r.persistentType
  /-- With the same key. -/
  persistentKey : r'.persistentKey = r.persistentKey
  /-- By the same nexus. -/
  nexus : r'.nexus = r.nexus

/-- CLEAR, PREEMPT, and PREEMPT AND ABORT, which shares its handler with PREEMPT. -/
def ServiceAction.isForcible : ServiceAction → Bool
  | .clear | .preempt | .preemptAbort => true
  | _ => false

/-- The service actions that add, change or remove the registration of the caller. -/
def ServiceAction.isRegister : ServiceAction → Bool
  | .register | .registerIgnore => true
  | _ => false

/-- The registrations of all but one nexus. -/
def othersOf (nexus : Nexus) (list : List Registration) : List Registration :=
  list.filter fun tmp => tmp.nexus != nexus

/-- A reservation that ends with the registration of a nexus: the nexus held it, or was the last
registrant of a reservation for all registrants. -/
structure Reservation.EndedBy (r : Reservation) (nexus : Nexus) (r' : Reservation) : Prop where
  /-- There was a reservation. -/
  before : r.isReserved = true
  /-- There is none any more. -/
  after : r'.isReserved = false
  /-- It depended on the registration of the nexus. -/
  held : (r.inPersistentArType = false ∧ r.nexus = nexus) ∨
    (r.inPersistentArType = true ∧ r.registrationList.map (·.nexus) = [nexus])

/-- What a command of a nexus may change. -/
structure ReserveOutFrame (r : Reservation) (nexus : Nexus) (cmd : ReserveOut) (r' : Reservation) :
    Prop where
  /-- Without the key under which it is registered, a nexus can only register. -/
  stranger : ⟨cmd.param.key, nexus⟩ ∉ r.registrationList → cmd.serviceAction.isRegister = false →
    r' = r
  /-- A registration leaves those of other nexuses alone. -/
  others : cmd.serviceAction.isRegister = true →
    othersOf nexus r'.registrationList = othersOf nexus r.registrationList
  /-- It changes the reservation only by ending it, if that depends on the registration. -/
  ends : cmd.serviceAction.isRegister = true → r.Unmoved r' ∨ r.EndedBy nexus r'
  /-- A registration of another nexus is removed only by CLEAR and PREEMPT, with the right key. -/
  removes : ∀ tmp ∈ r.registrationList, tmp.nexus ≠ nexus → tmp ∉ r'.registrationList →
    cmd.serviceAction.isForcible = true ∧ ⟨cmd.param.key, nexus⟩ ∈ r.registrationList
  /-- So is the reservation of another nexus that is not for all registrants. -/
  takes : r.isReserved = true → r.inPersistentArType = false → r.nexus ≠ nexus →
    r.Unmoved r' ∨
      cmd.serviceAction.isForcible = true ∧ ⟨cmd.param.key, nexus⟩ ∈ r.registrationList

namespace Reservation

/-! ## Registrations -/

/-- Nothing changed. -/
theorem Unmoved.refl (r : Reservation) : r.Unmoved r := ⟨rfl, rfl, rfl, rfl, rfl⟩

/-- A new key leaves the registrations of other nexuses alone. -/
@[simp]
theorem othersOf_setKey (list : List Registration) :
    othersOf nexus (setKey nexus key list) = othersOf nexus list := by
  unfold othersOf
  induction list with
  | nil => rfl
  | cons tmp rest ih =>
    unfold setKey
    by_cases same : tmp.nexus = nexus
    · simp [same]
    · rw [if_neg same, List.filter_cons, List.filter_cons, ih]

/-- So does removing a registration. -/
@[simp]
theorem othersOf_eraseP (list : List Registration) :
    othersOf nexus (list.eraseP fun tmp => tmp.nexus == nexus) = othersOf nexus list := by
  unfold othersOf
  induction list with
  | nil => rfl
  | cons tmp rest ih =>
    by_cases same : tmp.nexus = nexus
    · rw [List.eraseP_cons_of_pos (by simpa using same)]
      simp [same]
    · rw [List.eraseP_cons_of_neg (by simpa using same), List.filter_cons, List.filter_cons, ih]

/-- The last registration is that of the nexus. -/
theorem nexuses_of_eraseP {list : List Registration} (registered : nexus ∈ list.map (·.nexus))
    (empty : list.eraseP (fun tmp => tmp.nexus == nexus) = []) :
    list.map (·.nexus) = [nexus] := by
  cases list with
  | nil => simp at registered
  | cons tmp rest =>
    by_cases same : tmp.nexus = nexus
    · rw [List.eraseP_cons_of_pos (by simpa using same)] at empty
      simp [empty, same]
    · rw [List.eraseP_cons_of_neg (by simpa using same)] at empty
      simp at empty

/-- Following a removed registration does not change the list. -/
@[simp]
theorem persistentReservationRemoveRegistration_list :
    (r.persistentReservationRemoveRegistration nexus).registrationList = r.registrationList := by
  unfold persistentReservationRemoveRegistration
  split_ifs <;> rfl

/-- A removed registration ends the reservation only if that depends on it. -/
theorem persistentReservationRemoveRegistration_cases (r : Reservation) (nexus : Nexus) :
    r.persistentReservationRemoveRegistration nexus = r ∨
      r.persistentReservationRemoveRegistration nexus = r.persistentReservationReset ∧
        r.isReserved = true ∧
          ((r.inPersistentArType = false ∧ r.nexus = nexus) ∨
            (r.inPersistentArType = true ∧ r.registrationList = [])) := by
  unfold persistentReservationRemoveRegistration
  by_cases reserved : r.isReserved = true
  swap
  · rw [if_pos (by simpa using reserved)]
    exact .inl rfl
  rw [if_neg (by simpa using reserved)]
  by_cases ar : r.inPersistentArType = true
  · rw [if_pos ar]
    by_cases empty : r.registrationList.isEmpty = true
    · rw [if_pos empty]
      exact .inr ⟨rfl, reserved, .inr ⟨ar, List.isEmpty_iff.1 empty⟩⟩
    · rw [if_neg empty]
      exact .inl rfl
  · rw [if_neg ar]
    by_cases holder : r.isPersistentReservationHolder nexus = true
    · rw [if_pos holder]
      have notAr : r.inPersistentArType = false := by simpa using ar
      have persistent : r.type = .persistent := by
        simp only [isPersistentReservationHolder, Bool.and_eq_true, beq_iff_eq] at holder
        exact holder.1
      have typeNotAr : r.persistentType.isAr = false := by
        simpa [inPersistentArType, reserved, persistent] using notAr
      have same := (isPersistentReservationHolder_iff persistent typeNotAr nexus).1 holder
      exact .inr ⟨rfl, reserved, .inl ⟨notAr, same.1⟩⟩
    · rw [if_neg holder]
      exact .inl rfl

/-- Changing a registration leaves those of other nexuses alone. -/
theorem changeRegistration_others (r : Reservation) (nexus : Nexus) (key : ℕ) :
    othersOf nexus (r.changeRegistration nexus key).registrationList =
      othersOf nexus r.registrationList := by
  unfold changeRegistration nextGeneration
  by_cases zero : key = 0 <;> simp [zero]

/-- Changing a registration ends the reservation only if that depends on it. -/
theorem changeRegistration_ends (registered : nexus ∈ r.registrationList.map (·.nexus)) (key : ℕ) :
    r.Unmoved (r.changeRegistration nexus key) ∨ r.EndedBy nexus (r.changeRegistration nexus key) := by
  unfold changeRegistration
  by_cases zero : key = 0
  swap
  · rw [if_neg zero]
    exact .inl ⟨rfl, rfl, rfl, rfl, rfl⟩
  rw [if_pos zero]
  rcases persistentReservationRemoveRegistration_cases
    { r with registrationList := r.registrationList.eraseP fun tmp => tmp.nexus == nexus } nexus
    with same | ⟨reset, reserved, held⟩
  · rw [same]
    exact .inl ⟨rfl, rfl, rfl, rfl, rfl⟩
  · rw [reset]
    refine .inr ⟨reserved, rfl, held.imp id fun last => ⟨last.1, ?_⟩⟩
    exact nexuses_of_eraseP registered last.2

/-- REGISTER and REGISTER AND IGNORE EXISTING KEY. -/
theorem register_frame (r : Reservation) (nexus : Nexus)
    (action : cmd.serviceAction.isRegister = true) :
    othersOf nexus (cmdPersistentReserveOut r nexus cmd).2.registrationList =
        othersOf nexus r.registrationList ∧
      (r.Unmoved (cmdPersistentReserveOut r nexus cmd).2 ∨
        r.EndedBy nexus (cmdPersistentReserveOut r nexus cmd).2) := by
  have unchanged : othersOf nexus r.registrationList = othersOf nexus r.registrationList ∧
      (r.Unmoved r ∨ r.EndedBy nexus r) := ⟨rfl, .inl (.refl r)⟩
  have counted : othersOf nexus r.nextGeneration.registrationList =
      othersOf nexus r.registrationList ∧
      (r.Unmoved r.nextGeneration ∨ r.EndedBy nexus r.nextGeneration) :=
    ⟨rfl, .inl ⟨rfl, rfl, rfl, rfl, rfl⟩⟩
  have added (key : ℕ) : othersOf nexus (r.addRegistration nexus key).registrationList =
      othersOf nexus r.registrationList ∧
      (r.Unmoved (r.addRegistration nexus key) ∨ r.EndedBy nexus (r.addRegistration nexus key)) :=
    ⟨by simp [addRegistration, nextGeneration, othersOf], .inl ⟨rfl, rfl, rfl, rfl, rfl⟩⟩
  have changed {tmp : Registration}
      (found : r.registrationList.find? (fun tmp => tmp.nexus == nexus) = some tmp) (key : ℕ) :
      othersOf nexus (r.changeRegistration nexus key).registrationList =
        othersOf nexus r.registrationList ∧
      (r.Unmoved (r.changeRegistration nexus key) ∨
        r.EndedBy nexus (r.changeRegistration nexus key)) := by
    obtain ⟨member, rfl⟩ := mem_of_findRegistration found
    exact ⟨changeRegistration_others r _ key,
      changeRegistration_ends (List.mem_map_of_mem member) key⟩
  unfold cmdPersistentReserveOut
  by_cases rejected : cmd.scope ≠ 0 ∨ cmd.parameterListLength ≠ 24
  · rw [if_pos rejected]
    exact unchanged
  rw [if_neg rejected]
  cases which : cmd.serviceAction with
  | register =>
    simp only [persistentReservationHandleRegister]
    cases found : r.registrationList.find? fun tmp => tmp.nexus == nexus with
    | some tmp =>
      simp only
      split_ifs
      · exact unchanged
      · exact changed found _
    | none =>
      simp only
      split_ifs
      · exact counted
      · exact unchanged
      · exact added _
  | registerIgnore =>
    simp only [persistentReservationHandleRegisterAndIgnore]
    cases found : r.registrationList.find? fun tmp => tmp.nexus == nexus with
    | some tmp => exact changed found _
    | none =>
      simp only
      split_ifs
      · exact counted
      · exact added _
  | reserve | release | clear | preempt | preemptAbort | other =>
    simp [which, ServiceAction.isRegister] at action

/-! ## The other service actions -/

/-- A nexus that is not registered with the key it gives changes nothing but its registration. -/
theorem stranger_unchanged (absent : ⟨cmd.param.key, nexus⟩ ∉ r.registrationList)
    (action : cmd.serviceAction.isRegister = false) :
    (cmdPersistentReserveOut r nexus cmd).2 = r := by
  have unregistered : initiatorHasRegistered cmd.param.key nexus r.registrationList = false :=
    Bool.eq_false_iff.2 fun registered => absent (initiatorHasRegistered_iff.1 registered)
  unfold cmdPersistentReserveOut
  by_cases rejected : cmd.scope ≠ 0 ∨ cmd.parameterListLength ≠ 24
  · rw [if_pos rejected]
  rw [if_neg rejected]
  cases which : cmd.serviceAction with
  | register | registerIgnore => simp [which, ServiceAction.isRegister] at action
  | reserve => simp [persistentReservationHandleReserve, unregistered]
  | release =>
    simp only [persistentReservationHandleRelease, unregistered, Bool.not_false, if_true]
    split_ifs <;> rfl
  | clear => simp [persistentReservationHandleClear, unregistered]
  | preempt | preemptAbort => simp [persistentReservationHandlePreempt, unregistered]
  | other code => rfl

/-- RESERVE and RELEASE do not change the registrations. -/
theorem reserve_release_list (forced : cmd.serviceAction.isForcible = false)
    (action : cmd.serviceAction.isRegister = false) :
    (cmdPersistentReserveOut r nexus cmd).2.registrationList = r.registrationList := by
  unfold cmdPersistentReserveOut
  by_cases rejected : cmd.scope ≠ 0 ∨ cmd.parameterListLength ≠ 24
  · rw [if_pos rejected]
  rw [if_neg rejected]
  cases which : cmd.serviceAction with
  | register | registerIgnore => simp [which, ServiceAction.isRegister] at action
  | clear | preempt | preemptAbort => simp [which, ServiceAction.isForcible] at forced
  | reserve =>
    simp only [persistentReservationHandleReserve]
    split_ifs <;> rfl
  | release =>
    simp only [persistentReservationHandleRelease]
    split_ifs <;> rfl
  | other code => rfl

/-- RESERVE and RELEASE do not touch the reservation of another nexus. -/
theorem reserve_release_unchanged (forced : cmd.serviceAction.isForcible = false)
    (action : cmd.serviceAction.isRegister = false) (reserved : r.isReserved = true)
    (notAr : r.inPersistentArType = false) (elsewhere : r.nexus ≠ nexus) :
    (cmdPersistentReserveOut r nexus cmd).2 = r := by
  unfold cmdPersistentReserveOut
  by_cases rejected : cmd.scope ≠ 0 ∨ cmd.parameterListLength ≠ 24
  · rw [if_pos rejected]
  rw [if_neg rejected]
  cases which : cmd.serviceAction with
  | register | registerIgnore => simp [which, ServiceAction.isRegister] at action
  | clear | preempt | preemptAbort => simp [which, ServiceAction.isForcible] at forced
  | reserve =>
    simp only [persistentReservationHandleReserve, reserved, Bool.true_and]
    split_ifs <;> rfl
  | release =>
    simp only [persistentReservationHandleRelease, reserved, notAr, bne_iff_ne.2 elsewhere,
      Bool.not_true, Bool.not_false, Bool.false_eq_true, if_false, Bool.true_and, if_true]
    split_ifs <;> rfl
  | other code => rfl

end Reservation

/-- In every state, a command changes no more than the registration of its nexus and what depends on
it, unless it is a CLEAR or PREEMPT with the key under which the nexus is registered. -/
theorem cmdPersistentReserveOut_frame (r : Reservation) (nexus : Nexus) (cmd : ReserveOut) :
    ReserveOutFrame r nexus cmd (cmdPersistentReserveOut r nexus cmd).2 where
  stranger := Reservation.stranger_unchanged
  others := fun action => (Reservation.register_frame r nexus action).1
  ends := fun action => (Reservation.register_frame r nexus action).2
  removes := by
    intro tmp member other gone
    by_contra allowed
    apply gone
    by_cases action : cmd.serviceAction.isRegister = true
    · have inOthers : tmp ∈ othersOf nexus r.registrationList :=
        List.mem_filter.2 ⟨member, by simpa using other⟩
      rw [← (Reservation.register_frame r nexus action).1] at inOthers
      exact List.mem_of_mem_filter inOthers
    have notRegister : cmd.serviceAction.isRegister = false := by simpa using action
    by_cases forced : cmd.serviceAction.isForcible = true
    · rw [Reservation.stranger_unchanged (fun registered => allowed ⟨forced, registered⟩) notRegister]
      exact member
    · rw [Reservation.reserve_release_list (by simpa using forced) notRegister]
      exact member
  takes := by
    intro reserved notAr elsewhere
    by_cases action : cmd.serviceAction.isRegister = true
    · rcases (Reservation.register_frame r nexus action).2 with same | ended
      · exact .inl same
      · rcases ended.held with own | last
        · exact absurd own.2 elsewhere
        · simp [notAr] at last
    have notRegister : cmd.serviceAction.isRegister = false := by simpa using action
    by_cases forced : cmd.serviceAction.isForcible = true
    · by_cases registered : ⟨cmd.param.key, nexus⟩ ∈ r.registrationList
      · exact .inr ⟨forced, registered⟩
      · rw [Reservation.stranger_unchanged registered notRegister]
        exact .inl (.refl r)
    · rw [Reservation.reserve_release_unchanged (by simpa using forced) notRegister reserved notAr
        elsewhere]
      exact .inl (.refl r)

/-! ## PREEMPT -/

namespace Reservation

/-- What holds of the registrations after any commands and resets. -/
structure Registered (r : Reservation) : Prop where
  /-- A nexus is registered once. -/
  distinct : (r.registrationList.map (·.nexus)).Nodup
  /-- No key is zero. -/
  keys : ∀ tmp ∈ r.registrationList, tmp.key ≠ 0

/-- Only the registrations matter. -/
theorem Registered.of_list (registered : r.Registered)
    (same : r'.registrationList = r.registrationList) : r'.Registered :=
  ⟨same ▸ registered.distinct, same ▸ registered.keys⟩

/-- Registrations may be removed. -/
theorem Registered.of_sublist (registered : r.Registered)
    (fewer : r'.registrationList.Sublist r.registrationList) : r'.Registered :=
  ⟨registered.distinct.sublist (fewer.map _), fun tmp member =>
    registered.keys tmp (fewer.subset member)⟩

/-- Of one nexus there is one key. -/
theorem Registered.key_unique (registered : r.Registered) {first second : ℕ}
    (inFirst : ⟨first, nexus⟩ ∈ r.registrationList)
    (inSecond : ⟨second, nexus⟩ ∈ r.registrationList) : first = second :=
  congrArg Registration.key (List.inj_on_of_nodup_map registered.distinct inFirst inSecond rfl)

/-- A new registration. -/
theorem Registered.addRegistration (registered : r.Registered)
    (absent : nexus ∉ r.registrationList.map (·.nexus)) (nonzero : key ≠ 0) :
    (r.addRegistration nexus key).Registered := by
  constructor
  · exact List.nodup_cons.2 ⟨absent, registered.distinct⟩
  · intro tmp member
    rcases List.mem_cons.1 member with rfl | old
    · exact nonzero
    · exact registered.keys tmp old

/-- A changed or removed registration. -/
theorem Registered.changeRegistration (registered : r.Registered)
    (present : nexus ∈ r.registrationList.map (·.nexus)) (key : ℕ) :
    (r.changeRegistration nexus key).Registered := by
  unfold Reservation.changeRegistration
  by_cases zero : key = 0
  · rw [if_pos zero]
    apply registered.of_sublist
    simp only [nextGeneration, persistentReservationRemoveRegistration_list]
    exact List.eraseP_sublist
  · rw [if_neg zero]
    constructor
    · simpa [nextGeneration] using registered.distinct
    · intro tmp member
      rcases (mem_setKey registered.distinct present).1 member with rfl | ⟨-, old⟩
      · exact zero
      · exact registered.keys tmp old

/-- Every PERSISTENT RESERVE OUT command. -/
theorem Registered.reserveOut (registered : r.Registered) (nexus : Nexus) (cmd : ReserveOut) :
    (cmdPersistentReserveOut r nexus cmd).2.Registered := by
  unfold cmdPersistentReserveOut
  by_cases rejected : cmd.scope ≠ 0 ∨ cmd.parameterListLength ≠ 24
  · rw [if_pos rejected]
    exact registered
  rw [if_neg rejected]
  have present {tmp : Registration}
      (found : r.registrationList.find? (fun tmp => tmp.nexus == nexus) = some tmp) :
      nexus ∈ r.registrationList.map (·.nexus) := by
    obtain ⟨member, rfl⟩ := mem_of_findRegistration found
    exact List.mem_map_of_mem member
  cases cmd.serviceAction with
  | register =>
    simp only [persistentReservationHandleRegister]
    cases found : r.registrationList.find? fun tmp => tmp.nexus == nexus with
    | some tmp =>
      simp only
      split_ifs
      · exact registered
      · exact registered.changeRegistration (present found) _
    | none =>
      simp only
      split_ifs with both nonzero
      · exact registered.of_list rfl
      · exact registered
      · exact registered.addRegistration (not_mem_of_findRegistration found)
          fun zero => both ⟨not_not.1 nonzero, zero⟩
  | registerIgnore =>
    simp only [persistentReservationHandleRegisterAndIgnore]
    cases found : r.registrationList.find? fun tmp => tmp.nexus == nexus with
    | some tmp => exact registered.changeRegistration (present found) _
    | none =>
      simp only
      split_ifs with zero
      · exact registered.of_list rfl
      · exact registered.addRegistration (not_mem_of_findRegistration found) zero
  | reserve =>
    apply registered.of_list
    simp only [persistentReservationHandleReserve]
    split_ifs <;> rfl
  | release =>
    apply registered.of_list
    simp only [persistentReservationHandleRelease]
    split_ifs <;> rfl
  | clear =>
    apply registered.of_sublist
    simp only [persistentReservationHandleClear]
    split_ifs
    · exact List.Sublist.refl _
    · exact List.nil_sublist _
  | preempt | preemptAbort =>
    apply registered.of_sublist
    simp only [persistentReservationHandlePreempt]
    split_ifs
    all_goals first
      | exact List.Sublist.refl _
      | exact List.filter_sublist
  | other code => exact registered

/-- Every event. -/
theorem Registered.event (registered : r.Registered) (event : ReservationEvent) :
    (reservationEvent kind r event).Registered := by
  cases event with
  | reserve nexus element =>
    apply registered.of_list
    simp only [reservationEvent, cmdReserve]
    split_ifs <;> rfl
  | release nexus element =>
    apply registered.of_list
    simp only [reservationEvent, cmdRelease]
    split_ifs <;> rfl
  | reserveOut nexus cmd =>
    simp only [reservationEvent]
    split_ifs
    · exact registered.reserveOut nexus cmd
    · exact registered
  | reset =>
    apply registered.of_list
    simp only [reservationEvent, deviceReset]
    split_ifs <;> rfl

end Reservation

/-- After any events on a new device, every nexus is registered once, with a key. -/
theorem Run.reservation_registered {events : List ReservationEvent}
    (run : Run (ReservationStep kind) .initial events r) : r.Registered :=
  run.invariant ⟨List.nodup_nil, by simp [Reservation.initial]⟩ fun registered step => by
    rw [step]
    exact registered.event _

namespace Reservation

/-- A persistent reservation that is not for all registrants. -/
structure HeldByOne (r : Reservation) : Prop where
  /-- The device is reserved. -/
  isReserved : r.isReserved = true
  /-- By a persistent reservation. -/
  type : r.type = .persistent
  /-- Of one nexus. -/
  notAr : r.persistentType.isAr = false

/-- The caller of PREEMPT becomes the holder. -/
structure TakenOver (nexus : Nexus) (param : ReserveParam) (r' : Reservation) : Prop where
  /-- The device stays reserved. -/
  isReserved : r'.isReserved = true
  /-- By a persistent reservation. -/
  type : r'.type = .persistent
  /-- Of the requested type. -/
  persistentType : r'.persistentType = param.type
  /-- With the key of the caller. -/
  persistentKey : r'.persistentKey = param.key
  /-- Held by the caller. -/
  nexus : r'.nexus = nexus

/-- PREEMPT removes the registrations of others with the service action key. It takes over the
reservation if that is the key of the holder's registration. -/
structure Preempted (r : Reservation) (nexus : Nexus) (param : ReserveParam) (r' : Reservation) :
    Prop where
  /-- The registrations that stay. -/
  list : r'.registrationList = r.registrationList.filter fun tmp =>
    tmp.nexus == nexus || tmp.key != param.serviceActionKey
  /-- With the holder's key. -/
  holder : ⟨param.serviceActionKey, r.nexus⟩ ∈ r.registrationList → TakenOver nexus param r'
  /-- With another key. -/
  other : ⟨param.serviceActionKey, r.nexus⟩ ∉ r.registrationList → r.Unmoved r'

/-- What the target asks for instead: it compares the key of the reservation with the key of the
caller, and takes over if it also is the service action key. -/
def preemptsAsAsked (r : Reservation) (nexus : Nexus) (param : ReserveParam) : Bool :=
  if initiatorHasRegistered param.serviceActionKey r.nexus r.registrationList then
    r.persistentKey == param.key && param.serviceActionKey == param.key
  else if r.persistentKey = param.key then param.serviceActionKey != param.key
  else r.registrationList.all fun tmp =>
    tmp.nexus == nexus || tmp.key != param.serviceActionKey

/-- A nexus that does not have the key of the reservation is turned away. -/
theorem HeldByOne.preempt_conflict (held : r.HeldByOne) (other : r.persistentKey ≠ param.key) :
    (r.persistentReservationHandlePreempt nexus param).2 = r := by
  simp only [persistentReservationHandlePreempt, held.isReserved, Bool.true_and,
    bne_iff_ne.2 other, if_true]
  split_ifs <;> rfl

/-- Without a service action key nothing happens. -/
theorem HeldByOne.preempt_zero (held : r.HeldByOne) (zero : param.serviceActionKey = 0) :
    (r.persistentReservationHandlePreempt nexus param).2 = r := by
  have notAr : r.inPersistentArType = false := by simp [inPersistentArType, held.notAr]
  simp only [persistentReservationHandlePreempt, held.isReserved, notAr, zero, Bool.not_false,
    Bool.and_true, Bool.true_and, beq_self_eq_true, if_true]
  split_ifs <;> rfl

/-- With the key of the reservation the registrations are removed, and the reservation is taken over
if the service action key is that key too. -/
theorem HeldByOne.preempt_own (held : r.HeldByOne)
    (registered : ⟨param.key, nexus⟩ ∈ r.registrationList) (own : r.persistentKey = param.key)
    (nonzero : param.serviceActionKey ≠ 0) :
    (r.persistentReservationHandlePreempt nexus param).2.registrationList =
        r.registrationList.filter (fun tmp =>
          tmp.nexus == nexus || tmp.key != param.serviceActionKey) ∧
      (param.serviceActionKey = param.key →
        TakenOver nexus param (r.persistentReservationHandlePreempt nexus param).2) ∧
      (param.serviceActionKey ≠ param.key →
        r.Unmoved (r.persistentReservationHandlePreempt nexus param).2) := by
  have has := initiatorHasRegistered_iff.2 registered
  have notAr : r.inPersistentArType = false := by simp [inPersistentArType, held.notAr]
  have shape : (r.persistentReservationHandlePreempt nexus param).2 =
      (if param.key = param.serviceActionKey then
        { r with
          registrationList := r.registrationList.filter fun tmp =>
            tmp.nexus == nexus || tmp.key != param.serviceActionKey
          type := .persistent
          nexus := nexus
          persistentKey := param.key
          persistentType := param.type }
      else
        { r with registrationList := r.registrationList.filter fun tmp =>
          tmp.nexus == nexus || tmp.key != param.serviceActionKey }).nextGeneration := by
    simp [persistentReservationHandlePreempt, has, held.isReserved, notAr, own, nonzero]
  rw [shape]
  refine ⟨?_, fun same => ?_, fun differ => ?_⟩
  · split_ifs <;> rfl
  · rw [if_pos same.symm]
    exact ⟨held.isReserved, rfl, rfl, rfl, rfl⟩
  · rw [if_neg (Ne.symm differ)]
    exact ⟨rfl, rfl, rfl, rfl, rfl⟩

/-- A caller that is not the holder cannot become it and leave the reservation as it was. -/
theorem TakenOver.nexus_eq (taken : TakenOver nexus param r') (same : r.Unmoved r') :
    r.nexus = nexus := same.nexus.symm.trans taken.nexus

/-- PREEMPT with the key of the reservation. -/
theorem Registered.preempted_own_iff (registered : r.Registered) (held : r.HeldByOne)
    (caller : ⟨param.key, nexus⟩ ∈ r.registrationList) (own : r.persistentKey = param.key) :
    r.Preempted nexus param (r.persistentReservationHandlePreempt nexus param).2 ↔
      (⟨param.serviceActionKey, r.nexus⟩ ∈ r.registrationList ↔
        param.serviceActionKey = param.key) := by
  have callerKey : param.key ≠ 0 := registered.keys _ caller
  by_cases zero : param.serviceActionKey = 0
  · have absent : ⟨param.serviceActionKey, r.nexus⟩ ∉ r.registrationList := fun member =>
      registered.keys _ member zero
    have differ : param.serviceActionKey ≠ param.key := fun same => callerKey (same ▸ zero)
    rw [held.preempt_zero zero]
    refine iff_of_true ⟨?_, fun member => absurd member absent, fun _ => .refl r⟩
      (iff_of_false absent differ)
    symm
    apply List.filter_eq_self.2
    intro tmp member
    simp [zero, registered.keys tmp member]
  obtain ⟨list, takes, keeps⟩ := held.preempt_own caller own zero
  constructor
  · intro preempted
    constructor
    · intro holder
      by_contra differ
      -- the caller would be the holder, whose key the service action key is
      have same := (preempted.holder holder).nexus_eq (keeps differ)
      exact differ (registered.key_unique (same ▸ holder) caller)
    · intro equal
      by_contra absent
      have same := (takes equal).nexus_eq (preempted.other absent)
      rw [equal, same] at absent
      exact absent caller
  · intro agrees
    exact ⟨list, fun holder => takes (agrees.1 holder),
      fun absent => keeps fun equal => absent (agrees.2 equal)⟩

/-- PREEMPT without the key of the reservation. -/
theorem HeldByOne.preempted_other_iff (held : r.HeldByOne) (other : r.persistentKey ≠ param.key) :
    r.Preempted nexus param (r.persistentReservationHandlePreempt nexus param).2 ↔
      ⟨param.serviceActionKey, r.nexus⟩ ∉ r.registrationList ∧
        ∀ tmp ∈ r.registrationList, tmp.nexus = nexus ∨ tmp.key ≠ param.serviceActionKey := by
  rw [held.preempt_conflict other]
  constructor
  · intro preempted
    refine ⟨fun holder => other (preempted.holder holder).persistentKey, fun tmp member => ?_⟩
    have all := List.filter_eq_self.1 preempted.list.symm tmp member
    simpa using all
  · rintro ⟨absent, all⟩
    refine ⟨?_, fun holder => absurd holder absent, fun _ => .refl r⟩
    symm
    apply List.filter_eq_self.2
    intro tmp member
    simpa using all tmp member

/-- PREEMPT does what it should exactly under the condition that the target checks. -/
theorem Registered.preempted_iff (registered : r.Registered) (held : r.HeldByOne)
    (caller : ⟨param.key, nexus⟩ ∈ r.registrationList) :
    r.Preempted nexus param (r.persistentReservationHandlePreempt nexus param).2 ↔
      r.preemptsAsAsked nexus param = true := by
  unfold preemptsAsAsked
  by_cases own : r.persistentKey = param.key
  · rw [registered.preempted_own_iff held caller own]
    by_cases holder : ⟨param.serviceActionKey, r.nexus⟩ ∈ r.registrationList
    · simp [initiatorHasRegistered_iff.2 holder, holder, own]
    · rw [if_neg (fun has => holder (initiatorHasRegistered_iff.1 has)), if_pos own]
      simp [holder]
  · rw [held.preempted_other_iff own]
    by_cases holder : ⟨param.serviceActionKey, r.nexus⟩ ∈ r.registrationList
    · simp [initiatorHasRegistered_iff.2 holder, holder, own]
    · rw [if_neg (fun has => holder (initiatorHasRegistered_iff.1 has)), if_neg own]
      simp [holder]

/-- PREEMPT as a command. -/
def preemptWith (param : ReserveParam) : ReserveOut := ⟨.preempt, 0, 24, param⟩

/-- No reservation that is held persistently keeps PERSISTENT RESERVE OUT from its handler. -/
theorem HeldByOne.reserveOut_event (held : r.HeldByOne) (kind : DeviceKind) (nexus : Nexus)
    (cmd : ReserveOut) :
    reservationEvent kind r (.reserveOut nexus cmd) = (cmdPersistentReserveOut r nexus cmd).2 := by
  have access : cmdAccessOk kind r nexus .persistentReserveOut = true := by
    cases kind <;> simp [cmdAccessOk, tdriveCmdAccessOk, mchangerCmdAccessOk, held.type,
      tdrivePersistentOk, mchangerPersistentOk]
  simp [reservationEvent, access]

end Reservation

/-- After any events, a PREEMPT by a registered nexus with its key removes the registrations with the
service action key, and takes over the reservation exactly if that is the holder's key, precisely
if the caller's key is that of the reservation and agrees with the service action key as the
holder's does. -/
theorem preempt_takes_over_iff {events : List ReservationEvent}
    (run : Run (ReservationStep kind) .initial events r) (held : r.HeldByOne)
    (caller : ⟨param.key, nexus⟩ ∈ r.registrationList) :
    r.Preempted nexus param
        (reservationEvent kind r (.reserveOut nexus (Reservation.preemptWith param))) ↔
      r.preemptsAsAsked nexus param = true := by
  rw [held.reserveOut_event]
  exact run.reservation_registered.preempted_iff held caller

/-- The reservation of `someNexus` as a run of events. -/
theorem reservedByOne_events :
    Run (ReservationStep .drive) .initial
      [.reserveOut registerOne.nexus registerOne.cmd, .reserveOut reserveOne.nexus reserveOne.cmd]
      reservedByOne :=
  .snoc (.snoc .nil rfl) (by unfold ReservationStep; decide)

/-- A second nexus. -/
def otherNexus : Nexus := ⟨(3, 0), (2, 0), 0⟩

/-- The device with a registration of the second nexus. -/
def alsoRegistered (key : ℕ) : Reservation :=
  ⟨2, true, .persistent, .writeExclusive, 1, someNexus, [⟨key, otherNexus⟩, ⟨1, someNexus⟩]⟩

/-- Registration of the second nexus. -/
def registerOther (key : ℕ) : ReservationEvent :=
  .reserveOut otherNexus ⟨.register, 0, 24, 0, key, .other 0⟩

/-- A nexus that is registered with the holder's own key takes over from it. -/
theorem preempt_takes_over_sameKey :
    (alsoRegistered 1).Preempted otherNexus ⟨1, 1, .exclusiveAccess⟩
      (reservationEvent .drive (alsoRegistered 1)
        (.reserveOut otherNexus (Reservation.preemptWith ⟨1, 1, .exclusiveAccess⟩))) := by
  have run := reservedByOne_events.snoc (e := registerOther 1) (u := alsoRegistered 1)
    (by unfold ReservationStep; decide)
  exact (preempt_takes_over_iff run ⟨rfl, rfl, rfl⟩ (by decide)).2 (by decide)

/-- A nexus with a key of its own cannot preempt the holder: the command ends with a reservation
conflict, and the holder keeps its registration and the reservation. -/
theorem persistentReservationHandlePreempt_conflicts :
    ∃ events r, Run (ReservationStep .drive) .initial events r ∧ r.HeldByOne ∧
      ⟨2, otherNexus⟩ ∈ r.registrationList ∧ ⟨1, r.nexus⟩ ∈ r.registrationList ∧
      (cmdPersistentReserveOut r otherNexus
        (Reservation.preemptWith ⟨2, 1, .writeExclusive⟩)).1 = .reservConflict ∧
      ¬ r.Preempted otherNexus ⟨2, 1, .writeExclusive⟩
        (reservationEvent .drive r
          (.reserveOut otherNexus (Reservation.preemptWith ⟨2, 1, .writeExclusive⟩))) := by
  have run := reservedByOne_events.snoc (e := registerOther 2) (u := alsoRegistered 2)
    (by unfold ReservationStep; decide)
  refine ⟨_, _, run, ⟨rfl, rfl, rfl⟩, by decide, by decide, by decide, fun preempted => ?_⟩
  have taken := (preempted.holder (by decide)).nexus
  exact absurd taken (by decide)

end VirtualTape
