import Mathlib.Data.List.Nodup
import VirtualTape.Core.Reservation

/-!
# Persistent reservations

The reservation keeps a copy of its holder's key. Every service action but a registration keeps the
copy equal to the key in the registration list; a registration of the holder keeps it only if the
key stays the same, or if the holder leaves and the type is one the target knows.
-/

namespace VirtualTape

variable {r r' : Reservation} {nexus : Nexus} {param : ReserveParam} {cmd : ReserveOut}
  {list : List Registration} {tmp : Registration} {key : ℕ}

/-! ## Registration lists -/

/-- A nexus is registered with a key exactly if the list has that registration. -/
@[simp]
theorem initiatorHasRegistered_iff :
    initiatorHasRegistered key nexus list = true ↔ ⟨key, nexus⟩ ∈ list := by
  unfold initiatorHasRegistered
  rw [List.any_eq_true]
  constructor
  · rintro ⟨tmp, member, same⟩
    simp only [Bool.and_eq_true, beq_iff_eq] at same
    obtain ⟨rfl, rfl⟩ := same
    exact member
  · intro member
    exact ⟨_, member, by simp⟩

/-- A new key does not change who is registered. -/
@[simp]
theorem Reservation.setKey_nexuses :
    (setKey nexus key list).map (·.nexus) = list.map (·.nexus) := by
  induction list with
  | nil => rfl
  | cons tmp rest ih =>
    unfold setKey
    by_cases same : tmp.nexus = nexus
    · rw [if_pos same]
      rfl
    · rw [if_neg same, List.map_cons, List.map_cons, ih]

/-- The registrations after a new key: the one with it, and those of other nexuses. -/
theorem Reservation.mem_setKey (distinct : (list.map (·.nexus)).Nodup)
    (registered : nexus ∈ list.map (·.nexus)) :
    tmp ∈ setKey nexus key list ↔ tmp = ⟨key, nexus⟩ ∨ (tmp.nexus ≠ nexus ∧ tmp ∈ list) := by
  induction list with
  | nil => simp at registered
  | cons first rest ih =>
    rw [List.map_cons, List.nodup_cons] at distinct
    unfold setKey
    by_cases same : first.nexus = nexus
    · subst same
      have elsewhere : tmp ∈ rest → tmp.nexus ≠ first.nexus := fun member equal =>
        distinct.1 (equal ▸ List.mem_map_of_mem member)
      rw [if_pos rfl, List.mem_cons, List.mem_cons]
      constructor
      · rintro (new | old)
        · exact .inl new
        · exact .inr ⟨elsewhere old, .inr old⟩
      · rintro (new | ⟨other, rfl | old⟩)
        · exact .inl new
        · exact absurd rfl other
        · exact .inr old
    · have inRest : nexus ∈ rest.map (·.nexus) := by
        rw [List.map_cons, List.mem_cons] at registered
        exact registered.resolve_left fun equal => same equal.symm
      rw [if_neg same, List.mem_cons, List.mem_cons, ih distinct.2 inRest]
      constructor
      · rintro (rfl | new | ⟨other, old⟩)
        · exact .inr ⟨same, .inl rfl⟩
        · exact .inl new
        · exact .inr ⟨other, .inr old⟩
      · rintro (new | ⟨other, rfl | old⟩)
        · exact .inr (.inl new)
        · exact .inl rfl
        · exact .inr (.inr ⟨other, old⟩)

/-- With distinct nexuses, one registration is removed: the one of the nexus. -/
theorem mem_eraseRegistration (distinct : (list.map (·.nexus)).Nodup) :
    tmp ∈ list.eraseP (fun tmp => tmp.nexus == nexus) ↔ tmp.nexus ≠ nexus ∧ tmp ∈ list := by
  induction list with
  | nil => simp
  | cons first rest ih =>
    rw [List.map_cons, List.nodup_cons] at distinct
    by_cases same : first.nexus = nexus
    · subst same
      rw [List.eraseP_cons_of_pos (by simp), List.mem_cons]
      constructor
      · intro member
        exact ⟨fun equal => distinct.1 (equal ▸ List.mem_map_of_mem member), .inr member⟩
      · rintro ⟨other, rfl | member⟩
        · exact absurd rfl other
        · exact member
    · rw [List.eraseP_cons_of_neg (by simpa using same), List.mem_cons, List.mem_cons,
        ih distinct.2]
      constructor
      · rintro (rfl | ⟨other, member⟩)
        · exact ⟨same, .inl rfl⟩
        · exact ⟨other, .inr member⟩
      · rintro ⟨other, rfl | member⟩
        · exact .inl rfl
        · exact .inr ⟨other, member⟩

/-! ## The invariant -/

/-- What holds between the reservation and the registrations. -/
structure Reservation.Sound (r : Reservation) : Prop where
  /-- A nexus is registered once. -/
  distinct : (r.registrationList.map (·.nexus)).Nodup
  /-- No key is zero. -/
  keys : ∀ tmp ∈ r.registrationList, tmp.key ≠ 0
  /-- There is no legacy reservation. -/
  held : r.isReserved = true → r.type = .persistent
  /-- The holder is registered, with the key of the reservation. -/
  holder : r.isReserved = true → r.persistentType.isAr = false →
    ⟨r.persistentKey, r.nexus⟩ ∈ r.registrationList
  /-- A reservation of all registrants has some. -/
  registrants : r.isReserved = true → r.persistentType.isAr = true → r.registrationList ≠ []

namespace Reservation

/-- A new device has neither registrations nor a reservation. -/
theorem initial_sound : initial.Sound where
  distinct := List.nodup_nil
  keys := by simp [initial]
  held := by simp [initial]
  holder := by simp [initial]
  registrants := by simp [initial]

/-- The generation does not matter. -/
@[simp]
theorem nextGeneration_sound : r.nextGeneration.Sound ↔ r.Sound :=
  ⟨fun sound => ⟨sound.distinct, sound.keys, sound.held, sound.holder, sound.registrants⟩,
    fun sound => ⟨sound.distinct, sound.keys, sound.held, sound.holder, sound.registrants⟩⟩

/-- Without a reservation only the registrations matter. -/
theorem Sound.of_reset (distinct : (r.registrationList.map (·.nexus)).Nodup)
    (keys : ∀ tmp ∈ r.registrationList, tmp.key ≠ 0) : r.persistentReservationReset.Sound where
  distinct := distinct
  keys := keys
  held := by simp [persistentReservationReset]
  holder := by simp [persistentReservationReset]
  registrants := by simp [persistentReservationReset]

/-- Of one nexus there is one key. -/
theorem Sound.key_unique (sound : r.Sound) {first second : ℕ}
    (inFirst : ⟨first, nexus⟩ ∈ r.registrationList)
    (inSecond : ⟨second, nexus⟩ ∈ r.registrationList) : first = second := by
  have same := List.inj_on_of_nodup_map sound.distinct inFirst inSecond rfl
  exact congrArg Registration.key same

/-- The all registrants test for a sound reservation. -/
theorem Sound.inPersistentArType_eq (sound : r.Sound) (reserved : r.isReserved = true) :
    r.inPersistentArType = r.persistentType.isAr := by
  simp [inPersistentArType, reserved, sound.held reserved]

/-! ## Registrations -/

/-- A change of its registration by the holder that the reservation does not follow: another key, or
none at all under a type for which nobody counts as the holder. -/
def orphanedBy (r : Reservation) (nexus : Nexus) (serviceActionKey : ℕ) : Bool :=
  r.isReserved && !r.persistentType.isAr && r.nexus == nexus &&
    if serviceActionKey = 0 then
      match r.persistentType with
      | .other _ => true
      | _ => false
    else serviceActionKey != r.persistentKey

/-- A new registration keeps the invariant. -/
theorem Sound.addRegistration (sound : r.Sound)
    (absent : nexus ∉ r.registrationList.map (·.nexus)) (nonzero : key ≠ 0) :
    (r.addRegistration nexus key).Sound := by
  unfold Reservation.addRegistration
  rw [nextGeneration_sound]
  constructor
  · exact List.nodup_cons.2 ⟨absent, sound.distinct⟩
  · intro tmp member
    rcases List.mem_cons.1 member with rfl | old
    · exact nonzero
    · exact sound.keys tmp old
  · exact sound.held
  · intro reserved ar
    exact List.mem_cons_of_mem _ (sound.holder reserved ar)
  · intro _ _
    exact List.cons_ne_nil _ _

/-- A new key for a registration keeps the invariant exactly if the reservation is not left with the
old one. -/
theorem Sound.setKey_iff (sound : r.Sound) (registered : nexus ∈ r.registrationList.map (·.nexus))
    (nonzero : key ≠ 0) :
    ({ r with registrationList := setKey nexus key r.registrationList } : Reservation).Sound ↔
      r.orphanedBy nexus key = false := by
  have members (tmp : Registration) : tmp ∈ setKey nexus key r.registrationList ↔
      tmp = ⟨key, nexus⟩ ∨ (tmp.nexus ≠ nexus ∧ tmp ∈ r.registrationList) :=
    mem_setKey sound.distinct registered
  constructor
  · intro after
    by_contra orphaned
    simp only [orphanedBy, if_neg nonzero, Bool.not_eq_false, Bool.and_eq_true, Bool.not_eq_true',
      beq_iff_eq, bne_iff_ne] at orphaned
    obtain ⟨⟨⟨reserved, ar⟩, rfl⟩, other⟩ := orphaned
    rcases (members _).1 (after.holder reserved ar) with new | ⟨elsewhere, -⟩
    · exact other (congrArg Registration.key new).symm
    · exact elsewhere rfl
  · intro follows
    constructor
    · simpa using sound.distinct
    · intro tmp member
      rcases (members tmp).1 member with rfl | ⟨-, old⟩
      · exact nonzero
      · exact sound.keys tmp old
    · exact sound.held
    · intro reserved ar
      apply (members _).2
      by_cases same : r.nexus = nexus
      · have kept : key = r.persistentKey := by
          by_contra other
          have reserved' : r.isReserved = true := reserved
          have ar' : r.persistentType.isAr = false := ar
          simp [orphanedBy, nonzero, reserved', ar', same, other] at follows
        exact .inl (by simp [kept, same])
      · exact .inr ⟨same, sound.holder reserved ar⟩
    · intro reserved ar empty
      have nexuses := congrArg (List.map (·.nexus)) (show setKey nexus key _ = [] from empty)
      rw [setKey_nexuses, List.map_nil, List.map_eq_nil_iff] at nexuses
      exact sound.registrants reserved ar nexuses

/-- The holder test for a reservation that is not for all registrants. -/
theorem isPersistentReservationHolder_iff (persistent : r.type = .persistent)
    (notAr : r.persistentType.isAr = false) (nexus : Nexus) :
    r.isPersistentReservationHolder nexus = true ↔
      r.nexus = nexus ∧ ∀ code, r.persistentType ≠ .other code := by
  cases type : r.persistentType <;>
    simp_all [isPersistentReservationHolder, PersistentType.isAr]

/-- What removing a registration keeps of the reservation and the registrations. -/
structure Removed (r : Reservation) (left : Nexus) (q : Reservation) : Prop where
  /-- The reservation itself is the same. -/
  isReserved : q.isReserved = r.isReserved
  /-- So is its kind. -/
  type : q.type = r.type
  /-- So is its type. -/
  persistentType : q.persistentType = r.persistentType
  /-- So is its key. -/
  persistentKey : q.persistentKey = r.persistentKey
  /-- So is its nexus. -/
  nexus : q.nexus = r.nexus
  /-- Registrations of other nexuses stay. -/
  mem : ∀ tmp, tmp ∈ q.registrationList ↔ tmp.nexus ≠ left ∧ tmp ∈ r.registrationList
  /-- They still have distinct nexuses. -/
  distinct : (q.registrationList.map (·.nexus)).Nodup

/-- No key becomes zero. -/
theorem Removed.keys {q : Reservation} (removed : r.Removed nexus q) (sound : r.Sound) :
    ∀ tmp ∈ q.registrationList, tmp.key ≠ 0 := fun tmp member =>
  sound.keys tmp ((removed.mem tmp).1 member).2

/-- Without a reservation there is nothing to follow. -/
theorem Removed.free_sound {q : Reservation} (removed : r.Removed nexus q) (sound : r.Sound)
    (free : q.isReserved = false) : (q.persistentReservationRemoveRegistration nexus).Sound := by
  simp only [persistentReservationRemoveRegistration, free, Bool.not_false, if_true]
  exact ⟨removed.distinct, removed.keys sound, by simp [free], by simp [free], by simp [free]⟩

/-- A reservation of all registrants ends with the last of them. -/
theorem Removed.ar_sound {q : Reservation} (removed : r.Removed nexus q) (sound : r.Sound)
    (reserved : q.isReserved = true) (ar : q.persistentType.isAr = true) :
    (q.persistentReservationRemoveRegistration nexus).Sound := by
  have persistent : q.type = .persistent :=
    removed.type.trans (sound.held (removed.isReserved ▸ reserved))
  simp only [persistentReservationRemoveRegistration, inPersistentArType, reserved, persistent, ar,
    Bool.not_true, Bool.false_eq_true, if_false, beq_self_eq_true, Bool.and_self, if_true]
  split_ifs with empty
  · exact .of_reset removed.distinct (removed.keys sound)
  · exact ⟨removed.distinct, removed.keys sound, fun _ => persistent, by simp [ar],
      fun _ _ none => empty (by simp [none])⟩

/-- Any other reservation ends with its holder, unless nobody counts as the holder. -/
theorem Removed.holder_sound_iff {q : Reservation} (removed : r.Removed nexus q) (sound : r.Sound)
    (reserved : q.isReserved = true) (notAr : q.persistentType.isAr = false) :
    (q.persistentReservationRemoveRegistration nexus).Sound ↔
      (q.nexus = nexus → ∀ code, q.persistentType ≠ .other code) := by
  have reservedBefore : r.isReserved = true := removed.isReserved ▸ reserved
  have persistent : q.type = .persistent := removed.type.trans (sound.held reservedBefore)
  have holds := isPersistentReservationHolder_iff persistent notAr nexus
  simp only [persistentReservationRemoveRegistration, inPersistentArType, reserved, notAr,
    Bool.and_false, Bool.not_true, Bool.false_eq_true, if_false]
  split_ifs with isHolder
  · simp only [(holds.1 isHolder).2, ne_eq, not_false_eq_true, implies_true, iff_true]
    exact .of_reset removed.distinct (removed.keys sound)
  · constructor
    · intro after same
      have left := ((removed.mem _).1 (after.holder reserved notAr)).1
      exact absurd same left
    · intro known
      have elsewhere : q.nexus ≠ nexus := fun same => isHolder (holds.2 ⟨same, known same⟩)
      have member : ⟨q.persistentKey, q.nexus⟩ ∈ r.registrationList := by
        rw [removed.persistentKey, removed.nexus]
        exact sound.holder reservedBefore (removed.persistentType ▸ notAr)
      exact ⟨removed.distinct, removed.keys sound, fun _ => persistent,
        fun _ _ => (removed.mem _).2 ⟨elsewhere, member⟩, by simp [notAr]⟩

/-- Only the holder can leave a reservation behind. -/
theorem orphanedBy_zero :
    r.orphanedBy nexus 0 = false ↔ r.isReserved = false ∨ r.persistentType.isAr = true ∨
      (r.nexus = nexus → ∀ code, r.persistentType ≠ .other code) := by
  cases reserved : r.isReserved <;> cases type : r.persistentType <;>
    simp [orphanedBy, reserved, type, PersistentType.isAr]

/-- A removed registration keeps the invariant exactly if the reservation goes with its holder. -/
theorem Sound.remove_iff (sound : r.Sound) :
    (({ r with registrationList := r.registrationList.eraseP fun tmp => tmp.nexus == nexus }
      : Reservation).persistentReservationRemoveRegistration nexus).Sound ↔
      r.orphanedBy nexus 0 = false := by
  have removed : r.Removed nexus
      { r with registrationList := r.registrationList.eraseP fun tmp => tmp.nexus == nexus } :=
    ⟨rfl, rfl, rfl, rfl, rfl, fun _ => mem_eraseRegistration sound.distinct,
      sound.distinct.sublist (List.eraseP_sublist.map _)⟩
  rw [orphanedBy_zero]
  by_cases reserved : r.isReserved = true
  · by_cases ar : r.persistentType.isAr = true
    · exact iff_of_true (removed.ar_sound sound reserved ar) (.inr (.inl ar))
    · rw [removed.holder_sound_iff sound reserved (Bool.not_eq_true _ ▸ ar)]
      simp [reserved, ar]
  · have free : r.isReserved = false := by simpa using reserved
    exact iff_of_true (removed.free_sound sound free) (.inl free)

/-- A change of a registration keeps the invariant exactly if it does not orphan the reservation. -/
theorem Sound.changeRegistration_iff (sound : r.Sound)
    (registered : nexus ∈ r.registrationList.map (·.nexus)) :
    (r.changeRegistration nexus key).Sound ↔ r.orphanedBy nexus key = false := by
  unfold changeRegistration
  rw [nextGeneration_sound]
  by_cases zero : key = 0
  · subst zero
    rw [if_pos rfl]
    exact sound.remove_iff
  · rw [if_neg zero]
    exact sound.setKey_iff registered zero

end Reservation

/-- A nexus found in the list is registered with the key found. -/
theorem mem_of_findRegistration
    (found : list.find? (fun tmp => tmp.nexus == nexus) = some tmp) :
    tmp ∈ list ∧ tmp.nexus = nexus :=
  ⟨List.mem_of_find?_eq_some found, by simpa using List.find?_some found⟩

/-- A nexus not found is not registered. -/
theorem not_mem_of_findRegistration
    (found : list.find? (fun tmp => tmp.nexus == nexus) = none) :
    nexus ∉ list.map (·.nexus) := by
  simpa using found

namespace Reservation

/-- The holder of a reservation that is not for all registrants takes another key, or leaves under a
type the target does not know. -/
def breaks (r : Reservation) (nexus : Nexus) (cmd : ReserveOut) : Bool :=
  cmd.scope == 0 && cmd.parameterListLength == 24 &&
    match cmd.serviceAction with
    | .register => cmd.param.key == r.persistentKey &&
        r.orphanedBy nexus cmd.param.serviceActionKey
    | .registerIgnore => r.orphanedBy nexus cmd.param.serviceActionKey
    | _ => false

/-- Only the holder can orphan a reservation, which is registered with its key. -/
theorem Sound.holder_of_orphanedBy (sound : r.Sound) (orphaned : r.orphanedBy nexus key = true) :
    ⟨r.persistentKey, nexus⟩ ∈ r.registrationList := by
  simp only [orphanedBy, Bool.and_eq_true, Bool.not_eq_true', beq_iff_eq] at orphaned
  obtain ⟨⟨⟨reserved, ar⟩, rfl⟩, -⟩ := orphaned
  exact sound.holder reserved ar

/-- A nexus that is not registered orphans nothing. -/
theorem Sound.orphanedBy_of_absent (sound : r.Sound) (absent : nexus ∉ r.registrationList.map (·.nexus)) :
    r.orphanedBy nexus key = false := by
  by_contra orphaned
  exact absent (List.mem_map_of_mem (sound.holder_of_orphanedBy (by simpa using orphaned)))

/-- REGISTER. -/
theorem Sound.register_iff (sound : r.Sound) :
    (r.persistentReservationHandleRegister nexus param).2.Sound ↔
      (param.key == r.persistentKey && r.orphanedBy nexus param.serviceActionKey) = false := by
  unfold persistentReservationHandleRegister
  cases found : r.registrationList.find? fun tmp => tmp.nexus == nexus with
  | some tmp =>
    obtain ⟨member, rfl⟩ := mem_of_findRegistration found
    -- the registration found is the holder's, if anything is orphaned
    have ifOrphaned : r.orphanedBy tmp.nexus param.serviceActionKey = true →
        tmp.key = r.persistentKey := fun orphaned =>
      sound.key_unique member (sound.holder_of_orphanedBy orphaned)
    by_cases same : param.key = tmp.key
    · simp only [same, ne_eq, not_true_eq_false, if_false]
      rw [sound.changeRegistration_iff (List.mem_map_of_mem member)]
      cases orphaned : r.orphanedBy tmp.nexus param.serviceActionKey with
      | false => simp
      | true => simp [ifOrphaned orphaned]
    · simp only [ne_eq, same, not_false_eq_true, if_true, sound, true_iff]
      cases orphaned : r.orphanedBy tmp.nexus param.serviceActionKey with
      | false => simp
      | true => simpa [ifOrphaned orphaned] using ifOrphaned orphaned ▸ same
  | none =>
    have absent := not_mem_of_findRegistration found
    simp only [sound.orphanedBy_of_absent absent, Bool.and_false, iff_true]
    by_cases both : param.key = 0 ∧ param.serviceActionKey = 0
    · rw [if_pos both]
      exact nextGeneration_sound.2 sound
    · rw [if_neg both]
      by_cases nonzero : param.key ≠ 0
      · rw [if_pos nonzero]
        exact sound
      · rw [if_neg nonzero]
        exact sound.addRegistration absent fun zero => both ⟨not_not.1 nonzero, zero⟩

/-- REGISTER AND IGNORE EXISTING KEY. -/
theorem Sound.registerIgnore_iff (sound : r.Sound) :
    (r.persistentReservationHandleRegisterAndIgnore nexus param).2.Sound ↔
      r.orphanedBy nexus param.serviceActionKey = false := by
  unfold persistentReservationHandleRegisterAndIgnore
  cases found : r.registrationList.find? fun tmp => tmp.nexus == nexus with
  | some tmp =>
    obtain ⟨member, rfl⟩ := mem_of_findRegistration found
    exact sound.changeRegistration_iff (List.mem_map_of_mem member)
  | none =>
    have absent := not_mem_of_findRegistration found
    simp only [sound.orphanedBy_of_absent absent, iff_true]
    by_cases zero : param.serviceActionKey = 0
    · rw [if_pos zero]
      exact nextGeneration_sound.2 sound
    · rw [if_neg zero]
      exact sound.addRegistration absent zero

/-! ## The other service actions -/

/-- RESERVE. -/
theorem Sound.reserve (sound : r.Sound) :
    (r.persistentReservationHandleReserve nexus param).2.Sound := by
  unfold persistentReservationHandleReserve
  by_cases registered : initiatorHasRegistered param.key nexus r.registrationList = true
  · have member := initiatorHasRegistered_iff.1 registered
    by_cases reserved : r.isReserved = true
    · simp only [registered, reserved, Bool.not_true, Bool.false_eq_true, if_false, Bool.true_and,
        if_true]
      split_ifs <;> exact sound
    · simp only [registered, reserved, Bool.not_true, Bool.false_eq_true, if_false, Bool.false_and]
      exact ⟨sound.distinct, sound.keys, fun _ => rfl, fun _ _ => member,
        fun _ _ empty => List.ne_nil_of_mem member empty⟩
  · simp only [registered, Bool.not_false, if_true]
    exact sound

/-- RELEASE. -/
theorem Sound.release (sound : r.Sound) :
    (r.persistentReservationHandleRelease nexus param).2.Sound := by
  unfold persistentReservationHandleRelease
  split_ifs
  all_goals first
    | exact sound
    | exact .of_reset sound.distinct sound.keys

/-- CLEAR. -/
theorem Sound.clear (sound : r.Sound) :
    (r.persistentReservationHandleClear nexus param).2.Sound := by
  unfold persistentReservationHandleClear
  split_ifs
  · exact sound
  · rw [nextGeneration_sound]
    exact .of_reset (by simp) (by simp)

/-- PREEMPT. The caller has the key of the reservation, so the registrations it removes include the
holder's only if it takes over the reservation. -/
theorem Sound.preempt (sound : r.Sound) :
    (r.persistentReservationHandlePreempt nexus param).2.Sound := by
  unfold persistentReservationHandlePreempt
  simp only []
  by_cases registered : initiatorHasRegistered param.key nexus r.registrationList = true
  swap
  · simp only [registered, Bool.not_false, if_true]
    exact sound
  have member := initiatorHasRegistered_iff.1 registered
  simp only [registered, Bool.not_true, Bool.false_eq_true, if_false]
  by_cases wrongKey : (r.isReserved && r.persistentKey != param.key) = true
  · rw [if_pos wrongKey]
    exact sound
  rw [if_neg wrongKey]
  by_cases noKey : (!r.inPersistentArType && r.isReserved && param.serviceActionKey == 0) = true
  · rw [if_pos noKey]
    exact sound
  rw [if_neg noKey, nextGeneration_sound]
  set kept := r.registrationList.filter fun tmp => tmp.nexus == nexus ||
    (tmp.key != param.serviceActionKey &&
      (!r.inPersistentArType || param.serviceActionKey != 0)) with isKept
  have distinct : (kept.map (·.nexus)).Nodup :=
    sound.distinct.sublist (List.filter_sublist.map _)
  have keys : ∀ tmp ∈ kept, tmp.key ≠ 0 := fun tmp inKept =>
    sound.keys tmp (List.mem_of_mem_filter inKept)
  have caller : ⟨param.key, nexus⟩ ∈ kept := List.mem_filter.2 ⟨member, by simp⟩
  split_ifs with takes
  · exact ⟨distinct, keys, fun _ => rfl, fun _ _ => caller,
      fun _ _ empty => List.ne_nil_of_mem caller empty⟩
  · refine ⟨distinct, keys, sound.held, fun reserved ar => ?_,
      fun _ _ empty => List.ne_nil_of_mem caller empty⟩
    have reserved' : r.isReserved = true := reserved
    have notAr : r.inPersistentArType = false :=
      (sound.inPersistentArType_eq reserved').trans ar
    have others : r.persistentKey ≠ param.serviceActionKey := by
      simpa [reserved', notAr] using takes
    exact List.mem_filter.2 ⟨sound.holder reserved' ar, by simp [others, notAr]⟩

/-! ## Whole commands -/

/-- A command keeps the invariant exactly if it does not break it by a registration. -/
theorem Sound.cmd_iff (sound : r.Sound) :
    (cmdPersistentReserveOut r nexus cmd).2.Sound ↔ r.breaks nexus cmd = false := by
  unfold cmdPersistentReserveOut breaks
  by_cases rejected : cmd.scope ≠ 0 ∨ cmd.parameterListLength ≠ 24
  · rw [if_pos rejected]
    have fails : (cmd.scope == 0 && cmd.parameterListLength == 24) = false := by
      rcases rejected with scope | length
      · simp [scope]
      · simp [length]
    simp [fails, sound]
  · rw [if_neg rejected]
    obtain ⟨scope, length⟩ := not_or.1 rejected
    have accepted : (cmd.scope == 0 && cmd.parameterListLength == 24) = true := by
      simp only [ne_eq, not_not] at scope length
      simp [scope, length]
    simp only [accepted, Bool.true_and]
    cases cmd.serviceAction with
    | register => exact sound.register_iff
    | registerIgnore => exact sound.registerIgnore_iff
    | reserve => simp [sound.reserve]
    | release => simp [sound.release]
    | clear => simp [sound.clear]
    | preempt | preemptAbort => simp [sound.preempt]
    | other code => simp [sound]

/-- The holder of a reservation: the nexus that made it, or every registrant. -/
def Holds (r : Reservation) (nexus : Nexus) : Prop :=
  r.isReserved = true ∧ (r.persistentType.isAr = true ∨ r.nexus = nexus)

/-- RELEASE with a key and the type of the reservation. -/
def releaseWith (r : Reservation) (key : ℕ) : ReserveOut :=
  ⟨.release, 0, 24, ⟨key, 0, r.persistentType⟩⟩

/-- A holder ends a sound reservation with the key under which it is registered. -/
theorem Sound.holder_releases (sound : r.Sound) (holds : r.Holds nexus)
    (registered : ⟨key, nexus⟩ ∈ r.registrationList) :
    (cmdPersistentReserveOut r nexus (r.releaseWith key)).1 = .good ∧
      (cmdPersistentReserveOut r nexus (r.releaseWith key)).2.isReserved = false := by
  obtain ⟨reserved, who⟩ := holds
  have has := initiatorHasRegistered_iff.2 registered
  have isAr := sound.inPersistentArType_eq reserved
  by_cases ar : r.persistentType.isAr = true
  · simp [cmdPersistentReserveOut, releaseWith, persistentReservationHandleRelease, reserved, has,
      isAr, ar, persistentReservationReset]
  · have notAr : r.persistentType.isAr = false := by simpa using ar
    have same : r.nexus = nexus := who.resolve_left ar
    have ownKey : r.persistentKey = key :=
      sound.key_unique (same ▸ sound.holder reserved notAr) registered
    simp [cmdPersistentReserveOut, releaseWith, persistentReservationHandleRelease, reserved, has,
      isAr, notAr, same, ownKey, persistentReservationReset]

end Reservation

/-- A command that does not break the invariant. -/
def KeepingStep (r : Reservation) (request : ReserveOutBy) (r' : Reservation) : Prop :=
  ReserveOutStep r request r' ∧ r.breaks request.nexus request.cmd = false

/-- Runs of such commands keep the invariant. -/
theorem Run.reservation_sound {requests : List ReserveOutBy}
    (run : Run KeepingStep .initial requests r) : r.Sound :=
  run.invariant Reservation.initial_sound fun sound step => by
    rw [step.1]
    exact sound.cmd_iff.2 step.2

/-- After every sequence of commands none of which breaks the invariant it holds, every holder can
release the reservation with its key, and the next command keeps the invariant exactly if it does
not break it. -/
theorem reserveOut_sound_iff {requests : List ReserveOutBy}
    (run : Run KeepingStep .initial requests r) :
    r.Sound ∧
      (∀ nexus key, r.Holds nexus → ⟨key, nexus⟩ ∈ r.registrationList →
        (cmdPersistentReserveOut r nexus (r.releaseWith key)).1 = .good ∧
        (cmdPersistentReserveOut r nexus (r.releaseWith key)).2.isReserved = false) ∧
      ∀ nexus cmd, (cmdPersistentReserveOut r nexus cmd).2.Sound ↔ r.breaks nexus cmd = false := by
  have sound := run.reservation_sound
  exact ⟨sound, fun _ _ => sound.holder_releases, fun _ _ => sound.cmd_iff⟩

/-- A nexus. -/
def someNexus : Nexus := ⟨(1, 0), (2, 0), 0⟩

/-- Registration with key 1. -/
def registerOne : ReserveOutBy := ⟨someNexus, .register, 0, 24, 0, 1, .other 0⟩

/-- Write exclusive reservation with key 1. -/
def reserveOne : ReserveOutBy := ⟨someNexus, .reserve, 0, 24, 1, 0, .writeExclusive⟩

/-- The device with that registration and reservation. -/
def reservedByOne : Reservation :=
  ⟨1, true, .persistent, .writeExclusive, 1, someNexus, [⟨1, someNexus⟩]⟩

/-- The run that reserves the device. -/
theorem reservedByOne_run : Run KeepingStep .initial [registerOne, reserveOne] reservedByOne :=
  .snoc (.snoc .nil ⟨rfl, by decide⟩) ⟨by unfold ReserveOutStep; decide, by decide⟩

/-- The holder of a write exclusive reservation releases it with its key. -/
theorem reserveOut_sound_writeExclusive :
    (cmdPersistentReserveOut reservedByOne someNexus (reservedByOne.releaseWith 1)).1 = .good :=
  ((reserveOut_sound_iff reservedByOne_run).2.1 someNexus 1 ⟨rfl, .inr rfl⟩ (by decide)).1

/-- A holder that registers another key can no longer release its reservation with it. -/
theorem persistentReservationHandleRegister_orphans :
    ∃ requests r, Run ReserveOutStep .initial requests r ∧ ¬ r.Sound ∧
      r.Holds someNexus ∧ ⟨2, someNexus⟩ ∈ r.registrationList ∧
      (cmdPersistentReserveOut r someNexus (r.releaseWith 2)).1 = .reservConflict := by
  refine ⟨[registerOne, reserveOne, ⟨someNexus, .register, 0, 24, 1, 2, .other 0⟩],
    ⟨2, true, .persistent, .writeExclusive, 1, someNexus, [⟨2, someNexus⟩]⟩,
    .snoc (reservedByOne_run.mono fun step => step.1) (by unfold ReserveOutStep; decide),
    fun sound => ?_, ⟨rfl, .inr rfl⟩, by decide, by decide⟩
  exact absurd (sound.holder rfl rfl) (by decide)

end VirtualTape
