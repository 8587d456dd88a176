import VirtualTape.Core.ReserveIn

/-!
# What PERSISTENT RESERVE IN returns

A report is a header and a list of descriptors. With a buffer too small for it, the complete
descriptors in front are returned. The loop that copies descriptors is described once, for any kind
of descriptor and whatever a copy leaves behind its own bytes.
-/

namespace VirtualTape

/-! ## Descriptors that fit -/

/-- The complete descriptors in front that fit. -/
def fitting : Nat → List (List UInt8) → List (List UInt8)
  | _, [] => []
  | room, item :: rest =>
    if item.length ≤ room then item :: fitting (room - item.length) rest else []

/-- Descriptors that fit take no more than the room. -/
theorem fitting_length_le (room : Nat) (items : List (List UInt8)) :
    (fitting room items).flatten.length ≤ room := by
  induction items generalizing room with
  | nil => simp [fitting]
  | cons item rest ih =>
    rw [fitting]
    split
    · have later := ih (room - item.length)
      simp only [List.flatten_cons, List.length_append]
      omega
    · simp

/-- Descriptors that fit are no longer than all. -/
theorem fitting_length_le_all (room : Nat) (items : List (List UInt8)) :
    (fitting room items).flatten.length ≤ items.flatten.length := by
  induction items generalizing room with
  | nil => exact Nat.le_refl _
  | cons item rest ih =>
    rw [fitting]
    split
    · have later := ih (room - item.length)
      simp only [List.flatten_cons, List.length_append]
      omega
    · simp

/-- When there is room for all, all fit. -/
theorem fitting_eq_self {room : Nat} {items : List (List UInt8)}
    (all : items.flatten.length ≤ room) : fitting room items = items := by
  induction items generalizing room with
  | nil => rfl
  | cons item rest ih =>
    simp only [List.flatten_cons, List.length_append] at all
    rw [fitting, if_pos (by omega), ih (by omega)]

/-! ## The loop that copies descriptors -/

section Copy

variable {α : Type} {allocationLength : Nat} {size : α → Nat} {copy : Buffer → Nat → α → Buffer}
variable {descriptor trail : α → List UInt8}

/-- A copy that is asked for when a descriptor fits stores the descriptor and what trails it. -/
structure Copies (allocationLength : Nat) (size : α → Nat) (copy : Buffer → Nat → α → Buffer)
    (descriptor trail : α → List UInt8) (item : α) : Prop where
  /-- The size that is asked for is that of the descriptor. -/
  size : size item = (descriptor item).length
  /-- What is stored. -/
  copy : ∀ buffer done, done + (descriptor item).length ≤ allocationLength →
    copy buffer done item = buffer.write done (descriptor item ++ trail item)

/-- Length of the descriptors up to one of them. -/
def lengthThrough (descriptor : α → List UInt8) (items : List α) (index : Nat) : Nat :=
  ((items.take (index + 1)).map descriptor).flatten.length

/-- Behind the end of the buffer nothing is copied. -/
theorem copyDescriptors_behind {buffer : Buffer} {done : Nat} {items : List α}
    (copies : ∀ item ∈ items, Copies allocationLength size copy descriptor trail item)
    (short : done + (items.map descriptor).flatten.length < 2 ^ 16)
    (behind : allocationLength < done) :
    copyDescriptors allocationLength size copy buffer done items =
      (buffer, done + (items.map descriptor).flatten.length) := by
  induction items generalizing done with
  | nil => simp [copyDescriptors]
  | cons item rest ih =>
    simp only [List.map_cons, List.flatten_cons, List.length_append] at short ⊢
    have isSize := (copies item (by simp)).size
    rw [copyDescriptors, if_pos (by omega), Nat.mod_eq_of_lt (by omega),
      ih (fun other isOther => copies other (by simp [isOther])) (by omega) (by omega), isSize,
      Nat.add_assoc]

/-- Where the loop ends, what it stores, and when all of that is inside the buffer. -/
theorem copyDescriptors_spec (buffer : Buffer) {done : Nat} {items : List α}
    (copies : ∀ item ∈ items, Copies allocationLength size copy descriptor trail item)
    (bare : ∀ item ∈ items, (trail item).length ≤ 1)
    (short : done + (items.map descriptor).flatten.length < 2 ^ 16)
    (isSize : buffer.size = allocationLength) (front : done ≤ allocationLength) :
    let copied := copyDescriptors allocationLength size copy buffer done items
    let fits := (fitting (allocationLength - done) (items.map descriptor)).flatten
    copied.2 = done + (items.map descriptor).flatten.length ∧
      copied.1.size = allocationLength ∧
      copied.1.bytes (done + fits.length) = buffer.bytes done ++ fits ∧
      (copied.1.inside = true ↔ buffer.inside = true ∧
        ∀ index item, items[index]? = some item → trail item ≠ [] →
          done + lengthThrough descriptor items index ≠ allocationLength) := by
  induction items generalizing buffer done with
  | nil => simp [copyDescriptors, fitting, isSize]
  | cons item rest ih =>
    simp only [List.map_cons, List.flatten_cons, List.length_append] at short ⊢
    obtain ⟨sizeEq, stored⟩ := copies item (by simp)
    have later := fun other (isOther : other ∈ rest) => copies other (List.mem_cons_of_mem _ isOther)
    have through : ∀ index, lengthThrough descriptor (item :: rest) (index + 1) =
        (descriptor item).length + lengthThrough descriptor rest index := by
      intro index
      simp [lengthThrough]
    have alone : lengthThrough descriptor (item :: rest) 0 = (descriptor item).length := by
      simp [lengthThrough]
    rw [copyDescriptors, sizeEq, Nat.mod_eq_of_lt (by omega), fitting]
    by_cases fit : done + (descriptor item).length ≤ allocationLength
    · rw [if_neg (by omega), if_pos (by omega), stored buffer done fit]
      have room : allocationLength - done - (descriptor item).length =
          allocationLength - (done + (descriptor item).length) := by omega
      obtain ⟨ends, keeps, holds, inside⟩ := ih
        (buffer.write done (descriptor item ++ trail item)) later
        (fun other isOther => bare other (List.mem_cons_of_mem _ isOther)) (by omega)
        (by simpa using isSize) fit
      rw [room]
      refine ⟨by rw [ends]; omega, keeps, ?_, ?_⟩
      · rw [List.flatten_cons, List.length_append, ← Nat.add_assoc, holds, Buffer.write_append,
          Buffer.bytes_write_of_le _ _ _ _ (Nat.le_refl _), Buffer.bytes_write, List.append_assoc]
      · rw [inside, Buffer.write_inside _ _ _ (by omega), isSize, List.length_append]
        have one := bare item (by simp)
        constructor
        · rintro ⟨⟨was, ends⟩, clear⟩
          refine ⟨was, fun index other isOther trails => ?_⟩
          rcases index with _ | index
          · cases isOther
            have some : 0 < (trail item).length := List.length_pos_iff.mpr trails
            rw [alone]
            omega
          · rw [through, ← Nat.add_assoc]
            exact clear index other (by simpa using isOther) trails
        · rintro ⟨was, clear⟩
          refine ⟨⟨was, ?_⟩, fun index other isOther trails => ?_⟩
          · by_cases trails : trail item = []
            · simp only [trails, List.length_nil]
              omega
            · have notEnd := clear 0 item (by simp) trails
              rw [alone] at notEnd
              omega
          · have notEnd := clear (index + 1) other (by simpa using isOther) trails
            rwa [through, ← Nat.add_assoc] at notEnd
    · rw [if_pos (by omega), if_neg (by omega),
        copyDescriptors_behind later (by omega) (by omega)]
      refine ⟨by omega, isSize, by simp, ?_⟩
      constructor
      · refine fun was => ⟨was, fun index other isOther _ => ?_⟩
        rcases index with _ | index
        · rw [alone]
          omega
        · rw [through]
          omega
      · exact fun both => both.1

end Copy

/-! ## Answers -/

/-- A command answers with a header and the complete descriptors that fit. -/
structure Answers (generation allocationLength : Nat) (descriptors : List (List UInt8))
    (data : ReserveInData) : Prop where
  /-- Nothing is stored outside the buffer. -/
  inside : data.buffer.inside = true
  /-- The additional length is that of all descriptors. -/
  additional : ofBe ((data.buffer.bytes 8).drop 4) = descriptors.flatten.length
  /-- What is returned. -/
  returned : data.buffer.bytes data.dxferLen =
    beBytes 4 generation ++ beBytes 4 descriptors.flatten.length ++
      (fitting (allocationLength - 8) descriptors).flatten

/-- The report ends inside the buffer, or a descriptor ends with the buffer. -/
def EndsWhole (allocationLength : Nat) (descriptors : List (List UInt8)) : Prop :=
  8 + descriptors.flatten.length ≤ allocationLength ∨
    8 + (fitting (allocationLength - 8) descriptors).flatten.length = allocationLength

/-- The offset behind the descriptors is a 16-bit number. -/
theorem copyDescriptors_lt {α : Type} (allocationLength : Nat) (size : α → Nat)
    (copy : Buffer → Nat → α → Buffer) (buffer : Buffer) {done : Nat} (items : List α)
    (small : done < 2 ^ 16) :
    (copyDescriptors allocationLength size copy buffer done items).2 < 2 ^ 16 := by
  induction items generalizing buffer done with
  | nil => exact small
  | cons item rest ih =>
    rw [copyDescriptors]
    split <;> exact ih _ (Nat.mod_lt _ (by decide))

/-- The additional length that is stored. -/
theorem reserveInDone_additional (allocationLength : Nat) (copied : Buffer × Nat) :
    ofBe (((reserveInDone allocationLength copied).buffer.bytes 8).drop 4) =
      (copied.2 + 2 ^ 32 - 8) % 2 ^ 32 := by
  have stored := Buffer.bytes_write copied.1 4 (beBytes 4 ((copied.2 + 2 ^ 32 - 8) % 2 ^ 32))
  rw [beBytes_length] at stored
  rw [reserveInDone, stored, List.drop_left' (by simp), ofBe_beBytes]
  omega

/-- Descriptors that are longer than 16 bits can say are not reported as they should be. -/
theorem not_answers_of_long {generation allocationLength : Nat} {descriptors : List (List UInt8)}
    {copied : Buffer × Nat} (large : 8 ≤ allocationLength) (small : copied.2 < 2 ^ 16)
    (long : 2 ^ 16 ≤ 8 + descriptors.flatten.length) :
    ¬Answers generation allocationLength descriptors (reserveInDone allocationLength copied) := by
  intro answers
  have additional := answers.additional
  rw [reserveInDone_additional] at additional
  by_cases header : copied.2 < 8
  · have isLength := congrArg List.length answers.returned
    simp only [Buffer.bytes_length, List.length_append, beBytes_length, reserveInDone,
      if_pos (show copied.2 < allocationLength by omega)] at isLength
    omega
  · omega

/-- A report of 16 bits is as it should be when nothing was stored outside the buffer and a
descriptor ends where the returned bytes do. -/
theorem reserveInDone_answers_iff {generation allocationLength : Nat}
    {descriptors : List (List UInt8)} {copied : Buffer × Nat} (large : 8 ≤ allocationLength)
    (short : 8 + descriptors.flatten.length < 2 ^ 16)
    (ends : copied.2 = 8 + descriptors.flatten.length)
    (isSize : copied.1.size = allocationLength)
    (isGeneration : copied.1.bytes 4 = beBytes 4 generation)
    (holds : ∃ header, copied.1.bytes
        (8 + (fitting (allocationLength - 8) descriptors).flatten.length) =
      header ++ (fitting (allocationLength - 8) descriptors).flatten ∧ header.length = 8) :
    Answers generation allocationLength descriptors (reserveInDone allocationLength copied) ↔
      copied.1.inside = true ∧ EndsWhole allocationLength descriptors := by
  have most := fitting_length_le (allocationLength - 8) descriptors
  have insideIff : (reserveInDone allocationLength copied).buffer.inside = true ↔
      copied.1.inside = true := by
    rw [reserveInDone, Buffer.write_inside _ _ _ (by omega), beBytes_length, isSize]
    exact and_iff_left large
  have isLength : (reserveInDone allocationLength copied).dxferLen =
      min (8 + descriptors.flatten.length) allocationLength := by
    simp only [reserveInDone, ends]
    split <;> omega
  have isAdditional : (copied.2 + 2 ^ 32 - 8) % 2 ^ 32 = descriptors.flatten.length := by omega
  have stored : (reserveInDone allocationLength copied).buffer.bytes
        (8 + (fitting (allocationLength - 8) descriptors).flatten.length) =
      beBytes 4 generation ++ beBytes 4 descriptors.flatten.length ++
        (fitting (allocationLength - 8) descriptors).flatten := by
    obtain ⟨header, isHeader, eight⟩ := holds
    rw [reserveInDone, Buffer.bytes_write_middle _ _ _ _ (by simp only [beBytes_length]; omega),
      isGeneration, isAdditional, isHeader, beBytes_length, List.drop_left' eight]
  constructor
  · intro answers
    refine ⟨insideIff.mp answers.inside, ?_⟩
    have sameLength := congrArg List.length answers.returned
    simp only [Buffer.bytes_length, List.length_append, beBytes_length, isLength] at sameLength
    rcases Nat.le_total (8 + descriptors.flatten.length) allocationLength with fits | cut
    · exact Or.inl fits
    · rw [Nat.min_eq_right cut] at sameLength
      exact Or.inr (by omega)
  · rintro ⟨inside, whole⟩
    refine ⟨insideIff.mpr inside, by rw [reserveInDone_additional, isAdditional], ?_⟩
    have isEnd : (reserveInDone allocationLength copied).dxferLen =
        8 + (fitting (allocationLength - 8) descriptors).flatten.length := by
      rw [isLength]
      rcases whole with fits | cut
      · rw [fitting_eq_self (by omega), Nat.min_eq_left fits]
      · have less := fitting_length_le_all (allocationLength - 8) descriptors
        omega
    rw [isEnd, stored]

/-- A report whose descriptors are copied one after the other, and copied right when 16 bits can
say how long they are, is as it should be under three conditions: 16 bits can say how long it is, a
descriptor ends where the returned bytes do, and none that leaves a byte behind ends with the
buffer. -/
theorem copyDescriptors_answers_iff {α : Type} {allocationLength : Nat} {size : α → Nat}
    {copy : Buffer → Nat → α → Buffer} {descriptor : α → List UInt8} (trail : α → List UInt8)
    {items : List α} (reservation : Reservation) (stale : Nat → UInt8) (large : 8 ≤ allocationLength)
    (copies : 8 + (items.map descriptor).flatten.length < 2 ^ 16 →
      ∀ item ∈ items, Copies allocationLength size copy descriptor trail item)
    (bare : ∀ item ∈ items, (trail item).length ≤ 1) :
    Answers reservation.generation allocationLength (items.map descriptor)
        (reserveInDone allocationLength (copyDescriptors allocationLength size copy
          (reserveInBuffer allocationLength stale reservation) 8 items)) ↔
      8 + (items.map descriptor).flatten.length < 2 ^ 16 ∧
        EndsWhole allocationLength (items.map descriptor) ∧
        ∀ index item, items[index]? = some item → trail item ≠ [] →
          8 + lengthThrough descriptor items index ≠ allocationLength := by
  by_cases short : 8 + (items.map descriptor).flatten.length < 2 ^ 16
  · obtain ⟨ends, isSize, holds, inside⟩ := copyDescriptors_spec
      (reserveInBuffer allocationLength stale reservation) (copies short) bare short rfl large
    have isGeneration : (copyDescriptors allocationLength size copy
        (reserveInBuffer allocationLength stale reservation) 8 items).1.bytes 4 =
          beBytes 4 reservation.generation := by
      have front := congrArg (List.take 4) holds
      rw [Buffer.take_bytes _ _ (by omega), List.take_append_of_le_length (by simp),
        Buffer.take_bytes _ _ (by omega)] at front
      have stored := Buffer.bytes_write (Buffer.allocate allocationLength stale) 0
        (beBytes 4 reservation.generation)
      rw [beBytes_length] at stored
      exact front.trans stored
    have began : (reserveInBuffer allocationLength stale reservation).inside = true := by
      rw [reserveInBuffer, Buffer.write_inside _ _ _ (Nat.zero_le _), beBytes_length]
      exact ⟨rfl, Nat.le_trans (by decide) large⟩
    rw [reserveInDone_answers_iff large short ends isSize isGeneration
      ⟨_, holds, Buffer.bytes_length _ _⟩, inside]
    constructor
    · rintro ⟨⟨_, clear⟩, whole⟩
      exact ⟨short, whole, clear⟩
    · rintro ⟨_, whole, clear⟩
      exact ⟨⟨began, clear⟩, whole⟩
  · refine iff_of_false (not_answers_of_long large ?_ (by omega)) fun all => short all.1
    exact copyDescriptors_lt allocationLength size copy _ items (by decide)

/-! ## The three reports -/

namespace ReserveReport

variable (report : ReserveReport)

/-- A transport identifier. -/
def transportId (item : Registrant) : List UInt8 :=
  if item.isIscsi then item.transportIdCommon ++ item.initName
  else if item.isFc then item.transportIdFc
  else if item.isLocal then Registrant.transportIdScsi
  else []

/-- A descriptor of READ FULL STATUS. -/
def fullDescriptor (item : Registrant) : List UInt8 := report.pfullData item ++ transportId item

/-- What the copy of a descriptor of READ FULL STATUS leaves behind it. -/
def fullTrail (item : Registrant) : List UInt8 := if item.isIscsi then [0] else []

/-- The descriptors of a report. -/
def descriptors : ReserveInAction → List (List UInt8)
  | .readKeys => report.registrants.map fun item => beBytes 8 item.registration.key
  | .readReservations => if report.reservation.isReserved then [pinData report.reservation] else []
  | .readFull => report.registrants.map report.fullDescriptor

end ReserveReport

/-- Size of a descriptor up to its transport identifier. -/
theorem ReserveReport.pfullData_length (report : ReserveReport) (item : Registrant) :
    (report.pfullData item).length = 24 := by
  unfold pfullData
  split <;> simp [bzero]

/-- Size of the part of a transport identifier in front of a name. -/
theorem Registrant.transportIdCommon_length (item : Registrant) :
    item.transportIdCommon.length = 4 := by
  simp [transportIdCommon]

/-- The size of a transport identifier is the one that is asked for, if 16 bits can say it. -/
theorem Registrant.transportSize_eq (item : Registrant)
    (short : (ReserveReport.transportId item).length < 2 ^ 16) :
    item.transportSize = (ReserveReport.transportId item).length := by
  unfold ReserveReport.transportId at short ⊢
  unfold transportSize
  split
  · rename_i iscsi
    rw [if_pos iscsi, List.length_append, transportIdCommon_length] at short
    rw [List.length_append, transportIdCommon_length, Nat.mod_eq_of_lt short]
  · split
    · unfold transportIdFc
      dsimp only
      split <;> simp [bzero]
    · split
      · simp [transportIdScsi, bzero]
      · rfl

/-- A transport identifier is stored with what trails it. -/
theorem Registrant.copyTransportId_eq (item : Registrant) (buffer : Buffer) {done : Nat}
    (short : done + (ReserveReport.transportId item).length < 2 ^ 16) :
    item.copyTransportId buffer done =
      buffer.write done (ReserveReport.transportId item ++ ReserveReport.fullTrail item) := by
  have isSize := item.transportSize_eq (by omega)
  unfold copyTransportId
  unfold ReserveReport.transportId ReserveReport.fullTrail at *
  split at isSize
  · rename_i iscsi
    simp only [if_pos iscsi, List.length_append, transportIdCommon_length] at short isSize ⊢
    have next := Buffer.write_append (buffer.write done (bzero item.transportSize)) done
      item.transportIdCommon (item.initName ++ [0])
    rw [transportIdCommon_length] at next
    rw [Nat.mod_eq_of_lt (by omega), ← next, Buffer.write_cover, List.append_assoc]
    simp only [bzero, List.length_replicate, List.length_append, transportIdCommon_length]
    omega
  · rename_i notIscsi
    simp only [if_neg notIscsi, List.append_nil]
    split at isSize
    · rename_i fc
      simp only [if_pos fc]
      exact Buffer.write_cover _ _ _ _ (by simp [bzero, isSize])
    · rename_i notFc
      simp only [if_neg notFc]
      split at isSize
      · rename_i isLocal
        simp only [if_pos isLocal]
        exact Buffer.write_cover _ _ _ _ (by simp [bzero, isSize])
      · rename_i notLocal
        simp only [if_neg notLocal, isSize, List.length_nil]
        rfl

/-- READ FULL STATUS copies its descriptors, each with what trails it. -/
theorem ReserveReport.copies_full (report : ReserveReport) {allocationLength : Nat}
    (small : allocationLength < 2 ^ 16) (item : Registrant)
    (short : (report.fullDescriptor item).length < 2 ^ 16) :
    Copies allocationLength Registrant.descSize
      (fun buffer done item =>
        item.copyTransportId (buffer.write done (report.pfullData item)) ((done + 24) % 2 ^ 16))
      report.fullDescriptor fullTrail item := by
  have isLength : (report.fullDescriptor item).length = 24 + (transportId item).length := by
    rw [fullDescriptor, List.length_append, report.pfullData_length]
  constructor
  · rw [Registrant.descSize, item.transportSize_eq (by omega), Nat.mod_eq_of_lt (by omega), isLength]
  · intro buffer done fits
    rw [Nat.mod_eq_of_lt (by omega), item.copyTransportId_eq _ (by omega), fullDescriptor,
      List.append_assoc, Buffer.write_append buffer done (report.pfullData item),
      report.pfullData_length]

/-- A descriptor is no longer than all of them together. -/
theorem length_le_flatten_map {α : Type} (descriptor : α → List UInt8) {items : List α} {item : α}
    (isItem : item ∈ items) :
    (descriptor item).length ≤ (items.map descriptor).flatten.length := by
  obtain ⟨front, back, rfl⟩ := List.append_of_mem isItem
  simp only [List.map_append, List.map_cons, List.flatten_append, List.flatten_cons,
    List.length_append]
  omega

/-- READ RESERVATION is as it should be when its descriptor ends where the returned bytes do. -/
theorem persistentReservationReadReservations_answers_iff {allocationLength : Nat}
    (report : ReserveReport) (stale : Nat → UInt8) (large : 8 ≤ allocationLength) :
    Answers report.reservation.generation allocationLength (report.descriptors .readReservations)
        (persistentReservationReadReservations allocationLength stale report) ↔
      EndsWhole allocationLength (report.descriptors .readReservations) := by
  have sixteen : (pinData report.reservation).length = 16 := by simp [pinData, bzero]
  have header : (reserveInBuffer allocationLength stale report.reservation).bytes 4 =
      beBytes 4 report.reservation.generation := by
    have stored := Buffer.bytes_write (Buffer.allocate allocationLength stale) 0
      (beBytes 4 report.reservation.generation)
    rw [beBytes_length] at stored
    exact stored
  have began : (reserveInBuffer allocationLength stale report.reservation).inside = true := by
    rw [reserveInBuffer, Buffer.write_inside _ _ _ (Nat.zero_le _), beBytes_length]
    exact ⟨rfl, Nat.le_trans (by decide) large⟩
  unfold persistentReservationReadReservations ReserveReport.descriptors
  by_cases reserved : report.reservation.isReserved = true
  · simp only [reserved, if_true]
    have total : [pinData report.reservation].flatten.length = 16 := by simp [sixteen]
    by_cases fits : 24 ≤ allocationLength
    · have all : fitting (allocationLength - 8) [pinData report.reservation] =
          [pinData report.reservation] := fitting_eq_self (by omega)
      rw [if_pos (by simp only [pinDataPointerSize]; omega)]
      rw [reserveInDone_answers_iff large (by omega) (by rw [total]) rfl
        ((Buffer.bytes_write_of_le _ _ _ _ (by decide)).trans header)
        ⟨_, by
          rw [all, List.flatten_singleton]
          exact Buffer.bytes_write _ 8 _, Buffer.bytes_length _ _⟩]
      refine and_iff_right ?_
      rw [Buffer.write_inside _ _ _ large, sixteen]
      exact ⟨began, fits⟩
    · have noRoom : fitting (allocationLength - 8) [pinData report.reservation] = [] := by
        rw [fitting, if_neg (by omega)]
      rw [reserveInDone_answers_iff large (by omega) (by rw [total])
        (by split <;> rfl) (by
          split
          · exact (Buffer.bytes_write_of_le _ _ _ _ (by decide)).trans header
          · exact header)
        ⟨_, by
          rw [noRoom]
          exact (List.append_nil _).symm, Buffer.bytes_length _ _⟩]
      refine and_iff_right_of_imp fun whole => ?_
      -- without room for the descriptor the buffer is the header alone, and nothing is copied
      have only : allocationLength = 8 := by
        rcases whole with fits | ends
        · omega
        · rw [noRoom] at ends
          exact ends.symm
      rw [if_neg (by simp only [pinDataPointerSize]; omega)]
      exact began
  · simp only [reserved, Bool.false_eq_true, if_false]
    rw [reserveInDone_answers_iff large (by simp) (by simp) rfl header
      ⟨_, (List.append_nil _).symm, Buffer.bytes_length _ _⟩]
    exact and_iff_right began

/-! ## Holders -/

/-- A registration holds the persistent reservation: every one of them when the reservation is for
all registrants, and otherwise that of the nexus that reserved. -/
def Reservation.HeldBy (reservation : Reservation) (registration : Registration) : Prop :=
  reservation.isReserved = true ∧ reservation.type = .persistent ∧
    (reservation.persistentType.isAr = true ∨ reservation.nexus = registration.nexus)

/-- The reservation is of a type the code knows, or no registrant holds it. -/
def ReserveReport.KnownType (report : ReserveReport) : Prop :=
  ∀ item ∈ report.registrants, report.reservation.HeldBy item.registration →
    ∀ code, report.reservation.persistentType ≠ .other code

/-- The byte of a descriptor that tells a holder. -/
theorem ReserveReport.fullDescriptor_holder (report : ReserveReport) (item : Registrant) :
    (report.fullDescriptor item)[12]? = some 1 ↔ report.marksHolder item = true := by
  have isByte : (report.fullDescriptor item)[12]? =
      some (if report.marksHolder item then 1 else 0) := by
    unfold fullDescriptor pfullData
    cases report.marksHolder item <;> simp [beBytes, bzero]
  rw [isByte]
  cases report.marksHolder item <;> simp

/-- A registrant is marked when it holds the reservation, unless the code does not know its type. -/
theorem ReserveReport.marksHolder_iff (report : ReserveReport) {item : Registrant}
    (isItem : item ∈ report.registrants) :
    report.marksHolder item = true ↔ report.reservation.HeldBy item.registration ∧
      ∀ code, report.reservation.persistentType ≠ .other code := by
  have registered : initiatorHasRegisteredAr report.reservation.registrationList
      item.registration.nexus = true := by
    rw [← report.named, initiatorHasRegisteredAr, List.any_eq_true]
    exact ⟨item.registration, List.mem_map_of_mem isItem, by simp⟩
  unfold marksHolder Reservation.isPersistentReservationHolder Reservation.HeldBy
  cases report.reservation.persistentType <;>
    simp [registered, PersistentType.isAr]

/-- The holders are marked when the code knows the type of the reservation. -/
theorem ReserveReport.holders_marked_iff (report : ReserveReport) :
    (∀ item ∈ report.registrants, (report.fullDescriptor item)[12]? = some 1 ↔
      report.reservation.HeldBy item.registration) ↔ report.KnownType := by
  constructor
  · intro marked item isItem held
    have isMarked := (marked item isItem).mpr held
    rw [fullDescriptor_holder, report.marksHolder_iff isItem] at isMarked
    exact isMarked.2
  · intro known item isItem
    rw [fullDescriptor_holder, report.marksHolder_iff isItem]
    exact and_iff_left_of_imp (known item isItem)

/-! ## The command -/

/-- A command reports what it should: it answers with the descriptors that fit, and a full report
marks those that hold the reservation. -/
structure ReportsWell (action : ReserveInAction) (allocationLength : Nat) (report : ReserveReport)
    (data : ReserveInData) : Prop where
  /-- The answer. -/
  answers : Answers report.reservation.generation allocationLength (report.descriptors action) data
  /-- The holders. -/
  holders : action = .readFull → ∀ item ∈ report.registrants,
    (report.fullDescriptor item)[12]? = some 1 ↔ report.reservation.HeldBy item.registration

/-- What a report needs to come out right. -/
structure Reportable (action : ReserveInAction) (allocationLength : Nat) (report : ReserveReport) :
    Prop where
  /-- A 16-bit number says how long the report is. -/
  short : 8 + (report.descriptors action).flatten.length < 2 ^ 16
  /-- A descriptor ends where the returned bytes do. -/
  whole : EndsWhole allocationLength (report.descriptors action)
  /-- The descriptor of no iSCSI initiator ends with the buffer. -/
  ended : action = .readFull → ∀ index item, report.registrants[index]? = some item →
    item.isIscsi = true → 8 + lengthThrough report.fullDescriptor report.registrants index ≠
      allocationLength
  /-- The code knows the type of the reservation. -/
  known : action = .readFull → report.KnownType

/-- A command reports what it should exactly when 16 bits can say how long the report is, the
returned bytes end with a descriptor and not with one whose name is copied into the last byte, and
the code knows the type of the reservation. -/
theorem cmdPersistentReserveIn_reports_iff (action : ReserveInAction) (report : ReserveReport)
    (stale : Nat → UInt8) (allocationLength : Nat) (large : 8 ≤ allocationLength)
    (small : allocationLength < 2 ^ 16) :
    ReportsWell action allocationLength report
        (cmdPersistentReserveIn action allocationLength stale report) ↔
      Reportable action allocationLength report := by
  cases action with
  | readKeys =>
    have answers : Answers report.reservation.generation allocationLength
        (report.descriptors .readKeys)
        (persistentReservationReadKeys allocationLength stale report) ↔ _ :=
      copyDescriptors_answers_iff (fun _ => []) report.reservation stale large
        (fun _ item _ => ⟨by simp, by simp⟩) (by simp)
    constructor
    · rintro ⟨isAnswer, -⟩
      obtain ⟨short, whole, -⟩ := answers.mp isAnswer
      exact ⟨short, whole, by simp, by simp⟩
    · rintro ⟨short, whole, -, -⟩
      exact ⟨answers.mpr ⟨short, whole, by simp⟩, by simp⟩
  | readReservations =>
    have answers := persistentReservationReadReservations_answers_iff report stale large
    have short : 8 + (report.descriptors .readReservations).flatten.length < 2 ^ 16 := by
      rw [ReserveReport.descriptors]
      split <;> simp [pinData, bzero]
    constructor
    · rintro ⟨isAnswer, -⟩
      exact ⟨short, answers.mp isAnswer, by simp, by simp⟩
    · rintro ⟨-, whole, -, -⟩
      exact ⟨answers.mpr whole, by simp⟩
  | readFull =>
    have answers : Answers report.reservation.generation allocationLength
        (report.descriptors .readFull)
        (persistentReservationReadFull allocationLength stale report) ↔ _ :=
      copyDescriptors_answers_iff ReserveReport.fullTrail report.reservation stale large
        (fun short item isItem => report.copies_full small item (by
          have part := length_le_flatten_map report.fullDescriptor isItem
          omega))
        (fun item _ => by
          unfold ReserveReport.fullTrail
          split <;> simp)
    have trails : ∀ item : Registrant, ReserveReport.fullTrail item ≠ [] ↔ item.isIscsi = true := by
      intro item
      unfold ReserveReport.fullTrail
      split <;> simp_all
    simp only [trails] at answers
    constructor
    · rintro ⟨isAnswer, marked⟩
      obtain ⟨short, whole, clear⟩ := answers.mp isAnswer
      exact ⟨short, whole, fun _ => clear, fun _ => report.holders_marked_iff.mp (marked rfl)⟩
    · rintro ⟨short, whole, ended, known⟩
      exact ⟨answers.mpr ⟨short, whole, ended rfl⟩,
        fun _ => report.holders_marked_iff.mpr (known rfl)⟩

/-- A device that one local initiator and one iSCSI initiator named `abcd` have registered with, and
that the local one has reserved for itself. -/
def sampleReport : ReserveReport where
  reservation :=
    { Reservation.initial with
      generation := 2
      isReserved := true
      type := .persistent
      persistentType := .writeExclusive
      persistentKey := 7
      nexus := ⟨(1, 0), (3, 0), targetIntLocal⟩
      registrationList :=
        [⟨7, ⟨(1, 0), (3, 0), targetIntLocal⟩⟩, ⟨9, ⟨(2, 0), (3, 0), targetIntIscsi⟩⟩] }
  rPrt := 0
  registrants :=
    [⟨⟨7, ⟨(1, 0), (3, 0), targetIntLocal⟩⟩, []⟩,
      ⟨⟨9, ⟨(2, 0), (3, 0), targetIntIscsi⟩⟩, [97, 98, 99, 100]⟩]
  named := rfl

/-- With room to spare all of the sample is reported. -/
theorem cmdPersistentReserveIn_reports_sample :
    ReportsWell .readFull 96 sampleReport
      (cmdPersistentReserveIn .readFull 96 (fun _ => 0) sampleReport) := by
  refine (cmdPersistentReserveIn_reports_iff .readFull sampleReport _ 96 (by decide)
    (by decide)).mpr ⟨by decide, Or.inl (by decide), fun _ index item isItem _ => ?_,
      fun _ item _ _ code => by simp [sampleReport]⟩
  rcases index with _ | _ | index
  · decide
  · decide
  · simp [sampleReport] at isItem

/-- A buffer of 20 bytes is overrun by the descriptor of a reservation, one of 88 bytes by the end of
a name, and one of 12 bytes is returned with four bytes nothing was stored in. -/
theorem cmdPersistentReserveIn_overruns :
    (cmdPersistentReserveIn .readReservations 20 (fun _ => 0) sampleReport).buffer.inside = false ∧
      (cmdPersistentReserveIn .readFull 88 (fun _ => 0) sampleReport).buffer.inside = false ∧
      (cmdPersistentReserveIn .readKeys 12 (fun _ => 0xAA) sampleReport).dxferLen = 12 ∧
      (cmdPersistentReserveIn .readKeys 12 (fun _ => 0xAA) sampleReport).buffer.bytes 12 =
        [0, 0, 0, 2, 0, 0, 0, 16, 0xAA, 0xAA, 0xAA, 0xAA] := by
  decide +kernel

end VirtualTape
