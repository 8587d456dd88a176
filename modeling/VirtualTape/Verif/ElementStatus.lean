import VirtualTape.Core.ElementStatus

/-!
# What READ ELEMENT STATUS reports

The report of a request is a status header and a page for each type of which elements are wanted. The
buffer is filled from its beginning, so what it holds is the report cut off where the room ends; a
page whose header has no room is left out. The one store that does not keep to the room is that of
an alternate volume tag.
-/

namespace VirtualTape

/-! ## Descriptors -/

/-- The first bytes of memory are as many as asked for. -/
@[simp]
theorem firstBytes_length (memory : Nat → UInt8) (count : Nat) :
    (firstBytes memory count).length = count := by
  simp [firstBytes]

/-- More of the same memory. -/
theorem firstBytes_add (memory : Nat → UInt8) (count more : Nat) :
    firstBytes memory (count + more) =
      firstBytes memory count ++ firstBytes (fun index => memory (count + index)) more := by
  simp [firstBytes, List.range_add, Function.comp_def]

/-- The common part of a descriptor has its size. -/
@[simp]
theorem StatusElement.common_length (element : StatusElement) :
    element.common.length = elementDescriptorCommonSize := by
  simp [common, elementDescriptorCommonSize]

/-- The alternate volume tag of an element. -/
def StatusElement.avoltagBytes (element : StatusElement) : List UInt8 :=
  List.replicate 4 0 ++ firstBytes element.serialNumber 32

/-- An alternate volume tag has the size of a volume tag. -/
@[simp]
theorem StatusElement.avoltagBytes_length (element : StatusElement) :
    element.avoltagBytes.length = voltagSize := by
  simp [avoltagBytes, voltagSize]

namespace PageFormat

variable {format : PageFormat}

/-- The identifier of an element, as many bytes of it as there is room for. -/
def identifierBytes (format : PageFormat) (element : StatusElement) (count : Nat) : List UInt8 :=
  if !format.dvcid || format.elementType != .dataTransfer then List.replicate count 0
  else if format.emlSeries && decide (identifierSize ≤ count) then
    (firstBytes element.identifier count).set 3
      (element.identifier 3 + UInt8.ofNat vhpEmlSeriesIdIncr)
  else firstBytes element.identifier count

/-- The identifier is as long as asked for. -/
@[simp]
theorem identifierBytes_length (format : PageFormat) (element : StatusElement) (count : Nat) :
    (format.identifierBytes element count).length = count := by
  unfold identifierBytes
  split
  · simp
  · split <;> simp

/-- The descriptor in front of the alternate volume tag. -/
def statusBytes (format : PageFormat) (element : StatusElement) : List UInt8 :=
  element.common ++ if format.voltag then firstBytes element.voltag voltagSize else []

/-- The descriptor in front of the identifier. -/
def frontBytes (format : PageFormat) (element : StatusElement) : List UInt8 :=
  format.statusBytes element ++ if format.avoltagLen = 0 then [] else element.avoltagBytes

/-- The descriptor of an element, as much of it as there is room for. -/
def shown (format : PageFormat) (room : Nat) (element : StatusElement) : List UInt8 :=
  (format.frontBytes element).take room ++ format.identifierBytes element
    (min (room - (format.frontBytes element).length) format.idlength)

/-- The alternate volume tag is stored outside the room. -/
def Overruns (format : PageFormat) (room : Nat) : Prop :=
  format.avoltagLen ≠ 0 ∧ elementDescriptorCommonSize + voltagSize + 4 < room ∧
    room < elementDescriptorCommonSize + voltagSize + 40

/-- What `read_element_status` makes sure of. -/
structure Regular (format : PageFormat) : Prop where
  /-- An identifier has its header. -/
  identifier : deviceIdentifierSize ≤ format.idlength
  /-- An alternate volume tag comes behind a volume tag. -/
  avoltag : format.avoltagLen = 0 ∨ format.avoltagLen = voltagSize ∧ format.voltag = true

/-- The part in front of the alternate volume tag has its size. -/
theorem statusBytes_length (format : PageFormat) (element : StatusElement) :
    (format.statusBytes element).length =
      elementDescriptorCommonSize + if format.voltag then voltagSize else 0 := by
  unfold statusBytes
  split <;> simp

/-- The part in front of the identifier has its size. -/
theorem frontBytes_length (regular : format.Regular) (element : StatusElement) :
    (format.frontBytes element).length + format.idlength = format.descriptorLength := by
  rw [frontBytes, List.length_append, statusBytes_length, descriptorLength]
  rcases regular.avoltag with none | ⟨isSize, -⟩
  · rw [if_pos none, none, List.length_nil]
    omega
  · have isSome : voltagSize ≠ 0 := by simp [voltagSize]
    simp only [isSize, if_neg isSome, StatusElement.avoltagBytes_length]
    omega

/-- As much of a descriptor is shown as there is room for. -/
theorem shown_length (regular : format.Regular) (room : Nat) (element : StatusElement) :
    (format.shown room element).length = min room format.descriptorLength := by
  have whole := frontBytes_length regular element
  rw [shown, List.length_append, List.length_take, identifierBytes_length]
  omega

/-- Parts one behind the other are cut off where both together are. -/
theorem take_append_take {first second : List UInt8} {content : List UInt8} {size : Nat}
    (fits : content.length ≤ size) :
    content ++ first.take (size - content.length) ++
        second.take (size - (content ++ first.take (size - content.length)).length) =
      content ++ (first ++ second).take (size - content.length) := by
  rw [List.append_assoc, List.take_append, List.length_append, List.length_take]
  congr 3
  omega

/-- To copy the status of an element fills the buffer with it. -/
theorem elementDescriptorCopyStatus_filled {buffer : Buffer} {content : List UInt8} {ok : Prop}
    (element : StatusElement) (filled : buffer.Filled format.allocLen content ok) :
    (format.elementDescriptorCopyStatus element (buffer, content.length)).1.Filled format.allocLen
        (content ++ (format.statusBytes element).take (format.allocLen - content.length)) ok ∧
      (format.elementDescriptorCopyStatus element (buffer, content.length)).2 =
        (content ++ (format.statusBytes element).take (format.allocLen - content.length)).length := by
  have first := filled.copyPart element.common
  unfold elementDescriptorCopyStatus statusBytes
  dsimp only
  split
  · rw [← take_append_take filled.fits]
    have place : Buffer.copyPart format.allocLen element.common (buffer, content.length) =
        ((Buffer.copyPart format.allocLen element.common (buffer, content.length)).1,
          (content ++ element.common.take (format.allocLen - content.length)).length) :=
      Prod.ext rfl first.2
    rw [place]
    exact first.1.copyPart _
  · rw [List.append_nil]
    exact first

/-- To copy an identifier is to store its bytes. -/
theorem copyIdentifier_eq (format : PageFormat) (element : StatusElement) (buffer : Buffer)
    (offset minLen : Nat) :
    format.copyIdentifier element buffer offset minLen =
      buffer.write offset (format.identifierBytes element minLen) := by
  unfold copyIdentifier identifierBytes
  dsimp only
  split
  · rfl
  · rw [Buffer.write_cover _ _ _ _ (by simp)]
    split
    · rename_i isEml
      have large : 132 ≤ minLen := of_decide_eq_true (Bool.and_eq_true_iff.mp isEml).2
      exact Buffer.write_set _ _ _ (by simp only [firstBytes_length]; omega) _
    · rfl

/-- An alternate volume tag that has room, with four bytes more, and what covers those. -/
theorem copyAvoltag_cover (element : StatusElement) (buffer : Buffer) (offset : Nat)
    {cover : List UInt8} (longer : 4 ≤ cover.length) :
    (copyAvoltag element buffer offset voltagSize).write (offset + voltagSize) cover =
      (buffer.write offset element.avoltagBytes).write (offset + voltagSize) cover := by
  have zeros : List.replicate voltagSize (0 : UInt8) = List.replicate 4 0 ++ List.replicate 32 0 := rfl
  have serial : firstBytes element.serialNumber voltagSize = firstBytes element.serialNumber 32 ++
      firstBytes (fun index => element.serialNumber (32 + index)) 4 :=
    firstBytes_add element.serialNumber 32 4
  have isStored : copyAvoltag element buffer offset voltagSize =
      (buffer.write offset element.avoltagBytes).write (offset + voltagSize)
        (firstBytes (fun index => element.serialNumber (32 + index)) 4) := by
    unfold copyAvoltag
    dsimp only
    rw [if_pos (by simp [voltagSize]), zeros, serial, Buffer.write_append buffer, List.length_replicate,
      Buffer.write_append, Buffer.write_cover _ _ _ _ (by simp), StatusElement.avoltagBytes,
      Buffer.write_append buffer, List.length_replicate, firstBytes_length]
    rfl
  rw [isStored, Buffer.write_cover _ _ _ _ (by simpa using longer)]

/-- A descriptor is not copied where there is no room. -/
theorem elementDescriptor_full (element : StatusElement) {place : Buffer × Nat}
    (full : format.allocLen ≤ place.2) : format.elementDescriptor element place = place := by
  have none : format.allocLen - place.2 = 0 := by omega
  have status : format.elementDescriptorCopyStatus element place = place := by
    unfold elementDescriptorCopyStatus
    dsimp only
    rw [Buffer.copyPart_full _ full]
    split
    · exact Buffer.copyPart_full _ full
    · rfl
  have avoltag : format.avoltagPart element place = place := by
    simp [avoltagPart, none]
  rw [elementDescriptor, status, avoltag]
  simp [identifierPart, none]

/-- The identifier of an element, as far as there is room. -/
theorem identifierPart_filled {buffer : Buffer} {content : List UInt8} {ok : Prop}
    (element : StatusElement) (filled : buffer.Filled format.allocLen content ok) :
    (format.identifierPart element (buffer, content.length)).1.Filled format.allocLen
        (content ++ format.identifierBytes element
          (min (format.allocLen - content.length) format.idlength)) ok ∧
      (format.identifierPart element (buffer, content.length)).2 =
        (content ++ format.identifierBytes element
          (min (format.allocLen - content.length) format.idlength)).length := by
  have room := filled.fits
  simp only [identifierPart, List.length_append, identifierBytes_length]
  split
  · rw [copyIdentifier_eq]
    exact ⟨filled.write (by rw [identifierBytes_length]; omega), rfl⟩
  · rename_i none
    have nothing : format.identifierBytes element
        (min (format.allocLen - content.length) format.idlength) = [] := by
      rw [← List.length_eq_zero_iff, identifierBytes_length]
      omega
    rw [nothing, List.append_nil]
    exact ⟨filled, by omega⟩

section Avoltag

variable {buffer : Buffer} {content : List UInt8} {ok : Prop} (element : StatusElement)

/-- An alternate volume tag without room for it and four bytes more is stored outside, unless it has
no room for more than the zeros in front of the serial number. -/
theorem avoltagPart_short (filled : buffer.Filled format.allocLen content ok)
    (some : format.avoltagLen ≠ 0) (short : format.allocLen - content.length < 40) :
    (format.avoltagPart element (buffer, content.length)).1.Filled format.allocLen
        (content ++ element.avoltagBytes.take (format.allocLen - content.length))
        (ok ∧ ¬4 < format.allocLen - content.length) ∧
      (format.avoltagPart element (buffer, content.length)).2 =
        (content ++ element.avoltagBytes.take (format.allocLen - content.length)).length := by
  have fits := filled.fits
  have isSize : voltagSize = 36 := rfl
  have isLength : (content ++ element.avoltagBytes.take
      (format.allocLen - content.length)).length =
        content.length + min (format.allocLen - content.length) voltagSize := by
    rw [List.length_append, List.length_take, StatusElement.avoltagBytes_length]
  rw [isLength]
  simp only [avoltagPart, if_neg some, copyAvoltag]
  rcases Nat.lt_or_ge 4 (format.allocLen - content.length) with more | few
  · simp only [if_pos (show 0 < min (format.allocLen - content.length) voltagSize by omega),
      if_pos (show 4 < min (format.allocLen - content.length) voltagSize by omega), and_true]
    have zeros := @Buffer.Filled.write _ _ _ _ filled
      (List.replicate (min (format.allocLen - content.length) voltagSize) 0)
      (by rw [List.length_replicate]; omega)
    refine (zeros.write_outside ?_ ?_ ?_).congr (by simp [more])
    · exact List.ne_nil_of_length_pos (by rw [firstBytes_length]; omega)
    · rw [firstBytes_length]
      omega
    · rw [isLength]
      omega
  · have isZeros : element.avoltagBytes.take (format.allocLen - content.length) =
        List.replicate (format.allocLen - content.length) 0 := by
      rw [StatusElement.avoltagBytes, List.take_append_of_le_length (by simpa using few),
        List.take_replicate, Nat.min_eq_left few]
    simp only [if_neg (show ¬4 < min (format.allocLen - content.length) voltagSize by omega)]
    rw [isZeros, Nat.min_eq_left (by omega)]
    split
    · refine ⟨?_, rfl⟩
      exact (filled.write (by rw [List.length_replicate]; omega)).congr (by simp [Nat.not_lt.mpr few])
    · rename_i none
      have full : format.allocLen - content.length = 0 := by omega
      rw [full, List.replicate_zero, List.append_nil]
      exact ⟨filled.congr (by simp), rfl⟩

/-- With room for four bytes more, these are covered by the identifier. -/
theorem avoltagPart_whole (regular : format.Regular) (some : format.avoltagLen ≠ 0)
    (enough : 40 ≤ format.allocLen - content.length) :
    format.identifierPart element (format.avoltagPart element (buffer, content.length)) =
      format.identifierPart element (buffer.write content.length element.avoltagBytes,
        (content ++ element.avoltagBytes).length) := by
  have isSize : voltagSize = 36 := rfl
  have hasId := regular.identifier
  have isWhole : min (format.allocLen - content.length) voltagSize = voltagSize := by omega
  simp only [deviceIdentifierSize] at hasId
  simp only [avoltagPart, if_neg some, isWhole, List.length_append,
    StatusElement.avoltagBytes_length, if_pos (show 0 < voltagSize by omega), identifierPart]
  rw [if_pos (by omega), if_pos (by omega), copyIdentifier_eq, copyIdentifier_eq,
    copyAvoltag_cover element buffer content.length (by rw [identifierBytes_length]; omega)]

/-- An alternate volume tag and an identifier, as far as there is room. -/
theorem avoltagPart_filled (regular : format.Regular) (some : format.avoltagLen ≠ 0)
    (filled : buffer.Filled format.allocLen content ok) {front : List UInt8}
    (isFront : front = content ++ element.avoltagBytes.take (format.allocLen - content.length)) :
    (format.identifierPart element
          (format.avoltagPart element (buffer, content.length))).1.Filled format.allocLen
        (front ++ format.identifierBytes element
          (min (format.allocLen - front.length) format.idlength))
        (ok ∧ ¬(4 < format.allocLen - content.length ∧ format.allocLen - content.length < 40)) ∧
      (format.identifierPart element (format.avoltagPart element (buffer, content.length))).2 =
        (front ++ format.identifierBytes element
          (min (format.allocLen - front.length) format.idlength)).length := by
  rcases Nat.lt_or_ge (format.allocLen - content.length) 40 with short | enough
  · obtain ⟨tagFilled, tagEnd⟩ := avoltagPart_short element filled some short
    obtain ⟨⟨second, offset⟩, isSecond⟩ :
      ∃ place, format.avoltagPart element (buffer, content.length) = place := ⟨_, rfl⟩
    rw [isSecond] at tagFilled tagEnd ⊢
    dsimp only at tagFilled tagEnd
    rw [← isFront] at tagFilled tagEnd
    subst tagEnd
    obtain ⟨isFilled, isEnd⟩ := identifierPart_filled element tagFilled
    exact ⟨isFilled.congr (by simp only [short, and_true]), isEnd⟩
  · have isWhole : element.avoltagBytes.take (format.allocLen - content.length) =
        element.avoltagBytes :=
      List.take_of_length_le (by
        rw [StatusElement.avoltagBytes_length]
        simp only [voltagSize]
        omega)
    rw [isWhole] at isFront
    subst isFront
    rw [avoltagPart_whole element regular some enough]
    have tagFilled := @Buffer.Filled.write _ _ _ _ filled element.avoltagBytes (by
      rw [StatusElement.avoltagBytes_length]
      simp only [voltagSize]
      omega)
    obtain ⟨isFilled, isEnd⟩ := identifierPart_filled element tagFilled
    exact ⟨isFilled.congr (by simp [Nat.not_lt.mpr enough]), isEnd⟩

/-- The descriptor of an element fills the buffer as far as there is room, but for an alternate
volume tag that overruns it. -/
theorem elementDescriptor_filled (regular : format.Regular)
    (filled : buffer.Filled format.allocLen content ok) :
    (format.elementDescriptor element (buffer, content.length)).1.Filled format.allocLen
        (content ++ format.shown (format.allocLen - content.length) element)
        (ok ∧ ¬format.Overruns (format.allocLen - content.length)) ∧
      (format.elementDescriptor element (buffer, content.length)).2 =
        (content ++ format.shown (format.allocLen - content.length) element).length := by
  have fits := filled.fits
  obtain ⟨status, isOffset⟩ := elementDescriptorCopyStatus_filled element filled
  obtain ⟨⟨first, offset⟩, isPlace⟩ :
      ∃ place, format.elementDescriptorCopyStatus element (buffer, content.length) = place := ⟨_, rfl⟩
  rw [isPlace] at status isOffset
  dsimp only at status isOffset
  subst isOffset
  have isShown : ∀ front, front = content ++ (format.frontBytes element).take
        (format.allocLen - content.length) →
      content ++ format.shown (format.allocLen - content.length) element =
        front ++ format.identifierBytes element
          (min (format.allocLen - front.length) format.idlength) := by
    rintro front rfl
    rw [shown, List.append_assoc, List.length_append, List.length_take]
    congr 4
    omega
  rw [elementDescriptor, isPlace]
  by_cases none : format.avoltagLen = 0
  · have isFront : format.frontBytes element = format.statusBytes element := by
      rw [frontBytes, if_pos none, List.append_nil]
    rw [isShown _ (by rw [isFront]), avoltagPart, if_pos none]
    obtain ⟨isFilled, isEnd⟩ := identifierPart_filled element status
    exact ⟨isFilled.congr (by simp [Overruns, none]), isEnd⟩
  · have withTag := regular.avoltag.resolve_left none
    have isFront : format.frontBytes element =
        format.statusBytes element ++ element.avoltagBytes := by
      rw [frontBytes, if_neg none]
    have statusLength := format.statusBytes_length element
    rw [if_pos withTag.2] at statusLength
    rw [isShown _ (by rw [isFront, ← take_append_take fits])]
    obtain ⟨isFilled, isEnd⟩ := avoltagPart_filled element regular none status rfl
    refine ⟨isFilled.congr ?_, isEnd⟩
    rw [List.length_append, List.length_take, statusLength, Overruns]
    simp only [elementDescriptorCommonSize, voltagSize]
    refine and_congr_right fun _ => not_congr ?_
    omega

end Avoltag

end PageFormat

/-! ## Elements that follow each other -/

/-- Elements with the addresses from one on. -/
def AddressedFrom (address : Nat) (elements : List StatusElement) : Prop :=
  ∀ (index : Nat) (element : StatusElement), elements[index]? = some element →
    element.address = address + index ∧ address + index < 2 ^ 16

namespace AddressedFrom

variable {address : Nat} {element : StatusElement} {elements : List StatusElement}

/-- The first element has the address. -/
theorem head (addressed : AddressedFrom address (element :: elements)) :
    element.address = address ∧ address < 2 ^ 16 :=
  addressed 0 element rfl

/-- The others follow. -/
theorem tail (addressed : AddressedFrom address (element :: elements)) :
    AddressedFrom (address + 1) elements := by
  intro index other isOther
  have isAddress := addressed (index + 1) other (by simpa using isOther)
  omega

/-- Elements from a place on. -/
theorem drop (addressed : AddressedFrom address elements) (count : Nat) :
    AddressedFrom (address + count) (elements.drop count) := by
  intro index other isOther
  rw [List.getElem?_drop] at isOther
  have isAddress := addressed (count + index) other isOther
  omega

/-- Elements up to a place. -/
theorem take (addressed : AddressedFrom address elements) (count : Nat) :
    AddressedFrom address (elements.take count) := by
  intro index other isOther
  rw [List.getElem?_take] at isOther
  split at isOther
  · exact addressed index other isOther
  · cases isOther

/-- The elements from an address on are those from a place on. -/
theorem filter_eq (addressed : AddressedFrom address elements) (start : Nat) :
    elements.filter (fun element => decide (start ≤ element.address)) =
      elements.drop (start - address) := by
  induction elements generalizing address with
  | nil => simp
  | cons element rest ih =>
    have isAddress := addressed.head.1
    have isRest := ih addressed.tail
    rcases Nat.lt_or_ge address start with before | behind
    · rw [List.filter_cons_of_neg (by simp; omega), isRest,
        show start - address = start - (address + 1) + 1 by omega, List.drop_succ_cons]
    · rw [List.filter_cons_of_pos (by simp; omega), isRest,
        show start - address = 0 by omega, show start - (address + 1) = 0 by omega, List.drop_zero,
        List.drop_zero]

/-- They are in order. -/
theorem mergeSort_eq (addressed : AddressedFrom address elements) :
    elements.mergeSort (fun first second => decide (first.address ≤ second.address)) = elements := by
  refine List.mergeSort_of_pairwise ?_
  rw [List.pairwise_iff_getElem]
  intro first second firstBound secondBound less
  have isFirst := (addressed first _ (List.getElem?_eq_getElem firstBound)).1
  have isSecond := (addressed second _ (List.getElem?_eq_getElem secondBound)).1
  rw [isFirst, isSecond]
  simp
  omega

end AddressedFrom

/-! ## Pages -/

namespace PageFormat

variable {format : PageFormat}

/-- Descriptors one behind the other, as much of them as there is room for. -/
def shownAll (format : PageFormat) : Nat → List StatusElement → List UInt8
  | _, [] => []
  | room, element :: rest =>
    format.shown room element ++ format.shownAll (room - format.descriptorLength) rest

/-- One of so many descriptors has an alternate volume tag that is stored outside. -/
def OverrunsAny (format : PageFormat) (room count : Nat) : Prop :=
  ∃ index < count, format.Overruns (room - index * format.descriptorLength)

/-- As much is shown as there is room for. -/
theorem shownAll_length (regular : format.Regular) (room : Nat) (elements : List StatusElement) :
    (format.shownAll room elements).length =
      min room (elements.length * format.descriptorLength) := by
  induction elements generalizing room with
  | nil => simp [shownAll]
  | cons element rest ih =>
    rw [shownAll, List.length_append, shown_length regular, ih, List.length_cons, Nat.add_mul,
      Nat.one_mul]
    omega

/-- The first descriptor or a later one. -/
theorem overrunsAny_succ (format : PageFormat) (room count : Nat) :
    format.OverrunsAny room (count + 1) ↔
      format.Overruns room ∨ format.OverrunsAny (room - format.descriptorLength) count := by
  constructor
  · rintro ⟨index, bound, overruns⟩
    cases index with
    | zero => exact Or.inl (by simpa using overruns)
    | succ index =>
      refine Or.inr ⟨index, by omega, ?_⟩
      rwa [Nat.sub_sub, Nat.add_comm, ← Nat.succ_mul]
  · rintro (overruns | ⟨index, bound, overruns⟩)
    · exact ⟨0, by omega, by simpa using overruns⟩
    · refine ⟨index + 1, by omega, ?_⟩
      rwa [Nat.sub_sub, Nat.add_comm, ← Nat.succ_mul] at overruns

/-- After a report the next address is expected. -/
theorem report_addressed (format : PageFormat) {element : StatusElement}
    {rest : List StatusElement} {loop : StatusLoop}
    (addressed : AddressedFrom loop.currentAddress (element :: rest)) :
    AddressedFrom (format.report element loop).currentAddress rest := by
  have next : (format.report element loop).currentAddress =
      (loop.currentAddress + 1) % 2 ^ 16 := rfl
  rw [next]
  rcases Nat.lt_or_ge (loop.currentAddress + 1) (2 ^ 16) with less | wraps
  · rw [Nat.mod_eq_of_lt less]
    exact addressed.tail
  · intro index other isOther
    have bound := (addressed.tail index other isOther).2
    omega

/-- Elements that follow each other are reported one after the other. -/
theorem reportAll_eq (format : PageFormat) (left : Nat) {elements : List StatusElement}
    {loop : StatusLoop} (addressed : AddressedFrom loop.currentAddress elements) :
    format.reportAll left elements loop =
      (elements.take left).foldl (fun loop element => format.report element loop) loop := by
  induction left generalizing elements loop with
  | zero => cases elements <;> rfl
  | succ left ih =>
    cases elements with
    | nil => rfl
    | cons element rest =>
      rw [reportAll, if_pos addressed.head.1, List.take_succ_cons, List.foldl_cons]
      exact ih (format.report_addressed addressed)

/-- What is counted. -/
theorem report_counts (format : PageFormat) (elements : List StatusElement) (loop : StatusLoop) :
    (elements.foldl (fun loop element => format.report element loop) loop).numElementsRead =
        loop.numElementsRead + elements.length ∧
      (elements.foldl (fun loop element => format.report element loop) loop).byteCount =
        loop.byteCount + elements.length * format.descriptorLength := by
  induction elements generalizing loop with
  | nil => simp
  | cons element rest ih =>
    obtain ⟨isRead, isCount⟩ := ih (format.report element loop)
    rw [List.foldl_cons, isRead, isCount, List.length_cons, Nat.add_mul]
    simp only [report]
    omega

/-- A report of elements that follow each other fills the buffer. -/
theorem report_filled (regular : format.Regular) {elements : List StatusElement}
    {loop : StatusLoop} (addressed : AddressedFrom loop.currentAddress elements)
    {content : List UInt8} {ok : Prop} (filled : loop.buffer.Filled format.allocLen content ok)
    (isOffset : loop.offset = content.length) :
    (elements.foldl (fun loop element => format.report element loop) loop).buffer.Filled
        format.allocLen (content ++ format.shownAll (format.allocLen - content.length) elements)
        (ok ∧ ¬format.OverrunsAny (format.allocLen - content.length) elements.length) ∧
      (elements.foldl (fun loop element => format.report element loop) loop).offset =
        (content ++ format.shownAll (format.allocLen - content.length) elements).length := by
  induction elements generalizing loop content ok with
  | nil =>
    rw [shownAll, List.append_nil]
    exact ⟨filled.congr (by simp [OverrunsAny]), isOffset⟩
  | cons element rest ih =>
    obtain ⟨isFilled, isEnd⟩ := elementDescriptor_filled element regular filled
    have isReport : (format.report element loop).buffer =
          (format.elementDescriptor element (loop.buffer, content.length)).1 ∧
        (format.report element loop).offset =
          (format.elementDescriptor element (loop.buffer, content.length)).2 := by
      simp only [report, if_pos addressed.head.1, isOffset, and_self]
    have isRoom : format.allocLen - (content ++ format.shown (format.allocLen - content.length)
        element).length = format.allocLen - content.length - format.descriptorLength := by
      rw [List.length_append, shown_length regular]
      omega
    obtain ⟨isRest, isLast⟩ := ih (format.report_addressed addressed) (isReport.1 ▸ isFilled)
      (isReport.2.trans isEnd)
    rw [isRoom, List.append_assoc] at isRest isLast
    rw [List.foldl_cons, shownAll]
    refine ⟨isRest.congr ?_, isLast⟩
    rw [List.length_cons, overrunsAny_succ]
    tauto

/-- Where there is no room nothing is reported. -/
theorem report_full (format : PageFormat) {elements : List StatusElement} {loop : StatusLoop}
    (addressed : AddressedFrom loop.currentAddress elements)
    (full : format.allocLen ≤ loop.offset) :
    (elements.foldl (fun loop element => format.report element loop) loop).buffer =
      loop.buffer := by
  induction elements generalizing loop with
  | nil => rfl
  | cons element rest ih =>
    have isReport : format.elementDescriptor element (loop.buffer, loop.offset) =
        (loop.buffer, loop.offset) := elementDescriptor_full element full
    have isPlace : (format.report element loop).buffer = loop.buffer ∧
        (format.report element loop).offset = loop.offset := by
      simp only [report, if_pos addressed.head.1, isReport, and_self]
    rw [List.foldl_cons, ih (format.report_addressed addressed) (by rw [isPlace.2]; exact full),
      isPlace.1]

/-- A page, as much of it as there is room for; it is left out without room for its header. -/
def pageShown (format : PageFormat) (room : Nat) (elements : List StatusElement) : List UInt8 :=
  if elements = [] ∨ room < elementStatusSize then []
  else format.pageHeader (elements.length * format.descriptorLength) ++
    format.shownAll (room - elementStatusSize) elements

/-- A page has an alternate volume tag that is stored outside. -/
def PageOverruns (format : PageFormat) (room count : Nat) : Prop :=
  elementStatusSize ≤ room ∧ format.OverrunsAny (room - elementStatusSize) count

/-- Bytes of a page without a bound. -/
def pageLength (format : PageFormat) (elements : List StatusElement) : Nat :=
  if elements = [] then 0
  else elementStatusSize + elements.length * format.descriptorLength

/-- A page header has its size. -/
theorem pageHeader_length (format : PageFormat) (byteCount : Nat) :
    (format.pageHeader byteCount).length = elementStatusSize := by
  simp [pageHeader, elementStatusSize]

end PageFormat

/-! ## The command -/

section Command

variable (library : ElementLibrary) (request : StatusRequest)

/-- The elements of a type that are asked for, in the order of their addresses. -/
def wantedElements (type : ElementType) : List StatusElement :=
  if request.asks type then
    ((library.elements type).filter fun element =>
      decide (request.startElementAddress ≤ element.address)).mergeSort
        fun first second => decide (first.address ≤ second.address)
  else []

/-- The addresses of a type have room in two bytes. -/
def ElementLibrary.Addressable (type : ElementType) : Prop :=
  type.startAddress + (library.elements type).length ≤ 2 ^ 16

/-- The formats of the pages are regular. -/
theorem pageFormat_regular (type : ElementType) : (pageFormat library request type).Regular := by
  constructor
  · simp only [pageFormat]
    split <;> omega
  · simp only [pageFormat]
    split
    · rename_i withTag
      simp only [Bool.and_eq_true] at withTag
      exact Or.inr ⟨rfl, withTag.1.1⟩
    · exact Or.inl rfl

variable {library request}

/-- The elements of an addressable type follow each other. -/
theorem ElementLibrary.Addressable.addressed {type : ElementType}
    (addressable : library.Addressable type) :
    AddressedFrom type.startAddress (library.elements type) := by
  intro index element isElement
  have bound := (List.getElem?_eq_some_iff.mp isElement).1
  unfold Addressable at addressable
  rw [library.addressed type index element isElement]
  omega

/-- The elements that are not passed over are those from the starting address on. -/
theorem ElementLibrary.Addressable.reported {type : ElementType}
    (addressable : library.Addressable type) (start : Nat) :
    (library.elements type).filter (fun element => !element.skipped type start) =
      (library.elements type).drop (start - type.startAddress) := by
  rw [← addressable.addressed.filter_eq start]
  refine List.filter_congr fun element isElement => ?_
  obtain ⟨index, isElement⟩ := List.mem_iff_getElem?.mp isElement
  have isAddress := (addressable.addressed index element isElement).1
  have notSkipped : (element.address == 0 && type != .mediumTransport) = false := by
    cases type with
    | mediumTransport => simp
    | _ =>
      simp only [ElementType.startAddress] at isAddress
      simp
      omega
  rw [StatusElement.skipped, notSkipped, Bool.false_or, ← decide_not, decide_eq_decide]
  omega

/-- The elements that are wanted are those from a place on. -/
theorem ElementLibrary.Addressable.wanted {type : ElementType}
    (addressable : library.Addressable type) (asked : request.asks type = true) :
    wantedElements library request type =
      (library.elements type).drop (request.startElementAddress - type.startAddress) := by
  rw [wantedElements, if_pos asked, addressable.addressed.filter_eq]
  exact (addressable.addressed.drop _).mergeSort_eq

/-- Where the loop over a type begins. -/
def loopStart (request : StatusRequest) (type : ElementType) (read : StatusRead) : StatusLoop where
  buffer := read.buffer
  offset := read.bufferOffset + elementStatusSize
  numElementsRead := read.numElementsRead
  firstElementAddress := read.firstElementAddress
  byteCount := 0
  currentAddress := getStartAddress type request.startElementAddress

/-- The loop reports the elements that are wanted. -/
theorem ElementLibrary.Addressable.reportAll {type : ElementType}
    (addressable : library.Addressable type) (asked : request.asks type = true)
    (read : StatusRead) (left : Nat) {elements : List StatusElement}
    (isElements : elements = (wantedElements library request type).take left) :
    AddressedFrom (loopStart request type read).currentAddress elements ∧
      (pageFormat library request type).reportAll left
          ((library.elements type).filter fun element =>
            !element.skipped type request.startElementAddress) (loopStart request type read) =
        elements.foldl
          (fun loop element => (pageFormat library request type).report element loop)
          (loopStart request type read) := by
  have isStart : (loopStart request type read).currentAddress =
      type.startAddress + (request.startElementAddress - type.startAddress) := by
    simp only [loopStart, getStartAddress]
    split <;> omega
  have isAddressed : AddressedFrom (loopStart request type read).currentAddress
      ((library.elements type).drop (request.startElementAddress - type.startAddress)) := by
    rw [isStart]
    exact addressable.addressed.drop _
  rw [isElements, addressable.wanted asked, addressable.reported]
  exact ⟨isAddressed.take left, PageFormat.reportAll_eq _ left isAddressed⟩

/-- How far the report has come. -/
structure StatusRead.Reached (read : StatusRead) (size : Nat) (content : List UInt8) (ok : Prop)
    (count bytes : Nat) : Prop where
  /-- What is in the buffer. -/
  filled : read.buffer.Filled size content ok
  /-- Where the next page goes. -/
  offset : read.bufferOffset = content.length
  /-- Elements reported so far. -/
  isCount : read.numElementsRead = count
  /-- Bytes reported so far. -/
  isBytes : read.bytesRead = bytes

/-- A page of elements, as the loop reports them. -/
theorem PageFormat.page_reached {format : PageFormat} (regular : format.Regular)
    {read : StatusRead} {content : List UInt8} {ok : Prop} {count bytes : Nat}
    (reached : read.Reached format.allocLen content ok count bytes) {type : ElementType}
    {elements : List StatusElement}
    (addressed : AddressedFrom (loopStart request type read).currentAddress elements)
    (some : elements ≠ []) :
    let loop := elements.foldl (fun loop element => format.report element loop)
      (loopStart request type read)
    ∀ first, (if read.bufferOffset + elementStatusSize ≤ format.allocLen then
        (⟨loop.buffer.write read.bufferOffset (format.pageHeader loop.byteCount), loop.offset,
          loop.numElementsRead, read.bytesRead + (loop.byteCount + elementStatusSize),
          first⟩ : StatusRead)
      else ⟨loop.buffer, read.bufferOffset, loop.numElementsRead,
        read.bytesRead + (loop.byteCount + elementStatusSize), first⟩).Reached format.allocLen
      (content ++ format.pageShown (format.allocLen - content.length) elements)
      (ok ∧ ¬format.PageOverruns (format.allocLen - content.length) elements.length)
      (count + elements.length) (bytes + format.pageLength elements) := by
  intro loop first
  obtain ⟨isRead, isCount⟩ := format.report_counts elements (loopStart request type read)
  have startCount : (loopStart request type read).byteCount = 0 := rfl
  have startRead : (loopStart request type read).numElementsRead = count := reached.isCount
  have startOffset : (loopStart request type read).offset = content.length + elementStatusSize := by
    rw [← reached.offset]
    rfl
  rw [startCount, Nat.zero_add] at isCount
  rw [startRead] at isRead
  have isLength : format.pageLength elements =
      elements.length * format.descriptorLength + elementStatusSize := by
    rw [pageLength, if_neg some, Nat.add_comm]
  rw [isLength]
  by_cases fits : read.bufferOffset + elementStatusSize ≤ format.allocLen
  · rw [if_pos fits]
    rw [reached.offset] at fits
    have zeros := reached.filled.zeros fits
    have zerosLength : (content ++ List.replicate elementStatusSize (0 : UInt8)).length =
        content.length + elementStatusSize := by
      rw [List.length_append, List.length_replicate]
    obtain ⟨isFilled, isEnd⟩ := report_filled regular addressed
      (show (loopStart request type read).buffer.Filled _ _ _ from zeros)
      (startOffset.trans zerosLength.symm)
    have isShown : format.pageShown (format.allocLen - content.length) elements =
        format.pageHeader (elements.length * format.descriptorLength) ++ format.shownAll
          (format.allocLen - (content ++ List.replicate elementStatusSize 0).length) elements := by
      rw [pageShown, if_neg (by simp only [some, false_or]; omega), zerosLength, Nat.sub_sub]
    have written := @Buffer.Filled.write_over _ _ _ _ isFilled content
      (format.pageHeader (elements.length * format.descriptorLength)) _
      (by rw [pageHeader_length])
    refine ⟨?_, ?_, isRead, ?_⟩
    · rw [isShown, ← List.append_assoc]
      dsimp only
      rw [reached.offset, isCount]
      refine written.congr ?_
      rw [PageOverruns, zerosLength, Nat.sub_sub]
      have room : elementStatusSize ≤ format.allocLen - content.length := by omega
      simp only [room, true_and]
    · dsimp only
      rw [isEnd, isShown]
      simp only [List.length_append, List.length_replicate, pageHeader_length, Nat.add_assoc]
    · dsimp only
      rw [isCount, reached.isBytes]
  · rw [if_neg fits]
    rw [reached.offset] at fits
    have inside := reached.filled.fits
    have isFull := format.report_full addressed (by rw [startOffset]; omega)
    have isShown : format.pageShown (format.allocLen - content.length) elements = [] := by
      rw [pageShown, if_pos (Or.inr (by omega))]
    rw [isShown, List.append_nil]
    refine ⟨?_, reached.offset, isRead, ?_⟩
    · dsimp only
      rw [isFull]
      refine reached.filled.congr ?_
      have noRoom : ¬elementStatusSize ≤ format.allocLen - content.length := by omega
      simp only [PageOverruns, noRoom, false_and, not_false_eq_true, and_true]
    · dsimp only
      rw [isCount, reached.isBytes]

/-- A page of a type whose loop reports elements that follow each other. -/
theorem readElementStatus_reached {type : ElementType} {read : StatusRead} {content : List UInt8}
    {ok : Prop} {count bytes : Nat}
    (reached : read.Reached request.allocationLength content ok count bytes)
    {elements : List StatusElement} (few : elements.length ≤ request.numElements - count)
    (addressed : AddressedFrom (loopStart request type read).currentAddress elements)
    {format : PageFormat} (isFormat : format = pageFormat library request type)
    (isLoop : format.reportAll (request.numElements - count)
        ((library.elements type).filter fun element =>
          !element.skipped type request.startElementAddress) (loopStart request type read) =
      elements.foldl (fun loop element => format.report element loop)
        (loopStart request type read)) :
    (readElementStatus library request type read).Reached request.allocationLength
      (content ++ format.pageShown (request.allocationLength - content.length) elements)
      (ok ∧ ¬format.PageOverruns (request.allocationLength - content.length) elements.length)
      (count + elements.length) (bytes + format.pageLength elements) := by
  have regular : format.Regular := isFormat ▸ pageFormat_regular library request type
  have isAlloc : format.allocLen = request.allocationLength := by
    rw [isFormat]
    rfl
  -- Nothing is reported, and nothing changes.
  have nothing : elements = [] → readElementStatus library request type read = read →
      (readElementStatus library request type read).Reached request.allocationLength
        (content ++ format.pageShown (request.allocationLength - content.length) elements)
        (ok ∧ ¬format.PageOverruns (request.allocationLength - content.length) elements.length)
        (count + elements.length) (bytes + format.pageLength elements) := by
    intro none same
    rw [same, none]
    simp only [PageFormat.pageShown, PageFormat.pageLength, true_or, if_true, List.append_nil,
      List.length_nil, Nat.add_zero]
    exact ⟨reached.filled.congr (by simp [PageFormat.PageOverruns, PageFormat.OverrunsAny]),
      reached.offset, reached.isCount, reached.isBytes⟩
  by_cases done : request.numElements ≤ read.numElementsRead
  · refine nothing ?_ (by rw [readElementStatus, if_pos done])
    rw [reached.isCount] at done
    exact List.length_eq_zero_iff.mp (by omega)
  · have isStatus : readElementStatus library request type read =
        let loop := elements.foldl (fun loop element => format.report element loop)
          (loopStart request type read)
        if loop.byteCount = 0 then
          ⟨loop.buffer, read.bufferOffset, loop.numElementsRead, read.bytesRead,
            loop.firstElementAddress⟩
        else if read.bufferOffset + elementStatusSize ≤ format.allocLen then
          ⟨loop.buffer.write read.bufferOffset (format.pageHeader loop.byteCount), loop.offset,
            loop.numElementsRead, read.bytesRead + (loop.byteCount + elementStatusSize),
            loop.firstElementAddress⟩
        else ⟨loop.buffer, read.bufferOffset, loop.numElementsRead,
          read.bytesRead + (loop.byteCount + elementStatusSize), loop.firstElementAddress⟩ := by
      rw [readElementStatus, if_neg done, ← isLoop, ← reached.isCount, isFormat]
      rfl
    by_cases none : elements = []
    · refine nothing none ?_
      rw [isStatus, none]
      rfl
    · have some : 0 < elements.length := List.length_pos_iff.mpr none
      obtain ⟨-, isCount⟩ := format.report_counts elements (loopStart request type read)
      have startCount : (loopStart request type read).byteCount = 0 := rfl
      have positive : 0 < format.descriptorLength := by
        simp only [PageFormat.descriptorLength, elementDescriptorCommonSize]
        omega
      have countPositive : (elements.foldl (fun loop element => format.report element loop)
          (loopStart request type read)).byteCount ≠ 0 := by
        rw [isCount, startCount, Nat.zero_add]
        exact Nat.mul_ne_zero (by omega) (by omega)
      dsimp only at isStatus
      rw [isStatus, if_neg countPositive]
      rw [← isAlloc] at reached ⊢
      exact PageFormat.page_reached regular reached addressed none _

/-- What is wanted, page by page, with a bound on the number of elements. -/
def wantedPages (library : ElementLibrary) (request : StatusRequest) :
    Nat → List ElementType → List (PageFormat × List StatusElement)
  | _, [] => []
  | left, type :: rest =>
    (pageFormat library request type, (wantedElements library request type).take left) ::
      wantedPages library request
        (left - ((wantedElements library request type).take left).length) rest

/-- Pages one behind the other, as much of them as there is room for. -/
def shownPages : Nat → List (PageFormat × List StatusElement) → List UInt8
  | _, [] => []
  | room, (format, elements) :: rest =>
    format.pageShown room elements ++
      shownPages (room - (format.pageShown room elements).length) rest

/-- One of the pages has an alternate volume tag that is stored outside. -/
def PagesOverrun : Nat → List (PageFormat × List StatusElement) → Prop
  | _, [] => False
  | room, (format, elements) :: rest =>
    format.PageOverruns room elements.length ∨
      PagesOverrun (room - (format.pageShown room elements).length) rest

/-- Elements on pages. -/
def pagesCount (pages : List (PageFormat × List StatusElement)) : Nat :=
  (pages.map fun page => page.2.length).sum

/-- Bytes of pages without a bound. -/
def pagesLength (pages : List (PageFormat × List StatusElement)) : Nat :=
  (pages.map fun page => page.1.pageLength page.2).sum

/-- All pages. -/
theorem readPages_reached {types : List ElementType}
    (addressable : ∀ type ∈ types, request.asks type = true → library.Addressable type)
    {read : StatusRead} {content : List UInt8} {ok : Prop} {count bytes : Nat}
    (reached : read.Reached request.allocationLength content ok count bytes)
    {pages : List (PageFormat × List StatusElement)}
    (isPages : pages = wantedPages library request (request.numElements - count) types) :
    (types.foldl (fun read type =>
        if request.asks type then readElementStatus library request type read
        else read) read).Reached request.allocationLength
      (content ++ shownPages (request.allocationLength - content.length) pages)
      (ok ∧ ¬PagesOverrun (request.allocationLength - content.length) pages)
      (count + pagesCount pages) (bytes + pagesLength pages) := by
  induction types generalizing read content ok count bytes pages with
  | nil =>
    subst isPages
    simp only [wantedPages, shownPages, PagesOverrun, pagesCount, pagesLength, List.append_nil,
      List.map_nil, List.sum_nil, Nat.add_zero, List.foldl_nil, not_false_eq_true, and_true]
    exact reached
  | cons type rest ih =>
    subst isPages
    have restAddressable : ∀ other ∈ rest, request.asks other = true →
        library.Addressable other :=
      fun other isOther => addressable other (List.mem_cons_of_mem _ isOther)
    rw [List.foldl_cons]
    cases asked : request.asks type with
    | false =>
      have nothing : wantedElements library request type = [] := by
        rw [wantedElements, asked]
        rfl
      have isRest := ih restAddressable reached rfl
      simp only [Bool.false_eq_true, if_false]
      simpa [wantedPages, nothing, shownPages, PagesOverrun, pagesCount, pagesLength,
        PageFormat.pageShown, PageFormat.pageLength, PageFormat.PageOverruns,
        PageFormat.OverrunsAny] using isRest
    | true =>
      obtain ⟨isAddressed, isLoop⟩ := (addressable type (List.mem_cons_self ..) asked).reportAll asked
        read (request.numElements - count) rfl
      have isPage := readElementStatus_reached reached (List.length_take_le _ _) isAddressed rfl isLoop
      have isRest := ih restAddressable isPage rfl
      simp only [if_true, wantedPages, shownPages, PagesOverrun, pagesCount, pagesLength,
        List.map_cons, List.sum_cons] at isRest ⊢
      rw [List.length_append, ← Nat.sub_sub, List.append_assoc, Nat.add_assoc, Nat.add_assoc,
        ← Nat.sub_sub] at isRest
      refine ⟨isRest.filled.congr ?_, isRest.offset, isRest.isCount, isRest.isBytes⟩
      tauto

/-- The pages of a report. -/
def requestPages (library : ElementLibrary) (request : StatusRequest) :
    List (PageFormat × List StatusElement) :=
  wantedPages library request request.numElements statusTypes

/-- Nothing is stored outside the allocation length, the elements that are wanted are counted and
described, and the byte count is that of all pages. -/
def ReportsElements (library : ElementLibrary) (request : StatusRequest) : Prop :=
  ∃ buffer, mchangerCmdReadElementStatus library request =
      .data buffer (min request.allocationLength
        (pagesLength (requestPages library request) + 8)) ∧
    buffer.inside = true ∧
    ofBe (firstBytes (fun index => buffer.data (2 + index)) 2) =
      pagesCount (requestPages library request) ∧
    ofBe (firstBytes (fun index => buffer.data (4 + index)) 4) =
      pagesLength (requestPages library request) ∧
    ∃ zeros, firstBytes (fun index => buffer.data (8 + index)) (request.allocationLength - 8) =
      shownPages (request.allocationLength - 8) (requestPages library request) ++
        List.replicate zeros 0

/-- No more elements are wanted than asked for. -/
theorem wantedPages_count_le (left : Nat) (types : List ElementType) :
    pagesCount (wantedPages library request left types) ≤ left := by
  induction types generalizing left with
  | nil => exact Nat.zero_le left
  | cons type rest ih =>
    have isRest := ih (left - ((wantedElements library request type).take left).length)
    have isTake := List.length_take_le left (wantedElements library request type)
    simp only [wantedPages, pagesCount, List.map_cons, List.sum_cons] at isRest ⊢
    omega

/-- Descriptors are short. -/
theorem pageFormat_descriptorLength_le (type : ElementType) :
    (pageFormat library request type).descriptorLength ≤ 353 := by
  have short := library.devidShort
  have isLength : elementIdlength library type ≤ 255 := by
    cases type <;> simp only [elementIdlength] <;> omega
  simp only [PageFormat.descriptorLength, pageFormat, elementDescriptorCommonSize, voltagSize,
    deviceIdentifierSize, vhpEmlSeriesIdIncr]
  have voltag : (if request.voltag then 36 else 0) ≤ 36 := by split <;> omega
  have series : (if library.emlSeries then 10 else 0) ≤ 10 := by split <;> omega
  have identifier : (if !request.dvcid then 4
      else 4 + elementIdlength library type + if library.emlSeries then 10 else 0) ≤ 269 := by
    split
    · omega
    · exact Nat.add_le_add (Nat.add_le_add (Nat.le_refl 4) isLength) series
  have avoltag : (if request.voltag && type == .dataTransfer && library.serialAsAvoltag then 36
      else 0) ≤ 36 := by split <;> omega
  exact Nat.add_le_add (Nat.add_le_add (Nat.add_le_add (Nat.le_refl 12) voltag) identifier) avoltag

/-- All pages together are short. -/
theorem wantedPages_length_le (left : Nat) (types : List ElementType) :
    pagesLength (wantedPages library request left types) ≤
      8 * types.length + 353 * pagesCount (wantedPages library request left types) := by
  induction types generalizing left with
  | nil => exact Nat.zero_le _
  | cons type rest ih =>
    have isRest := ih (left - ((wantedElements library request type).take left).length)
    have isPage : (pageFormat library request type).pageLength
        ((wantedElements library request type).take left) ≤
          8 + 353 * ((wantedElements library request type).take left).length := by
      unfold PageFormat.pageLength
      split
      · omega
      · have isLength := Nat.mul_le_mul_left ((wantedElements library request type).take left).length
          (@pageFormat_descriptorLength_le library request type)
        simp only [elementStatusSize]
        omega
    simp only [wantedPages, pagesLength, pagesCount, List.map_cons, List.sum_cons,
      List.length_cons] at isRest ⊢
    omega

/-- What a buffer holds behind its first bytes. -/
theorem firstBytes_of_bytes {buffer : Buffer} {front more : Nat} {first rest : List UInt8}
    (isBytes : buffer.bytes (front + more) = first ++ rest) (isFront : first.length = front) :
    buffer.bytes front = first ∧ firstBytes (fun index => buffer.data (front + index)) more = rest := by
  rw [Buffer.bytes_add] at isBytes
  exact List.append_inj isBytes (by rw [Buffer.bytes_length, isFront])

/-- What the command returns after its pages. -/
theorem mchangerCmdReadElementStatus_of_reached (allocation : 8 ≤ request.allocationLength)
    {read : StatusRead} {shown : List UInt8} {ok : Prop} {count bytes : Nat}
    (isRead : statusTypes.foldl (fun read type =>
        if request.asks type then readElementStatus library request type read else read)
      ⟨Buffer.allocate request.allocationLength fun _ => 0, elementStatusSize, 0, 0, none⟩ = read)
    (reached : read.Reached request.allocationLength
      (List.replicate elementStatusSize 0 ++ shown) ok count bytes)
    (countSmall : count < 2 ^ 16) (bytesSmall : bytes < 2 ^ 32) :
    ∃ buffer, mchangerCmdReadElementStatus library request =
        .data buffer (min request.allocationLength (bytes + 8)) ∧
      (buffer.inside = true ↔ ok) ∧ (ok →
        ofBe (firstBytes (fun index => buffer.data (2 + index)) 2) = count ∧
        ofBe (firstBytes (fun index => buffer.data (4 + index)) 4) = bytes ∧
        firstBytes (fun index => buffer.data (8 + index)) (request.allocationLength - 8) =
          shown ++ List.replicate (request.allocationLength - (8 + shown.length)) 0) := by
  have headerLength : read.header.length = elementStatusSize := by
    simp [StatusRead.header, elementStatusSize]
  have written := @Buffer.Filled.write_over _ _ _ _ reached.filled [] read.header shown
    (by rw [headerLength, List.nil_append])
  refine ⟨read.buffer.write 0 read.header, ?_, written.inside, fun isOk => ?_⟩
  · rw [mchangerCmdReadElementStatus, if_neg (by simp only [elementStatusSize]; omega), isRead]
    dsimp only
    rw [reached.isBytes]
  · have isBytes := written.bytes isOk
    rw [List.nil_append, List.append_assoc,
      show request.allocationLength = 8 + (request.allocationLength - 8) by omega] at isBytes
    obtain ⟨isHeader, isRest⟩ := firstBytes_of_bytes isBytes headerLength
    have isParts : read.header = beBytes 2 (read.firstElementAddress.getD 0xFFFF) ++
        beBytes 2 count ++ beBytes 4 bytes := by
      rw [StatusRead.header, reached.isCount, reached.isBytes]
    obtain ⟨isFirst, isTotal⟩ := @firstBytes_of_bytes _ 4 4 _ _ (isHeader.trans isParts) (by simp)
    obtain ⟨-, isNumber⟩ := @firstBytes_of_bytes _ 2 2 _ _ isFirst (by simp)
    rw [List.length_nil] at isTotal isNumber isRest
    refine ⟨?_, ?_, ?_⟩
    · rw [isNumber, ofBe_beBytes, Nat.mod_eq_of_lt (by omega)]
    · rw [isTotal, ofBe_beBytes, Nat.mod_eq_of_lt (by omega)]
    · rw [isRest]
      congr 2
      rw [List.length_append, headerLength, elementStatusSize]
      omega

/-- The report, and when it is stored outside. -/
theorem mchangerCmdReadElementStatus_eq (allocation : 8 ≤ request.allocationLength)
    (addressable : ∀ type, request.asks type = true → library.Addressable type) :
    ReportsElements library request ↔
      ¬PagesOverrun (request.allocationLength - 8) (requestPages library request) := by
  have start : (⟨Buffer.allocate request.allocationLength fun _ => 0, elementStatusSize, 0, 0,
      none⟩ : StatusRead).Reached request.allocationLength (List.replicate elementStatusSize 0)
        True 0 0 :=
    ⟨@Buffer.Filled.zeros _ _ _ _ (Buffer.Filled.allocate request.allocationLength) elementStatusSize
      (by simpa [elementStatusSize] using allocation), by simp, rfl, rfl⟩
  have reached := readPages_reached (fun type _ => addressable type) start
    (show requestPages library request = wantedPages library request (request.numElements - 0)
      statusTypes from rfl)
  have countSmall : pagesCount (requestPages library request) < 2 ^ 16 :=
    Nat.lt_of_le_of_lt (wantedPages_count_le _ _) request.numShort
  have bytesSmall : pagesLength (requestPages library request) < 2 ^ 32 := by
    have isLength := @wantedPages_length_le library request request.numElements statusTypes
    have isTypes : statusTypes.length = 4 := rfl
    have isCount := @wantedPages_count_le library request request.numElements statusTypes
    have short := request.numShort
    rw [isTypes] at isLength
    rw [requestPages]
    omega
  rw [Nat.zero_add, Nat.zero_add, List.length_replicate] at reached
  obtain ⟨buffer, isData, inside, holds⟩ := mchangerCmdReadElementStatus_of_reached allocation rfl
    reached countSmall bytesSmall
  rw [true_and] at inside holds
  constructor
  · rintro ⟨other, isOther, isInside, -⟩
    rw [isData] at isOther
    cases isOther
    exact inside.mp isInside
  · intro clear
    obtain ⟨isCount, isBytes, isShown⟩ := holds clear
    exact ⟨buffer, isData, inside.mpr clear, isCount, isBytes, _, isShown⟩

/-! ## Where an alternate volume tag is -/

/-- As much of a page is shown as there is room for, if there is room for its header. -/
theorem PageFormat.pageShown_length {format : PageFormat} (regular : format.Regular) (room : Nat)
    (elements : List StatusElement) :
    (format.pageShown room elements).length =
      if room < elementStatusSize then 0 else min room (format.pageLength elements) := by
  unfold pageShown pageLength
  by_cases none : elements = []
  · simp [none]
  · by_cases noRoom : room < elementStatusSize
    · simp [noRoom]
    · rw [if_neg (by simp only [none, false_or]; exact noRoom), if_neg noRoom, if_neg none,
        List.length_append, pageHeader_length, shownAll_length regular]
      omega

/-- The transports that are wanted. -/
def wantedTransports (library : ElementLibrary) (request : StatusRequest) : List StatusElement :=
  (wantedElements library request .mediumTransport).take request.numElements

/-- The drives that are wanted. -/
def wantedDrives (library : ElementLibrary) (request : StatusRequest) : List StatusElement :=
  (wantedElements library request .dataTransfer).take
    (request.numElements - (wantedTransports library request).length)

/-- Where the alternate volume tag of a drive begins in the report. -/
def avoltagPlace (library : ElementLibrary) (request : StatusRequest) (index : Nat) : Nat :=
  8 + (pageFormat library request .mediumTransport).pageLength (wantedTransports library request) +
    8 + index * (pageFormat library request .dataTransfer).descriptorLength + 48

/-- The allocation length ends in the serial number of an alternate volume tag that is reported, or in
the four bytes behind the tag. -/
def AvoltagOverruns (library : ElementLibrary) (request : StatusRequest) : Prop :=
  request.voltag = true ∧ library.serialAsAvoltag = true ∧
    ∃ index < (wantedDrives library request).length,
      avoltagPlace library request index + 4 < request.allocationLength ∧
        request.allocationLength < avoltagPlace library request index + 40

/-- Only the page of the drives has alternate volume tags. -/
theorem pagesOverrun_iff (library : ElementLibrary) (request : StatusRequest) :
    PagesOverrun (request.allocationLength - 8) (requestPages library request) ↔
      AvoltagOverruns library request := by
  have without : ∀ type, type ≠ .dataTransfer → ∀ room count,
      ¬(pageFormat library request type).PageOverruns room count := by
    intro type other room count
    rintro ⟨-, index, -, some, -⟩
    refine some ?_
    have notDrive : (type == ElementType.dataTransfer) = false := by simpa using other
    simp [pageFormat, notDrive]
  have isTag : (pageFormat library request .dataTransfer).avoltagLen ≠ 0 ↔
      request.voltag = true ∧ library.serialAsAvoltag = true := by
    simp only [pageFormat, voltagSize]
    cases request.voltag <;> cases library.serialAsAvoltag <;> simp
  have used : (request.allocationLength - 8 < 8 ∧ ((pageFormat library request
          .mediumTransport).pageShown (request.allocationLength - 8)
            (wantedTransports library request)).length = 0) ∨
      (8 ≤ request.allocationLength - 8 ∧ ((pageFormat library request
          .mediumTransport).pageShown (request.allocationLength - 8)
            (wantedTransports library request)).length = min (request.allocationLength - 8)
              ((pageFormat library request .mediumTransport).pageLength
                (wantedTransports library request))) := by
    rw [PageFormat.pageShown_length (pageFormat_regular library request .mediumTransport)]
    split
    · rename_i noRoom
      exact Or.inl ⟨noRoom, rfl⟩
    · rename_i room
      exact Or.inr ⟨Nat.not_lt.mp room, rfl⟩
  simp only [requestPages, statusTypes, wantedPages, PagesOverrun,
    without .mediumTransport (by simp), without .importExport (by simp),
    without .storage (by simp), false_or, or_false]
  rw [← wantedTransports, ← wantedDrives]
  simp only [PageFormat.PageOverruns, PageFormat.OverrunsAny, PageFormat.Overruns, isTag,
    AvoltagOverruns, avoltagPlace, elementStatusSize, elementDescriptorCommonSize, voltagSize]
  constructor
  · rintro ⟨room, index, bound, tag, least, most⟩
    exact ⟨tag.1, tag.2, index, bound, by omega, by omega⟩
  · rintro ⟨voltag, serial, index, bound, least, most⟩
    exact ⟨by omega, index, bound, ⟨voltag, serial⟩, by omega, by omega⟩

/-! ## Addresses that do not fit -/

/-- A request for the first element of a type. -/
def firstRequest (type : ElementType) : StatusRequest where
  elementTypeCode := type.code
  startElementAddress := 0
  numElements := 1
  numShort := by decide
  allocationLength := 32
  voltag := false
  dvcid := false

/-- Such a request asks for that type only. -/
theorem firstRequest_asks (type other : ElementType) :
    (firstRequest type).asks other = true ↔ other = type := by
  cases type <;> cases other <;> decide

/-- A page shows the address of its first element behind its header. -/
theorem PageFormat.pageShown_address (format : PageFormat) (element : StatusElement)
    (rest : List StatusElement) {room : Nat} (large : 10 ≤ room) (tail : List UInt8) :
    ((format.pageShown room (element :: rest) ++ tail).drop elementStatusSize).take 2 =
      beBytes 2 element.address := by
  have isLarge : ¬(element :: rest = [] ∨ room < elementStatusSize) := by
    simp only [reduceCtorEq, false_or, elementStatusSize]
    omega
  have front : ∃ more, format.frontBytes element = beBytes 2 element.address ++ more := by
    simp only [frontBytes, statusBytes, StatusElement.common, List.append_assoc]
    exact ⟨_, rfl⟩
  obtain ⟨more, isFront⟩ := front
  have isTake : (beBytes 2 element.address ++ more).take (room - elementStatusSize) =
      beBytes 2 element.address ++ more.take (room - elementStatusSize - 2) := by
    rw [List.take_append, beBytes_length, List.take_of_length_le]
    simp only [beBytes_length, elementStatusSize]
    omega
  rw [pageShown, if_neg isLarge, List.append_assoc, List.drop_left' (pageHeader_length _ _), shownAll,
    shown, isFront, isTake]
  simp only [List.append_assoc]
  exact List.take_left' (beBytes_length 2 _)

/-- The first of the elements that are wanted has the lowest address. -/
theorem wantedElements_lowest {type : ElementType} (asked : request.asks type = true)
    {element : StatusElement} (isElement : element ∈ library.elements type)
    (from_ : request.startElementAddress ≤ element.address) :
    ∃ lowest others, wantedElements library request type = lowest :: others ∧
      lowest.address ≤ element.address := by
  have isWanted : element ∈ wantedElements library request type := by
    rw [wantedElements, if_pos asked, List.mem_mergeSort, List.mem_filter]
    exact ⟨isElement, by simpa using from_⟩
  have sorted : (wantedElements library request type).Pairwise fun first second =>
      decide (first.address ≤ second.address) = true := by
    rw [wantedElements, if_pos asked]
    refine List.pairwise_mergeSort ?_ ?_ _
    · intro first second third
      simp only [decide_eq_true_eq]
      omega
    · intro first second
      simp only [Bool.or_eq_true, decide_eq_true_eq]
      omega
  cases isList : wantedElements library request type with
  | nil => simp [isList] at isWanted
  | cons lowest others =>
    rw [isList] at isWanted sorted
    refine ⟨lowest, others, rfl, ?_⟩
    rcases List.mem_cons.mp isWanted with isLowest | isOther
    · rw [isLowest]
    · simpa using (List.pairwise_cons.mp sorted).1 element isOther

/-- What the request for the first element of a type reports is the element that was added first. -/
theorem firstRequest_reports {type : ElementType} (other : type ≠ .mediumTransport)
    {first : StatusElement} {rest : List StatusElement}
    (isElements : library.elements type = first :: rest)
    (isAddress : first.address = type.startAddress) :
    ∃ buffer dxferLen tail,
      mchangerCmdReadElementStatus library (firstRequest type) = .data buffer dxferLen ∧
        firstBytes (fun index => buffer.data (8 + index)) 24 =
          (pageFormat library (firstRequest type) type).pageShown 24 [first] ++ tail := by
  have isStart : 0 < type.startAddress ∧ type.startAddress < 2 ^ 16 := by
    cases type <;> first | exact absurd rfl other | decide
  have start : (⟨Buffer.allocate (firstRequest type).allocationLength fun _ => 0, elementStatusSize,
      0, 0, none⟩ : StatusRead).Reached (firstRequest type).allocationLength
        (List.replicate elementStatusSize 0) True 0 0 :=
    ⟨@Buffer.Filled.zeros _ _ _ _ (Buffer.Filled.allocate 32) elementStatusSize (by decide), by simp,
      rfl, rfl⟩
  have isCurrent : getStartAddress type 0 = type.startAddress := if_pos isStart.1
  have addressed : AddressedFrom (getStartAddress type 0) [first] := by
    intro index element isElement
    obtain ⟨isIndex, rfl⟩ : index = 0 ∧ first = element := by
      rw [List.getElem?_singleton] at isElement
      split at isElement
      · exact ⟨by assumption, by simpa using isElement⟩
      · cases isElement
    rw [isCurrent, isAddress]
    omega
  have kept : (library.elements type).filter (fun element => !element.skipped type 0) =
      first :: rest.filter fun element => !element.skipped type 0 := by
    rw [isElements, List.filter_cons_of_pos]
    have some : (first.address == 0) = false := by
      simp
      omega
    simp [StatusElement.skipped, some]
  have isLoop : ∀ loop : StatusLoop, loop.currentAddress = getStartAddress type 0 →
      (pageFormat library (firstRequest type) type).reportAll 1
        ((library.elements type).filter fun element => !element.skipped type 0) loop =
      [first].foldl (fun loop element =>
        (pageFormat library (firstRequest type) type).report element loop) loop := by
    intro loop isLoopStart
    rw [kept, PageFormat.reportAll, if_pos (by rw [isLoopStart, isCurrent, isAddress]),
      PageFormat.reportAll]
    rfl
  have reached := @readElementStatus_reached library (firstRequest type) type _ _ _ _ _ start [first]
    (Nat.le_refl 1) addressed _ rfl (isLoop _ rfl)
  have isRead : statusTypes.foldl (fun read asked =>
        if (firstRequest type).asks asked then
          readElementStatus library (firstRequest type) asked read else read)
      ⟨Buffer.allocate (firstRequest type).allocationLength fun _ => 0, elementStatusSize, 0, 0,
        none⟩ = readElementStatus library (firstRequest type) type
      ⟨Buffer.allocate (firstRequest type).allocationLength fun _ => 0, elementStatusSize, 0, 0,
        none⟩ := by
    cases type <;> rfl
  have noTag : (pageFormat library (firstRequest type) type).avoltagLen = 0 := rfl
  have isLength : (pageFormat library (firstRequest type) type).pageLength [first] ≤ 8 + 353 := by
    have short := @pageFormat_descriptorLength_le library (firstRequest type) type
    simp only [PageFormat.pageLength, reduceCtorEq, if_false, elementStatusSize,
      List.length_singleton, Nat.one_mul]
    omega
  obtain ⟨buffer, isData, -, holds⟩ := mchangerCmdReadElementStatus_of_reached
    (show 8 ≤ 32 by omega) isRead reached (by simp) (by omega)
  obtain ⟨-, -, isShown⟩ := holds ⟨trivial, by
    rintro ⟨-, index, -, some, -⟩
    exact some noTag⟩
  exact ⟨buffer, _, _, isData, isShown⟩

/-- A library with more elements of a type than there are addresses reports the element that was
added first as the first one, not the one whose address is zero. -/
theorem firstRequest_not_reports {type : ElementType} (wrapped : ¬library.Addressable type) :
    ¬ReportsElements library (firstRequest type) := by
  have notTransport : type ≠ .mediumTransport := by
    rintro rfl
    refine wrapped ?_
    rw [ElementLibrary.Addressable, library.transport]
    decide
  have isStart : 0 < type.startAddress ∧ type.startAddress < 2 ^ 16 := by
    cases type <;> first | exact absurd rfl notTransport | decide
  have many : 2 ^ 16 - type.startAddress < (library.elements type).length := by
    unfold ElementLibrary.Addressable at wrapped
    omega
  have zeroAddress := library.addressed type _ _ (List.getElem?_eq_getElem many)
  rw [Nat.add_sub_cancel' (Nat.le_of_lt isStart.2), Nat.mod_self] at zeroAddress
  obtain ⟨first, rest, isElements⟩ : ∃ first rest, library.elements type = first :: rest :=
    List.exists_cons_of_length_pos (by omega)
  have firstAddress : first.address = type.startAddress := by
    rw [library.addressed type 0 first (by rw [isElements]; rfl), Nat.add_zero,
      Nat.mod_eq_of_lt isStart.2]
  obtain ⟨lowest, others, isWanted, low⟩ := wantedElements_lowest
    ((firstRequest_asks type type).mpr rfl) (List.getElem_mem many) (Nat.zero_le _)
  have lowestAddress : lowest.address = 0 := by omega
  obtain ⟨buffer, dxferLen, tail, isData, isShown⟩ :=
    firstRequest_reports notTransport isElements firstAddress
  rintro ⟨buffer', isOther, -, -, -, zeros, isPages⟩
  rw [isData] at isOther
  cases isOther
  have notWanted : ∀ other ≠ type, wantedElements library (firstRequest type) other = [] := by
    intro other different
    rw [wantedElements, if_neg]
    rwa [firstRequest_asks]
  have isPage : shownPages 24 (requestPages library (firstRequest type)) =
      (pageFormat library (firstRequest type) type).pageShown 24 [lowest] := by
    have one : (firstRequest type).numElements = 1 := rfl
    rw [requestPages, one]
    cases type <;>
      simp_all [statusTypes, wantedPages, shownPages, PageFormat.pageShown]
  have same : beBytes 2 first.address = beBytes 2 lowest.address := by
    have isSame := isShown.symm.trans isPages
    have isAlloc : (firstRequest type).allocationLength - 8 = 24 := rfl
    rw [isAlloc, isPage] at isSame
    rw [← PageFormat.pageShown_address (pageFormat library (firstRequest type) type) first []
      (show 10 ≤ 24 by omega) tail, isSame, PageFormat.pageShown_address _ _ _ (by omega)]
  have sameAddress := congrArg ofBe same
  rw [ofBe_beBytes, ofBe_beBytes, firstAddress, lowestAddress] at sameAddress
  omega

end Command

/-- For every library: if the addresses of the types that are asked for fit into two bytes, the
command reports what is wanted if and only if no alternate volume tag overruns the allocation length;
and if those of a type do not fit, it does not report its first element. -/
theorem mchangerCmdReadElementStatus_reports_iff (library : ElementLibrary) :
    (∀ request, 8 ≤ request.allocationLength →
      (∀ type, request.asks type = true → library.Addressable type) →
      (ReportsElements library request ↔ ¬AvoltagOverruns library request)) ∧
    ∀ type, ¬library.Addressable type →
      ¬AvoltagOverruns library (firstRequest type) ∧
        ¬ReportsElements library (firstRequest type) := by
  refine ⟨fun request allocation addressable => ?_, fun type wrapped => ⟨?_, ?_⟩⟩
  · rw [mchangerCmdReadElementStatus_eq allocation addressable, pagesOverrun_iff]
  · rintro ⟨voltag, -⟩
    cases voltag
  · exact firstRequest_not_reports wrapped

/-- An element without anything in it. -/
def emptyElement : StatusElement := ⟨0, 0x08, 0, 0, 0, 0, fun _ => 0, fun _ => 0x41, fun _ => 0⟩

/-- A library with a transport, whose drives have alternate volume tags. -/
def transportLibrary : ElementLibrary where
  elements type := if type = .mediumTransport then [emptyElement] else []
  addressed := by
    intro type index element isElement
    split at isElement
    · rename_i isTransport
      subst isTransport
      rw [List.getElem?_singleton] at isElement
      split at isElement
      · rename_i isFirst
        subst isFirst
        cases isElement
        rfl
      · cases isElement
    · cases isElement
  transport := rfl
  emlSeries := false
  devidLen := 34
  devidShort := by decide
  serialAsAvoltag := true

/-- The same library with a drive and a slot. -/
def smallLibrary : ElementLibrary :=
  mchangerAddElement (mchangerAddElement transportLibrary .storage emptyElement (by decide))
    .dataTransfer emptyElement (by decide)

/-- A request for all elements, with volume tags. -/
def allRequest (allocationLength : Nat) : StatusRequest :=
  ⟨0, 0, 100, by decide, allocationLength, true, true⟩

/-- With enough room the elements of the small library are reported. -/
theorem mchangerCmdReadElementStatus_reports_small :
    (∀ type, (allRequest 1024).asks type = true → smallLibrary.Addressable type) ∧
      ¬AvoltagOverruns smallLibrary (allRequest 1024) ∧
      ReportsElements smallLibrary (allRequest 1024) := by
  have addressable : ∀ type, (allRequest 1024).asks type = true →
      smallLibrary.Addressable type := by
    intro type _
    cases type <;> (unfold ElementLibrary.Addressable; decide)
  have clear : ¬AvoltagOverruns smallLibrary (allRequest 1024) := by
    rintro ⟨-, -, index, bound, -, most⟩
    rw [wantedDrives, (addressable .dataTransfer rfl).wanted rfl] at bound
    rw [avoltagPlace, wantedTransports, (addressable .mediumTransport rfl).wanted rfl] at most
    have isFirst : index = 0 := by
      have one : ((smallLibrary.elements .dataTransfer).drop ((allRequest 1024).startElementAddress -
          ElementType.dataTransfer.startAddress)).length = 1 := rfl
      rw [List.length_take, one] at bound
      omega
    subst isFirst
    exact absurd most (by decide +kernel)
  exact ⟨addressable, clear, ((mchangerCmdReadElementStatus_reports_iff smallLibrary).1 _ (by decide)
    addressable).mpr clear⟩

/-- Without room for the end of the alternate volume tag it is stored outside. -/
theorem mchangerCmdReadElementStatus_overruns :
    (∃ buffer dxferLen, mchangerCmdReadElementStatus smallLibrary (allRequest 140) =
        .data buffer dxferLen ∧ buffer.size = 140 ∧ buffer.inside = false) ∧
      ¬ReportsElements smallLibrary (allRequest 140) := by
  have outside : ∃ buffer dxferLen, mchangerCmdReadElementStatus smallLibrary (allRequest 140) =
      .data buffer dxferLen ∧ buffer.size = 140 ∧ buffer.inside = false :=
    ⟨_, _, rfl, rfl, by decide +kernel⟩
  refine ⟨outside, ?_⟩
  rintro ⟨buffer, isData, inside, -⟩
  obtain ⟨other, dxferLen, isOther, -, notInside⟩ := outside
  rw [isData] at isOther
  cases isOther
  rw [inside] at notInside
  cases notInside

end VirtualTape
