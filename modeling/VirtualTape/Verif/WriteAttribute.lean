import VirtualTape.Verif.Mam

/-!
# WRITE ATTRIBUTE

A parameter list holds attributes one behind the other. It is cut into the complete attributes in
front and what is left behind them. The loops of the command stop when no more than the size of a
header is left, so an attribute without a value at the end of the list is not looked at.
-/

namespace VirtualTape

/-! ## Attributes of a parameter list -/

/-- An attribute of a parameter list. -/
structure AttributeItem where
  /-- The header. -/
  header : AttributeHeader
  /-- The value. -/
  value : List UInt8
  deriving DecidableEq, Repr

namespace AttributeItem

/-- An attribute as bytes. -/
def encode (item : AttributeItem) : List UInt8 :=
  beBytes 2 item.header.identifier ++ beBytes 1 item.header.format ++
    beBytes 2 item.header.length ++ item.value

/-- The fields of the header have room in their bytes and its length is that of the value. -/
structure WellFormed (item : AttributeItem) : Prop where
  /-- Identifier. -/
  identifier : item.header.identifier < 2 ^ 16
  /-- Format. -/
  format : item.header.format < 2 ^ 8
  /-- Length. -/
  length : item.header.length < 2 ^ 16
  /-- The value is there. -/
  value : item.value.length = item.header.length

/-- Size of an attribute. -/
theorem encode_length (item : AttributeItem) :
    item.encode.length = readAttributeSize + item.value.length := by
  simp only [encode, List.length_append, beBytes_length, readAttributeSize]

/-- The header of an attribute is read from its bytes. -/
theorem WellFormed.readHeader_encode {item : AttributeItem} (formed : item.WellFormed)
    (rest : List UInt8) :
    readHeader (item.encode ++ rest) = some (item.header, item.value ++ rest) := by
  have isIdentifier : ofBe (beBytes 2 item.header.identifier) = item.header.identifier :=
    (ofBe_beBytes 2 _).trans (Nat.mod_eq_of_lt formed.identifier)
  have isLength : ofBe (beBytes 2 item.header.length) = item.header.length :=
    (ofBe_beBytes 2 _).trans (Nat.mod_eq_of_lt formed.length)
  have isFormat : ofBe (beBytes 1 item.header.format) = item.header.format :=
    (ofBe_beBytes 1 _).trans (Nat.mod_eq_of_lt formed.format)
  simp only [beBytes] at isIdentifier isLength isFormat
  simp only [encode, beBytes, List.cons_append, List.nil_append, readHeader, isIdentifier, isLength]
  have format : (UInt8.ofNat (item.header.format / 256 ^ 0)).toNat = item.header.format := by
    simpa [ofBe] using isFormat
  rw [format]

end AttributeItem

/-- A header is read from its bytes. -/
theorem readHeader_some {bytes rest : List UInt8} {header : AttributeHeader}
    (read : readHeader bytes = some (header, rest)) :
    bytes = (⟨header, []⟩ : AttributeItem).encode ++ rest ∧ header.identifier < 2 ^ 16 ∧
      header.format < 2 ^ 8 ∧ header.length < 2 ^ 16 := by
  unfold readHeader at read
  split at read
  · rename_i id1 id2 format len1 len2 behind
    simp only [Option.some.injEq, Prod.mk.injEq] at read
    obtain ⟨rfl, rfl⟩ := read
    have isIdentifier : beBytes 2 (ofBe [id1, id2]) = [id1, id2] := beBytes_ofBe [id1, id2]
    have isLength : beBytes 2 (ofBe [len1, len2]) = [len1, len2] := beBytes_ofBe [len1, len2]
    have isFormat : beBytes 1 format.toNat = [format] := by
      have stored : beBytes 1 (ofBe [format]) = [format] := beBytes_ofBe [format]
      simpa [ofBe] using stored
    have small : ∀ first second : UInt8, ofBe [first, second] < 2 ^ 16 := by
      intro first second
      simpa using ofBe_lt [first, second]
    refine ⟨?_, small id1 id2, format.toNat_lt, small len1 len2⟩
    simp [AttributeItem.encode, isIdentifier, isLength, isFormat]
  · simp at read

/-- Five bytes are a header. -/
theorem readHeader_of_length {bytes : List UInt8} (enough : readAttributeSize ≤ bytes.length) :
    ∃ header, readHeader bytes = some (header, bytes.drop readAttributeSize) := by
  match bytes, enough with
  | _ :: _ :: _ :: _ :: _ :: rest, _ => exact ⟨_, rfl⟩

/-- A header is read from the first five bytes. -/
theorem readHeader_take {bytes rest : List UInt8} {header : AttributeHeader} {count : Nat}
    (read : readHeader bytes = some (header, rest)) (enough : readAttributeSize ≤ count) :
    readHeader (bytes.take count) = some (header, rest.take (count - readAttributeSize)) := by
  obtain ⟨more, rfl⟩ := Nat.exists_eq_add_of_le enough
  unfold readHeader at read
  split at read
  · simp only [Option.some.injEq, Prod.mk.injEq] at read
    obtain ⟨rfl, rfl⟩ := read
    simp only [readAttributeSize, Nat.add_comm 5 more, List.take_succ_cons, readHeader,
      Nat.add_sub_cancel]
  · simp at read

/-- The complete attributes in front, and the bytes left behind them. -/
def parseItems : Nat → List UInt8 → List AttributeItem × List UInt8
  | 0, bytes => ([], bytes)
  | fuel + 1, bytes =>
    match readHeader bytes with
    | none => ([], bytes)
    | some (header, rest) =>
      if rest.length < header.length then ([], bytes)
      else
        let (items, left) := parseItems fuel (rest.drop header.length)
        (⟨header, rest.take header.length⟩ :: items, left)

/-- The bytes are the attributes and what is left, and the attributes are well-formed. -/
theorem parseItems_encode (fuel : Nat) (bytes : List UInt8) :
    bytes = ((parseItems fuel bytes).1.map AttributeItem.encode).flatten ++
        (parseItems fuel bytes).2 ∧
      ∀ item ∈ (parseItems fuel bytes).1, item.WellFormed := by
  induction fuel generalizing bytes with
  | zero => simp [parseItems]
  | succ fuel ih =>
    rw [parseItems]
    cases read : readHeader bytes with
    | none => simp
    | some found =>
      obtain ⟨header, rest⟩ := found
      dsimp only
      split
      · simp
      · rename_i complete
        obtain ⟨isBytes, isIdentifier, isFormat, isLength⟩ := readHeader_some read
        obtain ⟨isRest, formed⟩ := ih (rest.drop header.length)
        constructor
        · rw [List.map_cons, List.flatten_cons, List.append_assoc, ← isRest]
          conv_lhs => rw [isBytes, ← List.take_append_drop header.length rest]
          simp [AttributeItem.encode]
        · intro item isItem
          rcases List.mem_cons.mp isItem with rfl | later
          · exact ⟨isIdentifier, isFormat, isLength, List.length_take_of_le (by omega)⟩
          · exact formed item later

/-- A sequence of well-formed attributes is cut into these attributes. -/
theorem parseItems_of_flatten {fuel : Nat} {items : List AttributeItem}
    (formed : ∀ item ∈ items, item.WellFormed)
    (enough : (items.map AttributeItem.encode).flatten.length ≤ fuel) :
    parseItems fuel (items.map AttributeItem.encode).flatten = (items, []) := by
  induction items generalizing fuel with
  | nil =>
    cases fuel with
    | zero => rfl
    | succ fuel => rfl
  | cons item rest ih =>
    have isFormed := formed item (by simp)
    simp only [List.map_cons, List.flatten_cons, List.length_append,
      AttributeItem.encode_length, readAttributeSize] at enough ⊢
    cases fuel with
    | zero => omega
    | succ fuel =>
      have later := @ih fuel (fun other isOther => formed other (by simp [isOther])) (by omega)
      rw [parseItems, isFormed.readHeader_encode]
      simp only [List.length_append, isFormed.value]
      rw [if_neg (by omega), ← isFormed.value, List.drop_left, List.take_left, later]

/-! ## The loops -/

/-- The attributes that the loops of the command look at: all complete ones, but for one without a
value at the end of the list. -/
def checkedItems (parsed : List AttributeItem × List UInt8) : List AttributeItem :=
  if parsed.2 = [] ∧ parsed.1.getLast?.map AttributeItem.value = some [] then parsed.1.dropLast
  else parsed.1

/-- Nothing is looked at in no more bytes than a header has. -/
theorem checkedItems_short {fuel : Nat} {bytes : List UInt8} (enough : bytes.length ≤ fuel)
    (short : bytes.length ≤ readAttributeSize) : checkedItems (parseItems fuel bytes) = [] := by
  cases fuel with
  | zero => simp [parseItems, checkedItems]
  | succ fuel =>
    rw [parseItems]
    cases read : readHeader bytes with
    | none => simp [checkedItems]
    | some found =>
      obtain ⟨header, rest⟩ := found
      have noRest : rest = [] := by
        have isBytes := congrArg List.length (readHeader_some read).1
        rw [List.length_append, AttributeItem.encode_length] at isBytes
        refine List.length_eq_zero_iff.mp ?_
        omega
      subst noRest
      dsimp only
      split
      · simp [checkedItems]
      · rename_i complete
        have none : header.length = 0 := by simpa using complete
        have nothing : parseItems fuel [] = ([], []) := by
          cases fuel <;> rfl
        simp [none, nothing, checkedItems]

/-- Behind more bytes than a header has, an attribute is looked at. -/
theorem checkedItems_cons {item : AttributeItem} {items : List AttributeItem} {left : List UInt8}
    (long : item.value ≠ [] ∨ items ≠ [] ∨ left ≠ []) :
    checkedItems (item :: items, left) = item :: checkedItems (items, left) := by
  unfold checkedItems
  cases items with
  | nil =>
    by_cases noLeft : left = []
    · have someValue : item.value ≠ [] := by
        rcases long with value | other | other
        · exact value
        · exact absurd rfl other
        · exact absurd noLeft other
      simp [noLeft, someValue]
    · simp [noLeft]
  | cons next rest =>
    dsimp only
    rw [List.getLast?_cons_cons]
    split <;> simp

/-- Write the entries of attributes, one after the other. -/
def writtenItems (entries : List MamEntry) (items : List AttributeItem) : List MamEntry :=
  items.foldl (fun entries item => writeEntry entries item.header.identifier item.value) entries

/-- The values that attributes have for an identifier, in their order. -/
def valuesFor (items : List AttributeItem) (identifier : Nat) : List (List UInt8) :=
  (items.filter fun item => item.header.identifier == identifier).map AttributeItem.value

/-- Whether the attribute is there after values were written to it: the last one decides. -/
def MamEntry.validAfter (values : List (List UInt8)) (entry : MamEntry) : UInt8 :=
  (values.getLast?.map fun value => if value = [] then 0 else 1).getD entry.valid

/-- The value after values were written to it: the last one that does not delete it. -/
def MamEntry.valueAfter (values : List (List UInt8)) (entry : MamEntry) : List UInt8 :=
  (values.filter fun value => value != []).getLast?.getD entry.value

/-- What values that are written one after the other leave. -/
theorem MamEntry.foldl_write {entry : MamEntry} (full : entry.length = entry.value.length)
    (values : List (List UInt8)) :
    values.foldl (fun entry value => entry.write value) entry =
      { entry with
        valid := entry.validAfter values
        length := (entry.valueAfter values).length
        value := entry.valueAfter values } := by
  induction values using List.reverseRecOn with
  | nil => simp [validAfter, valueAfter, ← full]
  | append_singleton values last ih =>
    rw [List.foldl_append, ih]
    by_cases deletes : last = []
    · simp [write, validAfter, valueAfter, deletes]
    · simp [write, validAfter, valueAfter, deletes]

/-- Values leave the identifier. -/
theorem MamEntry.foldl_write_identifier (entry : MamEntry) (values : List (List UInt8)) :
    (values.foldl (fun entry value => entry.write value) entry).identifier = entry.identifier := by
  induction values generalizing entry with
  | nil => rfl
  | cons value rest ih =>
    rw [List.foldl_cons, ih, write]
    split <;> rfl

/-- Every entry is written by the attributes with its identifier. -/
theorem writtenItems_eq (entries : List MamEntry) (items : List AttributeItem) :
    writtenItems entries items = entries.map fun entry =>
      (valuesFor items entry.identifier).foldl (fun entry value => entry.write value) entry := by
  induction items using List.reverseRecOn with
  | nil => simp [writtenItems, valuesFor]
  | append_singleton items last ih =>
    have behind : writtenItems entries (items ++ [last]) =
        writeEntry (writtenItems entries items) last.header.identifier last.value := by
      simp [writtenItems]
    rw [behind, ih, writeEntry, List.map_map]
    refine List.map_congr_left fun entry _ => ?_
    simp only [Function.comp_apply, MamEntry.foldl_write_identifier, valuesFor, List.filter_append, List.map_append,
      List.foldl_append]
    by_cases same : entry.identifier = last.header.identifier
    · simp [same]
    · simp [same, Ne.symm same]

/-- Entries hold values of their lengths. -/
theorem Mam.contents_full {mam : Mam} {entry : MamEntry} (isEntry : entry ∈ mam.contents) :
    entry.length = entry.value.length := by
  obtain ⟨attr, -, rfl⟩ := List.mem_map.mp isEntry
  simp [Mam.entry, Mam.valueBytes]

/-- What a step of the loops finds: nothing complete, or an attribute and the rest of the bytes. -/
theorem parseItems_step (fuel : Nat) {todo : Nat} {bytes rest : List UInt8} {header : AttributeHeader}
    (read : readHeader bytes = some (header, rest)) (inside : todo ≤ bytes.length)
    (more : readAttributeSize < todo) :
    if todo - readAttributeSize < header.length then
      checkedItems (parseItems (fuel + 1) (bytes.take todo)) = []
    else
      header.length ≤ rest.length ∧
        (todo - readAttributeSize - header.length ≤ (rest.drop header.length).length) ∧
        checkedItems (parseItems (fuel + 1) (bytes.take todo)) =
          ⟨header, rest.take header.length⟩ :: checkedItems (parseItems fuel
            ((rest.drop header.length).take (todo - readAttributeSize - header.length))) := by
  have restLength : bytes.length = readAttributeSize + rest.length := by
    have isBytes := congrArg List.length (readHeader_some read).1
    rwa [List.length_append, AttributeItem.encode_length] at isBytes
  have readTake := readHeader_take read (Nat.le_of_lt more)
  have takeLength : (rest.take (todo - readAttributeSize)).length = todo - readAttributeSize :=
    List.length_take_of_le (by omega)
  split
  · rename_i truncated
    have someBytes : bytes.take todo ≠ [] := by
      intro empty
      rw [empty] at readTake
      simp [readHeader] at readTake
    rw [parseItems, readTake]
    dsimp only
    rw [takeLength, if_pos truncated]
    simp [checkedItems]
  · rename_i complete
    refine ⟨by omega, by rw [List.length_drop]; omega, ?_⟩
    rw [parseItems, readTake]
    dsimp only
    rw [takeLength, if_neg complete, List.drop_take, List.take_take,
      Nat.min_eq_left (by omega : header.length ≤ todo - readAttributeSize)]
    refine checkedItems_cons ?_
    by_cases none : header.length = 0
    · -- without a value the rest is not empty, so neither are the items and what is left
      have someRest : (rest.drop header.length).take (todo - readAttributeSize - header.length) ≠
          [] := by
        intro empty
        have isLength := congrArg List.length empty
        rw [List.length_take, List.length_drop, List.length_nil] at isLength
        omega
      by_contra nothing
      simp only [not_or, not_not] at nothing
      apply someRest
      have isRest := (parseItems_encode fuel
        ((rest.drop header.length).take (todo - readAttributeSize - header.length))).1
      rw [nothing.2.1, nothing.2.2] at isRest
      exact isRest
    · refine Or.inl fun empty => none ?_
      have isLength := congrArg List.length empty
      rw [List.length_take_of_le (by omega)] at isLength
      exact isLength

/-- The first loop asks whether the attributes it looks at are accepted. -/
theorem checkAttributes_eq (mam : Mam) {fuel todo : Nat} {bytes : List UInt8}
    (enough : bytes.length ≤ fuel) (inside : todo ≤ bytes.length) :
    checkAttributes mam fuel todo bytes =
      some ((checkedItems (parseItems fuel (bytes.take todo))).all fun item =>
        mam.accepts item.header) := by
  induction fuel generalizing todo bytes with
  | zero =>
    have none : todo = 0 := by omega
    subst none
    rfl
  | succ fuel ih =>
    unfold checkAttributes
    by_cases more : readAttributeSize < todo
    · rw [if_neg (by omega)]
      obtain ⟨header, read⟩ := readHeader_of_length (Nat.le_of_lt (Nat.lt_of_lt_of_le more inside))
      have step := parseItems_step fuel read inside more
      rw [read]
      dsimp only
      split at step
      · rename_i truncated
        rw [if_pos truncated, step]
        rfl
      · rename_i complete
        obtain ⟨_, restInside, isItems⟩ := step
        rw [if_neg complete, isItems, List.all_cons]
        cases accepted : mam.accepts header with
        | false => simp
        | true =>
          simp only [Bool.not_true, Bool.false_eq_true, if_false, Bool.true_and]
          exact ih (by simp only [List.length_drop, readAttributeSize]; omega) restInside
    · rw [if_pos (by omega), checkedItems_short (by rw [List.length_take]; omega)
        (by rw [List.length_take]; omega)]
      rfl

/-- The second loop writes the entries of accepted attributes. -/
theorem applyAttributes_eq {mam : Mam} (laid : mam.Laid) {fuel todo : Nat} {bytes : List UInt8}
    (enough : bytes.length ≤ fuel) (inside : todo ≤ bytes.length)
    (accepted : ∀ item ∈ checkedItems (parseItems fuel (bytes.take todo)),
      mam.accepts item.header = true) :
    ∃ after, applyAttributes fuel todo bytes mam = some after ∧ after.Laid ∧
      after.corrupt = mam.corrupt ∧
      after.contents =
        writtenItems mam.contents (checkedItems (parseItems fuel (bytes.take todo))) := by
  induction fuel generalizing mam todo bytes with
  | zero =>
    have none : todo = 0 := by omega
    subst none
    exact ⟨mam, rfl, laid, rfl, rfl⟩
  | succ fuel ih =>
    unfold applyAttributes
    by_cases more : readAttributeSize < todo
    · rw [if_neg (by omega)]
      obtain ⟨header, read⟩ := readHeader_of_length (Nat.le_of_lt (Nat.lt_of_lt_of_le more inside))
      have step := parseItems_step fuel read inside more
      rw [read]
      dsimp only
      split at step
      · rename_i truncated
        rw [if_pos truncated, step]
        exact ⟨mam, rfl, laid, rfl, rfl⟩
      · rename_i complete
        obtain ⟨valueInside, restInside, isItems⟩ := step
        rw [isItems] at accepted ⊢
        rw [if_neg complete, if_neg (by omega)]
        have isAccepted : mam.accepts header = true := accepted _ (List.mem_cons_self ..)
        have isLength := List.length_take_of_le valueInside
        obtain ⟨after, isAfter, isLaid, isCorrupt, isContents⟩ := ih
          (Mam.applyAttribute_laid laid isAccepted isLength)
          (by simp only [List.length_drop, readAttributeSize]; omega) restInside
          (fun item isItem => by
            rw [Mam.applyAttribute_accepts laid.toPlaced isAccepted isLength]
            exact accepted item (List.mem_cons_of_mem _ isItem))
        refine ⟨after, isAfter, isLaid, isCorrupt.trans ?_, ?_⟩
        · obtain ⟨index, attr, found, isAttr, -⟩ := (mam.accepts_iff header).mp isAccepted
          unfold Mam.applyAttribute
          simp only [found, isAttr]
          split <;> rfl
        · rw [isContents, Mam.applyAttribute_contents laid isAccepted isLength]
          rfl
    · rw [if_pos (by omega), checkedItems_short (by rw [List.length_take]; omega)
        (by rw [List.length_take]; omega)]
      exact ⟨mam, rfl, laid, rfl, rfl⟩

/-- A header that is refused can be read without leaving the bytes. -/
def refusesInside (mam : Mam) (parsed : List AttributeItem × List UInt8) : Bool :=
  !(parsed.1.all fun item => mam.accepts item.header) ||
    match readHeader parsed.2 with
    | none => false
    | some (header, _) => !mam.accepts header

/-- When the loop takes the list for much longer than it is, it ends with a header that is refused
or reads outside the list. -/
theorem checkAttributes_overrun (mam : Mam) {fuel todo : Nat} {bytes : List UInt8}
    (enough : bytes.length ≤ fuel) (huge : bytes.length + 2 ^ 16 + readAttributeSize ≤ todo) :
    checkAttributes mam fuel todo bytes =
      if refusesInside mam (parseItems fuel bytes) then some false else none := by
  induction fuel generalizing todo bytes with
  | zero =>
    have none : bytes = [] := List.length_eq_zero_iff.mp (by omega)
    subst none
    unfold checkAttributes
    rw [if_neg (by omega)]
    simp [refusesInside, parseItems, readHeader]
  | succ fuel ih =>
    unfold checkAttributes
    rw [if_neg (by omega), parseItems]
    cases read : readHeader bytes with
    | none => simp [refusesInside, read]
    | some found =>
      obtain ⟨header, rest⟩ := found
      obtain ⟨isBytes, -, -, small⟩ := readHeader_some read
      have restLength : bytes.length = readAttributeSize + rest.length := by
        have sameLength := congrArg List.length isBytes
        rwa [List.length_append, AttributeItem.encode_length] at sameLength
      dsimp only
      rw [if_neg (by omega)]
      by_cases complete : rest.length < header.length
      · simp only [if_pos complete]
        have behind : checkAttributes mam fuel (todo - readAttributeSize - header.length)
            (rest.drop header.length) = none := by
          rw [List.drop_eq_nil_of_le (Nat.le_of_lt complete)]
          unfold checkAttributes
          rw [if_neg (by simp only [readAttributeSize] at *; omega)]
          cases fuel <;> rfl
        cases accepted : mam.accepts header with
        | false => simp [refusesInside, read, accepted]
        | true => simp [refusesInside, read, accepted, behind]
      · simp only [if_neg complete]
        have later := @ih (todo - readAttributeSize - header.length) (rest.drop header.length)
          (by simp only [List.length_drop, readAttributeSize] at *; omega)
          (by simp only [List.length_drop]; omega)
        cases accepted : mam.accepts header with
        | false => simp [refusesInside, accepted]
        | true =>
          simp only [Bool.not_true, Bool.false_eq_true, if_false, later, refusesInside,
            List.all_cons, accepted, Bool.true_and]
          rfl

/-! ## The command -/

/-- The parameter length at the beginning of a list. -/
def parameterLength (list : List UInt8) : Nat := ofBe (list.take 4)

/-- A list holds attributes, complete and nothing else. -/
structure HoldsAttributes (list : List UInt8) (items : List AttributeItem) : Prop where
  /-- The parameter length is inside the list. -/
  inside : parameterLength list + 4 ≤ list.length
  /-- The attributes are well-formed. -/
  formed : ∀ item ∈ items, item.WellFormed
  /-- They are all there is. -/
  bytes : (list.drop 4).take (parameterLength list) = (items.map AttributeItem.encode).flatten

/-- A list holds attributes that are all known, not read-only, and of the right format and length. -/
def HoldsWritable (mam : Mam) (list : List UInt8) (items : List AttributeItem) : Prop :=
  HoldsAttributes list items ∧ ∀ item ∈ items, mam.accepts item.header = true

/-- The command reads inside the list, and writes all attributes or none: all when they can be
written and the page is written. -/
def WritesAllOrNone (io : Bool) (list : List UInt8) (state : MamState) : Prop :=
  ∃ status after, tdriveCmdWriteAttribute io list state = some (status, after) ∧
    (∀ items, HoldsWritable state.mam list items → io = true → state.mam.corrupt = false →
      after.mam.contents = writtenItems state.mam.contents items) ∧
    ((∀ items, ¬HoldsWritable state.mam list items) ∨ io = false ∨ state.mam.corrupt = true →
      after.mam.contents = state.mam.contents)

/-- The attributes of a list, and what is left behind them. -/
def listItems (list : List UInt8) : List AttributeItem × List UInt8 :=
  parseItems list.length ((list.drop 4).take (parameterLength list))

/-- All attributes of a list should be written: the list ends with the last of them, they are
accepted, and the page is written. -/
def Complete (io : Bool) (list : List UInt8) (mam : Mam) : Prop :=
  io = true ∧ (listItems list).2 = [] ∧
    ∀ item ∈ (listItems list).1, mam.accepts item.header = true

/-- If the list ends with an attribute without a value, it deletes what is not there any more after
the attributes in front of it. -/
def EndsIdle (list : List UInt8) (mam : Mam) : Prop :=
  ∀ item, (listItems list).1.getLast? = some item → item.value = [] →
    ∀ entry ∈ mam.contents, entry.identifier = item.header.identifier →
      entry.validAfter (valuesFor (listItems list).1.dropLast entry.identifier) = 0

/-- Attributes leave every entry the value that it has, and there or not as it is. -/
def KeepsEntries (items : List AttributeItem) (entries : List MamEntry) : Prop :=
  ∀ entry ∈ entries, entry.validAfter (valuesFor items entry.identifier) = entry.valid ∧
    entry.valueAfter (valuesFor items entry.identifier) = entry.value

/-- When the command does what it should. The parameter length is inside the list, and an attribute
that is looked at is refused; or all attributes should be written, and a deletion that is not looked
at at the end has nothing to delete; or not all of them can be written, and those that are looked at
change nothing. Or the parameter length is not inside the list, and is not near enough to `2 ^ 32` to
look as if it were, or a refused attribute is found inside the list. -/
def WritesWell (io : Bool) (list : List UInt8) (state : MamState) : Prop :=
  state.mam.corrupt = true ∨
    (parameterLength list + 4 ≤ list.length ∧
      ((∃ item ∈ checkedItems (listItems list), state.mam.accepts item.header = false) ∨
        (Complete io list state.mam ∧ EndsIdle list state.mam) ∨
        (¬Complete io list state.mam ∧
          KeepsEntries (checkedItems (listItems list)) state.mam.contents))) ∨
    (list.length < parameterLength list + 4 ∧
      (parameterLength list + 4 < 2 ^ 32 ∨
        refusesInside state.mam (parseItems list.length (list.drop 4)) = true))

/-- A list holds the attributes it is cut into, if nothing is left. -/
theorem holdsAttributes_iff {list : List UInt8} (items : List AttributeItem)
    (inside : parameterLength list + 4 ≤ list.length) :
    HoldsAttributes list items ↔ listItems list = (items, []) := by
  have short : ((list.drop 4).take (parameterLength list)).length ≤ list.length := by
    rw [List.length_take, List.length_drop]
    omega
  constructor
  · intro holds
    rw [listItems, holds.bytes, parseItems_of_flatten holds.formed (by rw [← holds.bytes]; exact short)]
  · intro isItems
    have isBytes := parseItems_encode list.length ((list.drop 4).take (parameterLength list))
    rw [show parseItems list.length ((list.drop 4).take (parameterLength list)) = _ from isItems]
      at isBytes
    exact ⟨inside, isBytes.2, by simpa using isBytes.1⟩

/-- The checksum is behind the values. -/
theorem Mam.Laid.contents_csum {mam : Mam} (laid : mam.Laid) (stored : List UInt8) :
    ({ mam with page := mam.page.write rawMamOffset stored } : Mam).contents = mam.contents := by
  refine List.map_congr_left fun attr isAttr => ?_
  obtain ⟨index, isAttr⟩ := List.mem_iff_getElem?.mp isAttr
  have area := laid.area_le isAttr
  have room := laid.fits attr (List.mem_of_getElem? isAttr)
  have sameValue : ({ mam with page := mam.page.write rawMamOffset stored } : Mam).valueBytes attr
      attr.length = mam.valueBytes attr attr.length :=
    Mam.valueBytes_congr fun offset isOffset => Buffer.write_data_before _ _ _ (by omega)
  rw [Mam.entry, Mam.entry, sameValue]

/-- What is looked at is among the attributes. -/
theorem mem_of_mem_checkedItems {parsed : List AttributeItem × List UInt8} {item : AttributeItem}
    (isItem : item ∈ checkedItems parsed) : item ∈ parsed.1 := by
  unfold checkedItems at isItem
  split at isItem
  · exact List.dropLast_subset _ isItem
  · exact isItem

/-- A list holds attributes that can be written if all of its attributes can. -/
theorem holdsWritable_iff {list : List UInt8} {mam : Mam} (items : List AttributeItem)
    (inside : parameterLength list + 4 ≤ list.length) :
    HoldsWritable mam list items ↔ items = (listItems list).1 ∧ Complete true list mam := by
  rw [HoldsWritable, holdsAttributes_iff items inside]
  constructor
  · rintro ⟨isItems, accepted⟩
    simp only [Complete, isItems, true_and]
    exact accepted
  · rintro ⟨rfl, -, nothing, accepted⟩
    exact ⟨Prod.ext rfl nothing, accepted⟩

/-- Attributes change nothing when they leave every entry what it has. -/
theorem writtenItems_eq_self_iff (mam : Mam) (items : List AttributeItem) :
    writtenItems mam.contents items = mam.contents ↔ KeepsEntries items mam.contents := by
  rw [writtenItems_eq]
  conv_lhs => rhs; rw [← List.map_id mam.contents]
  rw [List.map_inj_left]
  refine forall₂_congr fun entry isEntry => ?_
  rw [MamEntry.foldl_write (Mam.contents_full isEntry), id]
  constructor
  · intro same
    exact ⟨congrArg MamEntry.valid same, congrArg MamEntry.value same⟩
  · rintro ⟨sameValid, sameValue⟩
    rw [sameValid, sameValue, ← Mam.contents_full isEntry]

/-- Without a deletion at the end the same is left when the deletion has nothing to delete. -/
theorem writtenItems_checked_iff {list : List UInt8} {mam : Mam}
    (nothing : (listItems list).2 = []) :
    writtenItems mam.contents (checkedItems (listItems list)) =
        writtenItems mam.contents (listItems list).1 ↔ EndsIdle list mam := by
  unfold checkedItems EndsIdle
  rcases List.eq_nil_or_concat (listItems list).1 with none | ⟨front, last, isItems⟩
  · simp [none]
  simp only [nothing, isItems, List.concat_eq_append, List.getLast?_concat, List.dropLast_concat,
    Option.map_some, Option.some.injEq, true_and, forall_eq']
  by_cases deletes : last.value = []
  · rw [if_pos deletes, writtenItems_eq, writtenItems_eq, List.map_inj_left]
    simp only [deletes, true_imp_iff]
    refine forall₂_congr fun entry isEntry => ?_
    simp only [valuesFor, List.filter_append, List.map_append, List.foldl_append]
    by_cases same : entry.identifier = last.header.identifier
    · rw [MamEntry.foldl_write (Mam.contents_full isEntry)]
      simp [same, deletes, MamEntry.write]
    · simp [same, Ne.symm same]
  · simp [deletes]

/-- The parameter length is a 32-bit number. -/
theorem parameterLength_lt (list : List UInt8) : parameterLength list < 2 ^ 32 := by
  have below := ofBe_lt (list.take 4)
  have atMost : (256 : Nat) ^ (list.take 4).length ≤ 256 ^ 4 :=
    Nat.pow_le_pow_right (by decide) (List.length_take_le 4 list)
  exact Nat.lt_of_lt_of_le below atMost

/-- The command, on a list that is long enough to have a parameter length. -/
theorem tdriveCmdWriteAttribute_eq (io : Bool) {list : List UInt8} (state : MamState)
    (large : 4 ≤ list.length) :
    tdriveCmdWriteAttribute io list state =
      if list.length < (parameterLength list + 4) % 2 ^ 32 then some (.illegalRequest, state)
      else if state.mam.corrupt then some (.mediumError, state)
      else
        match checkAttributes state.mam list.length (parameterLength list) (list.drop 4) with
        | none => none
        | some false => some (.illegalRequest, state)
        | some true =>
          match applyAttributes list.length (parameterLength list) (list.drop 4) state.mam with
          | none => none
          | some mam =>
            match tapePartitionWriteMam io { state with mam := mam } with
            | (true, state) => some (.good, state)
            | (false, state) => some (.writeError, state) := by
  have someList : list ≠ [] := by
    rintro rfl
    simp at large
  rw [tdriveCmdWriteAttribute, if_neg someList, if_neg (by omega)]
  rfl

section Command

variable {io : Bool} {list : List UInt8} {state : MamState}

/-- What the command leaves when nothing that it looks at is refused. -/
theorem tdriveCmdWriteAttribute_applied (io : Bool) (laid : state.mam.Laid)
    (large : 4 ≤ list.length) (small : list.length ≤ 65536) (intact : state.mam.corrupt = false)
    (inside : parameterLength list + 4 ≤ list.length)
    (accepted : ∀ item ∈ checkedItems (listItems list), state.mam.accepts item.header = true) :
    ∃ status after, tdriveCmdWriteAttribute io list state = some (status, after) ∧
      after.mam.contents = writtenItems state.mam.contents (checkedItems (listItems list)) := by
  have short : (list.drop 4).length ≤ list.length := by
    rw [List.length_drop]
    omega
  have isInside : parameterLength list ≤ (list.drop 4).length := by
    rw [List.length_drop]
    omega
  obtain ⟨mam, isApplied, isLaid, isCorrupt, isContents⟩ :=
    applyAttributes_eq laid short isInside accepted
  have checked : checkAttributes state.mam list.length (parameterLength list) (list.drop 4) =
      some ((checkedItems (listItems list)).all fun item => state.mam.accepts item.header) :=
    checkAttributes_eq state.mam short isInside
  rw [List.all_eq_true.mpr (fun item isItem => accepted item isItem)] at checked
  have written : tapePartitionWriteMam io { state with mam := mam } =
      (io, ⟨{ mam with page := mam.page.write rawMamOffset (leBytes 2 mam.csum) },
        if io then (mam.page.write rawMamOffset (leBytes 2 mam.csum)).data else state.disk⟩) := by
    rw [tapePartitionWriteMam, if_neg (by simp [isCorrupt, intact])]
  rw [tdriveCmdWriteAttribute_eq io state large,
    if_neg (by rw [Nat.mod_eq_of_lt (by omega)]; omega)]
  simp only [intact, Bool.false_eq_true, if_false, checked, isApplied, written]
  cases io <;> exact ⟨_, _, rfl, (isLaid.contents_csum _).trans isContents⟩

/-- A command that leaves everything as it is does what it should when nothing should change. -/
theorem writesAllOrNone_of_unchanged (status : WriteAttribute)
    (isResult : tdriveCmdWriteAttribute io list state = some (status, state))
    (nothing : (∀ items, ¬HoldsWritable state.mam list items) ∨ state.mam.corrupt = true) :
    WritesAllOrNone io list state := by
  refine ⟨status, state, isResult, fun items holds isIo intact => ?_, fun _ => rfl⟩
  rcases nothing with none | isCorrupt
  · exact absurd holds (none items)
  · rw [intact] at isCorrupt
    cases isCorrupt

/-- An attribute that is looked at and refused leaves everything as it is. -/
theorem writesAllOrNone_of_refused (large : 4 ≤ list.length) (small : list.length ≤ 65536)
    (intact : state.mam.corrupt = false) (inside : parameterLength list + 4 ≤ list.length)
    {item : AttributeItem} (isItem : item ∈ checkedItems (listItems list))
    (isRefused : state.mam.accepts item.header = false) : WritesAllOrNone io list state := by
  have checked : checkAttributes state.mam list.length (parameterLength list) (list.drop 4) =
      some ((checkedItems (listItems list)).all fun item => state.mam.accepts item.header) :=
    checkAttributes_eq state.mam (by rw [List.length_drop]; omega) (by rw [List.length_drop]; omega)
  rw [List.all_eq_false.mpr ⟨item, isItem, by simp [isRefused]⟩] at checked
  have isResult : tdriveCmdWriteAttribute io list state = some (.illegalRequest, state) := by
    rw [tdriveCmdWriteAttribute_eq io state large,
      if_neg (by rw [Nat.mod_eq_of_lt (by omega)]; omega)]
    simp only [intact, Bool.false_eq_true, if_false, checked]
  refine writesAllOrNone_of_unchanged _ isResult (Or.inl fun items holds => ?_)
  rw [(holdsAttributes_iff items inside).mp holds.1] at isItem
  have isAccepted := holds.2 item (mem_of_mem_checkedItems isItem)
  rw [isRefused] at isAccepted
  cases isAccepted

/-- With nothing refused the command does what it should when all attributes should be written and
a deletion at the end has nothing to delete, or when those that are looked at change nothing. -/
theorem writesAllOrNone_iff_accepted (laid : state.mam.Laid) (large : 4 ≤ list.length)
    (small : list.length ≤ 65536) (intact : state.mam.corrupt = false)
    (inside : parameterLength list + 4 ≤ list.length)
    (accepted : ∀ item ∈ checkedItems (listItems list), state.mam.accepts item.header = true) :
    WritesAllOrNone io list state ↔ (Complete io list state.mam ∧ EndsIdle list state.mam) ∨
      (¬Complete io list state.mam ∧
        KeepsEntries (checkedItems (listItems list)) state.mam.contents) := by
  obtain ⟨status, after, isResult, isContents⟩ :=
    tdriveCmdWriteAttribute_applied io laid large small intact inside accepted
  have same : ∀ {status' after'}, tdriveCmdWriteAttribute io list state = some (status', after') →
      after' = after := by
    intro status' after' isOther
    rw [isResult] at isOther
    cases isOther
    rfl
  by_cases complete : Complete io list state.mam
  · have isIo : io = true := complete.1
    have held := (holdsWritable_iff (listItems list).1 inside).mpr ⟨rfl, isIo ▸ complete⟩
    simp only [complete, true_and, not_true_eq_false, false_and, or_false]
    rw [← writtenItems_checked_iff complete.2.1, ← isContents]
    constructor
    · rintro ⟨status', after', isOther, all, -⟩
      rw [← same isOther]
      exact all _ held isIo intact
    · intro wanted
      refine ⟨status, after, isResult, fun items holds _ _ => ?_, fun nothing => ?_⟩
      · rw [wanted, ((holdsWritable_iff items inside).mp holds).1]
      · rcases nothing with none | notIo | isCorrupt
        · exact absurd held (none _)
        · simp [isIo] at notIo
        · simp [intact] at isCorrupt
  · have nothing : (∀ items, ¬HoldsWritable state.mam list items) ∨ io = false := by
      cases io with
      | false => exact Or.inr rfl
      | true => exact Or.inl fun items holds => complete ((holdsWritable_iff items inside).mp holds).2
    simp only [complete, false_and, not_false_eq_true, true_and, false_or]
    rw [← writtenItems_eq_self_iff, ← isContents]
    constructor
    · rintro ⟨status', after', isOther, -, none⟩
      rw [← same isOther]
      exact none (nothing.imp_right Or.inl)
    · intro kept
      refine ⟨status, after, isResult, fun items holds isIo _ => ?_, fun _ => kept⟩
      rcases nothing with none | notIo
      · exact absurd holds (none items)
      · simp [isIo] at notIo

/-- With a parameter length that is not inside the list the command does what it should unless it
does not notice: near `2 ^ 32` only a refused attribute stops it before it reads outside the list. -/
theorem writesAllOrNone_iff_outside (large : 4 ≤ list.length) (small : list.length ≤ 65536)
    (intact : state.mam.corrupt = false) (outside : list.length < parameterLength list + 4) :
    WritesAllOrNone io list state ↔ parameterLength list + 4 < 2 ^ 32 ∨
      refusesInside state.mam (parseItems list.length (list.drop 4)) = true := by
  have number := parameterLength_lt list
  have notHeld : ∀ items, ¬HoldsWritable state.mam list items := fun _ holds =>
    absurd holds.1.inside (by omega)
  by_cases below : parameterLength list + 4 < 2 ^ 32
  · refine iff_of_true (writesAllOrNone_of_unchanged .illegalRequest ?_ (Or.inl notHeld)) (Or.inl below)
    rw [tdriveCmdWriteAttribute_eq io state large, if_pos (by rw [Nat.mod_eq_of_lt below]; omega)]
  · have checked := checkAttributes_overrun state.mam
      (show (list.drop 4).length ≤ list.length by rw [List.length_drop]; omega)
      (show (list.drop 4).length + 2 ^ 16 + readAttributeSize ≤ parameterLength list by
        rw [List.length_drop]
        simp only [readAttributeSize]
        omega)
    cases refused : refusesInside state.mam (parseItems list.length (list.drop 4)) with
    | true =>
      refine iff_of_true (writesAllOrNone_of_unchanged .illegalRequest ?_ (Or.inl notHeld)) (Or.inr rfl)
      simp only [refused, if_true] at checked
      rw [tdriveCmdWriteAttribute_eq io state large, if_neg (by omega)]
      simp only [intact, Bool.false_eq_true, if_false, checked]
    | false =>
      simp only [below, Bool.false_eq_true, or_self, iff_false]
      rintro ⟨status, after, isResult, -⟩
      simp only [refused, Bool.false_eq_true, if_false] at checked
      rw [tdriveCmdWriteAttribute_eq io state large, if_neg (by omega)] at isResult
      simp only [intact, Bool.false_eq_true, if_false, checked] at isResult
      cases isResult

end Command

/-- The command does what it should exactly when it does not take the list for longer than it is and
applies the attributes it should. -/
theorem tdriveCmdWriteAttribute_allOrNone_iff (io : Bool) (list : List UInt8) (state : MamState)
    (laid : state.mam.Laid) (large : 4 ≤ list.length) (small : list.length ≤ 65536) :
    WritesAllOrNone io list state ↔ WritesWell io list state := by
  unfold WritesWell
  by_cases isCorrupt : state.mam.corrupt = true
  · refine iff_of_true ?_ (Or.inl isCorrupt)
    have isResult : ∃ status, tdriveCmdWriteAttribute io list state = some (status, state) := by
      rw [tdriveCmdWriteAttribute_eq io state large]
      simp only [isCorrupt, if_true]
      split
      · exact ⟨_, rfl⟩
      · exact ⟨_, rfl⟩
    obtain ⟨status, isResult⟩ := isResult
    exact writesAllOrNone_of_unchanged status isResult (Or.inr isCorrupt)
  have intact : state.mam.corrupt = false := by simpa using isCorrupt
  simp only [intact, Bool.false_eq_true, false_or]
  by_cases inside : parameterLength list + 4 ≤ list.length
  · simp only [inside, true_and, Nat.not_lt.mpr inside, false_and, or_false]
    by_cases refused : ∃ item ∈ checkedItems (listItems list),
        state.mam.accepts item.header = false
    · obtain ⟨item, isItem, isRefused⟩ := refused
      exact iff_of_true (writesAllOrNone_of_refused large small intact inside isItem isRefused)
        (Or.inl ⟨item, isItem, isRefused⟩)
    · simp only [refused, false_or]
      refine writesAllOrNone_iff_accepted laid large small intact inside fun item isItem => ?_
      by_contra isRefused
      exact refused ⟨item, isItem, by simpa using isRefused⟩
  · simp only [inside, false_and, Nat.lt_of_not_le inside, true_and, false_or]
    exact writesAllOrNone_iff_outside large small intact (Nat.lt_of_not_le inside)

/-- A partition that was created. -/
def createdPartition : MamState := (tapePartitionCreateMam true .lto5 fun _ => 0).2

/-- A localization identifier of seven and the name of a vendor. -/
def twoAttributes : List UInt8 :=
  [0, 0, 0, 19, 0x08, 0x05, 0x00, 0, 1, 7,
    0x08, 0x00, 0x01, 0, 8, 0x51, 0x55, 0x41, 0x44, 0x53, 0x54, 0x4F, 0x52]

/-- Two attributes are written to a partition that was created. -/
theorem tdriveCmdWriteAttribute_allOrNone_two :
    WritesAllOrNone true twoAttributes createdPartition := by
  refine (tdriveCmdWriteAttribute_allOrNone_iff true _ _
    (tapePartitionCreateMam_laid true .lto5 fun _ => 0) (by decide) (by decide)).mpr
      (Or.inr (Or.inl ⟨by decide, Or.inr (Or.inl ⟨⟨rfl, by decide +kernel, by decide +kernel⟩, ?_⟩)⟩))
  intro item isLast noValue
  have someValue : (listItems twoAttributes).1.getLast?.all fun item => item.value != [] := by
    decide +kernel
  simp [isLast, noValue] at someValue

/-- On a partition that was created the deletion of the volume identifier is ignored, an attribute in front of
three stray bytes is written, and a parameter length of `2 ^ 32 - 1` makes the command read outside
the list. -/
theorem tdriveCmdWriteAttribute_not_allOrNone :
    (tdriveCmdWriteAttribute true [0, 0, 0, 5, 0x00, 0x08, 0x01, 0, 0]
        createdPartition).map
          (fun ended => (ended.1, ended.2.mam.attributes[8]?.map MamAttribute.valid)) =
        some (.good, some 1) ∧
      (tdriveCmdWriteAttribute true [0, 0, 0, 9, 0x08, 0x05, 0x00, 0, 1, 7, 0x08, 0x05, 0x00]
        createdPartition).map
          (fun ended => (ended.1, ended.2.mam.attributes[51]?.map MamAttribute.valid)) =
        some (.good, some 1) ∧
      createdPartition.mam.attributes[51]?.map
        MamAttribute.valid = some 0 ∧
      (tdriveCmdWriteAttribute true [0xFF, 0xFF, 0xFF, 0xFF]
        createdPartition).isNone = true := by
  decide +kernel

end VirtualTape
