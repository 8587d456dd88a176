import VirtualTape.Core.Mam

/-!
# Attributes apart

The value of every attribute has an area of its own in the page. What a partition remembers is the
list of its entries: of each attribute its length, whether it is there, and its value. To apply an
attribute of a parameter list changes the entry of that attribute and no other one.
-/

namespace VirtualTape

/-! ## Areas -/

/-- Where the area of an attribute begins: behind those in front of it. -/
def areaOffset (attributes : List MamAttribute) (index : Nat) : Nat :=
  mamAttributeDataOffset + ((attributes.map mamAttrMaxLength).take index).sum

/-- The next area begins where this one ends. -/
theorem areaOffset_succ {attributes : List MamAttribute} {index : Nat} {attr : MamAttribute}
    (isAttr : attributes[index]? = some attr) :
    areaOffset attributes (index + 1) = areaOffset attributes index + mamAttrMaxLength attr := by
  rw [areaOffset, List.take_add_one, List.getElem?_map, isAttr]
  simp [areaOffset, Nat.add_assoc]

/-- Areas follow each other. -/
theorem areaOffset_mono (attributes : List MamAttribute) {first second : Nat}
    (le : first ≤ second) : areaOffset attributes first ≤ areaOffset attributes second := by
  obtain ⟨more, rfl⟩ := Nat.exists_eq_add_of_le le
  rw [areaOffset, areaOffset, List.take_add, List.sum_append]
  omega

/-- What the table says about an attribute for good. -/
def MamAttribute.name (attr : MamAttribute) : Nat × Nat := (attr.identifier, attr.format)

/-- The attributes are those of the table and their values follow each other. -/
structure Mam.Placed (mam : Mam) : Prop where
  /-- The attributes of the table. -/
  named : mam.attributes.map MamAttribute.name = mamAttributes.map MamAttribute.name
  /-- The values in their areas. -/
  placed : ∀ index attr, mam.attributes[index]? = some attr →
    attr.value = areaOffset mam.attributes index

/-- Every value has room in its area and every area has room in the page. -/
structure Mam.Laid (mam : Mam) : Prop extends mam.Placed where
  /-- The page is a page. -/
  pageSize : mam.page.size = 4096
  /-- The areas end before the checksum. -/
  within : areaOffset mam.attributes mam.attributes.length ≤ rawMamOffset
  /-- The values are no longer than their areas. -/
  fits : ∀ attr ∈ mam.attributes, attr.length ≤ mamAttrMaxLength attr

namespace Mam

variable {mam : Mam}

/-- There are as many attributes as in the table. -/
theorem Placed.length (placed : mam.Placed) : mam.attributes.length = 64 := by
  have same := congrArg List.length placed.named
  rw [List.length_map, List.length_map] at same
  rw [same]
  rfl

/-- The area of an attribute ends before that of a later one begins. -/
theorem Placed.apart (placed : mam.Placed) {first second : Nat} {attr other : MamAttribute}
    (isAttr : mam.attributes[first]? = some attr) (isOther : mam.attributes[second]? = some other)
    (less : first < second) : attr.value + mamAttrMaxLength attr ≤ other.value := by
  rw [placed.placed first attr isAttr, placed.placed second other isOther,
    ← areaOffset_succ isAttr]
  exact areaOffset_mono mam.attributes less

/-- Values are behind the raw attributes. -/
theorem Placed.behind (placed : mam.Placed) {index : Nat} {attr : MamAttribute}
    (isAttr : mam.attributes[index]? = some attr) : mamAttributeDataOffset ≤ attr.value := by
  rw [placed.placed index attr isAttr]
  exact Nat.le_add_right _ _

/-- An area ends before the checksum. -/
theorem Laid.area_le (laid : mam.Laid) {index : Nat} {attr : MamAttribute}
    (isAttr : mam.attributes[index]? = some attr) :
    attr.value + mamAttrMaxLength attr ≤ rawMamOffset := by
  rw [laid.placed index attr isAttr, ← areaOffset_succ isAttr]
  exact Nat.le_trans (areaOffset_mono mam.attributes (List.getElem?_eq_some_iff.mp isAttr).1)
    laid.within

/-- Attributes are placed one behind the other from where the first one begins. -/
theorem mamInitFrom_placed (page : Buffer) (load : Bool) (start ptr : Nat)
    (table : List MamAttribute) {index : Nat} {attr : MamAttribute}
    (isAttr : (mamInitFrom page load start ptr table)[index]? = some attr) :
    attr.value =
      ptr + (((mamInitFrom page load start ptr table).map mamAttrMaxLength).take index).sum := by
  induction table generalizing start ptr index with
  | nil => simp [mamInitFrom] at isAttr
  | cons first rest ih =>
    rw [mamInitFrom] at isAttr ⊢
    cases index with
    | zero =>
      simp only [List.getElem?_cons_zero, Option.some.injEq] at isAttr
      subst isAttr
      cases load <;> simp
    | succ index =>
      simp only [List.getElem?_cons_succ] at isAttr
      simp only [List.map_cons, List.take_succ_cons, List.sum_cons]
      rw [ih _ _ isAttr, Nat.add_assoc]

/-- Attributes keep the names of the table. -/
theorem mamInitFrom_named (page : Buffer) (load : Bool) (start ptr : Nat)
    (table : List MamAttribute) :
    (mamInitFrom page load start ptr table).map MamAttribute.name =
      table.map MamAttribute.name := by
  induction table generalizing start ptr with
  | nil => rfl
  | cons first rest ih =>
    rw [mamInitFrom, List.map_cons, List.map_cons, ih]
    cases load <;> rfl

/-- Attributes are placed when they are set up. -/
theorem tapePartitionMamInit_placed (page : Buffer) (load corrupt : Bool) :
    (⟨page, tapePartitionMamInit page load, corrupt⟩ : Mam).Placed :=
  ⟨mamInitFrom_named page load 0 mamAttributeDataOffset mamAttributes,
    fun _ _ isAttr => mamInitFrom_placed page load 0 mamAttributeDataOffset mamAttributes isAttr⟩

/-! ## Looking an attribute up -/

/-- An attribute is found by its identifier alone. -/
theorem getAttribute_eq (mam : Mam) (identifier : Nat) :
    mam.getAttribute identifier = if identifier = 0xFFFF then none else
      ((mam.attributes.map MamAttribute.name).map Prod.fst).findIdx? (· == identifier) := by
  rw [getAttribute, List.map_map, List.findIdx?_map]
  rfl

/-- Attributes with the names of others are found where those are. -/
theorem getAttribute_congr {mam other : Mam} (identifier : Nat)
    (same : mam.attributes.map MamAttribute.name = other.attributes.map MamAttribute.name) :
    mam.getAttribute identifier = other.getAttribute identifier := by
  rw [getAttribute_eq, getAttribute_eq, same]

/-- What is found has the identifier, and it is there. -/
theorem getAttribute_some {identifier index : Nat}
    (found : mam.getAttribute identifier = some index) :
    identifier ≠ 0xFFFF ∧ ∃ attr, mam.attributes[index]? = some attr ∧
      attr.identifier = identifier := by
  unfold getAttribute at found
  split at found
  · simp at found
  · rename_i notReserved
    obtain ⟨bound, isIdentifier, -⟩ := List.findIdx?_eq_some_iff_getElem.mp found
    exact ⟨notReserved, _, List.getElem?_eq_getElem bound, by simpa using isIdentifier⟩

/-- Only reserved attributes share an identifier. -/
theorem table_distinct :
    ∀ first < 64, ∀ second < 64,
      (mamAttributes[first]?.map MamAttribute.identifier) =
        mamAttributes[second]?.map MamAttribute.identifier →
      mamAttributes[first]?.map MamAttribute.identifier = some 0xFFFF ∨ first = second := by
  decide +kernel

/-- Attributes with the same identifier are the same one. -/
theorem Placed.index_eq (placed : mam.Placed) {first second : Nat} {attr other : MamAttribute}
    (isAttr : mam.attributes[first]? = some attr) (isOther : mam.attributes[second]? = some other)
    (same : attr.identifier = other.identifier) (notReserved : attr.identifier ≠ 0xFFFF) :
    first = second := by
  have isName : ∀ index : Nat, (mam.attributes[index]?).map MamAttribute.identifier =
      (mamAttributes[index]?).map MamAttribute.identifier := by
    intro index
    have names := congrArg (fun names : List (Nat × Nat) => names[index]?.map Prod.fst) placed.named
    simpa [List.getElem?_map, Option.map_map, Function.comp_def, MamAttribute.name] using names
  have bound : ∀ {index : Nat} {attr : MamAttribute}, mam.attributes[index]? = some attr →
      index < 64 := by
    intro index attr isAttr
    rw [← placed.length]
    exact (List.getElem?_eq_some_iff.mp isAttr).1
  have alike : (mamAttributes[first]?).map MamAttribute.identifier =
      (mamAttributes[second]?).map MamAttribute.identifier := by
    rw [← isName, ← isName, isAttr, isOther]
    simp [same]
  rcases table_distinct first (bound isAttr) second (bound isOther) alike with reserved | equal
  · rw [← isName, isAttr] at reserved
    exact absurd (by simpa using reserved) notReserved
  · exact equal

/-! ## Entries -/

end Mam

/-- What is remembered about an attribute. -/
structure MamEntry where
  /-- Identifier. -/
  identifier : Nat
  /-- Format. -/
  format : Nat
  /-- Length of the value. -/
  length : Nat
  /-- The attribute is there. -/
  valid : UInt8
  /-- The value. -/
  value : List UInt8
  deriving DecidableEq, Repr

namespace Mam

variable {mam : Mam}

/-- The entry of an attribute. -/
def entry (mam : Mam) (attr : MamAttribute) : MamEntry :=
  ⟨attr.identifier, attr.format, attr.length, attr.valid, mam.valueBytes attr attr.length⟩

/-- The entries of a partition. -/
def contents (mam : Mam) : List MamEntry := mam.attributes.map mam.entry

/-- A value is what the page holds there. -/
theorem valueBytes_congr {mam other : Mam} {attr : MamAttribute} {count : Nat}
    (same : ∀ index < count,
      mam.page.data (attr.value + index) = other.page.data (attr.value + index)) :
    mam.valueBytes attr count = other.valueBytes attr count :=
  List.map_congr_left fun index isIndex => same index (List.mem_range.mp isIndex)

end Mam

/-- An entry after a value was written to it; no bytes delete it. -/
def MamEntry.write (value : List UInt8) (entry : MamEntry) : MamEntry :=
  if value = [] then { entry with valid := 0 }
  else { entry with valid := 1, length := value.length, value := value }

/-- Write a value to the entry with an identifier. -/
def writeEntry (entries : List MamEntry) (identifier : Nat) (value : List UInt8) : List MamEntry :=
  entries.map fun entry => if entry.identifier = identifier then entry.write value else entry

/-! ## Applying one attribute -/

namespace Mam

variable {mam : Mam}

/-- A header is accepted for the attribute it names. -/
theorem accepts_iff (mam : Mam) (header : AttributeHeader) :
    mam.accepts header = true ↔ ∃ index attr, mam.getAttribute header.identifier = some index ∧
      mam.attributes[index]? = some attr ∧ header.acceptedFor attr = true := by
  unfold accepts
  cases found : mam.getAttribute header.identifier with
  | none => simp
  | some index =>
    cases isAttr : mam.attributes[index]? with
    | none => simp [isAttr]
    | some attr => simp [isAttr]

/-- An accepted value has room in the area. -/
theorem acceptedFor_length_le {header : AttributeHeader} {attr : MamAttribute}
    (accepted : header.acceptedFor attr = true) : header.length ≤ mamAttrMaxLength attr := by
  simp only [AttributeHeader.acceptedFor, Bool.and_eq_true] at accepted
  have lengthOk := accepted.2
  unfold mamAttrLengthValid at lengthOk
  unfold mamAttrMaxLength
  split at lengthOk
  · omega
  · split at lengthOk
    · rename_i isVolume
      rw [if_pos isVolume]
      simpa using lengthOk
    · split at lengthOk
      · rename_i notVolume isCoherency
        rw [if_neg notVolume, if_pos isCoherency]
        simp only [Bool.and_eq_true, decide_eq_true_eq] at lengthOk
        exact lengthOk.2
      · rename_i notVolume notCoherency
        rw [if_neg notVolume, if_neg notCoherency]
        exact Nat.le_of_eq (by simpa using lengthOk)

/-- The length of an attribute after an accepted value is that of the value. -/
theorem mamAttrSetLength_length {header : AttributeHeader} {attr : MamAttribute}
    (accepted : header.acceptedFor attr = true) (some : header.length ≠ 0) :
    (mamAttrSetLength header.length { attr with valid := 1 }).length = header.length := by
  simp only [AttributeHeader.acceptedFor, Bool.and_eq_true] at accepted
  have lengthOk := accepted.2
  unfold mamAttrLengthValid at lengthOk
  rw [if_neg some] at lengthOk
  unfold mamAttrSetLength
  split
  · rfl
  · rename_i other
    have notVolume : attr.identifier ≠ 0x0008 := fun isVolume => other ⟨some, Or.inl isVolume⟩
    have notCoherency : attr.identifier ≠ 0x080C := fun isOther => other ⟨some, Or.inr isOther⟩
    rw [if_neg notVolume, if_neg notCoherency] at lengthOk
    exact (by simpa using lengthOk : header.length = attr.length).symm

end Mam

/-- What a change of length leaves as it was. -/
theorem mamAttrSetLength_same (length : Nat) (attr : MamAttribute) :
    (mamAttrSetLength length attr).identifier = attr.identifier ∧
      (mamAttrSetLength length attr).format = attr.format ∧
      (mamAttrSetLength length attr).valid = attr.valid ∧
      (mamAttrSetLength length attr).value = attr.value ∧
      mamAttrMaxLength (mamAttrSetLength length attr) = mamAttrMaxLength attr := by
  unfold mamAttrSetLength
  split
  · rename_i changes
    refine ⟨rfl, rfl, rfl, rfl, ?_⟩
    unfold mamAttrMaxLength
    rcases changes.2 with isVolume | isCoherency
    · rw [if_pos isVolume, if_pos isVolume]
    · simp [isCoherency]
  · exact ⟨rfl, rfl, rfl, rfl, rfl⟩

/-- Attributes that stand for the same thing in the same place. -/
structure MamAttribute.Alike (attr other : MamAttribute) : Prop where
  /-- Name. -/
  name : other.name = attr.name
  /-- Place of the value. -/
  value : other.value = attr.value
  /-- Size of the area. -/
  maxLength : mamAttrMaxLength other = mamAttrMaxLength attr

/-- A function that does not tell two items apart does not tell lists apart in which one is put in the
place of the other. -/
theorem map_set_of_eq {α β : Type} {items : List α} {index : Nat} {item other : α}
    (isItem : items[index]? = some item) (f : α → β) (same : f other = f item) :
    (items.set index other).map f = items.map f := by
  rw [List.map_set, same]
  refine List.ext_getElem? fun place => ?_
  rw [List.getElem?_set]
  split
  · rename_i isIndex
    subst isIndex
    have bound := (List.getElem?_eq_some_iff.mp isItem).1
    rw [List.length_map, if_pos bound, List.getElem?_map, isItem]
    rfl
  · rfl

/-- A memory in which one attribute was changed, and of the page no more than its area and the raw
attributes. -/
structure Mam.Changed (mam after : Mam) (index : Nat) (attr changed : MamAttribute) : Prop where
  /-- The attribute. -/
  isAttr : mam.attributes[index]? = some attr
  /-- The attributes afterwards. -/
  attributes : after.attributes = mam.attributes.set index changed
  /-- What the attribute stands for. -/
  alike : attr.Alike changed
  /-- The size of the page. -/
  size : after.page.size = mam.page.size
  /-- The page in front of the area. -/
  before : ∀ offset, mamAttributeDataOffset ≤ offset → offset < attr.value →
    after.page.data offset = mam.page.data offset
  /-- The page behind the area. -/
  behind : ∀ offset, mamAttributeDataOffset ≤ offset →
    attr.value + mamAttrMaxLength attr ≤ offset →
    after.page.data offset = mam.page.data offset

namespace Mam

variable {mam after : Mam} {index : Nat} {attr changed : MamAttribute}

namespace Changed

/-- What does not tell alike attributes apart does not tell the lists apart. -/
theorem map_eq {β : Type} (change : mam.Changed after index attr changed) (f : MamAttribute → β)
    (same : f changed = f attr) : after.attributes.map f = mam.attributes.map f := by
  rw [change.attributes, map_set_of_eq change.isAttr f same]

/-- Areas stay where they are. -/
theorem areaOffset_eq (change : mam.Changed after index attr changed) (other : Nat) :
    areaOffset after.attributes other = areaOffset mam.attributes other := by
  rw [areaOffset, areaOffset, change.map_eq mamAttrMaxLength change.alike.maxLength]

/-- Another attribute is as it was. -/
theorem getElem?_of_ne (change : mam.Changed after index attr changed) {other : Nat}
    (different : other ≠ index) : after.attributes[other]? = mam.attributes[other]? := by
  rw [change.attributes, List.getElem?_set_ne different.symm]

/-- The attribute afterwards. -/
theorem getElem?_self (change : mam.Changed after index attr changed) :
    after.attributes[index]? = some changed := by
  rw [change.attributes, List.getElem?_set_self (List.getElem?_eq_some_iff.mp change.isAttr).1]

/-- Values stay where they are. -/
theorem placed (change : mam.Changed after index attr changed) (was : mam.Placed) :
    after.Placed := by
  refine ⟨(change.map_eq MamAttribute.name change.alike.name).trans was.named,
    fun other otherAttr isOther => ?_⟩
  rw [change.areaOffset_eq]
  by_cases isIndex : other = index
  · subst isIndex
    rw [change.getElem?_self] at isOther
    cases isOther
    rw [change.alike.value]
    exact was.placed _ _ change.isAttr
  · rw [change.getElem?_of_ne isIndex] at isOther
    exact was.placed _ _ isOther

/-- The layout stays, if the value has room. -/
theorem laid (change : mam.Changed after index attr changed) (was : mam.Laid)
    (room : changed.length ≤ mamAttrMaxLength attr) : after.Laid := by
  refine ⟨change.placed was.toPlaced, change.size.trans was.pageSize, ?_, ?_⟩
  · rw [change.areaOffset_eq, change.attributes, List.length_set]
    exact was.within
  · intro other isOther
    rw [change.attributes] at isOther
    rcases List.mem_or_eq_of_mem_set isOther with old | isChanged
    · exact was.fits other old
    · rw [isChanged, change.alike.maxLength]
      exact room

/-- The entry of another attribute is as it was. -/
theorem entry_of_ne (change : mam.Changed after index attr changed) (was : mam.Laid) {other : Nat}
    {otherAttr : MamAttribute} (isOther : mam.attributes[other]? = some otherAttr)
    (different : other ≠ index) : after.entry otherAttr = mam.entry otherAttr := by
  have room := was.fits otherAttr (List.mem_of_getElem? isOther)
  have start := was.toPlaced.behind isOther
  have sameValue : after.valueBytes otherAttr otherAttr.length =
      mam.valueBytes otherAttr otherAttr.length := by
    refine valueBytes_congr fun offset isOffset => ?_
    rcases Nat.lt_or_gt_of_ne different with less | more
    · have apart := was.toPlaced.apart isOther change.isAttr less
      exact change.before _ (by omega) (by omega)
    · have apart := was.toPlaced.apart change.isAttr isOther more
      exact change.behind _ (by omega) (by omega)
  rw [entry, entry, sameValue]

/-- The entries afterwards: one has changed. -/
theorem contents_eq (change : mam.Changed after index attr changed) (was : mam.Laid) :
    after.contents = mam.contents.set index (after.entry changed) := by
  refine List.ext_getElem? fun other => ?_
  rw [contents, List.getElem?_map]
  by_cases isIndex : other = index
  · subst isIndex
    have bound := (List.getElem?_eq_some_iff.mp change.isAttr).1
    rw [change.getElem?_self, List.getElem?_set_self (by simpa [contents] using bound)]
    rfl
  · rw [change.getElem?_of_ne isIndex, List.getElem?_set_ne (Ne.symm isIndex), contents,
      List.getElem?_map]
    cases isOther : mam.attributes[other]? with
    | none => rfl
    | some otherAttr => simp [change.entry_of_ne was isOther isIndex]

end Changed

/-- To change an attribute is to put another one in its place. -/
theorem modify_attributes (isAttr : mam.attributes[index]? = some attr)
    (change : MamAttribute → MamAttribute) :
    (mam.modify index change).attributes = mam.attributes.set index (change attr) := by
  refine List.ext_getElem? fun other => ?_
  have bound := (List.getElem?_eq_some_iff.mp isAttr).1
  rw [modify, List.getElem?_modify, List.getElem?_set]
  by_cases isIndex : index = other
  · subst isIndex
    simp only [↓reduceIte, bound, isAttr]
    rfl
  · simp [isIndex]

/-- Data behind the raw attributes is not changed with a validity. -/
theorem setRawValid_data {page : Buffer} {offset : Nat} (valid : UInt8) (bound : index < 64)
    (data : mamAttributeDataOffset ≤ offset) :
    (setRawValid page index valid).data offset = page.data offset := by
  simp only [mamAttributeDataOffset] at data
  exact Buffer.write_data_behind _ _ _ (by simp [rawAttributeSize]; omega)

/-- Data behind the raw attributes is not changed with a length. -/
theorem setRawLength_data {page : Buffer} {offset : Nat} (length : Nat) (bound : index < 64)
    (data : mamAttributeDataOffset ≤ offset) :
    (setRawLength page index length).data offset = page.data offset := by
  simp only [mamAttributeDataOffset] at data
  exact Buffer.write_data_behind _ _ _ (by simp [rawAttributeSize]; omega)

/-- To apply an accepted attribute changes that attribute. -/
theorem applyAttribute_changed {header : AttributeHeader} {value : List UInt8}
    (placed : mam.Placed) (found : mam.getAttribute header.identifier = some index)
    (isAttr : mam.attributes[index]? = some attr) (accepted : header.acceptedFor attr = true)
    (isLength : value.length = header.length) :
    mam.Changed (mam.applyAttribute header value) index attr
      (if header.length = 0 then { attr with valid := 0 }
        else mamAttrSetLength header.length { attr with valid := 1 }) := by
  have bound : index < 64 := by
    rw [← placed.length]
    exact (List.getElem?_eq_some_iff.mp isAttr).1
  have room := acceptedFor_length_le accepted
  unfold applyAttribute
  simp only [found, isAttr]
  split
  · exact ⟨isAttr, modify_attributes isAttr _, ⟨rfl, rfl, rfl⟩, rfl, fun _ data _ => setRawValid_data 0 bound data,
      fun _ data _ => setRawValid_data 0 bound data⟩
  · obtain ⟨sameId, sameFormat, -, sameValue, sameMax⟩ :=
      mamAttrSetLength_same header.length { attr with valid := 1 }
    have raws : ∀ (page : Buffer) (length offset : Nat), mamAttributeDataOffset ≤ offset →
        (setRawValid (setRawLength page index length) index 1).data offset = page.data offset := by
      intro page length offset data
      rw [setRawValid_data 1 bound data, setRawLength_data length bound data]
    refine ⟨isAttr, modify_attributes isAttr _, ⟨by simp [MamAttribute.name, sameId, sameFormat], sameValue,
      sameMax⟩, rfl, fun offset data before => ?_, fun offset data behind => ?_⟩
    · exact (raws _ _ _ data).trans (Buffer.write_data_before _ _ _ before)
    · exact (raws _ _ _ data).trans (Buffer.write_data_behind _ _ _ (by omega))

/-- The entry of an attribute that was applied. -/
theorem applyAttribute_entry {header : AttributeHeader} {value : List UInt8} (placed : mam.Placed)
    (found : mam.getAttribute header.identifier = some index)
    (isAttr : mam.attributes[index]? = some attr) (accepted : header.acceptedFor attr = true)
    (isLength : value.length = header.length) :
    (mam.applyAttribute header value).entry
        (if header.length = 0 then { attr with valid := 0 }
          else mamAttrSetLength header.length { attr with valid := 1 }) =
      (mam.entry attr).write value := by
  have bound : index < 64 := by
    rw [← placed.length]
    exact (List.getElem?_eq_some_iff.mp isAttr).1
  have start := placed.behind isAttr
  unfold applyAttribute
  simp only [found, isAttr]
  by_cases none : header.length = 0
  · have noValue : value = [] := List.length_eq_zero_iff.mp (isLength.trans none)
    simp only [if_pos none, entry, MamEntry.write, if_pos noValue]
    congr 1
    exact valueBytes_congr fun offset _ =>
      setRawValid_data 0 bound (Nat.le_trans start (Nat.le_add_right _ offset))
  · have someValue : value ≠ [] := fun empty => none (by rw [← isLength, empty]; rfl)
    obtain ⟨sameId, sameFormat, sameValid, sameValue, -⟩ :=
      mamAttrSetLength_same header.length { attr with valid := 1 }
    simp only [if_neg none, entry, MamEntry.write, if_neg someValue, sameId, sameFormat, sameValid,
      mamAttrSetLength_length accepted none, isLength, true_and, MamEntry.mk.injEq]
    refine List.ext_getElem (by simp [valueBytes, isLength]) fun offset isOffset isIn => ?_
    simp only [valueBytes, List.getElem_map, List.getElem_range, sameValue]
    rw [setRawValid_data 1 bound (by omega), setRawLength_data _ bound (by omega),
      Buffer.write_data_at _ _ _ isIn]

/-- To apply an accepted attribute is to write its entry. -/
theorem applyAttribute_contents {header : AttributeHeader} {value : List UInt8} (laid : mam.Laid)
    (accepted : mam.accepts header = true) (isLength : value.length = header.length) :
    (mam.applyAttribute header value).contents =
      writeEntry mam.contents header.identifier value := by
  obtain ⟨index, attr, found, isAttr, isAccepted⟩ := (mam.accepts_iff header).mp accepted
  obtain ⟨notReserved, same, isSame, isIdentifier⟩ := getAttribute_some found
  rw [isAttr] at isSame
  cases isSame
  have change := applyAttribute_changed laid.toPlaced found isAttr isAccepted isLength
  rw [change.contents_eq laid,
    applyAttribute_entry laid.toPlaced found isAttr isAccepted isLength]
  refine List.ext_getElem? fun other => ?_
  rw [writeEntry, List.getElem?_map]
  by_cases isIndex : other = index
  · subst isIndex
    have isEntry : mam.contents[other]? = some (mam.entry attr) := by
      rw [contents, List.getElem?_map, isAttr]
      rfl
    rw [List.getElem?_set_self (List.getElem?_eq_some_iff.mp isEntry).1, isEntry]
    simp [entry, isIdentifier]
  · rw [List.getElem?_set_ne (Ne.symm isIndex), contents, List.getElem?_map]
    cases isOther : mam.attributes[other]? with
    | none => rfl
    | some otherAttr =>
      have different : otherAttr.identifier ≠ header.identifier := by
        intro same
        refine isIndex (laid.toPlaced.index_eq isOther isAttr (same.trans isIdentifier.symm) ?_)
        rwa [same]
      simp [entry, different]

/-- To apply an accepted attribute keeps the layout. -/
theorem applyAttribute_laid {header : AttributeHeader} {value : List UInt8} (laid : mam.Laid)
    (accepted : mam.accepts header = true) (isLength : value.length = header.length) :
    (mam.applyAttribute header value).Laid := by
  obtain ⟨index, attr, found, isAttr, isAccepted⟩ := (mam.accepts_iff header).mp accepted
  refine (applyAttribute_changed laid.toPlaced found isAttr isAccepted isLength).laid laid ?_
  split
  · exact laid.fits attr (List.mem_of_getElem? isAttr)
  · rename_i some
    rw [mamAttrSetLength_length isAccepted some]
    exact acceptedFor_length_le isAccepted

/-- Alike attributes accept the same headers. -/
theorem acceptedFor_alike {header : AttributeHeader} (alike : attr.Alike changed) :
    header.acceptedFor changed = header.acceptedFor attr := by
  have sameName := alike.name
  have sameMax := alike.maxLength
  simp only [MamAttribute.name, Prod.mk.injEq] at sameName
  simp only [mamAttrMaxLength, sameName.1] at sameMax
  unfold AttributeHeader.acceptedFor mamAttrLengthValid
  rw [sameName.1, sameName.2]
  by_cases isVolume : attr.identifier = 0x0008
  · simp only [if_pos isVolume]
  · by_cases isCoherency : attr.identifier = 0x080C
    · simp only [if_neg isVolume, if_pos isCoherency]
    · rw [if_neg isVolume, if_neg isCoherency, if_neg isVolume, if_neg isCoherency] at sameMax
      rw [sameMax]

/-- To apply an accepted attribute changes nothing about what is accepted. -/
theorem applyAttribute_accepts {header other : AttributeHeader} {value : List UInt8}
    (placed : mam.Placed) (accepted : mam.accepts header = true)
    (isLength : value.length = header.length) :
    (mam.applyAttribute header value).accepts other = mam.accepts other := by
  obtain ⟨index, attr, found, isAttr, isAccepted⟩ := (mam.accepts_iff header).mp accepted
  have change := applyAttribute_changed placed found isAttr isAccepted isLength
  unfold accepts
  rw [getAttribute_congr other.identifier (change.map_eq MamAttribute.name change.alike.name)]
  cases mam.getAttribute other.identifier with
  | none => rfl
  | some otherIndex =>
    simp only [Option.bind_some]
    by_cases isIndex : otherIndex = index
    · subst isIndex
      rw [change.getElem?_self, change.isAttr]
      exact acceptedFor_alike change.alike
    · rw [change.getElem?_of_ne isIndex]

end Mam

/-! ## Where a partition starts -/

/-- An attribute but for whether it is there. -/
def MamAttribute.shape (attr : MamAttribute) : MamAttribute := { attr with valid := 0 }

namespace Mam

variable {mam other : Mam}

/-- What does not depend on whether attributes are there depends on their shapes. -/
theorem map_of_shape {β : Type}
    (same : other.attributes.map MamAttribute.shape = mam.attributes.map MamAttribute.shape)
    (f : MamAttribute → β) (shapes : ∀ attr, f attr.shape = f attr) :
    other.attributes.map f = mam.attributes.map f := by
  have mapped := congrArg (List.map f) same
  simpa only [List.map_map, Function.comp_def, shapes] using mapped

/-- An attribute has the shape of one of those that have the same shapes. -/
theorem exists_of_shape {attr : MamAttribute}
    (same : other.attributes.map MamAttribute.shape = mam.attributes.map MamAttribute.shape)
    (isAttr : attr ∈ other.attributes) : ∃ was ∈ mam.attributes, was.shape = attr.shape := by
  rw [← List.mem_map, ← same]
  exact List.mem_map_of_mem isAttr

/-- Attributes of the same shape are placed alike. -/
theorem Placed.of_shape (placed : mam.Placed)
    (same : other.attributes.map MamAttribute.shape = mam.attributes.map MamAttribute.shape) :
    other.Placed := by
  refine ⟨(map_of_shape same MamAttribute.name fun _ => rfl).trans placed.named,
    fun index attr isAttr => ?_⟩
  have values := congrArg (fun values : List Nat => values[index]?)
    (map_of_shape same MamAttribute.value fun _ => rfl)
  simp only [List.getElem?_map, isAttr, Option.map_some] at values
  obtain ⟨was, isWas, isValue⟩ := Option.map_eq_some_iff.mp values.symm
  rw [← isValue, placed.placed index was isWas, areaOffset, areaOffset,
    map_of_shape same mamAttrMaxLength fun _ => rfl]

/-- Attributes of the same shape in a page of the same size are laid out alike. -/
theorem Laid.of_shape (laid : mam.Laid)
    (same : other.attributes.map MamAttribute.shape = mam.attributes.map MamAttribute.shape)
    (size : other.page.size = mam.page.size) : other.Laid := by
  have sameLength : other.attributes.length = mam.attributes.length := by
    simpa using congrArg List.length same
  refine ⟨laid.toPlaced.of_shape same, size.trans laid.pageSize, ?_, fun attr isAttr => ?_⟩
  · rw [areaOffset, map_of_shape same mamAttrMaxLength fun _ => rfl, sameLength]
    exact laid.within
  · obtain ⟨was, isWas, sameShape⟩ := exists_of_shape same isAttr
    have fits : was.shape.length ≤ mamAttrMaxLength was.shape := laid.fits was isWas
    rw [sameShape] at fits
    exact fits

/-- To set an attribute keeps the shape of all, the size of the page and the mark. -/
theorem setBytes_shape (mam : Mam) (identifier : Nat)
    (bytes : MamAttribute → Option (List UInt8)) :
    (mam.setBytes identifier bytes).attributes.map MamAttribute.shape =
        mam.attributes.map MamAttribute.shape ∧
      (mam.setBytes identifier bytes).page.size = mam.page.size ∧
      (mam.setBytes identifier bytes).corrupt = mam.corrupt := by
  unfold setBytes
  cases mam.getAttribute identifier with
  | none => exact ⟨rfl, rfl, rfl⟩
  | some index =>
    cases isAttr : mam.attributes[index]? with
    | none => simp [isAttr]
    | some attr =>
      cases isStored : bytes attr with
      | none => simp [isAttr, isStored]
      | some stored =>
        simp only [isAttr, isStored]
        refine ⟨?_, rfl, rfl⟩
        exact (congrArg (List.map MamAttribute.shape) (modify_attributes isAttr _)).trans
          (map_set_of_eq isAttr MamAttribute.shape rfl)

/-- To set the defaults keeps the shape of all, the size of the page and the mark. -/
theorem mamSetDefault_shape (make : VolType) (mam : Mam) :
    (mamSetDefault make mam).attributes.map MamAttribute.shape =
        mam.attributes.map MamAttribute.shape ∧
      (mamSetDefault make mam).page.size = mam.page.size ∧
      (mamSetDefault make mam).corrupt = mam.corrupt := by
  unfold mamSetDefault
  cases isLtoTape make <;>
    simp only [Bool.false_eq_true, if_false, if_true, memset, setAscii, setWord, setLong,
      setBytes_shape, and_self]

end Mam

/-- Setting raw attributes keeps the size of the page. -/
theorem Mam.rawFrom_size (page : Buffer) (start : Nat) (attributes : List MamAttribute) :
    (Mam.rawFrom page start attributes).size = page.size := by
  induction attributes generalizing page start with
  | nil => rfl
  | cons first rest ih =>
    rw [rawFrom, ih]
    rfl

/-- The memory of a new partition, before its defaults are set. -/
def emptyMam : Mam :=
  let page := Buffer.allocate 4096 fun _ => 0
  ⟨page, tapePartitionMamInit page false, false⟩

/-- The memory of a new partition is laid out. -/
theorem emptyMam_laid : emptyMam.Laid :=
  ⟨Mam.tapePartitionMamInit_placed _ false false, rfl, by decide +kernel, by decide +kernel⟩

/-- The memory of a partition that is created has the shape of a new one, a page of the same size,
and is in order. -/
theorem tapePartitionCreateMam_shape (io : Bool) (make : VolType) (disk : Nat → UInt8) :
    (tapePartitionCreateMam io make disk).2.mam.attributes.map MamAttribute.shape =
        emptyMam.attributes.map MamAttribute.shape ∧
      (tapePartitionCreateMam io make disk).2.mam.page.size = emptyMam.page.size ∧
      (tapePartitionCreateMam io make disk).2.mam.corrupt = false := by
  obtain ⟨shape, size, sound⟩ := Mam.mamSetDefault_shape make emptyMam
  have isSound : (mamSetDefault make emptyMam).corrupt = false := sound
  have written : tapePartitionCreateMam io make disk = tapePartitionWriteMam io
      ⟨⟨Mam.rawFrom (mamSetDefault make emptyMam).page 0 (mamSetDefault make emptyMam).attributes,
        (mamSetDefault make emptyMam).attributes, (mamSetDefault make emptyMam).corrupt⟩, disk⟩ := rfl
  rw [written, tapePartitionWriteMam, if_neg (by simp [isSound])]
  exact ⟨shape, (Mam.rawFrom_size _ 0 _).trans size, isSound⟩

/-- The memory of a partition that is created is laid out. -/
theorem tapePartitionCreateMam_laid (io : Bool) (make : VolType) (disk : Nat → UInt8) :
    (tapePartitionCreateMam io make disk).2.mam.Laid := by
  obtain ⟨shape, size, -⟩ := tapePartitionCreateMam_shape io make disk
  exact emptyMam_laid.of_shape shape size

end VirtualTape
