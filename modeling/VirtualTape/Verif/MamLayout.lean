import Mathlib
import VirtualTape.Lib.Run
import VirtualTape.Verif.WriteAttribute

/-!
# The auxiliary memory over whole runs

A partition is created or loaded, and then attributes are written to it. The raw attributes in the
page say what the attributes in memory say, the page on disk is the page in memory, and the checksum
tells whether the page is in order. So a reload finds the same attributes in the same places.
-/

namespace VirtualTape

/-! ## Raw attributes -/

section Raw

variable {page : Buffer} {index other : Nat}

/-- A 16-bit number of a page, least significant byte first. -/
def wordAt (page : Buffer) (offset : Nat) : Nat :=
  (page.data offset).toNat + 256 * (page.data (offset + 1)).toNat

/-- A 16-bit number that was stored. -/
theorem wordAt_write (page : Buffer) (offset : Nat) {number : Nat} (small : number < 2 ^ 16) :
    wordAt (page.write offset (leBytes 2 number)) offset = number := by
  have low := @Buffer.write_data_at page offset (leBytes 2 number) 0 (by simp)
  have high := @Buffer.write_data_at page offset (leBytes 2 number) 1 (by simp)
  rw [Nat.add_zero] at low
  rw [wordAt, low, high]
  simp only [leBytes, List.getElem_cons_zero, List.getElem_cons_succ, UInt8.toNat_ofNat']
  omega

/-- A raw attribute as it was set. -/
theorem rawLength_set {length : Nat} (small : length < 2 ^ 16) (valid : UInt8) :
    rawLength (setRawValid (setRawLength page index length) index valid) index = length := by
  rw [rawLength, setRawValid, Buffer.write_data_before _ _ _ (by omega),
    Buffer.write_data_before _ _ _ (by omega)]
  exact wordAt_write page (rawAttributeSize * index) small

/-- The validity of a raw attribute as it was set. -/
theorem rawValid_set (valid : UInt8) : rawValid (setRawValid page index valid) index = valid :=
  @Buffer.write_data_at page (rawAttributeSize * index + 2) [valid] 0 (by simp)

/-- To set the validity keeps the length. -/
theorem rawLength_setRawValid (valid : UInt8) :
    rawLength (setRawValid page index valid) index = rawLength page index := by
  rw [rawLength, rawLength, setRawValid, Buffer.write_data_before _ _ _ (by omega),
    Buffer.write_data_before _ _ _ (by omega)]

/-- Two pages with the same bytes there have the same raw attribute. -/
theorem raw_congr {first second : Buffer} (same : ∀ offset, rawAttributeSize * index ≤ offset →
      offset < rawAttributeSize * index + 3 → first.data offset = second.data offset) :
    rawLength first index = rawLength second index ∧
      rawValid first index = rawValid second index := by
  rw [rawLength, rawLength, rawValid, rawValid, same _ (by omega) (by omega),
    same _ (by omega) (by omega), same _ (by omega) (by omega)]
  exact ⟨rfl, rfl⟩

/-- To set a raw attribute changes no other one. -/
theorem setRaw_other (different : other ≠ index) (length : Nat) (valid : UInt8) :
    (∀ offset, rawAttributeSize * other ≤ offset → offset < rawAttributeSize * other + 3 →
      (setRawLength page index length).data offset = page.data offset) ∧
    ∀ offset, rawAttributeSize * other ≤ offset → offset < rawAttributeSize * other + 3 →
      (setRawValid page index valid).data offset = page.data offset := by
  simp only [rawAttributeSize]
  constructor
  all_goals
    intro offset least most
    rcases Nat.lt_or_gt_of_ne different with less | more
    · exact Buffer.write_data_before _ _ _ (by simp only [rawAttributeSize]; omega)
    · exact Buffer.write_data_behind _ _ _ (by simp [rawAttributeSize]; omega)

end Raw

/-- The raw attributes from an index on say what the attributes say. -/
def RawAgrees (page : Buffer) (start : Nat) (attributes : List MamAttribute) : Prop :=
  ∀ index attr, attributes[index]? = some attr →
    rawLength page (start + index) = attr.length ∧ rawValid page (start + index) = attr.valid

/-- Raw attributes are in front of the values. -/
theorem RawAgrees.congr {page after : Buffer} {attributes : List MamAttribute}
    (agrees : RawAgrees page 0 attributes) (few : attributes.length ≤ 64)
    (same : ∀ offset < rawAttributeSize * 64, after.data offset = page.data offset) :
    RawAgrees after 0 attributes := by
  intro index attr isAttr
  have bound := (List.getElem?_eq_some_iff.mp isAttr).1
  obtain ⟨sameLength, sameValid⟩ := @raw_congr (0 + index) after page fun offset _ most =>
    same offset (by simp only [rawAttributeSize] at *; omega)
  rw [sameLength, sameValid]
  exact agrees index attr isAttr

/-- The raw attributes that are set are those of the attributes. -/
theorem rawFrom_agrees (page : Buffer) (start : Nat) (attributes : List MamAttribute)
    (small : ∀ attr ∈ attributes, attr.length < 2 ^ 16) :
    RawAgrees (Mam.rawFrom page start attributes) start attributes ∧
      ∀ index < start, ∀ offset, rawAttributeSize * index ≤ offset →
        offset < rawAttributeSize * index + 3 →
        (Mam.rawFrom page start attributes).data offset = page.data offset := by
  induction attributes generalizing page start with
  | nil => exact ⟨fun index attr isAttr => by simp at isAttr, fun _ _ _ _ _ => rfl⟩
  | cons first rest ih =>
    rw [Mam.rawFrom]
    obtain ⟨agrees, before⟩ := ih
      (setRawValid (setRawLength page start first.length) start first.valid) (start + 1)
      (fun attr isAttr => small attr (List.mem_cons_of_mem _ isAttr))
    constructor
    · intro index attr isAttr
      cases index with
      | zero =>
        simp only [List.getElem?_cons_zero, Option.some.injEq] at isAttr
        subst isAttr
        obtain ⟨sameLength, sameValid⟩ := raw_congr fun offset least most =>
          before start (by omega) offset least most
        simp only [Nat.add_zero]
        rw [sameLength, sameValid, rawValid_set, rawLength_set (small first (List.mem_cons_self ..))]
        exact ⟨rfl, rfl⟩
      | succ index =>
        have isRest := agrees index attr (by simpa using isAttr)
        rwa [show start + 1 + index = start + (index + 1) by omega] at isRest
    · intro index below offset least most
      rw [before index (by omega) offset least most,
        (@setRaw_other (setRawLength page start first.length) start index (by omega) 0
          first.valid).2 offset least most,
        (@setRaw_other page start index (by omega) first.length 0).1 offset least most]

/-- Attributes that are loaded say what the raw attributes say. -/
theorem mamInitFrom_agrees (page : Buffer) (start ptr : Nat) (table : List MamAttribute) :
    RawAgrees page start (mamInitFrom page true start ptr table) := by
  induction table generalizing start ptr with
  | nil => exact fun index attr isAttr => by simp [mamInitFrom] at isAttr
  | cons first rest ih =>
    intro index attr isAttr
    rw [mamInitFrom] at isAttr
    cases index with
    | zero =>
      simp only [List.getElem?_cons_zero, if_true, Option.some.injEq] at isAttr
      subst isAttr
      exact ⟨rfl, rfl⟩
    | succ index =>
      have isRest := ih (start + 1) _ index attr (by simpa using isAttr)
      rwa [show start + 1 + index = start + (index + 1) by omega] at isRest

/-- Attributes with the names of the table, one behind the other, that say what the raw attributes
say, are those that are loaded. -/
theorem mamInitFrom_eq (page : Buffer) (start ptr : Nat) (table attributes : List MamAttribute)
    (named : attributes.map MamAttribute.name = table.map MamAttribute.name)
    (placed : ∀ index attr, attributes[index]? = some attr →
      attr.value = ptr + ((attributes.map mamAttrMaxLength).take index).sum)
    (agrees : RawAgrees page start attributes) :
    mamInitFrom page true start ptr table = attributes := by
  induction table generalizing start ptr attributes with
  | nil =>
    have none : attributes = [] := by simpa using named
    rw [none, mamInitFrom]
  | cons first rest ih =>
    cases attributes with
    | nil => simp at named
    | cons attr others =>
      simp only [List.map_cons, List.cons.injEq] at named
      have isPlaced := placed 0 attr rfl
      obtain ⟨isLength, isValid⟩ := agrees 0 attr rfl
      have isFirst : ({ first with
          value := ptr
          valid := rawValid page start
          length := rawLength page start } : MamAttribute) = attr := by
        simp only [MamAttribute.name, Prod.mk.injEq] at named
        simp only [List.take_zero, List.sum_nil, Nat.add_zero] at isPlaced isLength isValid
        cases attr
        simp_all
      have isRest := ih (start + 1) (ptr + mamAttrMaxLength attr) others named.2
        (fun index other isOther => by
          have isThere := placed (index + 1) other (by simpa using isOther)
          simpa [Nat.add_assoc] using isThere)
        (fun index other isOther => by
          have isThere := agrees (index + 1) other (by simpa using isOther)
          rwa [show start + (index + 1) = start + 1 + index by omega] at isThere)
      rw [mamInitFrom]
      simp only [if_true]
      rw [isFirst, isRest]

/-! ## What every state keeps -/

/-- A memory whose page says what its attributes say. -/
structure Mam.Consistent (mam : Mam) : Prop extends mam.Placed where
  /-- The raw attributes. -/
  agrees : RawAgrees mam.page 0 mam.attributes
  /-- The page is a page. -/
  pageSize : mam.page.size = 4096

/-- A memory that is on disk as it is. -/
structure MamState.Stored (state : MamState) : Prop where
  /-- The page says what the attributes say. -/
  consistent : state.mam.Consistent
  /-- The page is on disk. -/
  disk : ∀ offset < 4096, state.disk offset = state.mam.page.data offset
  /-- The checksum is right, unless the memory is marked. -/
  csum : state.mam.csum = wordAt state.mam.page rawMamOffset ↔ state.mam.corrupt = false
  /-- A memory that is marked is not empty. -/
  filled : state.mam.corrupt = true → zeroPage state.mam.page = false

/-- The checksum depends on the page in front of it. -/
theorem Mam.csum_congr {mam other : Mam}
    (same : ∀ offset < rawMamOffset, mam.page.data offset = other.page.data offset) :
    mam.csum = other.csum := by
  have words : ∀ index ∈ List.range (rawMamOffset / 2),
      (mam.page.data (2 * index)).toNat + 256 * (mam.page.data (2 * index + 1)).toNat =
        (other.page.data (2 * index)).toNat + 256 * (other.page.data (2 * index + 1)).toNat := by
    intro index isIndex
    have bound := List.mem_range.mp isIndex
    rw [same _ (by omega), same _ (by omega)]
  rw [csum, csum, List.map_congr_left words]

/-- The checksum is a 16-bit number. -/
theorem Mam.csum_lt (mam : Mam) : mam.csum < 2 ^ 16 := by
  unfold csum
  omega

/-- A consistent memory that was written is stored. -/
theorem MamState.stored_of_written {mam : Mam} (consistent : mam.Consistent)
    (sound : mam.corrupt = false) (disk : Nat → UInt8) :
    tapePartitionWriteMam true ⟨mam, disk⟩ =
        (true, (tapePartitionWriteMam true ⟨mam, disk⟩).2) ∧
      (tapePartitionWriteMam true ⟨mam, disk⟩).2.Stored ∧
      (tapePartitionWriteMam true ⟨mam, disk⟩).2.mam.attributes = mam.attributes := by
  rw [tapePartitionWriteMam, if_neg (by simp [sound])]
  refine ⟨rfl, ⟨⟨⟨consistent.named, consistent.placed⟩, ?_, consistent.pageSize⟩, fun _ _ => rfl, ?_,
    fun corrupt => ?_⟩, rfl⟩
  · refine consistent.agrees.congr (by rw [consistent.toPlaced.length]) fun offset below => ?_
    exact Buffer.write_data_before _ _ _ (by simp only [rawAttributeSize, rawMamOffset] at *; omega)
  · refine iff_of_true ?_ sound
    rw [wordAt_write _ _ mam.csum_lt]
    exact Mam.csum_congr fun offset below => Buffer.write_data_before _ _ _ below
  · rw [sound] at corrupt
    cases corrupt

/-! ## Reload -/

/-- The page that is loaded. -/
def loadedPage (stale disk : Nat → UInt8) : Buffer :=
  Buffer.allocate 4096 fun index => if index < 4096 then disk index else stale index

/-- The attributes of a page. -/
theorem Mam.Consistent.init_eq {mam : Mam} (consistent : mam.Consistent) {page : Buffer}
    (same : ∀ offset < 4096, page.data offset = mam.page.data offset) :
    tapePartitionMamInit page true = mam.attributes :=
  mamInitFrom_eq page 0 mamAttributeDataOffset mamAttributes mam.attributes consistent.named
    consistent.placed (consistent.agrees.congr (by rw [consistent.toPlaced.length])
      fun offset below => same offset (by simp only [rawAttributeSize] at below; omega))

/-- All bytes of a page are zero or not, whatever is behind it. -/
theorem zeroPage_congr {page other : Buffer}
    (same : ∀ offset < 4096, page.data offset = other.data offset) :
    zeroPage page = zeroPage other := by
  unfold zeroPage
  rw [Bool.eq_iff_iff, List.all_eq_true, List.all_eq_true]
  refine forall₂_congr fun offset isOffset => ?_
  rw [same offset (List.mem_range.mp isOffset)]

/-- A reload finds the same attributes and the same mark. -/
theorem MamState.Stored.reload {state : MamState} (stored : state.Stored) (io : Bool)
    (make : VolType) (stale : Nat → UInt8) :
    tapePartitionLoadMam io make stale state.disk =
      (true, ⟨⟨loadedPage stale state.disk, state.mam.attributes, state.mam.corrupt⟩,
        state.disk⟩) := by
  have same : ∀ offset < 4096, (loadedPage stale state.disk).data offset =
      state.mam.page.data offset := by
    intro offset below
    rw [← stored.disk offset below]
    exact if_pos below
  have isInit := stored.consistent.init_eq same
  have isCsum : (⟨loadedPage stale state.disk, state.mam.attributes, false⟩ : Mam).csum =
      state.mam.csum :=
    Mam.csum_congr fun offset below => same offset (by simp only [rawMamOffset] at below; omega)
  have isWord : wordAt (loadedPage stale state.disk) rawMamOffset =
      wordAt state.mam.page rawMamOffset := by
    rw [wordAt, wordAt, same _ (by simp only [rawMamOffset]; omega),
      same _ (by simp only [rawMamOffset]; omega)]
  have isLoaded : tapePartitionLoadMam io make stale state.disk =
      if state.mam.csum = wordAt state.mam.page rawMamOffset then
        (true, ⟨⟨loadedPage stale state.disk, state.mam.attributes, false⟩, state.disk⟩)
      else if zeroPage (loadedPage stale state.disk) then tapePartitionMamWriteDefault io make
        ⟨⟨loadedPage stale state.disk, state.mam.attributes, false⟩, state.disk⟩
      else (true, ⟨⟨loadedPage stale state.disk, state.mam.attributes, true⟩, state.disk⟩) := by
    rw [← isCsum, ← isWord, ← isInit]
    rfl
  rw [isLoaded]
  cases corrupt : state.mam.corrupt with
  | false => rw [if_pos (stored.csum.mpr corrupt)]
  | true =>
    have notSame : ¬state.mam.csum = wordAt state.mam.page rawMamOffset := fun isSame => by
      rw [stored.csum.mp isSame] at corrupt
      cases corrupt
    rw [if_neg notSame, if_neg]
    rw [zeroPage_congr same, stored.filled corrupt]
    simp

/-! ## Where a partition starts -/

/-- A memory that is given defaults is stored, and its attributes keep their shape. -/
theorem tapePartitionMamWriteDefault_stored {mam : Mam} (placed : mam.Placed)
    (pageSize : mam.page.size = 4096) (sound : mam.corrupt = false)
    (small : ∀ attr ∈ mam.attributes, attr.length < 2 ^ 16) (make : VolType) (disk : Nat → UInt8) :
    (tapePartitionMamWriteDefault true make ⟨mam, disk⟩).2.Stored ∧
      (tapePartitionMamWriteDefault true make ⟨mam, disk⟩).2.mam.attributes.map
        MamAttribute.shape = mam.attributes.map MamAttribute.shape := by
  obtain ⟨shape, isSize, isSound⟩ := Mam.mamSetDefault_shape make mam
  have isPlaced := placed.of_shape shape
  have isSmall : ∀ attr ∈ (mamSetDefault make mam).attributes, attr.length < 2 ^ 16 := by
    intro attr isAttr
    obtain ⟨was, isWas, sameShape⟩ := Mam.exists_of_shape shape isAttr
    have sameLength := congrArg MamAttribute.length sameShape
    exact sameLength ▸ small was isWas
  have consistent : (⟨Mam.rawFrom (mamSetDefault make mam).page 0
      (mamSetDefault make mam).attributes, (mamSetDefault make mam).attributes,
      (mamSetDefault make mam).corrupt⟩ : Mam).Consistent :=
    ⟨⟨isPlaced.named, isPlaced.placed⟩, (rawFrom_agrees _ 0 _ isSmall).1, by
      rw [Mam.rawFrom_size, isSize, pageSize]⟩
  obtain ⟨-, stored, attributes⟩ := MamState.stored_of_written consistent
    (isSound.trans sound) disk
  exact ⟨stored, (congrArg (List.map MamAttribute.shape) attributes).trans shape⟩

/-- The memory of a partition that is created is stored and has the shape of the table. -/
theorem tapePartitionCreateMam_stored (make : VolType) (disk : Nat → UInt8) :
    (tapePartitionCreateMam true make disk).2.Stored ∧
      (tapePartitionCreateMam true make disk).2.mam.attributes.map MamAttribute.shape =
        emptyMam.attributes.map MamAttribute.shape :=
  tapePartitionMamWriteDefault_stored emptyMam_laid.toPlaced rfl rfl (by decide +kernel) make disk

/-- A 16-bit number. -/
theorem wordAt_lt (page : Buffer) (offset : Nat) : wordAt page offset < 2 ^ 16 := by
  have low := (page.data offset).toNat_lt
  have high := (page.data (offset + 1)).toNat_lt
  unfold wordAt
  omega

/-- Attributes that say what raw attributes say have 16-bit lengths. -/
theorem RawAgrees.small {page : Buffer} {start : Nat} {attributes : List MamAttribute}
    (agrees : RawAgrees page start attributes) : ∀ attr ∈ attributes, attr.length < 2 ^ 16 := by
  intro attr isAttr
  obtain ⟨index, isAttr⟩ := List.mem_iff_getElem?.mp isAttr
  rw [← (agrees index attr isAttr).1]
  exact wordAt_lt page _

/-- The attributes of a page on disk. -/
def loadedAttributes (disk : Nat → UInt8) : List MamAttribute :=
  tapePartitionMamInit (Buffer.allocate 4096 disk) true

/-- The memory of a partition that is loaded is stored and has the shape that the page gives it. -/
theorem tapePartitionLoadMam_stored {io : Bool} {make : VolType} {stale disk : Nat → UInt8}
    {state : MamState} (loaded : tapePartitionLoadMam io make stale disk = (true, state)) :
    state.Stored ∧ state.mam.attributes.map MamAttribute.shape =
      (loadedAttributes disk).map MamAttribute.shape := by
  have consistent : (⟨loadedPage stale disk, tapePartitionMamInit (loadedPage stale disk) true,
      false⟩ : Mam).Consistent :=
    ⟨Mam.tapePartitionMamInit_placed _ true false,
      mamInitFrom_agrees _ 0 mamAttributeDataOffset mamAttributes, rfl⟩
  have sameDisk : ∀ offset < 4096, disk offset = (loadedPage stale disk).data offset :=
    fun offset below => (if_pos below).symm
  have sameAttributes : tapePartitionMamInit (loadedPage stale disk) true = loadedAttributes disk :=
    (consistent.init_eq sameDisk).symm
  have isLoaded : tapePartitionLoadMam io make stale disk =
      let mam : Mam :=
        ⟨loadedPage stale disk, tapePartitionMamInit (loadedPage stale disk) true, false⟩
      if mam.csum = wordAt (loadedPage stale disk) rawMamOffset then (true, ⟨mam, disk⟩)
      else if zeroPage (loadedPage stale disk) then tapePartitionMamWriteDefault io make ⟨mam, disk⟩
      else (true, ⟨{ mam with corrupt := true }, disk⟩) := rfl
  rw [isLoaded] at loaded
  dsimp only at loaded
  rw [← sameAttributes]
  split at loaded
  · rename_i isCsum
    cases loaded
    exact ⟨⟨consistent, sameDisk, iff_of_true isCsum rfl, fun corrupt => by cases corrupt⟩, rfl⟩
  · rename_i notCsum
    split at loaded
    · cases io with
      | false =>
        rw [tapePartitionMamWriteDefault, tapePartitionWriteMam] at loaded
        split at loaded <;> cases loaded
      | true =>
        have default := tapePartitionMamWriteDefault_stored consistent.toPlaced rfl rfl
          consistent.agrees.small make disk
        rw [loaded] at default
        exact default
    · rename_i someBytes
      cases loaded
      refine ⟨⟨⟨⟨consistent.named, consistent.placed⟩, consistent.agrees, rfl⟩, sameDisk, ?_,
        fun _ => by simpa using someBytes⟩, rfl⟩
      exact iff_of_false notCsum (by simp)

/-! ## Accepted commands -/

/-- A WRITE ATTRIBUTE command that is accepted. -/
def AcceptedWrite (state : MamState) (list : List UInt8) (after : MamState) : Prop :=
  tdriveCmdWriteAttribute true list state = some (.good, after)

/-- To apply an accepted attribute keeps the page in step with the attributes. -/
theorem Mam.applyAttribute_consistent {mam : Mam} {header : AttributeHeader} {value : List UInt8}
    (consistent : mam.Consistent) (accepted : mam.accepts header = true)
    (isLength : value.length = header.length) : (mam.applyAttribute header value).Consistent := by
  obtain ⟨index, attr, found, isAttr, isAccepted⟩ := (mam.accepts_iff header).mp accepted
  have change := applyAttribute_changed consistent.toPlaced found isAttr isAccepted isLength
  refine ⟨change.placed consistent.toPlaced, fun other otherAttr isOther => ?_,
    change.size.trans consistent.pageSize⟩
  have start := consistent.toPlaced.behind isAttr
  have few : other < 64 := by
    rw [← (change.placed consistent.toPlaced).length]
    exact (List.getElem?_eq_some_iff.mp isOther).1
  -- The value is behind the raw attributes.
  have isValue : ∀ offset, offset < rawAttributeSize * other + 3 →
      (mam.page.write attr.value value).data offset = mam.page.data offset := by
    intro offset below
    refine Buffer.write_data_before _ _ _ ?_
    simp only [rawAttributeSize, mamAttributeDataOffset] at *
    omega
  rw [Nat.zero_add]
  by_cases isIndex : other = index
  · subst isIndex
    rw [change.getElem?_self] at isOther
    cases isOther
    obtain ⟨wasLength, -⟩ := consistent.agrees other attr isAttr
    rw [Nat.zero_add] at wasLength
    unfold applyAttribute
    simp only [found, isAttr]
    by_cases deletes : header.length = 0
    · simp only [if_pos deletes]
      exact ⟨(rawLength_setRawValid 0).trans wasLength, rawValid_set 0⟩
    · have small : header.length < 2 ^ 16 := by
        have room := acceptedFor_length_le isAccepted
        have wasSmall := consistent.agrees.small attr (List.mem_of_getElem? isAttr)
        unfold mamAttrMaxLength at room
        split at room
        · omega
        · split at room <;> omega
      simp only [if_neg deletes, mamAttrSetLength_length isAccepted deletes]
      rw [rawLength_set small, rawValid_set]
      exact ⟨rfl, (mamAttrSetLength_same header.length { attr with valid := 1 }).2.2.1.symm⟩
  · rw [change.getElem?_of_ne isIndex] at isOther
    have was := consistent.agrees other otherAttr isOther
    rw [Nat.zero_add] at was
    rw [← was.1, ← was.2]
    refine raw_congr fun offset least most => ?_
    unfold applyAttribute
    simp only [found, isAttr]
    split
    · exact (setRaw_other isIndex 0 0).2 offset least most
    · rw [(setRaw_other isIndex 0 1).2 offset least most,
        (setRaw_other isIndex _ 1).1 offset least most, isValue offset most]

/-- What one accepted attribute keeps, all of an accepted list keep. -/
theorem applyAttributes_keep {start : Mam} {Inv : Mam → Prop}
    (accepts : ∀ {mam}, Inv mam → ∀ header, mam.accepts header = start.accepts header)
    (keep : ∀ {mam header value}, Inv mam → mam.accepts header = true →
      value.length = header.length → Inv (mam.applyAttribute header value))
    {fuel todo : Nat} {bytes : List UInt8} {mam after : Mam} (holds : Inv mam)
    (checked : checkAttributes start fuel todo bytes = some true)
    (applied : applyAttributes fuel todo bytes mam = some after) : Inv after := by
  induction fuel generalizing todo bytes mam with
  | zero =>
    unfold applyAttributes at applied
    split at applied
    · cases applied
      exact holds
    · simp at applied
  | succ fuel ih =>
    unfold applyAttributes at applied
    unfold checkAttributes at checked
    split at applied
    · cases applied
      exact holds
    · rename_i more
      rw [if_neg more] at checked
      cases read : readHeader bytes with
      | none => simp [read] at applied
      | some found =>
        obtain ⟨header, rest⟩ := found
        rw [read] at applied checked
        dsimp only at applied checked
        split at applied
        · cases applied
          exact holds
        · rename_i complete
          rw [if_neg complete] at checked
          split at applied
          · cases applied
          · rename_i inside
            cases accepted : start.accepts header with
            | false => simp [accepted] at checked
            | true =>
              simp only [accepted, Bool.not_true, Bool.false_eq_true, if_false] at checked
              refine ih (keep holds ((accepts holds header).trans accepted) ?_) checked applied
              exact List.length_take_of_le (Nat.le_of_not_lt inside)

/-- An accepted command has checked and applied its list, and written the page. -/
theorem AcceptedWrite.cases {state after : MamState} {list : List UInt8}
    (accepted : AcceptedWrite state list after) :
    after = state ∨ ∃ mam fuel todo bytes, state.mam.corrupt = false ∧
      checkAttributes state.mam fuel todo bytes = some true ∧
      applyAttributes fuel todo bytes state.mam = some mam ∧
      tapePartitionWriteMam true ⟨mam, state.disk⟩ = (true, after) := by
  unfold AcceptedWrite tdriveCmdWriteAttribute at accepted
  split at accepted
  · cases accepted
    exact Or.inl rfl
  · split at accepted
    · cases accepted
    · dsimp only at accepted
      split at accepted
      · cases accepted
      · split at accepted
        · cases accepted
        · rename_i sound
          split at accepted
          · cases accepted
          · cases accepted
          · rename_i checked
            split at accepted
            · cases accepted
            · rename_i mam applied
              split at accepted
              · rename_i written isWritten
                cases accepted
                exact Or.inr ⟨mam, _, _, _, by simpa using sound, checked, applied, isWritten⟩
              · cases accepted

/-! ## What every run keeps -/

/-- Areas as large as they were, with values that are as long as they were or have room. -/
structure Mam.SizedFrom (start mam : Mam) : Prop where
  /-- The sizes of the areas. -/
  sizes : mam.attributes.map mamAttrMaxLength = start.attributes.map mamAttrMaxLength
  /-- The lengths of the values. -/
  lengths : ∀ (index : Nat) (attr : MamAttribute), mam.attributes[index]? = some attr →
    attr.length ≤ mamAttrMaxLength attr ∨
      start.attributes[index]?.map MamAttribute.length = some attr.length

namespace Mam.SizedFrom

variable {start mam after : Mam}

/-- At the start. -/
theorem refl (mam : Mam) : mam.SizedFrom mam :=
  ⟨rfl, fun index attr isAttr => Or.inr (by rw [isAttr]; rfl)⟩

/-- One change after another. -/
theorem trans (first : start.SizedFrom mam) (second : mam.SizedFrom after) :
    start.SizedFrom after := by
  refine ⟨second.sizes.trans first.sizes, fun index attr isAttr => ?_⟩
  rcases second.lengths index attr isAttr with room | same
  · exact Or.inl room
  · obtain ⟨was, isWas, wasLength⟩ := Option.map_eq_some_iff.mp same
    have sameMax := congrArg (fun sizes : List Nat => sizes[index]?) second.sizes
    simp only [List.getElem?_map, isAttr, isWas, Option.map_some, Option.some.injEq] at sameMax
    rcases first.lengths index was isWas with room | same
    · left
      omega
    · right
      rw [same, wasLength]

end Mam.SizedFrom

/-- To apply an accepted attribute keeps the sizes of the areas. -/
theorem Mam.applyAttribute_sized {mam : Mam} {header : AttributeHeader} {value : List UInt8}
    (placed : mam.Placed) (accepted : mam.accepts header = true)
    (isLength : value.length = header.length) :
    mam.SizedFrom (mam.applyAttribute header value) := by
  obtain ⟨index, attr, found, isAttr, isAccepted⟩ := (mam.accepts_iff header).mp accepted
  have change := applyAttribute_changed placed found isAttr isAccepted isLength
  refine ⟨change.map_eq mamAttrMaxLength change.alike.maxLength, fun other otherAttr isOther => ?_⟩
  by_cases isIndex : other = index
  · subst isIndex
    rw [change.getElem?_self] at isOther
    cases isOther
    split
    · right
      rw [isAttr]
      rfl
    · rename_i stores
      left
      rw [mamAttrSetLength_length isAccepted stores, (mamAttrSetLength_same _ _).2.2.2.2]
      exact acceptedFor_length_le isAccepted
  · rw [change.getElem?_of_ne isIndex] at isOther
    right
    rw [isOther]
    rfl

/-- To apply an attribute keeps the mark. -/
theorem Mam.applyAttribute_corrupt (mam : Mam) (header : AttributeHeader) (value : List UInt8) :
    (mam.applyAttribute header value).corrupt = mam.corrupt := by
  unfold applyAttribute
  split
  · rfl
  · split
    · rfl
    · split <;> rfl

/-- An accepted command keeps a stored memory stored and the sizes of the areas. -/
theorem AcceptedWrite.keeps {state after : MamState} {list : List UInt8}
    (accepted : AcceptedWrite state list after) (stored : state.Stored) :
    after.Stored ∧ state.mam.SizedFrom after.mam := by
  rcases accepted.cases with same | ⟨mam, fuel, todo, bytes, sound, checked, applied, written⟩
  · rw [same]
    exact ⟨stored, .refl state.mam⟩
  · obtain ⟨consistent, isSound, sized, -⟩ := @applyAttributes_keep state.mam
      (fun mam => mam.Consistent ∧ mam.corrupt = false ∧ state.mam.SizedFrom mam ∧
        ∀ header, mam.accepts header = state.mam.accepts header)
      (fun holds => holds.2.2.2)
      (fun {mam header value} holds isAccepted isLength => by
        obtain ⟨consistent, isSound, sized, accepts⟩ := holds
        exact ⟨Mam.applyAttribute_consistent consistent isAccepted isLength,
          (mam.applyAttribute_corrupt header value).trans isSound,
          sized.trans (Mam.applyAttribute_sized consistent.toPlaced isAccepted isLength),
          fun other => (Mam.applyAttribute_accepts consistent.toPlaced isAccepted
            isLength).trans (accepts other)⟩)
      fuel todo bytes state.mam mam
      ⟨stored.consistent, sound, .refl state.mam, fun _ => rfl⟩ checked applied
    obtain ⟨-, isStored, sameAttributes⟩ :=
      MamState.stored_of_written consistent isSound state.disk
    rw [written] at isStored sameAttributes
    exact ⟨isStored, sameAttributes ▸ sized.sizes, sameAttributes ▸ sized.lengths⟩

/-- A run of accepted commands keeps both. -/
theorem AcceptedWrite.run_keeps {start state : MamState} {lists : List (List UInt8)}
    (stored : start.Stored) (run : Run AcceptedWrite start lists state) :
    state.Stored ∧ start.mam.SizedFrom state.mam :=
  @Run.invariant _ _ _ _ _ _ (fun state => state.Stored ∧ start.mam.SizedFrom state.mam) run
    ⟨stored, .refl start.mam⟩ fun holds accepted =>
      ⟨(accepted.keeps holds.1).1, holds.2.trans (accepted.keeps holds.1).2⟩

/-! ## Areas and reload -/

/-- The area of a value, by a bound on its length. -/
def MamAttribute.area (maximum : MamAttribute → Nat) (attr : MamAttribute) : Set Nat :=
  Set.Ico attr.value (attr.value + maximum attr)

/-- The areas are apart and end before the checksum. -/
structure Mam.AreasApart (maximum : MamAttribute → Nat) (mam : Mam) : Prop where
  /-- No byte is in two areas. -/
  apart : ∀ (first second : Nat) (attr other : MamAttribute), mam.attributes[first]? = some attr →
    mam.attributes[second]? = some other → first ≠ second →
    Disjoint (attr.area maximum) (other.area maximum)
  /-- No byte is behind the values. -/
  within : ∀ attr ∈ mam.attributes, attr.area maximum ⊆ Set.Iio rawMamOffset

/-- A reload returns the same entries. -/
def MamState.Reloads (state : MamState) : Prop :=
  ∀ (io : Bool) (make : VolType) (stale : Nat → UInt8), ∃ mam,
    tapePartitionLoadMam io make stale state.disk = (true, ⟨mam, state.disk⟩) ∧
      mam.contents = state.mam.contents

/-- The longest value of an attribute as the table has it. -/
def tableMaxLength (attr : MamAttribute) : Nat :=
  ((mamAttributes.find? (·.identifier == attr.identifier)).map mamAttrMaxLength).getD 0

/-- The areas that a partition uses are apart. They have room if the last one has. -/
theorem Mam.Placed.areasApart_iff {mam : Mam} (placed : mam.Placed) :
    mam.AreasApart mamAttrMaxLength ↔ areaOffset mam.attributes 64 ≤ rawMamOffset := by
  constructor
  · intro areas
    have upTo : ∀ count ≤ 64, areaOffset mam.attributes count ≤ rawMamOffset := by
      intro count
      induction count with
      | zero =>
        intro _
        simp [areaOffset, mamAttributeDataOffset, rawMamOffset]
      | succ count ih =>
        intro bound
        have isThere : count < mam.attributes.length := by
          rw [placed.length]
          omega
        have isAttr := List.getElem?_eq_getElem isThere
        rw [areaOffset_succ isAttr]
        have before := ih (by omega)
        rcases Nat.eq_zero_or_pos (mamAttrMaxLength mam.attributes[count]) with empty | some
        · omega
        · have last := areas.within _ (List.getElem_mem isThere)
            (show areaOffset mam.attributes count + mamAttrMaxLength mam.attributes[count] - 1 ∈ _ by
              rw [MamAttribute.area, placed.placed count _ isAttr, Set.mem_Ico]
              omega)
          rw [Set.mem_Iio] at last
          omega
    exact upTo 64 (Nat.le_refl 64)
  · intro room
    refine ⟨fun first second attr other isAttr isOther different => ?_, fun attr isAttr => ?_⟩
    · rw [Set.disjoint_left]
      intro offset inFirst inSecond
      rw [MamAttribute.area, Set.mem_Ico] at inFirst inSecond
      rcases Nat.lt_or_gt_of_ne different with less | more
      · have apart := placed.apart isAttr isOther less
        omega
      · have apart := placed.apart isOther isAttr more
        omega
    · obtain ⟨index, isAttr⟩ := List.mem_iff_getElem?.mp isAttr
      have bound := (List.getElem?_eq_some_iff.mp isAttr).1
      rw [placed.length] at bound
      have inside := areaOffset_mono mam.attributes bound
      rw [areaOffset_succ isAttr, ← placed.placed index attr isAttr] at inside
      intro offset inArea
      rw [MamAttribute.area, Set.mem_Ico] at inArea
      rw [Set.mem_Iio]
      omega

/-- The longest value of an attribute of the table is not empty. -/
theorem tableMaxLength_table : ∀ index < 64, ∃ attr, mamAttributes[index]? = some attr ∧
    tableMaxLength attr = mamAttrMaxLength attr ∧ 0 < mamAttrMaxLength attr := by
  decide +kernel

/-- The longest value of an attribute, by its place in the table. -/
def tableLength (index : Nat) : Nat := (mamAttributes[index]?.map mamAttrMaxLength).getD 0

/-- What the table has for an attribute. -/
theorem Mam.Placed.tableMaxLength_eq {mam : Mam} (placed : mam.Placed) {index : Nat}
    {attr : MamAttribute} (isAttr : mam.attributes[index]? = some attr) :
    tableMaxLength attr = tableLength index ∧ 0 < tableLength index := by
  have bound := (List.getElem?_eq_some_iff.mp isAttr).1
  rw [placed.length] at bound
  obtain ⟨entry, isEntry, isLength, positive⟩ := tableMaxLength_table index bound
  have names := congrArg (fun names : List (Nat × Nat) => names[index]?) placed.named
  simp only [List.getElem?_map, isAttr, isEntry, Option.map_some, MamAttribute.name,
    Option.some.injEq, Prod.mk.injEq] at names
  rw [tableLength, isEntry, Option.map_some, Option.getD_some]
  refine ⟨?_, positive⟩
  rw [← isLength, tableMaxLength, tableMaxLength, names.1]

/-- The areas that the table asks for are apart when those that a partition uses are as large. -/
theorem Mam.Placed.areasApart_table_iff {mam : Mam} (placed : mam.Placed) :
    mam.AreasApart tableMaxLength ↔
      (∀ index < 63, areaOffset mam.attributes index + tableLength index ≤
        areaOffset mam.attributes (index + 1)) ∧
      areaOffset mam.attributes 63 + tableLength 63 ≤ rawMamOffset := by
  have isThere : ∀ index < 64, ∃ attr, mam.attributes[index]? = some attr := by
    intro index bound
    exact ⟨_, List.getElem?_eq_getElem (by rw [placed.length]; exact bound)⟩
  constructor
  · intro areas
    constructor
    · intro index bound
      obtain ⟨attr, isAttr⟩ := isThere index (by omega)
      obtain ⟨next, isNext⟩ := isThere (index + 1) (by omega)
      have apart := areas.apart index (index + 1) attr next isAttr isNext (by omega)
      obtain ⟨isLength, -⟩ := placed.tableMaxLength_eq isAttr
      obtain ⟨nextLength, positive⟩ := placed.tableMaxLength_eq isNext
      have order := areaOffset_mono mam.attributes (Nat.le_succ index)
      rw [Set.disjoint_left] at apart
      have outside := @apart (areaOffset mam.attributes (index + 1))
      rw [MamAttribute.area, MamAttribute.area, Set.mem_Ico, Set.mem_Ico, isLength, nextLength,
        placed.placed index attr isAttr, placed.placed (index + 1) next isNext] at outside
      by_contra overlaps
      exact outside ⟨order, by omega⟩ ⟨Nat.le_refl _, by omega⟩
    · obtain ⟨attr, isAttr⟩ := isThere 63 (by omega)
      obtain ⟨isLength, positive⟩ := placed.tableMaxLength_eq isAttr
      have last := areas.within attr (List.mem_of_getElem? isAttr)
        (show areaOffset mam.attributes 63 + tableLength 63 - 1 ∈ _ by
          rw [MamAttribute.area, placed.placed 63 _ isAttr, Set.mem_Ico, isLength]
          omega)
      rw [Set.mem_Iio] at last
      omega
  · rintro ⟨room, last⟩
    have ends : ∀ first second, first < second → second < 64 →
        areaOffset mam.attributes first + tableLength first ≤
          areaOffset mam.attributes second := fun first second less bound =>
      Nat.le_trans (room first (by omega)) (areaOffset_mono mam.attributes less)
    refine ⟨fun first second attr other isAttr isOther different => ?_, fun attr isAttr => ?_⟩
    · have firstBound := (List.getElem?_eq_some_iff.mp isAttr).1
      have secondBound := (List.getElem?_eq_some_iff.mp isOther).1
      rw [placed.length] at firstBound secondBound
      rw [Set.disjoint_left]
      intro offset inFirst inSecond
      rw [MamAttribute.area, Set.mem_Ico, (placed.tableMaxLength_eq isAttr).1,
        placed.placed first attr isAttr] at inFirst
      rw [MamAttribute.area, Set.mem_Ico, (placed.tableMaxLength_eq isOther).1,
        placed.placed second other isOther] at inSecond
      rcases Nat.lt_or_gt_of_ne different with less | more
      · have apart := ends first second less secondBound
        omega
      · have apart := ends second first more firstBound
        omega
    · obtain ⟨index, isAttr⟩ := List.mem_iff_getElem?.mp isAttr
      have bound := (List.getElem?_eq_some_iff.mp isAttr).1
      rw [placed.length] at bound
      intro offset inArea
      rw [MamAttribute.area, Set.mem_Ico, (placed.tableMaxLength_eq isAttr).1,
        placed.placed index attr isAttr] at inArea
      rw [Set.mem_Iio]
      rcases Nat.lt_or_ge index 63 with before | atLast
      · have apart := ends index 63 before (by omega)
        omega
      · have isLast : index = 63 := by omega
        subst isLast
        omega

/-- A reload returns the same entries when every value is inside the page. -/
theorem MamState.Stored.reloads_iff {state : MamState} (stored : state.Stored) :
    state.Reloads ↔
      ∀ attr ∈ state.mam.attributes, attr.length = 0 ∨ attr.value + attr.length ≤ 4096 := by
  constructor
  · intro reloads attr isAttr
    rcases Nat.eq_zero_or_pos attr.length with empty | some
    · exact Or.inl empty
    -- What is behind the page after the reload is not what was there before.
    obtain ⟨mam, loaded, same⟩ := reloads true .lto1 fun index => state.mam.page.data index + 1
    rw [stored.reload] at loaded
    cases loaded
    by_contra outside
    have sameEntry := List.map_eq_map_iff.mp same attr isAttr
    have sameValue := congrArg (fun entry : MamEntry => entry.value[attr.length - 1]?) sameEntry
    simp only [Mam.entry, Mam.valueBytes, List.getElem?_map,
      List.getElem?_range (show attr.length - 1 < attr.length by omega), Option.map_some,
      Option.some.injEq] at sameValue
    have isStale : (loadedPage (fun index => state.mam.page.data index + 1) state.disk).data
        (attr.value + (attr.length - 1)) = state.mam.page.data (attr.value + (attr.length - 1)) + 1 :=
      if_neg (by omega)
    rw [isStale] at sameValue
    simp at sameValue
  · intro inside io make stale
    refine ⟨_, stored.reload io make stale, List.map_congr_left fun attr isAttr => ?_⟩
    have isInside := inside attr isAttr
    rw [Mam.entry, Mam.entry]
    congr 1
    refine Mam.valueBytes_congr fun index below => ?_
    rw [← stored.disk _ (by omega)]
    exact if_pos (by omega)

/-! ## Runs -/

/-- Areas apart, by a bound on the lengths, and the same entries after a reload. -/
def MamState.WellLaid (maximum : MamAttribute → Nat) (state : MamState) : Prop :=
  state.mam.AreasApart maximum ∧ state.Reloads

/-- Areas of the same sizes begin at the same places. -/
theorem Mam.SizedFrom.areaOffset_eq {start mam : Mam} (sized : start.SizedFrom mam) (index : Nat) :
    areaOffset mam.attributes index = areaOffset start.attributes index := by
  rw [areaOffset, areaOffset, sized.sizes]

/-- In every run values stay inside the page. -/
theorem MamState.Stored.run_reloads {start state : MamState} {lists : List (List UInt8)}
    (stored : start.Stored) (run : Run AcceptedWrite start lists state)
    (room : areaOffset start.mam.attributes 64 ≤ 4096) (reloads : start.Reloads) :
    state.Reloads := by
  obtain ⟨isStored, sized⟩ := AcceptedWrite.run_keeps stored run
  rw [isStored.reloads_iff]
  intro attr isAttr
  obtain ⟨index, isAttr⟩ := List.mem_iff_getElem?.mp isAttr
  have placed := isStored.consistent.toPlaced
  rcases sized.lengths index attr isAttr with short | same
  · have bound := (List.getElem?_eq_some_iff.mp isAttr).1
    rw [placed.length] at bound
    have inside := areaOffset_mono state.mam.attributes bound
    rw [areaOffset_succ isAttr, ← placed.placed index attr isAttr, sized.areaOffset_eq 64] at inside
    right
    omega
  · obtain ⟨was, isWas, sameLength⟩ := Option.map_eq_some_iff.mp same
    have wasInside := stored.reloads_iff.mp reloads was (List.mem_of_getElem? isWas)
    rwa [sameLength, stored.consistent.placed index was isWas, ← sized.areaOffset_eq,
      ← placed.placed index attr isAttr] at wasInside

/-- The runs from a memory are well laid when it is, if all depends on the sizes of the areas. -/
theorem MamState.Stored.runs_wellLaid_iff {start : MamState} (stored : start.Stored)
    {maximum : MamAttribute → Nat}
    (keep : ∀ {mam}, mam.Placed → start.mam.SizedFrom mam → start.mam.AreasApart maximum →
      mam.AreasApart maximum)
    (room : start.WellLaid maximum → areaOffset start.mam.attributes 64 ≤ 4096) :
    (∀ lists state, Run AcceptedWrite start lists state → state.WellLaid maximum) ↔
      start.WellLaid maximum := by
  constructor
  · intro runs
    exact runs [] start .nil
  · intro laid lists state run
    obtain ⟨isStored, sized⟩ := AcceptedWrite.run_keeps stored run
    exact ⟨keep isStored.consistent.toPlaced sized laid.1,
      stored.run_reloads run (room laid) laid.2⟩

/-- The last attribute is as long as its area. -/
theorem Mam.Placed.last_length {mam : Mam} (placed : mam.Placed) {attr : MamAttribute}
    (isAttr : mam.attributes[63]? = some attr) : mamAttrMaxLength attr = attr.length := by
  have names := congrArg (fun names : List (Nat × Nat) => names[63]?) placed.named
  simp only [List.getElem?_map, isAttr, Option.map_some] at names
  have isIdentifier : attr.identifier = 0x1500 := congrArg Prod.fst (Option.some.inj names)
  simp [mamAttrMaxLength, isIdentifier]

/-- With the areas that a partition uses. -/
theorem MamState.Stored.runs_used_iff {start : MamState} (stored : start.Stored) :
    (∀ lists state, Run AcceptedWrite start lists state → state.WellLaid mamAttrMaxLength) ↔
      start.WellLaid mamAttrMaxLength := by
  have placed := stored.consistent.toPlaced
  refine stored.runs_wellLaid_iff (fun isPlaced sized areas => ?_) fun laid => ?_
  · rw [isPlaced.areasApart_iff, sized.areaOffset_eq]
    exact placed.areasApart_iff.mp areas
  · exact Nat.le_trans (placed.areasApart_iff.mp laid.1) (by simp [rawMamOffset])

/-- With the areas that the table asks for. -/
theorem MamState.Stored.runs_table_iff {start : MamState} (stored : start.Stored) :
    (∀ lists state, Run AcceptedWrite start lists state → state.WellLaid tableMaxLength) ↔
      start.WellLaid tableMaxLength := by
  have placed := stored.consistent.toPlaced
  refine stored.runs_wellLaid_iff (fun isPlaced sized areas => ?_) fun laid => ?_
  · have room := placed.areasApart_table_iff.mp areas
    rw [isPlaced.areasApart_table_iff]
    simpa only [sized.areaOffset_eq] using room
  · have isThere : 63 < start.mam.attributes.length := by
      rw [placed.length]
      omega
    have isAttr := List.getElem?_eq_getElem isThere
    have inside := stored.reloads_iff.mp laid.2 _ (List.getElem_mem isThere)
    have last := (placed.areasApart_table_iff.mp laid.1).2
    rw [placed.placed 63 _ isAttr] at inside
    rw [areaOffset_succ isAttr, placed.last_length isAttr]
    simp only [rawMamOffset] at last
    omega

/-! ## What a page has to say -/

/-- The size of an area, by the raw attribute. -/
def rawMaxLength (page : Buffer) (index : Nat) : Nat :=
  (mamAttributes[index]?.map fun attr =>
    mamAttrMaxLength { attr with length := rawLength page index }).getD 0

/-- Where an area begins, by the raw attributes. -/
def rawAreaOffset (page : Buffer) (index : Nat) : Nat :=
  mamAttributeDataOffset + ((List.range index).map (rawMaxLength page)).sum

/-- Areas that a partition uses end before the checksum, and values inside the page. -/
structure PageFits (page : Buffer) : Prop where
  /-- The areas. -/
  areas : rawAreaOffset page 64 ≤ rawMamOffset
  /-- The values. -/
  values : ∀ index < 64, rawAreaOffset page index + rawLength page index ≤ 4096

/-- Areas are as large as the table asks for, the last one ends before the checksum, and values end
inside the page. -/
structure PageHolds (page : Buffer) : Prop where
  /-- The areas but the last one. -/
  areas : ∀ index < 63, tableLength index ≤ rawMaxLength page index
  /-- The last area. -/
  last : rawAreaOffset page 63 + tableLength 63 ≤ rawMamOffset
  /-- The values. -/
  values : ∀ index < 64, rawAreaOffset page index + rawLength page index ≤ 4096

/-- The next area begins where this one ends. -/
theorem rawAreaOffset_succ (page : Buffer) (index : Nat) :
    rawAreaOffset page (index + 1) = rawAreaOffset page index + rawMaxLength page index := by
  rw [rawAreaOffset, rawAreaOffset, List.range_succ]
  simp [Nat.add_assoc]

/-- Later areas begin later. -/
theorem rawAreaOffset_mono (page : Buffer) {first second : Nat} (le : first ≤ second) :
    rawAreaOffset page first ≤ rawAreaOffset page second := by
  induction second, le using Nat.le_induction with
  | base => exact Nat.le_refl _
  | succ second _ ih =>
    rw [rawAreaOffset_succ]
    omega

/-- A memory with the lengths of a page. -/
structure MamState.LengthsOf (state : MamState) (page : Buffer) : Prop where
  /-- It is stored. -/
  stored : state.Stored
  /-- The lengths. -/
  lengths : ∀ (index : Nat) (attr : MamAttribute), state.mam.attributes[index]? = some attr →
    attr.length = rawLength page index

namespace MamState.LengthsOf

variable {state : MamState} {page : Buffer}

/-- The areas are those of the page. -/
theorem areaOffset_eq (of : state.LengthsOf page) {index : Nat} (few : index ≤ 64) :
    areaOffset state.mam.attributes index = rawAreaOffset page index := by
  have placed := of.stored.consistent.toPlaced
  have sizes : state.mam.attributes.map mamAttrMaxLength =
      (List.range 64).map (rawMaxLength page) := by
    refine List.ext_getElem? fun place => ?_
    rw [List.getElem?_map, List.getElem?_map]
    cases isAttr : state.mam.attributes[place]? with
    | none =>
      have many := List.getElem?_eq_none_iff.mp isAttr
      rw [placed.length] at many
      rw [List.getElem?_eq_none (by simpa using many)]
      rfl
    | some attr =>
      have bound := (List.getElem?_eq_some_iff.mp isAttr).1
      rw [placed.length] at bound
      have names := congrArg (fun names : List (Nat × Nat) => names[place]?) placed.named
      simp only [List.getElem?_map, isAttr, Option.map_some] at names
      obtain ⟨entry, isEntry, sameName⟩ := Option.map_eq_some_iff.mp names.symm
      simp only [MamAttribute.name, Prod.mk.injEq] at sameName
      rw [List.getElem?_range bound, Option.map_some, Option.map_some, rawMaxLength, isEntry,
        Option.map_some, Option.getD_some, mamAttrMaxLength, mamAttrMaxLength, sameName.1,
        of.lengths place attr isAttr]
  rw [areaOffset, rawAreaOffset, sizes, ← List.map_take, List.take_range, Nat.min_eq_left few]

/-- Values are inside the page, by the page. -/
theorem reloads_iff (of : state.LengthsOf page) (room : rawAreaOffset page 63 ≤ 4096) :
    state.Reloads ↔ ∀ index < 64, rawAreaOffset page index + rawLength page index ≤ 4096 := by
  have placed := of.stored.consistent.toPlaced
  rw [of.stored.reloads_iff]
  constructor
  · intro inside index bound
    have isAttr := List.getElem?_eq_getElem (show index < state.mam.attributes.length by
      rwa [placed.length])
    have isInside := inside _ (List.mem_of_getElem? isAttr)
    rw [placed.placed index _ isAttr, of.lengths index _ isAttr,
      of.areaOffset_eq (Nat.le_of_lt bound)] at isInside
    have starts := rawAreaOffset_mono page (show index ≤ 63 by omega)
    omega
  · intro inside attr isAttr
    obtain ⟨index, isAttr⟩ := List.mem_iff_getElem?.mp isAttr
    have bound := (List.getElem?_eq_some_iff.mp isAttr).1
    rw [placed.length] at bound
    rw [placed.placed index _ isAttr, of.lengths index _ isAttr,
      of.areaOffset_eq (Nat.le_of_lt bound)]
    exact Or.inr (inside index bound)

/-- With the areas that a partition uses. -/
theorem wellLaid_used_iff (of : state.LengthsOf page) :
    state.WellLaid mamAttrMaxLength ↔ PageFits page := by
  have ends : rawAreaOffset page 63 ≤ rawAreaOffset page 64 := rawAreaOffset_mono page (by omega)
  rw [WellLaid, of.stored.consistent.toPlaced.areasApart_iff, of.areaOffset_eq (Nat.le_refl 64)]
  constructor
  · rintro ⟨room, reloads⟩
    refine ⟨room, (of.reloads_iff ?_).mp reloads⟩
    simp only [rawMamOffset] at room
    omega
  · intro fits
    have room := fits.areas
    simp only [rawMamOffset] at room
    exact ⟨fits.areas, (of.reloads_iff (by omega)).mpr fits.values⟩

/-- With the areas that the table asks for. -/
theorem wellLaid_table_iff (of : state.LengthsOf page) :
    state.WellLaid tableMaxLength ↔ PageHolds page := by
  have areas : (∀ index < 63, areaOffset state.mam.attributes index + tableLength index ≤
        areaOffset state.mam.attributes (index + 1)) ↔
      ∀ index < 63, tableLength index ≤ rawMaxLength page index := by
    refine forall₂_congr fun index bound => ?_
    rw [of.areaOffset_eq (by omega), of.areaOffset_eq (by omega), rawAreaOffset_succ]
    omega
  rw [WellLaid, of.stored.consistent.toPlaced.areasApart_table_iff, areas,
    of.areaOffset_eq (show 63 ≤ 64 by omega)]
  constructor
  · rintro ⟨⟨enough, last⟩, reloads⟩
    refine ⟨enough, last, (of.reloads_iff ?_).mp reloads⟩
    simp only [rawMamOffset] at last
    omega
  · intro holds
    have last := holds.last
    simp only [rawMamOffset] at last
    exact ⟨⟨holds.areas, holds.last⟩, (of.reloads_iff (by omega)).mpr holds.values⟩

end MamState.LengthsOf

/-- A memory with the shape of attributes has their lengths. -/
theorem MamState.Stored.lengthsOf {state : MamState} (stored : state.Stored) {page : Buffer}
    {attributes : List MamAttribute}
    (shapes : state.mam.attributes.map MamAttribute.shape = attributes.map MamAttribute.shape)
    (lengths : ∀ (index : Nat) (attr : MamAttribute), attributes[index]? = some attr →
      attr.length = rawLength page index) : state.LengthsOf page := by
  refine ⟨stored, fun index attr isAttr => ?_⟩
  have sameShape := congrArg (fun shapes : List MamAttribute => shapes[index]?) shapes
  simp only [List.getElem?_map, isAttr, Option.map_some] at sameShape
  obtain ⟨other, isOther, isShape⟩ := Option.map_eq_some_iff.mp sameShape.symm
  have sameLength : other.shape.length = attr.shape.length := congrArg MamAttribute.length isShape
  rw [show attr.length = other.length from sameLength.symm]
  exact lengths index other isOther

/-- A partition that is loaded has the lengths of its page. -/
theorem tapePartitionLoadMam_lengthsOf {io : Bool} {make : VolType} {stale disk : Nat → UInt8}
    {state : MamState} (loaded : tapePartitionLoadMam io make stale disk = (true, state)) :
    state.LengthsOf (Buffer.allocate 4096 disk) := by
  obtain ⟨stored, shapes⟩ := tapePartitionLoadMam_stored loaded
  refine stored.lengthsOf shapes fun index attr isAttr => ?_
  have isLength := (mamInitFrom_agrees (Buffer.allocate 4096 disk) 0 mamAttributeDataOffset
    mamAttributes index attr isAttr).1
  rw [← isLength, Nat.zero_add]

/-- A partition can be loaded from every page. -/
theorem tapePartitionLoadMam_loads (make : VolType) (stale disk : Nat → UInt8) :
    ∃ state, tapePartitionLoadMam true make stale disk = (true, state) := by
  unfold tapePartitionLoadMam
  dsimp only
  split
  · exact ⟨_, rfl⟩
  · split
    · rw [tapePartitionMamWriteDefault, tapePartitionWriteMam, if_neg]
      · exact ⟨_, rfl⟩
      · simp [(Mam.mamSetDefault_shape make _).2.2]
    · exact ⟨_, rfl⟩

/-- A page with the lengths of the table and its checksum. -/
def tablePage : Buffer :=
  Buffer.allocate 4096 fun offset =>
    if rawAttributeSize * 64 ≤ offset then
      if offset = rawMamOffset then 0x05 else if offset = rawMamOffset + 1 then 0xB5 else 0
    else
      let attr := mamAttributes[offset / rawAttributeSize]?.getD (mamEntry 0 0 0 0)
      if offset % rawAttributeSize = 0 then UInt8.ofNat attr.length
      else if offset % rawAttributeSize = 1 then UInt8.ofNat (attr.length / 256)
      else attr.valid

/-- A page with the lengths of the table has room. -/
theorem tablePage_fits : PageFits tablePage :=
  ⟨by decide +kernel, by decide +kernel⟩

/-- A page with the lengths of the table has the room that the table asks for. -/
theorem tablePage_holds : PageHolds tablePage :=
  ⟨by decide +kernel, by decide +kernel, tablePage_fits.values⟩

/-- A partition that is created has the lengths of the table. -/
theorem tapePartitionCreateMam_lengthsOf {io : Bool} {make : VolType} {disk : Nat → UInt8}
    {state : MamState} (created : tapePartitionCreateMam io make disk = (true, state)) :
    state.LengthsOf tablePage := by
  cases io with
  | false =>
    rw [tapePartitionCreateMam, tapePartitionMamWriteDefault, tapePartitionWriteMam] at created
    split at created <;> cases created
  | true =>
    obtain ⟨stored, shapes⟩ := tapePartitionCreateMam_stored make disk
    rw [created] at stored shapes
    refine stored.lengthsOf shapes ?_
    have lengths : ∀ index < 64, (emptyMam.attributes[index]?.map MamAttribute.length) =
        some (rawLength tablePage index) := by decide +kernel
    intro index attr isAttr
    have bound := (List.getElem?_eq_some_iff.mp isAttr).1
    rw [emptyMam_laid.toPlaced.length] at bound
    have isLength := lengths index bound
    rw [isAttr] at isLength
    exact Option.some.inj isLength

/-- In every run of accepted WRITE ATTRIBUTE commands from a partition that was created, the areas
are apart and in front of the checksum and a reload returns the same entries. For a partition that
was loaded this is so if and only if the lengths on its page leave room: for the areas that the
partition uses and for those that the table asks for. -/
theorem tapePartitionLoadMam_wellLaid_iff (make : VolType) (disk : Nat → UInt8) :
    (∀ io start lists state, tapePartitionCreateMam io make disk = (true, start) →
      Run AcceptedWrite start lists state →
      state.WellLaid mamAttrMaxLength ∧ state.WellLaid tableMaxLength) ∧
    ((∀ io stale start lists state, tapePartitionLoadMam io make stale disk = (true, start) →
      Run AcceptedWrite start lists state → state.WellLaid mamAttrMaxLength) ↔
        PageFits (Buffer.allocate 4096 disk)) ∧
    ((∀ io stale start lists state, tapePartitionLoadMam io make stale disk = (true, start) →
      Run AcceptedWrite start lists state → state.WellLaid tableMaxLength) ↔
        PageHolds (Buffer.allocate 4096 disk)) := by
  refine ⟨fun io start lists state created run => ?_, ⟨fun runs => ?_, ?_⟩, ⟨fun runs => ?_, ?_⟩⟩
  · have of := tapePartitionCreateMam_lengthsOf created
    exact ⟨of.stored.runs_used_iff.mpr (of.wellLaid_used_iff.mpr tablePage_fits) lists state run,
      of.stored.runs_table_iff.mpr (of.wellLaid_table_iff.mpr tablePage_holds) lists state run⟩
  · obtain ⟨start, loaded⟩ := tapePartitionLoadMam_loads make disk disk
    exact (tapePartitionLoadMam_lengthsOf loaded).wellLaid_used_iff.mp
      (runs true disk start [] start loaded .nil)
  · intro fits io stale start lists state loaded run
    have of := tapePartitionLoadMam_lengthsOf loaded
    exact of.stored.runs_used_iff.mpr (of.wellLaid_used_iff.mpr fits) lists state run
  · obtain ⟨start, loaded⟩ := tapePartitionLoadMam_loads make disk disk
    exact (tapePartitionLoadMam_lengthsOf loaded).wellLaid_table_iff.mp
      (runs true disk start [] start loaded .nil)
  · intro holds io stale start lists state loaded run
    have of := tapePartitionLoadMam_lengthsOf loaded
    exact of.stored.runs_table_iff.mpr (of.wellLaid_table_iff.mpr holds) lists state run

/-- A page with the lengths of the table is such a page. It is loaded as it is, and takes a
localization identifier of seven. -/
theorem tapePartitionLoadMam_wellLaid_table :
    PageHolds (Buffer.allocate 4096 tablePage.data) ∧
      ((tdriveCmdWriteAttribute true [0, 0, 0, 6, 0x08, 0x05, 0x00, 0, 1, 7]
        (tapePartitionLoadMam true .lto1 (fun _ => 0) tablePage.data).2).map (·.1)) = some .good ∧
      ∀ io stale start lists state,
        tapePartitionLoadMam io .lto1 stale tablePage.data = (true, start) →
        Run AcceptedWrite start lists state → state.WellLaid tableMaxLength :=
  ⟨tablePage_holds, by decide +kernel,
    (tapePartitionLoadMam_wellLaid_iff .lto1 tablePage.data).2.2.mpr tablePage_holds⟩

/-- A page that says 8192 for the length of the first attribute, under the right checksum. -/
def longPage (offset : Nat) : UInt8 :=
  if offset = 1 then 0x20 else if offset = rawMamOffset then 0xFF
  else if offset = rawMamOffset + 1 then 0xDF else 0

/-- A page of zeros is loaded with empty areas, so that the first two attributes begin at the same
byte. A page that says too much is loaded as it is under the right checksum, and its first area ends
behind the page. -/
theorem tapePartitionLoadMam_not_wellLaid :
    (∃ start, tapePartitionLoadMam true .lto1 (fun _ => 0) (fun _ => 0) = (true, start) ∧
      start.mam.corrupt = false ∧
      start.mam.attributes[0]?.map MamAttribute.value =
        start.mam.attributes[1]?.map MamAttribute.value ∧ ¬start.WellLaid tableMaxLength) ∧
    ∃ start, tapePartitionLoadMam true .lto1 (fun _ => 0) longPage = (true, start) ∧
      start.mam.corrupt = false ∧ ¬start.WellLaid mamAttrMaxLength := by
  constructor
  · obtain ⟨start, loaded⟩ := tapePartitionLoadMam_loads .lto1 (fun _ => 0) fun _ => 0
    have isSound : (tapePartitionLoadMam true .lto1 (fun _ => 0) fun _ => 0).2.mam.corrupt = false := by
      decide +kernel
    have values :
        (tapePartitionLoadMam true .lto1 (fun _ => 0) fun _ => 0).2.mam.attributes[0]?.map
            MamAttribute.value =
          (tapePartitionLoadMam true .lto1 (fun _ => 0) fun _ => 0).2.mam.attributes[1]?.map
            MamAttribute.value := by
      decide +kernel
    rw [loaded] at isSound values
    refine ⟨start, loaded, isSound, values, fun laid => ?_⟩
    have holds := (tapePartitionLoadMam_lengthsOf loaded).wellLaid_table_iff.mp laid
    exact absurd (holds.areas 0 (by omega)) (by decide +kernel)
  · obtain ⟨start, loaded⟩ := tapePartitionLoadMam_loads .lto1 (fun _ => 0) longPage
    have isSound : (tapePartitionLoadMam true .lto1 (fun _ => 0) longPage).2.mam.corrupt = false := by
      decide +kernel
    rw [loaded] at isSound
    refine ⟨start, loaded, isSound, fun laid => ?_⟩
    have fits := (tapePartitionLoadMam_lengthsOf loaded).wellLaid_used_iff.mp laid
    exact absurd fits.areas (by decide +kernel)

end VirtualTape
