import VirtualTape.Verif.WriteAttribute

/-!
# READ ATTRIBUTE

What is returned is the beginning of one list of bytes: a count, then header and value of every
attribute that is reported. The loop cuts a value where the buffer ends. Where the buffer ends inside
a header it leaves the header out and stores the value behind it.
-/

namespace VirtualTape

/-! ## The loop -/

/-- An attribute as it is reported. -/
def Mam.reportedBytes (mam : Mam) (attr : MamAttribute) : List UInt8 :=
  attr.header ++ mam.valueBytes attr attr.length

/-- The attributes that are reported from an identifier on. -/
def Mam.reports (mam : Mam) (first : Nat) (attributes : List MamAttribute) : List (List UInt8) :=
  (attributes.filter (MamAttribute.reported first)).map mam.reportedBytes

/-- So many bytes end inside the header of one of the items. -/
def endsInHeader : Nat → List (List UInt8) → Bool
  | _, [] => false
  | room, item :: rest =>
    decide (0 < room ∧ room < readAttributeSize) || endsInHeader (room - item.length) rest

/-- Size of a header. -/
theorem MamAttribute.header_length (attr : MamAttribute) :
    attr.header.length = readAttributeSize := by
  simp [header, readAttributeSize]

/-- Size of a value. -/
theorem Mam.valueBytes_length (mam : Mam) (attr : MamAttribute) (count : Nat) :
    (mam.valueBytes attr count).length = count := by
  simp [valueBytes]

/-- The beginning of a value. -/
theorem Mam.take_valueBytes (mam : Mam) (attr : MamAttribute) {fewer count : Nat}
    (less : fewer ≤ count) :
    (mam.valueBytes attr count).take fewer = mam.valueBytes attr fewer := by
  rw [valueBytes, ← List.map_take, List.take_range, Nat.min_eq_left less]
  rfl

/-- An item ends inside its header only if it ends before its end. -/
theorem lt_of_endsInHeader {room : Nat} {items : List (List UInt8)}
    (long : ∀ item ∈ items, readAttributeSize ≤ item.length)
    (cut : endsInHeader room items = true) : room < items.flatten.length := by
  induction items generalizing room with
  | nil => simp [endsInHeader] at cut
  | cons item rest ih =>
    have itemLong := long item (by simp)
    rw [endsInHeader, Bool.or_eq_true, decide_eq_true_eq] at cut
    rw [List.flatten_cons, List.length_append]
    rcases cut with here | later
    · omega
    · have := ih (fun other isOther => long other (by simp [isOther])) later
      omega

section Loop

variable {allocationLength first : Nat} {mam : Mam}

/-- A step with room for the header stores it and as much of the value as fits. -/
theorem copyReadAttributes_fits {buffer : Buffer} {done avail : Nat} {attr : MamAttribute}
    {rest : List MamAttribute} (reported : attr.reported first = true)
    (header : done + readAttributeSize ≤ allocationLength) :
    copyReadAttributes allocationLength first mam buffer done avail (attr :: rest) =
      copyReadAttributes allocationLength first mam
        (buffer.write done (attr.header ++ mam.valueBytes attr
          (min (allocationLength - (done + readAttributeSize)) attr.length)))
        (done + readAttributeSize + min (allocationLength - (done + readAttributeSize)) attr.length)
        (avail + (attr.length + readAttributeSize)) rest := by
  rw [copyReadAttributes, reported, Buffer.write_append, attr.header_length]
  simp only [Bool.not_true, Bool.false_eq_true, if_false, if_pos header]
  split
  · rfl
  · rename_i full
    have none : allocationLength - (done + readAttributeSize) = 0 := by omega
    have nothing : mam.valueBytes attr 0 = [] := rfl
    have noStore : ∀ (buffer : Buffer) (offset : Nat), buffer.write offset [] = buffer := by
      intro buffer offset
      simp [Buffer.write]
    rw [none, Nat.zero_min, nothing, noStore]
    rfl

/-- A step without room for the header stores as many bytes of the value as there is room for, behind
the place of the header. -/
theorem copyReadAttributes_cuts {buffer : Buffer} {done avail : Nat} {attr : MamAttribute}
    {rest : List MamAttribute} (reported : attr.reported first = true)
    (noHeader : allocationLength < done + readAttributeSize) :
    copyReadAttributes allocationLength first mam buffer done avail (attr :: rest) =
      if done < allocationLength then
        copyReadAttributes allocationLength first mam
          (buffer.write (done + readAttributeSize)
            (mam.valueBytes attr (min (allocationLength - done) attr.length)))
          (done + min (allocationLength - done) attr.length)
          (avail + (attr.length + readAttributeSize)) rest
      else
        copyReadAttributes allocationLength first mam buffer done
          (avail + (attr.length + readAttributeSize)) rest := by
  rw [copyReadAttributes, reported]
  simp only [Bool.not_true, Bool.false_eq_true, if_false, if_neg (Nat.not_le.mpr noHeader),
    Nat.sub_pos_iff_lt]

/-- Nothing happens to an attribute that is not reported. -/
theorem copyReadAttributes_skips {buffer : Buffer} {done avail : Nat} {attr : MamAttribute}
    {rest : List MamAttribute} (reported : attr.reported first = false) :
    copyReadAttributes allocationLength first mam buffer done avail (attr :: rest) =
      copyReadAttributes allocationLength first mam buffer done avail rest := by
  rw [copyReadAttributes, reported]
  rfl

/-- Once a store was outside the buffer it stays so. -/
theorem copyReadAttributes_outside {buffer : Buffer} {done avail : Nat}
    {attributes : List MamAttribute} (outside : buffer.inside = false) :
    (copyReadAttributes allocationLength first mam buffer done avail attributes).1.inside =
      false := by
  have write : ∀ (offset : Nat) (stored : List UInt8),
      (buffer.write offset stored).inside = false := by
    intro offset stored
    simp [Buffer.write, outside]
  induction attributes generalizing buffer done avail with
  | nil => exact outside
  | cons attr rest ih =>
    have later : ∀ offset stored done avail, (copyReadAttributes allocationLength first mam
        (buffer.write offset stored) done avail rest).1.inside = false :=
      fun offset stored _ _ => ih (write offset stored) fun _ _ => by
        simp [Buffer.write, outside]
    cases reported : attr.reported first with
    | false =>
      rw [copyReadAttributes_skips reported]
      exact ih outside write
    | true =>
      rcases Nat.lt_or_ge allocationLength (done + readAttributeSize) with noHeader | header
      · rw [copyReadAttributes_cuts reported noHeader]
        split
        · exact later _ _ _ _
        · exact ih outside write
      · rw [copyReadAttributes_fits reported header]
        exact later _ _ _ _

/-- With no room for a header something is stored outside the buffer or nothing is added. -/
theorem copyReadAttributes_cut {buffer : Buffer} {done avail : Nat}
    {attributes : List MamAttribute} (isSize : buffer.size = allocationLength)
    (some : done < allocationLength) (few : allocationLength < done + readAttributeSize) :
    (copyReadAttributes allocationLength first mam buffer done avail attributes).1.inside = false ∨
      (copyReadAttributes allocationLength first mam buffer done avail attributes).2.1 = done := by
  induction attributes generalizing buffer avail with
  | nil => exact Or.inr rfl
  | cons attr rest ih =>
    cases reported : attr.reported first with
    | false =>
      rw [copyReadAttributes_skips reported]
      exact ih isSize
    | true =>
      rw [copyReadAttributes_cuts reported few, if_pos some]
      by_cases none : attr.length = 0
      · rw [none, Nat.min_zero]
        exact ih isSize
      · refine Or.inl (copyReadAttributes_outside ?_)
        rw [Bool.eq_false_iff, Ne, Buffer.write_inside_iff, Mam.valueBytes_length, isSize]
        rintro ⟨-, empty | ends⟩
        · have isLength := congrArg List.length empty
          rw [Mam.valueBytes_length, List.length_nil] at isLength
          omega
        · omega

/-- What is reported of an attribute and those behind it. -/
theorem Mam.reports_cons {attr : MamAttribute} (rest : List MamAttribute)
    (reported : attr.reported first = true) :
    mam.reports first (attr :: rest) = mam.reportedBytes attr :: mam.reports first rest := by
  simp [reports, reported]

/-- Size of what is reported of an attribute. -/
theorem Mam.reportedBytes_length (mam : Mam) (attr : MamAttribute) :
    (mam.reportedBytes attr).length = readAttributeSize + attr.length := by
  rw [reportedBytes, List.length_append, attr.header_length, valueBytes_length]

/-- The beginning of what is reported of an attribute. -/
theorem Mam.take_reportedBytes (mam : Mam) (attr : MamAttribute) {room : Nat}
    (enough : readAttributeSize ≤ room) :
    (mam.reportedBytes attr).take room =
      attr.header ++ mam.valueBytes attr (min (room - readAttributeSize) attr.length) := by
  rw [reportedBytes, List.take_append, attr.header_length,
    List.take_of_length_le (by rw [attr.header_length]; exact enough)]
  congr 1
  rcases Nat.le_total (room - readAttributeSize) attr.length with less | more
  · rw [Nat.min_eq_left less, mam.take_valueBytes attr less]
  · rw [Nat.min_eq_right more, List.take_of_length_le (by rw [mam.valueBytes_length]; exact more)]

/-- What the loop counts. -/
theorem copyReadAttributes_avail (buffer : Buffer) (done avail : Nat)
    (attributes : List MamAttribute) :
    (copyReadAttributes allocationLength first mam buffer done avail attributes).2.2 =
      avail + (mam.reports first attributes).flatten.length := by
  induction attributes generalizing buffer done avail with
  | nil => rfl
  | cons attr rest ih =>
    cases reported : attr.reported first with
    | false =>
      rw [copyReadAttributes_skips reported, ih]
      simp [Mam.reports, reported]
    | true =>
      rw [Mam.reports_cons rest reported, List.flatten_cons, List.length_append,
        mam.reportedBytes_length]
      rcases Nat.lt_or_ge allocationLength (done + readAttributeSize) with noHeader | header
      · rw [copyReadAttributes_cuts reported noHeader]
        split <;> rw [ih] <;> omega
      · rw [copyReadAttributes_fits reported header, ih]
        omega

/-- With room for every header it comes to, the loop stores the beginning of what is reported. -/
theorem copyReadAttributes_spec {buffer : Buffer} {done : Nat} (avail : Nat)
    {attributes : List MamAttribute} (isSize : buffer.size = allocationLength)
    (front : done ≤ allocationLength) :
    let copied := copyReadAttributes allocationLength first mam buffer done avail attributes
    let reported := (mam.reports first attributes).flatten.take (allocationLength - done)
    if endsInHeader (allocationLength - done) (mam.reports first attributes) then
      copied.1.inside = false ∨ copied.2.1 < allocationLength
    else
      copied.1.inside = buffer.inside ∧ copied.1.size = allocationLength ∧
        copied.2.1 = done + reported.length ∧
        copied.1.bytes copied.2.1 = buffer.bytes done ++ reported := by
  induction attributes generalizing buffer done avail with
  | nil => simp [copyReadAttributes, Mam.reports, endsInHeader, isSize]
  | cons attr rest ih =>
    cases reported : attr.reported first with
    | false =>
      rw [copyReadAttributes_skips reported]
      simpa [Mam.reports, reported] using ih avail isSize front
    | true =>
      rw [Mam.reports_cons rest reported, endsInHeader, List.flatten_cons, List.take_append,
        mam.reportedBytes_length]
      rcases Nat.lt_or_ge allocationLength (done + readAttributeSize) with noHeader | header
      · rcases Nat.lt_or_ge done allocationLength with some | full
        · -- the buffer ends inside this header
          dsimp only
          rw [if_pos (by simp only [Bool.or_eq_true, decide_eq_true_eq]; omega)]
          refine (copyReadAttributes_cut isSize some noHeader).imp_right fun same => ?_
          rw [same]
          exact some
        · have none : allocationLength - done = 0 := by omega
          have step : copyReadAttributes allocationLength first mam buffer done avail
              (attr :: rest) = copyReadAttributes allocationLength first mam buffer done
                (avail + (attr.length + readAttributeSize)) rest := by
            rw [copyReadAttributes_cuts reported noHeader, if_neg (by omega)]
          have later := ih (avail + (attr.length + readAttributeSize)) isSize front
          rw [step, none]
          simpa [none] using later
      · rw [copyReadAttributes_fits reported header, mam.take_reportedBytes attr (by omega),
          Nat.sub_sub]
        have whole : decide (0 < allocationLength - done ∧
            allocationLength - done < readAttributeSize) = false := by
          rw [decide_eq_false_iff_not]
          omega
        have isChunk : (attr.header ++ mam.valueBytes attr
            (min (allocationLength - (done + readAttributeSize)) attr.length)).length =
              readAttributeSize +
                min (allocationLength - (done + readAttributeSize)) attr.length := by
          rw [List.length_append, attr.header_length, mam.valueBytes_length]
        rw [whole, Bool.false_or]
        have least := Nat.min_le_left (allocationLength - (done + readAttributeSize)) attr.length
        have room : allocationLength - (done + readAttributeSize +
            min (allocationLength - (done + readAttributeSize)) attr.length) =
              allocationLength - done - (readAttributeSize + attr.length) := by omega
        generalize attr.header ++ mam.valueBytes attr
          (min (allocationLength - (done + readAttributeSize)) attr.length) = chunk at isChunk ⊢
        generalize min (allocationLength - (done + readAttributeSize)) attr.length = stored at *
        have later := @ih (buffer.write done chunk) (done + readAttributeSize + stored)
          (avail + (attr.length + readAttributeSize)) isSize (by omega)
        have holds := Buffer.bytes_write buffer done chunk
        have fits := Buffer.write_inside buffer done chunk (by omega)
        rw [isChunk, ← Nat.add_assoc] at holds fits
        have sameInside : (buffer.write done chunk).inside = buffer.inside := by
          rw [Bool.eq_iff_iff, fits, isSize]
          exact and_iff_left (by omega)
        simp only [room, holds, sameInside] at later
        dsimp only
        rw [List.length_append, isChunk]
        simpa only [Nat.add_assoc, List.append_assoc] using later

end Loop

/-! ## Numbers -/

namespace Mam

variable {mam : Mam}

/-- The areas are those of the table, and the page was found in order. -/
structure Intact (mam : Mam) : Prop extends mam.Laid where
  /-- Every area has the size that the table gives it. -/
  sized : mam.attributes.map mamAttrMaxLength = mamAttributes.map mamAttrMaxLength
  /-- The checksum was right. -/
  sound : mam.corrupt = false

/-- The number that an attribute stands for. -/
def number (mam : Mam) (identifier : Nat) : Option Nat :=
  ((mam.getAttribute identifier).bind (mam.attributes[·]?)).map fun attr =>
    ofBe (mam.valueBytes attr attr.length)

/-- To set an attribute within its area changes that attribute. -/
theorem setBytes_changed {identifier index : Nat} {attr : MamAttribute}
    {bytes : MamAttribute → Option (List UInt8)} {stored : List UInt8}
    (found : mam.getAttribute identifier = some index)
    (isAttr : mam.attributes[index]? = some attr) (isStored : bytes attr = some stored)
    (room : stored.length ≤ mamAttrMaxLength attr) :
    mam.Changed (mam.setBytes identifier bytes) index attr { attr with valid := 1 } := by
  have isAfter : mam.setBytes identifier bytes =
      { mam.modify index ({ · with valid := 1 }) with page := mam.page.write attr.value stored } := by
    simp only [setBytes, found, isAttr, isStored]
  rw [isAfter]
  exact ⟨isAttr, modify_attributes isAttr _, ⟨rfl, rfl, rfl⟩, rfl,
    fun _ _ before => Buffer.write_data_before _ _ _ before,
    fun _ _ behind => Buffer.write_data_behind _ _ _ (by omega)⟩

/-- The value of an attribute that was set: what was stored, and behind it what was there. -/
theorem setBytes_valueBytes {identifier index count : Nat} {attr : MamAttribute}
    {bytes : MamAttribute → Option (List UInt8)} {stored : List UInt8}
    (found : mam.getAttribute identifier = some index)
    (isAttr : mam.attributes[index]? = some attr) (isStored : bytes attr = some stored)
    (enough : stored.length ≤ count) :
    (mam.setBytes identifier bytes).valueBytes { attr with valid := 1 } count =
      stored ++ (mam.valueBytes attr count).drop stored.length := by
  have isPage : (mam.setBytes identifier bytes).page = mam.page.write attr.value stored := by
    simp only [setBytes, found, isAttr, isStored]
  refine List.ext_getElem (by simp [valueBytes]; omega) fun offset _ isOffset => ?_
  simp only [valueBytes, List.getElem_map, List.getElem_range, isPage]
  by_cases inside : offset < stored.length
  · rw [Buffer.write_data_at _ _ _ inside, List.getElem_append_left inside]
  · rw [Buffer.write_data_behind _ _ _ (by omega), List.getElem_append_right (by omega)]
    simp only [List.getElem_drop, List.getElem_map, List.getElem_range]
    congr 1
    omega

/-- The number of an attribute that was set. -/
theorem number_setBytes {identifier index : Nat} {attr : MamAttribute}
    {bytes : MamAttribute → Option (List UInt8)} {stored : List UInt8} (laid : mam.Laid)
    (found : mam.getAttribute identifier = some index)
    (isAttr : mam.attributes[index]? = some attr) (isStored : bytes attr = some stored)
    (room : stored.length ≤ attr.length) :
    (mam.setBytes identifier bytes).number identifier =
      some (ofBe (stored ++ (mam.valueBytes attr attr.length).drop stored.length)) := by
  have change := setBytes_changed found isAttr isStored
    (Nat.le_trans room (laid.fits attr (List.mem_of_getElem? isAttr)))
  rw [number, getAttribute_congr identifier (change.map_eq MamAttribute.name change.alike.name),
    found, Option.bind_some, change.getElem?_self, Option.map_some,
    setBytes_valueBytes found isAttr isStored room]

/-- The number of an attribute that was not changed. -/
theorem Changed.number_of_ne {after : Mam} {identifier index other : Nat}
    {attr changed : MamAttribute} (change : mam.Changed after index attr changed) (laid : mam.Laid)
    (found : mam.getAttribute identifier = some other) (different : other ≠ index) :
    after.number identifier = mam.number identifier := by
  obtain ⟨-, otherAttr, isOther, -⟩ := getAttribute_some found
  rw [number, getAttribute_congr identifier (change.map_eq MamAttribute.name change.alike.name),
    number, found, Option.bind_some, Option.bind_some, change.getElem?_of_ne different, isOther,
    Option.map_some, Option.map_some]
  have sameEntry := change.entry_of_ne laid isOther different
  simp only [entry, MamEntry.mk.injEq] at sameEntry
  rw [sameEntry.2.2.2.2]

/-- An attribute of an intact memory: found where the table has it, with the length of the table. -/
theorem Intact.attribute (intact : mam.Intact) {index : Nat} {tabled : MamAttribute}
    (isTabled : mamAttributes[index]? = some tabled)
    (fixed : tabled.identifier ≠ 0x0008 ∧ tabled.identifier ≠ 0x080C) :
    ∃ attr, mam.attributes[index]? = some attr ∧ attr.length = tabled.length := by
  have sameName := congrArg (fun names : List (Nat × Nat) => names[index]?) intact.named
  have sameSize := congrArg (fun sizes : List Nat => sizes[index]?) intact.sized
  simp only [List.getElem?_map, isTabled, Option.map_some, Option.map_eq_some_iff] at sameName sameSize
  obtain ⟨attr, isAttr, isName⟩ := sameName
  obtain ⟨same, isSame, isSize⟩ := sameSize
  rw [isAttr] at isSame
  cases isSame
  simp only [MamAttribute.name, Prod.mk.injEq] at isName
  refine ⟨attr, isAttr, ?_⟩
  rwa [mamAttrMaxLength, mamAttrMaxLength, isName.1, if_neg fixed.1, if_neg fixed.2, if_neg fixed.1,
    if_neg fixed.2] at isSize

/-- Where the table has the attributes that the drive keeps. -/
theorem emptyMam_found :
    emptyMam.getAttribute 0x0000 = some 0 ∧ emptyMam.getAttribute 0x0001 = some 1 ∧
      emptyMam.getAttribute 0x0009 = some 9 ∧ emptyMam.getAttribute 0x0403 = some 35 ∧
      emptyMam.getAttribute 0x0407 = some 39 := by
  decide +kernel

/-- An attribute is found where the table has it. -/
theorem Placed.found (placed : mam.Placed) (identifier : Nat) :
    mam.getAttribute identifier = emptyMam.getAttribute identifier :=
  getAttribute_congr identifier
    (placed.named.trans (mamInitFrom_named _ false 0 mamAttributeDataOffset mamAttributes).symm)

/-- A number that fills its attribute is what the attribute stands for. -/
theorem Intact.number_setBytes_full (intact : mam.Intact) {identifier index : Nat}
    {tabled : MamAttribute} (number : Nat)
    (found : emptyMam.getAttribute identifier = some index)
    (isTabled : mamAttributes[index]? = some tabled)
    (fixed : tabled.identifier ≠ 0x0008 ∧ tabled.identifier ≠ 0x080C) :
    (mam.setBytes identifier fun _ => some (beBytes tabled.length number)).number identifier =
      some (number % 256 ^ tabled.length) := by
  obtain ⟨attr, isAttr, isLength⟩ := intact.attribute isTabled fixed
  rw [number_setBytes intact.toLaid ((intact.toPlaced.found identifier).trans found) isAttr rfl
    (by simp [isLength]), List.drop_eq_nil_of_le (by simp [valueBytes_length, isLength]),
    List.append_nil, ofBe_beBytes]

end Mam

/-! ## The command -/

/-- All that a command could return: how many bytes follow, and the attributes from an identifier
on. -/
def attributeData (first : Nat) (mam : Mam) : List UInt8 :=
  beBytes 4 (mam.reports first mam.attributes).flatten.length ++
    (mam.reports first mam.attributes).flatten

/-- A command returns what it should and the numbers that the drive keeps are in it. -/
structure ReadsAttributes (allocationLength first size used : Nat) (stale : Nat → UInt8)
    (mam : Mam) : Prop where
  /-- The beginning of the data, without a store outside the buffer. -/
  data : ∃ buffer dxferLen,
    tdriveCopyReadAttributes allocationLength first size used stale mam =
        .data buffer dxferLen ∧
      buffer.inside = true ∧ buffer.bytes dxferLen =
        (attributeData first (tapePartitionUpdateMam size used mam)).take allocationLength
  /-- Remaining capacity in megabytes. -/
  remaining : (tapePartitionUpdateMam size used mam).number 0x0000 = some ((size - used) / 2 ^ 20)
  /-- Maximum capacity in megabytes. -/
  maximum : (tapePartitionUpdateMam size used mam).number 0x0001 = some (size / 2 ^ 20)
  /-- Volume change reference. -/
  reference : ∀ vcr < 2 ^ 32, (mam.setWord 0x0009 vcr).number 0x0009 = some vcr
  /-- Width of the tape. -/
  width : (mam.setWord 0x0403 127).number 0x0403 = some 127
  /-- Size of the auxiliary memory. -/
  capacity : (mam.setLong 0x0407 4096).number 0x0407 = some 4096

/-- When a command returns what it should. -/
structure ReadsWell (allocationLength first size used : Nat) (mam : Mam) : Prop where
  /-- The length is one that a buffer can have. -/
  small : allocationLength < 2 ^ 31
  /-- The first attribute is there. -/
  known : ∃ attr, (mam.getAttribute first).bind (mam.attributes[·]?) = some attr ∧ attr.valid ≠ 0
  /-- The buffer does not end inside a header. -/
  whole : endsInHeader (allocationLength - 4) ((tapePartitionUpdateMam size used mam).reports first
    (tapePartitionUpdateMam size used mam).attributes) = false
  /-- No more is used than there is, unless by almost all that 64 bits can say. -/
  remaining : used ≤ size ∨ 2 ^ 64 - 2 ^ 20 < used - size
  /-- The two halves of the maximum capacity are equal, and so is the half that is not stored. -/
  maximum : size / 2 ^ 20 / 2 ^ 32 = size / 2 ^ 20 % 2 ^ 32 ∧
    ∃ was, mam.number 0x0001 = some was ∧ was % 2 ^ 32 = size / 2 ^ 20 % 2 ^ 32

section Command

variable {allocationLength first size used : Nat} {mam : Mam}

/-- What the command leaves in the buffer, if the first attribute is there. -/
theorem tdriveCopyReadAttributes_known (stale : Nat → UInt8) (large : 4 ≤ allocationLength)
    (small : allocationLength < 2 ^ 31) (sound : mam.corrupt = false) {attr : MamAttribute}
    (found : (mam.getAttribute first).bind (mam.attributes[·]?) = some attr)
    (valid : attr.valid ≠ 0) :
    tdriveCopyReadAttributes allocationLength first size used stale mam =
      let updated := tapePartitionUpdateMam size used mam
      let copied := copyReadAttributes allocationLength first updated
        (Buffer.allocate allocationLength stale) 4 0 updated.attributes
      .data (copied.1.write 0 (beBytes 4 copied.2.2)) copied.2.1 := by
  rw [tdriveCopyReadAttributes, if_neg (by omega), if_neg (by simp [sound]), found]
  simp only [if_neg valid, if_neg (Nat.not_le.mpr small)]

/-- What is copied is the beginning of the data when the buffer does not end inside a header. -/
theorem copyReadAttributes_returned_iff (updated : Mam) (stale : Nat → UInt8)
    (large : 4 ≤ allocationLength) :
    let copied := copyReadAttributes allocationLength first updated
      (Buffer.allocate allocationLength stale) 4 0 updated.attributes
    let buffer := copied.1.write 0 (beBytes 4 copied.2.2)
    (buffer.inside = true ∧
        buffer.bytes copied.2.1 = (attributeData first updated).take allocationLength) ↔
      endsInHeader (allocationLength - 4) (updated.reports first updated.attributes) = false := by
  dsimp only
  have counted : (copyReadAttributes allocationLength first updated
      (Buffer.allocate allocationLength stale) 4 0 updated.attributes).2.2 =
        0 + (updated.reports first updated.attributes).flatten.length :=
    copyReadAttributes_avail _ _ _ _
  have isSize : (Buffer.allocate allocationLength stale).size = allocationLength := rfl
  have began : (Buffer.allocate allocationLength stale).inside = true := rfl
  have spec := @copyReadAttributes_spec allocationLength first updated _ 4 0 updated.attributes
    isSize large
  generalize copyReadAttributes allocationLength first updated
    (Buffer.allocate allocationLength stale) 4 0 updated.attributes = copied at counted spec ⊢
  rw [Nat.zero_add] at counted
  have dataLength : (attributeData first updated).length =
      4 + (updated.reports first updated.attributes).flatten.length := by
    rw [attributeData, List.length_append, beBytes_length]
  dsimp only at spec
  split at spec
  · rename_i cut
    refine iff_of_false ?_ (by simp [cut])
    rintro ⟨inside, returned⟩
    have isInside := ((Buffer.write_inside_iff _ _ _).mp inside).1
    have short := spec.resolve_left (by simp [isInside])
    have most := lt_of_endsInHeader (fun item isItem => by
      obtain ⟨attr, -, rfl⟩ := List.mem_map.mp isItem
      rw [updated.reportedBytes_length]
      omega) cut
    have sameLength := congrArg List.length returned
    rw [Buffer.bytes_length, List.length_take, dataLength] at sameLength
    omega
  · rename_i whole
    obtain ⟨inside, size, ends, holds⟩ := spec
    refine iff_of_true ⟨?_, ?_⟩ (by simpa using whole)
    · rw [Buffer.write_inside _ _ _ (Nat.zero_le _), beBytes_length, inside, size]
      exact ⟨began, by omega⟩
    · have count : (beBytes 4 (updated.reports first updated.attributes).flatten.length).take
          allocationLength =
            beBytes 4 (updated.reports first updated.attributes).flatten.length :=
        List.take_of_length_le (by rw [beBytes_length]; exact large)
      rw [Buffer.bytes_write_middle _ _ _ _ (by rw [beBytes_length, ends]; omega), holds,
        beBytes_length, List.drop_left' (by simp), counted, attributeData, List.take_append, count,
        beBytes_length]
      rfl

/-- The data is returned as it should be when the first attribute is there and the buffer does not
end inside a header. -/
theorem tdriveCopyReadAttributes_data_iff (stale : Nat → UInt8) (large : 4 ≤ allocationLength)
    (sound : mam.corrupt = false) :
    (∃ buffer dxferLen,
      tdriveCopyReadAttributes allocationLength first size used stale mam =
          .data buffer dxferLen ∧
        buffer.inside = true ∧ buffer.bytes dxferLen =
          (attributeData first (tapePartitionUpdateMam size used mam)).take allocationLength) ↔
      allocationLength < 2 ^ 31 ∧
        (∃ attr, (mam.getAttribute first).bind (mam.attributes[·]?) = some attr ∧ attr.valid ≠ 0) ∧
        endsInHeader (allocationLength - 4) ((tapePartitionUpdateMam size used mam).reports first
          (tapePartitionUpdateMam size used mam).attributes) = false := by
  by_cases known : ∃ attr, (mam.getAttribute first).bind (mam.attributes[·]?) = some attr ∧
      attr.valid ≠ 0
  · obtain ⟨attr, found, valid⟩ := known
    by_cases small : allocationLength < 2 ^ 31
    swap
    · refine iff_of_false ?_ fun all => small all.1
      rintro ⟨buffer, dxferLen, isData, -⟩
      rw [tdriveCopyReadAttributes, if_neg (by omega), if_neg (by simp [sound]), found] at isData
      simp only [if_neg valid, if_pos (Nat.not_lt.mp small)] at isData
      cases isData
    rw [and_iff_right small, and_iff_right ⟨attr, found, valid⟩]
    have returned := @copyReadAttributes_returned_iff allocationLength first
      (tapePartitionUpdateMam size used mam) stale large
    dsimp only at returned
    rw [tdriveCopyReadAttributes_known stale large small sound found valid, ← returned]
    constructor
    · rintro ⟨buffer, dxferLen, isData, returned⟩
      cases isData
      exact returned
    · exact fun returned => ⟨_, _, rfl, returned⟩
  · refine iff_of_false ?_ fun all => known all.2.1
    rintro ⟨buffer, dxferLen, isData, -⟩
    rw [tdriveCopyReadAttributes, if_neg (by omega), if_neg (by simp [sound])] at isData
    cases found : (mam.getAttribute first).bind (mam.attributes[·]?) with
    | none => simp [found] at isData
    | some attr =>
      have invalid : attr.valid = 0 := by
        by_contra valid
        exact known ⟨attr, found, valid⟩
      simp [found, invalid] at isData

/-- The two capacities are set one after the other, each in its own area. -/
theorem tapePartitionUpdateMam_changed (intact : mam.Intact) (size used : Nat) :
    ∃ remaining maximum : MamAttribute, remaining.length = 8 ∧ maximum.length = 8 ∧
      mam.Changed (mam.setLong 0x0000 ((size + 2 ^ 64 - used) % 2 ^ 64 / 2 ^ 20)) 0 remaining
        { remaining with valid := 1 } ∧
      (mam.setLong 0x0000 ((size + 2 ^ 64 - used) % 2 ^ 64 / 2 ^ 20)).Laid ∧
      (mam.setLong 0x0000 ((size + 2 ^ 64 - used) % 2 ^ 64 / 2 ^ 20)).Changed
        (tapePartitionUpdateMam size used mam) 1 maximum { maximum with valid := 1 } := by
  have firstFound : mam.getAttribute 0x0000 = some 0 :=
    (intact.toPlaced.found 0x0000).trans Mam.emptyMam_found.1
  have secondFound : mam.getAttribute 0x0001 = some 1 :=
    (intact.toPlaced.found 0x0001).trans Mam.emptyMam_found.2.1
  obtain ⟨remaining, isRemaining, firstLength⟩ :
      ∃ attr, mam.attributes[0]? = some attr ∧ attr.length = 8 :=
    @Mam.Intact.attribute mam intact 0 _ rfl (by decide)
  obtain ⟨maximum, isMaximum, secondLength⟩ :
      ∃ attr, mam.attributes[1]? = some attr ∧ attr.length = 8 :=
    @Mam.Intact.attribute mam intact 1 _ rfl (by decide)
  have firstRoom := intact.fits remaining (List.mem_of_getElem? isRemaining)
  have secondRoom := intact.fits maximum (List.mem_of_getElem? isMaximum)
  have first := @Mam.setBytes_changed mam 0x0000 0 remaining
    (fun _ => some (beBytes 8 ((size + 2 ^ 64 - used) % 2 ^ 64 / 2 ^ 20))) _ firstFound isRemaining
    rfl (by rw [beBytes_length]; omega)
  refine ⟨remaining, maximum, firstLength, secondLength, first, first.laid intact.toLaid firstRoom,
    ?_⟩
  have found : (mam.setLong 0x0000 ((size + 2 ^ 64 - used) % 2 ^ 64 / 2 ^ 20)).getAttribute 0x0001 =
      some 1 := by
    rw [← secondFound]
    exact Mam.getAttribute_congr 0x0001 (first.map_eq MamAttribute.name first.alike.name)
  have isAttr := (first.getElem?_of_ne (show 1 ≠ 0 by decide)).trans isMaximum
  rw [tapePartitionUpdateMam]
  exact Mam.setBytes_changed found isAttr rfl (by rw [beBytes_length]; omega)

/-- The number of the remaining capacity. -/
theorem remaining_iff (intact : mam.Intact) (smallSize : size < 2 ^ 64) (smallUsed : used < 2 ^ 64) :
    (tapePartitionUpdateMam size used mam).number 0x0000 = some ((size - used) / 2 ^ 20) ↔
      used ≤ size ∨ 2 ^ 64 - 2 ^ 20 < used - size := by
  obtain ⟨remaining, maximum, -, -, -, laid, second⟩ :=
    tapePartitionUpdateMam_changed intact size used
  have found : (mam.setLong 0x0000 ((size + 2 ^ 64 - used) % 2 ^ 64 / 2 ^ 20)).getAttribute 0x0000 =
      some 0 := (laid.toPlaced.found 0x0000).trans Mam.emptyMam_found.1
  have isNumber : (mam.setLong 0x0000 ((size + 2 ^ 64 - used) % 2 ^ 64 / 2 ^ 20)).number 0x0000 =
      some ((size + 2 ^ 64 - used) % 2 ^ 64 / 2 ^ 20 % 256 ^ 8) :=
    @Mam.Intact.number_setBytes_full mam intact 0x0000 0 (mamEntry 0x0000 0x80 8 1)
      ((size + 2 ^ 64 - used) % 2 ^ 64 / 2 ^ 20) Mam.emptyMam_found.1 rfl (by decide)
  rw [second.number_of_ne laid found (by decide), isNumber, Option.some.injEq]
  omega

/-- A number of two halves, the upper one stored and the lower one left. -/
theorem halves_eq_iff {number low : Nat} (small : low < 2 ^ 32) :
    number % 2 ^ 32 * 2 ^ 32 + low = number ↔
      number / 2 ^ 32 = number % 2 ^ 32 ∧ low = number % 2 ^ 32 := by
  omega

/-- The number of the maximum capacity. -/
theorem maximum_iff (intact : mam.Intact) (used : Nat) :
    (tapePartitionUpdateMam size used mam).number 0x0001 = some (size / 2 ^ 20) ↔
      size / 2 ^ 20 / 2 ^ 32 = size / 2 ^ 20 % 2 ^ 32 ∧
        ∃ was, mam.number 0x0001 = some was ∧ was % 2 ^ 32 = size / 2 ^ 20 % 2 ^ 32 := by
  obtain ⟨remaining, maximum, -, isLength, first, laid, second⟩ :=
    tapePartitionUpdateMam_changed intact size used
  have found : mam.getAttribute 0x0001 = some 1 :=
    (intact.toPlaced.found 0x0001).trans Mam.emptyMam_found.2.1
  have secondFound : (mam.setLong 0x0000 ((size + 2 ^ 64 - used) % 2 ^ 64 / 2 ^ 20)).getAttribute
      0x0001 = some 1 := (laid.toPlaced.found 0x0001).trans Mam.emptyMam_found.2.1
  have wasNumber := first.number_of_ne intact.toLaid found (by decide)
  rw [Mam.number, secondFound, Option.bind_some, second.isAttr, Option.map_some] at wasNumber
  have isNumber : (tapePartitionUpdateMam size used mam).number 0x0001 = _ :=
    @Mam.number_setBytes _ 0x0001 1 maximum (fun _ => some (beBytes 4 (size / 2 ^ 20))) _ laid
      secondFound second.isAttr rfl (by rw [beBytes_length]; omega)
  generalize mam.setLong 0x0000 ((size + 2 ^ 64 - used) % 2 ^ 64 / 2 ^ 20) = middle at wasNumber isNumber
  have four : ((middle.valueBytes maximum maximum.length).drop 4).length = 4 := by
    rw [List.length_drop, Mam.valueBytes_length, isLength]
  have low := ofBe_lt ((middle.valueBytes maximum maximum.length).drop 4)
  have whole := ofBe_append ((middle.valueBytes maximum maximum.length).take 4)
    ((middle.valueBytes maximum maximum.length).drop 4)
  rw [four] at low whole
  rw [List.take_append_drop] at whole
  rw [isNumber, ← wasNumber, beBytes_length, ofBe_append, ofBe_beBytes, four, Option.some.injEq,
    show (256 : Nat) ^ 4 = 2 ^ 32 by decide, halves_eq_iff low]
  refine and_congr_right fun _ => ?_
  simp only [Option.some.injEq, exists_eq_left']
  rw [whole]
  omega

end Command

/-- An intact memory is read as it should be exactly when the first attribute is there, the buffer
does not end inside a header, and the capacities are such that the numbers come out right. -/
theorem tdriveCopyReadAttributes_reads_iff (allocationLength first size used : Nat)
    (stale : Nat → UInt8) (mam : Mam) (intact : mam.Intact) (large : 4 ≤ allocationLength)
    (smallSize : size < 2 ^ 64) (smallUsed : used < 2 ^ 64) :
    ReadsAttributes allocationLength first size used stale mam ↔
      ReadsWell allocationLength first size used mam := by
  have data := @tdriveCopyReadAttributes_data_iff allocationLength first size used mam stale large
    intact.sound
  constructor
  · intro reads
    obtain ⟨small, known, whole⟩ := data.mp reads.data
    exact ⟨small, known, whole, (remaining_iff intact smallSize smallUsed).mp reads.remaining,
      (maximum_iff intact used).mp reads.maximum⟩
  · intro well
    refine ⟨data.mpr ⟨well.small, well.known, well.whole⟩,
      (remaining_iff intact smallSize smallUsed).mpr well.remaining,
      (maximum_iff intact used).mpr well.maximum, fun vcr small => ?_, ?_, ?_⟩
    · have isNumber : (mam.setWord 0x0009 vcr).number 0x0009 = some (vcr % 256 ^ 4) :=
        @Mam.Intact.number_setBytes_full mam intact 0x0009 9 (mamEntry 0x0009 0x00 4 1) vcr
          Mam.emptyMam_found.2.2.1 rfl (by decide)
      exact isNumber.trans (congrArg some (Nat.mod_eq_of_lt small))
    · exact @Mam.Intact.number_setBytes_full mam intact 0x0403 35 (mamEntry 0x0403 0x80 4 1) 127
        Mam.emptyMam_found.2.2.2.1 rfl (by decide)
    · exact @Mam.Intact.number_setBytes_full mam intact 0x0407 39 (mamEntry 0x0407 0x80 8 1) 4096
        Mam.emptyMam_found.2.2.2.2 rfl (by decide)

/-- The memory of a partition that was created is intact. -/
theorem createdPartition_intact : createdPartition.mam.Intact :=
  ⟨tapePartitionCreateMam_laid true .lto5 fun _ => 0, by decide +kernel, by decide +kernel⟩

/-- All attributes of a created partition of less than a megabyte are read into a large buffer. -/
theorem tdriveCopyReadAttributes_reads_created :
    ReadsAttributes 4096 0 (2 ^ 19) 4096 (fun _ => 0) createdPartition.mam :=
  (tdriveCopyReadAttributes_reads_iff 4096 0 (2 ^ 19) 4096 (fun _ => 0) createdPartition.mam
    createdPartition_intact (by decide) (by decide) (by decide)).mpr
      ⟨by decide, by decide +kernel, by decide +kernel, Or.inl (by decide), by decide +kernel⟩

/-- A buffer of 20 bytes is overrun, and a partition of 64 MB is reported as one of `2 ^ 38` MB. -/
theorem tdriveCopyReadAttributes_overruns :
    (match tdriveCopyReadAttributes 20 0 (2 ^ 26) 0 (fun _ => 0) createdPartition.mam with
      | .data buffer _ => buffer.inside
      | _ => true) = false ∧
      (tapePartitionUpdateMam (2 ^ 26) 0 createdPartition.mam).number 0x0001 = some (2 ^ 38) := by
  decide +kernel

end VirtualTape
