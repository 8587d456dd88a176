import Mathlib.Data.List.Find
import Mathlib.Data.Nat.Bitwise
import Mathlib.Tactic.IntervalCases
import VirtualTape.Lib.MaskedByte
import VirtualTape.Verif.ModeSelect

/-!
# What MODE SELECT leaves behind when it fails

MODE SELECT stores its header, its block descriptor and its pages one after the other, so a page that
is refused does not undo what was stored before it, and does not keep what follows from being stored.
Each page stores some bits of some bytes of the drive, and the last page that stores into a byte
decides. So a failed command leaves the drive as it was if and only if its list asks for nothing new:
for the buffered mode, the block length and the fields of the pages that the drive has.
-/

namespace VirtualTape

/-! ## What a page stores -/

/-- A byte of the mode pages that MODE SELECT stores into. -/
inductive ModeByte
  /-- Of the compression page. -/
  | compression (place : Fin 16)
  /-- Of the configuration page. -/
  | configuration (place : Fin 16)
  /-- Of the partition page. -/
  | partition (place : Fin 16)

/-- The byte of a drive. -/
def ModeDrive.byte (drive : ModeDrive) : ModeByte → UInt8
  | .compression place => drive.compressionPage place
  | .configuration place => drive.configurationPage place
  | .partition place => drive.partitionPage place

/-- The bits of the byte that MODE SELECT stores. -/
def ModeByte.mask : ModeByte → UInt8
  | .compression _ => 0x80
  | .configuration place => if place.val = 10 then 0x08 else 0xFF
  | .partition place => if place.val = 4 then 0xE4 else 0xFF

/-- The page has this code. -/
def isPage (code : UInt8) (data : List UInt8) : Bool := data[0]?.map (· &&& 0x3F) == some code

/-- `update_medium_partition_page` refuses a page. -/
def refusesPartition (tape : Option ModeTape) (data : List UInt8) : Bool :=
  match { unloadedDrive with tape := tape }.updateMediumPartitionPage data with
  | .refused => true
  | _ => false

/-- A byte of a page. -/
def pageByte (page : List UInt8) (place : Nat) : UInt8 := page[place]?.getD 0

/-- A configuration page of the length with which it is taken. -/
def isConfiguration (page : List UInt8) : Bool :=
  isPage deviceConfigurationPage page && page[1]? == some 0x0E

/-- A partition page that is accepted. -/
def isAccepted (tape : Option ModeTape) (page : List UInt8) : Bool :=
  isPage mediumPartitionPage page && !refusesPartition tape page

/-- An accepted partition page that reaches to a place. -/
def reachesTo (tape : Option ModeTape) (place : Nat) (page : List UInt8) : Bool :=
  isAccepted tape page && decide (place < partitionPageLength (pageByte page 3))

/-- A page stores into a byte. -/
def ModeByte.isStored (tape : Option ModeTape) : ModeByte → List UInt8 → Bool
  | .compression place, page => decide (place.val = 2) && isPage dataCompressionPage page
  | .configuration place, page => decide (place.val = 10 ∨ place.val = 14) && isConfiguration page
  | .partition place, page =>
    if 8 ≤ place.val then reachesTo tape place.val page
    else decide (place.val = 1 ∨ place.val = 3 ∨ place.val = 4 ∨ place.val = 6) && isAccepted tape page

/-- What a page that stores into a byte asks for. -/
def ModeByte.asked (page : List UInt8) : ModeByte → UInt8
  | .compression place => pageByte page place.val
  | .configuration place =>
    if place.val = 10 then if pageByte page 10 &&& 0x01 ≠ 0 then 0x08 else 0
    else pageByte page place.val
  | .partition place =>
    if place.val = 1 then UInt8.ofNat (partitionPageLength (pageByte page 3))
    else if place.val = 4 then partitionFlags 0 (pageByte page 4)
    else if place.val = 6 then pageByte page 6 &&& 0x0F
    else pageByte page place.val

/-- Store what a page asks for into a byte. -/
def storeByte (tape : Option ModeTape) (byte : ModeByte) (old : UInt8) (page : List UInt8) : UInt8 :=
  if byte.isStored tape page then replaceBits byte.mask old (byte.asked page) else old

/-- The bits of a partition page that say how partitions are made are replaced. -/
theorem partitionFlags_eq (old new : UInt8) :
    partitionFlags old new = replaceBits 0xE4 old (partitionFlags 0 new) := by
  unfold partitionFlags replaceBits
  split_ifs <;> rfl

/-- The bit of the configuration page is replaced. -/
theorem sewBit_eq (old sew : UInt8) :
    (if sew &&& ((0x8 : UInt8) >>> 3) ≠ 0 then old ||| 0x08 else old &&& 0xF7) =
      replaceBits 0x08 old (if sew &&& 0x01 ≠ 0 then 0x08 else 0) := by
  have isBit : (0x8 : UInt8) >>> 3 = 0x01 := by decide
  rw [isBit]
  split
  · refine byte_ext fun place inside => ?_
    rw [replaceBits_bit _ _ _ inside, UInt8.toBitVec_or, BitVec.getLsbD_or]
    split <;> simp_all
  · exact (UInt8.or_zero).symm

/-- A partition page is refused, or its bytes are stored. -/
theorem updateMediumPartitionPage_eq (data : List UInt8) (drive : ModeDrive) :
    drive.updateMediumPartitionPage data =
      if refusesPartition drive.tape data then .refused
      else .accepted (acceptPartitionPage (pageByte data 3) (pageByte data 4) (pageByte data 6) data
        drive.partitionPage) := by
  unfold refusesPartition ModeDrive.updateMediumPartitionPage
  cases drive.tape with
  | none => rfl
  | some tape =>
    dsimp only
    by_cases short : data.length < 8
    · simp only [if_pos short, if_true]
    · simp only [if_neg short, List.getElem?_eq_getElem (by omega : 3 < data.length),
        List.getElem?_eq_getElem (by omega : 4 < data.length),
        List.getElem?_eq_getElem (by omega : 6 < data.length)]
      by_cases refuses : refusesFields tape
          (partitionFields data[3] data[4] data[6] fun _ => 0) data.length = true
      · simp only [if_pos refuses, if_true]
      · have inside : 8 + (data[3].toNat + 1) * 2 ≤ data.length := by
          simp only [refusesFields, partitionFields, Bool.or_eq_true, not_or] at refuses
          exact Nat.le_of_not_lt fun less => refuses.2 (decide_eq_true less)
        obtain ⟨sizes, isSizes⟩ := readSizes_some data (data[3].toNat + 1) 8 (by omega)
        have bytes : data[3] = pageByte data 3 ∧ data[4] = pageByte data 4 ∧
            data[6] = pageByte data 6 := by
          simp only [pageByte, List.getElem?_eq_getElem (by omega : 3 < data.length),
            List.getElem?_eq_getElem (by omega : 4 < data.length),
            List.getElem?_eq_getElem (by omega : 6 < data.length), Option.getD_some, and_self]
        simp only [if_neg refuses, isSizes, ← bytes.1, ← bytes.2.1, ← bytes.2.2]
        split <;> rfl

/-- An accepted partition page is inside its list. -/
theorem partitionPageLength_le {tape : Option ModeTape} {page : List UInt8}
    (accepts : refusesPartition tape page = false) :
    partitionPageLength (pageByte page 3) ≤ page.length := by
  unfold refusesPartition ModeDrive.updateMediumPartitionPage at accepts
  cases tape with
  | none => cases accepts
  | some tape =>
    dsimp only at accepts
    by_cases short : page.length < 8
    · rw [if_pos short] at accepts
      cases accepts
    · rw [if_neg short, List.getElem?_eq_getElem (by omega : 3 < page.length),
        List.getElem?_eq_getElem (by omega : 4 < page.length),
        List.getElem?_eq_getElem (by omega : 6 < page.length)] at accepts
      dsimp only at accepts
      by_cases refuses : refusesFields tape
          (partitionFields page[3] page[4] page[6] fun _ => 0) page.length = true
      · rw [if_pos refuses] at accepts
        cases accepts
      · simp only [refusesFields, partitionFields, Bool.or_eq_true, not_or] at refuses
        rw [pageByte, List.getElem?_eq_getElem (by omega : 3 < page.length)]
        exact Nat.le_of_not_lt fun less => refuses.2 (decide_eq_true less)

/-- Storing an accepted partition page stores its bytes. -/
theorem acceptPartitionPage_byte {tape : Option ModeTape} {data : List UInt8}
    (isKind : isAccepted tape data = true) (page : Fin 16 → UInt8) (place : Fin 16) :
    acceptPartitionPage (pageByte data 3) (pageByte data 4) (pageByte data 6) data page place =
      storeByte tape (.partition place) (page place) data := by
  have accepts : refusesPartition tape data = false := by
    simp only [isAccepted, Bool.and_eq_true, Bool.not_eq_true'] at isKind
    exact isKind.2
  have long := partitionPageLength_le accepts
  unfold acceptPartitionPage storeByte ModeByte.isStored ModeByte.asked ModeByte.mask
  rcases Nat.lt_or_ge place.val 8 with low | isSize
  · obtain ⟨number, small⟩ := place
    simp only at low
    interval_cases number <;> simp [isKind, replaceBits_all, partitionFlags_eq (page _)]
  · have isNumber (number : Nat) (less : number < 8) : ¬place.val = number := by omega
    simp only [Fin.ext_iff, Fin.coe_ofNat_eq_mod, Nat.reduceMod, isNumber 1 (by decide),
      isNumber 3 (by decide), isNumber 4 (by decide), isNumber 6 (by decide), isSize, if_false, if_true,
      true_and, reachesTo, isKind, Bool.true_and, decide_eq_true_eq]
    split_ifs with inside
    · rw [replaceBits_all, pageByte, List.getElem?_eq_getElem (by omega)]
      rfl
    · rfl

/-- What one page does to a drive. -/
theorem applyPages_one {data : List UInt8} {first : UInt8} (isFirst : data[0]? = some first)
    (state : SelectState) :
    (applyPages [data] state).drive =
      if first &&& 0x3F = dataCompressionPage then
        { state.drive with
          compressionPage := (updateDataCompressionPage data state.drive.compressionPage).getD
            state.drive.compressionPage }
      else if first &&& 0x3F = mediumPartitionPage then
        { state.drive with
          partitionPage :=
            if refusesPartition state.drive.tape data then state.drive.partitionPage
            else acceptPartitionPage (pageByte data 3) (pageByte data 4) (pageByte data 6) data
              state.drive.partitionPage }
      else if first &&& 0x3F = deviceConfigurationPage then
        { state.drive with
          configurationPage := (updateDeviceConfigurationPage data state.drive.configurationPage).getD
            state.drive.configurationPage }
      else state.drive := by
  unfold applyPages
  rw [List.foldl_cons, List.foldl_nil, applyModePage, isFirst, Option.bind_some]
  dsimp only
  split_ifs with isCompression isPartition refuses isConfiguration
  · cases updateDataCompressionPage data state.drive.compressionPage <;> rfl
  · rw [updateMediumPartitionPage_eq, if_pos refuses]
    rfl
  · rw [updateMediumPartitionPage_eq, if_neg refuses]
    rfl
  · cases updateDeviceConfigurationPage data state.drive.configurationPage <;> rfl
  · rfl

/-- The code of a page. -/
theorem isPage_eq {data : List UInt8} {first : UInt8} (isFirst : data[0]? = some first)
    (code : UInt8) : isPage code data = decide (first &&& 0x3F = code) := by
  rw [isPage, isFirst, Option.map_some]
  simp [beq_eq_decide]

/-- A compression page stores its bit. -/
theorem updateDataCompressionPage_byte {data : List UInt8} (long : 4 < data.length)
    (page : Fin 16 → UInt8) (place : Fin 16) :
    (updateDataCompressionPage data page).getD page place =
      if place.val = 2 then replaceBits 0x80 (page place) (pageByte data 2) else page place := by
  rw [updateDataCompressionPage, pageByte, List.getElem?_eq_getElem (by omega : 2 < data.length)]
  by_cases isPlace : place.val = 2
  · obtain rfl : place = 2 := Fin.ext isPlace
    simp only [Option.map_some, Option.getD_some, Function.update_self]
    rfl
  · simp [isPlace, Fin.ext_iff]

/-- A configuration page that is taken has all of its bytes. -/
theorem isConfiguration_length {width : Nat} (wide : 8 ≤ width) {page : List UInt8}
    (long : 4 < page.length) (fits : storedLength width page ≤ page.length)
    (isKind : isConfiguration page = true) : 14 < page.length := by
  rw [isConfiguration, Bool.and_eq_true, isPage, List.getElem?_eq_getElem (by omega : 0 < page.length),
    List.getElem?_eq_getElem (by omega : 1 < page.length)] at isKind
  have isStored := storedLength_configuration wide long (by simpa using isKind.1)
    (by simpa using isKind.2)
  omega

/-- A configuration page stores a bit and a byte, if it has the right length. -/
theorem updateDeviceConfigurationPage_byte {width : Nat} (wide : 8 ≤ width) {data : List UInt8}
    (long : 4 < data.length) (fits : storedLength width data ≤ data.length)
    (isCode : isPage deviceConfigurationPage data = true) (tape : Option ModeTape)
    (page : Fin 16 → UInt8) (place : Fin 16) :
    (updateDeviceConfigurationPage data page).getD page place =
      storeByte tape (.configuration place) (page place) data := by
  rw [updateDeviceConfigurationPage, storeByte, ModeByte.isStored, ModeByte.asked, ModeByte.mask]
  by_cases isLength : data[1]? = some 0x0E
  · have isKind : isConfiguration data = true := by simp [isConfiguration, isCode, isLength]
    have inside := isConfiguration_length wide long fits isKind
    rw [isLength, isKind, List.getElem?_eq_getElem (by omega : 10 < data.length),
      List.getElem?_eq_getElem inside]
    by_cases isSew : place.val = 10
    · obtain rfl : place = 10 := Fin.ext isSew
      rw [pageByte, List.getElem?_eq_getElem (by omega : 10 < data.length)]
      exact sewBit_eq _ _
    · by_cases isAlgorithm : place.val = 14
      · obtain rfl : place = 14 := Fin.ext isAlgorithm
        simp [replaceBits_all, pageByte, List.getElem?_eq_getElem inside]
      · simp [isSew, isAlgorithm, Fin.ext_iff]
  · have notKind : isConfiguration data = false := by simp [isConfiguration, isLength]
    rw [List.getElem?_eq_getElem (by omega : 1 < data.length)] at isLength ⊢
    rw [notKind, Bool.and_false, Option.bind_some, if_pos fun same => isLength (congrArg some same)]
    rfl

/-- What one page that is taken stores into the bytes of a drive. -/
theorem applyPages_one_byte {width : Nat} (wide : 8 ≤ width) {data : List UInt8}
    (long : 4 < data.length) (fits : storedLength width data ≤ data.length) (state : SelectState)
    (byte : ModeByte) :
    (applyPages [data] state).drive.byte byte =
      storeByte state.drive.tape byte (state.drive.byte byte) data := by
  have isFirst : data[0]? = some data[0] := List.getElem?_eq_getElem (by omega)
  have hasCode (code : UInt8) : isPage code data = decide (data[0] &&& 0x3F = code) :=
    isPage_eq isFirst code
  rw [applyPages_one isFirst]
  cases byte with
  | compression place =>
    rw [storeByte, ModeByte.isStored, hasCode]
    by_cases isCode : data[0] &&& 0x3F = dataCompressionPage
    · rw [if_pos isCode, decide_eq_true isCode, Bool.and_true]
      simp only [decide_eq_true_eq]
      refine (updateDataCompressionPage_byte long state.drive.compressionPage place).trans ?_
      split_ifs with isPlace
      · rw [ModeByte.asked, isPlace]
        rfl
      · rfl
    · rw [decide_eq_false isCode, Bool.and_false, if_neg isCode, if_neg Bool.false_ne_true]
      split_ifs <;> rfl
  | configuration place =>
    by_cases isCode : data[0] &&& 0x3F = deviceConfigurationPage
    · have notCompression : ¬deviceConfigurationPage = dataCompressionPage := by decide
      have notPartition : ¬deviceConfigurationPage = mediumPartitionPage := by decide
      simp only [isCode, if_neg notCompression, if_neg notPartition, if_true]
      exact updateDeviceConfigurationPage_byte wide long fits ((hasCode _).trans (decide_eq_true isCode))
        _ state.drive.configurationPage place
    · rw [storeByte, ModeByte.isStored, isConfiguration, hasCode, decide_eq_false isCode,
        Bool.false_and, Bool.and_false, if_neg isCode, if_neg Bool.false_ne_true]
      split_ifs <;> rfl
  | partition place =>
    by_cases isCode : data[0] &&& 0x3F = mediumPartitionPage
    · have notCompression : ¬mediumPartitionPage = dataCompressionPage := by decide
      simp only [isCode, if_neg notCompression, if_true]
      cases refuses : refusesPartition state.drive.tape data with
      | true => simp [storeByte, ModeByte.isStored, reachesTo, isAccepted, refuses, ModeDrive.byte]
      | false =>
        refine acceptPartitionPage_byte ?_ state.drive.partitionPage place
        rw [isAccepted, hasCode, decide_eq_true isCode, refuses]
        rfl
    · simp only [if_neg isCode, storeByte, ModeByte.isStored, reachesTo, isAccepted, hasCode,
        decide_eq_false isCode, Bool.false_and, Bool.and_false, Bool.false_eq_true, if_false, ite_self]
      split_ifs <;> rfl

/-! ## What a list stores -/

/-- A page is a partition page and is refused. -/
def refusedPage (tape : Option ModeTape) (data : List UInt8) : Bool :=
  isPage mediumPartitionPage data && refusesPartition tape data

/-- What one page leaves alone, and whether it is refused. -/
theorem applyPages_one_rest (data : List UInt8) (state : SelectState) :
    (applyPages [data] state).drive.tape = state.drive.tape ∧
      (applyPages [data] state).drive.wp = state.drive.wp ∧
      (applyPages [data] state).drive.blockDescriptor = state.drive.blockDescriptor ∧
      (applyPages [data] state).check = (state.check || refusedPage state.drive.tape data) := by
  cases isFirst : data[0]? with
  | none =>
    have same : applyPages [data] state = state := by
      simp [applyPages, applyModePage, isFirst]
    rw [same, refusedPage, isPage, isFirst]
    simp
  | some first =>
    have isCheck : (applyPages [data] state).check =
        (state.check || refusedPage state.drive.tape data) := by
      rw [refusedPage, isPage_eq isFirst]
      unfold applyPages
      rw [List.foldl_cons, List.foldl_nil, applyModePage, isFirst, Option.bind_some]
      dsimp only
      by_cases isCompression : first &&& 0x3F = dataCompressionPage
      · have notPartition : ¬dataCompressionPage = mediumPartitionPage := by decide
        rw [if_pos isCompression, isCompression, decide_eq_false notPartition]
        cases updateDataCompressionPage data state.drive.compressionPage <;> simp
      · rw [if_neg isCompression, updateMediumPartitionPage_eq]
        by_cases isPartition : first &&& 0x3F = mediumPartitionPage
        · rw [if_pos isPartition, decide_eq_true isPartition]
          cases refusesPartition state.drive.tape data <;> simp
        · rw [if_neg isPartition, decide_eq_false isPartition]
          split_ifs
          · cases updateDeviceConfigurationPage data state.drive.configurationPage <;> simp
          · simp
    refine ⟨?_, ?_, ?_, isCheck⟩ <;> rw [applyPages_one isFirst] <;> split_ifs <;> rfl

/-- What pages leave alone, what they store, and whether one of them is refused. -/
theorem applyPages_stores {width : Nat} (wide : 8 ≤ width) {pages : List (List UInt8)}
    (taken : ∀ page ∈ pages, 4 < page.length ∧ storedLength width page ≤ page.length)
    (state : SelectState) :
    (applyPages pages state).drive.wp = state.drive.wp ∧
      (applyPages pages state).drive.blockDescriptor = state.drive.blockDescriptor ∧
      (∀ byte, (applyPages pages state).drive.byte byte =
        pages.foldl (storeByte state.drive.tape byte) (state.drive.byte byte)) ∧
      (applyPages pages state).check = (state.check || pages.any (refusedPage state.drive.tape)) := by
  induction pages generalizing state with
  | nil => exact ⟨rfl, rfl, fun _ => rfl, (Bool.or_false _).symm⟩
  | cons data pages ih =>
    obtain ⟨⟨long, fits⟩, restTaken⟩ := List.forall_mem_cons.1 taken
    obtain ⟨sameTape, sameWp, sameDescriptor, isCheck⟩ := applyPages_one_rest data state
    obtain ⟨wp, descriptor, bytes, check⟩ := ih restTaken (applyPages [data] state)
    have split : applyPages (data :: pages) state = applyPages pages (applyPages [data] state) := rfl
    rw [split, wp, descriptor, check, sameWp, sameDescriptor, isCheck, sameTape, Bool.or_assoc]
    refine ⟨rfl, rfl, fun byte => ?_, rfl⟩
    rw [bytes, sameTape, applyPages_one_byte wide long fits]
    rfl

/-- The last page of a kind. -/
def lastPage (kind : List UInt8 → Bool) (pages : List (List UInt8)) : Option (List UInt8) :=
  pages.reverse.find? kind

/-- The last page that stores into a byte asks for what is there. -/
def LeavesByte (pages : List (List UInt8)) (drive : ModeDrive) (byte : ModeByte) : Prop :=
  ∀ page, lastPage (byte.isStored drive.tape) pages = some page →
    byte.asked page &&& byte.mask = drive.byte byte &&& byte.mask

/-- Pages leave a byte as it is if and only if the last one that stores into it does. -/
theorem foldl_storeByte_iff (pages : List (List UInt8)) (drive : ModeDrive) (byte : ModeByte) :
    pages.foldl (storeByte drive.tape byte) (drive.byte byte) = drive.byte byte ↔
      LeavesByte pages drive byte := by
  rw [foldl_eq_self_iff _ (byte.isStored drive.tape)]
  · refine forall₂_congr fun page isLast => ?_
    have isStored : byte.isStored drive.tape page = true := List.find?_some isLast
    rw [storeByte, if_pos isStored, replaceBits_eq_self_iff]
  · intro old page none
    rw [storeByte, none]
    rfl
  · intro old earlier page isStored
    rw [storeByte, storeByte, storeByte, if_pos isStored, if_pos isStored]
    split_ifs
    · exact replaceBits_replaceBits _ _ _ _
    · rfl

/-! ## What a list asks for -/

/-- The header asks for the buffered mode of the drive: any buffered mode if its bit is set, none if
all three are clear. -/
def AsksBufferedMode (specific : UInt8) (drive : ModeDrive) : Prop :=
  if (specific >>> 4) &&& 0x07 ≠ 0 then drive.wp &&& 0x10 = 0x10 else drive.wp &&& 0x70 = 0

/-- The block descriptor, if there is one, has the block length of the drive. -/
def AsksBlockLength (length : Nat) (data : List UInt8) (drive : ModeDrive) : Prop :=
  length ≠ 0 → ∀ place : Fin 8, 5 ≤ place.val → data[place.val]? = some (drive.blockDescriptor place)

/-- The last pages of each kind have the fields of the drive. -/
structure AsksPages (pages : List (List UInt8)) (drive : ModeDrive) : Prop where
  /-- The bit DCE of the compression page. -/
  compression : ∀ page, lastPage (isPage dataCompressionPage) pages = some page →
    pageByte page 2 &&& 0x80 = drive.compressionPage 2 &&& 0x80
  /-- Bit 0 of byte 10 of the configuration page is bit 3 of the drive. -/
  earlyWarning : ∀ page, lastPage isConfiguration pages = some page →
    (pageByte page 10 &&& 0x01 ≠ 0 ↔ drive.configurationPage 10 &&& 0x08 ≠ 0)
  /-- The compression algorithm of the configuration page. -/
  algorithm : ∀ page, lastPage isConfiguration pages = some page →
    pageByte page 14 = drive.configurationPage 14
  /-- The number of partitions, and with it the length of the page that the drive keeps. -/
  partitions : ∀ page, lastPage (isAccepted drive.tape) pages = some page →
    pageByte page 3 = drive.partitionPage 3 ∧
      UInt8.ofNat (partitionPageLength (pageByte page 3)) = drive.partitionPage 1
  /-- Of the drive POFM is clear, and the first of IDP, SDP and FDP that the page has is set. -/
  method : ∀ page, lastPage (isAccepted drive.tape) pages = some page →
    (if pageByte page 4 &&& 0x20 ≠ 0 then 0x20 else if pageByte page 4 &&& 0x40 ≠ 0 then 0x40
      else if pageByte page 4 &&& 0x80 ≠ 0 then 0x80 else 0) = drive.partitionPage 4 &&& 0xE4
  /-- The exponent of the sizes. -/
  units : ∀ page, lastPage (isAccepted drive.tape) pages = some page →
    pageByte page 6 &&& 0x0F = drive.partitionPage 6
  /-- The sizes, each by the last page that has it. -/
  sizes : ∀ place : Fin 16, 8 ≤ place.val → ∀ page,
    lastPage (reachesTo drive.tape place.val) pages = some page →
      pageByte page place.val = drive.partitionPage place

/-- The bits of a partition page that say how partitions are made are in the mask. -/
theorem partitionFlags_and (fdp : UInt8) :
    partitionFlags 0 fdp &&& 0xE4 = if fdp &&& 0x20 ≠ 0 then 0x20 else if fdp &&& 0x40 ≠ 0 then 0x40
      else if fdp &&& 0x80 ≠ 0 then 0x80 else 0 := by
  unfold partitionFlags
  split_ifs <;> rfl

/-- Bits under a full mask. -/
theorem and_full_iff (a b : UInt8) : a &&& 0xFF = b &&& 0xFF ↔ a = b := by
  have allBits : (0xFF : UInt8) = -1 := rfl
  rw [allBits, UInt8.and_neg_one, UInt8.and_neg_one]

/-- Bit 3 of a byte is the one that is asked for. -/
theorem sewBit_iff (asked : Prop) [Decidable asked] (old : UInt8) :
    (if asked then 0x08 else 0) &&& 0x08 = old &&& 0x08 ↔ (asked ↔ old &&& 0x08 ≠ 0) := by
  have isBit : old &&& 0x08 = 0 ∨ old &&& 0x08 = 0x08 := by
    have isNat : (old &&& 0x08).toNat = (old.toNat.testBit 3).toNat * 2 ^ 3 := by
      rw [UInt8.toNat_and]
      exact Nat.and_two_pow _ 3
    cases bit : old.toNat.testBit 3 with
    | false => exact Or.inl (UInt8.toNat_inj.mp (by rw [isNat, bit]; rfl))
    | true => exact Or.inr (UInt8.toNat_inj.mp (by rw [isNat, bit]; rfl))
  rcases isBit with clear | set
  · rw [clear]
    by_cases isAsked : asked <;> simp [isAsked]
  · rw [set]
    by_cases isAsked : asked <;> simp [isAsked]

/-- The bytes of the sizes are stored by the pages that reach to them. -/
theorem isStored_size {place : Fin 16} (isSize : 8 ≤ place.val) {tape : Option ModeTape} :
    (ModeByte.partition place).isStored tape = reachesTo tape place.val :=
  funext fun _ => if_pos isSize

/-- The bytes of the sizes are stored as they are. -/
theorem asked_size {place : Fin 16} (isSize : 8 ≤ place.val) (page : List UInt8) :
    (ModeByte.partition place).asked page = pageByte page place.val := by
  rw [ModeByte.asked, if_neg (by omega), if_neg (by omega), if_neg (by omega)]

/-- The bytes of the sizes are stored in full. -/
theorem mask_size {place : Fin 16} (isSize : 8 ≤ place.val) :
    (ModeByte.partition place).mask = 0xFF := by
  rw [ModeByte.mask, if_neg (by omega)]

/-- Pages leave all bytes if and only if they ask for what the drive has. -/
theorem leavesByte_forall_iff (pages : List (List UInt8)) (drive : ModeDrive) :
    (∀ byte, LeavesByte pages drive byte) ↔ AsksPages pages drive := by
  constructor
  · intro leaves
    refine ⟨leaves (.compression 2), fun page isLast => ?_, fun page isLast => ?_,
      fun page isLast => ⟨?_, ?_⟩, fun page isLast => ?_, fun page isLast => ?_,
      fun place isSize page isLast => ?_⟩
    · exact (sewBit_iff _ _).mp (leaves (.configuration 10) page isLast)
    · exact (and_full_iff _ _).mp (leaves (.configuration 14) page isLast)
    · exact (and_full_iff _ _).mp (leaves (.partition 3) page isLast)
    · exact (and_full_iff _ _).mp (leaves (.partition 1) page isLast)
    · exact (partitionFlags_and _).symm.trans (leaves (.partition 4) page isLast)
    · exact (and_full_iff _ _).mp (leaves (.partition 6) page isLast)
    · rw [← isStored_size isSize] at isLast
      have same := leaves (.partition place) page isLast
      rw [asked_size isSize, mask_size isSize] at same
      exact (and_full_iff _ _).mp same
  · intro asks byte page isLast
    have isStored : byte.isStored drive.tape page = true := List.find?_some isLast
    cases byte with
    | compression place =>
      simp only [ModeByte.isStored, Bool.and_eq_true, decide_eq_true_eq] at isStored
      obtain rfl : place = 2 := Fin.ext isStored.1
      exact asks.compression page isLast
    | configuration place =>
      simp only [ModeByte.isStored, Bool.and_eq_true, decide_eq_true_eq] at isStored
      rcases isStored.1 with isSew | isAlgorithm
      · obtain rfl : place = 10 := Fin.ext isSew
        exact (sewBit_iff _ _).mpr (asks.earlyWarning page isLast)
      · obtain rfl : place = 14 := Fin.ext isAlgorithm
        exact (and_full_iff _ _).mpr (asks.algorithm page isLast)
    | partition place =>
      rcases Nat.lt_or_ge place.val 8 with low | isSize
      · rw [ModeByte.isStored, if_neg (by omega), Bool.and_eq_true, decide_eq_true_eq] at isStored
        rcases isStored.1 with isLength | isAddl | isFlags | isUnits
        · obtain rfl : place = 1 := Fin.ext isLength
          exact (and_full_iff _ _).mpr (asks.partitions page isLast).2
        · obtain rfl : place = 3 := Fin.ext isAddl
          exact (and_full_iff _ _).mpr (asks.partitions page isLast).1
        · obtain rfl : place = 4 := Fin.ext isFlags
          exact (partitionFlags_and _).trans (asks.method page isLast)
        · obtain rfl : place = 6 := Fin.ext isUnits
          exact (and_full_iff _ _).mpr (asks.units page isLast)
      · rw [isStored_size isSize] at isLast
        rw [asked_size isSize, mask_size isSize]
        exact (and_full_iff _ _).mpr (asks.sizes place isSize page isLast)

/-- The modes that MODE SELECT sets are the same. -/
structure SameMode (after before : ModeDrive) : Prop where
  /-- Buffered mode. -/
  bufferedMode : after.wp = before.wp
  /-- Block length. -/
  blockLength : after.blockDescriptor = before.blockDescriptor
  /-- Compression page. -/
  compression : after.compressionPage = before.compressionPage
  /-- Configuration page. -/
  configuration : after.configurationPage = before.configurationPage
  /-- Partition page. -/
  partition : after.partitionPage = before.partitionPage

/-- If the command ends with CHECK CONDITION, the modes are as they were before. The memory behind the
list holds whatever was in it. -/
def AllOrNothing (stale : Nat → UInt8) (form : ModeForm) (list : List UInt8) (drive : ModeDrive) :
    Prop :=
  ∀ fuel state,
    tdriveCmdModeSelectIn (fun place => some (stale place)) form fuel list drive = .done state →
      state.check = true → SameMode state.drive drive

/-- The bytes that a block descriptor may see: those of the list, and those behind it. -/
def seenBytes (stale : Nat → UInt8) (data : List UInt8) : List UInt8 :=
  data ++ (List.range 8).map stale

/-- A block descriptor sees eight bytes. -/
theorem length_seenBytes (stale : Nat → UInt8) (data : List UInt8) :
    8 ≤ (seenBytes stale data).length := by
  simp [seenBytes]

/-- What is read at the places of a block descriptor. -/
theorem listByte_stale (stale : Nat → UInt8) (data : List UInt8) :
    ∀ place < 8, listByte (fun place => some (stale place)) data place =
      (seenBytes stale data)[place]? := by
  intro place inside
  rw [listByte, seenBytes]
  rcases Nat.lt_or_ge place data.length with here | behind
  · rw [List.getElem?_append_left here, List.getElem?_eq_getElem here]
    rfl
  · rw [List.getElem?_append_right behind, List.getElem?_eq_none behind, Option.none_or,
      List.getElem?_map, List.getElem?_range (by omega)]
    rfl

/-- The header leaves the buffered mode if and only if it asks for the one that is set. -/
theorem tdriveUpdateModeHeader_wp_iff (specific : UInt8) (drive : ModeDrive) :
    (tdriveUpdateModeHeader specific drive).wp = drive.wp ↔ AsksBufferedMode specific drive := by
  have sets : drive.wp ||| 0x10 = replaceBits 0x10 drive.wp 0x10 := by
    refine byte_ext fun place inside => ?_
    rw [replaceBits_bit _ _ _ inside, UInt8.toBitVec_or, BitVec.getLsbD_or]
    split <;> simp_all
  have clears : drive.wp &&& 0x8F = replaceBits 0x70 drive.wp 0 := (UInt8.or_zero).symm
  unfold tdriveUpdateModeHeader AsksBufferedMode
  split_ifs
  · rw [sets, replaceBits_eq_self_iff]
    exact eq_comm
  · rw [clears, replaceBits_eq_self_iff]
    exact eq_comm

/-- Header and block descriptor leave their modes if and only if they ask for what is set. -/
theorem startDrive_iff (specific : UInt8) (length : Nat) {seen : List UInt8}
    (long : 8 ≤ seen.length) (drive : ModeDrive) :
    (startDrive specific length seen drive).wp = drive.wp ∧
        (startDrive specific length seen drive).blockDescriptor = drive.blockDescriptor ↔
      AsksBufferedMode specific drive ∧ AsksBlockLength length seen drive := by
  have sameDescriptor : (tdriveUpdateModeHeader specific drive).blockDescriptor =
      drive.blockDescriptor := by
    unfold tdriveUpdateModeHeader
    split_ifs <;> rfl
  refine and_congr (tdriveUpdateModeHeader_wp_iff specific drive) ?_
  rw [startDrive, funext_iff, AsksBlockLength]
  have isByte (place : Fin 8) : seen[place.val]? = some (seen[place.val]?.getD 0) := by
    rw [List.getElem?_eq_getElem (by omega)]
    rfl
  simp only [sameDescriptor]
  constructor
  · intro same isSome place inside
    have isSame := same place
    rw [if_pos ⟨isSome, inside⟩] at isSame
    rw [isByte, isSame]
  · intro same place
    split_ifs with inside
    · rw [same inside.1 place inside.2]
      rfl
    · rfl

/-- Header and block descriptor do not touch tape and pages. -/
theorem startDrive_rest (specific : UInt8) (length : Nat) (data : List UInt8) (drive : ModeDrive) :
    (startDrive specific length data drive).tape = drive.tape ∧
      (startDrive specific length data drive).byte = drive.byte := by
  unfold startDrive tdriveUpdateModeHeader
  split_ifs
  · exact ⟨rfl, funext fun byte => by cases byte <;> rfl⟩
  · exact ⟨rfl, funext fun byte => by cases byte <;> rfl⟩

/-- The modes are the same if and only if all bytes are. -/
theorem sameMode_iff (after before : ModeDrive) :
    SameMode after before ↔ (after.wp = before.wp ∧ after.blockDescriptor = before.blockDescriptor) ∧
      ∀ byte, after.byte byte = before.byte byte := by
  constructor
  · intro same
    refine ⟨⟨same.bufferedMode, same.blockLength⟩, fun byte => ?_⟩
    cases byte with
    | compression place => exact congrFun same.compression place
    | configuration place => exact congrFun same.configuration place
    | partition place => exact congrFun same.partition place
  · rintro ⟨⟨wp, descriptor⟩, bytes⟩
    exact ⟨wp, descriptor, funext fun place => bytes (.compression place),
      funext fun place => bytes (.configuration place), funext fun place => bytes (.partition place)⟩

/-- A list with a header and pages ends with CHECK CONDITION if one of the pages is refused. -/
theorem applyPages_check (specific : UInt8) (length : Nat) {width : Nat} (wide : 8 ≤ width)
    (seen : List UInt8) {rest : List UInt8} {pages : List (List UInt8)}
    (isPages : pagesOf width rest = some pages) (drive : ModeDrive) :
    (applyPages pages ⟨startDrive specific length seen drive, false, []⟩).check =
      pages.any (refusedPage drive.tape) := by
  rw [(applyPages_stores wide (fun _ => mem_pagesOf isPages) _).2.2.2, (startDrive_rest specific length seen drive).1,
    Bool.false_or]

/-- A list with a header and pages leaves the modes if and only if it asks for nothing new. -/
theorem applyPages_sameMode_iff (specific : UInt8) (length : Nat) {width : Nat} (wide : 8 ≤ width)
    {seen rest : List UInt8} {pages : List (List UInt8)} (long : 8 ≤ seen.length)
    (isPages : pagesOf width rest = some pages) (drive : ModeDrive) :
    SameMode (applyPages pages ⟨startDrive specific length seen drive, false, []⟩).drive drive ↔
      (AsksBufferedMode specific drive ∧ AsksBlockLength length seen drive) ∧
        AsksPages pages drive := by
  obtain ⟨wp, descriptor, bytes, -⟩ := applyPages_stores wide (fun _ => mem_pagesOf isPages)
    ⟨startDrive specific length seen drive, false, []⟩
  obtain ⟨sameTape, sameBytes⟩ := startDrive_rest specific length seen drive
  rw [sameMode_iff, wp, descriptor, startDrive_iff specific length long,
    ← leavesByte_forall_iff]
  simp only [bytes, sameTape, sameBytes, foldl_storeByte_iff]

/-- A header alone leaves all modes if it asks for the buffered mode that is set. -/
theorem tdriveUpdateModeHeader_sameMode {specific : UInt8} {drive : ModeDrive}
    (asks : AsksBufferedMode specific drive) :
    SameMode (tdriveUpdateModeHeader specific drive) drive := by
  refine ⟨(tdriveUpdateModeHeader_wp_iff specific drive).mpr asks, ?_, ?_, ?_, ?_⟩ <;>
    unfold tdriveUpdateModeHeader <;> split_ifs <;> rfl

/-- MODE SELECT is all or nothing if and only if, when the block descriptor is refused, the header asks
for the buffered mode that is set, and, when one of the pages is refused, the whole list asks for
nothing new. -/
theorem tdriveCmdModeSelect_allOrNothing_iff (stale : Nat → UInt8) (form : ModeForm)
    (list : List UInt8) (drive : ModeDrive) :
    AllOrNothing stale form list drive ↔ ∀ specific length data,
      form.parts list = some (specific, length, data) →
        (RefusesDescriptor length (seenBytes stale data) → AsksBufferedMode specific drive) ∧
        (¬RefusesDescriptor length (seenBytes stale data) →
          ∀ pages, pagesOf form.lengthWidth (data.drop length) = some pages →
            pages.any (refusedPage drive.tape) = true →
              (AsksBufferedMode specific drive ∧
                AsksBlockLength length (seenBytes stale data) drive) ∧ AsksPages pages drive) := by
  cases isParts : form.parts list with
  | none =>
    refine iff_of_true (fun fuel state ends _ => ?_) (by simp)
    rw [tdriveCmdModeSelectIn_short isParts] at ends
    cases ends
    exact ⟨rfl, rfl, rfl, rfl, rfl⟩
  | some parts =>
    obtain ⟨specific, length, data⟩ := parts
    have long := length_seenBytes stale data
    have whole : ¬CutsDescriptor length (seenBytes stale data) := fun cuts =>
      Nat.not_le_of_lt cuts.2 long
    have ends (fuel : Nat) :=
      tdriveCmdModeSelectIn_parts isParts (listByte_stale stale data) fuel drive
    constructor
    · rintro atomic _ _ _ ⟨⟩
      refine ⟨fun refuses => ?_, fun takes pages isPages refused => ?_⟩
      · have same := atomic 0 _ ((ends 0).1 refuses) rfl
        exact (tdriveUpdateModeHeader_wp_iff specific drive).mp same.bufferedMode
      · have isEnd := (ends (pages.length + 1)).2.2 takes whole
        rw [selectLoop_pages form.lengthWidth_ge isPages (Nat.lt_succ_self _)] at isEnd
        exact (applyPages_sameMode_iff _ _ form.lengthWidth_ge long isPages drive).mp
          (atomic _ _ isEnd ((applyPages_check _ _ form.lengthWidth_ge _ isPages drive).trans refused))
    · intro asks fuel state isEnd check
      obtain ⟨header, stores⟩ := asks specific length data rfl
      by_cases refuses : RefusesDescriptor length (seenBytes stale data)
      · rw [(ends fuel).1 refuses] at isEnd
        cases isEnd
        exact tdriveUpdateModeHeader_sameMode (header refuses)
      · rw [(ends fuel).2.2 refuses whole] at isEnd
        obtain ⟨pages, isPages, rfl⟩ := selectLoop_done form.lengthWidth_ge isEnd
        rw [applyPages_check _ _ form.lengthWidth_ge _ isPages] at check
        exact (applyPages_sameMode_iff _ _ form.lengthWidth_ge long isPages drive).mpr
          (stores refuses pages isPages check)

/-- Without a tape a compression page is stored although the partition page behind it is refused; and a
list that ends inside a block descriptor which is too large for any next byte sets the buffered mode
although the descriptor is refused. -/
theorem tdriveCmdModeSelect_stores_refused :
    ¬AllOrNothing (fun _ => 0) .six (selectList6 (fun _ => 0) 0 []
      (compressionBytes ++ [0x11, 0x0A, 0, 0, 0x18, 0, 0, 0, 0, 0, 0, 0])) unloadedDrive ∧
    ∀ stale, ¬AllOrNothing stale .six [0, 0, 0x10, 8, 0, 0, 0, 0, 0, 0x90, 0] unloadedDrive := by
  refine ⟨fun atomic => ?_, fun stale atomic => ?_⟩
  · have same := atomic 3 _ rfl rfl
    exact absurd (congrFun same.compression 2) (by decide)
  · have isParts : ModeForm.six.parts [0, 0, 0x10, 8, 0, 0, 0, 0, 0, 0x90, 0] =
        some (0x10, 8, [0, 0, 0, 0, 0, 0x90, 0]) := rfl
    have refuses : RefusesDescriptor 8 (seenBytes stale [0, 0, 0, 0, 0, 0x90, 0]) := by
      refine ⟨by decide, Or.inr ⟨length_seenBytes _ _, ?_⟩⟩
      have isLength : ofBe [0x90, 0, stale 0] = 0x90 * 256 * 256 + (stale 0).toNat := rfl
      have isMax : tdriveMaxBlockSize = 0x800000 := rfl
      have isSeen : ((seenBytes stale [0, 0, 0, 0, 0, 0x90, 0]).drop 5).take 3 =
          [0x90, 0, stale 0] := rfl
      rw [isSeen, isLength, isMax]
      omega
    have same := atomic 0 _
      ((tdriveCmdModeSelectIn_parts isParts (listByte_stale stale _) 0 unloadedDrive).1 refuses) rfl
    exact absurd same.bufferedMode (by decide)

end VirtualTape
