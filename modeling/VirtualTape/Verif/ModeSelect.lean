import Mathlib.Tactic.FinCases
import VirtualTape.Core.ModePages

/-!
# How MODE SELECT goes through its list

The pages of a list are found one behind the other, each by the length that the one in front of it
gives. MODE SELECT(6) and MODE SELECT(10) keep that length in variables of different widths, so they
may find different pages, and a length that is cut to zero keeps them at the same page for ever.
-/

namespace VirtualTape

/-! ## Pages -/

/-- The length of a page as it is kept in a variable of so many bits. -/
def storedLength (width : Nat) (data : List UInt8) : Nat :=
  (getModePageLength data).getD 0 % 2 ^ width

/-- The pages that a loop takes one after the other, each with what follows it; none if it stays at a
page for ever. -/
def pagesOf (width : Nat) (data : List UInt8) : Option (List (List UInt8)) :=
  if data.length ≤ 4 then some []
  else if data.length < storedLength width data then some []
  else if storedLength width data = 0 then none
  else (pagesOf width (data.drop (storedLength width data))).map (data :: ·)
termination_by data.length
decreasing_by
  rw [List.length_drop]
  omega

/-- Where a page begins, when pages are taken one after the other. -/
inductive PageAt (width : Nat) (data : List UInt8) : List UInt8 → Prop
  /-- The first page. -/
  | first : PageAt width data data
  /-- The page behind another one. -/
  | next {rest : List UInt8} (before : PageAt width data rest) (long : 4 < rest.length)
      (fits : storedLength width rest ≤ rest.length) :
      PageAt width data (rest.drop (storedLength width rest))

/-- A page whose length is cut to zero is reached. -/
def Stuck (width : Nat) (data : List UInt8) : Prop :=
  ∃ rest, PageAt width data rest ∧ 4 < rest.length ∧ storedLength width rest = 0

section Pages

variable {width : Nat} {data rest : List UInt8}

/-- A place behind the first page. -/
theorem PageAt.behind (long : 4 < data.length) (fits : storedLength width data ≤ data.length)
    (place : PageAt width (data.drop (storedLength width data)) rest) : PageAt width data rest := by
  induction place with
  | first => exact .next .first long fits
  | next _ isLong isFit ih => exact .next ih isLong isFit

/-- The pages behind the first one. -/
theorem pagesOf_page (long : 4 < data.length) (fits : storedLength width data ≤ data.length)
    (some : storedLength width data ≠ 0) :
    pagesOf width data =
      (pagesOf width (data.drop (storedLength width data))).map (data :: ·) := by
  rw [pagesOf, if_neg (by omega), if_neg (by omega), if_neg some]

/-- No pages at the end. -/
theorem pagesOf_short (short : data.length ≤ 4) : pagesOf width data = some [] := by
  rw [pagesOf, if_pos short]

/-- A page that is longer than what is left is not taken. -/
theorem pagesOf_cut (long : 4 < data.length) (cut : data.length < storedLength width data) :
    pagesOf width data = some [] := by
  rw [pagesOf, if_neg (by omega), if_pos cut]

/-- No pages are found behind one whose length is zero. -/
theorem pagesOf_zero (long : 4 < data.length) (zero : storedLength width data = 0) :
    pagesOf width data = none := by
  rw [pagesOf, if_neg (by omega), if_neg (by omega), if_pos zero]

/-- The first page that is taken is where the loop begins. -/
theorem pagesOf_head {page : List UInt8} {pages : List (List UInt8)}
    (isPages : pagesOf width data = some (page :: pages)) : page = data := by
  rw [pagesOf] at isPages
  split at isPages
  · simp at isPages
  · split at isPages
    · simp at isPages
    · split at isPages
      · cases isPages
      · obtain ⟨rest, -, isCons⟩ := Option.map_eq_some_iff.mp isPages
        exact (List.cons.inj isCons).1.symm

/-- Induction along the pages of a loop that ends. -/
theorem pagesOf_rec
    {motive : (data : List UInt8) → (pages : List (List UInt8)) →
      pagesOf width data = some pages → Prop}
    (stop : ∀ data none, data.length ≤ 4 ∨ data.length < storedLength width data →
      motive data [] none)
    (page : ∀ data rest isRest isPages, 4 < data.length → storedLength width data ≤ data.length →
      motive (data.drop (storedLength width data)) rest isRest → motive data (data :: rest) isPages)
    {pages : List (List UInt8)} (isPages : pagesOf width data = some pages) :
    motive data pages isPages := by
  induction data using pagesOf.induct width generalizing pages with
  | case1 data short =>
    obtain rfl : pages = [] := by simpa [pagesOf_short short] using isPages.symm
    exact stop data isPages (Or.inl short)
  | case2 data long cut =>
    obtain rfl : pages = [] := by
      simpa [pagesOf_cut (Nat.lt_of_not_le long) cut] using isPages.symm
    exact stop data isPages (Or.inr cut)
  | case3 data long fits zero =>
    simp [pagesOf_zero (Nat.lt_of_not_le long) zero] at isPages
  | case4 data long fits some ih =>
    have isMap := pagesOf_page (Nat.lt_of_not_le long) (Nat.le_of_not_lt fits) some
    obtain ⟨rest, isRest, rfl⟩ := Option.map_eq_some_iff.mp (isMap.symm.trans isPages)
    exact page data rest isRest isPages (Nat.lt_of_not_le long) (Nat.le_of_not_lt fits) (ih isRest)

/-- A page that is taken is as long as a header of a page and not longer than what is left. -/
theorem mem_pagesOf {page : List UInt8} {pages : List (List UInt8)}
    (isPages : pagesOf width data = some pages) (mem : page ∈ pages) :
    4 < page.length ∧ storedLength width page ≤ page.length := by
  induction isPages using pagesOf_rec with
  | stop data none ended => cases mem
  | page data rest isRest isPages long fits ih =>
    rcases List.mem_cons.mp mem with rfl | behind
    · exact ⟨long, fits⟩
    · exact ih behind

/-- Where a loop ends it ends from each of its pages. -/
theorem PageAt.pagesOf_some (place : PageAt width data rest) (ends : pagesOf width data ≠ none) :
    pagesOf width rest ≠ none := by
  induction place with
  | first => exact ends
  | @next rest _ long fits ih =>
    by_cases zero : storedLength width rest = 0
    · rwa [zero, List.drop_zero]
    · intro none
      rw [pagesOf_page long fits zero, none] at ih
      exact ih rfl

/-- A loop goes on for ever if and only if it comes to a page whose length is zero. -/
theorem pagesOf_none_iff : pagesOf width data = none ↔ Stuck width data := by
  constructor
  · intro none
    induction data using pagesOf.induct width with
    | case1 data short => simp [pagesOf_short short] at none
    | case2 data long cut => simp [pagesOf_cut (Nat.lt_of_not_le long) cut] at none
    | case3 data long fits zero => exact ⟨data, .first, Nat.lt_of_not_le long, zero⟩
    | case4 data long fits some ih =>
      rw [pagesOf_page (Nat.lt_of_not_le long) (Nat.le_of_not_lt fits) some] at none
      obtain ⟨rest, place, isLong, isZero⟩ := ih (by simpa using none)
      exact ⟨rest, place.behind (Nat.lt_of_not_le long) (Nat.le_of_not_lt fits), isLong, isZero⟩
  · rintro ⟨rest, place, long, zero⟩
    by_contra ends
    exact place.pagesOf_some ends (pagesOf_zero long zero)

end Pages

/-! ## The same pages -/

/-- Lengths are kept in full, or they are longer than what is left also when they are cut. -/
def KeepsLengths (data : List UInt8) : Prop :=
  ∀ rest, PageAt 16 data rest → 4 < rest.length →
    (storedLength 16 rest ≠ 0 ∧ storedLength 16 rest < 256) ∨
      (rest.length < storedLength 16 rest ∧ rest.length < storedLength 16 rest % 256)

/-- A length of eight bits is one of sixteen bits, cut. -/
theorem storedLength_eight (data : List UInt8) :
    storedLength 8 data = storedLength 16 data % 256 := by
  unfold storedLength
  omega

/-- Both loops take the same page, or both stop. -/
theorem storedLength_of_same {rest : List UInt8} (long : 4 < rest.length)
    (ends : pagesOf 16 rest ≠ none) (same : pagesOf 8 rest = pagesOf 16 rest) :
    (storedLength 16 rest ≠ 0 ∧ storedLength 16 rest < 256) ∨
      (rest.length < storedLength 16 rest ∧ rest.length < storedLength 16 rest % 256) := by
  have isCut := storedLength_eight rest
  rcases Nat.lt_or_ge rest.length (storedLength 16 rest) with cut | fits
  · right
    refine ⟨cut, ?_⟩
    rw [pagesOf_cut long cut] at same
    by_contra small
    rw [← isCut] at small
    by_cases zero : storedLength 8 rest = 0
    · simp [pagesOf_zero long zero] at same
    · rw [pagesOf_page long (by omega) zero] at same
      simp at same
  · left
    have some : storedLength 16 rest ≠ 0 := fun zero => ends (pagesOf_zero long zero)
    refine ⟨some, ?_⟩
    by_contra large
    -- The loop of eight bits would take another page far in front of the next one.
    have few : storedLength 8 rest < 256 := by omega
    have zero : storedLength 8 rest ≠ 0 := fun zero => by
      rw [pagesOf_zero long zero] at same
      exact ends same.symm
    rw [pagesOf_page long fits some, pagesOf_page long (by omega) zero] at same
    have isLong : 4 < (rest.drop (storedLength 8 rest)).length := by
      rw [List.length_drop]
      omega
    have isFit : storedLength 8 (rest.drop (storedLength 8 rest)) ≤
        (rest.drop (storedLength 8 rest)).length := by
      have small : storedLength 8 (rest.drop (storedLength 8 rest)) < 256 :=
        Nat.mod_lt _ (by decide)
      rw [List.length_drop]
      omega
    have sameRest : pagesOf 8 (rest.drop (storedLength 8 rest)) =
        pagesOf 16 (rest.drop (storedLength 16 rest)) :=
      Option.map_injective (fun _ _ isCons => (List.cons.inj isCons).2) same
    by_cases isZero : storedLength 8 (rest.drop (storedLength 8 rest)) = 0
    · rw [pagesOf_zero isLong isZero] at sameRest
      rw [pagesOf_page long fits some, ← sameRest] at ends
      exact ends rfl
    · rw [pagesOf_page isLong isFit isZero] at sameRest
      cases behind : pagesOf 16 (rest.drop (storedLength 16 rest)) with
      | none =>
        rw [pagesOf_page long fits some, behind] at ends
        exact ends rfl
      | some pages =>
        rw [behind] at sameRest
        obtain ⟨others, -, isCons⟩ := Option.map_eq_some_iff.mp sameRest
        rw [← isCons] at behind
        have lengths := congrArg List.length (pagesOf_head behind)
        rw [List.length_drop, List.length_drop] at lengths
        omega

/-- Both loops take the same pages if and only if lengths are kept. -/
theorem keepsLengths_iff {data : List UInt8} :
    KeepsLengths data ↔ pagesOf 16 data ≠ none ∧ pagesOf 8 data = pagesOf 16 data := by
  constructor
  · intro keeps
    induction data using pagesOf.induct 16 with
    | case1 data short => simp [pagesOf_short short]
    | case2 data long cut =>
      have isLong := Nat.lt_of_not_le long
      have isCut := storedLength_eight data
      rw [pagesOf_cut isLong cut]
      refine ⟨by simp, pagesOf_cut isLong ?_⟩
      rcases keeps data .first isLong with ⟨-, small⟩ | ⟨-, large⟩ <;> omega
    | case3 data long fits zero =>
      rcases keeps data .first (Nat.lt_of_not_le long) with ⟨some, -⟩ | ⟨cut, -⟩
      · exact absurd zero some
      · omega
    | case4 data long fits some ih =>
      have isLong := Nat.lt_of_not_le long
      have isFit := Nat.le_of_not_lt fits
      have isCut := storedLength_eight data
      have isSame : storedLength 8 data = storedLength 16 data := by
        rcases keeps data .first isLong with ⟨-, small⟩ | ⟨cut, -⟩ <;> omega
      obtain ⟨ends, same⟩ := ih fun rest place => keeps rest (place.behind isLong isFit)
      rw [pagesOf_page isLong isFit some, pagesOf_page isLong (by omega) (by omega), isSame, same]
      exact ⟨by simpa using ends, rfl⟩
  · rintro ⟨ends, same⟩ rest place long
    have here : pagesOf 16 rest ≠ none ∧ pagesOf 8 rest = pagesOf 16 rest := by
      clear long
      induction place with
      | first => exact ⟨ends, same⟩
      | @next rest before long fits ih =>
        have isEnd := (PageAt.next before long fits).pagesOf_some ends
        have isCut := storedLength_eight rest
        rcases storedLength_of_same long ih.1 ih.2 with ⟨some, small⟩ | ⟨cut, -⟩
        · have isSame : storedLength 8 rest = storedLength 16 rest := by omega
          refine ⟨isEnd, ?_⟩
          have sameHere := ih.2
          rw [pagesOf_page long fits some, pagesOf_page long (by omega) (by omega), isSame] at sameHere
          exact Option.map_injective (fun _ _ isCons => (List.cons.inj isCons).2) sameHere
        · omega
    exact storedLength_of_same long here.1 here.2

/-! ## The loop -/

/-- Both ends of a page of eight bytes or more are inside the list. -/
theorem getModePageLength_some {data : List UInt8} (long : 4 < data.length) :
    ∃ length, getModePageLength data = some length := by
  unfold getModePageLength
  rw [List.getElem?_eq_getElem (by omega : 0 < data.length),
    List.getElem?_eq_getElem (by omega : 1 < data.length),
    List.getElem?_eq_getElem (by omega : 2 < data.length),
    List.getElem?_eq_getElem (by omega : 3 < data.length)]
  simp only [Option.bind_some, Option.map_some]
  split
  · exact ⟨_, rfl⟩
  · exact ⟨_, rfl⟩

/-- Sizes that are inside the list are read. -/
theorem readSizes_some (data : List UInt8) (count offset : Nat)
    (inside : offset + 2 * count ≤ data.length) : ∃ sizes, readSizes data count offset = some sizes := by
  induction count generalizing offset with
  | zero => exact ⟨[], rfl⟩
  | succ count ih =>
    obtain ⟨sizes, isSizes⟩ := ih (offset + 2) (by omega)
    rw [readSizes, List.getElem?_eq_getElem (by omega : offset < data.length),
      List.getElem?_eq_getElem (by omega : offset + 1 < data.length), isSizes]
    exact ⟨_, rfl⟩

/-- A partition page is read inside the list. -/
theorem updateMediumPartitionPage_inside (data : List UInt8) (drive : ModeDrive) :
    drive.updateMediumPartitionPage data ≠ .outside := by
  unfold ModeDrive.updateMediumPartitionPage
  cases drive.tape with
  | none => simp
  | some tape =>
    dsimp only
    split
    · simp
    · rename_i long
      rw [List.getElem?_eq_getElem (by omega : 3 < data.length),
        List.getElem?_eq_getElem (by omega : 4 < data.length),
        List.getElem?_eq_getElem (by omega : 6 < data.length)]
      dsimp only
      split
      · simp
      · rename_i taken
        have inside : 8 + (data[3].toNat + 1) * 2 ≤ data.length := by
          simp only [refusesFields, partitionFields, Bool.or_eq_true, not_or] at taken
          exact Nat.le_of_not_lt fun less => taken.2 (decide_eq_true less)
        obtain ⟨sizes, isSizes⟩ := readSizes_some data (data[3].toNat + 1) 8 (by omega)
        rw [isSizes]
        dsimp only
        split <;> simp

/-- The length of a configuration page that is taken. -/
theorem storedLength_configuration {width : Nat} (wide : 8 ≤ width) {data : List UInt8}
    (long : 4 < data.length) (isCode : data[0] &&& 0x3F = deviceConfigurationPage)
    (isLength : data[1] = 0x0E) : storedLength width data = 16 := by
  have isFull : getModePageLength data = some 16 := by
    unfold getModePageLength
    rw [List.getElem?_eq_getElem (by omega : 0 < data.length),
      List.getElem?_eq_getElem (by omega : 1 < data.length), Option.bind_some, Option.bind_some,
      isLength, isCode]
    rfl
  have power : 2 ^ 8 ≤ 2 ^ width := Nat.pow_le_pow_right (by decide) wide
  rw [storedLength, isFull, Option.getD_some, Nat.mod_eq_of_lt (by omega)]

/-- A configuration page that is not longer than the list is read inside it. -/
theorem updateDeviceConfigurationPage_some {width : Nat} (wide : 8 ≤ width) {data : List UInt8}
    (long : 4 < data.length) (isCode : data[0] &&& 0x3F = deviceConfigurationPage)
    (fits : storedLength width data ≤ data.length) (page : Fin 16 → UInt8) :
    ∃ after, updateDeviceConfigurationPage data page = some after := by
  unfold updateDeviceConfigurationPage
  rw [List.getElem?_eq_getElem (by omega : 1 < data.length), Option.bind_some]
  split
  · exact ⟨_, rfl⟩
  · rename_i isLength
    have isStored := storedLength_configuration wide long isCode (by simpa using isLength)
    rw [List.getElem?_eq_getElem (by omega : 10 < data.length),
      List.getElem?_eq_getElem (by omega : 14 < data.length)]
    exact ⟨_, rfl⟩

/-- A page that is not longer than the list is read inside it, and it is taken. -/
theorem applyModePage_some {width : Nat} (wide : 8 ≤ width) {data : List UInt8}
    (long : 4 < data.length) (fits : storedLength width data ≤ data.length) (state : SelectState) :
    ∃ after, applyModePage data state = some after ∧ after.applied = state.applied ++ [data] := by
  unfold applyModePage
  rw [List.getElem?_eq_getElem (by omega : 0 < data.length), Option.bind_some]
  dsimp only
  split
  · rw [updateDataCompressionPage, List.getElem?_eq_getElem (by omega : 2 < data.length)]
    exact ⟨_, rfl, rfl⟩
  · split
    · split
      · exact ⟨_, rfl, rfl⟩
      · rename_i outside
        exact absurd outside (updateMediumPartitionPage_inside data state.drive)
      · exact ⟨_, rfl, rfl⟩
    · split
      · rename_i isCode
        obtain ⟨after, isAfter⟩ := updateDeviceConfigurationPage_some wide long isCode fits
          state.drive.configurationPage
        rw [isAfter]
        exact ⟨_, rfl, rfl⟩
      · exact ⟨_, rfl, rfl⟩

/-- Apply pages one after the other. -/
def applyPages (pages : List (List UInt8)) (state : SelectState) : SelectState :=
  pages.foldl (fun state page => (applyModePage page state).getD state) state

/-- What one round of the loop does. -/
theorem selectLoop_step {width : Nat} (wide : 8 ≤ width) {data : List UInt8}
    (long : 4 < data.length) (fits : storedLength width data ≤ data.length) (fuel : Nat)
    (state : SelectState) :
    selectLoop width (fuel + 1) data state =
      selectLoop width fuel (data.drop (storedLength width data)) (applyPages [data] state) := by
  obtain ⟨length, isLength⟩ := getModePageLength_some long
  obtain ⟨after, isAfter, -⟩ := applyModePage_some wide long fits state
  have isStored : storedLength width data = length % 2 ^ width := by
    rw [storedLength, isLength]
    rfl
  rw [isStored] at fits ⊢
  rw [selectLoop, if_neg (by omega), isLength]
  dsimp only
  rw [if_neg (by omega), isAfter]
  simp [applyPages, isAfter]

/-- Where the loop ends. -/
theorem selectLoop_ends (width fuel : Nat) {data : List UInt8}
    (ended : data.length ≤ 4 ∨ data.length < storedLength width data) (state : SelectState) :
    selectLoop width (fuel + 1) data state = .done state := by
  rw [selectLoop]
  by_cases short : data.length ≤ 4
  · rw [if_pos short]
  · obtain ⟨length, isLength⟩ := getModePageLength_some (Nat.lt_of_not_le short)
    have cut := ended.resolve_left short
    rw [storedLength, isLength, Option.getD_some] at cut
    rw [if_neg short, isLength]
    dsimp only
    rw [if_pos cut]

/-- The loop takes its pages and ends. -/
theorem selectLoop_pages {width : Nat} (wide : 8 ≤ width) {data : List UInt8}
    {pages : List (List UInt8)} (isPages : pagesOf width data = some pages) {fuel : Nat}
    (enough : pages.length < fuel) (state : SelectState) :
    selectLoop width fuel data state = .done (applyPages pages state) := by
  induction isPages using pagesOf_rec generalizing fuel state with
  | stop data none ended =>
    obtain ⟨fuel, rfl⟩ := Nat.exists_eq_succ_of_ne_zero (Nat.ne_of_gt enough)
    exact selectLoop_ends width fuel ended state
  | page data rest isRest isPages long fits ih =>
    obtain ⟨fuel, rfl⟩ := Nat.exists_eq_succ_of_ne_zero (show fuel ≠ 0 by omega)
    rw [selectLoop_step wide long fits, ih (by simpa using enough)]
    rfl

/-- A loop that is stuck runs for ever. -/
theorem selectLoop_stuck {width : Nat} (wide : 8 ≤ width) {data : List UInt8}
    (stuck : pagesOf width data = none) (fuel : Nat) (state : SelectState) :
    selectLoop width fuel data state = .running := by
  induction fuel generalizing data state with
  | zero => rfl
  | succ fuel ih =>
    by_cases ended : data.length ≤ 4 ∨ data.length < storedLength width data
    · rw [pagesOf] at stuck
      rcases ended with short | cut
      · simp [short] at stuck
      · simp [cut] at stuck
    · rw [not_or] at ended
      have long := Nat.lt_of_not_le ended.1
      have fits := Nat.le_of_not_lt ended.2
      rw [selectLoop_step wide long fits]
      by_cases zero : storedLength width data = 0
      · rw [zero, List.drop_zero]
        exact ih stuck _
      · rw [pagesOf_page long fits zero] at stuck
        exact ih (by simpa using stuck) _

/-- What is taken is noted. -/
theorem applyPages_applied {width : Nat} (wide : 8 ≤ width) {data : List UInt8}
    {pages : List (List UInt8)} (isPages : pagesOf width data = some pages) (state : SelectState) :
    (applyPages pages state).applied = state.applied ++ pages := by
  induction isPages using pagesOf_rec generalizing state with
  | stop data none ended => simp [applyPages]
  | page data rest isRest isPages long fits ih =>
    obtain ⟨after, isAfter, isApplied⟩ := applyModePage_some wide long fits state
    have isFold : applyPages (data :: rest) state = applyPages rest after := by
      simp [applyPages, isAfter]
    rw [isFold, ih after, isApplied, List.append_assoc]
    rfl

/-- The loop never reads outside its list. -/
theorem selectLoop_inside {width : Nat} (wide : 8 ≤ width) (fuel : Nat) (data : List UInt8)
    (state : SelectState) : selectLoop width fuel data state ≠ .outside := by
  induction fuel generalizing data state with
  | zero => exact SelectEnd.noConfusion
  | succ fuel ih =>
    by_cases ended : data.length ≤ 4 ∨ data.length < storedLength width data
    · rw [selectLoop_ends width fuel ended]
      exact SelectEnd.noConfusion
    · rw [not_or] at ended
      rw [selectLoop_step wide (Nat.lt_of_not_le ended.1) (Nat.le_of_not_lt ended.2)]
      exact ih _ _

/-! ## The whole command -/

/-- The device specific parameter, the length of the block descriptor and what follows the header;
none if the list is shorter than a header. -/
def ModeForm.parts (form : ModeForm) (list : List UInt8) : Option (UInt8 × Nat × List UInt8) :=
  (form.deviceSpecific list).bind fun specific =>
    (form.blockDescriptorLength list).map fun length =>
      (specific, length, list.drop form.headerLength)

/-- A block descriptor is too short, or its block length is too large. -/
def RefusesDescriptor (length : Nat) (data : List UInt8) : Prop :=
  length ≠ 0 ∧
    (length < 8 ∨ 8 ≤ data.length ∧ tdriveMaxBlockSize < ofBe ((data.drop 5).take 3))

/-- The list ends inside the block descriptor that its header announces. -/
def CutsDescriptor (length : Nat) (data : List UInt8) : Prop := 8 ≤ length ∧ data.length < 8

/-- The drive after a header and a block descriptor were taken. -/
def startDrive (specific : UInt8) (length : Nat) (data : List UInt8) (drive : ModeDrive) : ModeDrive :=
  let drive := tdriveUpdateModeHeader specific drive
  { drive with
    blockDescriptor := fun place =>
      if length ≠ 0 ∧ 5 ≤ place.val then data[place.val]?.getD 0 else drive.blockDescriptor place }

section Command

variable {form : ModeForm} {list : List UInt8} {specific : UInt8} {length : Nat}
  {data seen : List UInt8} {behind : Nat → Option UInt8}

/-- A list that is shorter than a header has no parts. -/
theorem ModeForm.parts_none_iff : form.parts list = none ↔ list.length < form.headerLength := by
  constructor
  · intro none
    by_contra long
    rw [Nat.not_lt] at long
    cases form with
    | six =>
      simp only [headerLength] at long
      simp [parts, deviceSpecific, blockDescriptorLength,
        List.getElem?_eq_getElem (by omega : 2 < list.length),
        List.getElem?_eq_getElem (by omega : 3 < list.length)] at none
    | ten =>
      simp only [headerLength] at long
      simp [parts, deviceSpecific, blockDescriptorLength,
        List.getElem?_eq_getElem (by omega : 3 < list.length),
        List.getElem?_eq_getElem (by omega : 6 < list.length),
        List.getElem?_eq_getElem (by omega : 7 < list.length)] at none
  · intro short
    have noLength : form.blockDescriptorLength list = none := by
      cases form with
      | six =>
        rw [blockDescriptorLength, List.getElem?_eq_none (Nat.le_of_lt_succ short)]
        rfl
      | ten =>
        rw [blockDescriptorLength, List.getElem?_eq_none (i := 7) (Nat.le_of_lt_succ short)]
        simp
    simp [parts, noLength]

/-- A list that is shorter than a header is refused. -/
theorem tdriveCmdModeSelectIn_short (short : form.parts list = none) (fuel : Nat) (drive : ModeDrive) :
    tdriveCmdModeSelectIn behind form fuel list drive = .done ⟨drive, true, []⟩ := by
  rw [tdriveCmdModeSelectIn, if_pos (ModeForm.parts_none_iff.mp short)]

/-- The bytes of the block length. -/
theorem blockLength_bytes (long : 8 ≤ data.length) :
    (data.drop 5).take 3 = [data[5], data[6], data[7]] := by
  rw [List.drop_eq_getElem_cons (by omega), List.drop_eq_getElem_cons (by omega),
    List.drop_eq_getElem_cons (by omega)]
  rfl

/-- A block descriptor that is not refused and not cut gives the block length. What it sees is the
list and the memory behind it. -/
theorem tdriveUpdateBlockDescriptor_cases
    (sees : ∀ place < 8, listByte behind data place = seen[place]?) (isSome : length ≠ 0)
    (drive : ModeDrive) :
    (RefusesDescriptor length seen →
      tdriveUpdateBlockDescriptor behind data length drive = .refused) ∧
    (CutsDescriptor length seen →
      tdriveUpdateBlockDescriptor behind data length drive = .outside) ∧
    (¬RefusesDescriptor length seen → ¬CutsDescriptor length seen →
      tdriveUpdateBlockDescriptor behind data length drive = .updated
        { drive with
          blockDescriptor := fun place =>
            if 5 ≤ place.val then seen[place.val]?.getD 0 else drive.blockDescriptor place }) := by
  unfold RefusesDescriptor CutsDescriptor tdriveUpdateBlockDescriptor
  rw [sees 5 (by decide), sees 6 (by decide), sees 7 (by decide)]
  rcases Nat.lt_or_ge length 8 with short | enough
  · rw [if_pos short]
    exact ⟨fun _ => rfl, fun cuts => absurd cuts.1 (Nat.not_le_of_lt short),
      fun takes => absurd ⟨isSome, Or.inl short⟩ takes⟩
  · rw [if_neg (Nat.not_lt.mpr enough)]
    rcases Nat.lt_or_ge seen.length 8 with cut | long
    · rw [List.getElem?_eq_none (i := 7) (by omega)]
      refine ⟨fun refuses => ?_, fun _ => ?_, fun _ inside => absurd ⟨enough, cut⟩ inside⟩
      · omega
      · split
        · rename_i isLow
          cases isLow
        · rfl
    · have isLarge : tdriveMaxBlockSize < ofBe ((seen.drop 5).take 3) ↔
          ofBe [seen[5], seen[6], seen[7]] ≠ 0 ∧
            tdriveMaxBlockSize < ofBe [seen[5], seen[6], seen[7]] := by
        rw [blockLength_bytes long]
        omega
      rw [List.getElem?_eq_getElem (by omega : 5 < seen.length),
        List.getElem?_eq_getElem (by omega : 6 < seen.length),
        List.getElem?_eq_getElem (by omega : 7 < seen.length)]
      simp only [← isLarge]
      refine ⟨fun refuses => if_pos ?_, fun cuts => absurd cuts.2 (by omega), fun takes _ => ?_⟩
      · omega
      · rw [if_neg (by omega)]
        congr 2
        funext place
        fin_cases place <;> simp [Function.update] <;> grind

/-- What a list with a header comes to, by what its block descriptor sees. -/
theorem tdriveCmdModeSelectIn_parts (isParts : form.parts list = some (specific, length, data))
    (sees : ∀ place < 8, listByte behind data place = seen[place]?) (fuel : Nat)
    (drive : ModeDrive) :
    (RefusesDescriptor length seen → tdriveCmdModeSelectIn behind form fuel list drive =
      .done ⟨tdriveUpdateModeHeader specific drive, true, []⟩) ∧
    (CutsDescriptor length seen → tdriveCmdModeSelectIn behind form fuel list drive = .outside) ∧
    (¬RefusesDescriptor length seen → ¬CutsDescriptor length seen →
      tdriveCmdModeSelectIn behind form fuel list drive =
        selectLoop form.lengthWidth fuel (data.drop length)
          ⟨startDrive specific length seen drive, false, []⟩) := by
  have long : ¬list.length < form.headerLength := by
    rw [← ModeForm.parts_none_iff, isParts]
    simp
  obtain ⟨_, isSpecific, isLength⟩ := Option.bind_eq_some_iff.mp isParts
  obtain ⟨_, hasLength, isTriple⟩ := Option.map_eq_some_iff.mp isLength
  cases isTriple
  rw [tdriveCmdModeSelectIn, if_neg long, isSpecific, hasLength]
  dsimp only
  by_cases none : length = 0
  · rw [if_pos none, none]
    exact ⟨fun refuses => absurd rfl refuses.1, fun cuts => absurd cuts.1 (by decide), fun _ _ => rfl⟩
  · obtain ⟨refused, cut, taken⟩ := tdriveUpdateBlockDescriptor_cases sees none
      (tdriveUpdateModeHeader specific drive)
    rw [if_neg none]
    refine ⟨fun refuses => ?_, fun cuts => ?_, fun takes inside => ?_⟩
    · rw [refused refuses]
    · rw [cut cuts]
    · rw [taken takes inside]
      simp [startDrive, none]

/-- What a list with a header comes to if nothing is behind it. -/
theorem tdriveCmdModeSelect_parts (isParts : form.parts list = some (specific, length, data))
    (fuel : Nat) (drive : ModeDrive) :
    (RefusesDescriptor length data → tdriveCmdModeSelect form fuel list drive =
      .done ⟨tdriveUpdateModeHeader specific drive, true, []⟩) ∧
    (CutsDescriptor length data → tdriveCmdModeSelect form fuel list drive = .outside) ∧
    (¬RefusesDescriptor length data → ¬CutsDescriptor length data →
      tdriveCmdModeSelect form fuel list drive = selectLoop form.lengthWidth fuel (data.drop length)
        ⟨startDrive specific length data drive, false, []⟩) := by
  have sees : ∀ place < 8, listByte (fun _ => none) data place = data[place]? := by
    intro place _
    exact Option.or_none
  exact tdriveCmdModeSelectIn_parts isParts sees fuel drive

end Command

/-! ## Termination, bounds, and the two forms -/

/-- The command comes to an end. -/
def Terminates (form : ModeForm) (list : List UInt8) (drive : ModeDrive) : Prop :=
  ∃ fuel, tdriveCmdModeSelect form fuel list drive ≠ .running

/-- The command never reads outside its list. -/
def ReadsInside (form : ModeForm) (list : List UInt8) (drive : ModeDrive) : Prop :=
  ∀ fuel, tdriveCmdModeSelect form fuel list drive ≠ .outside

/-- Both forms come to an end, with the same pages taken and the same state of the drive. -/
def SameEnd (list6 list10 : List UInt8) (drive : ModeDrive) : Prop :=
  ∃ state, (∃ fuel, tdriveCmdModeSelect6 fuel list6 drive = .done state) ∧
    ∃ fuel, tdriveCmdModeSelect10 fuel list10 drive = .done state

/-- A list for MODE SELECT(6); the first two bytes of its header are not used. -/
def selectList6 (unused : Fin 2 → UInt8) (specific : UInt8) (descriptor pages : List UInt8) :
    List UInt8 :=
  [unused 0, unused 1, specific, UInt8.ofNat descriptor.length] ++ (descriptor ++ pages)

/-- A list for MODE SELECT(10); five bytes of its header are not used. -/
def selectList10 (unused : Fin 5 → UInt8) (specific : UInt8) (descriptor pages : List UInt8) :
    List UInt8 :=
  [unused 0, unused 1, unused 2, specific, unused 3, unused 4] ++ beBytes 2 descriptor.length ++
    (descriptor ++ pages)

/-- Lengths of pages are kept in eight bits or more. -/
theorem ModeForm.lengthWidth_ge (form : ModeForm) : 8 ≤ form.lengthWidth := by
  cases form <;> decide

/-- The loop comes to an end if and only if it is not stuck. -/
theorem selectLoop_terminates_iff {width : Nat} (wide : 8 ≤ width) (data : List UInt8)
    (state : SelectState) :
    (∃ fuel, selectLoop width fuel data state ≠ .running) ↔ ¬Stuck width data := by
  rw [← pagesOf_none_iff]
  constructor
  · rintro ⟨fuel, ends⟩ stuck
    exact ends (selectLoop_stuck wide stuck fuel state)
  · intro ends
    obtain ⟨pages, isPages⟩ := Option.ne_none_iff_exists'.mp ends
    refine ⟨pages.length + 1, ?_⟩
    rw [selectLoop_pages wide isPages (Nat.lt_succ_self _)]
    exact SelectEnd.noConfusion

/-- A loop that has ended has taken its pages. -/
theorem selectLoop_done {width : Nat} (wide : 8 ≤ width) {fuel : Nat} {data : List UInt8}
    {state after : SelectState} (ends : selectLoop width fuel data state = .done after) :
    ∃ pages, pagesOf width data = some pages ∧ after = applyPages pages state := by
  induction fuel generalizing data state with
  | zero => cases ends
  | succ fuel ih =>
    by_cases ended : data.length ≤ 4 ∨ data.length < storedLength width data
    · rw [selectLoop_ends width fuel ended] at ends
      cases ends
      refine ⟨[], ?_, rfl⟩
      rw [pagesOf]
      rcases ended with short | cut
      · rw [if_pos short]
      · rw [if_pos cut, ite_self]
    · rw [not_or] at ended
      have long := Nat.lt_of_not_le ended.1
      have fits := Nat.le_of_not_lt ended.2
      rw [selectLoop_step wide long fits] at ends
      obtain ⟨pages, isPages, rfl⟩ := ih ends
      by_cases zero : storedLength width data = 0
      · rw [zero, List.drop_zero, pagesOf_zero long zero] at isPages
        cases isPages
      · refine ⟨data :: pages, ?_, rfl⟩
        rw [pagesOf_page long fits zero, isPages]
        rfl

/-- The parts of a list for MODE SELECT(6). -/
theorem parts_selectList6 (unused : Fin 2 → UInt8) (specific : UInt8) {descriptor : List UInt8}
    (small : descriptor.length < 256) (pages : List UInt8) :
    ModeForm.six.parts (selectList6 unused specific descriptor pages) =
      some (specific, descriptor.length, descriptor ++ pages) := by
  have isLength : (UInt8.ofNat descriptor.length).toNat = descriptor.length :=
    UInt8.toNat_ofNat_of_lt small
  simp [ModeForm.parts, ModeForm.deviceSpecific, ModeForm.blockDescriptorLength,
    ModeForm.headerLength, selectList6, isLength]

/-- The parts of a list for MODE SELECT(10). -/
theorem parts_selectList10 (unused : Fin 5 → UInt8) (specific : UInt8) {descriptor : List UInt8}
    (small : descriptor.length < 256) (pages : List UInt8) :
    ModeForm.ten.parts (selectList10 unused specific descriptor pages) =
      some (specific, descriptor.length, descriptor ++ pages) := by
  have isLength : ofBe (beBytes 2 descriptor.length) = descriptor.length := by
    rw [ofBe_beBytes]
    omega
  simp only [beBytes] at isLength
  simp [ModeForm.parts, ModeForm.deviceSpecific, ModeForm.blockDescriptorLength,
    ModeForm.headerLength, selectList10, beBytes]
  simpa using isLength

/-- Both forms take the same pages and end in the same state if and only if the block descriptor is
refused or lengths are kept. -/
theorem sameEnd_iff {list6 list10 : List UInt8} {specific : UInt8} {length : Nat} {data : List UInt8}
    (isSix : ModeForm.six.parts list6 = some (specific, length, data))
    (isTen : ModeForm.ten.parts list10 = some (specific, length, data))
    (inside : ¬CutsDescriptor length data) (drive : ModeDrive) :
    SameEnd list6 list10 drive ↔
      RefusesDescriptor length data ∨ KeepsLengths (data.drop length) := by
  unfold SameEnd tdriveCmdModeSelect6 tdriveCmdModeSelect10
  by_cases refuses : RefusesDescriptor length data
  · exact iff_of_true ⟨_, ⟨0, (tdriveCmdModeSelect_parts isSix 0 drive).1 refuses⟩, 0,
      (tdriveCmdModeSelect_parts isTen 0 drive).1 refuses⟩ (Or.inl refuses)
  · have six (fuel : Nat) := (tdriveCmdModeSelect_parts isSix fuel drive).2.2 refuses inside
    have ten (fuel : Nat) := (tdriveCmdModeSelect_parts isTen fuel drive).2.2 refuses inside
    simp only [six, ten, refuses, false_or, keepsLengths_iff, ModeForm.lengthWidth]
    constructor
    · rintro ⟨state, ⟨_, endsSix⟩, _, endsTen⟩
      obtain ⟨pages, isPages, rfl⟩ := selectLoop_done (by decide) endsSix
      obtain ⟨others, isOthers, same⟩ := selectLoop_done (by decide) endsTen
      -- the pages that were taken are noted, so they are the same
      have applied := congrArg SelectState.applied same
      rw [applyPages_applied (by decide) isPages, applyPages_applied (by decide) isOthers] at applied
      rw [isPages, isOthers, List.append_cancel_left applied]
      exact ⟨by simp, rfl⟩
    · rintro ⟨ends, same⟩
      obtain ⟨pages, isPages⟩ := Option.ne_none_iff_exists'.mp ends
      refine ⟨_, ⟨_, selectLoop_pages (by decide) isPages (Nat.lt_succ_self _) _⟩, _,
        selectLoop_pages (by decide) ?_ (Nat.lt_succ_self _) _⟩
      rw [same, isPages]

/-- MODE SELECT with a header comes to an end if and only if it does not come to its pages or its loop
is not stuck. -/
theorem terminates_iff {form : ModeForm} {list : List UInt8} {specific : UInt8} {length : Nat}
    {data : List UInt8} (isParts : form.parts list = some (specific, length, data))
    (drive : ModeDrive) :
    Terminates form list drive ↔ RefusesDescriptor length data ∨ CutsDescriptor length data ∨
      ¬Stuck form.lengthWidth (data.drop length) := by
  have ends (fuel : Nat) := tdriveCmdModeSelect_parts isParts fuel drive
  by_cases refuses : RefusesDescriptor length data
  · refine iff_of_true ⟨0, ?_⟩ (Or.inl refuses)
    rw [(ends 0).1 refuses]
    exact SelectEnd.noConfusion
  · by_cases cuts : CutsDescriptor length data
    · refine iff_of_true ⟨0, ?_⟩ (Or.inr (Or.inl cuts))
      rw [(ends 0).2.1 cuts]
      exact SelectEnd.noConfusion
    · simp only [Terminates, (ends _).2.2 refuses cuts, refuses, cuts, false_or]
      exact selectLoop_terminates_iff form.lengthWidth_ge _ _

/-- MODE SELECT with a header reads inside its list if and only if the list has all of the block
descriptor that the header announces. -/
theorem readsInside_iff {form : ModeForm} {list : List UInt8} {specific : UInt8} {length : Nat}
    {data : List UInt8} (isParts : form.parts list = some (specific, length, data))
    (drive : ModeDrive) : ReadsInside form list drive ↔ ¬CutsDescriptor length data := by
  have ends (fuel : Nat) := tdriveCmdModeSelect_parts isParts fuel drive
  constructor
  · intro inside cuts
    exact inside 0 ((ends 0).2.1 cuts)
  · intro cuts fuel
    by_cases refuses : RefusesDescriptor length data
    · rw [(ends fuel).1 refuses]
      exact SelectEnd.noConfusion
    · rw [(ends fuel).2.2 refuses cuts]
      exact selectLoop_inside form.lengthWidth_ge _ _ _

/-- A block descriptor that is in the list is not cut. -/
theorem not_cutsDescriptor (descriptor pages : List UInt8) :
    ¬CutsDescriptor descriptor.length (descriptor ++ pages) := by
  rintro ⟨long, cut⟩
  rw [List.length_append] at cut
  omega

/-- MODE SELECT comes to an end if and only if it comes to no page whose length is kept as zero; it
reads inside its list if and only if the list has all of the block descriptor that its header
announces; and both forms take the same pages and leave the same state if and only if lengths of
pages are kept in eight bits. -/
theorem tdriveCmdModeSelect_parses_iff (drive : ModeDrive) :
    (∀ form list, Terminates form list drive ↔ ∀ specific length data,
      form.parts list = some (specific, length, data) →
        RefusesDescriptor length data ∨ CutsDescriptor length data ∨
          ¬Stuck form.lengthWidth (data.drop length)) ∧
    (∀ form list, ReadsInside form list drive ↔ ∀ specific length data,
      form.parts list = some (specific, length, data) → ¬CutsDescriptor length data) ∧
    ∀ unused6 unused10 specific descriptor pages, descriptor.length < 256 →
      (SameEnd (selectList6 unused6 specific descriptor pages)
          (selectList10 unused10 specific descriptor pages) drive ↔
        RefusesDescriptor descriptor.length (descriptor ++ pages) ∨ KeepsLengths pages) := by
  refine ⟨fun form list => ?_, fun form list => ?_, ?_⟩
  · cases isParts : form.parts list with
    | none =>
      refine iff_of_true ⟨0, ?_⟩ (by simp)
      rw [tdriveCmdModeSelect, tdriveCmdModeSelectIn_short isParts]
      exact SelectEnd.noConfusion
    | some parts =>
      rw [terminates_iff isParts]
      refine ⟨?_, fun ends => ends _ _ _ rfl⟩
      rintro ends _ _ _ ⟨⟩
      exact ends
  · cases isParts : form.parts list with
    | none =>
      refine iff_of_true (fun fuel => ?_) (by simp)
      rw [tdriveCmdModeSelect, tdriveCmdModeSelectIn_short isParts]
      exact SelectEnd.noConfusion
    | some parts =>
      rw [readsInside_iff isParts]
      refine ⟨?_, fun ends => ends _ _ _ rfl⟩
      rintro ends _ _ _ ⟨⟩
      exact ends
  · intro unused6 unused10 specific descriptor pages small
    rw [sameEnd_iff (parts_selectList6 unused6 specific small pages)
      (parts_selectList10 unused10 specific small pages) (not_cutsDescriptor _ _), List.drop_left]

/-- A drive without a tape. -/
def unloadedDrive : ModeDrive :=
  ⟨none, 0, fun _ => 0, fun _ => 0, fun _ => 0, fun _ => 0⟩

/-- A compression page. -/
def compressionBytes : List UInt8 := [0x0F, 0x0E, 0x80] ++ List.replicate 13 0

/-- Both forms take a compression page. -/
theorem tdriveCmdModeSelect_parses_compression :
    ([] : List UInt8).length < 256 ∧
      SameEnd (selectList6 (fun _ => 0) 0x10 [] compressionBytes)
        (selectList10 (fun _ => 0) 0x10 [] compressionBytes) unloadedDrive := by
  refine ⟨by decide, ((tdriveCmdModeSelect_parses_iff _).2.2 _ _ _ _ _ (by decide)).mpr
    (Or.inr ?_)⟩
  have pages (width : Nat) (isStored : storedLength width compressionBytes = 16) :
      pagesOf width compressionBytes = some [compressionBytes] := by
    rw [pagesOf_page (by decide) (by rw [isStored]; decide) (by omega), isStored,
      pagesOf_short (by decide)]
    rfl
  rw [keepsLengths_iff, pages 16 (by decide), pages 8 (by decide)]
  exact ⟨by simp, rfl⟩

/-- The mode byte of the compression page after a command has ended. -/
def SelectEnd.compressionByte : SelectEnd → Option UInt8
  | .done state => some (state.drive.compressionPage ⟨2, by decide⟩)
  | _ => none

/-- A configuration page of 272 bytes with a compression page inside it, 16 bytes from its start. -/
def longModePage : List UInt8 :=
  [0x10, 0, 1, 0x0C] ++ List.replicate 12 0 ++ [0x0F, 0x0E, 0x80] ++ List.replicate 253 0

/-- A page whose length of sixteen bits is zero keeps MODE SELECT(6) for ever, one whose length is
256 keeps MODE SELECT(10), a short list is read behind its end, and of a page of 272 bytes only MODE
SELECT(10) takes the compression page inside it. -/
theorem tdriveCmdModeSelect_fails :
    ¬Terminates .six (selectList6 (fun _ => 0) 0 [] [0x10, 0, 0xFF, 0xFC, 0]) unloadedDrive ∧
    ¬Terminates .ten (selectList10 (fun _ => 0) 0 [] [0, 254, 0, 0, 0]) unloadedDrive ∧
    ¬ReadsInside .six [0, 0, 0, 8] unloadedDrive ∧
    ¬SameEnd (selectList6 (fun _ => 0) 0 [] longModePage) (selectList10 (fun _ => 0) 0 [] longModePage)
      unloadedDrive ∧
    (tdriveCmdModeSelect6 150 (selectList6 (fun _ => 0) 0 [] longModePage)
      unloadedDrive).compressionByte = some 0 ∧
    (tdriveCmdModeSelect10 150 (selectList10 (fun _ => 0) 0 [] longModePage)
      unloadedDrive).compressionByte = some 0x80 := by
  have none (data : List UInt8) : ¬RefusesDescriptor 0 data := fun refuses => refuses.1 rfl
  have small : ([] : List UInt8).length < 256 := by decide
  refine ⟨?_, ?_, ?_, ?_, by decide +kernel, by decide +kernel⟩
  · rw [terminates_iff (parts_selectList6 _ _ small _)]
    rintro (refuses | cuts | ends)
    · exact none _ refuses
    · exact not_cutsDescriptor [] _ cuts
    · exact ends ⟨_, .first, by decide, by decide⟩
  · rw [terminates_iff (parts_selectList10 _ _ small _)]
    rintro (refuses | cuts | ends)
    · exact none _ refuses
    · exact not_cutsDescriptor [] _ cuts
    · exact ends ⟨_, .first, by decide, by decide⟩
  · have isParts : ModeForm.six.parts [0, 0, 0, 8] = some (0, 8, []) := rfl
    rw [readsInside_iff isParts]
    exact fun inside => inside ⟨by decide, by decide⟩
  · rw [sameEnd_iff (parts_selectList6 _ _ small _) (parts_selectList10 _ _ small _)
      (not_cutsDescriptor [] _)]
    have isStored : storedLength 16 longModePage = 272 := by decide
    have isLong : longModePage.length = 272 := by decide +kernel
    rintro (refuses | keeps)
    · exact none _ refuses
    · have kept := keeps longModePage .first (by omega)
      omega

end VirtualTape
