import Mathlib.Data.List.GetD
import Mathlib.Data.List.DropRight
import Mathlib.Data.List.Nodup
import VirtualTape.Core.Barcode

/-!
# The barcodes of a series

A prefix with a digit is cut in one way into its last run of digits and what stands around it. The
scan from the end finds this cut if there is another character in front of the run. If there is none
the whole prefix is printed as the number, which is right for a prefix of digits only. The barcodes
are printed as the format says, and a percent sign of the prefix is taken for a directive.
-/

namespace VirtualTape

open Printf (sprintf decimal zeroPadded)

variable {label header range trailer front suffix : List Char} {env : AddEnv} {request : AddVolumes}

/-! ## The last run of digits -/

/-- A prefix, its last run of digits and what stands in front of and behind it. -/
structure LastRun (label header range trailer : List Char) : Prop where
  /-- The pieces make up the prefix. -/
  isLabel : label = header ++ range ++ trailer
  /-- There is a run. -/
  nonempty : range ≠ []
  /-- It is made of digits. -/
  digits : ∀ c ∈ range, c.isDigit = true
  /-- It does not go on in front. -/
  maximal : ∀ c, header.getLast? = some c → c.isDigit = false
  /-- No digit is behind it. -/
  last : ∀ c ∈ trailer, c.isDigit = false

/-- A prefix with a digit has a last run. -/
theorem exists_lastRun (digit : ∃ c ∈ label, c.isDigit = true) :
    ∃ header range trailer, LastRun label header range trailer := by
  have cutTrailer := @List.rdropWhile_append_rtakeWhile _ (fun c => !c.isDigit) label
  generalize isFront : label.rdropWhile (fun c => !c.isDigit) = front at cutTrailer
  have cutRange := @List.rdropWhile_append_rtakeWhile _ Char.isDigit front
  have isNonempty : front ≠ [] := by
    rw [← isFront, Ne, List.rdropWhile_eq_nil_iff]
    obtain ⟨c, mem, isDigit⟩ := digit
    intro none
    have notDigit := none c mem
    rw [isDigit] at notDigit
    exact absurd notDigit (by decide)
  have lastDigit : (front.getLast isNonempty).isDigit = true := by
    subst isFront
    simpa using List.rdropWhile_last_not (fun c => !c.isDigit) label isNonempty
  refine ⟨front.rdropWhile Char.isDigit, front.rtakeWhile Char.isDigit,
    label.rtakeWhile (fun c => !c.isDigit), ?_, ?_, ?_, ?_, ?_⟩
  · rw [cutRange, cutTrailer]
  · intro none
    rw [List.rtakeWhile_eq_nil_iff] at none
    exact none isNonempty lastDigit
  · intro c mem
    exact List.mem_rtakeWhile_imp mem
  · intro c isLast
    have some : front.rdropWhile Char.isDigit ≠ [] := by
      intro none
      rw [none] at isLast
      cases isLast
    rw [List.getLast?_eq_some_getLast some, Option.some.injEq] at isLast
    rw [← isLast]
    simpa using List.rdropWhile_last_not Char.isDigit front some
  · intro c mem
    simpa using List.mem_rtakeWhile_imp mem

/-! ## The scan -/

/-- The scan looks at the characters in front of a place only. -/
theorem scanLabel_append (back : List Char) {i : Nat} (le : i ≤ front.length) (last : Option Nat) :
    scanLabel (front ++ back) i last = scanLabel front i last := by
  induction i generalizing last with
  | zero => rfl
  | succ i ih =>
    have same : (front ++ back).getD i ' ' = front.getD i ' ' := List.getD_append front back ' ' i le
    have before := ih (Nat.le_of_succ_le le)
    unfold scanLabel
    rw [same]
    simp only [before]

section Last

variable (front : List Char) {c : Char}

/-- The last character of a prefix. -/
theorem getD_snoc (c : Char) : (front ++ [c]).getD front.length ' ' = c := by
  rw [List.getD_append_right front [c] ' ' _ (Nat.le_refl _), Nat.sub_self]
  rfl

/-- The scan of a prefix that ends with a digit. -/
theorem scanLabel_digit (isDigit : c.isDigit = true) (last : Option Nat) :
    scanLabel (front ++ [c]) (front ++ [c]).length last =
      scanLabel front front.length (last.or (some front.length)) := by
  rw [← scanLabel_append [c] (Nat.le_refl front.length), List.length_append, List.length_singleton]
  conv_lhs => unfold scanLabel
  rw [getD_snoc, if_pos isDigit]

/-- The scan of a prefix that ends with another character, before a digit was found. -/
theorem scanLabel_other (notDigit : c.isDigit = false) :
    scanLabel (front ++ [c]) (front ++ [c]).length none = scanLabel front front.length none := by
  rw [← scanLabel_append [c] (Nat.le_refl front.length), List.length_append, List.length_singleton]
  conv_lhs => unfold scanLabel
  rw [getD_snoc, if_neg (Bool.eq_false_iff.1 notDigit)]

/-- The scan ends at another character in front of a run. -/
theorem scanLabel_stop (notDigit : c.isDigit = false) {place : Nat} (positive : 0 < place) :
    scanLabel (front ++ [c]) (front ++ [c]).length (some place) =
      (some place, some front.length) := by
  rw [List.length_append, List.length_singleton]
  conv_lhs => unfold scanLabel
  rw [getD_snoc, if_neg (Bool.eq_false_iff.1 notDigit)]
  exact if_pos positive

end Last

/-- Characters that are no digits are passed over at the end. -/
theorem scanLabel_trailer (front : List Char) (last : ∀ c ∈ trailer, c.isDigit = false) :
    scanLabel (front ++ trailer) (front ++ trailer).length none =
      scanLabel front front.length none := by
  induction trailer using List.reverseRecOn with
  | nil => rw [List.append_nil]
  | append_singleton trailer c ih =>
    have notDigit := last c (List.mem_append_right trailer List.mem_cons_self)
    rw [← List.append_assoc, scanLabel_other _ notDigit]
    exact ih fun other mem => last other (List.mem_append_left [c] mem)

/-- Further digits of a run are passed over. -/
theorem scanLabel_digits (front : List Char) (digits : ∀ c ∈ range, c.isDigit = true)
    (place : Nat) : scanLabel (front ++ range) (front ++ range).length (some place) =
      scanLabel front front.length (some place) := by
  induction range using List.reverseRecOn with
  | nil => rw [List.append_nil]
  | append_singleton range c ih =>
    have isDigit := digits c (List.mem_append_right range List.mem_cons_self)
    rw [← List.append_assoc, scanLabel_digit _ isDigit]
    exact ih fun other mem => digits other (List.mem_append_left [c] mem)

namespace LastRun

variable (run : LastRun label header range trailer)

include run

/-- The scan finds the last run and goes on in front of it. -/
theorem scan : scanLabel label label.length none =
    scanLabel header header.length (some (header.length + range.length - 1)) := by
  obtain ⟨digits, c, isRange⟩ : ∃ digits c, range = digits ++ [c] :=
    (List.eq_nil_or_concat range).elim (fun none => absurd none run.nonempty)
      fun ⟨digits, c, isRange⟩ => ⟨digits, c, isRange.trans List.concat_eq_append⟩
  have isDigits := run.digits
  rw [isRange] at isDigits
  have isDigit := isDigits c (List.mem_append_right digits List.mem_cons_self)
  have isPlace : header.length + range.length - 1 = (header ++ digits).length := by
    rw [isRange, List.length_append, List.length_append, List.length_singleton]
    omega
  rw [isPlace, run.isLabel, scanLabel_trailer _ run.last, isRange, ← List.append_assoc,
    scanLabel_digit _ isDigit]
  exact scanLabel_digits header (fun other mem => isDigits other (List.mem_append_left [c] mem)) _

/-- The first number of a series is that of the run. -/
theorem atoi_range (more : List Char) (other : ∀ c ∈ more, c.isDigit = false) :
    atoi (range ++ more) = decimal range := by
  rw [atoi, List.takeWhile_append_of_pos run.digits]
  cases more with
  | nil => simp
  | cons c more => simp [other c List.mem_cons_self]

/-- The format of a prefix with another character in front of the run. -/
theorem getLabelFormat_split (long : label.length = 6) (some : header ≠ []) (suffix : List Char) :
    getLabelFormat label suffix = .some (decimal range,
      header ++ ('%' :: '0' :: Nat.toDigits 10 range.length ++ 'd' :: (trailer ++ suffix))) := by
  obtain ⟨others, c, isHeader⟩ : ∃ others c, header = others ++ [c] :=
    (List.eq_nil_or_concat header).elim (fun none => absurd none some)
      fun ⟨others, c, isHeader⟩ => ⟨others, c, isHeader.trans List.concat_eq_append⟩
  have notDigit : c.isDigit = false := run.maximal c (by rw [isHeader, List.getLast?_concat])
  have isRun : 0 < range.length := List.length_pos_iff.2 run.nonempty
  have isHead : 0 < header.length := List.length_pos_iff.2 some
  have isOthers : others.length = header.length - 1 := by
    rw [isHeader, List.length_append, List.length_singleton, Nat.add_sub_cancel]
  have scanned : scanLabel label 6 none =
      (.some (header.length + range.length - 1), .some (header.length - 1)) := by
    have behind : 0 < header.length + range.length - 1 := by omega
    have stopped := scanLabel_stop others notDigit behind
    rw [← isHeader, isOthers] at stopped
    rw [← long, run.scan, stopped]
  have isHeaderPart : label.take (header.length - 1 + 1) = header := by
    rw [Nat.sub_add_cancel isHead, run.isLabel, List.append_assoc, List.take_left]
  have isRangePart : (label.drop (header.length - 1 + 1)).take
      (header.length + range.length - 1 - (header.length - 1)) = range := by
    have isLength : header.length + range.length - 1 - (header.length - 1) = range.length := by omega
    rw [Nat.sub_add_cancel isHead, isLength, run.isLabel, List.append_assoc, List.drop_left,
      List.take_left]
  have isTrailerPart : label.drop (header.length + range.length - 1 + 1) = trailer := by
    rw [Nat.sub_add_cancel (by omega), run.isLabel, ← List.length_append, List.drop_left]
  have isNumber := run.atoi_range [] (by simp)
  rw [List.append_nil] at isNumber
  rw [getLabelFormat, if_neg (fun short => short long), scanned]
  simp only [isHeaderPart, isRangePart, isTrailerPart, List.isEmpty_iff, run.nonempty, if_false,
    isNumber]

/-- The format of a prefix that starts with its last run. -/
theorem getLabelFormat_whole (long : label.length = 6) (none : header = []) (suffix : List Char) :
    getLabelFormat label suffix = some (decimal range,
      '%' :: '0' :: Nat.toDigits 10 6 ++ 'd' :: suffix) := by
  have scanned : scanLabel label 6 .none = (some (header.length + range.length - 1), .none) := by
    rw [← long, run.scan, none]
    rfl
  have isNumber : atoi label = decimal range := by
    rw [run.isLabel, none, List.nil_append]
    exact run.atoi_range trailer run.last
  rw [getLabelFormat, if_neg (fun short => short long), scanned]
  simp only [List.isEmpty_nil, if_true, isNumber, long, List.nil_append]

end LastRun

/-! ## Adding cartridges -/

/-- The database, the tape ids and the kernel refuse nothing. -/
structure AddEnv.Succeeds (env : AddEnv) : Prop where
  /-- Barcodes are not in use. -/
  unique : ∀ i label, env.labelUnique i label = true
  /-- There is memory. -/
  memory : ∀ i, env.hasMemory i = true
  /-- There are tape ids. -/
  tapeId : ∀ i, env.nextTapeId i ≠ 0
  /-- Cartridges are added. -/
  accepts : ∀ i vinfo, env.addNewVcartridge i vinfo = none

section Adding

variable {labelfmt : List Char}

/-- A cartridge whose barcode can be printed and is valid is added. -/
theorem addVolumesFrom_valid (succeeds : env.Succeeds) (several : request.nvolumes ≠ 1)
    (left i : Nat) {start : Nat} (added : List Vcartridge) {vollabel : List Char}
    (prints : sprintf labelfmt [start] = some vollabel)
    (valid : vollabelValid vollabel request.voltype = true) :
    addVolumesFrom env request labelfmt (left + 1) i start added =
      addVolumesFrom env request labelfmt left (i + 1) (start + 1)
        (added ++ [request.vinfo env i vollabel]) := by
  have hasId : (request.vinfo env i vollabel).tapeId ≠ 0 := succeeds.tapeId i
  rw [addVolumesFrom, if_neg several, prints]
  simp only [valid, succeeds.unique, succeeds.memory, hasId, succeeds.accepts, Bool.not_true,
    Bool.and_false, Bool.false_eq_true, if_false]

/-- A barcode that is not valid ends the command. -/
theorem addVolumesFrom_invalid (env : AddEnv) (several : request.nvolumes ≠ 1) (left i : Nat)
    {start : Nat} (added : List Vcartridge) {vollabel : List Char}
    (prints : sprintf labelfmt [start] = some vollabel)
    (invalid : vollabelValid vollabel request.voltype = false) :
    ∃ error, addVolumesFrom env request labelfmt (left + 1) i start added =
      some ⟨added, some error⟩ := by
  rw [addVolumesFrom, if_neg several, prints]
  simp only [invalid, several, ne_eq, not_false_eq_true, decide_true, Bool.not_false, Bool.and_true,
    if_true]
  exact ⟨_, rfl⟩

/-- If the barcodes of the series are printed and are valid as long as they fit, they are the barcodes
of the new cartridges. -/
theorem addVolumesFrom_series (succeeds : env.Succeeds) (several : request.nvolumes ≠ 1)
    {first : Nat} {series : Nat → List Char} {fits : Nat → Bool}
    (prints : ∀ k, sprintf labelfmt [first + k] = some (series k))
    (valid : ∀ k, vollabelValid (series k) request.voltype = fits k) (left i : Nat)
    (added : List Vcartridge) :
    ∃ result, addVolumesFrom env request labelfmt left i (first + i) added = some result ∧
      result.added.map Vcartridge.label =
        added.map Vcartridge.label ++ ((List.range' i left).takeWhile fits).map series ∧
      (result.error = none ↔ ∀ k ∈ List.range' i left, fits k = true) := by
  induction left generalizing i added with
  | zero => exact ⟨⟨added, none⟩, rfl, by simp, by simp⟩
  | succ left ih =>
    cases isFit : fits i with
    | true =>
      rw [addVolumesFrom_valid succeeds several left i added (prints i) ((valid i).trans isFit),
        Nat.add_assoc]
      obtain ⟨result, isResult, labels, errors⟩ :=
        ih (i + 1) (added ++ [request.vinfo env i (series i)])
      refine ⟨result, isResult, ?_, ?_⟩
      · rw [labels, List.range'_succ, List.takeWhile_cons_of_pos isFit]
        simp [AddVolumes.vinfo]
      · rw [errors, List.range'_succ, List.forall_mem_cons]
        exact (and_iff_right isFit).symm
    | false =>
      obtain ⟨error, ends⟩ := addVolumesFrom_invalid env several left i added (prints i)
        ((valid i).trans isFit)
      refine ⟨⟨added, some error⟩, ends, ?_, ?_⟩
      · rw [List.range'_succ, List.takeWhile_cons_of_neg (by simp [isFit]), List.map_nil,
          List.append_nil]
      · constructor
        · intro none
          cases none
        · intro all
          have here := all i (by simp [List.range'_succ])
          rw [isFit] at here
          cases here

/-- Cartridges that were added stay. -/
theorem addVolumesFrom_keeps (succeeds : env.Succeeds) (several : request.nvolumes ≠ 1)
    {left i start : Nat} {added : List Vcartridge} {result : AddResult}
    (ends : addVolumesFrom env request labelfmt left i start added = some result) :
    ∃ more, result.added = added ++ more := by
  induction left generalizing i start added with
  | zero =>
    obtain rfl := Option.some.inj ends
    exact ⟨[], by simp⟩
  | succ left ih =>
    cases prints : sprintf labelfmt [start] with
    | none =>
      rw [addVolumesFrom, if_neg several, prints] at ends
      cases ends
    | some vollabel =>
      cases valid : vollabelValid vollabel request.voltype with
      | true =>
        rw [addVolumesFrom_valid succeeds several left i added prints valid] at ends
        obtain ⟨more, isMore⟩ := ih ends
        exact ⟨_, isMore.trans (List.append_assoc ..)⟩
      | false =>
        obtain ⟨error, stops⟩ := addVolumesFrom_invalid env several left i added prints valid
        obtain rfl := Option.some.inj (stops.symm.trans ends)
        exact ⟨[], by simp⟩

/-- The first barcode of a command that adds something is the one that is printed first. -/
theorem addVolumesFrom_first (succeeds : env.Succeeds) (several : request.nvolumes ≠ 1)
    {left start : Nat} {result : AddResult} {barcode : List Char} {others : List (List Char)}
    (ends : addVolumesFrom env request labelfmt left 0 start [] = some result)
    (labels : result.added.map Vcartridge.label = barcode :: others) :
    sprintf labelfmt [start] = some barcode ∧ vollabelValid barcode request.voltype = true := by
  cases left with
  | zero =>
    obtain rfl := Option.some.inj ends
    cases labels
  | succ left =>
    cases prints : sprintf labelfmt [start] with
    | none =>
      rw [addVolumesFrom, if_neg several, prints] at ends
      cases ends
    | some vollabel =>
      cases valid : vollabelValid vollabel request.voltype with
      | true =>
        rw [addVolumesFrom_valid succeeds several left 0 [] prints valid] at ends
        obtain ⟨more, isMore⟩ := addVolumesFrom_keeps succeeds several ends
        rw [isMore] at labels
        obtain ⟨rfl, -⟩ := List.cons.inj labels
        exact ⟨rfl, valid⟩
      | false =>
        obtain ⟨error, stops⟩ := addVolumesFrom_invalid env several left 0 [] prints valid
        obtain rfl := Option.some.inj (stops.symm.trans ends)
        cases labels

end Adding

/-! ## Types -/

/-- Do cartridges of a type have a barcode? -/
def VolType.hasBarcode : VolType → Bool
  | .unknown | .cleaning | .diagnostics => false
  | _ => true

/-- A barcode is a prefix of six characters and the text of its type. -/
theorem vollabelValid_eq (barcode : List Char) (voltype : VolType) (worm : Bool) :
    vollabelValid barcode voltype = (voltype.hasBarcode &&
      barcode.length == 6 + (getVoltagSuffix voltype worm).length) := by
  cases voltype <;> cases worm <;> rfl

/-- The text of a type is printed as it is. -/
theorem getVoltagSuffix_plain (voltype : VolType) (worm : Bool) :
    '%' ∉ getVoltagSuffix voltype worm := by
  cases voltype <;> cases worm <;> decide

/-- Cartridges with a barcode have a size. -/
theorem getSizeSpec_ne_zero {voltype : VolType} (some : voltype.hasBarcode = true)
    (configured : Int) : getSizeSpec (checkMaxVcartSize configured) voltype ≠ 0 := by
  rw [getSizeSpec]
  split
  · rename_i given
    rw [checkMaxVcartSize] at given ⊢
    split at given
    · rename_i bounds
      rw [if_pos bounds]
      omega
    · exact absurd rfl given
  · cases voltype <;> first | decide | cases some

/-! ## The series -/

/-- A barcode of a series: the run is counted up, and everything else of the prefix stays. -/
def seriesLabel (header range trailer suffix : List Char) (k : Nat) : List Char :=
  header ++ zeroPadded range.length (decimal range + k) ++ (trailer ++ suffix)

/-- A barcode of a series has its length as long as its number fits. -/
theorem length_seriesLabel_iff (nonempty : range ≠ []) (k : Nat) :
    (seriesLabel header range trailer suffix k).length =
        (header ++ range ++ trailer).length + suffix.length ↔
      decimal range + k < 10 ^ range.length := by
  rw [← Printf.length_zeroPadded_iff (List.length_pos_iff.2 nonempty), seriesLabel]
  simp only [List.length_append]
  omega

/-- The barcodes of a series differ. -/
theorem seriesLabel_injective (header range trailer suffix : List Char) :
    Function.Injective (seriesLabel header range trailer suffix) := by
  intro k other same
  have number := List.append_cancel_left (List.append_cancel_right same)
  exact Nat.add_left_cancel (Printf.zeroPadded_injective _ number)

/-- A format with one directive prints a number between two texts. -/
theorem sprintf_numbered {text : List Char} (plain : '%' ∉ header ++ text) (width number : Nat) :
    sprintf (header ++ ('%' :: '0' :: Nat.toDigits 10 width ++ 'd' :: text)) [number] =
      some (header ++ zeroPadded width number ++ text) := by
  rw [List.mem_append, not_or] at plain
  have ends : sprintf text [] = some text := by
    have copied := Printf.sprintf_text plain.2 [] []
    rw [List.append_nil] at copied
    rw [copied]
    simp [sprintf, Printf.printRest]
  rw [Printf.sprintf_text plain.1, Printf.sprintf_zeroPadded, ends]
  simp

/-- A format that prints a barcode of its series has no other percent sign. -/
theorem plain_of_sprintf {k : Nat} {numbers : List Nat}
    (prints : sprintf (header ++ ('%' :: '0' :: Nat.toDigits 10 range.length ++
      'd' :: (trailer ++ suffix))) numbers = some (seriesLabel header range trailer suffix k)) :
    '%' ∉ header ++ (trailer ++ suffix) := by
  obtain ⟨used, percents, letters⟩ := Printf.printRest_counts prints
  have noDigit {c : Char} (other : c.isDigit = false) :
      (Nat.toDigits 10 range.length).count c = 0 ∧
        (zeroPadded range.length (decimal range + k)).count c = 0 := by
    constructor
    · rw [List.count_eq_zero]
      intro mem
      have isDigit := Nat.isDigit_of_mem_toDigits (by decide) (by decide) mem
      exact Bool.false_ne_true (other.symm.trans isDigit)
    · rw [List.count_eq_zero]
      intro mem
      exact Bool.false_ne_true (other.symm.trans (Printf.isDigit_of_mem_zeroPadded mem))
  obtain ⟨noPercent, noPercent'⟩ := noDigit (show '%'.isDigit = false from rfl)
  obtain ⟨noLetter, noLetter'⟩ := noDigit (show 'd'.isDigit = false from rfl)
  simp only [Printf.percents, seriesLabel, List.count_append, List.count_cons, noPercent, noPercent',
    List.cons_append] at percents
  simp only [seriesLabel, List.count_append, List.count_cons, noLetter, noLetter',
    List.cons_append] at letters
  simp at percents letters
  rw [← List.count_eq_zero]
  simp only [List.count_append]
  omega

/-- The cartridges that are added have the barcodes of a series as long as its numbers fit. -/
structure NamesSeries (request : AddVolumes) (header range trailer : List Char)
    (result : AddResult) : Prop where
  /-- The barcodes. -/
  labels : result.added.map Vcartridge.label =
    ((List.range request.nvolumes).takeWhile fun k => decimal range + k < 10 ^ range.length).map
      (seriesLabel header range trailer (getVoltagSuffix request.voltype request.worm))
  /-- No barcode is used twice. -/
  distinct : (result.added.map Vcartridge.label).Nodup
  /-- It is an error if a number does not fit. -/
  error : result.error = none ↔ ∀ k < request.nvolumes, decimal range + k < 10 ^ range.length

/-- Cartridges are added with the barcodes of the series of a prefix. -/
def AddsSeries (env : AddEnv) (request : AddVolumes) : Prop :=
  ∀ header range trailer, LastRun request.label header range trailer →
    ∃ result, vdeviceAddVolumes env request = some result ∧
      NamesSeries request header range trailer result

/-- A prefix whose last run is found: it has no percent sign, and it is made of digits only or has
another character in front of a digit. -/
def countsUp (label : List Char) : Bool :=
  !label.contains '%' &&
    (label.all Char.isDigit || (label.dropWhile Char.isDigit).any Char.isDigit)

/-- The last run of a prefix is found if it is not at the start of a longer prefix. -/
theorem LastRun.countsUp_iff (run : LastRun label header range trailer) :
    countsUp label = true ↔ '%' ∉ label ∧ (header ≠ [] ∨ trailer = []) := by
  obtain ⟨c, isRange⟩ := List.exists_mem_of_ne_nil range run.nonempty
  have found : (label.all Char.isDigit || (label.dropWhile Char.isDigit).any Char.isDigit) = true ↔
      header ≠ [] ∨ trailer = [] := by
    by_cases none : header = []
    · have isLabel : label = range ++ trailer := by rw [run.isLabel, none, List.nil_append]
      have skipped : label.dropWhile Char.isDigit = trailer := by
        rw [isLabel, List.dropWhile_append_of_pos run.digits]
        cases trailer with
        | nil => rfl
        | cons c trailer => exact List.dropWhile_cons_of_neg (by simp [run.last c List.mem_cons_self])
      have noDigit : trailer.any Char.isDigit = false := by
        rw [List.any_eq_false]
        intro c mem
        exact Bool.eq_false_iff.1 (run.last c mem)
      rw [skipped, noDigit, Bool.or_false, List.all_eq_true]
      constructor
      · intro all
        refine Or.inr (List.eq_nil_iff_forall_not_mem.2 fun c mem => ?_)
        have isDigit := all c (by rw [isLabel]; exact List.mem_append_right range mem)
        exact Bool.false_ne_true ((run.last c mem).symm.trans isDigit)
      · rintro (some | rfl) c mem
        · exact absurd none some
        · exact run.digits c (by simpa [isLabel] using mem)
    · have stops : (header.dropWhile Char.isDigit).isEmpty = false := by
        rw [Bool.eq_false_iff, Ne, List.isEmpty_iff, List.dropWhile_eq_nil_iff]
        intro all
        have isLast := List.getLast?_eq_some_getLast none
        have isDigit := all _ (List.getLast_mem none)
        exact Bool.false_ne_true ((run.maximal _ isLast).symm.trans isDigit)
      have any : (label.dropWhile Char.isDigit).any Char.isDigit = true := by
        rw [run.isLabel, List.append_assoc, List.dropWhile_append, stops, List.any_eq_true]
        refine ⟨c, ?_, run.digits c isRange⟩
        simp [isRange]
      rw [any, Bool.or_true]
      exact iff_of_true rfl (Or.inl none)
  rw [countsUp, Bool.and_eq_true, found]
  simp

/-- With the right format the series is added. -/
theorem LastRun.adds (run : LastRun request.label header range trailer) (succeeds : env.Succeeds)
    (several : 1 < request.nvolumes) (long : request.label.length = 6)
    (hasBarcode : request.voltype.hasBarcode = true) (plain : '%' ∉ request.label)
    (format : getLabelFormat request.label (getVoltagSuffix request.voltype request.worm) =
      some (decimal range, header ++ ('%' :: '0' :: Nat.toDigits 10 range.length ++
        'd' :: (trailer ++ getVoltagSuffix request.voltype request.worm)))) :
    ∃ result, vdeviceAddVolumes env request = some result ∧
      NamesSeries request header range trailer result := by
  have allPlain : '%' ∉ header ++ (trailer ++ getVoltagSuffix request.voltype request.worm) := by
    have notSuffix := getVoltagSuffix_plain request.voltype request.worm
    rw [run.isLabel] at plain
    simp only [List.mem_append, not_or] at plain ⊢
    exact ⟨plain.1.1, plain.2, notSuffix⟩
  have valid (k : Nat) : vollabelValid
      (seriesLabel header range trailer (getVoltagSuffix request.voltype request.worm) k)
      request.voltype = decide (decimal range + k < 10 ^ range.length) := by
    have isLong : (header ++ range ++ trailer).length = 6 := run.isLabel ▸ long
    rw [vollabelValid_eq _ _ request.worm, hasBarcode, Bool.true_and, ← isLong]
    rw [Bool.eq_iff_iff, beq_iff_eq, decide_eq_true_iff]
    exact length_seriesLabel_iff run.nonempty k
  obtain ⟨result, isResult, labels, error⟩ := addVolumesFrom_series succeeds (Nat.ne_of_gt several)
    (fun k => sprintf_numbered allPlain range.length (decimal range + k)) valid request.nvolumes 0 []
  rw [← List.range_eq_range'] at labels error
  refine ⟨result, ?_, labels, ?_, ?_⟩
  · rw [vdeviceAddVolumes, if_neg (getSizeSpec_ne_zero hasBarcode env.maxVcartSize), if_pos several,
      format]
    exact isResult
  · rw [labels, List.map_nil, List.nil_append]
    refine List.Nodup.map (seriesLabel_injective ..) ?_
    exact List.nodup_range.sublist (List.takeWhile_sublist _)
  · rw [error]
    simp

/-- The first barcode of a series is printed. -/
theorem LastRun.first (run : LastRun request.label header range trailer) (succeeds : env.Succeeds)
    (several : 1 < request.nvolumes) (adds : AddsSeries env request) {start : Nat}
    {labelfmt : List Char}
    (format : getLabelFormat request.label (getVoltagSuffix request.voltype request.worm) =
      some (start, labelfmt)) :
    sprintf labelfmt [start] = some (seriesLabel header range trailer
        (getVoltagSuffix request.voltype request.worm) 0) ∧
      request.voltype.hasBarcode = true := by
  obtain ⟨result, isResult, names⟩ := adds header range trailer run
  obtain ⟨others, labels⟩ : ∃ others, result.added.map Vcartridge.label =
      seriesLabel header range trailer (getVoltagSuffix request.voltype request.worm) 0 ::
        others := by
    obtain ⟨more, isMore⟩ := Nat.exists_eq_succ_of_ne_zero (Nat.ne_of_gt (Nat.lt_of_succ_lt several))
    have fits := Printf.decimal_lt run.digits
    rw [names.labels, isMore, List.range_succ_eq_map, List.takeWhile_cons_of_pos (by simpa using fits)]
    exact ⟨_, rfl⟩
  rw [vdeviceAddVolumes, if_pos several, format] at isResult
  split at isResult
  · obtain rfl := Option.some.inj isResult
    cases labels
  · obtain ⟨prints, valid⟩ := addVolumesFrom_first succeeds (Nat.ne_of_gt several) isResult labels
    rw [vollabelValid_eq _ _ request.worm, Bool.and_eq_true] at valid
    exact ⟨prints, valid.1⟩

/-- If the whole prefix is printed as the number, nothing is behind the run. -/
theorem LastRun.ends_of_sprintf (run : LastRun label header range trailer) (none : header = [])
    (plain : '%' ∉ suffix)
    (prints : sprintf ('%' :: '0' :: Nat.toDigits 10 6 ++ 'd' :: suffix) [decimal range] =
      some (seriesLabel header range trailer suffix 0)) : trailer = [] := by
  have whole := @sprintf_numbered [] suffix plain 6 (decimal range)
  rw [List.nil_append, prints, Option.some.injEq, seriesLabel, none, List.nil_append,
    List.nil_append, ← List.append_assoc] at whole
  have pieces := List.append_cancel_right whole
  refine List.eq_nil_iff_forall_not_mem.2 fun c mem => ?_
  have isDigit : c.isDigit = true := by
    refine @Printf.isDigit_of_mem_zeroPadded 6 (decimal range) c ?_
    rw [← pieces]
    exact List.mem_append_right _ mem
  exact Bool.false_ne_true ((run.last c mem).symm.trans isDigit)

/-- For every prefix of six characters with a digit in it, every type and every number of cartridges:
they get the barcodes of the series if and only if the type has barcodes and the last run of digits is
found in the prefix. -/
theorem vdeviceAddVolumes_series_iff (succeeds : env.Succeeds) (long : request.label.length = 6)
    (digit : ∃ c ∈ request.label, c.isDigit = true) (several : 1 < request.nvolumes) :
    AddsSeries env request ↔
      request.voltype.hasBarcode = true ∧ countsUp request.label = true := by
  constructor
  · intro adds
    obtain ⟨header, range, trailer, run⟩ := exists_lastRun digit
    rw [run.countsUp_iff]
    by_cases none : header = []
    · obtain ⟨prints, hasBarcode⟩ := run.first succeeds several adds
        (run.getLabelFormat_whole long none _)
      have ends := run.ends_of_sprintf none (getVoltagSuffix_plain _ _) prints
      refine ⟨hasBarcode, ?_, Or.inr ends⟩
      rw [run.isLabel, none, ends, List.nil_append, List.append_nil]
      intro mem
      exact absurd (run.digits _ mem) (by decide)
    · obtain ⟨prints, hasBarcode⟩ := run.first succeeds several adds
        (run.getLabelFormat_split long none _)
      have plain := plain_of_sprintf prints
      refine ⟨hasBarcode, ?_, Or.inl none⟩
      rw [run.isLabel]
      simp only [List.mem_append, not_or] at plain ⊢
      refine ⟨⟨plain.1, fun mem => ?_⟩, plain.2.1⟩
      exact absurd (run.digits _ mem) (by decide)
  · rintro ⟨hasBarcode, counts⟩ header range trailer run
    obtain ⟨plain, found⟩ := run.countsUp_iff.1 counts
    refine run.adds succeeds several long hasBarcode plain ?_
    by_cases none : header = []
    · have ends : trailer = [] := found.resolve_left fun some => some none
      have isRange : range.length = 6 := by
        have isLabel := run.isLabel
        rw [none, ends, List.nil_append, List.append_nil] at isLabel
        rw [← isLabel, long]
      rw [run.getLabelFormat_whole long none, none, ends, isRange]
      rfl
    · exact run.getLabelFormat_split long none _

/-- Everything succeeds. -/
def acceptingEnv : AddEnv := ⟨false, 0, fun _ _ => true, fun _ => true, fun i => i + 1, fun _ _ => none⟩

/-- Nothing is refused. -/
theorem acceptingEnv_succeeds : acceptingEnv.Succeeds :=
  ⟨fun _ _ => rfl, fun _ => rfl, fun i => Nat.succ_ne_zero i, fun _ _ => rfl⟩

/-- Ask for cartridges of the first LTO type. -/
def addLto (label : List Char) (nvolumes : Nat) : AddVolumes :=
  ⟨0, 0, "Default", false, .lto1, nvolumes, false, label⟩

/-- A run in the middle of a prefix. -/
theorem vdeviceAddVolumes_series_middle :
    AddsSeries acceptingEnv (addLto ['V', 'T', '0', '9', '8', 'A'] 3) :=
  (vdeviceAddVolumes_series_iff acceptingEnv_succeeds rfl ⟨'9', by decide, rfl⟩ (by decide)).2
    ⟨rfl, by decide⟩

/-- A prefix that starts with its only run loses the characters behind it, and in a prefix with a
percent sign no number is printed at all. -/
theorem vdeviceAddVolumes_loses_characters :
    (∃ result, vdeviceAddVolumes acceptingEnv (addLto ['1', '2', 'A', 'B', 'C', 'D'] 2) = some result ∧
      result.added.map Vcartridge.label =
        [['0', '0', '0', '0', '1', '2', 'L', '1'], ['0', '0', '0', '0', '1', '3', 'L', '1']] ∧
      result.error = none) ∧
    ∃ result, vdeviceAddVolumes acceptingEnv (addLto ['A', '%', '1', '2', '3', '4'] 2) = some result ∧
      result.added = [] ∧ result.error.isSome = true :=
  ⟨⟨_, rfl, by decide, rfl⟩, ⟨_, rfl, by decide, rfl⟩⟩

end VirtualTape
