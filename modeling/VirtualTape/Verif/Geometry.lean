import VirtualTape.Core.Geometry

/-!
# The bounds of a library

Elements of a type have the addresses that follow each other from the first one of their type, and a
library keeps the numbers of its elements apart as long as no address wraps. The limit of the drives
is only tested after it was passed, so that a library can have one drive more than a cartridge can
describe.
-/

namespace VirtualTape

variable {config : LibraryConfig} {mchanger : Mchanger} {calls : List (Option Tdrive)}

/-! ## Numbers of elements -/

/-- Adding an element. -/
theorem length_mchangerAddElement (library : ElementLibrary) (type asked : ElementType)
    (element : StatusElement) (other : type ≠ .mediumTransport) :
    ((mchangerAddElement library type element other).elements asked).length =
      (library.elements asked).length + if asked = type then 1 else 0 := by
  by_cases isType : asked = type
  · subst isType
    simp [mchangerAddElement]
  · simp [mchangerAddElement, isType]

/-- Adding slots. -/
theorem length_addSlots (count : Nat) (library : ElementLibrary) (asked : ElementType) :
    ((addSlots count library).elements asked).length =
      (library.elements asked).length + if asked = .storage then count else 0 := by
  induction count generalizing library with
  | zero => simp [addSlots]
  | succ count ih =>
    rw [addSlots, ih, length_mchangerAddElement]
    split <;> omega

/-- Adding ports. -/
theorem length_addPorts (count : Nat) (library : ElementLibrary) (asked : ElementType) :
    ((addPorts count library).elements asked).length =
      (library.elements asked).length + if asked = .importExport then count else 0 := by
  induction count generalizing library with
  | zero => simp [addPorts]
  | succ count ih =>
    rw [addPorts, ih, length_mchangerAddElement]
    split <;> omega

/-- Number of elements of a type in a library with so many drives. -/
def LibraryConfig.count (config : LibraryConfig) (drives : Nat) : ElementType → Nat
  | .mediumTransport => 1
  | .storage => config.slots
  | .importExport => config.ieports
  | .dataTransfer => drives

/-- A library has the elements of its configuration. -/
def Mchanger.Counted (mchanger : Mchanger) : Prop :=
  ∀ type, (mchanger.library.elements type).length =
    mchanger.config.count mchanger.tdrives.length type

/-- A new library has its elements. -/
theorem mchangerNew_counted (config : LibraryConfig) : (mchangerNew config).Counted := by
  intro type
  have isLength : ((mchangerNew config).library.elements type).length =
      ((bareLibrary config).elements type).length + (if type = .storage then config.slots else 0) +
        if type = .importExport then config.ieports else 0 := by
    rw [mchangerNew, length_addPorts, length_addSlots]
  rw [isLength]
  cases type <;> simp [bareLibrary, LibraryConfig.count, mchangerNew]

/-- What asking for a drive does. -/
theorem mchangerAddTdrive_cases (mchanger : Mchanger) (tdrive : Option Tdrive) :
    (mchangerAddTdrive mchanger tdrive = mchanger ∧
      (tdrive = none ∨ tlMaxDrives < mchanger.tdrives.length)) ∨
    ∃ added, tdrive = some added ∧ mchanger.tdrives.length ≤ tlMaxDrives ∧
      (mchangerAddTdrive mchanger tdrive).config = mchanger.config ∧
      (mchangerAddTdrive mchanger tdrive).tdrives = mchanger.tdrives ++ [added] ∧
      (mchangerAddTdrive mchanger tdrive).library.elements =
        (mchangerAddElement mchanger.library .dataTransfer added.element (by decide)).elements := by
  unfold mchangerAddTdrive
  by_cases full : tlMaxDrives < mchanger.tdrives.length
  · rw [if_pos full]
    exact Or.inl ⟨rfl, Or.inr full⟩
  · rw [if_neg full]
    cases tdrive with
    | none => exact Or.inl ⟨rfl, Or.inl rfl⟩
    | some added => exact Or.inr ⟨added, rfl, Nat.le_of_not_lt full, rfl, rfl, rfl⟩

/-- A library keeps having its elements. -/
theorem mchangerAddTdrive_counted (counted : mchanger.Counted) (tdrive : Option Tdrive) :
    (mchangerAddTdrive mchanger tdrive).Counted := by
  rcases mchangerAddTdrive_cases mchanger tdrive with ⟨same, -⟩ |
    ⟨added, -, -, isConfig, isDrives, isElements⟩
  · rwa [same]
  · intro type
    rw [isElements, length_mchangerAddElement, counted type, isConfig, isDrives]
    cases type <;> simp [LibraryConfig.count]

/-- Adding a drive leaves the configuration alone. -/
theorem mchangerAddTdrive_config (mchanger : Mchanger) (tdrive : Option Tdrive) :
    (mchangerAddTdrive mchanger tdrive).config = mchanger.config := by
  rcases mchangerAddTdrive_cases mchanger tdrive with ⟨same, -⟩ | ⟨added, -, -, isConfig, -, -⟩
  · rw [same]
  · exact isConfig

/-- A drive is added as long as there are not more than the limit. -/
theorem length_mchangerAddTdrive (few : mchanger.tdrives.length ≤ tlMaxDrives + 1)
    (tdrive : Option Tdrive) :
    (mchangerAddTdrive mchanger tdrive).tdrives.length =
      min (mchanger.tdrives.length + if tdrive.isSome then 1 else 0) (tlMaxDrives + 1) := by
  rcases mchangerAddTdrive_cases mchanger tdrive with ⟨same, rfl | full⟩ |
    ⟨added, rfl, room, -, isDrives, -⟩
  · rw [same]
    exact (Nat.min_eq_left few).symm
  · rw [same]
    omega
  · rw [isDrives, List.length_append, List.length_singleton, Option.isSome_some, if_pos rfl]
    omega

/-- Add drives one after the other. -/
def addTdrives (mchanger : Mchanger) (calls : List (Option Tdrive)) : Mchanger :=
  calls.foldl mchangerAddTdrive mchanger

/-- A library has its elements however many drives are added. -/
theorem addTdrives_counted (counted : mchanger.Counted) (calls : List (Option Tdrive)) :
    (addTdrives mchanger calls).Counted := by
  induction calls generalizing mchanger with
  | nil => exact counted
  | cons tdrive calls ih => exact ih (mchangerAddTdrive_counted counted tdrive)

/-- Adding drives leaves the configuration alone. -/
theorem addTdrives_config (mchanger : Mchanger) (calls : List (Option Tdrive)) :
    (addTdrives mchanger calls).config = mchanger.config := by
  induction calls generalizing mchanger with
  | nil => rfl
  | cons tdrive calls ih => exact (ih _).trans (mchangerAddTdrive_config mchanger tdrive)

/-- Drives are added as long as there are not more than the limit. -/
theorem length_addTdrives (calls : List (Option Tdrive))
    (few : mchanger.tdrives.length ≤ tlMaxDrives + 1) :
    (addTdrives mchanger calls).tdrives.length =
      min (mchanger.tdrives.length + calls.countP Option.isSome) (tlMaxDrives + 1) := by
  induction calls generalizing mchanger with
  | nil => exact (Nat.min_eq_left few).symm
  | cons tdrive calls ih =>
    have isLength := length_mchangerAddTdrive few tdrive
    have isRest := @ih (mchangerAddTdrive mchanger tdrive) (by omega)
    rw [addTdrives] at isRest
    rw [addTdrives, List.foldl_cons, isRest, isLength, List.countP_cons]
    omega

/-! ## Addresses -/

/-- No two elements have the same address. -/
def ElementLibrary.Distinct (library : ElementLibrary) : Prop :=
  ∀ (type type' : ElementType) (index index' : Nat) (element element' : StatusElement),
    (library.elements type)[index]? = some element →
    (library.elements type')[index']? = some element' → element.address = element'.address →
      type = type' ∧ index = index'

/-- The addresses of a library differ if and only if those of its slots do not wrap. -/
theorem Mchanger.Counted.distinct_iff (counted : mchanger.Counted)
    (slots : mchanger.config.slots < 2 ^ 16) (ieports : mchanger.config.ieports < 2 ^ 8)
    (drives : mchanger.tdrives.length ≤ tlMaxDrives + 1) :
    mchanger.library.Distinct ↔ mchanger.config.slots ≤ 2 ^ 16 - 1024 := by
  constructor
  · intro distinct
    by_contra many
    have isTransport := List.getElem?_eq_getElem
      (show 0 < (mchanger.library.elements .mediumTransport).length by
        rw [counted]
        exact Nat.one_pos)
    have isSlot := List.getElem?_eq_getElem
      (show 2 ^ 16 - 1024 < (mchanger.library.elements .storage).length by
        rw [counted]
        exact Nat.lt_of_not_le many)
    have same := distinct _ _ _ _ _ _ isTransport isSlot (by
      rw [mchanger.library.addressed _ _ _ isTransport, mchanger.library.addressed _ _ _ isSlot]
      rfl)
    cases same.1
  · intro fits type type' index index' element element' found found' same
    have bound : index < mchanger.config.count mchanger.tdrives.length type :=
      counted type ▸ (List.getElem?_eq_some_iff.1 found).1
    have bound' : index' < mchanger.config.count mchanger.tdrives.length type' :=
      counted type' ▸ (List.getElem?_eq_some_iff.1 found').1
    rw [mchanger.library.addressed _ _ _ found, mchanger.library.addressed _ _ _ found'] at same
    have limit : tlMaxDrives = 7 := rfl
    cases type <;> cases type' <;>
      simp only [ElementType.startAddress, LibraryConfig.count] at same bound bound' <;>
      first
        | exact ⟨rfl, by omega⟩
        | omega

/-! ## Descriptors of drives -/

/-- The places that are written. -/
theorem mem_describeDrives_iff (place start : Nat) (tdrives : List Tdrive) :
    place ∈ (describeDrives start tdrives).map Prod.fst ↔
      start ≤ place ∧ place < start + tdrives.length := by
  induction tdrives generalizing start with
  | nil => simp [describeDrives]
  | cons tdrive tdrives ih =>
    rw [describeDrives, List.map_cons, List.mem_cons, ih, List.length_cons]
    omega

/-- The drives of a library are described inside the array. -/
def Mchanger.DescribesInside (mchanger : Mchanger) : Prop :=
  ∀ place ∈ (mchangerInitTapeMetadata mchanger).driveInfo.map Prod.fst, place < tlMaxDrives

/-- The descriptors are inside the array if and only if there are not too many drives. -/
theorem Mchanger.describesInside_iff (mchanger : Mchanger) :
    mchanger.DescribesInside ↔ mchanger.tdrives.length ≤ tlMaxDrives := by
  simp only [DescribesInside, mchangerInitTapeMetadata, mem_describeDrives_iff]
  constructor
  · intro inside
    by_contra many
    have last := inside tlMaxDrives ⟨Nat.zero_le _, by omega⟩
    exact Nat.lt_irrefl _ last
  · rintro few place ⟨-, less⟩
    omega

/-- For every configuration whose numbers fit and every sequence of drives that are added: all
addresses differ and the drives are described inside the array if and only if there are at most 64512
slots and at most as many drives as there are descriptors. -/
theorem addTdrives_bounds_iff (slots : config.slots < 2 ^ 16) (ieports : config.ieports < 2 ^ 8)
    (calls : List (Option Tdrive)) :
    ((addTdrives (mchangerNew config) calls).library.Distinct ∧
        (addTdrives (mchangerNew config) calls).DescribesInside) ↔
      config.slots ≤ 2 ^ 16 - 1024 ∧ calls.countP Option.isSome ≤ tlMaxDrives := by
  have isConfig : (addTdrives (mchangerNew config) calls).config = config :=
    addTdrives_config _ calls
  have isLength := @length_addTdrives (mchangerNew config) calls (Nat.zero_le _)
  have none : (mchangerNew config).tdrives.length = 0 := rfl
  rw [none, Nat.zero_add] at isLength
  have distinct := (addTdrives_counted (mchangerNew_counted config) calls).distinct_iff
    (isConfig.symm ▸ slots) (isConfig.symm ▸ ieports) (by omega)
  rw [distinct, isConfig, Mchanger.describesInside_iff, isLength]
  omega

/-- A library of 24 slots and two ports. -/
def smallConfig : LibraryConfig := ⟨1, "vtl", "serial", 1, 24, 2, false, false⟩

/-- A drive. -/
def sampleTdrive : Tdrive := ⟨1, 1, "drive", "serial", fun _ => 0, fun _ => 0, 34⟩

/-- A small library with seven drives. -/
theorem addTdrives_bounds_seven :
    (addTdrives (mchangerNew smallConfig) (List.replicate 7 (some sampleTdrive))).library.Distinct ∧
      (addTdrives (mchangerNew smallConfig)
        (List.replicate 7 (some sampleTdrive))).DescribesInside :=
  (addTdrives_bounds_iff (by decide) (by decide) _).2 ⟨by decide, by decide⟩

/-- An eighth drive is added and described behind the array, and the slot number 64512 has the address
of the transport. -/
theorem addTdrives_out_of_bounds :
    7 ∈ (mchangerInitTapeMetadata (addTdrives (mchangerNew smallConfig)
        (List.replicate 8 (some sampleTdrive)))).driveInfo.map Prod.fst ∧
      ¬(mchangerNew { smallConfig with slots := 64513 }).library.Distinct := by
  constructor
  · decide
  · rw [(mchangerNew_counted _).distinct_iff (by decide) (by decide) (by decide)]
    decide

end VirtualTape
