import VirtualTape.Verif.Cartridges

/-!
# Failed moves

What a command leaves behind when a drive does not unload or a cartridge's metadata is not written.
MOVE MEDIUM changes nothing. EXCHANGE MEDIUM drops the cartridge of a source drive it has unloaded
before the first destination fails, and the export scan marks a cartridge before the write.
-/

namespace VirtualTape

open Inventory

variable {n : ℕ} {layout : Layout n} {env : ChangerEnv n} {lib lib' lib'' : Library n} {i j : Fin n}
  {h k tapeId : ℕ} {tape : Tape}

/-- Every cartridge is where it was, and marked as it was. -/
structure Library.SameMedia (layout : Layout n) (lib lib' : Library n) : Prop where
  /-- The elements, drives included, hold the same cartridges. -/
  places : ∀ i, elementVcartridge layout lib' i = elementVcartridge layout lib i
  /-- The same cartridges are exported. -/
  exports : lib'.exportList = lib.exportList
  /-- They have the same bits. -/
  bits : ∀ h, (lib'.tapeOf h).exported = (lib.tapeOf h).exported

/-- Nothing changed. -/
theorem Library.SameMedia.refl : lib.SameMedia layout lib :=
  ⟨fun _ => rfl, rfl, fun _ => rfl⟩

/-! ## MOVE MEDIUM -/

/-- The moves of MOVE MEDIUM fail only at the unload, before anything changed. -/
theorem moveElements_failed {source destination : Fin n} {reason : ChangerSense}
    (failed : (moveElements layout env lib source destination h).1 = some reason) :
    (moveElements layout env lib source destination h).2 = lib := by
  unfold moveElements at failed ⊢
  cases unloaded : unloadElement layout env lib source with
  | mk done after =>
    cases done with
    | true => simp [unloaded] at failed
    | false =>
      have unchanged := unloadElement_failed (show (unloadElement layout env lib source).1 = false
        by rw [unloaded])
      rw [unloaded] at unchanged
      exact unchanged

/-- A MOVE MEDIUM that fails, for whatever reason, changes nothing. -/
theorem mchangerCmdMoveMedium_failed {cmd : MoveCmd} {reason : ChangerSense}
    (failed : (mchangerCmdMoveMedium layout env lib cmd).1 = some reason) :
    (mchangerCmdMoveMedium layout env lib cmd).2 = lib := by
  unfold mchangerCmdMoveMedium at failed ⊢
  split_ifs with zero
  · rfl
  rw [if_neg zero] at failed
  split
  · rename_i source destination atSource atDestination
    simp only [atSource, atDestination] at failed
    split_ifs with same
    · rfl
    rw [if_neg same] at failed
    split
    · rfl
    · rename_i h here
      simp only [here] at failed
      split
      · rfl
      · rename_i passes
        simp only [passes] at failed
        exact moveElements_failed failed
  · rfl

/-! ## EXCHANGE MEDIUM -/

/-- The source of an EXCHANGE MEDIUM is a drive, and its unload succeeds. -/
def strandsSource (layout : Layout n) (env : ChangerEnv n) (lib : Library n) (cmd : ExchangeCmd) :
    Bool :=
  (mchangerGetElement layout cmd.source).any fun source =>
    layout.type source == .dataTransfer &&
      (!(lib.element source).loaded || (!env.prevents source && !env.unloadFails source))

/-- A drive with a cartridge unloads it unless somebody prevents it or the unload fails. -/
theorem tdriveUnloadTape_succeeds (here : lib.tapes i = some h) :
    (tdriveUnloadTape env lib i).1 =
      (!(lib.element i).loaded || (!env.prevents i && !env.unloadFails i)) := by
  unfold tdriveUnloadTape
  rw [Library.element_tape, here]
  cases (lib.element i).loaded <;> cases env.prevents i <;> cases env.unloadFails i <;> rfl

/-- When a drive fails to unload, the moves of EXCHANGE MEDIUM have changed nothing, or have emptied
the source. -/
theorem exchangeElements_failed {source firstDest secondDest : Fin n} {x y : ℕ}
    {reason : ChangerSense}
    (failed : (exchangeElements layout env lib source firstDest secondDest x y).1 = some reason) :
    (layout.type source = .dataTransfer ∧ (tdriveUnloadTape env lib source).1 = true ∧
        (exchangeElements layout env lib source firstDest secondDest x y).2.tapes source = none) ∨
      (¬ (layout.type source = .dataTransfer ∧ (tdriveUnloadTape env lib source).1 = true) ∧
        (exchangeElements layout env lib source firstDest secondDest x y).2 = lib) := by
  unfold exchangeElements at failed ⊢
  cases unloaded : unloadElement layout env lib source with
  | mk done one =>
    cases done with
    | false =>
      have unchanged := unloadElement_failed (show (unloadElement layout env lib source).1 = false
        by rw [unloaded])
      rw [unloaded] at unchanged
      refine .inr ⟨fun both => ?_, unchanged⟩
      have succeeded : (unloadElement layout env lib source).1 = true := by
        rw [unloadElement, if_pos both.1, both.2]
      simp [unloaded] at succeeded
    | true =>
      simp only [unloaded] at failed
      cases second : unloadElement layout env one firstDest with
      | mk done two =>
        cases done with
        | true => simp [second] at failed
        | false =>
          have unchanged := unloadElement_failed (show (unloadElement layout env one firstDest).1 =
            false by rw [second])
          rw [second] at unchanged
          by_cases drive : layout.type source = .dataTransfer
          · have tapes := (unloadElement_done unloaded).1
            rw [if_pos drive] at tapes
            refine .inl ⟨drive, ?_, ?_⟩
            · rw [unloadElement, if_pos drive] at unloaded
              rw [unloaded]
            · simp only [second]
              rw [show two = one from unchanged, tapes, take_same]
          · refine .inr ⟨fun both => drive both.1, ?_⟩
            rw [unloadElement, if_neg drive] at unloaded
            simp only [second]
            exact unchanged.trans (congrArg Prod.snd unloaded).symm

/-- They have changed nothing exactly if they have not unloaded a source drive. -/
theorem exchangeElements_failed_iff {source firstDest secondDest : Fin n} {x y : ℕ}
    {reason : ChangerSense} (type : layout.type source ≠ .mediumTransport)
    (here : lib.tapes source = some x)
    (failed : (exchangeElements layout env lib source firstDest secondDest x y).1 = some reason) :
    lib.SameMedia layout (exchangeElements layout env lib source firstDest secondDest x y).2 ↔
      (layout.type source == .dataTransfer && (tdriveUnloadTape env lib source).1) = false := by
  rcases exchangeElements_failed failed with ⟨drive, done, emptied⟩ | ⟨kept, unchanged⟩
  · refine iff_of_false (fun same => ?_) (by simp [drive, done])
    have stays := same.places source
    rw [elementVcartridge_eq type, elementVcartridge_eq type, emptied, here] at stays
    simp at stays
  · rw [unchanged]
    refine iff_of_true .refl ?_
    by_contra strands
    simp only [Bool.not_eq_false, Bool.and_eq_true, beq_iff_eq] at strands
    exact kept strands

/-- No check gives the failure of an unload as its reason. -/
theorem exchangeSense_reason {source firstDest secondDest : Fin n} {x y : ℕ} {cmd : ExchangeCmd}
    {reason : ChangerSense}
    (sense : exchangeSense layout env lib cmd source firstDest secondDest x y = some reason) :
    reason ≠ .unloadTapeFailure := by
  rintro rfl
  unfold exchangeSense at sense
  cases transport : mchangerGetElement layout cmd.mediumTransport with
  | none =>
    simp only [transport] at sense
    split_ifs at sense <;> simp at sense
  | some transportElement =>
    simp only [transport] at sense
    split_ifs at sense <;> simp at sense

/-- An EXCHANGE MEDIUM in which a drive fails to unload changes nothing exactly if it has not
unloaded a source drive. -/
theorem mchangerCmdExchangeMedium_failed_iff {cmd : ExchangeCmd}
    (failed : (mchangerCmdExchangeMedium layout env lib cmd).1 = some .unloadTapeFailure) :
    lib.SameMedia layout (mchangerCmdExchangeMedium layout env lib cmd).2 ↔
      strandsSource layout env lib cmd = false := by
  unfold mchangerCmdExchangeMedium at failed ⊢
  by_cases zero : cmd.source = 0 ∨ cmd.firstDest = 0 ∨ cmd.secondDest = 0
  · simp [if_pos zero] at failed
  rw [if_neg zero] at failed ⊢
  have sourceZero : cmd.source ≠ 0 := fun is => zero (.inl is)
  cases atSource : mchangerGetElement layout cmd.source with
  | none => simp [atSource] at failed
  | some source =>
    cases atFirst : mchangerGetElement layout cmd.firstDest with
    | none => simp [atSource, atFirst] at failed
    | some firstDest =>
      cases atSecond : mchangerGetElement layout cmd.secondDest with
      | none => simp [atSource, atFirst, atSecond] at failed
      | some secondDest =>
        have type := mchangerGetElement_type atSource sourceZero
        simp only [atSource, atFirst, atSecond] at failed
        cases here : elementVcartridge layout lib source with
        | none => simp [here] at failed
        | some x =>
          cases there : elementVcartridge layout lib firstDest with
          | none => simp [here, there] at failed
          | some y =>
            simp only [here, there] at failed ⊢
            cases sense : exchangeSense layout env lib cmd source firstDest secondDest x y with
            | some reason =>
              simp only [sense, Option.some.injEq] at failed
              exact absurd failed (exchangeSense_reason sense)
            | none =>
              simp only [sense] at failed ⊢
              rw [elementVcartridge_eq type] at here
              have asked : strandsSource layout env lib cmd =
                  (layout.type source == .dataTransfer &&
                    (tdriveUnloadTape env lib source).1) := by
                simp [strandsSource, atSource, tdriveUnloadTape_succeeds here]
              rw [asked]
              exact exchangeElements_failed_iff type here failed

/-! ## The export scan -/

/-- The export scan looks at a cartridge in an element. -/
def Scans (layout : Layout n) (lib : Library n) (i : Fin n) (h : ℕ) : Prop :=
  layout.type i = .importExport ∧ lib.tapes i = some h ∧ (lib.element i).impexp = false

/-- What the export scan keeps of a cartridge whose write fails. -/
structure Library.Undisturbed (layout : Layout n) (h : ℕ) (lib lib' : Library n) : Prop where
  /-- It is in the same elements. -/
  places : ∀ j, lib'.tapes j = some h ↔ lib.tapes j = some h
  /-- They are unchanged. -/
  elements : ∀ j, lib.tapes j = some h → lib'.element j = lib.element j
  /-- It is exported if it was. -/
  exports : h ∈ lib'.exportList ↔ h ∈ lib.exportList
  /-- The drives are unchanged. -/
  drives : ∀ j, layout.type j = .dataTransfer → lib'.element j = lib.element j

namespace Library.Undisturbed

/-- Nothing changed. -/
theorem refl : lib.Undisturbed layout h lib :=
  ⟨fun _ => Iff.rfl, fun _ _ => rfl, Iff.rfl, fun _ _ => rfl⟩

/-- One change after another. -/
theorem trans (first : lib.Undisturbed layout h lib') (second : lib'.Undisturbed layout h lib'') :
    lib.Undisturbed layout h lib'' where
  places j := (second.places j).trans (first.places j)
  elements j here :=
    (second.elements j ((first.places j).2 here)).trans (first.elements j here)
  exports := second.exports.trans first.exports
  drives j drive := (second.drives j drive).trans (first.drives j drive)

/-- The scan still looks at the cartridge. -/
theorem scans (kept : lib.Undisturbed layout h lib') (scanned : Scans layout lib i h) :
    Scans layout lib' i h := by
  obtain ⟨type, here, port⟩ := scanned
  exact ⟨type, (kept.places i).2 here, by rw [kept.elements i here, port]⟩

end Library.Undisturbed

/-- One round of the scan, as far as it looks at a cartridge. -/
theorem exportElement_cases (layout : Layout n) (env : ChangerEnv n) (lib : Library n) (i : Fin n) :
    exportElement layout env lib i = lib ∨
      ∃ k, Scans layout lib i k ∧
        ((env.writeFails k = true ∧ exportElement layout env lib i = lib.setExported k true) ∨
          (env.writeFails k = false ∧ exportElement layout env lib i =
            ({ lib.setExported k true with exportList := k :: lib.exportList } : Library n).update i
              fun e => { e with tape := none, full := false, impexp := false })) := by
  unfold exportElement
  cases inElement : elementVcartridge layout lib i with
  | none => exact .inl rfl
  | some k =>
    dsimp only
    split_ifs with skipped fails
    · exact .inl rfl
    all_goals
      obtain ⟨type, port⟩ := not_or.1 skipped
      rw [not_not] at type
      have here : lib.tapes i = some k :=
        elementVcartridge_eq (show layout.type i ≠ .mediumTransport by simp [type]) ▸ inElement
      have scanned : Scans layout lib i k := ⟨type, here, by simpa using port⟩
    · exact .inr ⟨k, scanned, .inl ⟨fails, rfl⟩⟩
    · exact .inr ⟨k, scanned, .inr ⟨by simpa using fails, rfl⟩⟩

/-- One round does not disturb a cartridge whose write fails. -/
theorem exportElement_undisturbed (layout : Layout n) (lib : Library n)
    (fails : env.writeFails h = true) (i : Fin n) :
    lib.Undisturbed layout h (exportElement layout env lib i) := by
  rcases exportElement_cases layout env lib i with
    same | ⟨k, ⟨type, here, -⟩, ⟨-, isAfter⟩ | ⟨writes, isAfter⟩⟩
  · rw [same]
    exact .refl
  · rw [isAfter]
    exact ⟨fun _ => Iff.rfl, fun _ _ => rfl, Iff.rfl, fun _ _ => rfl⟩
  · have other : h ≠ k := by
      rintro rfl
      simp [fails] at writes
    have notHere (j : Fin n) (found : lib.tapes j = some h) : j ≠ i := by
      rintro rfl
      rw [here] at found
      exact other (Option.some.inj found).symm
    rw [isAfter]
    refine ⟨fun j => ?_, fun j found => ?_, ?_, fun j drive => ?_⟩
    · rw [Library.tapes_update]
      by_cases same : j = i
      · subst same
        simp [here, other.symm]
      · rw [Function.update_of_ne same]
        rfl
    · exact Function.update_of_ne (notHere j found) _ _
    · change h ∈ k :: lib.exportList ↔ h ∈ lib.exportList
      simp [other]
    · refine Function.update_of_ne ?_ _ _
      rintro rfl
      rw [type] at drive
      simp at drive

/-- A bit that is set stays set during a round. -/
theorem exportElement_marked (marked : (lib.tapeOf h).exported = true) (i : Fin n) :
    ((exportElement layout env lib i).tapeOf h).exported = true := by
  have afterSet (k : ℕ) : ((lib.setExported k true).tapeOf h).exported = true := by
    by_cases same : h = k
    · subst same
      cases found : lib.tape h with
      | none => simp [Library.tapeOf, found] at marked
      | some tape => simp [Library.tapeOf, Library.setExported, found]
    · simpa [Library.tapeOf, Library.setExported, same] using marked
  rcases exportElement_cases layout env lib i with
    same | ⟨k, -, ⟨-, isAfter⟩ | ⟨-, isAfter⟩⟩
  · rw [same]
    exact marked
  · rw [isAfter]
    exact afterSet k
  · rw [isAfter]
    exact afterSet k

/-- A round that looks at a cartridge marks it. -/
theorem exportElement_marks (scanned : Scans layout lib i h) (allocated : lib.tape h = some tape)
    (fails : env.writeFails h = true) :
    ((exportElement layout env lib i).tapeOf h).exported = true := by
  obtain ⟨type, here, port⟩ := scanned
  have inElement : elementVcartridge layout lib i = some h := by
    rw [elementVcartridge_eq (by simp [type]), here]
  simp [exportElement, inElement, type, port, fails, Library.tapeOf, Library.setExported, allocated]

/-- A round keeps what is allocated. -/
theorem exportElement_allocated (i : Fin n) :
    ((exportElement layout env lib i).tape h).isSome = (lib.tape h).isSome := by
  rcases exportElement_cases layout env lib i with
    same | ⟨k, -, ⟨-, isAfter⟩ | ⟨-, isAfter⟩⟩
  · rw [same]
  · rw [isAfter]
    exact setExported_isSome
  · rw [isAfter]
    exact setExported_isSome

/-- Rounds over some elements do not disturb a cartridge whose write fails, and mark it if one of
them looks at it. -/
theorem exportElements_failed (layout : Layout n) (fails : env.writeFails h = true)
    (elements : List (Fin n)) (lib : Library n) :
    lib.Undisturbed layout h (elements.foldl (exportElement layout env) lib) ∧
      ((lib.tape h).isSome = true →
        ((lib.tapeOf h).exported = true ∨ ∃ i ∈ elements, Scans layout lib i h) →
        ((elements.foldl (exportElement layout env) lib).tapeOf h).exported = true) := by
  induction elements generalizing lib with
  | nil =>
    refine ⟨.refl, fun _ marked => ?_⟩
    simpa using marked
  | cons i rest ih =>
    obtain ⟨keptRest, marksRest⟩ := ih (exportElement layout env lib i)
    have kept := exportElement_undisturbed layout lib fails i
    refine ⟨kept.trans keptRest, fun allocated marked => ?_⟩
    apply marksRest
    · rw [exportElement_allocated]
      exact allocated
    · obtain ⟨tape, isTape⟩ := Option.isSome_iff_exists.1 allocated
      rcases marked with marked | ⟨j, member, scanned⟩
      · exact .inl (exportElement_marked marked i)
      · rcases List.mem_cons.1 member with rfl | later
        · exact .inl (exportElement_marks scanned isTape fails)
        · exact .inr ⟨j, later, kept.scans scanned⟩

/-- The export scan leaves a cartridge whose write fails where it is, and its bit as it was exactly
if it was set. -/
theorem mchangerCheckForExportedVolumes_failed (fails : env.writeFails h = true)
    (allocated : lib.tape h = some tape) (scanned : ∃ i, Scans layout lib i h) :
    lib.Undisturbed layout h (mchangerCheckForExportedVolumes layout env lib) ∧
      (((mchangerCheckForExportedVolumes layout env lib).tapeOf h).exported =
          (lib.tapeOf h).exported ↔
        tape.exported = true) := by
  obtain ⟨kept, marks⟩ :=
    exportElements_failed layout fails (List.finRange n) lib
  obtain ⟨i, scansI⟩ := scanned
  have marked := marks (by simp [allocated]) (.inr ⟨i, List.mem_finRange i, scansI⟩)
  refine ⟨kept, ?_⟩
  unfold mchangerCheckForExportedVolumes
  rw [marked, Library.tapeOf, allocated, Option.getD_some]
  exact eq_comm

/-- A scan in which every write fails exports nothing. -/
theorem mchangerCheckForExportedVolumes_exports (fails : ∀ h, env.writeFails h = true) :
    (mchangerCheckForExportedVolumes layout env lib).exportList = lib.exportList := by
  unfold mchangerCheckForExportedVolumes
  induction List.finRange n generalizing lib with
  | nil => rfl
  | cons i rest ih =>
    rw [List.foldl_cons, ih]
    rcases exportElement_cases layout env lib i with
      same | ⟨k, -, ⟨-, isAfter⟩ | ⟨writes, -⟩⟩
    · rw [same]
    · rw [isAfter]
      rfl
    · simp [fails k] at writes

/-! ## Reloading -/

/-- A reload whose write fails leaves everything as it was exactly if the cartridge was marked as
exported. -/
theorem mchangerReloadExportVcartridge_failed_iff
    (found : lib.exportList.find? (hasTapeId lib tapeId) = some h)
    (slot : getFreeStorageElement layout lib = some i) (allocated : lib.tape h = some tape)
    (fails : env.writeFails h = true) :
    lib.SameMedia layout (mchangerReloadExportVcartridge layout env lib tapeId).2 ↔
      tape.exported = true := by
  have isAfter : (mchangerReloadExportVcartridge layout env lib tapeId).2 =
      (lib.setExported h false).setExported h true := by
    simp [mchangerReloadExportVcartridge, found, slot, fails]
  rw [isAfter]
  constructor
  · intro same
    have bit := same.bits h
    simp only [Library.tapeOf, Library.setExported, allocated, Function.update_self,
      Option.map_some, Option.getD_some] at bit
    exact bit.symm
  · intro marked
    refine ⟨fun _ => rfl, rfl, fun k => ?_⟩
    by_cases same : k = h
    · subst same
      simp [Library.tapeOf, Library.setExported, allocated, marked]
    · simp [Library.tapeOf, Library.setExported, same]

/-! ## All failures -/

/-- For every library: a MOVE MEDIUM in which a drive fails to unload changes nothing. An EXCHANGE
MEDIUM in which one does leaves all media as they were exactly if it has not unloaded a source
drive. The export scan leaves a cartridge whose write fails, and all drives, as they were, but its
bit only if it was set; and it exports nothing if every write fails. A reload whose write fails
leaves all media as they were exactly if the cartridge was marked as exported. -/
theorem failed_moves_iff (layout : Layout n) (env : ChangerEnv n) (lib : Library n) :
    (∀ cmd, (mchangerCmdMoveMedium layout env lib cmd).1 = some .unloadTapeFailure →
      (mchangerCmdMoveMedium layout env lib cmd).2 = lib) ∧
    (∀ cmd, (mchangerCmdExchangeMedium layout env lib cmd).1 = some .unloadTapeFailure →
      (lib.SameMedia layout (mchangerCmdExchangeMedium layout env lib cmd).2 ↔
        strandsSource layout env lib cmd = false)) ∧
    (∀ h tape, lib.tape h = some tape → env.writeFails h = true →
      (∃ i, Scans layout lib i h) →
      lib.Undisturbed layout h (mchangerCheckForExportedVolumes layout env lib) ∧
        (((mchangerCheckForExportedVolumes layout env lib).tapeOf h).exported =
            (lib.tapeOf h).exported ↔
          tape.exported = true)) ∧
    ((∀ h, env.writeFails h = true) →
      (mchangerCheckForExportedVolumes layout env lib).exportList = lib.exportList) ∧
    (∀ tapeId h tape i, lib.exportList.find? (hasTapeId lib tapeId) = some h →
      lib.tape h = some tape → getFreeStorageElement layout lib = some i →
      env.writeFails h = true →
      (lib.SameMedia layout (mchangerReloadExportVcartridge layout env lib tapeId).2 ↔
        tape.exported = true)) := by
  refine ⟨fun cmd => mchangerCmdMoveMedium_failed,
    fun cmd => mchangerCmdExchangeMedium_failed_iff, fun h tape allocated fails scanned => ?_,
    mchangerCheckForExportedVolumes_exports, fun tapeId h tape i found allocated slot fails => ?_⟩
  · exact mchangerCheckForExportedVolumes_failed fails allocated scanned
  · exact mchangerReloadExportVcartridge_failed_iff found slot allocated fails

/-- Circumstances in which one drive fails to unload and no write succeeds. -/
def failingEnv (drive : Fin n) : ChangerEnv n :=
  { calmEnv n with
    unloadFails := fun i => i == drive
    writeFails := fun _ => true }

/-- A library with a slot, a port and two drives. -/
def twoDrives : Layout 5 := Layout.new 1 1 2

/-- Both drives of the library hold a cartridge. -/
def drivesLoaded : Library 5 :=
  changerEvent twoDrives (calmEnv 5)
    (changerEvent twoDrives (calmEnv 5) (.empty 5) (.load someTape 256)) (.load someTape 257)

/-- MOVE MEDIUM from a drive that fails to unload changes nothing. -/
theorem failed_moves_drive :
    (mchangerCmdMoveMedium twoDrives (failingEnv 3) drivesLoaded ⟨0, 256, 1024, false⟩).2 =
      drivesLoaded :=
  (failed_moves_iff twoDrives (failingEnv 3) drivesLoaded).1 ⟨0, 256, 1024, false⟩ (by decide)

/-- EXCHANGE MEDIUM between two drives of which the second fails to unload loses the cartridge of
the first, and a cartridge that the host moved to a port is marked as exported when the write
fails. -/
theorem mchangerCmdExchangeMedium_loses :
    (∃ after : Library 5, after = (mchangerCmdExchangeMedium twoDrives (failingEnv 4) drivesLoaded
        ⟨0, 256, 257, 1024, false, false⟩).2 ∧
      elementVcartridge twoDrives drivesLoaded 3 = some 0 ∧
      (∀ i, elementVcartridge twoDrives after i ≠ some 0) ∧ 0 ∉ after.exportList) ∧
    ∃ before after : Library 5,
      before = changerEvent twoDrives (calmEnv 5) drivesLoaded (.move ⟨0, 256, 768, false⟩) ∧
      after = mchangerCheckForExportedVolumes twoDrives (failingEnv 4) before ∧
      elementVcartridge twoDrives after 2 = some 0 ∧
      (before.tapeOf 0).exported = false ∧ (after.tapeOf 0).exported = true := by
  refine ⟨⟨_, rfl, ?_, ?_, ?_⟩, _, _, rfl, rfl, ?_, ?_, ?_⟩ <;> decide

end VirtualTape
