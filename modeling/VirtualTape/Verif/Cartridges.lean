import VirtualTape.Verif.Conservation

/-!
# Cartridges of a library

New, loaded, deleted, exported and reloaded cartridges, and with them whole runs of a library: after
every sequence of operations none of which duplicates a cartridge, each cartridge is in one place.
-/

namespace VirtualTape

open Inventory

variable {n : ℕ} {layout : Layout n} {env : ChangerEnv n} {lib lib' : Library n} {i j : Fin n}
  {h k tapeId : ℕ} {tape : Tape}

/-! ## Free elements -/

/-- A free slot is empty. -/
theorem getFreeStorageElement_free (found : getFreeStorageElement layout lib = some i) :
    lib.tapes i = none ∧ layout.type i ≠ .mediumTransport := by
  have passes := List.find?_some found
  simp only [Bool.and_eq_true, beq_iff_eq, Option.isNone_iff_eq_none] at passes
  exact ⟨passes.1.2, by simp [passes.1.1]⟩

/-- A free port is empty. -/
theorem getFreeIeElement_free (found : getFreeIeElement layout lib = some i) :
    lib.tapes i = none ∧ layout.type i ≠ .mediumTransport := by
  have passes := List.find?_some found
  simp only [Bool.and_eq_true, beq_iff_eq, Option.isNone_iff_eq_none] at passes
  exact ⟨passes.2, by simp [passes.1]⟩

/-- An element that may be filled is empty, and not the transport. -/
theorem getFreeElement_free {eaddress volType : ℕ} {useFreeSlot : Bool}
    (found : getFreeElement layout env lib eaddress volType useFreeSlot = some i) :
    lib.tapes i = none ∧ layout.type i ≠ .mediumTransport := by
  unfold getFreeElement at found
  dsimp only at found
  split at found
  · rename_i asked isAsked
    obtain rfl : asked = i := Option.some.inj found
    split_ifs at isAsked
    rw [Option.filter_eq_some_iff] at isAsked
    have valid := isAsked.2
    simp only [elementAddressValidForVoltype, Bool.and_eq_true, bne_iff_ne,
      Option.isNone_iff_eq_none] at valid
    exact ⟨elementVcartridge_eq valid.1.1 ▸ valid.1.2, valid.1.1⟩
  · split at found
    · simp at found
    · rename_i slot isSlot
      have free := getFreeStorageElement_free isSlot
      split_ifs at found
      · obtain rfl : slot = i := Option.some.inj found
        exact free
      · cases port : getFreeIeElement layout lib with
        | none =>
          obtain rfl : slot = i := by simpa [port] using found
          exact free
        | some chosen =>
          obtain rfl : chosen = i := by simpa [port] using found
          exact getFreeIeElement_free port

/-- What the flags of a filled element are. -/
@[simp]
theorem fillFlags_fulls : (fillFlags layout lib i).fulls = Function.update lib.fulls i true := by
  simp [fillFlags]

/-- The flags do not say what an element holds. -/
@[simp]
theorem fillFlags_tapes : (fillFlags layout lib i).tapes = lib.tapes := by
  simp [fillFlags]

/-- The flags concern the element only. -/
@[simp]
theorem fillFlags_store : (fillFlags layout lib i).store = lib.store := rfl

/-- The bit does not decide whether a cartridge is allocated. -/
theorem setExported_isSome {exported : Bool} :
    ((lib.setExported h exported).tape k).isSome = (lib.tape k).isSome := by
  by_cases same : k = h
  · subst same
    simp [Library.setExported]
  · simp [Library.setExported, same]

namespace Library.Sound

/-- The bit does not change which numbers are unused. -/
theorem fresh_setExported (sound : lib.Sound layout) {exported : Bool} (above : lib.nextTape ≤ k) :
    (lib.setExported h exported).tape k = none := by
  have unused := sound.fresh k above
  rw [← Option.not_isSome_iff_eq_none, setExported_isSome]
  simp [unused]

/-- A new cartridge uses one number. -/
theorem fresh_alloc (sound : lib.Sound layout) (above : lib.nextTape + 1 ≤ k) :
    Function.update lib.tape lib.nextTape (some tape) k = none := by
  rw [Function.update_of_ne (by omega)]
  exact sound.fresh k (by omega)

/-- A number that is given up does not change which ones are unused. -/
theorem fresh_free (sound : lib.Sound layout) (above : lib.nextTape ≤ k) :
    Function.update lib.tape h none k = none := by
  by_cases same : k = h
  · simp [same]
  · rw [Function.update_of_ne same]
    exact sound.fresh k above

/-! ## New cartridges -/

/-- A new cartridge in an empty element. -/
theorem allocated (sound : lib.Sound layout) (tape : Tape) (empty : lib.tapes i = none)
    (type : layout.type i ≠ .mediumTransport) (tapes : lib'.tapes = put lib.tapes i lib.nextTape)
    (fulls : lib'.fulls = Function.update lib.fulls i true)
    (store : lib'.store = (lib.alloc tape).store) : lib'.Sound layout := by
  have exports : lib'.exportList = lib.exportList := congrArg Prod.fst store
  have cartridges : lib'.tape = Function.update lib.tape lib.nextTape (some tape) :=
    congrArg (·.2.1) store
  have next : lib'.nextTape = lib.nextTape + 1 := congrArg (·.2.2) store
  obtain ⟨nowhere, unlisted⟩ := sound.absent
  refine ⟨tapes ▸ sound.single.put nowhere, ?_, exports ▸ sound.listed, ?_, ?_,
    tapes ▸ sound.transport_put type, ?_⟩
  · intro h exported
    rw [exports] at exported
    rw [tapes, holds_put empty]
    rintro (rfl | held)
    · exact unlisted exported
    · exact sound.apart h exported held
  · intro h
    rw [cartridges, tapes, holds_put empty, exports]
    by_cases isNew : h = lib.nextTape
    · simp [isNew]
    · simp [isNew, sound.known h]
  · rw [tapes, fulls]
    exact sound.full_put
  · intro h above
    rw [cartridges]
    exact sound.fresh_alloc (next ▸ above)

/-- A new cartridge that is exported. -/
theorem allocatedExported (sound : lib.Sound layout) :
    ({ lib.alloc tape with exportList := lib.nextTape :: lib.exportList }
      : Library n).Sound layout := by
  obtain ⟨nowhere, unlisted⟩ := sound.absent
  refine ⟨sound.single, ?_, List.nodup_cons.2 ⟨unlisted, sound.listed⟩, ?_, sound.full,
    sound.transport, ?_⟩
  · intro h exported
    rcases List.mem_cons.1 exported with rfl | old
    · exact nowhere
    · exact sound.apart h old
  · intro h
    change (Function.update lib.tape lib.nextTape (some tape) h).isSome = true ↔
      Holds lib.tapes h ∨ h ∈ lib.nextTape :: lib.exportList
    by_cases isNew : h = lib.nextTape
    · simp [isNew]
    · simp [isNew, sound.known h]
  · intro h above
    exact sound.fresh_alloc above

/-- `mchanger_new_vcartridge` keeps a library sound. -/
theorem new (sound : lib.Sound layout) {useFreeSlot : Bool} :
    (mchangerNewVcartridge layout env lib tape useFreeSlot).2.Sound layout := by
  unfold mchangerNewVcartridge
  cases found : getFreeElement layout env lib 0 tape.make useFreeSlot with
  | none => exact sound
  | some i =>
    obtain ⟨empty, type⟩ := getFreeElement_free found
    dsimp only
    split_ifs
    · exact sound
    · apply sound.allocated tape empty type
      · simp [put]
        rfl
      · simp
        rfl
      · simp

/-- `mchanger_load_vcartridge` keeps a library sound. -/
theorem load (sound : lib.Sound layout) {eaddress : ℕ} :
    (mchangerLoadVcartridge layout env lib tape eaddress).2.Sound layout := by
  unfold mchangerLoadVcartridge
  cases found : getFreeElement layout env lib eaddress tape.make true with
  | none => exact sound
  | some i =>
    obtain ⟨empty, type⟩ := getFreeElement_free found
    dsimp only
    split_ifs
    · exact sound
    · exact sound.allocatedExported
    · apply sound.allocated tape empty type
      · rw [fillFlags_tapes]
        exact loadElement_tapes_empty (show (lib.alloc tape).tapes i = none from empty)
      · rw [fillFlags_fulls, loadElement_fulls]
        rfl
      · simp

/-! ## Cartridges that leave -/

/-- A cartridge that leaves its element for good. -/
theorem freed (sound : lib.Sound layout) (here : lib.tapes i = some h)
    (tapes : lib'.tapes = take lib.tapes i)
    (fulls : lib'.fulls = Function.update lib.fulls i false)
    (store : lib'.store = (lib.tapeFree h).store) : lib'.Sound layout := by
  have exports : lib'.exportList = lib.exportList := congrArg Prod.fst store
  have cartridges : lib'.tape = Function.update lib.tape h none := congrArg (·.2.1) store
  have next : lib'.nextTape = lib.nextTape := congrArg (·.2.2) store
  refine ⟨tapes ▸ sound.single.take, ?_, exports ▸ sound.listed, ?_, ?_,
    tapes ▸ sound.transport_take, ?_⟩
  · intro k exported
    rw [exports] at exported
    rw [tapes, sound.single.holds_take here]
    exact fun held => sound.apart k exported held.2
  · intro k
    rw [cartridges, tapes, sound.single.holds_take here, exports]
    by_cases same : k = h
    · subst same
      have unlisted : k ∉ lib.exportList := fun exported => sound.apart k exported ⟨i, here⟩
      simp [unlisted]
    · simp [same, sound.known k]
  · rw [tapes, fulls]
    exact sound.full_take
  · intro k above
    rw [cartridges]
    exact sound.fresh_free (next ▸ above)

/-- An exported cartridge that leaves for good. -/
theorem freedExported (sound : lib.Sound layout) (exported : h ∈ lib.exportList) :
    ({ lib.tapeFree h with exportList := lib.exportList.erase h } : Library n).Sound layout := by
  have nowhere := sound.apart h exported
  refine ⟨sound.single, fun k found => sound.apart k (List.mem_of_mem_erase found),
    sound.listed.erase h, ?_, sound.full, sound.transport, ?_⟩
  · intro k
    change (Function.update lib.tape h none k).isSome = true ↔
      Holds lib.tapes k ∨ k ∈ lib.exportList.erase h
    rw [sound.listed.mem_erase_iff]
    by_cases same : k = h
    · subst same
      simp [nowhere]
    · simp [same, sound.known k]
  · intro k above
    exact sound.fresh_free above

/-- `mchanger_delete_vcartridge` keeps a library sound. -/
theorem delete (sound : lib.Sound layout) (calm : env.Calm) :
    (mchangerDeleteVcartridge layout env lib tapeId).2.Sound layout := by
  unfold mchangerDeleteVcartridge
  split
  · rename_i i found
    have matching := List.find?_some found
    obtain ⟨h, inElement, -⟩ := (Option.any_eq_true _ _).1 matching
    have here : lib.tapes i = some h := elementVcartridge_some inElement
    dsimp only
    rw [Library.element_tape, here, Option.getD_some]
    split_ifs
    · obtain ⟨unloaded, isUnloaded⟩ : ∃ unloaded, tdriveUnloadTape env lib i = (true, unloaded) :=
        ⟨_, Prod.ext (tdriveUnloadTape_calm calm) rfl⟩
      obtain ⟨tapes, fulls, store⟩ := tdriveUnloadTape_done isUnloaded
      rw [isUnloaded]
      apply sound.freed here
      · rw [Library.tapes_update]
        exact (Function.update_eq_self i unloaded.tapes).trans tapes
      · rw [Library.fulls_update]
        exact congrArg (Function.update · i false) fulls
      · have exports : unloaded.exportList = lib.exportList := congrArg Prod.fst store
        have cartridges : unloaded.tape = lib.tape := congrArg (·.2.1) store
        have next : unloaded.nextTape = lib.nextTape := congrArg (·.2.2) store
        simp [Library.store, Library.tapeFree, Library.update, exports, cartridges, next]
    · apply sound.freed here
      · rw [Library.tapes_update]
        rfl
      · rw [Library.fulls_update]
        rfl
      · rfl
  · split
    · rename_i h found
      exact sound.freedExported (List.mem_of_find?_eq_some found)
    · exact sound

/-! ## Exported cartridges -/

/-- One round of the export scan keeps a library sound. -/
theorem exportElement (sound : lib.Sound layout) (calm : env.Calm) (i : Fin n) :
    (exportElement layout env lib i).Sound layout := by
  unfold VirtualTape.exportElement
  cases inElement : elementVcartridge layout lib i with
  | none => exact sound
  | some h =>
    have here : lib.tapes i = some h := elementVcartridge_some inElement
    dsimp only
    rw [calm.writes]
    split_ifs
    · exact sound
    -- only the second branch without failure is left
    · simp_all
    have unlisted : h ∉ lib.exportList := fun exported => sound.apart h exported ⟨i, here⟩
    have held (k : ℕ) := sound.single.holds_take here (k := k)
    set after := ({ lib.setExported h true with exportList := h :: lib.exportList }
      : Library n).update i fun e => { e with tape := none, full := false, impexp := false }
      with isAfter
    have tapes : after.tapes = take lib.tapes i := by
      rw [isAfter, Library.tapes_update]
      rfl
    have fulls : after.fulls = Function.update lib.fulls i false := by
      rw [isAfter, Library.fulls_update]
      rfl
    refine ⟨tapes ▸ sound.single.take, ?_, List.nodup_cons.2 ⟨unlisted, sound.listed⟩, ?_, ?_,
      tapes ▸ sound.transport_take, ?_⟩
    · intro k exported
      rw [tapes, held k]
      rcases List.mem_cons.1 exported with rfl | old
      · exact fun both => both.1 rfl
      · exact fun both => sound.apart k old both.2
    · intro k
      rw [tapes, held k]
      change ((lib.setExported h true).tape k).isSome = true ↔ _ ∨ k ∈ h :: lib.exportList
      rw [setExported_isSome, sound.known k, List.mem_cons]
      by_cases same : k = h
      · subst same
        simp [show Holds lib.tapes k from ⟨i, here⟩]
      · simp [same]
    · rw [tapes, fulls]
      exact sound.full_take
    · intro k above
      exact sound.fresh_setExported above

/-- The export scan keeps a library sound. -/
theorem info (sound : lib.Sound layout) (calm : env.Calm) :
    (mchangerCheckForExportedVolumes layout env lib).Sound layout := by
  unfold mchangerCheckForExportedVolumes
  induction List.finRange n generalizing lib with
  | nil => exact sound
  | cons i rest ih => exact ih (sound.exportElement calm i)

/-- `mchanger_reload_export_vcartridge` keeps a library sound. -/
theorem reload (sound : lib.Sound layout) (calm : env.Calm) :
    (mchangerReloadExportVcartridge layout env lib tapeId).2.Sound layout := by
  unfold mchangerReloadExportVcartridge
  cases found : lib.exportList.find? (hasTapeId lib tapeId) with
  | none => exact sound
  | some h =>
    cases slot : getFreeStorageElement layout lib with
    | none => exact sound
    | some i =>
      obtain ⟨empty, type⟩ := getFreeStorageElement_free slot
      have exported := List.mem_of_find?_eq_some found
      have nowhere := sound.apart h exported
      dsimp only
      rw [calm.writes, if_neg Bool.false_ne_true]
      set after := fillFlags layout
        ({ lib.setExported h false with exportList := lib.exportList.erase h }.update i fun e =>
          { e with tape := some h }) i with isAfter
      have tapes : after.tapes = put lib.tapes i h := by
        rw [isAfter, fillFlags_tapes]
        rw [Library.tapes_update]
        rfl
      have fulls : after.fulls = Function.update lib.fulls i true := by
        rw [isAfter, fillFlags_fulls, Library.fulls_update]
        exact congrArg (Function.update · i true) (Function.update_eq_self i lib.fulls)
      refine ⟨tapes ▸ sound.single.put nowhere, ?_, sound.listed.erase h, ?_, ?_,
        tapes ▸ sound.transport_put type, ?_⟩
      · intro k found
        change k ∈ lib.exportList.erase h at found
        rw [sound.listed.mem_erase_iff] at found
        rw [tapes, holds_put empty]
        rintro (same | held)
        · exact found.1 same
        · exact sound.apart k found.2 held
      · intro k
        change ((lib.setExported h false).tape k).isSome = true ↔
          _ ∨ k ∈ lib.exportList.erase h
        rw [setExported_isSome, sound.known k, tapes, holds_put empty, sound.listed.mem_erase_iff]
        by_cases same : k = h
        · subst same
          simp [exported]
        · simp [same]
      · rw [tapes, fulls]
        exact sound.full_put
      · intro k above
        exact sound.fresh_setExported above

/-! ## Runs -/

/-- An event keeps a library sound exactly if it does not duplicate a cartridge. -/
theorem event_iff (sound : lib.Sound layout) (calm : env.Calm) (event : ChangerEvent) :
    (changerEvent layout env lib event).Sound layout ↔ duplicates layout env lib event = false := by
  cases event with
  | move cmd => exact iff_of_true (sound.move calm cmd).1 rfl
  | exchange cmd => exact (sound.exchange_iff calm cmd).1
  | new tape useFreeSlot => exact iff_of_true sound.new rfl
  | load tape eaddress => exact iff_of_true sound.load rfl
  | delete tapeId => exact iff_of_true (sound.delete calm) rfl
  | info => exact iff_of_true (sound.info calm) rfl
  | reload tapeId => exact iff_of_true (sound.reload calm) rfl

end Library.Sound

/-- The events that move media. -/
def ChangerEvent.movesMedia : ChangerEvent → Bool
  | .move _ | .exchange _ => true
  | _ => false

/-- Moves of media only rearrange the cartridges, unless they duplicate one. -/
theorem Library.Sound.rearranges (sound : lib.Sound layout) (calm : env.Calm)
    {event : ChangerEvent} (moves : event.movesMedia = true)
    (once : duplicates layout env lib event = false) :
    lib.Rearranged (changerEvent layout env lib event) := by
  cases event with
  | move cmd => exact (sound.move calm cmd).2
  | exchange cmd => exact (sound.exchange_iff calm cmd).2 once
  | _ => simp [ChangerEvent.movesMedia] at moves

/-- A step in calm circumstances that does not duplicate a cartridge. -/
def ConservingStep (layout : Layout n) (lib : Library n) (label : ChangerEnv n × ChangerEvent)
    (after : Library n) : Prop :=
  ChangerStep layout lib label after ∧ label.1.Calm ∧ duplicates layout label.1 lib label.2 = false

/-- Such steps keep a library sound. -/
theorem Run.library_sound {labels : List (ChangerEnv n × ChangerEvent)}
    (run : Run (ConservingStep layout) (.empty n) labels lib) : lib.Sound layout :=
  run.invariant Library.empty_sound fun sound step => by
    rw [step.1]
    exact (sound.event_iff step.2.1 _).2 step.2.2

/-- After every sequence of operations none of which duplicates a cartridge, every cartridge is in
exactly one place and the flags say where; the next operation keeps it so exactly if it does not
duplicate a cartridge, and if it moves media it then only rearranges the cartridges. -/
theorem library_conserves_iff {labels : List (ChangerEnv n × ChangerEvent)}
    (run : Run (ConservingStep layout) (.empty n) labels lib) :
    lib.Sound layout ∧ ∀ env event, env.Calm →
      ((changerEvent layout env lib event).Sound layout ↔
        duplicates layout env lib event = false) ∧
      (event.movesMedia = true → duplicates layout env lib event = false →
        lib.Rearranged (changerEvent layout env lib event)) := by
  have sound := run.library_sound
  exact ⟨sound, fun env event calm => ⟨sound.event_iff calm event, sound.rearranges calm⟩⟩

/-- Circumstances without failures, in which every drive takes every make. -/
def calmEnv (n : ℕ) : ChangerEnv n where
  mediaValid _ _ := true
  prevents _ := false
  unloadFails _ := false
  writeFails _ := false
  initiators := false
  tapeFails := false

/-- They are calm. -/
theorem calmEnv_calm : (calmEnv n).Calm := ⟨fun _ => rfl, fun _ => rfl, fun _ => rfl⟩

/-- A library with two slots and a drive. -/
def smallLayout : Layout 4 := Layout.new 2 0 1

/-- A cartridge. -/
def someTape : Tape := ⟨7, 0, false, false⟩

/-- The library with a cartridge in its drive. -/
def driveLoaded : Library 4 :=
  changerEvent smallLayout (calmEnv 4) (.empty 4) (.load someTape 256)

/-- The run that loads it. -/
theorem driveLoaded_run :
    Run (ConservingStep smallLayout) (.empty 4) [(calmEnv 4, .load someTape 256)] driveLoaded :=
  .snoc .nil ⟨rfl, calmEnv_calm, rfl⟩

/-- MOVE MEDIUM from the drive to the first slot keeps the library sound. -/
theorem library_conserves_move :
    (changerEvent smallLayout (calmEnv 4) driveLoaded (.move ⟨0, 256, 1024, false⟩)).Sound
      smallLayout :=
  ((library_conserves_iff driveLoaded_run).2 _ _ calmEnv_calm).1.2 rfl

/-- EXCHANGE MEDIUM from the drive to itself and on to the first slot leaves the cartridge in the
drive and in the slot. -/
theorem mchangerCmdExchangeMedium_duplicates :
    ∃ labels lib, Run (ConservingStep smallLayout) (.empty 4) labels lib ∧
      ∃ after : Library 4, after = changerEvent smallLayout (calmEnv 4) lib
        (.exchange ⟨0, 256, 256, 1024, false, false⟩) ∧
        elementVcartridge smallLayout after 3 = some 0 ∧
        elementVcartridge smallLayout after 1 = some 0 := by
  refine ⟨_, driveLoaded, driveLoaded_run, _, rfl, ?_, ?_⟩ <;> decide

end VirtualTape
