import VirtualTape.Verif.Changer

/-!
# Cartridge conservation

Every cartridge of a library is in exactly one place, and an element is flagged as full exactly if
it holds one. Every operation keeps this but one: an EXCHANGE MEDIUM whose source and first
destination are the same drive and whose second destination is another element leaves the cartridge
in both.
-/

namespace VirtualTape

open Inventory

variable {n : ℕ} {layout : Layout n} {env : ChangerEnv n} {lib lib' : Library n} {i j : Fin n}
  {h k x y : ℕ} {source firstDest secondDest destination : Fin n} {tape : Tape}

/-- The transport is none of the other elements. -/
theorem Layout.ne_of_type (type : layout.type i ≠ .mediumTransport)
    (isTransport : layout.type j = .mediumTransport) : j ≠ i := by
  rintro rfl
  exact type isTransport

/-- Every cartridge is in exactly one place, and the flags say where. -/
structure Library.Sound (layout : Layout n) (lib : Library n) : Prop where
  /-- No cartridge is in two elements. -/
  single : Single lib.tapes
  /-- An exported cartridge is in no element. -/
  apart : ∀ h ∈ lib.exportList, ¬ Holds lib.tapes h
  /-- It is exported once. -/
  listed : lib.exportList.Nodup
  /-- The cartridges of the library are those in an element or exported. -/
  known : ∀ h, (lib.tape h).isSome = true ↔ Holds lib.tapes h ∨ h ∈ lib.exportList
  /-- The full flag is set exactly on the elements that hold a cartridge. -/
  full : ∀ i, lib.fulls i = (lib.tapes i).isSome
  /-- The transport holds none. -/
  transport : ∀ i, layout.type i = .mediumTransport → lib.tapes i = none
  /-- Numbers from the next one on are not used. -/
  fresh : ∀ h, lib.nextTape ≤ h → lib.tape h = none

/-- The same cartridges are in the elements, and everything else is as it was. -/
structure Library.Rearranged (lib lib' : Library n) : Prop where
  /-- Exports and cartridges are the same. -/
  store : lib'.store = lib.store
  /-- The elements hold the same cartridges. -/
  held : ∀ k, Holds lib'.tapes k ↔ Holds lib.tapes k

namespace Library

/-- Nothing moved. -/
theorem Rearranged.refl (lib : Library n) : lib.Rearranged lib := ⟨rfl, fun _ => Iff.rfl⟩

/-- A new library is sound. -/
theorem empty_sound : (Library.empty n).Sound layout where
  single _ _ _ found := by simp [tapes, Library.empty] at found
  apart := by simp [Library.empty]
  listed := List.nodup_nil
  known := by simp [Library.empty, Holds, tapes]
  full := by simp [fulls, tapes, Library.empty]
  transport := by simp [tapes, Library.empty]
  fresh := by simp [Library.empty]

namespace Sound

/-- A cartridge number not in use is nowhere. -/
theorem absent (sound : lib.Sound layout) :
    ¬ Holds lib.tapes lib.nextTape ∧ lib.nextTape ∉ lib.exportList := by
  have free := sound.fresh lib.nextTape (Nat.le_refl _)
  have nowhere := mt (sound.known lib.nextTape).2 (by simp [free])
  exact not_or.1 nowhere

/-- Moves that keep everything once, and the flags right, keep a library sound. -/
theorem of_rearranged (sound : lib.Sound layout) (moved : lib.Rearranged lib')
    (single : Single lib'.tapes) (full : ∀ i, lib'.fulls i = (lib'.tapes i).isSome)
    (transport : ∀ i, layout.type i = .mediumTransport → lib'.tapes i = none) :
    lib'.Sound layout := by
  have exports : lib'.exportList = lib.exportList := congrArg Prod.fst moved.store
  have cartridges : lib'.tape = lib.tape := congrArg (·.2.1) moved.store
  have next : lib'.nextTape = lib.nextTape := congrArg (·.2.2) moved.store
  refine ⟨single, ?_, ?_, ?_, full, transport, ?_⟩
  · intro h exported
    rw [moved.held]
    exact sound.apart h (exports ▸ exported)
  · rw [exports]
    exact sound.listed
  · intro h
    rw [cartridges, moved.held, exports]
    exact sound.known h
  · rw [cartridges, next]
    exact sound.fresh

/-- Filling an element that is not the transport does not fill the transport. -/
theorem transport_put (sound : lib.Sound layout) (type : layout.type i ≠ .mediumTransport) :
    ∀ j, layout.type j = .mediumTransport → put lib.tapes i h j = none := by
  intro j isTransport
  rw [put_other (layout.ne_of_type type isTransport)]
  exact sound.transport j isTransport

/-- Emptying an element does not fill the transport. -/
theorem transport_take (sound : lib.Sound layout) :
    ∀ j, layout.type j = .mediumTransport → take lib.tapes i j = none := by
  intro j isTransport
  by_cases same : j = i
  · rw [same, take_same]
  · rw [take_other same, sound.transport j isTransport]

/-- The flags after an element is filled. -/
theorem full_put (sound : lib.Sound layout) :
    ∀ j, Function.update lib.fulls i true j = (put lib.tapes i h j).isSome := by
  intro j
  by_cases same : j = i
  · subst same
    simp
  · rw [Function.update_of_ne same, put_other same, sound.full]

/-- The flags after an element is emptied. -/
theorem full_take (sound : lib.Sound layout) :
    ∀ j, Function.update lib.fulls i false j = (take lib.tapes i j).isSome := by
  intro j
  by_cases same : j = i
  · subst same
    simp
  · rw [Function.update_of_ne same, take_other same, sound.full]

/-! ## MOVE MEDIUM -/

/-- The flags after a move. -/
theorem full_move (sound : lib.Sound layout) (other : source ≠ destination) :
    ∀ j, Function.update (Function.update lib.fulls destination true) source false j =
      (Inventory.move lib.tapes source destination h j).isSome := by
  intro j
  unfold Inventory.move
  by_cases isSource : j = source
  · subst isSource
    simp [put_other other]
  · rw [Function.update_of_ne isSource]
    by_cases isDestination : j = destination
    · subst isDestination
      simp
    · rw [Function.update_of_ne isDestination, put_other isDestination, take_other isSource,
        sound.full]

/-- The transport after a move. -/
theorem transport_move (sound : lib.Sound layout)
    (type : layout.type destination ≠ .mediumTransport) :
    ∀ j, layout.type j = .mediumTransport →
      Inventory.move lib.tapes source destination h j = none := by
  intro j isTransport
  unfold Inventory.move
  rw [put_other (layout.ne_of_type type isTransport)]
  exact sound.transport_take j isTransport

/-- The moves of MOVE MEDIUM. -/
theorem moveElements (sound : lib.Sound layout) (calm : env.Calm) (other : source ≠ destination)
    (type : layout.type destination ≠ .mediumTransport) (here : lib.tapes source = some h)
    (empty : lib.tapes destination = none) :
    (moveElements layout env lib source destination h).2.Sound layout ∧
      lib.Rearranged (VirtualTape.moveElements layout env lib source destination h).2 := by
  obtain ⟨tapes, fulls, store⟩ :=
    moveElements_done (h := h) (unloadElement_calm calm) other empty
  obtain ⟨single, held⟩ := sound.single.move here
    (show take lib.tapes source destination = none by rw [take_other other.symm, empty])
  have moved : lib.Rearranged (VirtualTape.moveElements layout env lib source destination h).2 :=
    ⟨store, fun k => by rw [tapes, held k]⟩
  refine ⟨sound.of_rearranged moved (tapes ▸ single) ?_ ?_, moved⟩
  · rw [tapes, fulls]
    exact sound.full_move other
  · rw [tapes]
    exact sound.transport_move type

/-- MOVE MEDIUM keeps a library sound. -/
theorem move (sound : lib.Sound layout) (calm : env.Calm) (cmd : MoveCmd) :
    (mchangerCmdMoveMedium layout env lib cmd).2.Sound layout ∧
      lib.Rearranged (mchangerCmdMoveMedium layout env lib cmd).2 := by
  have unchanged := And.intro sound (Rearranged.refl lib)
  unfold mchangerCmdMoveMedium
  by_cases zero : cmd.source = 0 ∨ cmd.destination = 0
  · rw [if_pos zero]
    exact unchanged
  rw [if_neg zero]
  cases atSource : mchangerGetElement layout cmd.source with
  | none => exact unchanged
  | some source =>
    cases atDestination : mchangerGetElement layout cmd.destination with
    | none => exact unchanged
    | some destination =>
      have type := mchangerGetElement_type atDestination fun is => zero (.inr is)
      have sourceType := mchangerGetElement_type atSource fun is => zero (.inl is)
      simp only [elementVcartridge_eq sourceType]
      by_cases same : source = destination
      · rw [if_pos same]
        exact unchanged
      rw [if_neg same]
      cases here : lib.tapes source with
      | none => exact unchanged
      | some h =>
        dsimp only
        cases sense : moveSense layout env lib cmd source destination h with
        | some reason => exact unchanged
        | none =>
          have empty : lib.tapes destination = none := by
            by_contra taken
            have full : (lib.tapes destination).isSome = true :=
              Option.isSome_iff_ne_none.2 taken
            simp only [moveSense, elementVcartridge_eq type, full, if_true] at sense
            split_ifs at sense
          exact sound.moveElements calm same type here empty

end Sound

end Library

/-! ## EXCHANGE MEDIUM -/

/-- The checks of an EXCHANGE MEDIUM whose source is a drive that is also its first destination, and
whose second destination is another element, all pass. -/
def sharesDrive (layout : Layout n) (env : ChangerEnv n) (lib : Library n) (cmd : ExchangeCmd)
    (drive secondDest : Fin n) (h : ℕ) : Bool :=
  layout.type drive == .dataTransfer && secondDest != drive &&
    (elementVcartridge layout lib secondDest).isNone &&
    (mchangerGetElement layout cmd.mediumTransport).any (fun transport =>
      (!cmd.inv1 && !cmd.inv2) || (lib.element transport).invert) &&
    !(lib.tapeOf h).locked && (lib.element drive).access &&
    env.mediaValid drive (lib.tapeOf h).make &&
    (layout.type secondDest != .dataTransfer || env.mediaValid secondDest (lib.tapeOf h).make)

/-- An EXCHANGE MEDIUM that leaves a cartridge in two places. -/
def duplicates (layout : Layout n) (env : ChangerEnv n) (lib : Library n) : ChangerEvent → Bool
  | .exchange cmd =>
    cmd.source != 0 && cmd.firstDest != 0 && cmd.secondDest != 0 &&
      match mchangerGetElement layout cmd.source, mchangerGetElement layout cmd.firstDest,
        mchangerGetElement layout cmd.secondDest with
      | some source, some firstDest, some secondDest =>
        source == firstDest &&
          (elementVcartridge layout lib source).any
            (sharesDrive layout env lib cmd source secondDest)
      | _, _, _ => false
  | _ => false

/-- The checks pass exactly if the cartridge is shared. -/
theorem exchangeSense_alias (env : ChangerEnv n) (lib : Library n) (cmd : ExchangeCmd) (h : ℕ)
    (drive : layout.type source = .dataTransfer) (other : secondDest ≠ source) :
    exchangeSense layout env lib cmd source source secondDest h h = none ↔
      sharesDrive layout env lib cmd source secondDest h = true := by
  unfold exchangeSense sharesDrive
  cases elementVcartridge layout lib secondDest with
  | some taken => simp [other]
  | none =>
    cases mchangerGetElement layout cmd.mediumTransport with
    | none => simp
    | some transport =>
      simp only [Option.isSome_none, Bool.false_eq_true, false_and, if_false, drive, true_and]
      split_ifs <;> grind

/-- Checks that pass leave an empty second destination, or the source. -/
theorem exchangeSense_free {cmd : ExchangeCmd} (type : layout.type secondDest ≠ .mediumTransport)
    (passes : exchangeSense layout env lib cmd source firstDest secondDest x y = none) :
    secondDest = source ∨ lib.tapes secondDest = none := by
  by_contra neither
  obtain ⟨other, taken⟩ := not_or.1 neither
  have full : (lib.tapes secondDest).isSome = true := Option.isSome_iff_ne_none.2 taken
  simp [exchangeSense, elementVcartridge_eq type, full, other] at passes

namespace Library.Sound

/-- The moves of an exchange between different elements. -/
theorem exchangeApart (sound : lib.Sound layout) (calm : env.Calm) (apart : source ≠ firstDest)
    (firstType : layout.type firstDest ≠ .mediumTransport)
    (secondType : layout.type secondDest ≠ .mediumTransport) (here : lib.tapes source = some x)
    (there : lib.tapes firstDest = some y)
    (free : secondDest = source ∨ lib.tapes secondDest = none) :
    (exchangeElements layout env lib source firstDest secondDest x y).2.Sound layout ∧
      lib.Rearranged (exchangeElements layout env lib source firstDest secondDest x y).2 := by
  have other : secondDest ≠ firstDest := by
    rintro rfl
    rcases free with same | empty
    · exact apart same.symm
    · simp [there] at empty
  have empty : take lib.tapes source secondDest = none := by
    by_cases same : secondDest = source
    · rw [same, take_same]
    · rw [take_other same, free.resolve_left same]
  obtain ⟨tapes, fulls, store⟩ := exchangeElements_done
    (.of_calm calm : Unloads layout env lib source firstDest) secondDest x y
  rw [if_neg (fun refuses => refuses.2 (exchanged_free apart other empty)),
    exchanged_apart apart other] at tapes
  obtain ⟨single, held⟩ := sound.single.exchange apart here there empty other
  have moved : lib.Rearranged (exchangeElements layout env lib source firstDest secondDest x y).2 :=
    ⟨store, fun k => by rw [tapes, held k]⟩
  refine ⟨sound.of_rearranged moved (tapes ▸ single) ?_ ?_, moved⟩
  · intro j
    rw [tapes, fulls]
    unfold Inventory.exchange Inventory.move
    by_cases isSecond : j = secondDest
    · subst isSecond
      simp
    rw [Function.update_of_ne isSecond, put_other isSecond]
    by_cases isSource : j = source
    · subst isSource
      simp [put_other apart]
    rw [Function.update_of_ne isSource]
    by_cases isFirst : j = firstDest
    · subst isFirst
      simp
    · rw [Function.update_of_ne isFirst, put_other isFirst, take_other isSource,
        take_other isFirst, sound.full]
  · intro j isTransport
    rw [tapes]
    unfold Inventory.exchange Inventory.move
    rw [put_other (layout.ne_of_type secondType isTransport),
      put_other (layout.ne_of_type firstType isTransport)]
    by_cases isSource : j = source
    · rw [isSource, take_same]
    · rw [take_other isSource]
      exact sound.transport_take j isTransport

/-- The moves of an exchange whose source is its first destination, and no drive that hands its
cartridge on: it is a move to the second destination, or none at all. -/
theorem exchangeAlias (sound : lib.Sound layout) (calm : env.Calm)
    (secondType : layout.type secondDest ≠ .mediumTransport) (here : lib.tapes source = some x)
    (free : secondDest = source ∨ lib.tapes secondDest = none)
    (keeps : layout.type source = .dataTransfer → secondDest = source) :
    (exchangeElements layout env lib source source secondDest x x).2.Sound layout ∧
      lib.Rearranged (exchangeElements layout env lib source source secondDest x x).2 := by
  obtain ⟨tapes, fulls, store⟩ := exchangeElements_done
    (.of_calm calm : Unloads layout env lib source source) secondDest x x
  rw [exchanged_alias here] at tapes
  by_cases same : secondDest = source
  · -- everything stays where it is
    subst same
    have stays : put lib.tapes secondDest x = lib.tapes := by
      rw [put, ← here, Function.update_eq_self]
    have unchanged : (exchangeElements layout env lib secondDest secondDest secondDest x x).2.tapes =
        lib.tapes := by
      rw [tapes]
      by_cases drive : layout.type secondDest = .dataTransfer
      · rw [if_pos drive, if_pos ⟨drive, by simp [here]⟩]
      · rw [if_neg drive, if_neg (fun refuses => drive refuses.1), ← stays]
        simp [put, take]
    have moved : lib.Rearranged (exchangeElements layout env lib secondDest secondDest secondDest
        x x).2 := ⟨store, fun k => by rw [unchanged]⟩
    refine ⟨sound.of_rearranged moved (unchanged ▸ sound.single) ?_
      (unchanged ▸ sound.transport), moved⟩
    intro j
    rw [unchanged, fulls, ← sound.full]
    by_cases isSource : j = secondDest
    · subst isSource
      simp [sound.full, here]
    · simp [Function.update_of_ne isSource]
  · have slot : layout.type source ≠ .dataTransfer := fun drive => same (keeps drive)
    have empty : take lib.tapes source secondDest = none := by
      rw [take_other same, free.resolve_left same]
    rw [if_neg slot, if_neg (fun refuses => refuses.2 empty)] at tapes
    have isMove : (exchangeElements layout env lib source source secondDest x x).2.tapes =
        Inventory.move lib.tapes source secondDest x := tapes
    obtain ⟨single, held⟩ := sound.single.move here empty
    have moved : lib.Rearranged (exchangeElements layout env lib source source secondDest x x).2 :=
      ⟨store, fun k => by rw [isMove, held k]⟩
    refine ⟨sound.of_rearranged moved (isMove ▸ single) ?_
      (isMove ▸ sound.transport_move secondType), moved⟩
    intro j
    rw [isMove, fulls, ← sound.full_move (h := x) (Ne.symm same)]
    by_cases isSecond : j = secondDest
    · subst isSecond
      simp [Function.update_of_ne same]
    · by_cases isSource : j = source
      · subst isSource
        simp [Function.update_of_ne isSecond]
      · simp [Function.update_of_ne isSecond, Function.update_of_ne isSource]

/-- A drive that hands its cartridge on to another element keeps it as well. -/
theorem exchangeShared (calm : env.Calm) (drive : layout.type source = .dataTransfer)
    (here : lib.tapes source = some x) (other : secondDest ≠ source)
    (empty : lib.tapes secondDest = none) :
    ¬ (exchangeElements layout env lib source source secondDest x x).2.Sound layout := by
  intro after
  have tapes := (exchangeElements_done
    (.of_calm calm : Unloads layout env lib source source) secondDest x x).1
  rw [exchanged_alias here, if_pos drive, if_neg (fun refuses => refuses.2 empty)] at tapes
  apply other
  apply after.single secondDest source x
  · rw [tapes, put_same]
  · rw [tapes, put_other other.symm, here]

/-- EXCHANGE MEDIUM keeps a library sound exactly if it does not duplicate a cartridge, and then it
only moves cartridges. -/
theorem exchange_iff (sound : lib.Sound layout) (calm : env.Calm) (cmd : ExchangeCmd) :
    ((mchangerCmdExchangeMedium layout env lib cmd).2.Sound layout ↔
        duplicates layout env lib (.exchange cmd) = false) ∧
      (duplicates layout env lib (.exchange cmd) = false →
        lib.Rearranged (mchangerCmdExchangeMedium layout env lib cmd).2) := by
  -- a command that is refused duplicates nothing
  have unchanged (free : duplicates layout env lib (.exchange cmd) = false) :
      (lib.Sound layout ↔ duplicates layout env lib (.exchange cmd) = false) ∧
        (duplicates layout env lib (.exchange cmd) = false → lib.Rearranged lib) :=
    ⟨iff_of_true sound free, fun _ => Rearranged.refl lib⟩
  have moved {after : Library n} (free : duplicates layout env lib (.exchange cmd) = false)
      (both : after.Sound layout ∧ lib.Rearranged after) :
      (after.Sound layout ↔ duplicates layout env lib (.exchange cmd) = false) ∧
        (duplicates layout env lib (.exchange cmd) = false → lib.Rearranged after) :=
    ⟨iff_of_true both.1 free, fun _ => both.2⟩
  unfold mchangerCmdExchangeMedium
  by_cases zero : cmd.source = 0 ∨ cmd.firstDest = 0 ∨ cmd.secondDest = 0
  · rw [if_pos zero]
    apply unchanged
    rcases zero with is | is | is <;> simp [duplicates, is]
  rw [if_neg zero]
  obtain ⟨sourceZero, firstZero, secondZero⟩ := not_or.1 zero |>.imp_right not_or.1
  cases atSource : mchangerGetElement layout cmd.source with
  | none => exact unchanged (by simp [duplicates, atSource])
  | some source =>
    cases atFirst : mchangerGetElement layout cmd.firstDest with
    | none => exact unchanged (by simp [duplicates, atFirst])
    | some firstDest =>
      cases atSecond : mchangerGetElement layout cmd.secondDest with
      | none => exact unchanged (by simp [duplicates, atSecond])
      | some secondDest =>
        have sourceType := mchangerGetElement_type atSource sourceZero
        have firstType := mchangerGetElement_type atFirst firstZero
        have secondType := mchangerGetElement_type atSecond secondZero
        have asked : duplicates layout env lib (.exchange cmd) =
            (source == firstDest && (lib.tapes source).any
              (sharesDrive layout env lib cmd source secondDest)) := by
          simp [duplicates, sourceZero, firstZero, secondZero, atSource, atFirst, atSecond,
            elementVcartridge_eq sourceType]
        simp only [elementVcartridge_eq sourceType, elementVcartridge_eq firstType]
        cases here : lib.tapes source with
        | none => exact unchanged (by simp [asked, here])
        | some x =>
          cases there : lib.tapes firstDest with
          | none =>
            apply unchanged
            rw [asked]
            have apart : source ≠ firstDest := by
              rintro rfl
              simp [here] at there
            simp [apart]
          | some y =>
            by_cases apart : source = firstDest
            · subst apart
              obtain rfl : x = y := Option.some.inj (here.symm.trans there)
              have share : duplicates layout env lib (.exchange cmd) =
                  sharesDrive layout env lib cmd source secondDest x := by
                simp [asked, here]
              by_cases shares : layout.type source = .dataTransfer ∧ secondDest ≠ source
              · obtain ⟨drive, other⟩ := shares
                have passes := exchangeSense_alias env lib cmd x drive other
                dsimp only
                cases sense : exchangeSense layout env lib cmd source source secondDest x x with
                | some reason =>
                  apply unchanged
                  rw [share]
                  simpa [sense] using passes
                | none =>
                  have shared := share.trans (passes.1 sense)
                  have empty := (exchangeSense_free secondType sense).resolve_left other
                  refine ⟨iff_of_false (exchangeShared calm drive here other empty)
                    (by simp [shared]), fun free => ?_⟩
                  simp [shared] at free
              · have free : duplicates layout env lib (.exchange cmd) = false := by
                  rw [share]
                  by_contra shared
                  simp only [sharesDrive, Bool.not_eq_false, Bool.and_eq_true, beq_iff_eq,
                    bne_iff_ne] at shared
                  exact shares ⟨shared.1.1.1.1.1.1.1, shared.1.1.1.1.1.1.2⟩
                dsimp only
                cases sense : exchangeSense layout env lib cmd source source secondDest x x with
                | some reason => exact unchanged free
                | none =>
                  exact moved free (sound.exchangeAlias calm secondType here
                    (exchangeSense_free secondType sense)
                    fun drive => not_not.1 fun other => shares ⟨drive, other⟩)
            · have free : duplicates layout env lib (.exchange cmd) = false := by
                simp [asked, apart]
              dsimp only
              cases sense : exchangeSense layout env lib cmd source firstDest secondDest x y with
              | some reason => exact unchanged free
              | none =>
                exact moved free (sound.exchangeApart calm apart firstType secondType here there
                  (exchangeSense_free secondType sense))

end Library.Sound

end VirtualTape
