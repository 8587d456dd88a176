import Mathlib.Tactic.SplitIfs
import VirtualTape.Core.FcRules

/-!
# Access to devices by Fibre Channel rules

A device remembers for each initiator that it is not allowed. When the rules change, the devices of
the table look again, but the drives inside changers do not, so what they remember is what was true
when the initiator first came.
-/

namespace VirtualTape

variable {rules : List FcRule} {tlId : ℕ} {istates : List InitiatorState} {nexus : Nexus}
  {target : FcTarget} {device : DeviceId} {iter : InitiatorState}

/-- What a device remembers of an initiator: in the table, what the rules say; inside a changer,
that it is allowed. -/
def FcTarget.Remembers (target : FcTarget) (device : DeviceId) (iter : InitiatorState) : Prop :=
  iter.nexus.initInt = targetIntFc →
    iter.disallowed =
      (device.drive.isNone && fcInitiatorCheck target.rules iter.nexus.iPrt device.tlId != .allow)

/-- All devices remember it of all initiators. -/
def FcTarget.Current (target : FcTarget) : Prop :=
  ∀ device, ∀ iter ∈ target.istates device, target.Remembers device iter

/-! ## Steps -/

/-- After a command a device knows the initiators it knew, and one that is allowed. -/
theorem mem_deviceGetInitiatorState
    (member : iter ∈ (deviceGetInitiatorState rules tlId istates nexus true true).2) :
    iter ∈ istates ∨ iter = ⟨nexus, false⟩ ∧
      (nexus.initInt = targetIntFc → fcInitiatorCheck rules nexus.iPrt tlId = .allow) := by
  unfold deviceGetInitiatorState at member
  cases known : istates.find? fun iter => iter.nexus == nexus with
  | some first =>
    simp only [known] at member
    split_ifs at member
    · exact .inl member
    · have inList := List.mem_of_find?_eq_some known
      cases List.mem_cons.1 member with
      | inl isFirst => exact .inl (isFirst ▸ inList)
      | inr later => exact .inl (List.mem_of_mem_eraseP later)
  | none =>
    simp only [known, Bool.not_true, Bool.false_eq_true, if_false, Bool.true_and] at member
    split_ifs at member with denied
    · exact .inl member
    · cases List.mem_cons.1 member with
      | inr later => exact .inl later
      | inl isNew =>
        have allowed (isFc : nexus.initInt = targetIntFc) :
            fcInitiatorCheck rules nexus.iPrt tlId = .allow := by
          simpa [isFc] using denied
        exact .inr ⟨isNew, allowed⟩

/-- Changed rules are remembered. -/
theorem FcTarget.Current.update (current : target.Current) (rules : List FcRule) :
    (updateIstates target rules).Current := by
  intro device iter member isFc
  simp only [updateIstates] at member ⊢
  split_ifs at member with inTable
  · obtain ⟨before, known, rfl⟩ := List.mem_map.1 member
    by_cases wasFc : before.nexus.initInt = targetIntFc
    · simp [wasFc, inTable]
    · simp [wasFc] at isFc
  · have inside : device.drive.isNone = false := by
      rw [← Bool.not_eq_true, Option.isNone_iff_eq_none]
      exact inTable
    have remembered := current device iter member isFc
    rw [inside, Bool.false_and] at remembered ⊢
    exact remembered

/-- A device that knows initiators as before, or that are allowed, remembers still. -/
theorem FcTarget.Current.known (current : target.Current)
    (remember : ∀ iter ∈ istates, iter ∈ target.istates device ∨ target.Remembers device iter) :
    { target with istates := Function.update target.istates device istates }.Current := by
  intro other iter member
  dsimp only at member
  by_cases same : other = device
  · rw [same, Function.update_self] at member
    rw [same]
    cases remember iter member with
    | inl before => exact current device iter before
    | inr remembers => exact remembers
  · rw [Function.update_of_ne same] at member
    exact current other iter member

/-- Every event leaves the memory as it should be. -/
theorem FcTarget.Current.event (current : target.Current) (event : FcEvent) :
    (fcEvent target event).Current := by
  cases event with
  | addRule fcRule => exact current.update _
  | removeRule key =>
    simp only [fcEvent]
    split_ifs
    · exact current.update _
    · exact current
  | command device nexus =>
    apply current.known
    intro iter member
    cases mem_deviceGetInitiatorState member with
    | inl before => exact .inl before
    | inr new =>
      refine .inr fun isFc => ?_
      rw [new.1] at isFc ⊢
      simp [new.2 isFc]
  | free device nexus =>
    apply current.known
    intro iter member
    exact .inl (List.mem_of_mem_eraseP member)

/-- The memory is as it should be in every state reached. -/
theorem Run.fcTarget_current {events : List FcEvent}
    (run : Run FcStep .initial events target) : target.Current := by
  have start : FcTarget.initial.Current := fun _ _ member => absurd member List.not_mem_nil
  exact run.invariant start fun current step => step ▸ current.event _

/-! ## Commands -/

/-- A drive inside a changer remembers an initiator that is not allowed any more. -/
def FcTarget.stale (target : FcTarget) (device : DeviceId) (nexus : Nexus) : Bool :=
  device.drive.isSome && (target.istates device).any (·.nexus == nexus) &&
    fcInitiatorCheck target.rules nexus.iPrt device.tlId != .allow

/-- An initiator is given a state on a device exactly if the rules allow it, unless the device is a
drive inside a changer that knew the initiator before it was forbidden. -/
theorem fc_access_iff {events : List FcEvent} (run : Run FcStep .initial events target)
    (device : DeviceId) (isFc : nexus.initInt = targetIntFc) :
    ((deviceGetInitiatorState target.rules device.tlId (target.istates device) nexus true
          true).1 = true ↔
        fcInitiatorCheck target.rules nexus.iPrt device.tlId = .allow) ↔
      target.stale device nexus = false := by
  have current := run.fcTarget_current
  unfold deviceGetInitiatorState FcTarget.stale
  cases known : (target.istates device).find? fun iter => iter.nexus == nexus with
  | none =>
    have unknown : (target.istates device).any (·.nexus == nexus) = false := by
      simpa using known
    cases fcInitiatorCheck target.rules nexus.iPrt device.tlId <;> simp [unknown, isFc]
  | some iter =>
    have member := List.mem_of_find?_eq_some known
    have isNexus : iter.nexus = nexus := by simpa using List.find?_some known
    have isKnown : (target.istates device).any (·.nexus == nexus) = true :=
      List.any_eq_true.2 ⟨iter, member, by simp [isNexus]⟩
    have remembered := current device iter member (isNexus ▸ isFc)
    rw [isNexus] at remembered
    simp only [remembered, isKnown]
    cases device.drive <;> cases fcInitiatorCheck target.rules nexus.iPrt device.tlId <;> simp

/-- A changer looks again when a rule is added. -/
theorem fc_access_changer :
    (deviceGetInitiatorState [⟨⟨(5, 7), 1⟩, .disallow⟩] 1
        [⟨⟨(5, 7), (1, 1), targetIntFc⟩, true⟩] ⟨(5, 7), (1, 1), targetIntFc⟩ true true).1 = true ↔
      fcInitiatorCheck [⟨⟨(5, 7), 1⟩, .disallow⟩] (5, 7) 1 = .allow := by
  have run : Run FcStep .initial
      [.command ⟨1, none⟩ ⟨(5, 7), (1, 1), targetIntFc⟩, .addRule ⟨⟨(5, 7), 1⟩, .disallow⟩] _ :=
    .snoc (.snoc .nil rfl) rfl
  exact (fc_access_iff run ⟨1, none⟩ rfl).2 (by decide)

/-- A drive inside the changer does not. -/
theorem updateIstates_skips_drive :
    ∃ target, Run FcStep .initial
        [.command ⟨1, some 1⟩ ⟨(5, 7), (1, 1), targetIntFc⟩,
          .addRule ⟨⟨(5, 7), 1⟩, .disallow⟩] target ∧
      fcInitiatorCheck target.rules (5, 7) 1 = .disallow ∧
      (deviceGetInitiatorState target.rules 1 (target.istates ⟨1, some 1⟩)
        ⟨(5, 7), (1, 1), targetIntFc⟩ true true).1 = true :=
  ⟨_, .snoc (.snoc .nil rfl) rfl, by decide, by decide⟩

end VirtualTape
