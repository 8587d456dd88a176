import Mathlib.Logic.Function.Basic
import VirtualTape.Lib.Buffer
import VirtualTape.Core.Reservation

/-!
# Fibre Channel rules

The daemon keeps the rules as they were asked for, with the names of initiators as texts, and sends
each to the target, where names are numbers, all libraries are written as target id -1 and all
initiators as a zero name. The target keeps a list of its own, decides by it whether an initiator may
use a device, and remembers the decision in the initiator's state on the device.
-/

namespace VirtualTape

/-- What a rule says. -/
inductive FcAction
  /-- `FC_RULE_ALLOW`. -/
  | allow
  /-- `FC_RULE_DISALLOW`. -/
  | disallow
  deriving DecidableEq, Repr

/-- `TL_MAX_DEVICES`. -/
def tlMaxDevices : ℕ := 1024

/-- All initiators. -/
def allWwpns : ℕ × ℕ := (0, 0)

/-- All libraries: -1 as 32 bits. -/
def allTargets : ℕ := 2 ^ 32 - 1

/-- Whom a rule names. -/
structure FcKey where
  /-- World wide port name. -/
  wwpn : ℕ × ℕ
  /-- Library. -/
  targetId : ℕ
  deriving DecidableEq, Repr

/-- A rule of the target. -/
structure FcRule where
  /-- Whom it names. -/
  key : FcKey
  /-- What it says. -/
  rule : FcAction
  deriving DecidableEq, Repr

/-! ## The list of the target -/

/-- Change what the first rule with a key says. -/
def setFcRule (fcRule : FcRule) : List FcRule → List FcRule
  | [] => []
  | iter :: rest => if iter.key = fcRule.key then fcRule :: rest else iter :: setFcRule fcRule rest

/-- The list after `target_add_fc_rule`. -/
def targetAddFcRule (list : List FcRule) (fcRule : FcRule) : List FcRule :=
  if list.any fun iter => iter.key == fcRule.key then setFcRule fcRule list
  else if fcRule.key.wwpn = allWwpns then fcRule :: list
  else list ++ [fcRule]

/-- The list after `target_remove_fc_rule`. -/
def targetRemoveFcRule (list : List FcRule) (key : FcKey) : List FcRule :=
  list.eraseP fun iter => iter.key == key

/-- The rules found so far, by class. -/
structure FcFound where
  /-- `rule_wwpn`. -/
  ruleWwpn : Option FcAction
  /-- `rule_target`. -/
  ruleTarget : Option FcAction
  /-- `rule_all_wwpn`. -/
  ruleAllWwpn : Option FcAction
  /-- `rule_all_target`. -/
  ruleAllTarget : Option FcAction
  deriving DecidableEq, Repr

/-- What the rules found say. -/
def FcFound.decision (found : FcFound) : FcAction :=
  match found.ruleWwpn, found.ruleTarget, found.ruleAllWwpn, found.ruleAllTarget with
  | some rule, _, _, _ => rule
  | none, some rule, _, _ => rule
  | none, none, some rule, _ => rule
  | none, none, none, some rule => rule
  | none, none, none, none => .allow

/-- The loop of `fc_initiator_check`. -/
def fcInitiatorScan (wwpn : ℕ × ℕ) (targetId : ℕ) : List FcRule → FcFound → FcAction
  | [], found => found.decision
  | iter :: rest, found =>
    if iter.key.wwpn = wwpn ∧ iter.key.targetId = targetId then iter.rule
    else if iter.key.wwpn = wwpn ∧ iter.key.targetId = 0 then
      fcInitiatorScan wwpn targetId rest { found with ruleWwpn := some iter.rule }
    else if iter.key.targetId = targetId then
      fcInitiatorScan wwpn targetId rest { found with ruleTarget := some iter.rule }
    else if iter.key.wwpn.1 = 0 then
      fcInitiatorScan wwpn targetId rest { found with ruleAllWwpn := some iter.rule }
    else if iter.key.targetId = 0 then
      fcInitiatorScan wwpn targetId rest { found with ruleAllTarget := some iter.rule }
    else fcInitiatorScan wwpn targetId rest found

/-- `fc_initiator_check`. -/
def fcInitiatorCheck (list : List FcRule) (wwpn : ℕ × ℕ) (targetId : ℕ) : FcAction :=
  if list.isEmpty then .allow
  else fcInitiatorScan wwpn targetId list ⟨none, none, none, none⟩

/-! ## The daemon -/

/-- A rule as it is asked for. Names are texts, and an empty name stands for all. -/
structure FcRuleSpec where
  /-- First half of the name. -/
  wwpn : List UInt8
  /-- Second half of the name. -/
  wwpn1 : List UInt8
  /-- The library. -/
  vtl : Option (Fin tlMaxDevices)
  /-- What it says. -/
  rule : FcAction
  deriving DecidableEq, Repr

/-- `char_to_int`, as far as it goes into a byte. -/
def charToInt (tmp : UInt8) : UInt8 := if 48 ≤ tmp ∧ tmp ≤ 57 then tmp - 48 else tmp - 97 + 10

/-- `char_to_wwpn`. The buffer of a text is zero behind it. -/
def charToWwpn (arr : List UInt8) : ℕ :=
  if arr.isEmpty then 0
  else ofBe ((List.range 8).map fun j =>
    (charToInt (arr[3 * j]?.getD 0) <<< 4) ||| charToInt (arr[3 * j + 1]?.getD 0))

/-- `fc_rule_config_fill`. -/
def fcRuleConfigFill (spec : FcRuleSpec) : FcRule :=
  ⟨⟨(charToWwpn spec.wwpn, charToWwpn spec.wwpn1), (spec.vtl.map Fin.val).getD allTargets⟩,
    spec.rule⟩

/-- The rules of the daemon and of the target. -/
structure FcConfig where
  /-- The daemon's. -/
  specs : List FcRuleSpec
  /-- The target's. -/
  rules : List FcRule
  deriving DecidableEq, Repr

/-- `fc_rule_locate`: two rules name the same initiator and library. -/
def FcRuleSpec.sameNames (first second : FcRuleSpec) : Bool :=
  first.wwpn == second.wwpn && first.wwpn1 == second.wwpn1 && first.vtl == second.vtl

/-- `fc_rule_spec_wwpn_valid`. -/
def FcRuleSpec.wwpnValid (spec : FcRuleSpec) : Bool :=
  !spec.wwpn.isEmpty || !spec.wwpn1.isEmpty

/-- `tl_server_add_fc_rule`. -/
def tlServerAddFcRule (config : FcConfig) (spec : FcRuleSpec) : FcConfig :=
  if config.specs.any spec.sameNames then config
  else ⟨config.specs ++ [spec], targetAddFcRule config.rules (fcRuleConfigFill spec)⟩

/-- A rule of the daemon is to be removed: all rules an initiator, a library or both are named in,
or the one rule for all. -/
def FcRuleSpec.selects (spec fcRule : FcRuleSpec) : Bool :=
  if !spec.wwpnValid && spec.vtl.isNone then spec.sameNames fcRule
  else (!spec.wwpnValid || (spec.wwpn == fcRule.wwpn && spec.wwpn1 == fcRule.wwpn1)) &&
    (spec.vtl.isNone || spec.vtl == fcRule.vtl)

/-- `tl_server_remove_fc_rule`. -/
def tlServerRemoveFcRule (config : FcConfig) (spec : FcRuleSpec) : FcConfig :=
  ⟨config.specs.filter fun fcRule => !spec.selects fcRule,
    (config.specs.filter spec.selects).foldl
      (fun list fcRule => targetRemoveFcRule list (fcRuleConfigFill fcRule).key) config.rules⟩

/-- A request to the daemon. -/
inductive FcRequest
  /-- Add a rule. -/
  | add (spec : FcRuleSpec)
  /-- Remove rules. -/
  | remove (spec : FcRuleSpec)
  deriving DecidableEq, Repr

/-- A request as a step. -/
def FcConfigStep (config : FcConfig) (request : FcRequest) (after : FcConfig) : Prop :=
  after = match request with
    | .add spec => tlServerAddFcRule config spec
    | .remove spec => tlServerRemoveFcRule config spec

/-! ## Initiator states -/

/-- `TARGET_INT_FC`. -/
def targetIntFc : ℕ := 4

/-- What a device keeps about an initiator. -/
structure InitiatorState where
  /-- The nexus. -/
  nexus : Nexus
  /-- It may not use the device. -/
  disallowed : Bool
  deriving DecidableEq, Repr

/-- A device: the one in the table under its library's id, a changer or a stand-alone drive, or a
drive inside the changer. -/
structure DeviceId where
  /-- The library. -/
  tlId : ℕ
  /-- A drive inside its changer. -/
  drive : Option ℕ
  deriving DecidableEq, Repr

/-- The target: its rules, and the initiator states of its devices. -/
structure FcTarget where
  /-- The rules. -/
  rules : List FcRule
  /-- The initiator states. -/
  istates : DeviceId → List InitiatorState

/-- `tdevice_revalidate_istates`. -/
def tdeviceRevalidateIstates (rules : List FcRule) (tlId : ℕ) (istates : List InitiatorState) :
    List InitiatorState :=
  istates.map fun iter =>
    if iter.nexus.initInt = targetIntFc then
      { iter with disallowed := fcInitiatorCheck rules iter.nexus.iPrt tlId != .allow }
    else iter

/-- `update_istates`, after the rules changed. Only devices of the table are visited. -/
def updateIstates (target : FcTarget) (rules : List FcRule) : FcTarget where
  rules := rules
  istates device :=
    if device.drive = none then
      tdeviceRevalidateIstates rules device.tlId (target.istates device)
    else target.istates device

/-- `__device_get_initiator_state`: whether a state is given, and the list after it. -/
def deviceGetInitiatorState (rules : List FcRule) (tlId : ℕ) (istates : List InitiatorState)
    (nexus : Nexus) (alloc check : Bool) : Bool × List InitiatorState :=
  match istates.find? fun iter => iter.nexus == nexus with
  | some iter =>
    if iter.disallowed then (false, istates)
    else (true, iter :: istates.eraseP fun iter => iter.nexus == nexus)
  | none =>
    if !alloc then (false, istates)
    else if check && nexus.initInt == targetIntFc &&
        fcInitiatorCheck rules nexus.iPrt tlId != .allow then (false, istates)
    else (true, ⟨nexus, false⟩ :: istates)

/-- What happens to the target. -/
inductive FcEvent
  /-- `target_add_fc_rule`. -/
  | addRule (fcRule : FcRule)
  /-- `target_remove_fc_rule`. -/
  | removeRule (key : FcKey)
  /-- A command of a nexus to a device. -/
  | command (device : DeviceId) (nexus : Nexus)
  /-- `device_free_initiator_state2`. -/
  | free (device : DeviceId) (nexus : Nexus)
  deriving DecidableEq, Repr

/-- The target after an event. A rule that is not found is not removed, and nothing is visited. -/
def fcEvent (target : FcTarget) : FcEvent → FcTarget
  | .addRule fcRule => updateIstates target (targetAddFcRule target.rules fcRule)
  | .removeRule key =>
    if target.rules.any fun iter => iter.key == key then
      updateIstates target (targetRemoveFcRule target.rules key)
    else target
  | .command device nexus =>
    { target with
      istates := Function.update target.istates device
        (deviceGetInitiatorState target.rules device.tlId (target.istates device) nexus true
          true).2 }
  | .free device nexus =>
    { target with
      istates := Function.update target.istates device
        ((target.istates device).eraseP fun iter => iter.nexus == nexus) }

/-- An event as a step. -/
def FcStep (target : FcTarget) (event : FcEvent) (after : FcTarget) : Prop :=
  after = fcEvent target event

/-- A target without rules that no initiator has used. -/
def FcTarget.initial : FcTarget := ⟨[], fun _ => []⟩

end VirtualTape
