import Mathlib.Data.List.Find
import Mathlib.Data.List.Nodup
import Mathlib.Tactic.SplitIfs
import VirtualTape.Core.FcRules

/-!
# Decisions by Fibre Channel rules

The most specific rule of the daemon is to decide. The daemon reads the name of an initiator as if its
digits were in lower case, and sends a zero name for all initiators. The target reads 0 as all
libraries where the daemon writes -1, takes rules of other initiators on the same library for rules of
all initiators, and rules of all initiators on other libraries for rules of all libraries. So as long
as the names that are sent are the ones that are meant, and are told apart, the target has the rules of
the daemon in an order of its own; and then the right rule decides only for certain lists, which are
described by whom the rules name.
-/

namespace VirtualTape

variable {list : List FcRule} {keys : List FcKey} {wwpn : ℕ × ℕ} {targetId : ℕ} {key : FcKey}
  {fcRule : FcRule} {found : FcFound} {config : FcConfig} {spec other : FcRuleSpec}
  {specs : List FcRuleSpec} {text : List UInt8}

/-! ## Distinct rules -/

/-- No two rules name the same. -/
def Distinct (list : List FcRule) : Prop := (list.map (·.key)).Nodup

/-- A changed rule names the same. -/
@[simp]
theorem setFcRule_keys : (setFcRule fcRule list).map (·.key) = list.map (·.key) := by
  induction list with
  | nil => rfl
  | cons iter rest ih =>
    unfold setFcRule
    split_ifs with same
    · rw [List.map_cons, List.map_cons, same]
    · rw [List.map_cons, List.map_cons, ih]

/-- In a list without two items of the same key, an item is found by its key. -/
theorem find?_eq_some_iff_of_nodup {α κ : Type} [DecidableEq κ] {keyOf : α → κ} {items : List α}
    (distinct : (items.map keyOf).Nodup) {key : κ} {item : α} :
    items.find? (fun item => keyOf item == key) = some item ↔ item ∈ items ∧ keyOf item = key := by
  constructor
  · intro found
    exact ⟨List.mem_of_find?_eq_some found, by simpa using List.find?_some found⟩
  · rintro ⟨member, rfl⟩
    cases found : items.find? fun other => keyOf other == keyOf item with
    | none =>
      have absent := List.find?_eq_none.1 found item member
      simp at absent
    | some other =>
      have same : keyOf other = keyOf item := by simpa using List.find?_some found
      rw [List.inj_on_of_nodup_map distinct (List.mem_of_find?_eq_some found) member same]

/-- A rule is taken out of distinct ones. -/
theorem Distinct.remove_eq (distinct : Distinct list) (key : FcKey) :
    targetRemoveFcRule list key = list.filter (·.key != key) := by
  unfold targetRemoveFcRule
  induction list with
  | nil => rfl
  | cons iter rest ih =>
    obtain ⟨absent, restDistinct⟩ := List.nodup_cons.1 distinct
    by_cases same : iter.key = key
    · have keeps : rest.filter (·.key != key) = rest := by
        rw [List.filter_eq_self]
        intro fcRule member
        rw [bne_iff_ne, ← same]
        exact fun isKey => absent (List.mem_map.2 ⟨fcRule, member, isKey⟩)
      simp [same, keeps]
    · simp [same, ih restDistinct]

/-- Several rules are taken out of distinct ones. -/
theorem Distinct.foldl_remove (distinct : Distinct list) (selected : List FcRuleSpec) :
    selected.foldl (fun list spec => targetRemoveFcRule list (fcRuleConfigFill spec).key) list =
      list.filter fun fcRule => selected.all fun spec => fcRule.key != (fcRuleConfigFill spec).key := by
  induction selected generalizing list with
  | nil => simp
  | cons spec selected ih =>
    have restDistinct : Distinct (list.filter (·.key != (fcRuleConfigFill spec).key)) :=
      distinct.sublist (List.filter_sublist.map _)
    rw [List.foldl_cons, distinct.remove_eq, ih restDistinct, List.filter_filter]
    simp only [List.all_cons, Bool.and_comm]

/-! ## The rule that decides -/

/-- The last rule of a list with a property. -/
def lastRule (property : FcKey → Bool) (list : List FcRule) : Option FcRule :=
  list.reverse.find? fun iter => property iter.key

/-- A rule in front decides only if no later one has the property. -/
theorem lastRule_cons {property : FcKey → Bool} :
    lastRule property (fcRule :: list) =
      (lastRule property list).or (if property fcRule.key then some fcRule else none) := by
  unfold lastRule
  rw [List.reverse_cons, List.find?_append]
  cases has : property fcRule.key <;> simp [has]

/-- The classes of the scan, in the order in which they are tested. -/
inductive FcClass
  /-- The initiator and library asked for. -/
  | exactly
  /-- The initiator asked for and library 0. -/
  | wwpn
  /-- The library asked for. -/
  | target
  /-- A name that starts with zero. -/
  | allWwpn
  /-- Library 0. -/
  | allTarget
  /-- None of these. -/
  | other
  deriving DecidableEq, Repr

/-- The class of a rule. -/
def classify (wwpn : ℕ × ℕ) (targetId : ℕ) (key : FcKey) : FcClass :=
  if key.wwpn = wwpn ∧ key.targetId = targetId then .exactly
  else if key.wwpn = wwpn ∧ key.targetId = 0 then .wwpn
  else if key.targetId = targetId then .target
  else if key.wwpn.1 = 0 then .allWwpn
  else if key.targetId = 0 then .allTarget
  else .other

/-- The last rule of a class. -/
def lastOf (wwpn : ℕ × ℕ) (targetId : ℕ) (fcClass : FcClass) (list : List FcRule) :
    Option FcRule :=
  lastRule (fun key => classify wwpn targetId key == fcClass) list

/-- A rule in front is the last of its class only if no later one is in it. -/
theorem lastOf_cons {fcClass : FcClass} :
    lastOf wwpn targetId fcClass (fcRule :: list) =
      (lastOf wwpn targetId fcClass list).or
        (if classify wwpn targetId fcRule.key = fcClass then some fcRule else none) := by
  unfold lastOf
  simp only [lastRule_cons, beq_iff_eq]

/-- What is found after a rule of a class. -/
def FcFound.record (found : FcFound) (rule : FcAction) : FcClass → FcFound
  | .wwpn => { found with ruleWwpn := some rule }
  | .target => { found with ruleTarget := some rule }
  | .allWwpn => { found with ruleAllWwpn := some rule }
  | .allTarget => { found with ruleAllTarget := some rule }
  | .exactly | .other => found

/-- The loop goes by classes. -/
theorem fcInitiatorScan_cons :
    fcInitiatorScan wwpn targetId (fcRule :: list) found =
      if classify wwpn targetId fcRule.key = .exactly then fcRule.rule
      else fcInitiatorScan wwpn targetId list
        (found.record fcRule.rule (classify wwpn targetId fcRule.key)) := by
  rw [fcInitiatorScan]
  unfold classify
  split_ifs <;> first | rfl | contradiction

/-- What is found after some rules have been scanned. -/
def FcFound.after (found : FcFound) (wwpn : ℕ × ℕ) (targetId : ℕ) (list : List FcRule) :
    FcFound where
  ruleWwpn := ((lastOf wwpn targetId .wwpn list).map (·.rule)).or found.ruleWwpn
  ruleTarget := ((lastOf wwpn targetId .target list).map (·.rule)).or found.ruleTarget
  ruleAllWwpn := ((lastOf wwpn targetId .allWwpn list).map (·.rule)).or found.ruleAllWwpn
  ruleAllTarget := ((lastOf wwpn targetId .allTarget list).map (·.rule)).or found.ruleAllTarget

/-- One more rule in front is recorded first. -/
theorem FcFound.after_cons :
    found.after wwpn targetId (fcRule :: list) =
      (found.record fcRule.rule (classify wwpn targetId fcRule.key)).after wwpn targetId list := by
  unfold FcFound.after
  simp only [lastOf_cons]
  cases classify wwpn targetId fcRule.key <;>
    simp only [FcFound.record, reduceCtorEq, if_true, if_false, Option.or_none, Option.map_or,
      Option.map_some, Option.or_assoc, Option.some_or]

/-- The rule for the initiator and the library is in the first class. -/
theorem classify_eq_exactly :
    classify wwpn targetId key = .exactly ↔ key = ⟨wwpn, targetId⟩ := by
  unfold classify
  cases key
  split_ifs <;> simp_all

/-- The scan ends at the rule for the initiator and the library, if there is one, and has otherwise
found the last rule of each class. -/
theorem fcInitiatorScan_eq :
    fcInitiatorScan wwpn targetId list found =
      match list.find? fun iter => iter.key == ⟨wwpn, targetId⟩ with
      | some iter => iter.rule
      | none => (found.after wwpn targetId list).decision := by
  induction list generalizing found with
  | nil => rfl
  | cons iter rest ih =>
    rw [fcInitiatorScan_cons, List.find?_cons, ih, FcFound.after_cons]
    by_cases exactly : iter.key = ⟨wwpn, targetId⟩
    · rw [if_pos (classify_eq_exactly.2 exactly), exactly, beq_self_eq_true]
    · rw [if_neg fun inFirst => exactly (classify_eq_exactly.1 inFirst), beq_false_of_ne exactly]

/-- The rule that decides, if any. -/
def decidingRule (wwpn : ℕ × ℕ) (targetId : ℕ) (list : List FcRule) : Option FcRule :=
  (list.find? fun iter => iter.key == ⟨wwpn, targetId⟩).or
    ((lastOf wwpn targetId .wwpn list).or ((lastOf wwpn targetId .target list).or
      ((lastOf wwpn targetId .allWwpn list).or (lastOf wwpn targetId .allTarget list))))

/-- The check says what the deciding rule says, and allows without one. -/
theorem fcInitiatorCheck_eq :
    fcInitiatorCheck list wwpn targetId =
      ((decidingRule wwpn targetId list).map (·.rule)).getD .allow := by
  have scanned : fcInitiatorCheck list wwpn targetId =
      fcInitiatorScan wwpn targetId list ⟨none, none, none, none⟩ := by
    cases list <;> rfl
  rw [scanned, fcInitiatorScan_eq]
  unfold decidingRule FcFound.after FcFound.decision
  cases list.find? fun iter => iter.key == ⟨wwpn, targetId⟩ <;>
    cases lastOf wwpn targetId .wwpn list <;> cases lastOf wwpn targetId .target list <;>
    cases lastOf wwpn targetId .allWwpn list <;> cases lastOf wwpn targetId .allTarget list <;> rfl

/-! ## The most specific rule of the target -/

/-- The rule for a name. -/
def ruleFor (key : FcKey) (list : List FcRule) : Option FcRule :=
  list.find? fun iter => iter.key == key

/-- The most specific rule for an initiator and a library. -/
def mostSpecificRule (wwpn : ℕ × ℕ) (targetId : ℕ) (list : List FcRule) : Option FcRule :=
  (ruleFor ⟨wwpn, targetId⟩ list).or ((ruleFor ⟨wwpn, allTargets⟩ list).or
    ((ruleFor ⟨allWwpns, targetId⟩ list).or (ruleFor ⟨allWwpns, allTargets⟩ list)))

/-- What the most specific rule of the target says; without one the initiator is allowed. -/
def mostSpecificSent (list : List FcRule) (wwpn : ℕ × ℕ) (targetId : ℕ) : FcAction :=
  ((mostSpecificRule wwpn targetId list).map (·.rule)).getD .allow

/-! ## Lists for which the right rule decides -/

/-- The last name of a list with a property. -/
def lastKey (property : FcKey → Bool) (keys : List FcKey) : Option FcKey :=
  keys.reverse.find? property

/-- A name of a list. -/
def keyOf (key : FcKey) (keys : List FcKey) : Option FcKey :=
  keys.find? (· == key)

/-- The name of the rule that decides. -/
def decidingKey (wwpn : ℕ × ℕ) (targetId : ℕ) (keys : List FcKey) : Option FcKey :=
  let last (fcClass : FcClass) := lastKey (fun key => classify wwpn targetId key == fcClass) keys
  (keyOf ⟨wwpn, targetId⟩ keys).or
    ((last .wwpn).or ((last .target).or ((last .allWwpn).or (last .allTarget))))

/-- The name of the most specific rule. -/
def mostSpecificKey (wwpn : ℕ × ℕ) (targetId : ℕ) (keys : List FcKey) : Option FcKey :=
  (keyOf ⟨wwpn, targetId⟩ keys).or ((keyOf ⟨wwpn, allTargets⟩ keys).or
    ((keyOf ⟨allWwpns, targetId⟩ keys).or (keyOf ⟨allWwpns, allTargets⟩ keys)))

/-- Rules that say something else, by their names. -/
def withActions (actions : FcKey → FcAction) (keys : List FcKey) : List FcRule :=
  keys.map fun key => ⟨key, actions key⟩

/-- The last rule with a property is the one with the last such name. -/
theorem lastRule_withActions {property : FcKey → Bool} {actions : FcKey → FcAction} :
    lastRule property (withActions actions keys) =
      (lastKey property keys).map fun key => ⟨key, actions key⟩ := by
  unfold lastRule lastKey withActions
  rw [← List.map_reverse, List.find?_map]
  rfl

/-- The rule for a name is found by it. -/
theorem ruleFor_withActions {actions : FcKey → FcAction} :
    ruleFor key (withActions actions keys) =
      (keyOf key keys).map fun key => ⟨key, actions key⟩ := by
  unfold ruleFor keyOf withActions
  rw [List.find?_map]
  rfl

/-- The check, by the name that decides. -/
theorem fcInitiatorCheck_withActions {actions : FcKey → FcAction} :
    fcInitiatorCheck (withActions actions keys) wwpn targetId =
      ((decidingKey wwpn targetId keys).map actions).getD .allow := by
  rw [fcInitiatorCheck_eq]
  unfold decidingRule decidingKey lastOf
  rw [← ruleFor, ruleFor_withActions]
  simp only [lastRule_withActions, ← Option.map_or, Option.map_map]
  rfl

/-- The most specific rule, by its name. -/
theorem mostSpecificSent_withActions {actions : FcKey → FcAction} :
    mostSpecificSent (withActions actions keys) wwpn targetId =
      ((mostSpecificKey wwpn targetId keys).map actions).getD .allow := by
  unfold mostSpecificSent mostSpecificKey mostSpecificRule
  simp only [ruleFor_withActions, ← Option.map_or, Option.map_map]
  rfl

/-- Whatever the rules say, the check is right exactly if the most specific rule decides. -/
theorem check_right_iff :
    (∀ actions, fcInitiatorCheck (withActions actions keys) wwpn targetId =
        mostSpecificSent (withActions actions keys) wwpn targetId) ↔
      decidingKey wwpn targetId keys = mostSpecificKey wwpn targetId keys := by
  simp only [fcInitiatorCheck_withActions, mostSpecificSent_withActions]
  constructor
  · intro right
    cases decides : decidingKey wwpn targetId keys with
    | none =>
      cases specific : mostSpecificKey wwpn targetId keys with
      | none => rfl
      | some key => simpa [decides, specific] using right fun _ => .disallow
    | some first =>
      cases specific : mostSpecificKey wwpn targetId keys with
      | none => simpa [decides, specific] using right fun _ => .disallow
      | some second =>
        -- let the deciding rule alone disallow
        have differ := right fun key => if key = first then .disallow else .allow
        by_cases same : second = first
        · rw [same]
        · simp [decides, specific, same] at differ
  · intro same actions
    rw [same]

/-- Distinct rules are given by their names and what each says. -/
theorem Distinct.eq_withActions (distinct : Distinct list) :
    withActions (fun key => ((ruleFor key list).map (·.rule)).getD .allow)
      (list.map (·.key)) = list := by
  unfold withActions
  rw [List.map_map]
  conv_rhs => rw [← List.map_id list]
  apply List.map_congr_left
  intro fcRule member
  have isRule : ruleFor fcRule.key list = some fcRule :=
    (find?_eq_some_iff_of_nodup distinct).2 ⟨member, rfl⟩
  simp [isRule]

/-- The most specific rule decides, by the names of the rules. There is an exact rule; or there is
none for the initiator on library 0, and the last rule on the library is for all initiators and the
initiator has no rule for all libraries; or no rule is on the library, and the last one of all
initiators is the right one for all libraries; or none of these exists, nor one on library 0. -/
def faithful (wwpn : ℕ × ℕ) (targetId : ℕ) (keys : List FcKey) : Bool :=
  keys.contains ⟨wwpn, targetId⟩ ||
    (!keys.contains ⟨wwpn, 0⟩ &&
      match lastKey (·.targetId == targetId) keys with
      | some key => key == ⟨allWwpns, targetId⟩ && !keys.contains ⟨wwpn, allTargets⟩
      | none =>
        match lastKey (·.wwpn.1 == 0) keys with
        | some key =>
          key == if keys.contains ⟨wwpn, allTargets⟩ then ⟨wwpn, allTargets⟩
            else ⟨allWwpns, allTargets⟩
        | none => !keys.contains ⟨wwpn, allTargets⟩ && keys.all (·.targetId != 0))

/-- A name of a list is found in it. -/
theorem keyOf_eq : keyOf key keys = if key ∈ keys then some key else none := by
  unfold keyOf
  split_ifs with member
  · cases isKey : keys.find? (· == key) with
    | none => simpa using List.find?_eq_none.1 isKey key member
    | some other =>
      have same : other = key := by simpa using List.find?_some isKey
      rw [same]
  · exact List.find?_eq_none.2 fun other inList same => member (beq_iff_eq.1 same ▸ inList)

/-- The last name with a property is in the list and has it. -/
theorem lastKey_some {property : FcKey → Bool} (last : lastKey property keys = some key) :
    key ∈ keys ∧ property key = true :=
  ⟨List.mem_reverse.1 (List.mem_of_find?_eq_some last), List.find?_some last⟩

/-- There is no last name with a property if none has it. -/
theorem lastKey_eq_none {property : FcKey → Bool} :
    lastKey property keys = none ↔ ∀ key ∈ keys, property key = false := by
  simp [lastKey]

/-- Properties that are the same for all names have the same last name. -/
theorem lastKey_congr {property other : FcKey → Bool}
    (same : ∀ key ∈ keys, property key = other key) :
    lastKey property keys = lastKey other keys := by
  unfold lastKey
  exact List.find?_congr fun key member => same key (List.mem_reverse.1 member)

/-- The second class. -/
theorem classify_eq_wwpn (other : key ≠ ⟨wwpn, targetId⟩) :
    classify wwpn targetId key = .wwpn ↔ key = ⟨wwpn, 0⟩ := by
  unfold classify
  cases key
  split_ifs <;> simp_all

/-- The third class. -/
theorem classify_eq_target (other : key ≠ ⟨wwpn, targetId⟩) (notZero : key ≠ ⟨wwpn, 0⟩) :
    classify wwpn targetId key = .target ↔ key.targetId = targetId := by
  unfold classify
  cases key
  split_ifs <;> simp_all

/-- The fourth class. -/
theorem classify_eq_allWwpn (notZero : key ≠ ⟨wwpn, 0⟩) (elsewhere : key.targetId ≠ targetId) :
    classify wwpn targetId key = .allWwpn ↔ key.wwpn.1 = 0 := by
  unfold classify
  cases key
  split_ifs <;> simp_all

/-- The fifth class. -/
theorem classify_eq_allTarget (notZero : key ≠ ⟨wwpn, 0⟩) (elsewhere : key.targetId ≠ targetId)
    (named : key.wwpn.1 ≠ 0) :
    classify wwpn targetId key = .allTarget ↔ key.targetId = 0 := by
  unfold classify
  cases key
  split_ifs <;> simp_all

/-- Without an exact rule the one for the initiator on library 0 decides. -/
theorem decidingKey_of_zero (absent : ⟨wwpn, targetId⟩ ∉ keys) (zero : ⟨wwpn, 0⟩ ∈ keys) :
    decidingKey wwpn targetId keys = some ⟨wwpn, 0⟩ := by
  have isZero : lastKey (fun key => classify wwpn targetId key == .wwpn) keys =
      some ⟨wwpn, 0⟩ := by
    have other {key : FcKey} (member : key ∈ keys) : key ≠ ⟨wwpn, targetId⟩ :=
      fun same => absent (same ▸ member)
    cases last : lastKey (fun key => classify wwpn targetId key == .wwpn) keys with
    | none =>
      have none := lastKey_eq_none.1 last _ zero
      rw [(classify_eq_wwpn (other zero)).2 rfl] at none
      contradiction
    | some key =>
      have isLast := lastKey_some last
      rw [(classify_eq_wwpn (other isLast.1)).1 (beq_iff_eq.1 isLast.2)]
  unfold decidingKey
  rw [keyOf_eq, if_neg absent, Option.none_or]
  simp only [isZero, Option.some_or]

/-- Without either, a rule on the library decides, then one of all initiators, then one on
library 0. -/
theorem decidingKey_of_not_zero (absent : ⟨wwpn, targetId⟩ ∉ keys) (notZero : ⟨wwpn, 0⟩ ∉ keys) :
    decidingKey wwpn targetId keys =
      match lastKey (·.targetId == targetId) keys with
      | some key => some key
      | none =>
        match lastKey (·.wwpn.1 == 0) keys with
        | some key => some key
        | none => lastKey (·.targetId == 0) keys := by
  have other {key : FcKey} (member : key ∈ keys) : key ≠ ⟨wwpn, targetId⟩ :=
    fun same => absent (same ▸ member)
  have another {key : FcKey} (member : key ∈ keys) : key ≠ ⟨wwpn, 0⟩ :=
    fun same => notZero (same ▸ member)
  have noWwpn : lastKey (fun key => classify wwpn targetId key == .wwpn) keys = none := by
    apply lastKey_eq_none.2
    intro key member
    rw [beq_eq_false_iff_ne, ne_eq, classify_eq_wwpn (other member)]
    exact another member
  have onTarget : lastKey (fun key => classify wwpn targetId key == .target) keys =
      lastKey (·.targetId == targetId) keys := by
    apply lastKey_congr
    intro key member
    rw [Bool.eq_iff_iff, beq_iff_eq, beq_iff_eq, classify_eq_target (other member) (another member)]
  unfold decidingKey
  rw [keyOf_eq, if_neg absent, Option.none_or]
  simp only [noWwpn, onTarget, Option.none_or]
  cases target : lastKey (·.targetId == targetId) keys with
  | some key => rfl
  | none =>
    have elsewhere {key : FcKey} (member : key ∈ keys) : key.targetId ≠ targetId := by
      simpa using lastKey_eq_none.1 target key member
    have ofAll : lastKey (fun key => classify wwpn targetId key == .allWwpn) keys =
        lastKey (·.wwpn.1 == 0) keys := by
      apply lastKey_congr
      intro key member
      rw [Bool.eq_iff_iff, beq_iff_eq, beq_iff_eq,
        classify_eq_allWwpn (another member) (elsewhere member)]
    rw [ofAll, Option.none_or]
    cases all : lastKey (·.wwpn.1 == 0) keys with
    | some key => rfl
    | none =>
      rw [Option.none_or]
      apply lastKey_congr
      intro key member
      have named : key.wwpn.1 ≠ 0 := by simpa using lastKey_eq_none.1 all key member
      rw [Bool.eq_iff_iff, beq_iff_eq, beq_iff_eq,
        classify_eq_allTarget (another member) (elsewhere member) named]

/-- The most specific name without an exact one. -/
theorem mostSpecificKey_of_absent (absent : ⟨wwpn, targetId⟩ ∉ keys) :
    mostSpecificKey wwpn targetId keys =
      if ⟨wwpn, allTargets⟩ ∈ keys then some ⟨wwpn, allTargets⟩
      else if ⟨allWwpns, targetId⟩ ∈ keys then some ⟨allWwpns, targetId⟩
      else if ⟨allWwpns, allTargets⟩ ∈ keys then some ⟨allWwpns, allTargets⟩
      else none := by
  simp only [mostSpecificKey, keyOf_eq, absent, if_false, Option.none_or]
  split_ifs <;> rfl

/-- The names for which the most specific rule decides. -/
theorem faithful_iff (device : targetId < tlMaxDevices) :
    faithful wwpn targetId keys = true ↔
      decidingKey wwpn targetId keys = mostSpecificKey wwpn targetId keys := by
  have notAll : targetId ≠ allTargets := by
    unfold allTargets
    unfold tlMaxDevices at device
    omega
  unfold faithful
  by_cases exactly : (⟨wwpn, targetId⟩ : FcKey) ∈ keys
  · simp [decidingKey, mostSpecificKey, keyOf_eq, exactly]
  rw [mostSpecificKey_of_absent exactly]
  by_cases zero : (⟨wwpn, 0⟩ : FcKey) ∈ keys
  · have inDevice : targetId ≠ 0 := fun isZero => exactly (isZero ▸ zero)
    rw [decidingKey_of_zero exactly zero]
    split_ifs <;> simp [allTargets, inDevice.symm, exactly, zero]
  rw [decidingKey_of_not_zero exactly zero]
  simp only [List.contains_eq_mem, exactly, zero, decide_false, Bool.false_or, Bool.not_false,
    Bool.true_and]
  cases target : lastKey (·.targetId == targetId) keys with
  | some key =>
    have isLast := lastKey_some target
    have onTarget : key.targetId = targetId := by simpa using isLast.2
    have notAllTargets (name : ℕ × ℕ) : key ≠ ⟨name, allTargets⟩ :=
      fun same => notAll (onTarget ▸ same ▸ rfl)
    by_cases named : (⟨wwpn, allTargets⟩ : FcKey) ∈ keys
    · simp [named, notAllTargets]
    by_cases all : (⟨allWwpns, targetId⟩ : FcKey) ∈ keys
    · simp [named, all]
    · have other : key ≠ ⟨allWwpns, targetId⟩ := fun same => all (same ▸ isLast.1)
      split_ifs <;> simp [other, notAllTargets]
  | none =>
    have elsewhere : (⟨allWwpns, targetId⟩ : FcKey) ∉ keys := fun member => by
      simpa using lastKey_eq_none.1 target _ member
    rw [if_neg elsewhere]
    cases all : lastKey (·.wwpn.1 == 0) keys with
    | some key =>
      have isLast := lastKey_some all
      by_cases named : (⟨wwpn, allTargets⟩ : FcKey) ∈ keys
      · simp [named]
      by_cases allOfAll : (⟨allWwpns, allTargets⟩ : FcKey) ∈ keys
      · simp [named, allOfAll]
      · have other : key ≠ ⟨allWwpns, allTargets⟩ := fun same => allOfAll (same ▸ isLast.1)
        simp [named, allOfAll, other]
    | none =>
      have notAllOfAll : (⟨allWwpns, allTargets⟩ : FcKey) ∉ keys := fun member => by
        simpa [allWwpns] using lastKey_eq_none.1 all _ member
      rw [if_neg notAllOfAll]
      by_cases named : (⟨wwpn, allTargets⟩ : FcKey) ∈ keys
      · have notNamed : lastKey (·.targetId == 0) keys ≠ some ⟨wwpn, allTargets⟩ := fun last => by
          simpa [allTargets] using (lastKey_some last).2
        simp [named, notNamed]
      · simp [named, lastKey_eq_none]

/-- With faithful names the most specific rule of the target decides. -/
theorem Distinct.check_eq_mostSpecificSent (distinct : Distinct list)
    (device : targetId < tlMaxDevices) (names : faithful wwpn targetId (list.map (·.key)) = true) :
    fcInitiatorCheck list wwpn targetId = mostSpecificSent list wwpn targetId := by
  rw [← distinct.eq_withActions]
  exact check_right_iff.2 ((faithful_iff device).1 names) _

/-! ## Names as texts -/

/-- A digit in upper case. -/
def isUpper (digit : UInt8) : Bool := decide (65 ≤ digit) && decide (digit ≤ 70)

/-- A hexadecimal digit. -/
def isHex (digit : UInt8) : Bool :=
  decide (48 ≤ digit) && decide (digit ≤ 57) || decide (97 ≤ digit) && decide (digit ≤ 102) ||
    isUpper digit

/-- What a hexadecimal digit stands for. -/
def hexValue (digit : UInt8) : UInt8 :=
  if 48 ≤ digit ∧ digit ≤ 57 then digit - 48 else if isUpper digit then digit - 55 else digit - 87

/-- A character of a text. -/
def charAt (text : List UInt8) (place : ℕ) : UInt8 := text[place]?.getD 0

/-- A text is a name: eight pairs of digits, with a character between one pair and the next. -/
def isWwpn (text : List UInt8) : Bool :=
  text.length == 23 && (List.range 8).all fun j =>
    isHex (charAt text (3 * j)) && isHex (charAt text (3 * j + 1))

/-- The number that a text stands for, which is zero if it is empty. -/
def wwpnValue (text : List UInt8) : ℕ :=
  if text.isEmpty then 0
  else ofBe ((List.range 8).map fun j =>
    hexValue (charAt text (3 * j)) * 16 + hexValue (charAt text (3 * j + 1)))

/-- A digit that is not in upper case is read as what it stands for. -/
theorem charToInt_eq {digit : UInt8} (isDigit : isHex digit = true) (lower : isUpper digit = false) :
    charToInt digit = hexValue digit ∧ hexValue digit < 16 := by
  unfold charToInt hexValue
  by_cases decimal : 48 ≤ digit ∧ digit ≤ 57
  · rw [if_pos decimal, if_pos decimal]
    exact ⟨rfl, by grind⟩
  · have isLetter : 97 ≤ digit ∧ digit ≤ 102 := by
      simpa [isHex, lower, decimal] using isDigit
    rw [if_neg decimal, if_neg decimal, if_neg (by simp [lower])]
    exact ⟨by grind, by grind⟩

/-- A byte from its two halves. -/
theorem shiftLeft_or_eq {high low : UInt8} (highSmall : high < 16) (lowSmall : low < 16) :
    (high <<< 4) ||| low = high * 16 + low := by
  have halves : ∀ high < 16, ∀ low < 16,
      (UInt8.ofNat high <<< 4) ||| UInt8.ofNat low = UInt8.ofNat high * 16 + UInt8.ofNat low := by
    decide
  have same := halves high.toNat (UInt8.lt_iff_toNat_lt.1 highSmall) low.toNat
    (UInt8.lt_iff_toNat_lt.1 lowSmall)
  rwa [UInt8.ofNat_toNat, UInt8.ofNat_toNat] at same

/-- A name in lower case is read as what it stands for. -/
theorem charToWwpn_eq (isName : text = [] ∨ isWwpn text = true ∧ text.any isUpper = false) :
    charToWwpn text = wwpnValue text := by
  rcases isName with rfl | ⟨isName, lower⟩
  · rfl
  · simp only [isWwpn, Bool.and_eq_true, beq_iff_eq, List.all_eq_true, List.mem_range] at isName
    obtain ⟨isLong, digits⟩ := isName
    have isLower {place : ℕ} (inside : place < 23) : isUpper (charAt text place) = false := by
      rw [charAt, List.getElem?_eq_getElem (by omega), Option.getD_some]
      simpa using List.any_eq_false.1 lower _ (List.getElem_mem (by omega))
    have notEmpty : text.isEmpty = false := by
      cases text with
      | nil => cases isLong
      | cons => rfl
    simp only [charToWwpn, wwpnValue, notEmpty, Bool.false_eq_true, if_false]
    refine congrArg ofBe (List.map_congr_left fun j inside => ?_)
    have small := List.mem_range.1 inside
    have high := charToInt_eq (digits j small).1 (isLower (by omega))
    have low := charToInt_eq (digits j small).2 (isLower (by omega))
    rw [← charAt, ← charAt, high.1, low.1, shiftLeft_or_eq high.2 low.2]

/-! ## The rules of the daemon -/

/-- Whom a rule is meant for; none stands for all. -/
structure FcName where
  /-- The initiator. -/
  wwpn : Option (ℕ × ℕ)
  /-- The library. -/
  targetId : Option ℕ
  deriving DecidableEq, Repr

/-- Whom a rule of the daemon is meant for. -/
def FcRuleSpec.meant (spec : FcRuleSpec) : FcName where
  wwpn := if spec.wwpnValid then some (wwpnValue spec.wwpn, wwpnValue spec.wwpn1) else none
  targetId := spec.vtl.map Fin.val

/-- The rule of the daemon that is meant for someone. -/
def specFor (name : FcName) (specs : List FcRuleSpec) : Option FcRuleSpec :=
  specs.find? fun spec => spec.meant == name

/-- What the most specific rule of the daemon says about an initiator and a library: the rule for both,
for the initiator and all libraries, for all initiators and the library, or for all. Without one the
initiator is allowed. -/
def mostSpecific (specs : List FcRuleSpec) (wwpn : ℕ × ℕ) (targetId : ℕ) : FcAction :=
  (((specFor ⟨some wwpn, some targetId⟩ specs).or ((specFor ⟨some wwpn, none⟩ specs).or
    ((specFor ⟨none, some targetId⟩ specs).or (specFor ⟨none, none⟩ specs)))).map (·.rule)).getD .allow

/-- A name matches an initiator and a library. -/
def FcName.matches (name : FcName) (wwpn : ℕ × ℕ) (targetId : ℕ) : Bool :=
  name.wwpn.all (· == wwpn) && name.targetId.all (· == targetId)

/-- Rules say something about a name. -/
def Tells (specs : List FcRuleSpec) (name : FcName) (action : FcAction) : Prop :=
  ∃ spec ∈ specs, spec.meant = name ∧ spec.rule = action

/-- A rule whose names are read as they are meant: they are names in lower case, and not zero. -/
structure FcRuleSpec.Plain (spec : FcRuleSpec) : Prop where
  /-- In lower case. -/
  lower : ∀ text ∈ [spec.wwpn, spec.wwpn1], text = [] ∨ isWwpn text = true ∧ text.any isUpper = false
  /-- Not zero. -/
  nonzero : spec.meant.wwpn ≠ some allWwpns

/-- A request that adds a plain rule, while there is no rule with other texts for the same name. -/
def FcRequest.Clear (config : FcConfig) : FcRequest → Prop
  | .add spec => spec.Plain ∧
      ∀ other ∈ config.specs, other.meant = spec.meant → spec.sameNames other = true
  | .remove _ => True

/-- A clear request as a step. -/
def ClearStep (config : FcConfig) (request : FcRequest) (after : FcConfig) : Prop :=
  FcConfigStep config request after ∧ request.Clear config

/-- The order in which the target keeps the rules of the daemon: rules for all initiators in front, the
newest first, then the others. -/
def targetOrder (specs : List FcRuleSpec) : List FcRuleSpec :=
  (specs.filter fun spec => !spec.wwpnValid).reverse ++ specs.filter (·.wwpnValid)

/-- The target has the rules of the daemon. -/
structure FcConfig.Mirrored (config : FcConfig) : Prop where
  /-- Names are read as they are meant. -/
  plain : ∀ spec ∈ config.specs, spec.Plain
  /-- No two rules are meant for the same. -/
  apart : (config.specs.map FcRuleSpec.meant).Nodup
  /-- The rules of the target. -/
  rules : config.rules = (targetOrder config.specs).map fcRuleConfigFill

/-- How a name is sent to the target. -/
def FcName.sent (name : FcName) : FcKey := ⟨name.wwpn.getD allWwpns, name.targetId.getD allTargets⟩

/-- A name that is told apart from all others when it is sent. -/
structure FcName.Proper (name : FcName) : Prop where
  /-- An initiator is not zero. -/
  wwpn : name.wwpn ≠ some allWwpns
  /-- A library is one of the table. -/
  targetId : ∀ targetId, name.targetId = some targetId → targetId < tlMaxDevices

/-- Proper names are told apart when they are sent. -/
theorem FcName.Proper.sent_inj {first second : FcName} (proper : first.Proper)
    (otherProper : second.Proper) (same : first.sent = second.sent) : first = second := by
  have isWwpn := congrArg FcKey.wwpn same
  have isTarget := congrArg FcKey.targetId same
  have notAll (targetId : ℕ) (device : targetId < tlMaxDevices) : targetId ≠ allTargets := by
    unfold tlMaxDevices at device
    unfold allTargets
    omega
  cases first with
  | mk firstWwpn firstTarget =>
    cases second with
    | mk secondWwpn secondTarget =>
      simp only [FcName.sent] at isWwpn isTarget
      congr 1
      · cases firstWwpn with
        | none =>
          cases secondWwpn with
          | none => rfl
          | some wwpn => exact absurd (congrArg some isWwpn.symm) otherProper.wwpn
        | some wwpn =>
          cases secondWwpn with
          | none => exact absurd (congrArg some isWwpn) proper.wwpn
          | some other => exact congrArg some isWwpn
      · cases firstTarget with
        | none =>
          cases secondTarget with
          | none => rfl
          | some targetId => exact absurd isTarget.symm (notAll _ (otherProper.targetId _ rfl))
        | some targetId =>
          cases secondTarget with
          | none => exact absurd isTarget (notAll _ (proper.targetId _ rfl))
          | some other => exact congrArg some isTarget

/-- A plain rule has a proper name. -/
theorem FcRuleSpec.Plain.proper (plain : spec.Plain) : spec.meant.Proper := by
  refine ⟨plain.nonzero, fun targetId isTarget => ?_⟩
  obtain ⟨vtl, -, rfl⟩ := Option.map_eq_some_iff.1 isTarget
  exact vtl.isLt

/-- A plain rule is sent under the name that is meant. -/
theorem FcRuleSpec.Plain.key_eq (plain : spec.Plain) :
    (fcRuleConfigFill spec).key = spec.meant.sent := by
  have first := charToWwpn_eq (plain.lower spec.wwpn (by simp))
  have second := charToWwpn_eq (plain.lower spec.wwpn1 (by simp))
  rw [fcRuleConfigFill, FcName.sent, FcRuleSpec.meant, first, second]
  by_cases named : spec.wwpnValid = true
  · rw [if_pos named]
    rfl
  · obtain ⟨noFirst, noSecond⟩ : spec.wwpn = [] ∧ spec.wwpn1 = [] := by
      simpa [FcRuleSpec.wwpnValid] using named
    rw [if_neg named, noFirst, noSecond]
    rfl

/-- Plain rules that are sent under the same name are meant for the same. -/
theorem FcRuleSpec.Plain.meant_eq (plain : spec.Plain) (otherPlain : other.Plain)
    (same : (fcRuleConfigFill spec).key = (fcRuleConfigFill other).key) : spec.meant = other.meant := by
  rw [plain.key_eq, otherPlain.key_eq] at same
  exact plain.proper.sent_inj otherPlain.proper same

/-- The target has all rules. -/
theorem targetOrder_perm : (targetOrder specs).Perm specs := by
  have split := List.filter_append_perm (fun spec : FcRuleSpec => !spec.wwpnValid) specs
  simp only [Bool.not_not] at split
  exact ((List.reverse_perm _).append_right _).trans split

/-- Removing rules does not change the order of the others. -/
theorem targetOrder_filter (keeps : FcRuleSpec → Bool) :
    targetOrder (specs.filter keeps) = (targetOrder specs).filter keeps := by
  simp only [targetOrder, List.filter_append, List.filter_reverse, List.filter_filter, Bool.and_comm]

/-- The rules of the target are distinct. -/
theorem FcConfig.Mirrored.distinct (mirrored : config.Mirrored) : Distinct config.rules := by
  have distinct : ((targetOrder config.specs).map FcRuleSpec.meant).Nodup :=
    (targetOrder_perm.map _).nodup_iff.2 mirrored.apart
  have plain {spec : FcRuleSpec} (member : spec ∈ targetOrder config.specs) : spec.Plain :=
    mirrored.plain spec (targetOrder_perm.mem_iff.1 member)
  rw [Distinct, mirrored.rules, List.map_map]
  refine List.Nodup.map_on (fun spec member other otherMember same => ?_) distinct.of_map
  exact List.inj_on_of_nodup_map distinct member otherMember
    ((plain member).meant_eq (plain otherMember) same)

/-- A rule is added to both. -/
theorem FcConfig.Mirrored.add (mirrored : config.Mirrored) (plain : spec.Plain)
    (apart : ∀ other ∈ config.specs, other.meant = spec.meant → spec.sameNames other = true) :
    (tlServerAddFcRule config spec).Mirrored := by
  unfold tlServerAddFcRule
  by_cases known : config.specs.any spec.sameNames = true
  · rwa [if_pos known]
  · rw [if_neg known]
    have new : spec.meant ∉ config.specs.map FcRuleSpec.meant := by
      intro member
      obtain ⟨other, inSpecs, same⟩ := List.mem_map.1 member
      exact known (List.any_eq_true.2 ⟨other, inSpecs, apart other inSpecs same⟩)
    have newKey : ¬config.rules.any (fun iter => iter.key == (fcRuleConfigFill spec).key) = true := by
      intro found
      obtain ⟨iter, member, same⟩ := List.any_eq_true.1 found
      rw [mirrored.rules] at member
      obtain ⟨other, inOrder, rfl⟩ := List.mem_map.1 member
      have inSpecs := targetOrder_perm.mem_iff.1 inOrder
      exact new (List.mem_map.2 ⟨other, inSpecs,
        (mirrored.plain other inSpecs).meant_eq plain (beq_iff_eq.1 same)⟩)
    refine ⟨fun other member => ?_, ?_, ?_⟩
    · rcases List.mem_append.1 member with before | isNew
      · exact mirrored.plain other before
      · rwa [List.mem_singleton.1 isNew]
    · rw [List.map_append, List.map_singleton, ← List.concat_eq_append]
      exact mirrored.apart.concat new
    · rw [targetAddFcRule, if_neg newKey, mirrored.rules, plain.key_eq, FcName.sent, FcRuleSpec.meant]
      by_cases named : spec.wwpnValid = true
      · have notZero : (wwpnValue spec.wwpn, wwpnValue spec.wwpn1) ≠ allWwpns := by
          have nonzero := plain.nonzero
          rw [FcRuleSpec.meant, if_pos named] at nonzero
          exact fun isZero => nonzero (congrArg some isZero)
        rw [if_pos named, Option.getD_some, if_neg notZero]
        simp [targetOrder, named]
      · rw [if_neg named, Option.getD_none, if_pos rfl]
        simp [targetOrder, named]

/-- Rules are removed from both. -/
theorem FcConfig.Mirrored.remove (mirrored : config.Mirrored) (spec : FcRuleSpec) :
    (tlServerRemoveFcRule config spec).Mirrored := by
  refine ⟨fun other member => mirrored.plain other (List.mem_of_mem_filter member),
    mirrored.apart.sublist (List.filter_sublist.map _), ?_⟩
  have keeps : ∀ other ∈ targetOrder config.specs,
      ((config.specs.filter spec.selects).all fun selected =>
        (fcRuleConfigFill other).key != (fcRuleConfigFill selected).key) = !spec.selects other := by
    intro other inOrder
    have inSpecs := targetOrder_perm.mem_iff.1 inOrder
    cases selects : spec.selects other with
    | true =>
      rw [Bool.not_true, List.all_eq_false]
      exact ⟨other, List.mem_filter.2 ⟨inSpecs, selects⟩, by simp⟩
    | false =>
      rw [Bool.not_false, List.all_eq_true]
      intro selected member
      obtain ⟨selectedSpecs, isSelected⟩ := List.mem_filter.1 member
      rw [bne_iff_ne]
      intro same
      have isOther := List.inj_on_of_nodup_map mirrored.apart inSpecs selectedSpecs
        ((mirrored.plain other inSpecs).meant_eq (mirrored.plain selected selectedSpecs) same)
      rw [isOther, isSelected] at selects
      cases selects
  rw [tlServerRemoveFcRule, mirrored.distinct.foldl_remove, mirrored.rules, targetOrder_filter,
    List.filter_map]
  exact congrArg (List.map fcRuleConfigFill) (List.filter_congr keeps)

/-- Clear requests keep the target's rules those of the daemon. -/
theorem Run.fc_mirrored {requests : List FcRequest}
    (run : Run ClearStep ⟨[], []⟩ requests config) : config.Mirrored := by
  refine run.invariant ⟨by simp, List.nodup_nil, rfl⟩ ?_
  rintro before request after mirrored ⟨rfl, clear⟩
  cases request with
  | add spec => exact mirrored.add clear.1 clear.2
  | remove spec => exact mirrored.remove spec

/-- The rule for a name is the same for the target and for the daemon. -/
theorem FcConfig.Mirrored.ruleFor_eq (mirrored : config.Mirrored) {name : FcName}
    (proper : name.Proper) :
    ruleFor name.sent config.rules = (specFor name config.specs).map fcRuleConfigFill := by
  apply Option.ext
  intro fcRule
  rw [ruleFor, find?_eq_some_iff_of_nodup mirrored.distinct, Option.map_eq_some_iff]
  simp only [specFor, find?_eq_some_iff_of_nodup mirrored.apart, mirrored.rules, List.mem_map,
    targetOrder_perm.mem_iff]
  constructor
  · rintro ⟨⟨spec, member, rfl⟩, same⟩
    rw [(mirrored.plain spec member).key_eq] at same
    exact ⟨spec, ⟨member, (mirrored.plain spec member).proper.sent_inj proper same⟩, rfl⟩
  · rintro ⟨spec, ⟨member, rfl⟩, rfl⟩
    exact ⟨⟨spec, member, rfl⟩, (mirrored.plain spec member).key_eq⟩

/-- The most specific rule is the same for the target and for the daemon. -/
theorem FcConfig.Mirrored.mostSpecific_eq (mirrored : config.Mirrored)
    (device : targetId < tlMaxDevices) :
    mostSpecificSent config.rules wwpn targetId = mostSpecific config.specs wwpn targetId := by
  have onTarget (name : Option (ℕ × ℕ)) (named : name ≠ some allWwpns) :
      ruleFor ⟨name.getD allWwpns, targetId⟩ config.rules =
        (specFor ⟨name, some targetId⟩ config.specs).map fcRuleConfigFill := by
    have proper : FcName.Proper ⟨name, some targetId⟩ := by
      refine ⟨named, fun other isTarget => ?_⟩
      rwa [← Option.some.inj isTarget]
    exact mirrored.ruleFor_eq proper
  have onAll (name : Option (ℕ × ℕ)) (named : name ≠ some allWwpns) :
      ruleFor ⟨name.getD allWwpns, allTargets⟩ config.rules =
        (specFor ⟨name, none⟩ config.specs).map fcRuleConfigFill := by
    have proper : FcName.Proper ⟨name, none⟩ := ⟨named, fun other isTarget => by cases isTarget⟩
    exact mirrored.ruleFor_eq proper
  have allOnTarget := onTarget none (by simp)
  have allOnAll := onAll none (by simp)
  unfold mostSpecificSent mostSpecific mostSpecificRule
  by_cases isAll : wwpn = allWwpns
  · -- a zero name is sent for all initiators, and no rule is meant for it
    have noSpec (target : Option ℕ) : specFor ⟨some wwpn, target⟩ config.specs = none := by
      refine List.find?_eq_none.2 fun spec member same => ?_
      apply (mirrored.plain spec member).nonzero
      rw [beq_iff_eq.1 same, isAll]
    rw [noSpec, noSpec, Option.none_or, Option.none_or, isAll]
    simp only [Option.getD_none] at allOnTarget allOnAll
    rw [allOnTarget, allOnAll]
    cases specFor ⟨none, some targetId⟩ config.specs <;>
      cases specFor ⟨none, none⟩ config.specs <;> rfl
  · have named : some wwpn ≠ some allWwpns := fun same => isAll (Option.some.inj same)
    have wwpnOnTarget := onTarget (some wwpn) named
    have wwpnOnAll := onAll (some wwpn) named
    simp only [Option.getD_none, Option.getD_some] at allOnTarget allOnAll wwpnOnTarget wwpnOnAll
    rw [allOnTarget, allOnAll, wwpnOnTarget, wwpnOnAll]
    simp only [← Option.map_or, Option.map_map]
    rfl

/-- The most specific rule depends on the matching rules only. -/
theorem mostSpecific_congr {first second : List FcRuleSpec}
    (apart : (first.map FcRuleSpec.meant).Nodup) (otherApart : (second.map FcRuleSpec.meant).Nodup)
    (same : ∀ name action, name.matches wwpn targetId = true →
      (Tells first name action ↔ Tells second name action)) :
    mostSpecific first wwpn targetId = mostSpecific second wwpn targetId := by
  have tells (specs : List FcRuleSpec) (apart : (specs.map FcRuleSpec.meant).Nodup) (name : FcName)
      (action : FcAction) : (specFor name specs).map (·.rule) = some action ↔ Tells specs name action := by
    rw [Option.map_eq_some_iff]
    simp only [specFor, find?_eq_some_iff_of_nodup apart, Tells, and_assoc]
  have one (name : FcName) (isMatch : name.matches wwpn targetId = true) :
      (specFor name first).map (·.rule) = (specFor name second).map (·.rule) := by
    apply Option.ext
    intro action
    rw [tells first apart, tells second otherApart, same name action isMatch]
  unfold mostSpecific
  simp only [Option.map_or]
  rw [one _ (by simp [FcName.matches]), one _ (by simp [FcName.matches]),
    one _ (by simp [FcName.matches]), one _ (by simp [FcName.matches])]

/-! ## Rules that say something else -/

/-- A rule to be configured that says something else. -/
def FcRuleSpec.saying (actions : FcKey → FcAction) (spec : FcRuleSpec) : FcRuleSpec :=
  { spec with rule := actions (fcRuleConfigFill spec).key }

/-- A configuration whose rules say something else. -/
def FcConfig.saying (actions : FcKey → FcAction) (config : FcConfig) : FcConfig :=
  ⟨config.specs.map (·.saying actions), withActions actions (config.rules.map (·.key))⟩

/-- A request whose rule says something else. -/
def FcRequest.saying (actions : FcKey → FcAction) : FcRequest → FcRequest
  | .add spec => .add (spec.saying actions)
  | .remove spec => .remove spec

section Saying

variable {actions : FcKey → FcAction}

/-- A rule that is known already and says the same changes nothing. -/
theorem setFcRule_withActions :
    setFcRule ⟨key, actions key⟩ (withActions actions keys) = withActions actions keys := by
  induction keys with
  | nil => rfl
  | cons first rest ih =>
    simp only [withActions, List.map_cons, setFcRule] at ih ⊢
    split_ifs with same
    · rw [same]
    · rw [ih]

/-- Adding goes by names. -/
theorem targetAddFcRule_withActions :
    targetAddFcRule (withActions actions (list.map (·.key))) ⟨fcRule.key, actions fcRule.key⟩ =
      withActions actions ((targetAddFcRule list fcRule).map (·.key)) := by
  have known : ((withActions actions (list.map (·.key))).any fun iter => iter.key == fcRule.key) =
      list.any fun iter => iter.key == fcRule.key := by
    simp only [withActions, List.any_map]
    rfl
  unfold targetAddFcRule
  rw [known]
  split_ifs
  · rw [setFcRule_withActions, setFcRule_keys]
  · rfl
  · simp [withActions]

/-- Removing goes by names. -/
theorem targetRemoveFcRule_withActions :
    targetRemoveFcRule (withActions actions (list.map (·.key))) key =
      withActions actions ((targetRemoveFcRule list key).map (·.key)) := by
  simp only [targetRemoveFcRule, withActions, List.map_map, List.eraseP_map]
  rfl

/-- The daemon goes by names. -/
theorem FcConfigStep.saying {request : FcRequest} {after : FcConfig}
    (step : FcConfigStep config request after) :
    FcConfigStep (config.saying actions) (request.saying actions) (after.saying actions) := by
  unfold FcConfigStep at step ⊢
  rw [step]
  cases request with
  | add spec =>
    have known : (config.specs.map (·.saying actions)).any (spec.saying actions).sameNames =
        config.specs.any spec.sameNames := by
      rw [List.any_map]
      rfl
    simp only [FcRequest.saying, tlServerAddFcRule, FcConfig.saying, known]
    split_ifs
    · rfl
    · rw [List.map_append, List.map_singleton, ← targetAddFcRule_withActions]
      rfl
  | remove spec =>
    simp only [FcRequest.saying, tlServerRemoveFcRule, FcConfig.saying, List.filter_map,
      List.foldl_map]
    congr 1
    have same : spec.selects ∘ (·.saying actions) = spec.selects := rfl
    rw [same]
    generalize config.rules = list
    induction config.specs.filter spec.selects generalizing list with
    | nil => rfl
    | cons first rest ih =>
      rw [List.foldl_cons, List.foldl_cons, ih, ← targetRemoveFcRule_withActions]
      rfl

/-- A request stays clear. -/
theorem FcRequest.Clear.saying {request : FcRequest} (clear : request.Clear config) :
    (request.saying actions).Clear (config.saying actions) := by
  cases request with
  | add spec =>
    refine ⟨⟨clear.1.lower, clear.1.nonzero⟩, fun other member same => ?_⟩
    obtain ⟨before, inSpecs, rfl⟩ := List.mem_map.1 member
    exact clear.2 before inSpecs same
  | remove spec => trivial

/-- Rules that say something else can be configured as well. -/
theorem Run.saying {requests : List FcRequest}
    (run : Run ClearStep ⟨[], []⟩ requests config) :
    Run ClearStep ⟨[], []⟩ (requests.map (·.saying actions)) (config.saying actions) := by
  induction run with
  | nil => exact .nil
  | snoc _ last ih =>
    rw [List.map_append]
    exact .snoc ih ⟨last.1.saying, last.2.saying⟩

end Saying

/-- The names that the target has, in its order. -/
def targetNames (specs : List FcRuleSpec) : List FcKey := (targetOrder specs).map (·.meant.sent)

/-- The names of the rules of the target. -/
theorem FcConfig.Mirrored.names (mirrored : config.Mirrored) :
    config.rules.map (·.key) = targetNames config.specs := by
  rw [mirrored.rules, List.map_map, targetNames]
  apply List.map_congr_left
  intro spec member
  exact (mirrored.plain spec (targetOrder_perm.mem_iff.1 member)).key_eq

/-- With faithful names the most specific rule decides. -/
theorem FcConfig.Mirrored.check_eq (mirrored : config.Mirrored) (device : targetId < tlMaxDevices)
    (names : faithful wwpn targetId (targetNames config.specs) = true) :
    fcInitiatorCheck config.rules wwpn targetId = mostSpecific config.specs wwpn targetId := by
  rw [mirrored.distinct.check_eq_mostSpecificSent device (mirrored.names ▸ names),
    mirrored.mostSpecific_eq device]

/-- A device of the target is asked about, after clear requests. If the names of the configured rules
are faithful, the check returns what the most specific rule of the daemon says. If it does so whatever
the rules say that are asked for, the names are faithful. And two configurations with faithful names
whose matching rules say the same decide the same. -/
theorem fc_decision_iff {requests : List FcRequest}
    (run : Run ClearStep ⟨[], []⟩ requests config) (device : targetId < tlMaxDevices) :
    (faithful wwpn targetId (targetNames config.specs) = true →
      fcInitiatorCheck config.rules wwpn targetId = mostSpecific config.specs wwpn targetId) ∧
    ((∀ actions after, Run ClearStep ⟨[], []⟩ (requests.map (·.saying actions)) after →
        fcInitiatorCheck after.rules wwpn targetId = mostSpecific after.specs wwpn targetId) →
      faithful wwpn targetId (targetNames config.specs) = true) ∧
    (faithful wwpn targetId (targetNames config.specs) = true →
      ∀ others after, Run ClearStep ⟨[], []⟩ others after →
        faithful wwpn targetId (targetNames after.specs) = true →
        (∀ name action, name.matches wwpn targetId = true →
          (Tells config.specs name action ↔ Tells after.specs name action)) →
        fcInitiatorCheck config.rules wwpn targetId = fcInitiatorCheck after.rules wwpn targetId) := by
  have mirrored := run.fc_mirrored
  refine ⟨mirrored.check_eq device, fun right => ?_, fun names others after otherRun otherNames same => ?_⟩
  · rw [← mirrored.names]
    apply (faithful_iff device).2
    apply check_right_iff.1
    intro actions
    have saying : Run ClearStep ⟨[], []⟩ (requests.map (·.saying actions)) (config.saying actions) :=
      run.saying
    exact (right actions _ saying).trans (saying.fc_mirrored.mostSpecific_eq device).symm
  · have otherMirrored := otherRun.fc_mirrored
    rw [mirrored.check_eq device names, otherMirrored.check_eq device otherNames]
    exact mostSpecific_congr mirrored.apart otherMirrored.apart same

/-- A name of which the last pair of digits is given. -/
def sampleName (high low : UInt8) : List UInt8 :=
  [0x35, 0x30, 0x3A, 0x30, 0x31, 0x3A, 0x34, 0x33, 0x3A, 0x38, 0x30, 0x3A, 0x31, 0x32, 0x3A, 0x33, 0x34,
    0x3A, 0x35, 0x36, 0x3A, high, low]

/-- The initiator `50:01:43:80:12:34:56:ab`. -/
def sampleInitiator : ℕ × ℕ := (0x50014380123456AB, 0)

/-- The library with the id 1. -/
def firstLibrary : Fin tlMaxDevices := ⟨1, by decide⟩

/-- No initiator may use any library. -/
def allDenied : FcRuleSpec := ⟨[], [], none, .disallow⟩

/-- One initiator may use library 1. -/
def onePermitted : FcRuleSpec := ⟨sampleName 0x61 0x62, [], some firstLibrary, .allow⟩

/-- No initiator may use any library, but one may use library 1. -/
theorem fc_decision_permitted :
    fcInitiatorCheck [fcRuleConfigFill allDenied, fcRuleConfigFill onePermitted] sampleInitiator 1 =
        mostSpecific [allDenied, onePermitted] sampleInitiator 1 ∧
      mostSpecific [allDenied, onePermitted] sampleInitiator 1 = .allow := by
  have denied : ClearStep ⟨[], []⟩ (.add allDenied) ⟨[allDenied], [fcRuleConfigFill allDenied]⟩ :=
    ⟨by unfold FcConfigStep; decide, ⟨by decide, by decide⟩, by decide⟩
  have permitted : ClearStep ⟨[allDenied], [fcRuleConfigFill allDenied]⟩ (.add onePermitted)
      ⟨[allDenied, onePermitted], [fcRuleConfigFill allDenied, fcRuleConfigFill onePermitted]⟩ :=
    ⟨by unfold FcConfigStep; decide, ⟨by decide, by decide⟩, by decide⟩
  exact ⟨(fc_decision_iff (.snoc (.snoc .nil denied) permitted) (by decide)).1 (by decide), by decide⟩

/-- The requests are made, and the initiator asks for library 1: what the target decides, and what the
most specific rule of the daemon says. -/
def Decides (requests : List FcRequest) (decision right : FcAction) : Prop :=
  ∃ config, Run FcConfigStep ⟨[], []⟩ requests config ∧
    fcInitiatorCheck config.rules sampleInitiator 1 = decision ∧
    mostSpecific config.specs sampleInitiator 1 = right

/-- A rule that keeps an initiator from all libraries does not keep it from library 1, and one that
keeps another initiator from library 1 does. A rule whose name is in upper case is lost behind one for
another initiator. A rule for all is gone when one for a zero name was added and removed. -/
theorem fcInitiatorCheck_unfaithful :
    Decides [.add ⟨sampleName 0x61 0x62, [], none, .disallow⟩] .allow .disallow ∧
    Decides [.add ⟨sampleName 0x63 0x64, [], some firstLibrary, .disallow⟩] .disallow .allow ∧
    Decides [.add ⟨sampleName 0x41 0x42, [], some firstLibrary, .disallow⟩,
      .add ⟨sampleName 0x63 0x64, [], some firstLibrary, .allow⟩] .allow .disallow ∧
    Decides [.add allDenied, .add ⟨List.replicate 23 0x30, [], none, .allow⟩,
      .remove ⟨List.replicate 23 0x30, [], none, .allow⟩] .allow .disallow := by
  refine ⟨⟨_, .snoc .nil rfl, ?_, ?_⟩, ⟨_, .snoc .nil rfl, ?_, ?_⟩,
    ⟨_, .snoc (.snoc .nil rfl) rfl, ?_, ?_⟩,
    ⟨_, .snoc (.snoc (.snoc .nil rfl) rfl) rfl, ?_, ?_⟩⟩ <;> decide

end VirtualTape
