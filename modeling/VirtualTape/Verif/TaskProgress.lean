import Mathlib.Data.List.Nodup
import VirtualTape.Verif.TaskOrder

/-!
# Progress of an initiator's commands

The first command of a queue runs, so as long as running commands are completed every other command
moves forward until it is started itself. It is started only once, because a start is the only way
in which a command stops waiting.
-/

namespace VirtualTape

variable {s t : TaskState} {label : TaskLabel} {id : Nat}

/-- A command has arrived and does not wait. -/
def TaskState.Begun (s : TaskState) (id : Nat) : Prop :=
  id < s.arrived ∧ ∀ ctio ∈ s.istate.queueList, ctio.id = id → ctio.queued = true

/-- The number of commands on the list that arrived before a given one. -/
def TaskState.ahead (s : TaskState) (id : Nat) : Nat :=
  (s.istate.queueList.map Ctio.id).countP fun other => decide (other < id)

/-- Two commands of one number are one command. -/
theorem TaskState.Sound.unique (sound : s.Sound) {a b : Ctio} (isA : a ∈ s.istate.queueList)
    (isB : b ∈ s.istate.queueList) (same : a.id = b.id) : a = b := by
  obtain ⟨ahead, behind, split⟩ := List.append_of_mem isB
  have sorted := sound.sorted
  rw [split, List.pairwise_append, List.pairwise_cons] at sorted
  rw [split, List.mem_append, List.mem_cons] at isA
  obtain isA | isA | isA := isA
  · exact absurd (sorted.2.2 a isA b List.mem_cons_self) (by omega)
  · exact isA
  · exact absurd (sorted.2.1.1 a isA) (by omega)

/-- A command that has arrived but not begun is waiting on the list. -/
theorem TaskState.waits_of_not_begun (arrived : id < s.arrived) (before : ¬ s.Begun id) :
    ∃ ctio ∈ s.istate.queueList, ctio.id = id ∧ ctio.waits = true := by
  simp only [TaskState.Begun, arrived, true_and, not_forall] at before
  obtain ⟨ctio, member, isId, waits⟩ := before
  exact ⟨ctio, member, isId, by simpa [Ctio.waits] using waits⟩

/-! ## One event -/

/-- Started commands had not begun before, have begun now, and are listed once. -/
theorem TaskStep.started_begins (sound : s.Sound) (step : TaskStep s label t)
    (started : id ∈ label.started) :
    ¬ s.Begun id ∧ t.Begun id ∧ label.started.count id = 1 := by
  have after := step.sound sound
  obtain ⟨taskAttr, nodeMaster, event, -, arrived⟩ |
    ⟨done, before, ctio, behind, front, rest, event, completed⟩ := step.cases sound
  · rw [arrived.started] at started ⊢
    cases exec : s.istate.execs taskAttr with
    | false => simp [exec] at started
    | true =>
      obtain rfl : id = s.arrived := by simpa [exec] using started
      refine ⟨fun begun => Nat.lt_irrefl _ begun.1, ⟨?_, fun iter member isId => ?_⟩, by simp⟩
      · rw [arrived.arrived]
        exact Nat.lt_succ_self _
      · rw [arrived.queueList, List.mem_append, List.mem_singleton] at member
        obtain member | rfl := member
        · exact absurd (sound.bounded iter member) (by omega)
        · exact exec
  · have startedIds := completed.started
    rw [startedIds, List.mem_map] at started
    obtain ⟨iter, member, rfl⟩ := started
    obtain ⟨inFront, waits⟩ := List.mem_filter.1 member
    have onList : iter.start ∈ t.istate.queueList := by
      rw [completed.queueList]
      exact List.mem_append_left _ (List.mem_map_of_mem inFront)
    have wasOnList : iter ∈ s.istate.queueList :=
      completed.mem_old (completed.split ▸ List.mem_append_left _ inFront)
    refine ⟨fun begun => ?_, ⟨after.bounded iter.start onList, fun other isOther isId => ?_⟩, ?_⟩
    · have runs := begun.2 iter wasOnList rfl
      simp [Ctio.waits, runs] at waits
    · rw [after.unique isOther onList isId, Ctio.start_queued]
    · have nodup : label.started.Nodup := by
        have sorted := after.sorted
        rw [completed.queueList, List.pairwise_append, List.pairwise_map] at sorted
        rw [startedIds, List.Nodup, List.pairwise_map]
        exact (sorted.1.sublist List.filter_sublist).imp fun less => Nat.ne_of_lt less
      exact List.count_eq_one_of_mem nodup (by rw [startedIds]; exact List.mem_map_of_mem member)

/-- A command begins only by being started. -/
theorem TaskStep.begins_started (sound : s.Sound) (step : TaskStep s label t)
    (before : ¬ s.Begun id) (now : t.Begun id) : id ∈ label.started := by
  obtain ⟨taskAttr, nodeMaster, event, -, arrived⟩ |
    ⟨done, ahead, ctio, behind, front, rest, event, completed⟩ := step.cases sound
  · obtain ⟨less, runs⟩ := now
    rw [arrived.arrived] at less
    rw [arrived.queueList] at runs
    obtain less | rfl := Nat.lt_succ_iff_lt_or_eq.1 less
    · obtain ⟨ctio, member, isId, waits⟩ := TaskState.waits_of_not_begun less before
      have running := runs ctio (List.mem_append_left _ member) isId
      simp [Ctio.waits, running] at waits
    · have exec : s.istate.execs taskAttr = true :=
        runs _ (List.mem_append_right _ (List.mem_singleton_self _)) rfl
      simp [arrived.started, exec]
  · obtain ⟨less, runs⟩ := now
    obtain ⟨iter, member, isId, waits⟩ :=
      TaskState.waits_of_not_begun (completed.arrived ▸ less) before
    have apart : iter ≠ ctio := by
      rintro rfl
      simp [Ctio.waits, completed.runs] at waits
    have remains : iter ∈ front ++ rest := by
      rw [← completed.split]
      rw [completed.found] at member
      simpa [apart] using member
    rw [completed.started]
    obtain inFront | inRest := List.mem_append.1 remains
    · exact List.mem_map.2 ⟨iter, List.mem_filter.2 ⟨inFront, waits⟩, isId⟩
    · have running := runs iter (by rw [completed.queueList]; exact List.mem_append_right _ inRest) isId
      simp [Ctio.waits, running] at waits

/-- The number of arrivals never falls. -/
theorem TaskStep.arrived_le (sound : s.Sound) (step : TaskStep s label t) :
    s.arrived ≤ t.arrived := by
  obtain ⟨_, _, _, _, arrived⟩ | ⟨_, _, _, _, _, _, _, completed⟩ := step.cases sound
  · rw [arrived.arrived]
    exact Nat.le_succ _
  · exact Nat.le_of_eq completed.arrived.symm

/-- What has begun never waits again. -/
theorem TaskStep.begun (sound : s.Sound) (step : TaskStep s label t) (begun : s.Begun id) :
    t.Begun id := by
  refine ⟨Nat.lt_of_lt_of_le begun.1 (step.arrived_le sound), fun ctio member isId => ?_⟩
  obtain ⟨_, _, _, _, arrived⟩ | ⟨_, _, _, _, _, _, _, completed⟩ := step.cases sound
  · rw [arrived.queueList, List.mem_append, List.mem_singleton] at member
    obtain member | rfl := member
    · exact begun.2 ctio member isId
    · exact absurd begun.1 (by simp only at isId; omega)
  · obtain ⟨old, onList, sameId, -, keeps⟩ := completed.mem member
    exact keeps (begun.2 old (completed.mem_old onList) (sameId ▸ isId))

/-- After the arrival of a command no other gets in front of it. -/
theorem TaskStep.ahead_le (sound : s.Sound) (step : TaskStep s label t)
    (arrived : id < s.arrived) : t.ahead id ≤ s.ahead id := by
  obtain ⟨_, _, _, _, new⟩ | ⟨_, _, _, _, _, _, _, completed⟩ := step.cases sound
  · have behind : ¬ s.arrived < id := by omega
    simp [TaskState.ahead, new.queueList, List.countP_append, behind]
  · rw [TaskState.ahead, TaskState.ahead, completed.ids, completed.found]
    simp only [List.map_append, List.map_cons, List.countP_append, List.countP_cons]
    omega

/-- The completion of a command in front brings a command forward. -/
theorem TaskStep.ahead_lt (sound : s.Sound) (step : TaskStep s label t) {first : Nat}
    (event : label.event = .complete first) (less : first < id) : t.ahead id < s.ahead id := by
  obtain ⟨_, _, isArrival, _, _⟩ | ⟨_, _, ctio, _, _, _, isCompletion, completed⟩ :=
    step.cases sound
  · rw [event] at isArrival
    exact absurd isArrival (by simp)
  · rw [event, TaskEvent.complete.injEq] at isCompletion
    have inFront : ctio.id < id := by
      rw [completed.isId, ← isCompletion]
      exact less
    rw [TaskState.ahead, TaskState.ahead, completed.ids, completed.found]
    simp only [List.map_append, List.map_cons, List.countP_append, List.countP_cons, inFront,
      decide_true, if_true]
    omega

/-! ## Executions -/

section Executions

variable (x : Execution TaskStep)

/-- The commands that are started at a time. -/
def startedAt (n : ℕ) : List Nat :=
  match x.event n with
  | some label => label.started
  | none => []

/-- Running commands are always completed some time. -/
def RunningComplete : Prop :=
  ∀ n, ∀ ctio ∈ (x.state n).istate.queueList, ctio.queued = true →
    ∃ m label, n ≤ m ∧ x.event m = some label ∧ label.event = .complete ctio.id

variable {x}

/-- The invariant holds at all times. -/
theorem Execution.task_sound (start : x.state 0 = .empty) (n : ℕ) : (x.state n).Sound :=
  x.invariant (start ▸ TaskState.empty_sound) TaskStep.sound n

/-- What has arrived stays so. -/
theorem Execution.arrived_le (start : x.state 0 = .empty) {m n : ℕ} (later : m ≤ n) :
    (x.state m).arrived ≤ (x.state n).arrived := by
  induction n, later using Nat.le_induction with
  | base => exact Nat.le_refl _
  | succ k later ih =>
    cases here : x.event k with
    | none => rwa [x.rests k here]
    | some label =>
      exact Nat.le_trans ih ((x.moves k label here).arrived_le (x.task_sound start k))

/-- What has begun stays so. -/
theorem Execution.begun_later (start : x.state 0 = .empty) {m n : ℕ} (later : m ≤ n)
    (begun : (x.state m).Begun id) : (x.state n).Begun id :=
  x.invariant_from (fun s => s.Begun id) begun
    (fun k label _ here => (x.moves k label here).begun (x.task_sound start k)) later

/-- Nothing gets in front of a command that has arrived. -/
theorem Execution.ahead_le (start : x.state 0 = .empty) {m n : ℕ} (later : m ≤ n)
    (arrived : id < (x.state m).arrived) : (x.state n).ahead id ≤ (x.state m).ahead id := by
  induction n, later using Nat.le_induction with
  | base => exact Nat.le_refl _
  | succ k later ih =>
    cases here : x.event k with
    | none => rwa [x.rests k here]
    | some label =>
      have stays := Nat.lt_of_lt_of_le arrived (Execution.arrived_le start later)
      exact Nat.le_trans ((x.moves k label here).ahead_le (x.task_sound start k) stays) ih

/-- A start at a time, as what its event did. -/
theorem Execution.startedAt_begins (start : x.state 0 = .empty) {n : ℕ}
    (started : id ∈ startedAt x n) : ¬ (x.state n).Begun id ∧ (x.state (n + 1)).Begun id ∧
      (startedAt x n).count id = 1 := by
  cases here : x.event n with
  | none => simp [startedAt, here] at started
  | some label =>
    simp only [startedAt, here] at started ⊢
    exact (x.moves n label here).started_begins (x.task_sound start n) started

/-- A command that has begun was started before. -/
theorem Execution.started_of_begun (start : x.state 0 = .empty) (n : ℕ)
    (begun : (x.state n).Begun id) : ∃ m, id ∈ startedAt x m := by
  induction n with
  | zero => exact absurd begun.1 (by simp [start, TaskState.empty])
  | succ n ih =>
    by_cases before : (x.state n).Begun id
    · exact ih before
    · cases here : x.event n with
      | none => exact absurd (x.rests n here ▸ begun) before
      | some label =>
        have started := (x.moves n label here).begins_started (x.task_sound start n) before begun
        exact ⟨n, by simpa only [startedAt, here] using started⟩

/-- A command is not started twice. -/
theorem Execution.started_once (start : x.state 0 = .empty) {m n : ℕ} (less : m < n)
    (first : id ∈ startedAt x m) : id ∉ startedAt x n := by
  intro second
  have begun := (Execution.startedAt_begins start first).2.1
  exact (Execution.startedAt_begins start second).1 (Execution.begun_later start less begun)

/-- If running commands are completed then every command that has arrived begins. -/
theorem Execution.begins (start : x.state 0 = .empty) (complete : RunningComplete x) {n : ℕ}
    (arrived : id < (x.state n).arrived) : ∃ m, n ≤ m ∧ (x.state m).Begun id := by
  have falls : ∀ k, ¬ (id < (x.state k).arrived → (x.state k).Begun id) → ∃ m, k ≤ m ∧
      ((id < (x.state m).arrived → (x.state m).Begun id) ∨
        (x.state m).ahead id < (x.state k).ahead id) := by
    intro k waiting
    obtain ⟨here, notBegun⟩ := Classical.not_imp.1 waiting
    have sound := x.task_sound start k
    obtain ⟨ctio, member, isId, waits⟩ := TaskState.waits_of_not_begun here notBegun
    cases list : (x.state k).istate.queueList with
    | nil => simp [list] at member
    | cons first rest =>
      have isFirst : first ∈ (x.state k).istate.queueList := by simp [list]
      have runs : first.queued = true := sound.first first (by simp [list])
      have inFront : first.id < id := by
        have sorted := sound.sorted
        rw [list] at sorted member
        obtain rfl | behind := List.mem_cons.1 member
        · simp [Ctio.waits, runs] at waits
        · exact isId ▸ (List.pairwise_cons.1 sorted).1 ctio behind
      -- The first command runs and is in front, so its completion brings this one forward.
      obtain ⟨m, label, later, happens, event⟩ := complete k first isFirst runs
      refine ⟨m + 1, Nat.le_succ_of_le later, .inr ?_⟩
      exact Nat.lt_of_lt_of_le
        ((x.moves m label happens).ahead_lt (x.task_sound start m) event inFront)
        (Execution.ahead_le start later here)
  obtain ⟨m, later, begun⟩ := eventually_of_rank (fun k => (x.state k).ahead id) falls n
  exact ⟨m, later, begun (Nat.lt_of_lt_of_le arrived (Execution.arrived_le start later))⟩

end Executions

/-- Along every run from an empty queue the counters count and the first command runs; and if
running commands are always completed then every command that arrived is started at one time, and
once. -/
theorem istate_starts_every_task :
    (∀ history s, Run TaskStep .empty history s →
      s.istate.Counted ∧ ∀ ctio ∈ s.istate.queueList.head?, ctio.queued = true) ∧
    ∀ x : Execution TaskStep, x.state 0 = .empty → RunningComplete x →
      ∀ n, ∀ id < (x.state n).arrived, ∃ m, (startedAt x m).count id = 1 ∧
        ∀ k, id ∈ startedAt x k → k = m := by
  refine ⟨fun history s run => ⟨run.task_sound.counted, run.task_sound.first⟩,
    fun x start complete n id arrived => ?_⟩
  obtain ⟨l, -, begun⟩ := Execution.begins start complete arrived
  obtain ⟨m, started⟩ := Execution.started_of_begun start l begun
  refine ⟨m, (Execution.startedAt_begins start started).2.2, fun k again => ?_⟩
  obtain less | same | more := Nat.lt_trichotomy k m
  · exact absurd started (Execution.started_once start less again)
  · exact same
  · exact absurd again (Execution.started_once start more started)

/-- A simple command, an ordered one behind it, and their completions. -/
def twoTasks : Execution TaskStep where
  state
    | 0 => .empty
    | 1 => simpleRuns
    | 2 => orderedWaits
    | 3 => ⟨⟨[⟨1, .ordered, true⟩], 1, 0, 1, 0, false⟩, 2⟩
    | _ + 4 => ⟨.empty, 2⟩
  event
    | 0 => some firstSimple
    | 1 => some secondOrdered
    | 2 => some ⟨.complete 0, [1]⟩
    | 3 => some ⟨.complete 1, []⟩
    | _ + 4 => none
  rests
    | 0, rest | 1, rest | 2, rest | 3, rest => by simp at rest
    | _ + 4, _ => rfl
  moves
    | 0, _, rfl | 1, _, rfl | 2, _, rfl | 3, _, rfl => by decide

/-- Their running commands are completed. -/
theorem twoTasks_complete : RunningComplete twoTasks := by
  intro n ctio member runs
  match n with
  | 0 => simp [twoTasks, TaskState.empty, IstateQueue.empty] at member
  | 1 =>
    simp only [twoTasks, simpleRuns, List.mem_singleton] at member
    exact ⟨2, ⟨.complete 0, [1]⟩, by decide, rfl, by rw [member]⟩
  | 2 =>
    simp only [twoTasks, orderedWaits, List.mem_cons, List.not_mem_nil, or_false] at member
    obtain rfl | rfl := member
    · exact ⟨2, ⟨.complete 0, [1]⟩, by decide, rfl, rfl⟩
    · simp at runs
  | 3 =>
    simp only [twoTasks, List.mem_singleton] at member
    exact ⟨3, ⟨.complete 1, []⟩, by decide, rfl, by rw [member]⟩
  | _ + 4 => simp [twoTasks, IstateQueue.empty] at member

/-- The ordered command behind a simple one is started once. -/
theorem istate_starts_waiting_ordered :
    orderedWaits.istate.Counted ∧ RunningComplete twoTasks ∧
      ∃ m, (startedAt twoTasks m).count 1 = 1 ∧ ∀ k, 1 ∈ startedAt twoTasks k → k = m :=
  ⟨(istate_starts_every_task.1 _ _ orderedWaits_run).1, twoTasks_complete,
    istate_starts_every_task.2 twoTasks rfl twoTasks_complete 2 1 (by decide)⟩

end VirtualTape
