import VirtualTape.Verif.TaskQueue

/-!
# Order of an initiator's commands

The invariant of the queue is that its counters count and that its first command runs. From it
follows the exact condition under which a start respects ordered commands.
-/

namespace VirtualTape

variable {s t : TaskState} {label : TaskLabel} {history : List TaskLabel}

/-! ## The invariant -/

/-- The counters of an initiator state are the numbers of the commands they stand for. -/
structure IstateQueue.Counted (istate : IstateQueue) : Prop where
  /-- Running commands. -/
  queued : istate.queued = istate.queueList.countP Ctio.queued
  /-- Waiting commands. -/
  pending : istate.pending = istate.queueList.countP Ctio.waits
  /-- Running head of queue commands. -/
  head : istate.head = istate.queueList.countP Ctio.runsHead
  /-- Running ordered and ACA commands. -/
  ordered : istate.ordered = istate.queueList.countP Ctio.runsOrdered

/-- What holds between events. -/
structure TaskState.Sound (s : TaskState) : Prop where
  /-- The list is in the order of arrival. -/
  sorted : s.istate.queueList.Pairwise fun a b => a.id < b.id
  /-- Its commands have arrived. -/
  bounded : ∀ ctio ∈ s.istate.queueList, ctio.id < s.arrived
  /-- Their attributes are named. -/
  named : ∀ ctio ∈ s.istate.queueList, ctio.taskAttr.named = true
  /-- A head of queue command does not wait. -/
  notHead : ∀ ctio ∈ s.istate.queueList, ctio.waits = true → ctio.taskAttr ≠ .headOfQueue
  /-- The counters count. -/
  counted : s.istate.Counted
  /-- The first command runs. -/
  first : ∀ ctio ∈ s.istate.queueList.head?, ctio.queued = true

/-- Nothing is queued at the start. -/
theorem TaskState.empty_sound : TaskState.empty.Sound where
  sorted := .nil
  bounded := by simp [TaskState.empty, IstateQueue.empty]
  named := by simp [TaskState.empty, IstateQueue.empty]
  notHead := by simp [TaskState.empty, IstateQueue.empty]
  counted := ⟨rfl, rfl, rfl, rfl⟩
  first := by simp [TaskState.empty, IstateQueue.empty]

/-- If no command runs then there is none. -/
theorem TaskState.Sound.idle (sound : s.Sound) (none : s.istate.queued = 0) :
    s.istate.queueList = [] := by
  cases list : s.istate.queueList with
  | nil => rfl
  | cons ctio rest =>
    have runs : ctio.queued = true := sound.first ctio (by simp [list])
    have count := sound.counted.queued
    rw [list, List.countP_cons, runs, if_pos rfl] at count
    omega

/-- A command on the list after an arrival was there before, or is the one that arrived. -/
theorem Arrived.mem {taskAttr : TaskAttr} {started : List Nat} {ctio : Ctio}
    (arrived : Arrived s taskAttr t started) (member : ctio ∈ t.istate.queueList) :
    ctio ∈ s.istate.queueList ∨ ctio = ⟨s.arrived, taskAttr, s.istate.execs taskAttr⟩ := by
  rw [arrived.queueList, List.mem_append, List.mem_singleton] at member
  exact member

/-- Arrivals keep the invariant. -/
theorem Arrived.sound {taskAttr : TaskAttr} {started : List Nat} (sound : s.Sound)
    (named : taskAttr.named = true) (arrived : Arrived s taskAttr t started) : t.Sound := by
  have counted := sound.counted
  refine ⟨?_, ?_, ?_, ?_, ⟨?_, ?_, ?_, ?_⟩, ?_⟩
  · rw [arrived.queueList, List.pairwise_append]
    exact ⟨sound.sorted, List.pairwise_singleton _ _, fun ctio member new isNew => by
      rw [List.mem_singleton.1 isNew]; exact sound.bounded ctio member⟩
  · intro ctio member
    rw [arrived.arrived]
    obtain member | rfl := arrived.mem member
    · exact Nat.lt_succ_of_lt (sound.bounded ctio member)
    · exact Nat.lt_succ_self _
  · intro ctio member
    obtain member | rfl := arrived.mem member
    · exact sound.named ctio member
    · exact named
  · intro ctio member waits
    obtain member | rfl := arrived.mem member
    · exact sound.notHead ctio member waits
    · rintro rfl
      simp [Ctio.waits, IstateQueue.execs] at waits
  · rw [arrived.queued, arrived.queueList, List.countP_append, counted.queued]
    cases s.istate.execs taskAttr <;> rfl
  · rw [arrived.pending, arrived.queueList, List.countP_append, counted.pending]
    cases s.istate.execs taskAttr <;> rfl
  · rw [arrived.head, arrived.queueList, List.countP_append, counted.head]
    cases taskAttr <;> simp [Ctio.runsHead, IstateQueue.execs]
  · rw [arrived.ordered, arrived.queueList, List.countP_append, counted.ordered]
    cases taskAttr <;> cases s.istate.execs _ <;>
      first | rfl | simp [TaskAttr.named] at named
  · intro ctio isFirst
    rw [arrived.queueList] at isFirst
    cases list : s.istate.queueList with
    | nil =>
      rw [list] at isFirst
      simp only [List.nil_append, List.head?_cons, Option.mem_some_iff] at isFirst
      rw [← isFirst]
      have none : s.istate.queued = 0 ∧ s.istate.ordered = 0 ∧ s.istate.head = 0 := by
        simp [counted.queued, counted.ordered, counted.head, list]
      cases taskAttr <;> simp [IstateQueue.execs, none]
    | cons first rest =>
      rw [list] at isFirst
      exact sound.first ctio (by rw [list]; exact isFirst)

section Completed

variable {id : Nat} {started : List Nat} {before behind front rest : List Ctio} {ctio : Ctio}

/-- The remaining commands are those of the list without the completed one. -/
theorem Completed.ids (completed : Completed s id t started before ctio behind front rest) :
    t.istate.queueList.map Ctio.id = (before ++ behind).map Ctio.id := by
  rw [completed.queueList, completed.split, List.map_append, List.map_append, List.map_map]
  rfl

/-- A remaining command was on the list, perhaps waiting. -/
theorem Completed.mem (completed : Completed s id t started before ctio behind front rest)
    {iter : Ctio} (member : iter ∈ t.istate.queueList) :
    ∃ old ∈ before ++ behind, iter.id = old.id ∧ iter.taskAttr = old.taskAttr ∧
      (old.queued = true → iter.queued = true) := by
  rw [completed.queueList, List.mem_append, List.mem_map] at member
  rw [completed.split]
  obtain ⟨old, member, rfl⟩ | member := member
  · exact ⟨old, List.mem_append_left _ member, rfl, rfl, fun _ => rfl⟩
  · exact ⟨iter, List.mem_append_right _ member, rfl, rfl, fun runs => runs⟩

/-- The others were on the list. -/
theorem Completed.mem_old (completed : Completed s id t started before ctio behind front rest)
    {iter : Ctio} (member : iter ∈ before ++ behind) : iter ∈ s.istate.queueList := by
  rw [completed.found]
  simp only [List.mem_append, List.mem_cons] at member ⊢
  exact member.imp_right .inr

/-- Completions keep the order of the list. -/
theorem Completed.sorted (completed : Completed s id t started before ctio behind front rest)
    (sorted : s.istate.queueList.Pairwise fun a b => a.id < b.id) :
    t.istate.queueList.Pairwise fun a b => a.id < b.id := by
  have sub : (before ++ behind).Pairwise fun a b => a.id < b.id := by
    rw [completed.found] at sorted
    exact sorted.sublist ((List.sublist_cons_self _ _).append_left _)
  rw [← List.pairwise_map (f := Ctio.id) (R := fun a b => a < b), completed.ids, List.pairwise_map]
  exact sub

/-- Completions keep the counters exact. -/
theorem Completed.counted (sound : s.Sound)
    (completed : Completed s id t started before ctio behind front rest) :
    t.istate.Counted := by
  have named : ∀ iter ∈ front, iter.taskAttr.named = true := fun iter member =>
    sound.named iter (completed.mem_old (completed.split ▸ List.mem_append_left _ member))
  have count : ∀ p, s.istate.queueList.countP p =
      front.countP p + rest.countP p + (p ctio).toNat := by
    intro p
    have sum := congrArg (List.countP p) completed.split
    simp only [List.countP_append] at sum
    rw [completed.found, List.countP_append, List.countP_cons]
    cases p ctio <;> simp <;> omega
  have counted := sound.counted
  constructor
  · rw [completed.queued, completed.queueList, List.countP_append, countP_start_queued,
      counted.queued, count, completed.runs, Bool.toNat_true]
    omega
  · rw [completed.pending, completed.queueList, List.countP_append, countP_start_waits,
      counted.pending, count, Ctio.waits, completed.runs, Bool.not_true, Bool.toNat_false]
    omega
  · rw [completed.head, completed.queueList, List.countP_append,
      countP_start_runsHead front completed.notHead, counted.head, count, Ctio.runsHead,
      completed.runs, Bool.true_and, Nat.add_sub_cancel]
  · rw [completed.ordered, completed.queueList, List.countP_append,
      countP_start_runsOrdered front completed.notHead named, counted.ordered, count,
      Ctio.runsOrdered, completed.runs, Bool.true_and, Nat.add_sub_cancel]
    omega

/-- After a completion the first command runs. -/
theorem Completed.first (sound : s.Sound)
    (completed : Completed s id t started before ctio behind front rest) :
    ∀ iter ∈ t.istate.queueList.head?, iter.queued = true := by
  intro iter isFirst
  rw [completed.queueList] at isFirst
  cases front with
  | cons first front =>
    simp only [List.map_cons, List.cons_append, List.head?_cons, Option.mem_some_iff] at isFirst
    rw [← isFirst, Ctio.start_queued]
  | nil =>
    simp only [List.map_nil, List.nil_append] at isFirst
    have others : before ++ behind = rest := completed.split
    obtain none | notFirst | stop := completed.progress
    · have onList : iter ∈ s.istate.queueList :=
        completed.mem_old (others ▸ List.mem_of_mem_head? isFirst)
      have noneWaits := sound.counted.pending.symm.trans none
      simpa [Ctio.waits] using List.countP_eq_zero.1 noneWaits iter onList
    · cases before with
      | nil => exact absurd rfl notFirst
      | cons first before =>
        rw [← others, List.cons_append, List.head?_cons] at isFirst
        exact sound.first iter (by rw [completed.found]; exact isFirst)
    · have onList : iter ∈ s.istate.queueList :=
        completed.mem_old (others ▸ List.mem_of_mem_head? isFirst)
      have isHead : iter.taskAttr = .headOfQueue := by simpa using stop iter isFirst
      by_contra notRuns
      exact sound.notHead iter onList (by simpa [Ctio.waits] using notRuns) isHead

/-- Completions keep the invariant. -/
theorem Completed.sound (sound : s.Sound)
    (completed : Completed s id t started before ctio behind front rest) : t.Sound where
  sorted := completed.sorted sound.sorted
  bounded := by
    intro iter member
    obtain ⟨old, onList, sameId, -, -⟩ := completed.mem member
    rw [sameId, completed.arrived]
    exact sound.bounded old (completed.mem_old onList)
  named := by
    intro iter member
    obtain ⟨old, onList, -, sameAttr, -⟩ := completed.mem member
    rw [sameAttr]
    exact sound.named old (completed.mem_old onList)
  notHead := by
    intro iter member waits
    obtain ⟨old, onList, -, sameAttr, started⟩ := completed.mem member
    rw [sameAttr]
    apply sound.notHead old (completed.mem_old onList)
    simp only [Ctio.waits, Bool.not_eq_true'] at waits ⊢
    by_contra runs
    have stillRuns := started (by simpa using runs)
    rw [waits] at stillRuns
    exact Bool.false_ne_true stillRuns
  counted := completed.counted sound
  first := completed.first sound

end Completed

/-- An event is an arrival or a completion of a running command. -/
theorem TaskStep.cases (sound : s.Sound) (step : TaskStep s label t) :
    (∃ taskAttr nodeMaster, label.event = .arrive taskAttr nodeMaster ∧ taskAttr.named = true ∧
        Arrived s taskAttr t label.started) ∨
      ∃ id before ctio behind front rest, label.event = .complete id ∧
        Completed s id t label.started before ctio behind front rest := by
  obtain ⟨named, step⟩ := step
  cases event : label.event with
  | arrive taskAttr nodeMaster =>
    rw [event] at step named
    exact .inl ⟨taskAttr, nodeMaster, rfl, named, TaskState.step_arrive step⟩
  | complete id =>
    rw [event] at step
    obtain ⟨before, ctio, behind, front, rest, completed⟩ :=
      TaskState.step_complete sound.sorted step
    exact .inr ⟨id, before, ctio, behind, front, rest, rfl, completed⟩

/-- Every event keeps the invariant. -/
theorem TaskStep.sound (sound : s.Sound) (step : TaskStep s label t) : t.Sound := by
  obtain ⟨_, _, _, named, arrived⟩ | ⟨_, _, _, _, _, _, _, completed⟩ := step.cases sound
  · exact arrived.sound sound named
  · exact completed.sound sound

/-- The invariant holds after every sequence of events. -/
theorem Run.task_sound (run : Run TaskStep .empty history s) : s.Sound :=
  run.invariant TaskState.empty_sound TaskStep.sound

/-! ## The history of a queue -/

/-- The attributes of the commands that arrived, by their numbers. -/
def taskAttrs (history : List TaskLabel) : List TaskAttr :=
  history.filterMap fun label => match label.event with
    | .arrive taskAttr _ => some taskAttr
    | .complete _ => none

/-- A command was completed. -/
def CompletedIn (history : List TaskLabel) (id : Nat) : Prop :=
  ∃ label ∈ history, label.event = .complete id

/-- How a history and the queue it leads to belong together. -/
structure Follows (history : List TaskLabel) (s : TaskState) : Prop where
  /-- The queue satisfies its invariant. -/
  sound : s.Sound
  /-- All arrivals are counted. -/
  arrived : (taskAttrs history).length = s.arrived
  /-- A command that arrived is completed or on the list. -/
  listed : ∀ id < s.arrived, CompletedIn history id ∨ ∃ ctio ∈ s.istate.queueList, ctio.id = id
  /-- A command on the list has the attribute it arrived with. -/
  attrs : ∀ ctio ∈ s.istate.queueList, (taskAttrs history)[ctio.id]? = some ctio.taskAttr
  /-- A command on the list is not completed. -/
  unfinished : ∀ ctio ∈ s.istate.queueList, ¬ CompletedIn history ctio.id
  /-- Only commands that arrived are completed. -/
  finished : ∀ id, CompletedIn history id → id < s.arrived

/-- An arrival adds an attribute. -/
theorem taskAttrs_arrive {taskAttr : TaskAttr} {nodeMaster : Bool}
    (event : label.event = .arrive taskAttr nodeMaster) :
    taskAttrs (history ++ [label]) = taskAttrs history ++ [taskAttr] := by
  simp [taskAttrs, event]

/-- A completion adds none. -/
theorem taskAttrs_complete {id : Nat} (event : label.event = .complete id) :
    taskAttrs (history ++ [label]) = taskAttrs history := by
  simp [taskAttrs, event]

/-- A command is completed by the last event or was before. -/
theorem completedIn_append {id : Nat} : CompletedIn (history ++ [label]) id ↔
    CompletedIn history id ∨ label.event = .complete id := by
  simp [CompletedIn, or_and_right, exists_or]

/-- Every event keeps history and queue together. -/
theorem Follows.next (follows : Follows history s) (step : TaskStep s label t) :
    Follows (history ++ [label]) t := by
  have sound := follows.sound
  refine ⟨step.sound sound, ?_, ?_, ?_, ?_, ?_⟩ <;>
    obtain ⟨taskAttr, nodeMaster, event, -, arrived⟩ |
      ⟨id, before, ctio, behind, front, rest, event, completed⟩ := step.cases sound
  · rw [taskAttrs_arrive event, List.length_append, follows.arrived, arrived.arrived]
    rfl
  · rw [taskAttrs_complete event, completed.arrived, follows.arrived]
  · intro id less
    rw [arrived.arrived] at less
    obtain less | rfl := Nat.lt_succ_iff_lt_or_eq.1 less
    · obtain done | ⟨old, member, isId⟩ := follows.listed id less
      · exact .inl (completedIn_append.2 (.inl done))
      · exact .inr ⟨old, by rw [arrived.queueList]; exact List.mem_append_left _ member, isId⟩
    · exact .inr ⟨_, by rw [arrived.queueList]; exact List.mem_append_right _ (List.mem_singleton_self _), rfl⟩
  · intro other less
    rw [completed.arrived] at less
    obtain done | ⟨old, member, isId⟩ := follows.listed other less
    · exact .inl (completedIn_append.2 (.inl done))
    · rw [completed.found, List.mem_append, List.mem_cons] at member
      by_cases same : old = ctio
      · refine .inl (completedIn_append.2 (.inr ?_))
        rw [event, ← isId, same, completed.isId]
      · have stays : old.id ∈ t.istate.queueList.map Ctio.id := by
          rw [completed.ids]
          simp only [same, false_or] at member
          exact List.mem_map_of_mem (List.mem_append.2 member)
        obtain ⟨iter, onList, sameId⟩ := List.mem_map.1 stays
        exact .inr ⟨iter, onList, sameId.trans isId⟩
  · intro ctio member
    rw [taskAttrs_arrive event]
    obtain member | rfl := arrived.mem member
    · have known := follows.attrs ctio member
      rw [List.getElem?_append_left (by rw [follows.arrived]; exact sound.bounded ctio member)]
      exact known
    · simp [follows.arrived]
  · intro iter member
    obtain ⟨old, onList, sameId, sameAttr, -⟩ := completed.mem member
    rw [taskAttrs_complete event, sameId, sameAttr]
    exact follows.attrs old (completed.mem_old onList)
  · intro ctio member done
    rw [completedIn_append, event] at done
    simp only [reduceCtorEq, or_false] at done
    obtain member | rfl := arrived.mem member
    · exact follows.unfinished ctio member done
    · exact Nat.lt_irrefl _ (follows.finished _ done)
  · intro iter member done
    obtain ⟨old, onList, sameId, -, -⟩ := completed.mem member
    rw [completedIn_append, event, sameId] at done
    obtain done | same := done
    · exact follows.unfinished old (completed.mem_old onList) done
    · have sorted := sound.sorted
      rw [completed.found, List.pairwise_append, List.pairwise_cons] at sorted
      simp only [TaskEvent.complete.injEq, ← completed.isId] at same
      obtain member | member := List.mem_append.1 onList
      · exact absurd (sorted.2.2 old member ctio List.mem_cons_self) (by omega)
      · exact absurd (sorted.2.1.1 old member) (by omega)
  · intro id done
    rw [completedIn_append, event] at done
    simp only [reduceCtorEq, or_false] at done
    rw [arrived.arrived]
    exact Nat.lt_succ_of_lt (follows.finished id done)
  · intro other done
    rw [completedIn_append, event] at done
    rw [completed.arrived]
    obtain done | same := done
    · exact follows.finished other done
    · simp only [TaskEvent.complete.injEq] at same
      rw [← same, ← completed.isId]
      exact sound.bounded ctio (by simp [completed.found])

/-- Every run and its history belong together. -/
theorem Run.task_follows (run : Run TaskStep .empty history s) : Follows history s := by
  refine run.history ?_ Follows.next
  constructor
  · exact TaskState.empty_sound
  · rfl
  · simp [TaskState.empty]
  · simp [TaskState.empty, IstateQueue.empty]
  · simp [TaskState.empty, IstateQueue.empty]
  · simp [CompletedIn]

/-! ## Order -/

/-- The starts of an event respect ordered commands: an ordered command is started when all earlier
ones are completed, and neither a simple nor an ordered command is started while an earlier ordered
one is not completed. -/
def StartsInOrder (history : List TaskLabel) (label : TaskLabel) : Prop :=
  ∀ id ∈ label.started,
    ((taskAttrs (history ++ [label]))[id]? = some .ordered →
      ∀ earlier < id, CompletedIn (history ++ [label]) earlier) ∧
    ((taskAttrs (history ++ [label]))[id]? = some .simple ∨
        (taskAttrs (history ++ [label]))[id]? = some .ordered →
      ∀ earlier < id, (taskAttrs (history ++ [label]))[earlier]? = some .ordered →
        CompletedIn (history ++ [label]) earlier)

/-- A simple command arrives while no ordered or head of queue command runs, but an ordered one
waits. -/
def TaskState.overtakes (s : TaskState) : TaskEvent → Bool
  | .arrive .simple _ => s.istate.ordered == 0 && s.istate.head == 0 &&
      s.istate.queueList.any fun ctio => !ctio.queued && ctio.taskAttr == .ordered
  | _ => false

/-- On a list in the order of arrival an earlier command is further in front. -/
theorem mem_front_of_lt {ahead behind : List Ctio} {ctio other : Ctio}
    (sorted : (ahead ++ ctio :: behind).Pairwise fun a b => a.id < b.id)
    (member : other ∈ ahead ++ ctio :: behind) (less : other.id < ctio.id) : other ∈ ahead := by
  rw [List.pairwise_append, List.pairwise_cons] at sorted
  simp only [List.mem_append, List.mem_cons] at member
  obtain member | rfl | member := member
  · exact member
  · exact absurd less (Nat.lt_irrefl _)
  · exact absurd (sorted.2.1.1 other member) (by omega)

/-- A completion starts commands in order. -/
theorem Completed.inOrder {id : Nat} {before behind front rest : List Ctio} {ctio : Ctio}
    (after : Follows (history ++ [label]) t)
    (completed : Completed s id t label.started before ctio behind front rest) :
    StartsInOrder history label := by
  intro start isStarted
  rw [completed.started, List.mem_map] at isStarted
  obtain ⟨iter, member, rfl⟩ := isStarted
  obtain ⟨member, waits⟩ := List.mem_filter.1 member
  obtain ⟨ahead, follow, split⟩ := List.append_of_mem member
  have list : t.istate.queueList =
      ahead.map Ctio.start ++ iter.start :: (follow.map Ctio.start ++ rest) := by
    rw [completed.queueList, split]
    simp
  have onList : iter.start ∈ t.istate.queueList := by simp [list]
  have attr : (taskAttrs (history ++ [label]))[iter.id]? = some iter.taskAttr :=
    after.attrs iter.start onList
  -- A command that is not completed yet is further in front.
  have isAhead : ∀ earlier < iter.id, ¬ CompletedIn (history ++ [label]) earlier →
      ∃ other ∈ ahead, other.id = earlier := by
    intro earlier less unfinished
    have arrived := Nat.lt_trans less (after.sound.bounded iter.start onList)
    obtain done | ⟨other, member, isId⟩ := after.listed earlier arrived
    · exact absurd done unfinished
    · have inFront := mem_front_of_lt (list ▸ after.sound.sorted) (list ▸ member) (isId ▸ less)
      obtain ⟨old, isAhead, rfl⟩ := List.mem_map.1 inFront
      exact ⟨old, isAhead, isId⟩
  rw [attr, Option.some.injEq, Option.some.injEq]
  have first : iter.taskAttr = .ordered → ∀ earlier < iter.id,
      CompletedIn (history ++ [label]) earlier := by
    intro isOrdered earlier less
    by_contra unfinished
    obtain ⟨other, member, -⟩ := isAhead earlier less unfinished
    rw [completed.others split waits (by simp [isOrdered])] at member
    exact absurd member List.not_mem_nil
  refine ⟨first, fun isLaw earlier less earlierAttr => ?_⟩
  obtain isSimple | isOrdered := isLaw
  · by_contra unfinished
    obtain ⟨other, member, isId⟩ := isAhead earlier less unfinished
    have otherAttr : (taskAttrs (history ++ [label]))[other.id]? = some other.taskAttr :=
      after.attrs other.start (by rw [list]; exact List.mem_append_left _ (List.mem_map_of_mem member))
    rw [isId, earlierAttr, completed.simple split waits isSimple other member] at otherAttr
    simp at otherAttr
  · exact first isOrdered earlier less

/-- An arrival starts the command in order unless it overtakes. -/
theorem Arrived.inOrder_iff {taskAttr : TaskAttr} {nodeMaster : Bool} (before : Follows history s)
    (event : label.event = .arrive taskAttr nodeMaster)
    (arrived : Arrived s taskAttr t label.started) :
    StartsInOrder history label ↔ s.overtakes label.event = false := by
  have sound := before.sound
  have done : ∀ id, CompletedIn (history ++ [label]) id ↔ CompletedIn history id := by
    simp [completedIn_append, event]
  have isNew : (taskAttrs (history ++ [label]))[s.arrived]? = some taskAttr := by
    simp [taskAttrs_arrive event, before.arrived]
  have isOld : ∀ id < s.arrived, (taskAttrs (history ++ [label]))[id]? = (taskAttrs history)[id]? :=
    fun id less => by
      rw [taskAttrs_arrive event, List.getElem?_append_left (by rw [before.arrived]; exact less)]
  have nothing : s.istate.queued = 0 → ∀ id < s.arrived, CompletedIn history id := by
    intro none id less
    obtain complete | ⟨ctio, member, -⟩ := before.listed id less
    · exact complete
    · simp [sound.idle none] at member
  rw [StartsInOrder, arrived.started, event]
  cases exec : s.istate.execs taskAttr with
  | false =>
    cases taskAttr with
    | simple =>
      simp only [IstateQueue.execs] at exec
      simp [TaskState.overtakes, exec]
    | headOfQueue | ordered | aca | other code => simp [TaskState.overtakes]
  | true =>
    simp only [if_true, List.mem_singleton, forall_eq, isNew, Option.some.injEq, done]
    cases taskAttr with
    | headOfQueue | aca | other code => simp [TaskState.overtakes]
    | ordered =>
      simp only [IstateQueue.execs, beq_iff_eq] at exec
      have all := nothing exec
      simp only [TaskState.overtakes, iff_true]
      exact ⟨fun _ => all, fun _ earlier less _ => all earlier less⟩
    | simple =>
      simp only [IstateQueue.execs, Bool.and_eq_true, beq_iff_eq] at exec
      have noneRuns : ∀ ctio ∈ s.istate.queueList, ctio.taskAttr = .ordered →
          ctio.queued = false := by
        intro ctio member isOrdered
        have none := sound.counted.ordered.symm.trans exec.1
        simpa [Ctio.runsOrdered, isOrdered] using List.countP_eq_zero.1 none ctio member
      simp only [TaskState.overtakes, exec.1, exec.2, beq_self_eq_true, Bool.true_and,
        List.any_eq_false, reduceCtorEq, false_imp_iff, true_and, true_or, forall_const]
      constructor
      · intro law ctio member isWaiting
        simp only [Bool.and_eq_true, beq_iff_eq] at isWaiting
        have less := sound.bounded ctio member
        apply before.unfinished ctio member
        apply law ctio.id less
        rw [isOld _ less, before.attrs ctio member, isWaiting.2]
      · intro none earlier less isOrdered
        obtain complete | ⟨ctio, member, rfl⟩ := before.listed earlier less
        · exact complete
        · rw [isOld _ less, before.attrs ctio member, Option.some.injEq] at isOrdered
          have waits := noneRuns ctio member isOrdered
          exact absurd (by simp [waits, isOrdered]) (none ctio member)

/-- After every sequence of arrivals and completions, the next one starts commands in order exactly
if it is not the arrival of a simple command that overtakes a waiting ordered one. -/
theorem istate_startsInOrder_iff (run : Run TaskStep .empty history s)
    (step : TaskStep s label t) :
    StartsInOrder history label ↔ s.overtakes label.event = false := by
  have before := run.task_follows
  obtain ⟨taskAttr, nodeMaster, event, -, arrived⟩ |
    ⟨id, front, ctio, behind, begun, rest, event, completed⟩ := step.cases before.sound
  · exact arrived.inOrder_iff before event
  · have order := completed.inOrder (before.next step)
    simp [order, event, TaskState.overtakes]

/-- The states after a simple command, and after an ordered one behind it. -/
def simpleRuns : TaskState := ⟨⟨[⟨0, .simple, true⟩], 0, 0, 1, 0, false⟩, 1⟩

/-- A simple command runs, and an ordered one waits for it. -/
def orderedWaits : TaskState :=
  ⟨⟨[⟨0, .simple, true⟩, ⟨1, .ordered, false⟩], 0, 0, 1, 1, false⟩, 2⟩

/-- A simple command arrives and is started. -/
def firstSimple : TaskLabel := ⟨.arrive .simple false, [0]⟩

/-- An ordered command arrives and has to wait. -/
def secondOrdered : TaskLabel := ⟨.arrive .ordered false, []⟩

/-- The run to the waiting ordered command. -/
theorem orderedWaits_run : Run TaskStep .empty [firstSimple, secondOrdered] orderedWaits :=
  .snoc (t := simpleRuns) (.snoc .nil (by decide)) (by decide)

/-- An ordered command that has to wait for a simple one is in order. -/
theorem istate_startsInOrder_ordered :
    StartsInOrder [firstSimple] secondOrdered :=
  (istate_startsInOrder_iff (.snoc (t := .empty) .nil (by decide : TaskStep _ firstSimple simpleRuns))
    (by decide : TaskStep simpleRuns secondOrdered orderedWaits)).2 rfl

/-- A simple command that arrives while an ordered one waits for another simple one is started ahead
of the ordered one. -/
theorem istateQueueCmd_simple_overtakes :
    ∃ history s label t, Run TaskStep .empty history s ∧ TaskStep s label t ∧
      ¬ StartsInOrder history label := by
  refine ⟨[firstSimple, secondOrdered], orderedWaits, ⟨.arrive .simple false, [2]⟩,
    ⟨⟨[⟨0, .simple, true⟩, ⟨1, .ordered, false⟩, ⟨2, .simple, true⟩], 0, 0, 2, 1, false⟩, 3⟩,
    orderedWaits_run, by decide, fun law => ?_⟩
  have done := (law 2 (by decide)).2 (.inl rfl) 1 (by decide) rfl
  simp [CompletedIn, firstSimple, secondOrdered] at done

end VirtualTape
