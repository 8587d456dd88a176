import Mathlib.Data.List.Basic
import Mathlib.Data.List.Count
import VirtualTape.Core.TaskQueue

/-!
# Scans and events of an initiator's queue

What a scan does is said once: it starts the waiting commands of a front part of the list and leaves
the rest. With it the arrival and the completion of a command are described by what they change: the
list, the counters and the commands that are started.
-/

namespace VirtualTape

/-! ## Commands -/

/-- The command after its start. -/
def Ctio.start (ctio : Ctio) : Ctio := { ctio with queued := true }

/-- The command waits. -/
def Ctio.waits (ctio : Ctio) : Bool := !ctio.queued

/-- The command runs and is a head of queue command. -/
def Ctio.runsHead (ctio : Ctio) : Bool := ctio.queued && ctio.taskAttr == .headOfQueue

/-- The command runs and is an ordered or an ACA command. -/
def Ctio.runsOrdered (ctio : Ctio) : Bool :=
  ctio.queued && (ctio.taskAttr == .ordered || ctio.taskAttr == .aca)

/-- Starting a command does not change its number. -/
@[simp] theorem Ctio.start_id (ctio : Ctio) : ctio.start.id = ctio.id := rfl

/-- Starting a command does not change its attribute. -/
@[simp] theorem Ctio.start_taskAttr (ctio : Ctio) : ctio.start.taskAttr = ctio.taskAttr := rfl

/-- A started command runs. -/
@[simp] theorem Ctio.start_queued (ctio : Ctio) : ctio.start.queued = true := rfl

/-- Starting a running command changes nothing. -/
theorem Ctio.start_of_queued {ctio : Ctio} (runs : ctio.queued = true) : ctio.start = ctio := by
  cases ctio
  simp only at runs
  rw [runs]
  rfl

/-! ## The scan -/

/-- A scan of a list: the waiting commands of its front are started, the rest is untouched. -/
structure Scanned (scan : TaskScan) (list front rest : List Ctio) (after : TaskScan) : Prop where
  /-- The scan ends between the two parts. -/
  split : list = front ++ rest
  /-- The waiting commands of the front are listed for their start. -/
  taskList : after.taskList = scan.taskList ++ (front.filter Ctio.waits).map Ctio.id
  /-- They are no longer pending. -/
  pending : after.pending = scan.pending - front.countP Ctio.waits
  /-- They run. -/
  queued : after.queued = scan.queued + front.countP Ctio.waits
  /-- Those that are not simple are counted as ordered. -/
  ordered : after.ordered =
    scan.ordered + front.countP fun ctio => ctio.waits && ctio.taskAttr != .simple
  /-- A head of queue command is not started by a scan. -/
  notHead : ∀ ctio ∈ front, ctio.waits = true → ctio.taskAttr ≠ .headOfQueue
  /-- A started simple command has only simple commands in front of it. -/
  simple : ∀ {before ctio behind}, front = before ++ ctio :: behind → ctio.waits = true →
    ctio.taskAttr = .simple → scan.orderedHere = 0 ∧ ∀ iter ∈ before, iter.taskAttr = .simple
  /-- Any other started command is the first. -/
  others : ∀ {before ctio behind}, front = before ++ ctio :: behind → ctio.waits = true →
    ctio.taskAttr ≠ .simple → scan.queuedHere = 0 ∧ before = []
  /-- The scan ends at a command only for one of the two reasons. -/
  stop : ∀ ctio ∈ rest.head?, ctio.taskAttr = .headOfQueue ∨ front ≠ [] ∨
    scan.orderedHere ≠ 0 ∨ scan.queuedHere ≠ 0

/-- A scan that ends at once. -/
theorem Scanned.stopped {scan : TaskScan} {list : List Ctio}
    (stop : ∀ ctio ∈ list.head?, ctio.taskAttr = .headOfQueue ∨ scan.orderedHere ≠ 0 ∨
      scan.queuedHere ≠ 0) : Scanned scan list [] list scan where
  split := rfl
  taskList := by simp
  pending := rfl
  queued := rfl
  ordered := rfl
  notHead := by simp
  simple := by simp
  others := by simp
  stop := by
    intro ctio isHead
    obtain head | other := stop ctio isHead
    · exact .inl head
    · exact .inr (.inr other)

/-- A scan that passes a running command. -/
theorem Scanned.pass {scan next after : TaskScan} {iter : Ctio} {list front rest : List Ctio}
    (tail : Scanned next list front rest after) (runs : iter.queued = true)
    (pending : next.pending = scan.pending) (queued : next.queued = scan.queued)
    (ordered : next.ordered = scan.ordered) (taskList : next.taskList = scan.taskList)
    (queuedHere : next.queuedHere = scan.queuedHere + 1)
    (orderedHere : next.orderedHere =
      if iter.taskAttr ≠ .simple then scan.orderedHere + 1 else scan.orderedHere) :
    Scanned scan (iter :: list) (iter :: front) rest after := by
  have awake : iter.waits = false := by simp [Ctio.waits, runs]
  refine ⟨by rw [tail.split, List.cons_append], ?_, ?_, ?_, ?_, ?_, ?_, ?_, by simp⟩
  · simp [tail.taskList, taskList, awake]
  · simp [tail.pending, pending, awake]
  · simp [tail.queued, queued, awake]
  · simp [tail.ordered, ordered, awake]
  · intro ctio member waits
    obtain rfl | member := List.mem_cons.1 member
    · simp [awake] at waits
    · exact tail.notHead ctio member waits
  · intro before ctio behind eq waits simple
    cases before with
    | nil =>
      obtain rfl : iter = ctio := (List.cons.inj eq).1
      simp [awake] at waits
    | cons first before =>
      obtain ⟨rfl, eqTail⟩ := List.cons.inj eq
      obtain ⟨none, all⟩ := tail.simple eqTail waits simple
      by_cases isSimple : iter.taskAttr = .simple
      · refine ⟨by simpa [isSimple] using orderedHere.symm.trans none, fun d member => ?_⟩
        obtain rfl | member := List.mem_cons.1 member
        · exact isSimple
        · exact all d member
      · simp [isSimple, none] at orderedHere
  · intro before ctio behind eq waits other
    cases before with
    | nil =>
      obtain rfl : iter = ctio := (List.cons.inj eq).1
      simp [awake] at waits
    | cons first before =>
      obtain ⟨none, -⟩ := tail.others (List.cons.inj eq).2 waits other
      omega

/-- A scan that starts a waiting command. -/
theorem Scanned.begin {scan next after : TaskScan} {iter : Ctio} {list front rest : List Ctio}
    (tail : Scanned next list front rest after) (waits : iter.waits = true)
    (notHead : iter.taskAttr ≠ .headOfQueue)
    (pending : next.pending = scan.pending - 1) (queued : next.queued = scan.queued + 1)
    (ordered : next.ordered = scan.ordered + if iter.taskAttr = .simple then 0 else 1)
    (taskList : next.taskList = scan.taskList ++ [iter.id])
    (queuedHere : next.queuedHere = scan.queuedHere + 1)
    (orderedHere : next.orderedHere = scan.orderedHere + if iter.taskAttr = .simple then 0 else 1)
    (simple : iter.taskAttr = .simple → scan.orderedHere = 0)
    (others : iter.taskAttr ≠ .simple → scan.queuedHere = 0) :
    Scanned scan (iter :: list) (iter :: front) rest after := by
  refine ⟨by rw [tail.split, List.cons_append], ?_, ?_, ?_, ?_, ?_, ?_, ?_, by simp⟩
  · simp [tail.taskList, taskList, waits]
  · simp only [tail.pending, pending, List.countP_cons, waits, if_true]
    omega
  · simp only [tail.queued, queued, List.countP_cons, waits, if_true]
    omega
  · simp only [tail.ordered, ordered, List.countP_cons, waits, Bool.true_and, bne_iff_ne, ne_eq,
      ite_not]
    omega
  · intro ctio member isWaiting
    obtain rfl | member := List.mem_cons.1 member
    · exact notHead
    · exact tail.notHead ctio member isWaiting
  · intro before ctio behind eq isWaiting isSimple
    cases before with
    | nil =>
      obtain rfl : iter = ctio := (List.cons.inj eq).1
      exact ⟨simple isSimple, by simp⟩
    | cons first before =>
      obtain ⟨rfl, eqTail⟩ := List.cons.inj eq
      obtain ⟨none, all⟩ := tail.simple eqTail isWaiting isSimple
      have noneHere : scan.orderedHere = 0 ∧ iter.taskAttr = .simple := by
        by_cases iterSimple : iter.taskAttr = .simple
        · exact ⟨simple iterSimple, iterSimple⟩
        · simp [iterSimple, none] at orderedHere
      refine ⟨noneHere.1, fun d member => ?_⟩
      obtain rfl | member := List.mem_cons.1 member
      · exact noneHere.2
      · exact all d member
  · intro before ctio behind eq isWaiting other
    cases before with
    | nil =>
      obtain rfl : iter = ctio := (List.cons.inj eq).1
      exact ⟨others other, rfl⟩
    | cons first before =>
      obtain ⟨none, -⟩ := tail.others (List.cons.inj eq).2 isWaiting other
      omega

/-- Every scan starts the waiting commands of a front part of the list. -/
theorem istateScan_scanned (scan : TaskScan) (list : List Ctio) :
    ∃ front rest, Scanned scan list front rest (istateScan scan list).1 ∧
      (istateScan scan list).2 = front.map Ctio.start ++ rest := by
  induction list generalizing scan with
  | nil => exact ⟨[], [], .stopped (by simp), rfl⟩
  | cons iter list ih =>
    unfold istateScan
    by_cases runs : iter.queued = true
    · simp only [runs, if_true]
      obtain ⟨front, rest, tail, eq⟩ := ih _
      refine ⟨iter :: front, rest, tail.pass runs rfl rfl rfl rfl rfl rfl, ?_⟩
      rw [eq, List.map_cons, List.cons_append, Ctio.start_of_queued runs]
    · have waits : iter.waits = true := by simpa [Ctio.waits] using runs
      simp only [runs, Bool.false_eq_true, if_false]
      cases attr : iter.taskAttr with
      | simple =>
        by_cases none : scan.orderedHere = 0
        · obtain ⟨front, rest, tail, eq⟩ := ih _
          simp only [none, ne_eq, not_true, if_false]
          exact ⟨iter :: front, rest, tail.begin waits (by simp [attr]) rfl rfl (by simp [attr]) rfl
            rfl (by simp [attr, none]) (fun _ => none) (by simp [attr]), by simp [eq, Ctio.start, attr]⟩
        · simp only [ne_eq, none, not_false_eq_true, if_true]
          exact ⟨[], _, .stopped (by simp [none]), rfl⟩
      | headOfQueue => exact ⟨[], _, .stopped (by simp [attr]), rfl⟩
      | ordered | aca | other code =>
        by_cases none : scan.queuedHere = 0
        · obtain ⟨front, rest, tail, eq⟩ := ih _
          simp only [none, ne_eq, not_true, if_false]
          exact ⟨iter :: front, rest, tail.begin waits (by simp [attr]) rfl rfl (by simp [attr]) rfl
            (by simp [none]) (by simp [attr]) (by simp [attr]) (fun _ => none), by simp [eq, Ctio.start, attr]⟩
        · simp only [ne_eq, none, not_false_eq_true, if_true]
          exact ⟨[], _, .stopped (by simp [none]), rfl⟩

/-! ## What a start changes in the counts -/

section Counts

variable (front : List Ctio)

/-- All commands of a started list run. -/
theorem countP_start_queued : (front.map Ctio.start).countP Ctio.queued =
    front.countP Ctio.queued + front.countP Ctio.waits := by
  induction front with
  | nil => rfl
  | cons ctio front ih =>
    simp only [List.map_cons, List.countP_cons, ih, Ctio.start_queued, if_true]
    cases runs : ctio.queued <;> simp [Ctio.waits, runs] <;> omega

/-- None of them waits. -/
theorem countP_start_waits : (front.map Ctio.start).countP Ctio.waits = 0 := by
  simp [List.countP_eq_zero, Ctio.waits]

/-- No head of queue command is started. -/
theorem countP_start_runsHead
    (notHead : ∀ ctio ∈ front, ctio.waits = true → ctio.taskAttr ≠ .headOfQueue) :
    (front.map Ctio.start).countP Ctio.runsHead = front.countP Ctio.runsHead := by
  rw [List.countP_map]
  apply List.countP_congr
  intro ctio member
  have kept := notHead ctio member
  cases runs : ctio.queued with
  | true => simp [Ctio.runsHead, runs]
  | false => simp [Ctio.runsHead, runs, kept (by simp [Ctio.waits, runs])]

/-- The started commands that are not simple are ordered or ACA commands. -/
theorem countP_start_runsOrdered
    (notHead : ∀ ctio ∈ front, ctio.waits = true → ctio.taskAttr ≠ .headOfQueue)
    (named : ∀ ctio ∈ front, ctio.taskAttr.named = true) :
    (front.map Ctio.start).countP Ctio.runsOrdered = front.countP Ctio.runsOrdered +
      front.countP fun ctio => ctio.waits && ctio.taskAttr != .simple := by
  induction front with
  | nil => rfl
  | cons ctio front ih =>
    have rest := ih (fun iter member => notHead iter (List.mem_cons_of_mem _ member))
      fun iter member => named iter (List.mem_cons_of_mem _ member)
    have kept := notHead ctio List.mem_cons_self
    have isNamed := named ctio List.mem_cons_self
    simp only [List.map_cons, List.countP_cons, rest]
    cases runs : ctio.queued with
    | true => simp [Ctio.runsOrdered, Ctio.waits, runs]; omega
    | false =>
      have isHead := kept (by simp [Ctio.waits, runs])
      cases attr : ctio.taskAttr <;>
        simp_all [Ctio.runsOrdered, Ctio.waits, TaskAttr.named] <;> omega

end Counts

/-! ## What an event does -/

/-- A command arrived. -/
structure Arrived (s : TaskState) (taskAttr : TaskAttr) (t : TaskState) (started : List Nat) :
    Prop where
  /-- It has the next number. -/
  arrived : t.arrived = s.arrived + 1
  /-- It is started or not. -/
  started : started = if s.istate.execs taskAttr then [s.arrived] else []
  /-- It is the last of the list. -/
  queueList : t.istate.queueList =
    s.istate.queueList ++ [⟨s.arrived, taskAttr, s.istate.execs taskAttr⟩]
  /-- It is counted as running if it was started. -/
  queued : t.istate.queued = s.istate.queued + (s.istate.execs taskAttr).toNat
  /-- It is counted as waiting if it was not. -/
  pending : t.istate.pending = s.istate.pending + (!s.istate.execs taskAttr).toNat
  /-- A head of queue command is counted. -/
  head : t.istate.head = s.istate.head + (taskAttr == .headOfQueue).toNat
  /-- A running command that is neither simple nor head of queue is counted. -/
  ordered : t.istate.ordered = s.istate.ordered +
    (s.istate.execs taskAttr && taskAttr != .simple && taskAttr != .headOfQueue).toNat

/-- What an arrival does. -/
theorem TaskState.step_arrive {s t : TaskState} {taskAttr : TaskAttr} {nodeMaster : Bool}
    {started : List Nat} (step : s.step (.arrive taskAttr nodeMaster) = some (t, started)) :
    Arrived s taskAttr t started := by
  simp only [TaskState.step, istateQueueCmd, Option.map_eq_some_iff, Prod.exists, Prod.mk.injEq]
    at step
  obtain ⟨istate, exec, queue, rfl, rfl⟩ := step
  split at queue
  · simp at queue
  · simp only [Option.some.injEq, Prod.mk.injEq, Bool.false_or] at queue
    obtain ⟨rfl, rfl⟩ := queue
    cases taskAttr with
    | headOfQueue => exact ⟨rfl, rfl, rfl, rfl, rfl, rfl, rfl⟩
    | simple | ordered | aca | other code =>
      cases exec : s.istate.execs _ <;>
        exact ⟨rfl, by simp [exec], by simp [exec], by simp [exec], by simp [exec], by simp,
          by simp [exec] <;> rfl⟩

/-- A running command was completed. -/
structure Completed (s : TaskState) (id : Nat) (t : TaskState) (started : List Nat)
    (before : List Ctio) (ctio : Ctio) (behind front rest : List Ctio) : Prop where
  /-- The command was on the list. -/
  found : s.istate.queueList = before ++ ctio :: behind
  /-- It is the command of that number. -/
  isId : ctio.id = id
  /-- It was running. -/
  runs : ctio.queued = true
  /-- The others are a part in which every command now runs, and a part left alone. -/
  split : before ++ behind = front ++ rest
  /-- They stay on the list. -/
  queueList : t.istate.queueList = front.map Ctio.start ++ rest
  /-- The commands that were waiting in the first part are started. -/
  started : started = (front.filter Ctio.waits).map Ctio.id
  /-- No command arrived. -/
  arrived : t.arrived = s.arrived
  /-- The started commands are no longer pending. -/
  pending : t.istate.pending = s.istate.pending - front.countP Ctio.waits
  /-- One running command less, and the started ones more. -/
  queued : t.istate.queued = s.istate.queued - 1 + front.countP Ctio.waits
  /-- One head of queue command less if the completed one was. -/
  head : t.istate.head = s.istate.head - (ctio.taskAttr == .headOfQueue).toNat
  /-- One ordered command less if the completed one was, and the started ones more. -/
  ordered : t.istate.ordered =
    s.istate.ordered - (ctio.taskAttr == .ordered || ctio.taskAttr == .aca).toNat +
      front.countP fun iter => iter.waits && iter.taskAttr != .simple
  /-- A head of queue command is not started by a completion. -/
  notHead : ∀ iter ∈ front, iter.waits = true → iter.taskAttr ≠ .headOfQueue
  /-- A started simple command has only simple commands in front of it. -/
  simple : ∀ {ahead iter after}, front = ahead ++ iter :: after → iter.waits = true →
    iter.taskAttr = .simple → ∀ other ∈ ahead, other.taskAttr = .simple
  /-- Any other started command is the first. -/
  others : ∀ {ahead iter after}, front = ahead ++ iter :: after → iter.waits = true →
    iter.taskAttr ≠ .simple → ahead = []
  /-- Commands stay behind only if none waits, the completed one was not the first, or the first of
  the list goes on running. -/
  progress : s.istate.pending = 0 ∨ before ≠ [] ∨
    ∀ iter ∈ rest.head?, iter.taskAttr = .headOfQueue ∨ front ≠ []

/-- Numbers are unique on a list in the order of arrival. -/
theorem eraseP_of_sorted {before behind : List Ctio} {ctio : Ctio}
    (sorted : (before ++ ctio :: behind).Pairwise fun a b => a.id < b.id) :
    (before ++ ctio :: behind).eraseP (fun iter => iter.id == ctio.id) = before ++ behind := by
  have apart : ∀ iter ∈ before, ¬ (iter.id == ctio.id) = true := by
    intro iter member same
    have less := (List.pairwise_append.1 sorted).2.2 iter member ctio List.mem_cons_self
    simp at same
    omega
  rw [List.eraseP_append_right _ apart, List.eraseP_cons_of_pos (by simp)]

/-- The counters after a running command was taken out of them. -/
theorem IstateQueue.countOut_running (istate : IstateQueue) {ctio : Ctio}
    (runs : ctio.queued = true) :
    (istate.countOut ctio).queued = istate.queued - 1 ∧
      (istate.countOut ctio).pending = istate.pending ∧
      (istate.countOut ctio).head = istate.head - (ctio.taskAttr == .headOfQueue).toNat ∧
      (istate.countOut ctio).ordered =
        istate.ordered - (ctio.taskAttr == .ordered || ctio.taskAttr == .aca).toNat := by
  simp only [IstateQueue.countOut, runs, if_true]
  cases ctio.taskAttr <;> exact ⟨rfl, rfl, rfl, rfl⟩

/-- What a completion does. -/
theorem TaskState.step_complete {s t : TaskState} {id : Nat} {started : List Nat}
    (sorted : s.istate.queueList.Pairwise fun a b => a.id < b.id)
    (step : s.step (.complete id) = some (t, started)) :
    ∃ before ctio behind front rest, Completed s id t started before ctio behind front rest := by
  simp only [TaskState.step, Option.map_eq_some_iff, Prod.mk.injEq] at step
  obtain ⟨ctio, find, rfl, rfl⟩ := step
  have isCtio := List.find?_some find
  simp only [Bool.and_eq_true, beq_iff_eq] at isCtio
  obtain ⟨isId, runs⟩ := isCtio
  obtain ⟨before, behind, found⟩ := List.append_of_mem (List.mem_of_find?_eq_some find)
  have onList : (s.istate.queueList.any fun iter => iter.id == ctio.id) = true := by
    simp [found]
  have erased : s.istate.queueList.eraseP (fun iter => iter.id == ctio.id) = before ++ behind := by
    rw [found] at sorted ⊢
    exact eraseP_of_sorted sorted
  obtain ⟨queued, pending, head, ordered⟩ := s.istate.countOut_running runs
  simp only [deviceRemoveCtio, onList, if_true, istateRemoveCmd, erased]
  generalize s.istate.countOut ctio = less at *
  by_cases still : less.pending = 0 ∨ s.istate.queueList.head?.map Ctio.id ≠ some ctio.id
  · rw [if_pos still]
    refine ⟨before, ctio, behind, [], before ++ behind, found, isId, runs, rfl, rfl, rfl, rfl,
      pending, queued, head, ordered, by simp, by simp, by simp, ?_⟩
    rw [pending] at still
    refine still.imp_right fun notFirst => .inl fun nil => notFirst ?_
    simp [found, nil]
  · rw [if_neg still]
    obtain ⟨front, rest, scanned, list⟩ := istateScan_scanned
      ⟨less.pending, less.queued, less.ordered, 0, 0, []⟩ (before ++ behind)
    refine ⟨before, ctio, behind, front, rest, found, isId, runs, scanned.split, list,
      by simpa using scanned.taskList, rfl, by rw [← pending]; exact scanned.pending,
      by rw [← queued]; exact scanned.queued, head, by rw [← ordered]; exact scanned.ordered,
      scanned.notHead, fun eq waits simple => (scanned.simple eq waits simple).2,
      fun eq waits other => (scanned.others eq waits other).2, .inr (.inr fun iter isHead => ?_)⟩
    simpa using scanned.stop iter isHead

end VirtualTape
