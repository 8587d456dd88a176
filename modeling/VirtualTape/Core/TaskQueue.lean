import VirtualTape.Lib.Run

/-!
# The task queue of an initiator

Every initiator state keeps its commands in one list, in the order of their arrival, from arrival to
completion. A command is started on arrival or by the completion of another command; which of the
two is decided from four counters and from a scan of the list. The commands are numbered by their
arrival, so that a number stands for the pointer to the command.
-/

namespace VirtualTape

/-- Task attribute of a command, with `other` for the codes the source gives no name. -/
inductive TaskAttr
  /-- `MSG_SIMPLE_TASK`. -/
  | simple
  /-- `MSG_HEAD_OF_QUEUE_TASK`. -/
  | headOfQueue
  /-- `MSG_ORDERED_TASK`. -/
  | ordered
  /-- `MSG_ACA_TASK`. -/
  | aca
  /-- Any other code. -/
  | other (code : Nat)
  deriving DecidableEq, Repr

/-- A command on the queue. -/
structure Ctio where
  /-- Number of the command, by arrival. -/
  id : Nat
  /-- Task attribute. -/
  taskAttr : TaskAttr
  /-- The command has been started. -/
  queued : Bool
  deriving DecidableEq, Repr

/-- The part of an initiator state that orders its commands. -/
structure IstateQueue where
  /-- Commands that arrived and are not complete. -/
  queueList : List Ctio
  /-- Running ordered commands. -/
  ordered : Nat
  /-- Running head of queue commands. -/
  head : Nat
  /-- Running commands. -/
  queued : Nat
  /-- Waiting commands. -/
  pending : Nat
  /-- Arrivals are held back while an abort is under way. -/
  blocked : Bool
  deriving DecidableEq, Repr

/-- An initiator state without commands. -/
def IstateQueue.empty : IstateQueue := ⟨[], 0, 0, 0, 0, false⟩

/-- A command with this attribute is started on arrival. -/
def IstateQueue.execs (istate : IstateQueue) : TaskAttr → Bool
  | .simple => istate.ordered == 0 && istate.head == 0
  | .headOfQueue => true
  | .ordered | .aca | .other _ => istate.queued == 0

/-- Queue a command, which is started if the result says so; nothing if the caller has to wait for
an abort. -/
def istateQueueCmd (istate : IstateQueue) (ctio : Ctio) (nodeMaster : Bool) :
    Option (IstateQueue × Bool) :=
  if !nodeMaster && istate.blocked then none
  else
    let exec := istate.execs ctio.taskAttr
    let counted := match ctio.taskAttr with
      | .simple => istate
      | .headOfQueue => { istate with head := istate.head + 1 }
      | .ordered | .aca | .other _ =>
        if exec then { istate with ordered := istate.ordered + 1 } else istate
    let counted := if exec then { counted with queued := counted.queued + 1 }
      else { counted with pending := counted.pending + 1 }
    some ({ counted with
      queueList := istate.queueList ++ [{ ctio with queued := ctio.queued || exec }] }, exec)

/-- The variables of the scan for commands to start: three counters of the initiator state, two of
the scan, and the commands started so far. -/
structure TaskScan where
  /-- `istate->pending`. -/
  pending : Nat
  /-- `istate->queued`. -/
  queued : Nat
  /-- `istate->ordered`. -/
  ordered : Nat
  /-- Running commands passed by the scan. -/
  queuedHere : Nat
  /-- Running commands passed by the scan that are not simple. -/
  orderedHere : Nat
  /-- Commands to start. -/
  taskList : List Nat

/-- The scan of the list for commands to start, up to the first that has to wait on. -/
def istateScan (scan : TaskScan) : List Ctio → TaskScan × List Ctio
  | [] => (scan, [])
  | iter :: rest =>
    let start := ({ iter with queued := true } : Ctio)
    if iter.queued then
      let next := istateScan { scan with
        queuedHere := scan.queuedHere + 1
        orderedHere :=
          if iter.taskAttr ≠ .simple then scan.orderedHere + 1 else scan.orderedHere } rest
      (next.1, iter :: next.2)
    else match iter.taskAttr with
      | .simple =>
        if scan.orderedHere ≠ 0 then (scan, iter :: rest)
        else
          let next := istateScan { scan with
            pending := scan.pending - 1
            queued := scan.queued + 1
            queuedHere := scan.queuedHere + 1
            taskList := scan.taskList ++ [iter.id] } rest
          (next.1, start :: next.2)
      | .headOfQueue => (scan, iter :: rest)
      | .ordered | .aca | .other _ =>
        if scan.queuedHere ≠ 0 then (scan, iter :: rest)
        else
          let next := istateScan { scan with
            pending := scan.pending - 1
            queued := scan.queued + 1
            ordered := scan.ordered + 1
            queuedHere := scan.queuedHere + 1
            orderedHere := scan.orderedHere + 1
            taskList := scan.taskList ++ [iter.id] } rest
          (next.1, start :: next.2)

/-- Take a command that ends out of the counters of running commands. -/
def IstateQueue.countOut (istate : IstateQueue) (ctio : Ctio) : IstateQueue :=
  if ctio.queued then
    let less := { istate with queued := istate.queued - 1 }
    match ctio.taskAttr with
    | .headOfQueue => { less with head := istate.head - 1 }
    | .ordered | .aca => { less with ordered := istate.ordered - 1 }
    | .simple | .other _ => less
  else istate

/-- Remove a command, and start those that need wait no longer. -/
def istateRemoveCmd (istate : IstateQueue) (ctio : Ctio) : IstateQueue × List Nat :=
  let counted := istate.countOut ctio
  let rest := istate.queueList.eraseP fun iter => iter.id == ctio.id
  if counted.pending = 0 ∨ (istate.queueList.head?.map Ctio.id) ≠ some ctio.id then
    ({ counted with queueList := rest }, [])
  else
    let scan := istateScan ⟨counted.pending, counted.queued, counted.ordered, 0, 0, []⟩ rest
    ({ counted with
      queueList := scan.2
      pending := scan.1.pending
      queued := scan.1.queued
      ordered := scan.1.ordered }, scan.1.taskList)

/-- Remove a command if it is on a queue. -/
def deviceRemoveCtio (istate : IstateQueue) (ctio : Ctio) : IstateQueue × List Nat :=
  if istate.queueList.any fun iter => iter.id == ctio.id then istateRemoveCmd istate ctio
  else (istate, [])

/-! ## Arrivals and completions -/

/-- An initiator state and the number of commands that arrived so far. -/
structure TaskState where
  /-- The initiator state. -/
  istate : IstateQueue
  /-- Commands that arrived so far. -/
  arrived : Nat
  deriving DecidableEq, Repr

/-- No command has arrived yet, and arrivals are not held back. -/
def TaskState.empty : TaskState := ⟨.empty, 0⟩

/-- What happens to an initiator state. -/
inductive TaskEvent
  /-- A command arrives. -/
  | arrive (taskAttr : TaskAttr) (nodeMaster : Bool)
  /-- A running command is complete. -/
  | complete (id : Nat)
  deriving DecidableEq, Repr

/-- An event, and the commands it started: the arriving one if `istate_queue_cmd` returned 1 for it,
or those in the task list of `istate_remove_cmd`. -/
structure TaskLabel where
  /-- The event. -/
  event : TaskEvent
  /-- The commands it started. -/
  started : List Nat
  deriving DecidableEq, Repr

/-- One event; nothing if it cannot happen now. -/
def TaskState.step (s : TaskState) : TaskEvent → Option (TaskState × List Nat)
  | .arrive taskAttr nodeMaster =>
    (istateQueueCmd s.istate ⟨s.arrived, taskAttr, false⟩ nodeMaster).map fun next =>
      (⟨next.1, s.arrived + 1⟩, if next.2 then [s.arrived] else [])
  | .complete id =>
    (s.istate.queueList.find? fun iter => iter.id == id && iter.queued).map fun ctio =>
      let next := deviceRemoveCtio s.istate ctio
      (⟨next.1, s.arrived⟩, next.2)

/-- The attribute is one of the four that the source names. -/
def TaskAttr.named : TaskAttr → Bool
  | .other _ => false
  | _ => true

/-- An arriving command has one of the four named attributes. -/
def TaskEvent.named : TaskEvent → Bool
  | .arrive taskAttr _ => taskAttr.named
  | .complete _ => true

/-- Arrivals of commands with named attributes, and completions. -/
def TaskStep (s : TaskState) (label : TaskLabel) (t : TaskState) : Prop :=
  label.event.named = true ∧ s.step label.event = some (t, label.started)

instance (s : TaskState) (label : TaskLabel) (t : TaskState) : Decidable (TaskStep s label t) :=
  inferInstanceAs (Decidable (_ ∧ _))

end VirtualTape
