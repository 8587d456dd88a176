import Mathlib.Data.Nat.Find
import VirtualTape.Verif.WriteQueue

/-!
# Buffered writes are sequentially consistent

A run of the two threads is compared with the run in which every write is executed where it is
accepted.
-/

namespace VirtualTape

variable {τ δ : Type} {tapes : TapeBehaviour τ δ} {start s t : Drive τ δ}
  {label : DriveLabel δ} {history : List (DriveLabel δ)}

/-! ## The order of tape operations -/

/-- What happens to a tape. -/
inductive TapeEvent (δ : Type)
  /-- A request of the write queue. -/
  | write (ctio : WriteCtio δ)
  /-- A flush by the command thread. -/
  | flush
  /-- A tape operation of the command thread. -/
  | command (cmd : TapeCommand)

/-- The event that an effect asks for: writes where they are accepted. -/
def DriveEffect.asked : DriveEffect δ → Option (TapeEvent δ)
  | .accept ctio _ => some (.write ctio)
  | .flush => some .flush
  | .perform cmd => some (.command cmd)
  | .execute _ | .silent => none

/-- The event that an effect is: writes where they are executed. -/
def DriveEffect.happened : DriveEffect δ → Option (TapeEvent δ)
  | .execute ctio => some (.write ctio)
  | .flush => some .flush
  | .perform cmd => some (.command cmd)
  | .accept _ _ | .silent => none

/-- The order in which commands asked for tape operations. -/
def programOrder (history : List (DriveLabel δ)) : List (TapeEvent δ) :=
  history.filterMap fun label => label.effect.asked

/-- The order in which they were executed. -/
def executionOrder (history : List (DriveLabel δ)) : List (TapeEvent δ) :=
  history.filterMap fun label => label.effect.happened

/-- What a request means for a tape, with the settings of a drive: blocks are written unless none is
asked for, filemarks are written, and the tape is flushed if none is asked for or they cannot be
written. -/
def Drive.applyWrite (tapes : TapeBehaviour τ δ) (drive : Drive τ δ) (tape : τ) : WriteOp δ → τ
  | .write6 _ 0 _ => tape
  | .write6 true count data => tapes.write drive.blockLength count drive.compression data tape
  | .write6 false length data => tapes.write length 1 drive.compression data tape
  | .writeFilemarks _ 0 => tapes.flushBuffers tape
  | .writeFilemarks wmsk count =>
    match tapes.writeFilemarks wmsk count tape with
    | (written, true) => written
    | (written, false) => tapes.flushBuffers written

/-- One event on a tape, with the settings of a drive. -/
def Drive.apply (tapes : TapeBehaviour τ δ) (drive : Drive τ δ) (tape : τ) : TapeEvent δ → τ
  | .write ctio => drive.applyWrite tapes tape ctio.op
  | .flush => if tapes.dirWrite tape then tapes.flushBuffers tape else tape
  | .command cmd => (tapes.command cmd tape).1

/-- The tape after the events in sequence. -/
def Drive.sequential (tapes : TapeBehaviour τ δ) (drive : Drive τ δ)
    (events : List (TapeEvent δ)) : τ :=
  events.foldl (drive.apply tapes) drive.tape

/-- The requests that are not executed yet. -/
def Drive.outstanding (drive : Drive τ δ) : List (WriteCtio δ) :=
  match drive.writer with
  | .taken ctio => ctio :: drive.pendingQueue
  | .idle | .executed => drive.pendingQueue

/-! ## The sequential run -/

/-- The write thread does to the tape what the request means, with the same settings. -/
theorem Drive.tdriveProcWriteCmd_tape (sameLength : s.blockLength = start.blockLength)
    (sameCompression : s.compression = start.compression) (ctio : WriteCtio δ) :
    (s.tdriveProcWriteCmd tapes ctio).tape = start.apply tapes s.tape (.write ctio) := by
  obtain ⟨op, buffered⟩ := ctio
  cases op with
  | write6 fixed transferLength data =>
    simp only [Drive.apply, Drive.tdriveProcWriteCmd, Drive.tdriveCmdWrite6, sameLength,
      sameCompression]
    cases transferLength with
    | zero => rfl
    | succ count => cases fixed <;> cases buffered <;> rfl
  | writeFilemarks wmsk transferLength =>
    simp only [Drive.apply, Drive.tdriveProcWriteCmd, Drive.tdriveCmdWriteFilemarks]
    cases transferLength with
    | zero => rfl
    | succ count =>
      simp only [Drive.applyWrite]
      generalize tapes.writeFilemarks wmsk (count + 1) s.tape = result
      obtain ⟨written, succeeded⟩ := result
      cases succeeded <;> rfl

/-- How a drive and the sequential run of what was executed belong together. -/
structure InOrder (tapes : TapeBehaviour τ δ) (start : Drive τ δ) (history : List (DriveLabel δ))
    (s : Drive τ δ) : Prop where
  /-- The drive is consistent, and its settings are kept. -/
  consistent : s.Consistent true
  /-- What was asked for is what was executed and then what is outstanding. -/
  order : programOrder history = executionOrder history ++ s.outstanding.map .write
  /-- The tape is as after a sequential run. -/
  tape : s.tape = start.sequential tapes (executionOrder history)
  /-- The block length stays. -/
  blockLength : s.blockLength = start.blockLength
  /-- The compression stays. -/
  compression : s.compression = start.compression

/-- The order after one more step. -/
theorem programOrder_append : programOrder (history ++ [label]) =
    programOrder history ++ label.effect.asked.toList := by
  cases asked : label.effect.asked <;> simp [programOrder, asked]

/-- The order after one more step. -/
theorem executionOrder_append : executionOrder (history ++ [label]) =
    executionOrder history ++ label.effect.happened.toList := by
  cases happened : label.effect.happened <;> simp [executionOrder, happened]

/-- One event more. -/
theorem Drive.sequential_append (events : List (TapeEvent δ)) (event : TapeEvent δ) :
    start.sequential tapes (events ++ [event]) =
      start.apply tapes (start.sequential tapes events) event := by
  simp [Drive.sequential]

/-- With an empty queue nothing is outstanding, so everything asked for was executed. -/
theorem InOrder.drained (inOrder : InOrder tapes start history s) (none : s.pendingCmds = 0) :
    s.outstanding = [] ∧ programOrder history = executionOrder history := by
  obtain ⟨queue, writer⟩ := inOrder.consistent.drained none
  have outstanding : s.outstanding = [] := by simp [Drive.outstanding, writer, queue]
  exact ⟨outstanding, by rw [inOrder.order, outstanding, List.map_nil, List.append_nil]⟩

/-- What is outstanding only depends on the queue and the write thread. -/
theorem Drive.outstanding_congr (queue : t.pendingQueue = s.pendingQueue)
    (writer : t.writer = s.writer) : t.outstanding = s.outstanding := by
  unfold Drive.outstanding
  rw [queue, writer]

/-- A step without effect keeps drive and sequential run together. -/
theorem InOrder.silent (inOrder : InOrder tapes start history s) (consistent : t.Consistent true)
    (effect : label.effect = .silent) (outstanding : t.outstanding = s.outstanding)
    (tape : t.tape = s.tape) (blockLength : t.blockLength = s.blockLength)
    (compression : t.compression = s.compression) :
    InOrder tapes start (history ++ [label]) t where
  consistent := consistent
  order := by
    rw [programOrder_append, executionOrder_append, effect, outstanding]
    simpa [DriveEffect.asked, DriveEffect.happened] using inOrder.order
  tape := by
    rw [executionOrder_append, effect, tape, inOrder.tape]
    simp [DriveEffect.happened]
  blockLength := blockLength.trans inOrder.blockLength
  compression := compression.trans inOrder.compression

/-- An operation of the command thread keeps drive and sequential run together. -/
theorem InOrder.operation (inOrder : InOrder tapes start history s)
    (consistent : t.Consistent true) (none : s.pendingCmds = 0) {event : TapeEvent δ}
    (asked : label.effect.asked = some event) (happened : label.effect.happened = some event)
    (queue : t.pendingQueue = s.pendingQueue) (writer : t.writer = s.writer)
    (tape : t.tape = start.apply tapes s.tape event) (blockLength : t.blockLength = s.blockLength)
    (compression : t.compression = s.compression) :
    InOrder tapes start (history ++ [label]) t where
  consistent := consistent
  order := by
    obtain ⟨nothing, same⟩ := inOrder.drained none
    rw [programOrder_append, executionOrder_append, asked, happened, same,
      Drive.outstanding_congr queue writer, nothing]
    simp
  tape := by
    rw [executionOrder_append, happened, tape, inOrder.tape]
    exact (Drive.sequential_append _ _).symm
  blockLength := blockLength.trans inOrder.blockLength
  compression := compression.trans inOrder.compression

/-- The actions of the command thread keep drive and sequential run together. -/
theorem InOrder.act {action : DriveAction δ} {rest : List (DriveAction δ)}
    (inOrder : InOrder tapes start history s) (todo : s.todo = action :: rest)
    (step : s.act tapes rest action = some (t, label.effect)) :
    InOrder tapes start (history ++ [label]) t := by
  have after := Drive.act_consistent inOrder.consistent todo step
  have isGuarded := inOrder.consistent.isGuarded
  rw [todo] at isGuarded
  cases action with
  | wait =>
    simp only [Drive.act, Option.ite_none_right_eq_some, Option.some.injEq, Prod.mk.injEq] at step
    obtain ⟨-, rfl, effect⟩ := step
    exact inOrder.silent after effect.symm rfl rfl rfl rfl
  | incr =>
    simp only [Drive.act, Option.ite_none_left_eq_some, Option.some.injEq, Prod.mk.injEq] at step
    obtain ⟨-, rfl, effect⟩ := step
    exact inOrder.silent after effect.symm rfl rfl rfl rfl
  | atBop | setLoaded | setBufferedMode =>
    simp only [Drive.act, Option.some.injEq, Prod.mk.injEq] at step
    obtain ⟨rfl, effect⟩ := step
    exact inOrder.silent after effect.symm rfl rfl rfl rfl
  | setBlockLength | setCompression => simp [guarded] at isGuarded
  | insert ctio =>
    simp only [Drive.act, Option.some.injEq, Prod.mk.injEq] at step
    obtain ⟨rfl, effect⟩ := step
    refine ⟨after, ?_, ?_, inOrder.blockLength, inOrder.compression⟩
    · rw [programOrder_append, executionOrder_append, ← effect, inOrder.order]
      cases writer : s.writer <;>
        simp [Drive.outstanding, writer, DriveEffect.asked, DriveEffect.happened]
    · rw [executionOrder_append, ← effect]
      simpa [DriveEffect.happened] using inOrder.tape
  | flush | command =>
    simp only [guarded, Bool.and_eq_true, decide_eq_true_eq] at isGuarded
    simp only [Drive.act, Option.some.injEq, Prod.mk.injEq] at step
    obtain ⟨rfl, effect⟩ := step
    exact inOrder.operation after isGuarded.1 (by rw [← effect]; rfl) (by rw [← effect]; rfl) rfl
      rfl rfl rfl rfl

/-- The write thread keeps drive and sequential run together. -/
theorem InOrder.write (inOrder : InOrder tapes start history s)
    (step : s.devqProcessQueue tapes = some (t, label.effect)) :
    InOrder tapes start (history ++ [label]) t := by
  have after := Drive.devqProcessQueue_consistent inOrder.consistent step
  obtain ⟨ctio, rest, writer, queue, effect, rfl⟩ | ⟨ctio, writer, effect, rfl⟩ |
    ⟨writer, effect, rfl⟩ := Drive.devqProcessQueue_cases step
  · exact inOrder.silent after effect (by simp [Drive.outstanding, writer, queue]) rfl rfl rfl
  · obtain ⟨tape, size, writes, eq⟩ := Drive.tdriveProcWriteCmd_frame tapes s ctio
    have onTape : (s.tdriveProcWriteCmd tapes ctio).tape =
        start.apply tapes s.tape (.write ctio) :=
      Drive.tdriveProcWriteCmd_tape inOrder.blockLength inOrder.compression ctio
    rw [eq] at onTape after ⊢
    refine ⟨after, ?_, ?_, inOrder.blockLength, inOrder.compression⟩
    · rw [programOrder_append, executionOrder_append, effect, inOrder.order]
      simp [Drive.outstanding, writer, DriveEffect.asked, DriveEffect.happened]
    · rw [executionOrder_append, effect]
      simp only [DriveEffect.happened, Option.toList_some] at onTape ⊢
      rw [onTape, Drive.sequential_append, ← inOrder.tape]
  · exact inOrder.silent after effect (by simp [Drive.outstanding, writer]) rfl rfl rfl

/-- Every step keeps drive and sequential run together. -/
theorem InOrder.next (inOrder : InOrder tapes start history s)
    (step : MediaStep tapes s label t) : InOrder tapes start (history ++ [label]) t := by
  have after := step.1.consistent inOrder.consistent fun _ => step.2
  obtain ⟨circ, cmd, -, todo, effect, rfl⟩ | ⟨action, rest, -, todo, act⟩ | ⟨-, write⟩ :=
    step.1.cases
  · exact inOrder.silent after effect rfl rfl rfl rfl
  · exact inOrder.act todo act
  · exact inOrder.write write

/-- Every run of a drive that starts at rest stays together with a sequential run. -/
theorem Run.inOrder (run : Run (MediaStep tapes) start history s) (resting : start.Resting) :
    InOrder tapes start history s := by
  refine run.history ?_ InOrder.next
  refine ⟨resting.consistent, ?_, rfl, rfl, rfl⟩
  simp [programOrder, executionOrder, Drive.outstanding, resting.writer, resting.pendingQueue]

/-! ## The write thread goes on -/

/-- How far the write thread is from the execution of its next request. -/
def WriteThread.distance : WriteThread δ → Nat
  | .taken _ => 0
  | .idle => 1
  | .executed => 2

/-- Whenever the write thread can make a step it makes one some time. -/
def WriterRuns (x : Execution (MediaStep tapes)) : Prop :=
  ∀ n, ((x.state n).devqProcessQueue tapes).isSome = true →
    ∃ m label, n ≤ m ∧ x.event m = some label ∧ label.move = .writer

/-- With a request outstanding the write thread can make a step. -/
theorem Drive.devqProcessQueue_isSome (some : s.outstanding ≠ []) :
    (s.devqProcessQueue tapes).isSome = true := by
  unfold Drive.devqProcessQueue
  cases writer : s.writer with
  | taken | executed => rfl
  | idle =>
    cases queue : s.pendingQueue with
    | nil => simp [Drive.outstanding, writer, queue] at some
    | cons => rfl

/-- A step of the write thread executes a request or comes nearer to it; other steps do not move
it. -/
theorem DriveStep.distance (step : DriveStep tapes s label t) :
    (label.move = .writer → (∃ ctio, label.effect = .execute ctio ∧ t.writer.distance = 2) ∨
      t.writer.distance < s.writer.distance) ∧
    (label.move ≠ .writer → t.writer = s.writer) := by
  obtain ⟨circ, cmd, move, -, -, rfl⟩ | ⟨action, rest, move, -, act⟩ | ⟨move, write⟩ := step.cases
  · exact ⟨fun isWriter => by simp [move] at isWriter, fun _ => rfl⟩
  · refine ⟨fun isWriter => by simp [move] at isWriter, fun _ => ?_⟩
    cases action <;> simp only [Drive.act, Option.ite_none_right_eq_some,
      Option.ite_none_left_eq_some, Option.some.injEq, Prod.mk.injEq] at act
    case wait | incr => rw [← act.2.1]
    all_goals rw [← act.1]
  · refine ⟨fun _ => ?_, fun notWriter => absurd move notWriter⟩
    obtain ⟨ctio, rest, writer, -, -, rfl⟩ | ⟨ctio, -, effect, rfl⟩ | ⟨writer, -, rfl⟩ :=
      Drive.devqProcessQueue_cases write
    · exact .inr (by simp [writer, WriteThread.distance])
    · exact .inl ⟨ctio, effect, rfl⟩
    · exact .inr (by simp [writer, WriteThread.distance])

section Executions

variable {x : Execution (MediaStep tapes)}

/-- What was asked for before a time was asked for before every later time. -/
theorem Execution.programOrder_mono {m n : ℕ} (later : m ≤ n) :
    programOrder (x.labels m) <+: programOrder (x.labels n) := by
  induction n, later using Nat.le_induction with
  | base => exact List.prefix_rfl
  | succ k later ih =>
    refine ih.trans ?_
    simp only [Execution.labels, programOrder, List.filterMap_append]
    exact List.prefix_append _ _

/-- What was executed before a time was executed before every later time. -/
theorem Execution.executionOrder_mono {m n : ℕ} (later : m ≤ n) :
    (executionOrder (x.labels m)).length ≤ (executionOrder (x.labels n)).length := by
  induction n, later using Nat.le_induction with
  | base => exact Nat.le_refl _
  | succ k later ih =>
    refine Nat.le_trans ih ?_
    simp [Execution.labels, executionOrder, List.filterMap_append]

/-- How much the write thread still has to do until a number of events has been executed. -/
def Execution.remaining (x : Execution (MediaStep tapes)) (goal n : ℕ) : ℕ :=
  3 * (goal - (executionOrder (x.labels n)).length) + (x.state n).writer.distance

/-- Until the next step of the write thread there is not more to do. -/
theorem Execution.remaining_le {goal m n : ℕ} (later : m ≤ n)
    (rests : ∀ k, m ≤ k → k < n → ∀ label, x.event k = some label → label.move ≠ .writer) :
    x.remaining goal n ≤ x.remaining goal m := by
  have writer : (x.state n).writer = (x.state m).writer := by
    induction n, later using Nat.le_induction with
    | base => rfl
    | succ k later ih =>
      rw [← ih fun l after before => rests l after (Nat.lt_succ_of_lt before)]
      cases here : x.event k with
      | none => rw [x.rests k here]
      | some label =>
        exact (x.moves k label here).1.distance.2 (rests k later (Nat.lt_succ_self k) label here)
  have executed := Execution.executionOrder_mono (x := x) later
  simp only [Execution.remaining, writer]
  omega

/-- A step of the write thread leaves less to do, if there is something to do. -/
theorem Execution.remaining_lt {goal n : ℕ} {label : DriveLabel δ} (here : x.event n = some label)
    (isWriter : label.move = .writer) (left : (executionOrder (x.labels n)).length < goal) :
    x.remaining goal (n + 1) < x.remaining goal n := by
  have executed := Execution.executionOrder_mono (x := x) (Nat.le_add_right n 1)
  simp only [Execution.remaining]
  obtain ⟨ctio, effect, distance⟩ | nearer := (x.moves n label here).1.distance.1 isWriter
  · have one : (executionOrder (x.labels (n + 1))).length =
        (executionOrder (x.labels n)).length + 1 := by
      simp [Execution.labels, here, executionOrder_append, effect, DriveEffect.happened]
    omega
  · omega

/-- If the write thread goes on then everything asked for before a time is executed some time. -/
theorem Execution.executes (resting : (x.state 0).Resting) (runs : WriterRuns x) (n : ℕ) :
    ∃ m, n ≤ m ∧ programOrder (x.labels n) <+: executionOrder (x.labels m) := by
  classical
  have inOrder := fun k => (x.run k).inOrder resting
  have falls : ∀ k, ¬ (n ≤ k →
      (programOrder (x.labels n)).length ≤ (executionOrder (x.labels k)).length) →
      ∃ m, k ≤ m ∧ ((n ≤ m →
        (programOrder (x.labels n)).length ≤ (executionOrder (x.labels m)).length) ∨
        x.remaining (programOrder (x.labels n)).length m <
          x.remaining (programOrder (x.labels n)).length k) := by
    intro k missing
    obtain ⟨later, missing⟩ := Classical.not_imp.1 missing
    have outstanding : (x.state k).outstanding ≠ [] := by
      intro none
      have order := (inOrder k).order
      rw [none, List.map_nil, List.append_nil] at order
      have asked := (Execution.programOrder_mono (x := x) later).length_le
      rw [order] at asked
      exact missing asked
    have goesOn := runs k (Drive.devqProcessQueue_isSome outstanding)
    -- Up to its next step the write thread does not move.
    obtain ⟨label, after, here, isWriter⟩ := Nat.find_spec goesOn
    refine ⟨Nat.find goesOn + 1, Nat.le_succ_of_le after, ?_⟩
    by_cases reached : (programOrder (x.labels n)).length ≤
        (executionOrder (x.labels (Nat.find goesOn))).length
    · refine .inl fun _ => Nat.le_trans reached ?_
      exact Execution.executionOrder_mono (Nat.le_add_right _ 1)
    · refine .inr (Nat.lt_of_lt_of_le
        (Execution.remaining_lt here isWriter (Nat.lt_of_not_le reached))
        (Execution.remaining_le after fun j since before label isLabel moves => ?_))
      exact Nat.find_min goesOn before ⟨label, since, isLabel, moves⟩
  obtain ⟨m, later, reached⟩ := eventually_of_rank
    (x.remaining (programOrder (x.labels n)).length) falls n
  refine ⟨m, later, List.prefix_of_prefix_length_le
    (Execution.programOrder_mono later) ?_ (reached later)⟩
  rw [(inOrder m).order]
  exact List.prefix_append _ _

end Executions

/-- A tape that logs what is written. -/
def logTape : TapeBehaviour (List Nat) Nat where
  write _ _ _ data tape := tape ++ [data]
  writeFilemarks _ count tape := (tape ++ List.replicate count 0, true)
  flushBuffers tape := tape
  dirWrite _ := false
  atBop tape := tape.isEmpty
  command _ tape := (tape, true)

/-- A drive at rest, with an empty tape. -/
def emptyDrive : Drive (List Nat) Nat where
  tape := []
  hasTape := true
  loaded := true
  blockLength := 512
  bufferedMode := true
  compression := false
  eraseFromBot := false
  rewindOnUnload := true
  pendingQueue := []
  pendingCmds := 0
  writer := .idle
  pendingSize := 0
  pendingWrites := 0
  todo := []

/-- It is at rest. -/
theorem emptyDrive_resting : emptyDrive.Resting := ⟨rfl, rfl, rfl, rfl⟩

/-- A command that is let through. -/
def calm : Circumstances := ⟨false, false, false, false, .ok, false⟩

/-- A write of one block. -/
def oneBlock : WriteCtio Nat := ⟨.write6 true 1 7, true⟩

end VirtualTape
