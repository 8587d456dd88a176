import Mathlib.Data.List.Basic
import VirtualTape.Core.Drive

/-!
# The write queue of a drive

The counter of queued commands is the number of requests that are not finished, so a command that
waited for it finds nothing in the queue; and a drive whose tape is not loaded has nothing in its
queue either. Hence the command thread works on the tape only while the write thread does not.
-/

namespace VirtualTape

variable {τ δ : Type} {tapes : TapeBehaviour τ δ} {start s t : Drive τ δ}
  {label : DriveLabel δ} {history : List (DriveLabel δ)}

/-- Only WRITE, WRITE FILEMARKS, READ, READ POSITION, LOCATE, SPACE, REWIND, ERASE and LOAD UNLOAD
are started. -/
def DriveMove.isMedia : DriveMove δ → Bool
  | .start _ (.modeSelect ..) => false
  | _ => true

/-- A step of either thread in which no other command is started. -/
def MediaStep (tapes : TapeBehaviour τ δ) (s : Drive τ δ) (label : DriveLabel δ)
    (t : Drive τ δ) : Prop :=
  DriveStep tapes s label t ∧ label.move.isMedia = true

/-! ## What the command thread does only after it waited -/

/-- Every action that needs an empty queue follows a wait, or the queue is empty at the start, and no
request is inserted in between; requests are inserted only while a tape is loaded; and the settings
that writes depend on are kept, if they have to be. -/
def guarded (keep : Bool) : Bool → Bool → List (DriveAction δ) → Bool
  | _, _, [] => true
  | _, loaded, .wait :: rest => guarded keep true loaded rest
  | _, loaded, .insert _ :: rest => loaded && guarded keep false loaded rest
  | drained, _, .setLoaded true :: rest => guarded keep drained true rest
  | drained, loaded, .incr _ _ :: rest => guarded keep drained loaded rest
  | drained, loaded, .setBufferedMode _ :: rest => guarded keep drained loaded rest
  | drained, loaded, .setCompression _ :: rest => !keep && guarded keep drained loaded rest
  | drained, _, .setLoaded false :: rest => drained && guarded keep drained false rest
  | drained, loaded, .flush :: rest => drained && guarded keep drained loaded rest
  | drained, loaded, .atBop :: rest => drained && guarded keep drained loaded rest
  | drained, loaded, .command _ :: rest => drained && guarded keep drained loaded rest
  | drained, loaded, .setBlockLength _ :: rest =>
    drained && (!keep && guarded keep drained loaded rest)

/-- Actions that may be made now may also be made when the queue is empty. -/
theorem guarded_drained {todo : List (DriveAction δ)} {keep drained loaded : Bool}
    (isGuarded : guarded keep drained loaded todo = true) :
    guarded keep true loaded todo = true := by
  induction todo generalizing drained loaded with
  | nil => rfl
  | cons action rest ih =>
    cases action with
    | wait => exact isGuarded
    | insert ctio => exact isGuarded
    | setLoaded loaded =>
      cases loaded with
      | true => exact ih isGuarded
      | false =>
        simp only [guarded, Bool.and_eq_true] at isGuarded
        exact ih isGuarded.2
    | incr | setBufferedMode => exact ih isGuarded
    | setCompression =>
      simp only [guarded, Bool.and_eq_true] at isGuarded ⊢
      exact ⟨isGuarded.1, ih isGuarded.2⟩
    | flush | atBop | command =>
      simp only [guarded, Bool.and_eq_true] at isGuarded
      exact ih isGuarded.2
    | setBlockLength =>
      simp only [guarded, Bool.and_eq_true] at isGuarded ⊢
      exact ⟨trivial, isGuarded.2.1, ih isGuarded.2.2⟩

/-- A drive with a tape waits and flushes. -/
theorem Drive.tdriveEmptyWriteQueue_eq {drive : Drive τ δ} (hasTape : drive.hasTape = true) :
    drive.tdriveEmptyWriteQueue = [.wait, .flush] :=
  if_pos hasTape

/-- A request is put on the queue without looking at the tape. -/
theorem guarded_insertCmd (keep drained copy : Bool) (op : WriteOp δ) :
    guarded keep drained true (Drive.insertCmd copy op) = true := by
  cases copy <;> rfl

/-- A mode page waits before it changes the block length. -/
theorem guarded_modeSelect (drained loaded bufferedMode : Bool) (blockLength : Option Nat)
    (compression : Option Bool) :
    guarded false drained loaded (Drive.tdriveCmdModeSelect bufferedMode blockLength compression
      : List (DriveAction δ)) = true := by
  unfold Drive.tdriveCmdModeSelect
  cases blockLength with
  | none => cases compression <;> rfl
  | some blockLength =>
    by_cases long : blockLength > tdriveMaxBlockSize
    · simp [long, guarded]
    · cases compression <;> simp [long, guarded]

section Handlers

variable {drive : Drive τ δ} {keep drained loaded : Bool}

/-- After waiting and flushing the queue is empty. -/
theorem guarded_empty (hasTape : drive.hasTape = true) (rest : List (DriveAction δ)) :
    guarded keep drained loaded (drive.tdriveEmptyWriteQueue ++ rest) =
      guarded keep true loaded rest := by
  rw [Drive.tdriveEmptyWriteQueue_eq hasTape]
  rfl

/-- A write may wait before it is put on the queue. -/
theorem guarded_write6 (hasTape : drive.hasTape = true) (circ : Circumstances) (fixed : Bool)
    (transferLength : Nat) (data : δ) :
    guarded keep drained true
      (drive.tdriveCmdValidateWrite6 circ fixed transferLength data) = true := by
  have insert : ∀ drained, guarded keep drained true (.incr
      (writeLength drive.blockLength fixed transferLength).1
      (writeLength drive.blockLength fixed transferLength).2 ::
        Drive.insertCmd drive.bufferedMode (.write6 fixed transferLength data)) = true :=
    fun drained => guarded_insertCmd keep drained _ _
  simp only [Drive.tdriveCmdValidateWrite6]
  by_cases long : (writeLength drive.blockLength fixed transferLength).1 > tdriveMaxBlockSize
  · rw [if_pos long]
    rfl
  · rw [if_neg long]
    cases circ.verdict with
    | noMemory | overwriteWormMedia | volumeOverflowEncountered => rfl
    | ok => exact insert drained
    | ewReached =>
      cases circ.synchronizeAtEw with
      | true => exact (guarded_empty hasTape _).trans (insert true)
      | false => exact insert drained

/-- Loading needs no wait if nothing is loaded; unloading waits. -/
theorem guarded_loadUnload (hasTape : drive.hasTape = true)
    (unloaded : drive.loaded = false → drained = true) (circ : Circumstances)
    (load eot hold : Bool) :
    guarded keep drained drive.loaded (drive.tdriveCmdLoadUnload circ load eot hold) = true := by
  unfold Drive.tdriveCmdLoadUnload
  split
  · rfl
  · split
    · rfl
    · cases load with
      | true =>
        cases loaded : drive.loaded with
        | true => exact guarded_empty hasTape _
        | false =>
          rw [unloaded loaded]
          exact guarded_empty hasTape _
      | false =>
        simp only [Bool.false_eq_true, if_false]
        split
        · exact guarded_empty hasTape _
        · rfl

/-- What a ready drive does for a command is guarded. -/
theorem guarded_ready (hasTape : drive.hasTape = true) (isLoaded : drive.loaded = true)
    (circ : Circumstances) {cmd : DriveCmd δ}
    (keeps : keep = true → (DriveMove.start circ cmd).isMedia = true) :
    guarded keep drained drive.loaded (drive.dispatch circ cmd) = true := by
  cases cmd with
  | modeSelect =>
    obtain rfl : keep = false := by simpa [DriveMove.isMedia] using keeps
    exact guarded_modeSelect ..
  | loadUnload => exact guarded_loadUnload hasTape (by simp [isLoaded]) ..
  | write6 =>
    rw [isLoaded]
    exact guarded_write6 hasTape ..
  | writeFilemarks =>
    rw [isLoaded]
    unfold Drive.dispatch Drive.tdriveCmdValidateWriteFilemarks
    cases circ.verdict <;> first | rfl | exact guarded_insertCmd ..
  | read6 =>
    simp only [Drive.dispatch, Drive.tdriveCmdRead6]
    split
    · rfl
    · rw [guarded_empty hasTape]
      split <;> rfl
  | readPosition =>
    simp only [Drive.dispatch, Drive.tdriveCmdReadPosition]
    split
    · exact guarded_empty hasTape _
    · rfl
  | locate =>
    simp only [Drive.dispatch, Drive.tdriveCmdLocate]
    split
    · rfl
    · exact guarded_empty hasTape _
  | locate16 =>
    simp only [Drive.dispatch, Drive.tdriveCmdLocate16]
    split
    · exact guarded_empty hasTape _
    · rfl
  | space =>
    simp only [Drive.dispatch, Drive.tdriveCmdSpace]
    rw [guarded_empty hasTape]
    split
    · rfl
    · split <;> rfl
  | rewind => exact guarded_empty hasTape _
  | erase =>
    simp only [Drive.dispatch, Drive.tdriveCmdErase]
    rw [guarded_empty hasTape]
    split
    · split <;> rfl
    · rfl

/-- What a command does is guarded, if the queue of a drive without a loaded tape is empty. -/
theorem guarded_tdriveProcCmd (unloaded : drive.loaded = false → drained = true)
    (circ : Circumstances) {cmd : DriveCmd δ}
    (keeps : keep = true → (DriveMove.start circ cmd).isMedia = true) :
    guarded keep drained drive.loaded (drive.tdriveProcCmd circ cmd) = true := by
  unfold Drive.tdriveProcCmd
  split
  · rfl
  · rename_i taken
    simp only [Bool.or_eq_true, Bool.and_eq_true, Bool.not_eq_true', not_or, not_and,
      Bool.not_eq_false] at taken
    by_cases ready : drive.hasTape = true ∧ drive.loaded = true
    · exact guarded_ready ready.1 ready.2 circ keeps
    · have notReady : drive.notReady circ = true := by
        simp only [Drive.notReady, Bool.or_eq_true, Bool.not_eq_true']
        cases hasTape : drive.hasTape <;> cases isLoaded : drive.loaded <;> simp_all
      have takes := taken.2 notReady
      cases cmd with
      | modeSelect =>
        obtain rfl : keep = false := by simpa [DriveMove.isMedia] using keeps
        exact guarded_modeSelect ..
      | loadUnload =>
        simp only [Drive.takesNotReady, Bool.and_eq_true] at takes
        exact guarded_loadUnload takes.1 unloaded ..
      | _ => exact absurd takes (by simp [Drive.takesNotReady])

end Handlers

/-! ## Steps -/

/-- A step is the start of a command, an action of the command thread or a step of the write
thread. -/
theorem DriveStep.cases (step : DriveStep tapes s label t) :
    (∃ circ cmd, label.move = .start circ cmd ∧ s.todo = [] ∧ label.effect = .silent ∧
        t = { s with todo := s.tdriveProcCmd circ cmd }) ∨
      (∃ action rest, label.move = .command ∧ s.todo = action :: rest ∧
        s.act tapes rest action = some (t, label.effect)) ∨
      (label.move = .writer ∧ s.devqProcessQueue tapes = some (t, label.effect)) := by
  unfold DriveStep Drive.step at step
  cases move : label.move with
  | start circ cmd =>
    cases todo : s.todo with
    | nil =>
      simp only [move, todo, Option.some.injEq, Prod.mk.injEq] at step
      exact .inl ⟨circ, cmd, rfl, rfl, step.2.symm, step.1.symm⟩
    | cons action rest => simp [move, todo] at step
  | command =>
    cases todo : s.todo with
    | nil => simp [move, todo] at step
    | cons action rest =>
      simp only [move, todo] at step
      exact .inr (.inl ⟨action, rest, rfl, rfl, step⟩)
  | writer =>
    simp only [move] at step
    exact .inr (.inr ⟨rfl, step⟩)

/-- The write thread takes a request, executes it, and counts it. -/
theorem Drive.devqProcessQueue_cases {effect : DriveEffect δ}
    (step : s.devqProcessQueue tapes = some (t, effect)) :
    (∃ ctio rest, s.writer = .idle ∧ s.pendingQueue = ctio :: rest ∧ effect = .silent ∧
        t = { s with pendingQueue := rest, writer := .taken ctio }) ∨
      (∃ ctio, s.writer = .taken ctio ∧ effect = .execute ctio ∧
        t = { s.tdriveProcWriteCmd tapes ctio with writer := .executed }) ∨
      (s.writer = .executed ∧ effect = .silent ∧
        t = { s with pendingCmds := s.pendingCmds - 1, writer := .idle }) := by
  unfold Drive.devqProcessQueue at step
  cases writer : s.writer with
  | idle =>
    cases queue : s.pendingQueue with
    | nil => simp [writer, queue] at step
    | cons ctio rest =>
      simp only [writer, queue, Option.some.injEq, Prod.mk.injEq] at step
      exact .inl ⟨ctio, rest, rfl, rfl, step.2.symm, step.1.symm⟩
  | taken ctio =>
    simp only [writer, Option.some.injEq, Prod.mk.injEq] at step
    exact .inr (.inl ⟨ctio, rfl, step.2.symm, step.1.symm⟩)
  | executed =>
    simp only [writer, Option.some.injEq, Prod.mk.injEq] at step
    exact .inr (.inr ⟨rfl, step.2.symm, step.1.symm⟩)

/-- Executing a request changes the tape and the counters of pending writes. -/
theorem Drive.tdriveProcWriteCmd_frame (tapes : TapeBehaviour τ δ) (drive : Drive τ δ)
    (ctio : WriteCtio δ) :
    ∃ tape size writes, drive.tdriveProcWriteCmd tapes ctio =
      { drive with tape := tape, pendingSize := size, pendingWrites := writes } := by
  unfold Drive.tdriveProcWriteCmd
  cases ctio.op with
  | write6 fixed transferLength data =>
    simp only [Drive.tdriveCmdWrite6]
    split
    · exact ⟨_, _, _, rfl⟩
    · split <;> exact ⟨_, _, _, rfl⟩
  | writeFilemarks wmsk transferLength =>
    simp only [Drive.tdriveCmdWriteFilemarks]
    split <;> exact ⟨_, _, _, rfl⟩

/-! ## The counter of queued commands -/

/-- The requests the write thread has not counted yet. -/
def WriteThread.busy : WriteThread δ → Nat
  | .idle => 0
  | .taken _ | .executed => 1

/-- What holds between the steps of a drive, whose settings may have to be kept. -/
structure Drive.Consistent (keep : Bool) (s : Drive τ δ) : Prop where
  /-- The counter counts the requests that are not finished. -/
  counted : s.pendingCmds = s.pendingQueue.length + s.writer.busy
  /-- What is left to do waits where it has to. -/
  isGuarded : guarded keep (decide (s.pendingCmds = 0)) s.loaded s.todo = true
  /-- A drive whose tape is not loaded has no requests. -/
  unloaded : s.loaded = false → s.pendingCmds = 0

/-- A drive at rest is consistent. -/
theorem Drive.Resting.consistent {keep : Bool} (resting : s.Resting) : s.Consistent keep where
  counted := by simp [resting.pendingCmds, resting.pendingQueue, resting.writer, WriteThread.busy]
  isGuarded := by simp [resting.todo, guarded]
  unloaded := fun _ => resting.pendingCmds

/-- If the counter is zero then there are no requests. -/
theorem Drive.Consistent.drained {keep : Bool} (consistent : s.Consistent keep) (none : s.pendingCmds = 0) :
    s.pendingQueue = [] ∧ s.writer = .idle := by
  have counted := consistent.counted
  rw [none] at counted
  refine ⟨List.eq_nil_of_length_eq_zero (by omega), ?_⟩
  cases writer : s.writer with
  | idle => rfl
  | taken | executed =>
    rw [writer, WriteThread.busy] at counted
    omega

/-- The actions of the command thread keep a drive consistent. -/
theorem Drive.act_consistent {action : DriveAction δ} {rest : List (DriveAction δ)}
    {effect : DriveEffect δ} {keep : Bool} (consistent : s.Consistent keep)
    (todo : s.todo = action :: rest) (step : s.act tapes rest action = some (t, effect)) :
    t.Consistent keep := by
  have isGuarded := consistent.isGuarded
  have counted := consistent.counted
  have unloaded := consistent.unloaded
  rw [todo] at isGuarded
  cases action with
  | wait =>
    simp only [Drive.act, Option.ite_none_right_eq_some, Option.some.injEq, Prod.mk.injEq] at step
    obtain ⟨none, rfl, -⟩ := step
    exact ⟨counted, by simpa [guarded, none] using isGuarded, unloaded⟩
  | insert ctio =>
    simp only [Drive.act, Option.some.injEq, Prod.mk.injEq] at step
    obtain ⟨rfl, -⟩ := step
    simp only [guarded, Bool.and_eq_true] at isGuarded
    refine ⟨?_, by simpa using isGuarded.2, by simp [isGuarded.1]⟩
    simp only [counted, List.length_append, List.length_singleton]
    omega
  | incr blockSize numBlocks =>
    simp only [Drive.act, Option.ite_none_left_eq_some, Option.some.injEq, Prod.mk.injEq] at step
    obtain ⟨-, rfl, -⟩ := step
    exact ⟨counted, isGuarded, unloaded⟩
  | setBufferedMode =>
    simp only [Drive.act, Option.some.injEq, Prod.mk.injEq] at step
    obtain ⟨rfl, -⟩ := step
    exact ⟨counted, isGuarded, unloaded⟩
  | setLoaded isLoaded =>
    simp only [Drive.act, Option.some.injEq, Prod.mk.injEq] at step
    obtain ⟨rfl, -⟩ := step
    cases isLoaded with
    | true => exact ⟨counted, isGuarded, by simp⟩
    | false =>
      simp only [guarded, Bool.and_eq_true, decide_eq_true_eq] at isGuarded
      exact ⟨counted, isGuarded.2, fun _ => isGuarded.1⟩
  | flush | setCompression =>
    simp only [Drive.act, Option.some.injEq, Prod.mk.injEq] at step
    obtain ⟨rfl, -⟩ := step
    simp only [guarded, Bool.and_eq_true] at isGuarded
    exact ⟨counted, isGuarded.2, unloaded⟩
  | setBlockLength =>
    simp only [Drive.act, Option.some.injEq, Prod.mk.injEq] at step
    obtain ⟨rfl, -⟩ := step
    simp only [guarded, Bool.and_eq_true] at isGuarded
    exact ⟨counted, isGuarded.2.2, unloaded⟩
  | atBop | command =>
    simp only [Drive.act, Option.some.injEq, Prod.mk.injEq] at step
    obtain ⟨rfl, -⟩ := step
    simp only [guarded, Bool.and_eq_true] at isGuarded
    refine ⟨counted, ?_, unloaded⟩
    -- A failed operation ends the command.
    simp only
    split
    · exact isGuarded.2
    · rfl

/-- The write thread keeps a drive consistent. -/
theorem Drive.devqProcessQueue_consistent {effect : DriveEffect δ} {keep : Bool}
    (consistent : s.Consistent keep) (step : s.devqProcessQueue tapes = some (t, effect)) :
    t.Consistent keep := by
  have counted := consistent.counted
  obtain ⟨ctio, rest, writer, queue, -, rfl⟩ | ⟨ctio, writer, -, rfl⟩ | ⟨writer, -, rfl⟩ :=
    Drive.devqProcessQueue_cases step
  · refine ⟨?_, consistent.isGuarded, consistent.unloaded⟩
    rw [counted, queue, writer, List.length_cons, WriteThread.busy, WriteThread.busy]
  · obtain ⟨tape, size, writes, eq⟩ := Drive.tdriveProcWriteCmd_frame tapes s ctio
    rw [eq]
    refine ⟨?_, consistent.isGuarded, consistent.unloaded⟩
    rw [counted, writer, WriteThread.busy, WriteThread.busy]
  · have some : s.pendingCmds = s.pendingQueue.length + 1 := by
      rw [counted, writer, WriteThread.busy]
    have isGuarded := consistent.isGuarded
    refine ⟨?_, ?_, fun isUnloaded => absurd (consistent.unloaded isUnloaded) (by omega)⟩
    · simp only [some, WriteThread.busy]
      omega
    · by_cases last : s.pendingCmds - 1 = 0
      · simp only [last, decide_true]
        exact guarded_drained isGuarded
      · have still : s.pendingCmds ≠ 0 := by omega
        simpa only [last, still] using isGuarded

/-- Every step keeps a drive consistent. -/
theorem DriveStep.consistent {keep : Bool} (consistent : s.Consistent keep)
    (step : DriveStep tapes s label t) (keeps : keep = true → label.move.isMedia = true) :
    t.Consistent keep := by
  obtain ⟨circ, cmd, move, todo, -, rfl⟩ | ⟨action, rest, -, todo, act⟩ | ⟨-, write⟩ := step.cases
  · refine ⟨consistent.counted, guarded_tdriveProcCmd ?_ circ (move ▸ keeps), consistent.unloaded⟩
    exact fun isUnloaded => decide_eq_true (consistent.unloaded isUnloaded)
  · exact Drive.act_consistent consistent todo act
  · exact Drive.devqProcessQueue_consistent consistent write

end VirtualTape
