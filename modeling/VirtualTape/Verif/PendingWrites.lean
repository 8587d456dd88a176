import VirtualTape.Verif.WriteOrder

/-!
# The account of pending writes

A write is added to `pending_size` and `pending_writes` of its partition when it is accepted, and
taken out when it is executed. Some writes are not taken out: those that are put on the queue
themselves, not as a copy, and writes of a single block of length zero. What the counters show with
an empty queue is the sum of these.
-/

namespace VirtualTape

variable {τ δ : Type} {tapes : TapeBehaviour τ δ} {start s t : Drive τ δ}
  {label : DriveLabel δ} {history : List (DriveLabel δ)}

/-! ## Writes that are not taken out -/

/-- Block size and number of blocks of a request. -/
def WriteCtio.length (blockLength : Nat) (ctio : WriteCtio δ) : Nat × Nat :=
  match ctio.op with
  | .write6 fixed transferLength _ => writeLength blockLength fixed transferLength
  | .writeFilemarks _ _ => (0, 0)

/-- A write that is added to the account and never taken out: in unbuffered mode, or of one block of
length zero. -/
def WriteCtio.leaks (ctio : WriteCtio δ) : Bool :=
  match ctio.op with
  | .write6 fixed transferLength _ => if transferLength = 0 then !fixed else !ctio.buffered
  | .writeFilemarks _ _ => false

/-- The bytes of a request. -/
def WriteCtio.size (blockLength : Nat) (ctio : WriteCtio δ) : Nat :=
  (ctio.length blockLength).1 * (ctio.length blockLength).2

/-- The blocks of a request. -/
def WriteCtio.blocks (ctio : WriteCtio δ) : Nat := (ctio.length 0).2

/-- The bytes of the accepted writes that are not taken out. -/
def leakedSize : List (DriveLabel δ) → Nat
  | [] => 0
  | ⟨_, .accept ctio blockLength⟩ :: rest =>
    (if ctio.leaks then ctio.size blockLength else 0) + leakedSize rest
  | _ :: rest => leakedSize rest

/-- The blocks of the accepted writes that are not taken out. -/
def leakedWrites : List (DriveLabel δ) → Nat
  | [] => 0
  | ⟨_, .accept ctio _⟩ :: rest => (if ctio.leaks then ctio.blocks else 0) + leakedWrites rest
  | _ :: rest => leakedWrites rest

/-- Only WRITE(6) and MODE SELECT are started. -/
def DriveMove.isWrite : DriveMove δ → Bool
  | .start _ (.write6 ..) | .start _ (.modeSelect ..) | .command | .writer => true
  | .start _ _ => false

/-- A step of either thread in which no other command is started. -/
def WriteStep (tapes : TapeBehaviour τ δ) (s : Drive τ δ) (label : DriveLabel δ)
    (t : Drive τ δ) : Prop :=
  DriveStep tapes s label t ∧ label.move.isWrite = true

/-! ## Small facts -/

/-- The number of blocks does not depend on the block length. -/
theorem WriteCtio.length_snd (blockLength : Nat) (ctio : WriteCtio δ) :
    (ctio.length blockLength).2 = ctio.blocks := by
  unfold WriteCtio.blocks WriteCtio.length writeLength
  cases ctio.op with
  | write6 fixed => cases fixed <;> rfl
  | writeFilemarks => rfl

/-- Acceptance of a write that leaks. -/
theorem leakedSize_append : leakedSize (history ++ [label]) = leakedSize history +
    match label.effect with
    | .accept ctio blockLength => if ctio.leaks then ctio.size blockLength else 0
    | _ => 0 := by
  induction history with
  | nil =>
    obtain ⟨move, effect⟩ := label
    cases effect <;> simp [leakedSize]
  | cons first rest ih =>
    obtain ⟨move, effect⟩ := first
    cases effect <;> simp only [List.cons_append, leakedSize, ih]
    omega

/-- Acceptance of a write that leaks. -/
theorem leakedWrites_append : leakedWrites (history ++ [label]) = leakedWrites history +
    match label.effect with
    | .accept ctio _ => if ctio.leaks then ctio.blocks else 0
    | _ => 0 := by
  induction history with
  | nil =>
    obtain ⟨move, effect⟩ := label
    cases effect <;> simp [leakedWrites]
  | cons first rest ih =>
    obtain ⟨move, effect⟩ := first
    cases effect <;> simp only [List.cons_append, leakedWrites, ih]
    omega

/-! ## The balance -/

/-- No write is left to be added or queued. -/
def DriveAction.noWrite : DriveAction δ → Bool
  | .incr _ _ | .insert _ => false
  | _ => true

/-- A write is added to the account right before it is queued, with the current block length, and
there is at most one. -/
def paired (blockLength : Nat) : List (DriveAction δ) → Prop
  | [] => True
  | .incr blockSize numBlocks :: rest =>
    ∃ ctio tail, rest = .insert ctio :: tail ∧
      ctio.length blockLength = (blockSize, numBlocks) ∧ tail.all DriveAction.noWrite = true
  | .insert _ :: _ => False
  | .setBlockLength _ :: rest => rest.all DriveAction.noWrite = true
  | _ :: rest => paired blockLength rest

/-- Without writes there is nothing to pair. -/
theorem paired_of_noWrite {todo : List (DriveAction δ)} {blockLength : Nat}
    (none : todo.all DriveAction.noWrite = true) : paired blockLength todo := by
  induction todo with
  | nil => trivial
  | cons action rest ih =>
    simp only [List.all_cons, Bool.and_eq_true] at none
    cases action with
    | incr | insert => simp [DriveAction.noWrite] at none
    | setBlockLength => exact none.2
    | _ => exact ih none.2

/-- The request that was added to the account but is not queued yet. -/
def Drive.incoming (s : Drive τ δ) : List (WriteCtio δ) :=
  match s.todo with
  | .insert ctio :: _ => [ctio]
  | _ => []

/-- The bytes that will be taken out. -/
def owedSize (blockLength : Nat) (ctios : List (WriteCtio δ)) : Nat :=
  (ctios.map fun ctio => if ctio.leaks then 0 else ctio.size blockLength).sum

/-- The blocks that will be taken out. -/
def owedWrites (ctios : List (WriteCtio δ)) : Nat :=
  (ctios.map fun ctio => if ctio.leaks then 0 else ctio.blocks).sum

/-- The account of a drive and the history of the writes belong together. -/
structure Balanced (history : List (DriveLabel δ)) (s : Drive τ δ) : Prop where
  /-- The drive is consistent. -/
  consistent : s.Consistent false
  /-- The bytes are those that leaked, those of the write to be queued, and those owed. -/
  size : s.pendingSize = (leakedSize history + (s.incoming.map (·.size s.blockLength)).sum +
    owedSize s.blockLength s.outstanding) % atomicRange
  /-- The blocks likewise. -/
  writes : s.pendingWrites = (leakedWrites history + (s.incoming.map (·.blocks)).sum +
    owedWrites s.outstanding) % atomicRange
  /-- What is left to do is paired, or a write is added but not queued. -/
  todo : paired s.blockLength s.todo ∨
    ∃ ctio rest, s.todo = .insert ctio :: rest ∧ rest.all DriveAction.noWrite = true

/-- With pairs left to do no write is between its two halves. -/
theorem Drive.incoming_of_paired {blockLength : Nat} (isPaired : paired blockLength s.todo) :
    s.incoming = [] := by
  unfold Drive.incoming
  cases todo : s.todo with
  | nil => rfl
  | cons action rest =>
    rw [todo] at isPaired
    cases action with
    | insert => exact absurd isPaired (by simp [paired])
    | _ => rfl

/-- What WRITE(6) and MODE SELECT do is paired. -/
theorem Drive.tdriveProcCmd_paired (drive : Drive τ δ) (circ : Circumstances) {cmd : DriveCmd δ}
    (isWrite : (DriveMove.start circ cmd).isWrite = true) :
    paired drive.blockLength (drive.tdriveProcCmd circ cmd) := by
  unfold Drive.tdriveProcCmd
  split
  · trivial
  · cases cmd with
    | write6 fixed transferLength data =>
      have insert : paired drive.blockLength (.incr
          (writeLength drive.blockLength fixed transferLength).1
          (writeLength drive.blockLength fixed transferLength).2 ::
          Drive.insertCmd drive.bufferedMode (.write6 fixed transferLength data)) := by
        cases drive.bufferedMode with
        | true => exact ⟨_, _, rfl, rfl, rfl⟩
        | false => exact ⟨_, _, rfl, rfl, rfl⟩
      simp only [Drive.dispatch, Drive.tdriveCmdValidateWrite6]
      by_cases long : (writeLength drive.blockLength fixed transferLength).1 > tdriveMaxBlockSize
      · rw [if_pos long]
        trivial
      · rw [if_neg long]
        cases circ.verdict with
        | noMemory | overwriteWormMedia | volumeOverflowEncountered => trivial
        | ok => exact insert
        | ewReached =>
          cases circ.synchronizeAtEw with
          | false => exact insert
          | true =>
            unfold Drive.tdriveEmptyWriteQueue
            cases drive.hasTape <;> exact insert
    | modeSelect bufferedMode blockLength compression =>
      simp only [Drive.dispatch, Drive.tdriveCmdModeSelect]
      cases blockLength with
      | none => cases compression <;> trivial
      | some blockLength =>
        by_cases long : blockLength > tdriveMaxBlockSize
        · simp [long, paired]
        · cases compression <;> simp [long, paired, DriveAction.noWrite]
    | _ => simp [DriveMove.isWrite] at isWrite

/-- A step that neither adds, queues nor executes keeps the balance. -/
theorem Balanced.quiet (balanced : Balanced history s) (consistent : t.Consistent false)
    (effect : label.effect = .silent ∨ label.effect = .flush ∨ ∃ cmd, label.effect = .perform cmd)
    (incoming : t.incoming = s.incoming) (outstanding : t.outstanding = s.outstanding)
    (blockLength : t.blockLength = s.blockLength ∨ s.incoming = [] ∧ s.outstanding = [])
    (size : t.pendingSize = s.pendingSize) (writes : t.pendingWrites = s.pendingWrites)
    (todo : paired t.blockLength t.todo ∨
      ∃ ctio rest, t.todo = .insert ctio :: rest ∧ rest.all DriveAction.noWrite = true) :
    Balanced (history ++ [label]) t := by
  have noSize : leakedSize (history ++ [label]) = leakedSize history := by
    rw [leakedSize_append]
    obtain silent | flush | ⟨cmd, perform⟩ := effect <;> simp [*]
  have noWrites : leakedWrites (history ++ [label]) = leakedWrites history := by
    rw [leakedWrites_append]
    obtain silent | flush | ⟨cmd, perform⟩ := effect <;> simp [*]
  refine ⟨consistent, ?_, ?_, todo⟩
  · rw [size, balanced.size, noSize, incoming, outstanding]
    obtain same | ⟨noIncoming, nothing⟩ := blockLength
    · rw [same]
    · rw [noIncoming, nothing]
      rfl
  · rw [writes, balanced.writes, noWrites, incoming, outstanding]

/-- Adding a write to the account and queueing it later keeps the balance. -/
theorem Balanced.incr {blockSize numBlocks : Nat} {rest : List (DriveAction δ)}
    (balanced : Balanced history s) (todo : s.todo = .incr blockSize numBlocks :: rest)
    (step : s.act tapes rest (.incr blockSize numBlocks) = some (t, label.effect)) :
    Balanced (history ++ [label]) t := by
  have after := Drive.act_consistent balanced.consistent todo step
  simp only [Drive.act, Option.ite_none_left_eq_some, Option.some.injEq, Prod.mk.injEq] at step
  obtain ⟨-, rfl, effect⟩ := step
  have isPaired : paired s.blockLength s.todo := by
    obtain isPaired | ⟨ctio, tail, isInsert, -⟩ := balanced.todo
    · exact isPaired
    · simp [todo] at isInsert
  have none := Drive.incoming_of_paired isPaired
  rw [todo] at isPaired
  obtain ⟨ctio, tail, rfl, length, noWrite⟩ := isPaired
  have ctioSize : ctio.size s.blockLength = blockSize * numBlocks := by
    rw [WriteCtio.size, length]
  have ctioBlocks : ctio.blocks = numBlocks := by
    rw [← WriteCtio.length_snd s.blockLength, length]
  have size := balanced.size
  have writes := balanced.writes
  rw [none] at size writes
  refine ⟨after, ?_, ?_, .inr ⟨ctio, tail, rfl, noWrite⟩⟩
  · rw [leakedSize_append, ← effect]
    simp only [size, Drive.incoming, List.map_cons, List.map_nil, List.sum_cons, List.sum_nil,
      ctioSize, Drive.outstanding, atomicRange]
    omega
  · rw [leakedWrites_append, ← effect]
    simp only [writes, Drive.incoming, List.map_cons, List.map_nil, List.sum_cons, List.sum_nil,
      ctioBlocks, Drive.outstanding, atomicRange]
    omega

/-- Queueing a write keeps the balance: it is owed from now on, or it leaked. -/
theorem Balanced.insert {ctio : WriteCtio δ} {rest : List (DriveAction δ)}
    (balanced : Balanced history s) (todo : s.todo = .insert ctio :: rest)
    (step : s.act tapes rest (.insert ctio) = some (t, label.effect)) :
    Balanced (history ++ [label]) t := by
  have after := Drive.act_consistent balanced.consistent todo step
  simp only [Drive.act, Option.some.injEq, Prod.mk.injEq] at step
  obtain ⟨rfl, effect⟩ := step
  have noWrite : rest.all DriveAction.noWrite = true := by
    obtain isPaired | ⟨other, tail, isInsert, noWrite⟩ := balanced.todo
    · rw [todo] at isPaired
      exact absurd isPaired (by simp [paired])
    · rw [todo] at isInsert
      rw [(List.cons.inj isInsert).2]
      exact noWrite
  have restPaired : paired s.blockLength rest := paired_of_noWrite noWrite
  generalize isNext : ({ s with
    pendingQueue := s.pendingQueue ++ [ctio], pendingCmds := s.pendingCmds + 1, todo := rest }
      : Drive τ δ) = next at *
  have isIncoming : s.incoming = [ctio] := by rw [Drive.incoming, todo]
  have none : next.incoming = [] := Drive.incoming_of_paired (by rw [← isNext]; exact restPaired)
  have outstanding : next.outstanding = s.outstanding ++ [ctio] := by
    rw [← isNext]
    cases writer : s.writer <;> simp [Drive.outstanding, writer]
  have sameLength : next.blockLength = s.blockLength := by rw [← isNext]
  have sameSize : next.pendingSize = s.pendingSize := by rw [← isNext]
  have sameWrites : next.pendingWrites = s.pendingWrites := by rw [← isNext]
  refine ⟨after, ?_, ?_, .inl (by rw [← isNext]; exact restPaired)⟩
  · rw [leakedSize_append, ← effect, sameSize, balanced.size, none, isIncoming, outstanding,
      sameLength]
    simp only [owedSize, List.map_append, List.sum_append, List.map_cons, List.map_nil,
      List.sum_cons, List.sum_nil]
    cases ctio.leaks <;> simp only [Bool.false_eq_true, if_true, if_false] <;>
      exact congrArg (· % atomicRange) (by omega)
  · rw [leakedWrites_append, ← effect, sameWrites, balanced.writes, none, isIncoming, outstanding]
    simp only [owedWrites, List.map_append, List.sum_append, List.map_cons, List.map_nil,
      List.sum_cons, List.sum_nil]
    cases ctio.leaks <;> simp only [Bool.false_eq_true, if_true, if_false] <;>
      exact congrArg (· % atomicRange) (by omega)

/-- The actions of the command thread keep the balance. -/
theorem Balanced.act {action : DriveAction δ} {rest : List (DriveAction δ)}
    (balanced : Balanced history s) (todo : s.todo = action :: rest)
    (step : s.act tapes rest action = some (t, label.effect)) :
    Balanced (history ++ [label]) t := by
  have after := Drive.act_consistent balanced.consistent todo step
  have isPaired : (∀ ctio, action ≠ .insert ctio) → paired s.blockLength (action :: rest) := by
    intro notInsert
    obtain isPaired | ⟨ctio, tail, isInsert, -⟩ := balanced.todo
    · rwa [todo] at isPaired
    · rw [todo] at isInsert
      exact absurd (List.cons.inj isInsert).1 (notInsert ctio)
  have none : (∀ ctio, action ≠ .insert ctio) → s.incoming = [] := fun notInsert =>
    Drive.incoming_of_paired (todo ▸ isPaired notInsert)
  cases action with
  | incr => exact balanced.incr todo step
  | insert => exact balanced.insert todo step
  | wait =>
    simp only [Drive.act, Option.ite_none_right_eq_some, Option.some.injEq, Prod.mk.injEq] at step
    obtain ⟨-, rfl, effect⟩ := step
    have restPaired : paired s.blockLength rest := isPaired (by simp)
    exact balanced.quiet after (.inl effect.symm)
      ((Drive.incoming_of_paired restPaired).trans (none (by simp)).symm) rfl (.inl rfl) rfl rfl
      (.inl restPaired)
  | setLoaded | setBufferedMode | setCompression =>
    simp only [Drive.act, Option.some.injEq, Prod.mk.injEq] at step
    obtain ⟨rfl, effect⟩ := step
    have restPaired : paired s.blockLength rest := isPaired (by simp)
    exact balanced.quiet after (.inl effect.symm)
      ((Drive.incoming_of_paired restPaired).trans (none (by simp)).symm) rfl (.inl rfl) rfl rfl
      (.inl restPaired)
  | flush =>
    simp only [Drive.act, Option.some.injEq, Prod.mk.injEq] at step
    obtain ⟨rfl, effect⟩ := step
    have restPaired : paired s.blockLength rest := isPaired (by simp)
    exact balanced.quiet after (.inr (.inl effect.symm))
      ((Drive.incoming_of_paired restPaired).trans (none (by simp)).symm) rfl (.inl rfl) rfl rfl
      (.inl restPaired)
  | atBop =>
    simp only [Drive.act, Option.some.injEq, Prod.mk.injEq] at step
    obtain ⟨rfl, effect⟩ := step
    have restPaired : paired s.blockLength (if tapes.atBop s.tape then rest else []) := by
      split
      · exact isPaired (by simp)
      · trivial
    exact balanced.quiet after (.inl effect.symm)
      ((Drive.incoming_of_paired restPaired).trans (none (by simp)).symm) rfl (.inl rfl) rfl rfl
      (.inl restPaired)
  | command cmd =>
    simp only [Drive.act, Option.some.injEq, Prod.mk.injEq] at step
    obtain ⟨rfl, effect⟩ := step
    have restPaired : paired s.blockLength
        (if (tapes.command cmd s.tape).2 then rest else []) := by
      split
      · exact isPaired (by simp)
      · trivial
    exact balanced.quiet after (.inr (.inr ⟨cmd, effect.symm⟩))
      ((Drive.incoming_of_paired restPaired).trans (none (by simp)).symm) rfl (.inl rfl) rfl rfl
      (.inl restPaired)
  | setBlockLength blockLength =>
    have isGuarded := balanced.consistent.isGuarded
    rw [todo] at isGuarded
    simp only [guarded, Bool.and_eq_true, decide_eq_true_eq] at isGuarded
    obtain ⟨queue, writer⟩ := balanced.consistent.drained isGuarded.1
    simp only [Drive.act, Option.some.injEq, Prod.mk.injEq] at step
    obtain ⟨rfl, effect⟩ := step
    have restPaired : paired blockLength rest := paired_of_noWrite (isPaired (by simp))
    exact balanced.quiet after (.inl effect.symm)
      ((Drive.incoming_of_paired restPaired).trans (none (by simp)).symm) rfl
      (.inr ⟨none (by simp), by simp [Drive.outstanding, writer, queue]⟩) rfl rfl (.inl restPaired)

/-- What the execution of a request takes out of the account. -/
theorem Drive.tdriveProcWriteCmd_account (tapes : TapeBehaviour τ δ) (ctio : WriteCtio δ)
    (sizeRange : s.pendingSize < atomicRange)
    (writesRange : s.pendingWrites < atomicRange) :
    (s.tdriveProcWriteCmd tapes ctio).pendingSize = (s.pendingSize + (atomicRange -
        (if ctio.leaks then 0 else ctio.size s.blockLength) % atomicRange)) % atomicRange ∧
      (s.tdriveProcWriteCmd tapes ctio).pendingWrites = (s.pendingWrites + (atomicRange -
        (if ctio.leaks then 0 else ctio.blocks) % atomicRange)) % atomicRange := by
  have unchanged : (s.pendingSize + (atomicRange - 0 % atomicRange)) % atomicRange = s.pendingSize ∧
      (s.pendingWrites + (atomicRange - 0 % atomicRange)) % atomicRange = s.pendingWrites := by
    simp only [atomicRange] at *
    omega
  obtain ⟨op, buffered⟩ := ctio
  cases op with
  | writeFilemarks wmsk transferLength =>
    have frame : ∀ drive : Drive τ δ,
        (drive.tdriveCmdWriteFilemarks tapes wmsk transferLength).pendingSize = drive.pendingSize ∧
        (drive.tdriveCmdWriteFilemarks tapes wmsk transferLength).pendingWrites =
          drive.pendingWrites := by
      intro drive
      simp only [Drive.tdriveCmdWriteFilemarks]
      split <;> exact ⟨rfl, rfl⟩
    simp only [Drive.tdriveProcWriteCmd, frame, WriteCtio.leaks, WriteCtio.size, WriteCtio.blocks,
      WriteCtio.length, Nat.mul_zero, unchanged, Bool.false_eq_true, if_false, and_self]
  | write6 fixed transferLength data =>
    by_cases empty : transferLength = 0
    · have sizeMod := Nat.mod_eq_of_lt sizeRange
      have writesMod := Nat.mod_eq_of_lt writesRange
      cases fixed <;>
        simp [Drive.tdriveProcWriteCmd, Drive.tdriveCmdWrite6, WriteCtio.leaks, WriteCtio.size,
          WriteCtio.blocks, WriteCtio.length, writeLength, empty, sizeMod, writesMod]
    · have leaks : WriteCtio.leaks ⟨.write6 fixed transferLength data, buffered⟩ = !buffered :=
        if_neg empty
      rw [leaks]
      simp only [Drive.tdriveProcWriteCmd, Drive.tdriveCmdWrite6, empty, if_false]
      cases buffered with
      | true => cases fixed <;> exact ⟨rfl, rfl⟩
      | false => exact ⟨unchanged.1.symm, unchanged.2.symm⟩

/-- The write thread keeps the balance. -/
theorem Balanced.write (balanced : Balanced history s)
    (step : s.devqProcessQueue tapes = some (t, label.effect)) :
    Balanced (history ++ [label]) t := by
  have after := Drive.devqProcessQueue_consistent balanced.consistent step
  obtain ⟨ctio, rest, writer, queue, effect, rfl⟩ | ⟨ctio, writer, effect, rfl⟩ |
    ⟨writer, effect, rfl⟩ := Drive.devqProcessQueue_cases step
  · exact balanced.quiet after (.inl effect) rfl (by simp [Drive.outstanding, writer, queue])
      (.inl rfl) rfl rfl balanced.todo
  · have positive : 0 < atomicRange := by decide
    have sizeRange : s.pendingSize < atomicRange := by
      rw [balanced.size]
      exact Nat.mod_lt _ positive
    have writesRange : s.pendingWrites < atomicRange := by
      rw [balanced.writes]
      exact Nat.mod_lt _ positive
    obtain ⟨size, writes⟩ :=
      Drive.tdriveProcWriteCmd_account tapes ctio sizeRange writesRange
    obtain ⟨tape, newSize, newWrites, eq⟩ := Drive.tdriveProcWriteCmd_frame tapes s ctio
    rw [eq] at size writes after ⊢
    simp only at size writes
    have outstanding : s.outstanding = ctio :: s.pendingQueue := by
      simp [Drive.outstanding, writer]
    have sizeBefore := balanced.size
    have writesBefore := balanced.writes
    rw [outstanding] at sizeBefore writesBefore
    refine ⟨after, ?_, ?_, balanced.todo⟩
    · rw [leakedSize_append, effect]
      simp only [size, sizeBefore, Drive.incoming, Drive.outstanding, owedSize, List.map_cons,
        List.sum_cons, atomicRange]
      omega
    · rw [leakedWrites_append, effect]
      simp only [writes, writesBefore, Drive.incoming, Drive.outstanding, owedWrites,
        List.map_cons, List.sum_cons, atomicRange]
      omega
  · exact balanced.quiet after (.inl effect) rfl (by simp [Drive.outstanding, writer]) (.inl rfl)
      rfl rfl balanced.todo

/-- Every step keeps the balance. -/
theorem Balanced.next (balanced : Balanced history s) (step : WriteStep tapes s label t) :
    Balanced (history ++ [label]) t := by
  have after := step.1.consistent balanced.consistent (by simp)
  obtain ⟨circ, cmd, move, todo, effect, rfl⟩ | ⟨action, rest, -, todo, act⟩ | ⟨-, write⟩ :=
    step.1.cases
  · have isPaired := s.tdriveProcCmd_paired circ (move ▸ step.2)
    have none : s.incoming = [] := by rw [Drive.incoming, todo]
    exact balanced.quiet after (.inl effect) ((Drive.incoming_of_paired isPaired).trans none.symm)
      rfl (.inl rfl) rfl rfl (.inl isPaired)
  · exact balanced.act todo act
  · exact balanced.write write

/-- After every sequence of writes the account and their history belong together. -/
theorem Run.balanced (run : Run (WriteStep tapes) start history s) (resting : start.Resting)
    (noSize : start.pendingSize = 0) (noWrites : start.pendingWrites = 0) :
    Balanced history s := by
  refine run.history ?_ Balanced.next
  have incoming : start.incoming = [] := by rw [Drive.incoming, resting.todo]
  have outstanding : start.outstanding = [] := by
    simp [Drive.outstanding, resting.writer, resting.pendingQueue]
  refine ⟨resting.consistent, ?_, ?_, .inl (by rw [resting.todo]; trivial)⟩
  · rw [noSize, incoming, outstanding]
    rfl
  · rw [noWrites, incoming, outstanding]
    rfl

/-- With an empty queue the counters show exactly what leaked and the write that is added but not
queued yet: they are zero if and only if the sums of these are, and a write passes the wait for the
write cache if and only if they are no more than the cache. -/
theorem tdrive_pending_zero_iff {tapes : TapeBehaviour τ δ} {start s : Drive τ δ}
    {history : List (DriveLabel δ)} (resting : start.Resting) (noSize : start.pendingSize = 0)
    (noWrites : start.pendingWrites = 0) (run : Run (WriteStep tapes) start history s)
    (empty : s.pendingCmds = 0) :
    (s.pendingSize = 0 ∧ s.pendingWrites = 0 ↔
        (leakedSize history + (s.incoming.map (·.size s.blockLength)).sum) % atomicRange = 0 ∧
          (leakedWrites history + (s.incoming.map (·.blocks)).sum) % atomicRange = 0) ∧
      (s.pendingSize > tdriveWriteCacheSize ↔
        (leakedSize history + (s.incoming.map (·.size s.blockLength)).sum) % atomicRange >
          tdriveWriteCacheSize) := by
  have balanced := run.balanced resting noSize noWrites
  obtain ⟨queue, writer⟩ := balanced.consistent.drained empty
  have outstanding : s.outstanding = [] := by simp [Drive.outstanding, writer, queue]
  have size : s.pendingSize =
      (leakedSize history + (s.incoming.map (·.size s.blockLength)).sum) % atomicRange := by
    rw [balanced.size, outstanding]
    rfl
  have writes : s.pendingWrites =
      (leakedWrites history + (s.incoming.map (·.blocks)).sum) % atomicRange := by
    rw [balanced.writes, outstanding]
    rfl
  rw [size, writes]
  exact ⟨Iff.rfl, Iff.rfl⟩

/-- A sequence of steps is a run. -/
theorem Drive.play_run {moves : List (DriveMove δ)} {effects : List (DriveEffect δ)}
    (played : s.play tapes moves = some (effects, t))
    (isWrite : moves.all DriveMove.isWrite = true) :
    Run (WriteStep tapes) s (List.zipWith DriveLabel.mk moves effects) t := by
  induction moves generalizing s effects with
  | nil =>
    simp only [Drive.play, Option.some.injEq, Prod.mk.injEq] at played
    rw [← played.2]
    exact .nil
  | cons move rest ih =>
    simp only [List.all_cons, Bool.and_eq_true] at isWrite
    unfold Drive.play at played
    split at played
    · simp at played
    · rename_i next effect step
      simp only [Option.map_eq_some_iff, Prod.mk.injEq, Prod.exists] at played
      obtain ⟨others, last, after, rfl, rfl⟩ := played
      exact Run.cons ⟨step, isWrite.1⟩ (ih after isWrite.2)

/-- The steps of a write of one block. -/
def blockMoves : List (DriveMove Nat) :=
  [.start calm (.write6 true 1 7), .command, .command, .writer, .writer, .writer]

/-- After a write in buffered mode, nothing is pending. -/
theorem tdrive_pending_zero_buffered :
    emptyDrive.play logTape blockMoves = some
        ([.silent, .silent, .accept oneBlock 512, .silent, .execute oneBlock, .silent],
          { emptyDrive with tape := [7] }) ∧
      ({ emptyDrive with tape := [7] } : Drive (List Nat) Nat).pendingSize = 0 := by
  have played : emptyDrive.play logTape blockMoves = some
      ([.silent, .silent, .accept oneBlock 512, .silent, .execute oneBlock, .silent],
        { emptyDrive with tape := [7] }) := by decide +kernel
  have run := Drive.play_run played (by decide)
  exact ⟨played, ((tdrive_pending_zero_iff emptyDrive_resting rfl rfl run rfl).1.2
    ⟨by decide, by decide⟩).1⟩

/-- After a switch to unbuffered mode and a write of one block, the queue is empty and both threads
are idle, but the block is still pending. -/
theorem tdrive_pending_unbuffered :
    ∃ (history : List (DriveLabel Nat)) (s : Drive (List Nat) Nat),
      Run (WriteStep logTape) emptyDrive history s ∧ s.Resting ∧ s.pendingSize = 512 ∧
        s.pendingWrites = 1 := by
  have played : emptyDrive.play logTape
      ([.start calm (.modeSelect false none none), .command] ++ blockMoves ++ [.command]) = some
      ([.silent, .silent, .silent, .silent, .accept ⟨.write6 true 1 7, false⟩ 512, .silent,
          .execute ⟨.write6 true 1 7, false⟩, .silent, .silent],
        { emptyDrive with
          tape := [7], bufferedMode := false, pendingSize := 512, pendingWrites := 1 }) := by
    decide +kernel
  exact ⟨_, _, Drive.play_run played (by decide), ⟨rfl, rfl, rfl, rfl⟩, rfl, rfl⟩

end VirtualTape
