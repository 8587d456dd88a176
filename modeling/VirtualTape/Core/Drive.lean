import VirtualTape.Lib.Run

/-!
# The two threads of a tape drive

The command thread of a drive checks writes and filemarks and puts them on a queue, from which the
write thread executes them. A command that has to see the tape as it is after all writes first waits
until the counter of queued commands is zero. What a command does is a list of actions of the command
thread; between any two actions the write thread may go on.

The tape itself is left open: a drive works with any type of tapes and any behaviour of their
operations.
-/

namespace VirtualTape

variable {τ δ : Type}

/-- `TDRIVE_MAX_BLOCK_SIZE`. -/
def tdriveMaxBlockSize : Nat := 8 * 1024 * 1024

/-- `TDRIVE_WRITE_CACHE_SIZE`. -/
def tdriveWriteCacheSize : Nat := 32 * 1024 * 1024

/-- The range of the counters of pending writes. -/
def atomicRange : Nat := 2 ^ 32

/-! ## Tapes -/

/-- The tape operations of the command thread. -/
inductive TapeCommand
  /-- `tape_cmd_read`. -/
  | read (blockSize numBlocks : Nat) (fixed : Bool)
  /-- `tape_cmd_read_position`. -/
  | readPosition (serviceAction : Nat)
  /-- `tape_cmd_locate`. -/
  | locate (blockAddress : Nat) (cp : Bool) (pnum locateType : Nat)
  /-- `tape_cmd_space`. -/
  | space (code : Nat) (count : Int)
  /-- `tape_cmd_rewind`. -/
  | rewind (bot : Bool)
  /-- `tape_cmd_erase`. -/
  | erase
  /-- `tape_cmd_load`. -/
  | load
  /-- `tape_cmd_unload`. -/
  | unload (rewind : Bool)
  deriving DecidableEq, Repr

/-- What the operations of a tape do. -/
structure TapeBehaviour (τ δ : Type) where
  /-- `tape_cmd_write` of blocks with their data, compressed or not. -/
  write : Nat → Nat → Bool → δ → τ → τ
  /-- `tape_cmd_write_filemarks`, and whether it succeeded. -/
  writeFilemarks : Bool → Nat → τ → τ × Bool
  /-- `tape_flush_buffers`. -/
  flushBuffers : τ → τ
  /-- The current partition has `PARTITION_DIR_WRITE` set. -/
  dirWrite : τ → Bool
  /-- `tape_at_bop`. -/
  atBop : τ → Bool
  /-- An operation of the command thread, and whether it succeeded. -/
  command : TapeCommand → τ → τ × Bool

/-! ## Requests -/

/-- A request of the write queue. -/
inductive WriteOp (δ : Type)
  /-- WRITE(6). -/
  | write6 (fixed : Bool) (transferLength : Nat) (data : δ)
  /-- WRITE FILEMARKS. -/
  | writeFilemarks (wmsk : Bool) (transferLength : Nat)
  deriving DecidableEq, Repr

/-- A request with its `QSIO_BUFFERED` flag: set on the copy that is made of a request, not on the
request itself. -/
structure WriteCtio (δ : Type) where
  /-- The request. -/
  op : WriteOp δ
  /-- It is a copy. -/
  buffered : Bool
  deriving DecidableEq, Repr

/-- A SCSI command. -/
inductive DriveCmd (δ : Type)
  /-- WRITE(6). -/
  | write6 (fixed : Bool) (transferLength : Nat) (data : δ)
  /-- WRITE FILEMARKS. -/
  | writeFilemarks (immed wmsk : Bool) (transferLength : Nat)
  /-- READ(6). -/
  | read6 (fixed sili : Bool) (transferLength : Nat)
  /-- READ POSITION. -/
  | readPosition (serviceAction : Nat)
  /-- LOCATE(10). -/
  | locate (bt cp : Bool) (blockAddress pnum : Nat)
  /-- LOCATE(16). -/
  | locate16 (cp : Bool) (destType blockAddress pnum : Nat)
  /-- SPACE, with the 24 bits of the count. -/
  | space (code count : Nat)
  /-- REWIND. -/
  | rewind
  /-- ERASE. -/
  | erase (longbit : Bool)
  /-- LOAD UNLOAD. -/
  | loadUnload (load eot hold : Bool)
  /-- MODE SELECT with the buffered mode of its header, the block length of its block descriptor and
  the compression bit of its data compression page. -/
  | modeSelect (bufferedMode : Bool) (blockLength : Option Nat) (compression : Option Bool)
  deriving DecidableEq, Repr

/-- The answer to a request to write: no memory for a copy of the request, or the result of
`tape_partition_validate_write`. -/
inductive WriteVerdict
  /-- The write is accepted. -/
  | ok
  /-- The write is accepted, with a warning. -/
  | ewReached
  /-- A WORM tape would be overwritten. -/
  | overwriteWormMedia
  /-- The tape is full. -/
  | volumeOverflowEncountered
  /-- No memory. -/
  | noMemory
  deriving DecidableEq, Repr

/-- What a command finds that does not depend on the state of the drive below. -/
structure Circumstances where
  /-- There is no initiator state, sense data to report, or a reservation conflict. -/
  refused : Bool
  /-- The tape is locked by another drive. -/
  lockedByOther : Bool
  /-- The drive does not take this medium. -/
  mediaInvalid : Bool
  /-- An initiator prevents the removal of the medium. -/
  preventRemoval : Bool
  /-- The answer to a request to write. -/
  verdict : WriteVerdict
  /-- `tdrive_synchronize_at_ew`. -/
  synchronizeAtEw : Bool
  deriving DecidableEq, Repr

/-! ## Drives -/

/-- An action of the command thread. -/
inductive DriveAction (δ : Type)
  /-- `tdrive_wait_for_write_queue`. -/
  | wait
  /-- Flush the tape if it is being written. -/
  | flush
  /-- `tdrive_incr_pending_writes`. -/
  | incr (blockSize numBlocks : Nat)
  /-- `devq_insert_ccb`. -/
  | insert (ctio : WriteCtio δ)
  /-- Go on only at the beginning of the partition. -/
  | atBop
  /-- A tape operation; go on only if it succeeds. -/
  | command (cmd : TapeCommand)
  /-- Set or clear `TDRIVE_FLAGS_TAPE_LOADED`. -/
  | setLoaded (loaded : Bool)
  /-- Set the buffered mode. -/
  | setBufferedMode (bufferedMode : Bool)
  /-- Set the block length. -/
  | setBlockLength (blockLength : Nat)
  /-- Set the compression bit. -/
  | setCompression (compression : Bool)
  deriving DecidableEq, Repr

/-- Where the write thread is. -/
inductive WriteThread (δ : Type)
  /-- It has nothing to do or looks for a request. -/
  | idle
  /-- It took a request from the queue. -/
  | taken (ctio : WriteCtio δ)
  /-- It executed a request, but did not count it yet. -/
  | executed
  deriving DecidableEq, Repr

/-- A drive with a tape. -/
structure Drive (τ δ : Type) where
  /-- The tape, if there is one. -/
  tape : τ
  /-- There is a tape. -/
  hasTape : Bool
  /-- `TDRIVE_FLAGS_TAPE_LOADED`. -/
  loaded : Bool
  /-- Block length of the block descriptor. -/
  blockLength : Nat
  /-- `TDRIVE_GET_BUFFERED_MODE`. -/
  bufferedMode : Bool
  /-- `tdrive_compression_enabled`. -/
  compression : Bool
  /-- `erase_from_bot`. -/
  eraseFromBot : Bool
  /-- `tdrive_rewind_on_unload`. -/
  rewindOnUnload : Bool
  /-- `pending_queue` of the write queue. -/
  pendingQueue : List (WriteCtio δ)
  /-- `pending_cmds` of the write queue. -/
  pendingCmds : Nat
  /-- The write thread. -/
  writer : WriteThread δ
  /-- `pending_size` of the current partition. -/
  pendingSize : Nat
  /-- `pending_writes` of the current partition. -/
  pendingWrites : Nat
  /-- What is left to do for the current command. -/
  todo : List (DriveAction δ)
  deriving DecidableEq, Repr

/-- Block size and number of blocks of a WRITE(6). -/
def writeLength (blockLength : Nat) (fixed : Bool) (transferLength : Nat) : Nat × Nat :=
  if fixed then (blockLength, transferLength) else (transferLength, 1)

/-! ## The command thread -/

namespace Drive

/-- `tdrive_empty_write_queue`. -/
def tdriveEmptyWriteQueue (drive : Drive τ δ) : List (DriveAction δ) :=
  if drive.hasTape then [.wait, .flush] else []

/-- Put a request on the queue: its copy, or itself and wait for it. -/
def insertCmd (copy : Bool) (op : WriteOp δ) : List (DriveAction δ) :=
  if copy then [.insert ⟨op, true⟩] else [.insert ⟨op, false⟩, .wait]

/-- `tdrive_cmd_validate_write6`. -/
def tdriveCmdValidateWrite6 (drive : Drive τ δ) (circ : Circumstances) (fixed : Bool)
    (transferLength : Nat) (data : δ) : List (DriveAction δ) :=
  let length := writeLength drive.blockLength fixed transferLength
  let insert := .incr length.1 length.2 ::
    insertCmd drive.bufferedMode (.write6 fixed transferLength data)
  if length.1 > tdriveMaxBlockSize then []
  else match circ.verdict with
    | .noMemory | .overwriteWormMedia | .volumeOverflowEncountered => []
    | .ewReached =>
      (if circ.synchronizeAtEw then drive.tdriveEmptyWriteQueue else []) ++ insert
    | .ok => insert

/-- `tdrive_cmd_validate_write_filemarks`. -/
def tdriveCmdValidateWriteFilemarks (circ : Circumstances) (immed wmsk : Bool)
    (transferLength : Nat) : List (DriveAction δ) :=
  match circ.verdict with
  | .noMemory | .overwriteWormMedia | .volumeOverflowEncountered => []
  | .ewReached | .ok => insertCmd immed (.writeFilemarks wmsk transferLength)

/-- `tdrive_cmd_read6`. -/
def tdriveCmdRead6 (drive : Drive τ δ) (fixed sili : Bool) (transferLength : Nat) :
    List (DriveAction δ) :=
  if fixed && sili then []
  else
    let length := writeLength drive.blockLength fixed transferLength
    drive.tdriveEmptyWriteQueue ++
      if transferLength = 0 then [] else [.command (.read length.1 length.2 fixed)]

/-- `tdrive_cmd_read_position`, for the short, long and extended forms. -/
def tdriveCmdReadPosition (drive : Drive τ δ) (serviceAction : Nat) : List (DriveAction δ) :=
  if serviceAction = 0 ∨ serviceAction = 6 ∨ serviceAction = 8 then
    drive.tdriveEmptyWriteQueue ++ [.command (.readPosition serviceAction)]
  else []

/-- `__tdrive_cmd_locate`. -/
def tdriveCmdLocateTo (drive : Drive τ δ) (blockAddress : Nat) (cp : Bool) (pnum locateType : Nat) :
    List (DriveAction δ) :=
  drive.tdriveEmptyWriteQueue ++ [.command (.locate blockAddress cp pnum locateType)]

/-- `tdrive_cmd_locate`. -/
def tdriveCmdLocate (drive : Drive τ δ) (bt cp : Bool) (blockAddress pnum : Nat) :
    List (DriveAction δ) :=
  if bt then [] else drive.tdriveCmdLocateTo blockAddress cp pnum 0

/-- `tdrive_cmd_locate16`, for blocks, files and the end of data. -/
def tdriveCmdLocate16 (drive : Drive τ δ) (cp : Bool) (destType blockAddress pnum : Nat) :
    List (DriveAction δ) :=
  if destType = 0 ∨ destType = 1 ∨ destType = 3 then
    drive.tdriveCmdLocateTo blockAddress cp pnum destType
  else []

/-- `tdrive_cmd_space`, for blocks, filemarks, the end of data and setmarks. -/
def tdriveCmdSpace (drive : Drive τ δ) (code count : Nat) : List (DriveAction δ) :=
  let signed : Int := if count > 0x7FFFFF then (count : Int) - 0x1000000 else count
  drive.tdriveEmptyWriteQueue ++
    if count = 0 ∧ code ≠ 3 then []
    else if code = 0 ∨ code = 1 ∨ code = 3 ∨ code = 4 then [.command (.space code signed)]
    else []

/-- `tdrive_cmd_rewind`. -/
def tdriveCmdRewind (drive : Drive τ δ) : List (DriveAction δ) :=
  drive.tdriveEmptyWriteQueue ++ [.command (.rewind false)]

/-- `tdrive_cmd_erase`. -/
def tdriveCmdErase (drive : Drive τ δ) (longbit : Bool) : List (DriveAction δ) :=
  drive.tdriveEmptyWriteQueue ++
    if drive.eraseFromBot then (if longbit then [.atBop, .command .erase] else [])
    else [.command .erase]

/-- `tdrive_cmd_load_unload`. -/
def tdriveCmdLoadUnload (drive : Drive τ δ) (circ : Circumstances) (load eot hold : Bool) :
    List (DriveAction δ) :=
  if eot || !drive.hasTape then []
  else if !load && !hold && circ.preventRemoval then []
  else if load then
    (if drive.loaded then [] else [.command .load, .setLoaded true]) ++
      drive.tdriveEmptyWriteQueue ++ [.command (.rewind true)]
  else if !hold && drive.loaded then
    drive.tdriveEmptyWriteQueue ++
      [.command (.unload drive.rewindOnUnload), .setLoaded false]
  else []

/-- `tdrive_cmd_mode_select6` and `tdrive_cmd_mode_select10`. -/
def tdriveCmdModeSelect (bufferedMode : Bool) (blockLength : Option Nat)
    (compression : Option Bool) : List (DriveAction δ) :=
  let page := match compression with
    | some compression => [.setCompression compression]
    | none => []
  .setBufferedMode bufferedMode ::
    match blockLength with
    | none => page
    | some blockLength =>
      if blockLength > tdriveMaxBlockSize then []
      else [.wait, .setBlockLength blockLength] ++ page

/-- The drive is not ready for most commands. -/
def notReady (drive : Drive τ δ) (circ : Circumstances) : Bool :=
  !drive.hasTape || !drive.loaded || circ.lockedByOther || circ.mediaInvalid

/-- A drive that is not ready still takes this command. -/
def takesNotReady (drive : Drive τ δ) (circ : Circumstances) : DriveCmd δ → Bool
  | .modeSelect .. => true
  | .loadUnload .. => drive.hasTape && !circ.lockedByOther
  | _ => false

/-- The handler of a command. -/
def dispatch (drive : Drive τ δ) (circ : Circumstances) : DriveCmd δ → List (DriveAction δ)
  | .write6 fixed transferLength data =>
    drive.tdriveCmdValidateWrite6 circ fixed transferLength data
  | .writeFilemarks immed wmsk transferLength =>
    tdriveCmdValidateWriteFilemarks circ immed wmsk transferLength
  | .read6 fixed sili transferLength => drive.tdriveCmdRead6 fixed sili transferLength
  | .readPosition serviceAction => drive.tdriveCmdReadPosition serviceAction
  | .locate bt cp blockAddress pnum => drive.tdriveCmdLocate bt cp blockAddress pnum
  | .locate16 cp destType blockAddress pnum =>
    drive.tdriveCmdLocate16 cp destType blockAddress pnum
  | .space code count => drive.tdriveCmdSpace code count
  | .rewind => drive.tdriveCmdRewind
  | .erase longbit => drive.tdriveCmdErase longbit
  | .loadUnload load eot hold => drive.tdriveCmdLoadUnload circ load eot hold
  | .modeSelect bufferedMode blockLength compression =>
    tdriveCmdModeSelect bufferedMode blockLength compression

/-- `tdrive_proc_cmd`: what the command thread does for a command. -/
def tdriveProcCmd (drive : Drive τ δ) (circ : Circumstances) (cmd : DriveCmd δ) :
    List (DriveAction δ) :=
  if circ.refused || (drive.notReady circ && !drive.takesNotReady circ cmd) then []
  else drive.dispatch circ cmd

/-! ## The write thread -/

/-- `tdrive_decr_pending_writes`. -/
def tdriveDecrPendingWrites (drive : Drive τ δ) (blockSize numBlocks : Nat) : Drive τ δ :=
  { drive with
    pendingSize :=
      (drive.pendingSize + (atomicRange - blockSize * numBlocks % atomicRange)) % atomicRange
    pendingWrites :=
      (drive.pendingWrites + (atomicRange - numBlocks % atomicRange)) % atomicRange }

/-- `tdrive_cmd_write6`. -/
def tdriveCmdWrite6 (tapes : TapeBehaviour τ δ) (drive : Drive τ δ) (buffered fixed : Bool)
    (transferLength : Nat) (data : δ) : Drive τ δ :=
  if transferLength = 0 then drive
  else
    let length := writeLength drive.blockLength fixed transferLength
    let written := { drive with
      tape := tapes.write length.1 length.2 drive.compression data drive.tape }
    if buffered then written.tdriveDecrPendingWrites length.1 length.2 else written

/-- `tdrive_cmd_write_filemarks`. -/
def tdriveCmdWriteFilemarks (tapes : TapeBehaviour τ δ) (drive : Drive τ δ) (wmsk : Bool)
    (transferLength : Nat) : Drive τ δ :=
  if transferLength = 0 then { drive with tape := tapes.flushBuffers drive.tape }
  else
    let written := tapes.writeFilemarks wmsk transferLength drive.tape
    { drive with tape := if written.2 then written.1 else tapes.flushBuffers written.1 }

/-- `tdrive_proc_write_cmd`. -/
def tdriveProcWriteCmd (tapes : TapeBehaviour τ δ) (drive : Drive τ δ) (ctio : WriteCtio δ) :
    Drive τ δ :=
  match ctio.op with
  | .write6 fixed transferLength data =>
    drive.tdriveCmdWrite6 tapes ctio.buffered fixed transferLength data
  | .writeFilemarks wmsk transferLength => drive.tdriveCmdWriteFilemarks tapes wmsk transferLength

end Drive

/-! ## Steps -/

/-- What a step does to the tape or the queue. -/
inductive DriveEffect (δ : Type)
  /-- A request was put on the queue, at this block length. -/
  | accept (ctio : WriteCtio δ) (blockLength : Nat)
  /-- The write thread executed a request. -/
  | execute (ctio : WriteCtio δ)
  /-- The command thread flushed the tape. -/
  | flush
  /-- The command thread executed a tape operation. -/
  | perform (cmd : TapeCommand)
  /-- Neither. -/
  | silent
  deriving DecidableEq, Repr

/-- Who makes a step. -/
inductive DriveMove (δ : Type)
  /-- The command thread takes the next command. -/
  | start (circ : Circumstances) (cmd : DriveCmd δ)
  /-- The command thread makes its next action. -/
  | command
  /-- The write thread. -/
  | writer
  deriving DecidableEq, Repr

namespace Drive

/-- The next action of the command thread; nothing if it has to wait. -/
def act (tapes : TapeBehaviour τ δ) (drive : Drive τ δ) (rest : List (DriveAction δ)) :
    DriveAction δ → Option (Drive τ δ × DriveEffect δ)
  | .wait => if drive.pendingCmds = 0 then some ({ drive with todo := rest }, .silent) else none
  | .flush => some ({ drive with
      tape := if tapes.dirWrite drive.tape then tapes.flushBuffers drive.tape else drive.tape
      todo := rest }, .flush)
  | .incr blockSize numBlocks =>
    if drive.pendingSize > tdriveWriteCacheSize then none
    else some ({ drive with
      pendingSize := (drive.pendingSize + blockSize * numBlocks) % atomicRange
      pendingWrites := (drive.pendingWrites + numBlocks) % atomicRange
      todo := rest }, .silent)
  | .insert ctio => some ({ drive with
      pendingQueue := drive.pendingQueue ++ [ctio]
      pendingCmds := drive.pendingCmds + 1
      todo := rest }, .accept ctio drive.blockLength)
  | .atBop => some ({ drive with todo := if tapes.atBop drive.tape then rest else [] }, .silent)
  | .command cmd =>
    let done := tapes.command cmd drive.tape
    some ({ drive with tape := done.1, todo := if done.2 then rest else [] }, .perform cmd)
  | .setLoaded loaded => some ({ drive with loaded := loaded, todo := rest }, .silent)
  | .setBufferedMode bufferedMode =>
    some ({ drive with bufferedMode := bufferedMode, todo := rest }, .silent)
  | .setBlockLength blockLength =>
    some ({ drive with blockLength := blockLength, todo := rest }, .silent)
  | .setCompression compression =>
    some ({ drive with compression := compression, todo := rest }, .silent)

/-- The next step of the write thread, `devq_process_queue`; nothing if the queue is empty. -/
def devqProcessQueue (tapes : TapeBehaviour τ δ) (drive : Drive τ δ) :
    Option (Drive τ δ × DriveEffect δ) :=
  match drive.writer with
  | .idle =>
    match drive.pendingQueue with
    | [] => none
    | ctio :: rest => some ({ drive with pendingQueue := rest, writer := .taken ctio }, .silent)
  | .taken ctio =>
    some ({ drive.tdriveProcWriteCmd tapes ctio with writer := .executed }, .execute ctio)
  | .executed =>
    some ({ drive with pendingCmds := drive.pendingCmds - 1, writer := .idle }, .silent)

/-- One step of a drive. -/
def step (tapes : TapeBehaviour τ δ) (drive : Drive τ δ) :
    DriveMove δ → Option (Drive τ δ × DriveEffect δ)
  | .start circ cmd =>
    match drive.todo with
    | [] => some ({ drive with todo := drive.tdriveProcCmd circ cmd }, .silent)
    | _ :: _ => none
  | .command =>
    match drive.todo with
    | [] => none
    | action :: rest => drive.act tapes rest action
  | .writer => drive.devqProcessQueue tapes

/-- The effects of a sequence of steps, and the drive after them; nothing if one of them cannot be
made. -/
def play (tapes : TapeBehaviour τ δ) (drive : Drive τ δ) :
    List (DriveMove δ) → Option (List (DriveEffect δ) × Drive τ δ)
  | [] => some ([], drive)
  | move :: rest =>
    match drive.step tapes move with
    | none => none
    | some (next, effect) => (next.play tapes rest).map fun after => (effect :: after.1, after.2)

end Drive

/-- A step with its effect. -/
structure DriveLabel (δ : Type) where
  /-- Who makes it. -/
  move : DriveMove δ
  /-- What it does. -/
  effect : DriveEffect δ
  deriving DecidableEq, Repr

/-- Any step of either thread. -/
def DriveStep (tapes : TapeBehaviour τ δ) (s : Drive τ δ) (label : DriveLabel δ)
    (t : Drive τ δ) : Prop :=
  s.step tapes label.move = some (t, label.effect)

/-- Nothing is queued, and both threads have nothing to do. -/
structure Drive.Resting (drive : Drive τ δ) : Prop where
  /-- The queue is empty. -/
  pendingQueue : drive.pendingQueue = []
  /-- The counter says so. -/
  pendingCmds : drive.pendingCmds = 0
  /-- The write thread is idle. -/
  writer : drive.writer = .idle
  /-- The command thread is idle. -/
  todo : drive.todo = []

end VirtualTape
