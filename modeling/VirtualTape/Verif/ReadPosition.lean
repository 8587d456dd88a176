import VirtualTape.Lib.Run
import VirtualTape.Verif.LocateFile
import VirtualTape.Verif.Reading

/-!
# What READ POSITION reports

Commands that only move about keep a partition clean, so wherever they end the counts of the lookups
and of the maps in front are those of the recorded objects. READ POSITION walks the entries of the
current map up to the current one and counts that one, too: the number of files or sets is one too
high when the next object is a mark.
-/

namespace VirtualTape

variable {tally : Prop} {origin s s' : State} {image : Image} {mlookup : MapLookup} {map : BlkMap}
  {index position : Nat}

/-! ## Moving about -/

/-- A command that only moves about. -/
inductive MoveCommand where
  /-- READ. -/
  | read (blockSize count : Nat)
  /-- LOCATE to a block. -/
  | locate (address : Nat)
  /-- SPACE. -/
  | space (target : SpaceType)
  /-- REWIND. -/
  | rewind
  deriving DecidableEq, Repr

/-- Run a command. -/
def MoveCommand.run (env : Env) (s : State) : MoveCommand → Outcome
  | .read blockSize count => tapePartitionRead env blockSize count s
  | .locate address => tapePartitionLocate env (.block address) s
  | .space target => tapePartitionSpace env target s
  | .rewind => tapeCmdRewind env s

/-- A command that ends with some status. -/
def MoveStep (s : State) (event : Env × MoveCommand) (s' : State) : Prop :=
  ∃ status, event.2.run event.1 s = some (status, s')

/-- Moving about keeps a partition clean. -/
theorem Clean.step (clean : Clean origin tally s image) {event : Env × MoveCommand}
    (step : MoveStep s event s') : Clean origin tally s' image := by
  obtain ⟨status, done⟩ := step
  obtain ⟨env, command⟩ := event
  cases command with
  | read blockSize count => exact clean.read done
  | locate address => exact clean.locate done
  | space target => exact clean.space done
  | rewind => exact clean.rewind done

/-- Moving about any number of times keeps a partition clean. -/
theorem Clean.run {events : List (Env × MoveCommand)} (clean : Clean origin tally s image)
    (run : Run MoveStep s events s') : Clean origin tally s' image := by
  induction run with
  | nil => exact clean
  | snoc _ last ih => exact ih.step last

/-- The state after commands in sequence. -/
def MoveCommand.play (env : Env) : List MoveCommand → State → State
  | [], s => s
  | command :: rest, s => MoveCommand.play env rest (Outcome.state (command.run env s) s)

/-- Every one of them ends. -/
def MoveCommand.ends (env : Env) : List MoveCommand → State → Bool
  | [], _ => true
  | command :: rest, s =>
    (command.run env s).isSome && MoveCommand.ends env rest (Outcome.state (command.run env s) s)

/-- Commands that end are a run. -/
theorem MoveCommand.run_play {env : Env} {commands : List MoveCommand}
    (ended : MoveCommand.ends env commands s = true) :
    Run MoveStep s (commands.map fun command => (env, command)) (MoveCommand.play env commands s) := by
  induction commands generalizing s with
  | nil => exact .nil
  | cons command rest ih =>
    obtain ⟨here, others⟩ := Bool.and_eq_true_iff.1 ended
    obtain ⟨⟨status, next⟩, done⟩ := Option.isSome_iff_exists.1 here
    have step : MoveStep s (env, command) (Outcome.state (command.run env s) s) :=
      ⟨status, by rw [done]; rfl⟩
    exact Run.cons step (ih others)

/-! ## The current map -/

/-- The lookup of the current map is found. -/
theorem Clean.lookupOf_cur (clean : Clean origin tally s image)
    (isCur : s.part.cursor.cur? = some map) : ∃ mlookup, s.part.lookupOf map = some mlookup := by
  obtain ⟨before, after, index, cursor, -, -⟩ := clean.on_cur isCur
  have ahead : map ∈ s.part.cursor.ahead := by
    rw [cursor]
    exact List.mem_cons_self
  obtain ⟨mlookup, cached, bid, bStart⟩ := clean.anchored map ahead
  rw [← Option.isSome_iff_exists, Partition.lookupOf, findLookup, List.find?_isSome]
  exact ⟨mlookup, cached, by simp [bid, bStart]⟩

/-- The logical id at the position of a copy. -/
theorem CopyAt.currentLid (copy : CopyAt image index map) (formed : image.Formed) :
    blkMapCurrentLid map = image.objectsBefore index + map.cEntry.getD map.entries.length := by
  have numbered := copy.numbered formed
  rw [← copy.lIdsStart formed, blkMapCurrentLid]
  cases isPosition : map.cEntry with
  | some current =>
    obtain ⟨place, -, isCopy⟩ := copy
    have inside := isCopy.cEntry current isPosition
    rw [Option.bind_some, List.getElem?_eq_getElem inside]
    exact numbered.lidStart (List.getElem?_eq_getElem inside)
  | none =>
    rw [Option.bind_none, Option.getD_none]
    rcases List.eq_nil_or_concat' map.entries with none | ⟨front, last, isList⟩
    · simp [none]
    · have found : map.entries[front.length]? = some last := by simp [isList]
      simp only [isList, List.getLast?_concat, numbered.lidStart found, List.length_append,
        List.length_singleton, Nat.add_assoc]

/-- The marks in front of a position within a copy. -/
theorem CopyAt.countP_objects (copy : CopyAt image index map) {count : Nat}
    (le : count ≤ map.entries.length) :
    (image.objects.take (image.objectsBefore index + count)).countP BlkEntry.isFilemark =
        image.filemarksBefore index + (map.entries.take count).countP BlkEntry.isFilemark ∧
      (image.objects.take (image.objectsBefore index + count)).countP BlkEntry.isSetmark =
        image.setmarksBefore index + (map.entries.take count).countP BlkEntry.isSetmark := by
  have counts := copy.countP_take count
  rw [Image.objects_take copy.maps_getElem? (by simpa using le), List.countP_append,
    List.countP_append, counts.1, counts.2]
  exact ⟨rfl, rfl⟩

/-- The entry at the position of a map. -/
def BlkMap.current? (map : BlkMap) : Option BlkEntry :=
  map.cEntry.bind fun index => map.entries[index]?

/-- The object at the position is a mark of the current map. -/
def Cursor.atMark (cursor : Cursor) : Bool :=
  (cursor.cur?.bind BlkMap.current?).any fun entry => !entry.isDataBlock

/-- A mark is either a filemark or a setmark. -/
theorem BlkEntry.isFilemark_xor (entry : BlkEntry) (mark : entry.isDataBlock = false) :
    (entry.isFilemark = true ∧ entry.isSetmark = false) ∨
      (entry.isFilemark = false ∧ entry.isSetmark = true) := by
  cases size : entryCsize entry.bits == 0 with
  | true => exact Or.inl (by simp [isFilemark, isSetmark, mark, bne, size])
  | false => exact Or.inr (by simp [isFilemark, isSetmark, mark, bne, size])

/-- There is a mark at the position of a map if and only if there is a filemark or a setmark. -/
theorem BlkMap.current_marks_iff (map : BlkMap) :
    (map.current?.any BlkEntry.isFilemark = false ∧ map.current?.any BlkEntry.isSetmark = false) ↔
      (map.current?.any fun entry => !entry.isDataBlock) = false := by
  cases map.current? with
  | none => simp
  | some entry =>
    cases isMark : entry.isDataBlock with
    | true => simp [BlkEntry.isFilemark, BlkEntry.isSetmark, isMark]
    | false =>
      rcases entry.isFilemark_xor isMark with ⟨one, other⟩ | ⟨one, other⟩ <;>
        simp [one, other, isMark]

/-- The current entry of a copy exists. -/
theorem CopyAt.cEntry_lt (copy : CopyAt image index map) :
    ∀ current, map.cEntry = some current → current < map.entries.length := by
  obtain ⟨place, -, isCopy⟩ := copy
  exact isCopy.cEntry

/-- A position within a map. -/
theorem BlkMap.position_le (map : BlkMap)
    (valid : ∀ current, map.cEntry = some current → current < map.entries.length) :
    map.cEntry.getD map.entries.length ≤ map.entries.length := by
  cases isPosition : map.cEntry with
  | none => exact le_refl _
  | some current => exact Nat.le_of_lt (valid current isPosition)

/-- The walk over a map counts the marks in front of the position and a mark at it. -/
theorem BlkMap.walked_countP (map : BlkMap)
    (valid : ∀ current, map.cEntry = some current → current < map.entries.length)
    (kind : BlkEntry → Bool) :
    map.walked.countP kind =
      (map.entries.take (map.cEntry.getD map.entries.length)).countP kind +
        (if map.current?.any kind then 1 else 0) := by
  cases isPosition : map.cEntry with
  | none => simp [walked, current?, isPosition]
  | some current =>
    have inside := valid current isPosition
    simp only [walked, current?, isPosition, Option.bind_some, Option.getD_some]
    rw [List.take_add_one, List.countP_append, List.getElem?_eq_getElem inside]
    simp [List.countP_singleton]

/-! ## What is reported -/

/-- What is reported is a position and the numbers of marks in front of it. -/
def ReportsPosition (image : Image) (position : Nat) (report : Option TapePositionInfo) : Prop :=
  ∃ info, report = some info ∧ info.blockNumber = position ∧
    info.fileNumber = (image.objects.take position).countP BlkEntry.isFilemark ∧
    info.setNumber = (image.objects.take position).countP BlkEntry.isSetmark

/-- The position of a clean partition. -/
theorem Clean.exists_position (clean : Clean origin tally s image) :
    ∃ position, PositionAt image position s.part.cursor := by
  have cursor := clean.cursor
  cases found : s.part.cursor with
  | null => exact ⟨0, rfl⟩
  | dangling maps => exact ⟨0, rfl⟩
  | loose maps cur => exact absurd (found ▸ cursor) (by simp [CursorClean])
  | on before cur after =>
    rw [found] at cursor
    obtain ⟨index, copy, -⟩ := cursor
    exact ⟨_, index, copy, rfl⟩

/-- What is reported with a current map: a mark at the position is counted, too. -/
theorem Clean.readPosition_on (clean : Clean origin True s image)
    (isCur : s.part.cursor.cur? = some map)
    (at_ : PositionAt image position s.part.cursor) (cachedBlocks cachedData : Nat) :
    ∃ info, blkMapReadPosition cachedBlocks cachedData s = some info ∧
      info.blockNumber = position ∧
      info.fileNumber = (image.objects.take position).countP BlkEntry.isFilemark +
        (if map.current?.any BlkEntry.isFilemark then 1 else 0) ∧
      info.setNumber = (image.objects.take position).countP BlkEntry.isSetmark +
        (if map.current?.any BlkEntry.isSetmark then 1 else 0) := by
  obtain ⟨before, after, -, cursor, -, -⟩ := clean.on_cur isCur
  rw [cursor] at at_
  obtain ⟨index, copy, rfl⟩ := at_
  obtain ⟨mlookup, found⟩ := clean.lookupOf_cur isCur
  obtain ⟨link, cached, inside, rfl⟩ := clean.lookupOf copy found
  have marks := clean.slot_marks cached map.mlookupEntryId (Nat.le_of_lt inside)
  have valid := copy.cEntry_lt
  have counts := copy.countP_objects (map.position_le valid)
  have setmarks : (map.walked.countP fun entry => !entry.isFilemark && entry.isSetmark) =
      map.walked.countP BlkEntry.isSetmark := by
    apply List.countP_congr
    intro entry _
    cases isMark : entry.isDataBlock with
    | true => simp [BlkEntry.isSetmark, isMark]
    | false =>
      rcases entry.isFilemark_xor isMark with ⟨one, other⟩ | ⟨one, other⟩ <;> simp [one, other]
  simp only [blkMapReadPosition, cursor, found, Option.map_some, Option.some.injEq,
    exists_eq_left', setmarks, copy.currentLid clean.formed, counts, map.walked_countP valid,
    true_and]
  omega

/-- READ POSITION after any sequence of moves reports the position and the marks in front of it,
unless the pointer to the current map dangles or the next object is a mark of the current map. -/
theorem blkMapReadPosition_iff {events : List (Env × MoveCommand)}
    (clean : Clean origin True s image) (run : Run MoveStep s events s')
    (at_ : PositionAt image position s'.part.cursor) (cachedBlocks cachedData : Nat) :
    ReportsPosition image position (blkMapReadPosition cachedBlocks cachedData s') ↔
      s'.part.cursor.isDangling = false ∧ s'.part.cursor.atMark = false := by
  have clean' := clean.run run
  have cursor := clean'.cursor
  cases found : s'.part.cursor with
  | null =>
    rw [found] at cursor at_
    obtain rfl : image = [] := cursor
    obtain rfl : position = 0 := at_
    refine iff_of_true ?_ ⟨rfl, rfl⟩
    simp [ReportsPosition, blkMapReadPosition, found, Image.objects]
  | dangling maps =>
    refine iff_of_false ?_ (by simp [Cursor.isDangling])
    rintro ⟨info, report, -⟩
    simp [blkMapReadPosition, found] at report
  | loose maps cur => exact absurd (found ▸ cursor) (by simp [CursorClean])
  | on before cur after =>
    have isCur : s'.part.cursor.cur? = some cur := by
      rw [found]
      rfl
    obtain ⟨info, report, block, files, sets⟩ :=
      clean'.readPosition_on isCur at_ cachedBlocks cachedData
    simp only [Cursor.isDangling, Cursor.atMark, Cursor.cur?, Option.bind_some, true_and]
    rw [← cur.current_marks_iff]
    simp only [ReportsPosition, report, Option.some.injEq, exists_eq_left', block, files, sets,
      true_and]
    cases cur.current?.any BlkEntry.isFilemark <;> cases cur.current?.any BlkEntry.isSetmark <;>
      simp

/-- READ POSITION of the small tape, after LOCATE to its beginning, READ of its first map, and SPACE to the
end of data. -/
theorem blkMapReadPosition_atEnd :
    ∃ s position, Run MoveStep sampleTape [(syncEnv 4, .locate 0), (syncEnv 4, .read 512 2),
        (syncEnv 4, .space .endOfData)] s ∧
      PositionAt sampleImage position s.part.cursor ∧
      ReportsPosition sampleImage position (blkMapReadPosition 0 0 s) := by
  have ended : MoveCommand.ends (syncEnv 4) [.locate 0, .read 512 2, .space .endOfData]
      sampleTape = true := by decide +kernel
  have run := MoveCommand.run_play ended
  have held : (MoveCommand.play (syncEnv 4) [.locate 0, .read 512 2, .space .endOfData]
      sampleTape).part.cursor.isDangling = false := by decide +kernel
  have noMark : (MoveCommand.play (syncEnv 4) [.locate 0, .read 512 2, .space .endOfData]
      sampleTape).part.cursor.atMark = false := by decide +kernel
  generalize MoveCommand.play (syncEnv 4) [.locate 0, .read 512 2, .space .endOfData]
    sampleTape = s at run held noMark
  obtain ⟨position, at_⟩ := (sampleTape_clean.run run).exists_position
  exact ⟨s, position, run, at_,
    (blkMapReadPosition_iff sampleTape_clean run at_ 0 0).2 ⟨held, noMark⟩⟩

/-- The small tape after LOCATE to its first filemark. -/
def locatedTape : State := MoveCommand.play (syncEnv 4) [.locate 3] sampleTape

/-- In front of the first filemark READ POSITION counts it as if it were passed. -/
theorem blkMapReadPosition_counts_next :
    Run MoveStep sampleTape [(syncEnv 4, .locate 3)] locatedTape ∧
      locatedTape.part.cursor.isDangling = false ∧
      ∃ info, blkMapReadPosition 0 0 locatedTape = some info ∧ info.blockNumber = 3 ∧
        info.fileNumber = 1 ∧
        (sampleImage.objects.take info.blockNumber).countP BlkEntry.isFilemark = 0 :=
  ⟨MoveCommand.run_play
      (show MoveCommand.ends (syncEnv 4) [.locate 3] sampleTape = true by decide +kernel),
    by decide +kernel, ⟨false, false, 0, 0, 3, 1, 0⟩, by decide +kernel, rfl, rfl,
    by decide +kernel⟩

/-! ## What stays recorded -/

/-- Moving about, whatever statuses the commands end with, leaves the disk alone and changes nothing
that flushing and loading the partition again would find. -/
theorem moves_keep_recorded {events : List (Env × MoveCommand)} (clean : Clean s tally s image)
    (run : Run MoveStep s events s') (fuel : Nat) :
    s'.disk = s.disk ∧ recorded fuel s' = recorded fuel s := by
  have clean' := clean.run run
  obtain ⟨mlookups, cursor, flag, dirRead, part⟩ := clean'.moved.part
  refine ⟨clean'.moved.disk, ?_⟩
  simp only [recorded, tapePartitionFlushWrites_clean clean.dirWrite,
    tapePartitionFlushWrites_clean clean'.dirWrite, clean'.moved.group, clean'.moved.disk, part]
  rfl

/-- LOCATE, READ, SPACE back over filemarks and REWIND leave the small tape as it was recorded. -/
theorem moves_keep_recorded_located :
    (MoveCommand.play (syncEnv 4) [.locate 1, .read 512 3, .space (.backward .filemarks 1), .rewind]
        sampleTape).disk = sampleTape.disk ∧
      recorded 4 (MoveCommand.play (syncEnv 4)
        [.locate 1, .read 512 3, .space (.backward .filemarks 1), .rewind] sampleTape) =
          recorded 4 sampleTape :=
  moves_keep_recorded sampleTape_clean (MoveCommand.run_play (by decide +kernel)) 4

end VirtualTape
