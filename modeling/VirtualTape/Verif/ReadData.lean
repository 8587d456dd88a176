import Mathlib.Data.List.TakeWhile
import VirtualTape.Verif.ReadWalk
import VirtualTape.Verif.SpaceStatus

/-!
# What a read hands over

The second walk of a read collects the pages of the blocks that the first walk passed, with a signed
count of bytes that has 32 bits. It hands over the run of blocks that the first walk found unless the
run is too long for that count, or the number of pages for all blocks asked for is.
-/

namespace VirtualTape

variable {tally : Prop} {s s' : State} {image : Image} {cur : BlkMap} {number position : Nat}
  {env : Env} {before after : List BlkMap} {fixed : Bool} {blockSize numBlocks : Nat}
  {group : Bdevgroup} {disk : Disk} {faults : ReadFaults}

/-! ## Pieces -/

/-- Bytes of some pieces. -/
def Piece.total (pieces : List Piece) : Nat := (pieces.map Piece.bytes).sum

/-- Bytes from the start of a block; no piece at all if there are none. -/
def Piece.of (group : Bdevgroup) (disk : Disk) (bytes : Nat) (entry : BlkEntry) : List Piece :=
  if bytes = 0 then [] else [⟨entry.sectors group disk, bytes⟩]

section Collected

variable {objects entries : List BlkEntry}

/-- A run is at the front of the objects. -/
theorem readRun_eq_take (blockSize numBlocks : Nat) (objects : List BlkEntry) :
    readRun blockSize numBlocks objects =
        objects.take (readRun blockSize numBlocks objects).length ∧
      (readRun blockSize numBlocks objects).length ≤ numBlocks := by
  have front : readRun blockSize numBlocks objects <+: objects.take numBlocks :=
    List.takeWhile_prefix _
  have le := front.length_le
  refine ⟨List.prefix_iff_eq_take.1 (front.trans (List.take_prefix numBlocks objects)), ?_⟩
  rw [List.length_take] at le
  omega

/-- A run consists of blocks of the size asked for. -/
theorem isBlockOf_of_mem_readRun {entry : BlkEntry}
    (mem : entry ∈ readRun blockSize numBlocks objects) : entry.isBlockOf blockSize = true :=
  List.mem_takeWhile_imp mem

/-- The objects passed are the run and what cuts it short. -/
theorem take_flatRead_passed (blockSize numBlocks : Nat) (objects : List BlkEntry) :
    objects.take (flatRead blockSize numBlocks objects).passed =
      readRun blockSize numBlocks objects ++ (readCut blockSize numBlocks objects).toList := by
  obtain ⟨front, -⟩ := readRun_eq_take blockSize numBlocks objects
  cases cut : readCut blockSize numBlocks objects with
  | none =>
    simp only [flatRead, cut, Option.isSome_none, Bool.false_eq_true, if_false, Nat.add_zero,
      Option.toList_none, List.append_nil]
    exact front.symm
  | some entry =>
    have found : objects[(readRun blockSize numBlocks objects).length]? = some entry := by
      rw [readCut] at cut
      split at cut
      · exact absurd cut (by simp)
      · exact cut
    simp only [flatRead, cut, Option.isSome_some, if_true, List.take_add_one, found,
      Option.toList_some, ← front]

/-- Cached entries that a read passed. -/
structure Collected (group : Bdevgroup) (blockSize numBlocks : Nat)
    (objects entries : List BlkEntry) : Prop where
  /-- They are the objects passed. -/
  passed : entries.map BlkEntry.loaded =
    objects.take (flatRead blockSize numBlocks objects).passed
  /-- Their sizes are those that are read back. -/
  exact : ∀ entry ∈ entries, entry.Exact group
  /-- So are their addresses. -/
  settled : ∀ entry ∈ entries, entry.Settled

/-- The entries are the run and what cuts it short. -/
theorem Collected.split (collected : Collected group blockSize numBlocks objects entries) :
    ∃ run rest, entries = run ++ rest ∧
      run.map BlkEntry.loaded = readRun blockSize numBlocks objects ∧
      rest.map BlkEntry.loaded = (readCut blockSize numBlocks objects).toList ∧
      ∀ entry ∈ run, entry.isBlockOf blockSize = true := by
  have passed := collected.passed
  rw [take_flatRead_passed, List.map_eq_append_iff] at passed
  obtain ⟨run, rest, rfl, isRun, isRest⟩ := passed
  refine ⟨run, rest, rfl, isRun, isRest, fun entry mem => ?_⟩
  have loaded : entry.loaded ∈ readRun blockSize numBlocks objects := by
    rw [← isRun]
    exact List.mem_map_of_mem mem
  have isBlock := isBlockOf_of_mem_readRun loaded
  have exact := collected.exact entry (List.mem_append_left rest mem)
  rwa [BlkEntry.isBlockOf, BlkEntry.loaded_isDataBlock, exact.blockSize] at isBlock

/-- A run that is not cut short has its full length, or the tape ends behind it. -/
theorem readEnd_ne_ok (blockSize : Nat) (found : Option BlkEntry) : readEnd blockSize found ≠ .ok := by
  cases found with
  | none => exact Status.noConfusion
  | some entry =>
    unfold readEnd
    repeat' split
    all_goals exact Status.noConfusion

/-- Only a full run ends well. -/
theorem flatRead_status_eq_ok : (flatRead blockSize numBlocks objects).status = .ok ↔
    (readRun blockSize numBlocks objects).length = numBlocks := by
  simp only [flatRead]
  split
  · rename_i full
    simp [full]
  · rename_i short
    exact iff_of_false (readEnd_ne_ok _ _) short

/-- A read that ended like that of a flat tape. -/
def ReadRun.Follows (run : ReadRun) (result : FlatRead) : Prop :=
  run.status = result.status ∧ run.dataBlocks = result.blocks ∧ run.iliBlockSize = result.odd

/-- The bytes to transfer are those of the run, or the start of the odd block. -/
theorem ReadRun.Follows.readSize {run : ReadRun}
    (follows : run.Follows (flatRead blockSize numBlocks objects)) :
    run.readSize fixed blockSize numBlocks =
      if fixed = true ∨ (readRun blockSize numBlocks objects).length = numBlocks then
        (readRun blockSize numBlocks objects).length * blockSize % 2 ^ 32
      else min blockSize (flatRead blockSize numBlocks objects).odd := by
  obtain ⟨status, blocks, odd⟩ := follows
  rw [ReadRun.readSize, status, blocks, odd]
  simp only [flatRead_status_eq_ok]
  by_cases full : (readRun blockSize numBlocks objects).length = numBlocks
  · rw [if_pos full, if_pos (Or.inr full), full]
  · rw [if_neg full]
    cases fixed with
    | true => simp [flatRead]
    | false =>
      simp only [full, Bool.false_eq_true, or_false, if_false]
      split <;> omega

/-- A block that cuts a run short is the first entry behind the run. -/
theorem Collected.odd (collected : Collected group blockSize numBlocks objects entries)
    (empty : (readRun blockSize numBlocks objects).length = 0)
    (odd : (flatRead blockSize numBlocks objects).odd ≠ 0) :
    ∃ entry, entries = [entry] ∧ readCut blockSize numBlocks objects = some entry.loaded ∧
      entry.isDataBlock = true ∧ (flatRead blockSize numBlocks objects).odd = entry.blockSize := by
  obtain ⟨blocks, rest, rfl, isRun, isRest, -⟩ := collected.split
  rw [← isRun, List.length_map, List.length_eq_zero_iff] at empty
  subst empty
  simp only [flatRead] at odd ⊢
  cases cut : readCut blockSize numBlocks objects with
  | none => exact absurd rfl (cut ▸ odd)
  | some object =>
    simp only [cut] at odd
    rw [cut, Option.toList_some, List.map_eq_singleton_iff] at isRest
    obtain ⟨entry, rfl, rfl⟩ := isRest
    have exact := collected.exact entry (by simp)
    rw [BlkEntry.loaded_isDataBlock, exact.blockSize] at odd
    have isData : entry.isDataBlock = true := by
      by_contra mark
      rw [if_neg mark] at odd
      exact odd rfl
    refine ⟨entry, rfl, rfl, isData, ?_⟩
    simp only [BlkEntry.loaded_isDataBlock, isData, if_true, exact.blockSize]

end Collected

/-! ## Reading -/

/-- Dropping what is cached in front of the position. -/
theorem Clean.freeTillCur_seated (clean : Clean s tally s image) (exact : s.Exact) (env : Env)
    (seated : Seated image number before cur after s) :
    ∃ s', blkMapFreeTillCur env s = some s' ∧ Clean s tally s' image ∧ s'.Exact ∧
      Seated image number [] cur after s' ∧ s'.group = s.group ∧ s'.disk = s.disk := by
  have freed : blkMapFreeTillCur env s = some { s with part := { s.part with
      cursor := .on [] cur after
      mlookups := mapLookupFreeTillCur env s.part.mlookups cur (cur :: after) } } := by
    rw [blkMapFreeTillCur, seated.cursor]
  refine ⟨_, freed, clean.freeTillCur freed, ?_, ⟨rfl, seated.copy, seated.following⟩, rfl, rfl⟩
  intro map mem
  refine exact map ?_
  rw [seated.cursor]
  exact mem

/-- One block of eight megabytes. -/
def blockTape : State :=
  Outcome.state (tapePartitionWrite (syncEnv 4) false [⟨8 * 1024 * 1024, 0, 0⟩] smallTape) smallTape

end VirtualTape
