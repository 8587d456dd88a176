import VirtualTape.Verif.ReadPosition

/-!
# Where REWIND leaves a tape

REWIND looks at the front of the list of cached maps. If the map in slot 0 of the first lookup is
there, it frees every map behind it and positions that map, but it does not make it the current map.
So the pointer to the current map is right afterwards only if it pointed to the front of the list
before. In all other cases the map in slot 0 is loaded and becomes the current one. A map that is
added by a later command may have taken slot 0; then REWIND ends at the first object of that map.
-/

namespace VirtualTape

variable {tally : Prop} {origin s s' ready : State} {image : Image} {mlookup : MapLookup}
  {map : BlkMap} {env : Env}

/-- The current map is on the list, it is the first map of the tape, and the position is in front of
its first object, which is object 0. -/
def State.AtBeginning (s : State) : Prop :=
  ∃ mlookup before cur after, s.part.mlookups.head? = some mlookup ∧
    s.part.cursor = .on before cur after ∧ cur.isAt (mlookup.entries 0).block = true ∧
    cur.cEntry = firstEntry cur.entries ∧ cur.lIdsStart = 0

/-- The current map is at the front of the list, and its first object is object 0. -/
def Cursor.frontIsCurrent : Cursor → Bool
  | .on [] cur _ => cur.lIdsStart == 0
  | _ => false

/-- Is the map at an address at the front of the list? -/
def Cursor.frontIsAt (cursor : Cursor) (block : Nat) : Bool :=
  cursor.maps.head?.any (·.isAt block)

/-! ## The two ways to rewind -/

/-- A map that was loaded is the one its slot describes, and is positioned in front of its first
entry. -/
theorem blkMapLoad_bop {group : Bdevgroup} {disk : Disk} {slot : Nat}
    (loaded : blkMapLoad group disk mlookup slot false = some map) :
    map.isAt (mlookup.entries slot).block = true ∧ map.cEntry = firstEntry map.entries ∧
      map.lIdsStart = mentryLidStart (mlookup.entries slot) := by
  simp only [blkMapLoad] at loaded
  split at loaded
  · exact absurd loaded (by simp)
  · split at loaded
    · split at loaded
      · obtain rfl := Option.some.inj loaded
        simp [BlkMap.isAt, blkMapOfRaw]
      · exact absurd loaded (by simp)
    · exact absurd loaded (by simp)

/-- Rewinding to the map at the front of the list leaves the current map on the list, at object 0,
exactly if that is the current map and starts with object 0. -/
theorem Cursor.rewindCached_on {cursor cursor' : Cursor} {block : Nat}
    (front : cursor.frontIsAt block = true) (done : cursor.rewindCached = some cursor') :
    (∃ before cur after, cursor' = .on before cur after ∧ cur.isAt block = true ∧
      cur.cEntry = firstEntry cur.entries ∧ cur.lIdsStart = 0) ↔ cursor.frontIsCurrent = true := by
  unfold Cursor.rewindCached at done
  split at done
  · rename_i cur after
    obtain rfl := Option.some.inj done
    have isAt : cur.positionBop.isAt block = true := by
      simpa [Cursor.frontIsAt, Cursor.maps, BlkMap.isAt, BlkMap.positionBop] using front
    rw [frontIsCurrent, beq_iff_eq]
    constructor
    · rintro ⟨_, _, _, same, -, -, starts⟩
      cases same
      exact starts
    · exact fun starts => ⟨[], cur.positionBop, [], rfl, isAt, rfl, starts⟩
  · obtain rfl := Option.some.inj done
    exact iff_of_false (by rintro ⟨_, _, _, other, -⟩; cases other) (by simp [frontIsCurrent])
  · obtain rfl := Option.some.inj done
    exact iff_of_false (by rintro ⟨_, _, _, other, -⟩; cases other) (by simp [frontIsCurrent])
  · obtain rfl := Option.some.inj done
    exact iff_of_false (by rintro ⟨_, _, _, other, -⟩; cases other) (by simp [frontIsCurrent])
  · exact absurd done (by simp)

/-- REWIND of a tape whose first map is at the front of the list. -/
theorem tapePartitionPositionBop_cached
    (flushed : tapePartitionFlushWrites env s = some ready)
    (first : ready.part.mlookups.head? = some mlookup) (used : (mlookup.entries 0).block ≠ 0)
    (front : ready.part.cursor.frontIsAt (mlookup.entries 0).block = true)
    (done : tapePartitionPositionBop env s = some (.ok, s')) :
    ∃ cursor, ready.part.cursor.rewindCached = some cursor ∧
      s'.part.mlookups = ready.part.mlookups ∧ s'.part.cursor = cursor := by
  unfold Cursor.frontIsAt at front
  simp only [tapePartitionPositionBop, flushed, first, if_neg used, front, if_true] at done
  obtain ⟨cursor, rewound, same⟩ := Option.map_eq_some_iff.1 done
  obtain rfl := (Prod.mk.inj same).2
  exact ⟨cursor, rewound, rfl, rfl⟩

/-- REWIND of a tape whose first map is not at the front of the list loads it. -/
theorem tapePartitionPositionBop_loaded
    (flushed : tapePartitionFlushWrites env s = some ready)
    (first : ready.part.mlookups.head? = some mlookup) (used : (mlookup.entries 0).block ≠ 0)
    (front : ready.part.cursor.frontIsAt (mlookup.entries 0).block = false)
    (done : tapePartitionPositionBop env s = some (.ok, s')) :
    s'.AtBeginning ↔ mentryLidStart (mlookup.entries 0) = 0 := by
  unfold Cursor.frontIsAt at front
  simp only [tapePartitionPositionBop, flushed, first, if_neg used, front, Bool.false_eq_true,
    if_false] at done
  split at done
  · exact absurd done (by simp)
  · rename_i map loaded
    obtain ⟨isFirst, position, starts⟩ := blkMapLoad_bop loaded
    obtain rfl := (Prod.mk.inj (Option.some.inj done)).2
    rw [← starts]
    constructor
    · rintro ⟨_, _, _, _, -, same, -, -, zero⟩
      cases same
      exact zero
    · exact fun zero => ⟨mlookup, _, map, [], first, rfl, isFirst, position, zero⟩

/-- REWIND of a tape that is not empty leaves it at its beginning exactly if, once pending writes are
flushed, the map at the front of the list is not the one in slot 0 and the slot is for the map that
starts with object 0, or it is the one in slot 0, is the current map and starts with object 0. -/
theorem tapePartitionPositionBop_iff
    (flushed : tapePartitionFlushWrites env s = some ready)
    (first : ready.part.mlookups.head? = some mlookup) (used : (mlookup.entries 0).block ≠ 0)
    (done : tapePartitionPositionBop env s = some (.ok, s')) :
    s'.AtBeginning ↔
      if ready.part.cursor.frontIsAt (mlookup.entries 0).block = true then
        ready.part.cursor.frontIsCurrent = true
      else mentryLidStart (mlookup.entries 0) = 0 := by
  cases front : ready.part.cursor.frontIsAt (mlookup.entries 0).block with
  | false =>
    rw [if_neg Bool.false_ne_true]
    exact tapePartitionPositionBop_loaded flushed first used front done
  | true =>
    obtain ⟨cursor, rewound, mlookups, isCursor⟩ :=
      tapePartitionPositionBop_cached flushed first used front done
    rw [if_pos rfl, ← Cursor.rewindCached_on front rewound]
    constructor
    · rintro ⟨other, before, cur, after, isFirst, onList, rest⟩
      obtain rfl := Option.some.inj (first.symm.trans (mlookups ▸ isFirst))
      exact ⟨before, cur, after, isCursor ▸ onList, rest⟩
    · rintro ⟨before, cur, after, onList, rest⟩
      exact ⟨mlookup, before, cur, after, mlookups ▸ first, isCursor.trans onList, rest⟩

/-- REWIND of the small tape. -/
theorem tapePartitionPositionBop_small :
    ∃ s, tapePartitionPositionBop (syncEnv 4) sampleTape = some (.ok, s) ∧ s.AtBeginning := by
  have ended := Outcome.eq_some
    (show (tapePartitionPositionBop (syncEnv 4) sampleTape).map Prod.fst = some .ok by
      decide +kernel) sampleTape
  refine ⟨_, ended, ?_⟩
  exact (tapePartitionPositionBop_iff (tapePartitionFlushWrites_clean sampleTape_clean.dirWrite) rfl
    (by decide +kernel) ended).2 (by decide +kernel)

/-- A tape with fifteen filemarks. -/
def fullMapTape : State :=
  Outcome.state (tapePartitionWriteFilemarks (syncEnv 4) false 15 smallTape) smallTape

/-- The same with one more. -/
def nextMapTape : State :=
  Outcome.state (tapePartitionWriteFilemarks (syncEnv 4) false 1 fullMapTape) fullMapTape

/-- A READ that goes on to the second map leaves the first one cached in front of it, and REWIND then
frees the current map. And a filemark that is written by a command of its own into a second map takes
slot 0, so that REWIND ends at object 15. -/
theorem tapePartitionPositionBop_after_read :
    (∃ s, tapePartitionPositionBop (syncEnv 4) readOnTape = some (.ok, s) ∧
      s.part.cursor.isDangling = true ∧ ¬ s.AtBeginning) ∧
    ∃ written more s, tapePartitionWriteFilemarks (syncEnv 4) false 15 smallTape =
        some (.ok, written) ∧
      tapePartitionWriteFilemarks (syncEnv 4) false 1 written = some (.ok, more) ∧
      tapePartitionPositionBop (syncEnv 4) more = some (.ok, s) ∧
      s.part.cursor.cur?.map blkMapCurrentLid = some 15 ∧ ¬ s.AtBeginning := by
  constructor
  · have ended := Outcome.eq_some
      (show (tapePartitionPositionBop (syncEnv 4) readOnTape).map Prod.fst = some .ok by
        decide +kernel) readOnTape
    have dangles : (Outcome.state (tapePartitionPositionBop (syncEnv 4) readOnTape)
        readOnTape).part.cursor.isDangling = true := by decide +kernel
    refine ⟨_, ended, dangles, ?_⟩
    rintro ⟨_, before, cur, after, -, onList, -⟩
    rw [onList] at dangles
    exact absurd dangles (by simp [Cursor.isDangling])
  · have starts : (Outcome.state (tapePartitionPositionBop (syncEnv 4) nextMapTape)
        nextMapTape).part.cursor.cur?.map BlkMap.lIdsStart = some 15 := by decide +kernel
    refine ⟨fullMapTape, nextMapTape, _, Outcome.eq_some (by decide +kernel) smallTape,
      Outcome.eq_some (by decide +kernel) fullMapTape,
      Outcome.eq_some (show (tapePartitionPositionBop (syncEnv 4) nextMapTape).map Prod.fst = some .ok by
        decide +kernel) nextMapTape, by decide +kernel, ?_⟩
    rintro ⟨_, before, cur, after, -, onList, -, -, zero⟩
    rw [onList] at starts
    simp only [Cursor.cur?, Option.map_some, zero] at starts
    exact absurd starts (by decide)

end VirtualTape
