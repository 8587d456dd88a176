import VirtualTape.Core.Tape

/-!
# The recorded sequence

What a tape holds is what loading it and walking its index forward yields: the lookups linked by
their `nextBlock`, the slots in use of each, the entries in use of each map.
-/

namespace VirtualTape

/-- Load the maps of the first `count` slots of a lookup. -/
def walkSlots (group : Bdevgroup) (disk : Disk) (mlookup : MapLookup) : Nat → Option (List BlkMap)
  | 0 => some []
  | count + 1 =>
    match walkSlots group disk mlookup count, blkMapLoad group disk mlookup count false with
    | some maps, some map => some (maps ++ [map])
    | _, _ => none

/-- Load the maps of a lookup and of those behind it; `fuel` bounds the lookups. -/
def walkChain (group : Bdevgroup) (disk : Disk) : Nat → MapLookup → Option (List BlkMap)
  | 0, _ => none
  | fuel + 1, mlookup =>
    match walkSlots group disk mlookup mlookup.mapNrs with
    | none => none
    | some maps =>
      if mlookup.nextBlock = 0 then some maps
      else
        match mapLookupLoad group disk (blockBlocknr mlookup.nextBlock)
            (blockBid mlookup.nextBlock) with
        | none => none
        | some next => (walkChain group disk fuel next).map fun rest => maps ++ rest

/-- All maps of a loaded tape in order. -/
def forwardMaps (fuel : Nat) (s : State) : Option (List BlkMap) :=
  match s.part.mlookups.head? with
  | none => some []
  | some first => walkChain s.group s.disk fuel first

/-- The objects that loading a disk image and walking its index yields. -/
def recordedOn (fuel : Nat) (group : Bdevgroup) (disk : Disk) (info : PartitionInfo) :
    Option (List BlkEntry) :=
  match tapePartitionLoad group disk info with
  | none => none
  | some s => (forwardMaps fuel s).map fun maps => maps.flatMap BlkMap.entries

/-- An environment in which every write completes at once and nothing is held back. -/
def syncEnv (fuel : Nat) : Env where
  cacheFull := false
  dataDone := fun _ => true
  metaDone := fun _ => true
  lookupDone := fun _ => true
  mapHeld := fun _ => false
  lookupHeld := fun _ => false
  readAhead := false
  fuel := fuel

/-- The recorded sequence of a partition: its pending writes are flushed first. -/
def recorded (fuel : Nat) (s : State) : Option (List BlkEntry) :=
  match tapePartitionFlushWrites (syncEnv fuel) s with
  | none => none
  | some s => recordedOn fuel s.group s.disk s.part.info

/-! ## A small pool -/

/-- The state a command leaves behind; `start` stands for that of a command without an end. -/
def Outcome.state (outcome : Outcome) (start : State) : State :=
  match outcome with
  | some (_, s) => s
  | none => start

/-- A command that ends leaves its state behind. -/
theorem Outcome.eq_some {outcome : Outcome} {status : Status}
    (ended : outcome.map Prod.fst = some status) (start : State) :
    outcome = some (status, outcome.state start) := by
  obtain ⟨⟨other, s⟩, rfl, rfl⟩ := Option.map_eq_some_iff.1 ended
  rfl

/-- A pool of one disk with 60 free units and sectors of 512 bytes. -/
def smallPool : Bdevgroup :=
  ⟨[⟨1, 9, 64⟩], fun _ _ => false, fun _ => 60 * bintUnitSize, [1], none⟩

/-- A disk without anything that could be taken for an index page. -/
def blankDisk : Disk := ⟨fun _ _ => .junk 0, fun _ _ _ => none⟩

/-- The capacity of a tape in the small pool. -/
def smallSize : Nat := 10 * 2 ^ 30

/-- A new v2 tape in the small pool. -/
def smallTape : State :=
  (tapePartitionNew smallPool blankDisk true false smallSize smallSize).get (by decide)

end VirtualTape
