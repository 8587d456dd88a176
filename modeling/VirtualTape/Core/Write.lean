import VirtualTape.Core.BlkMap

/-!
# Writing

New objects are appended to the current map and to new maps, which join the cached lists at once
but are entered into their lookups only by a flush. A flush visits the cached maps from first to
last: it hands data and then the map's page to the disk and, when the page is on disk, enters a new
map into its lookup. After that it visits the cached lookups from last to first, hands changed ones
to the disk and links new ones to their predecessors. A flush that does not wait passes over what
is not on disk yet.
-/

namespace VirtualTape

/-! ## Flushing -/

/-- What a flush works on besides the map at hand. -/
structure FlushState where
  /-- The disk contents. -/
  disk : Disk
  /-- The cached lookups. -/
  mlookups : List MapLookup

/-- What becomes of a map that a flush visits. -/
inductive Visit where
  /-- Its data is not on disk; the flush does not go further. -/
  | stop (map : BlkMap)
  /-- It stays cached. -/
  | keep (map : BlkMap)
  /-- It is dropped from the cache. -/
  | drop

/-- First half of a visit: data and page are handed to the disk. -/
def flushMapSubmit (group : Bdevgroup) (flush : FlushState) (map : BlkMap) : FlushState × BlkMap :=
  let (disk, map) := blkMapSetupWrites group flush.disk map
  let (disk, map) := blkMapFlushMeta group disk map
  ({ flush with disk := disk }, map)

/-- A map that something refers to, or that is the current one, stays cached. -/
def blkMapRemove (held isCur : Bool) (map : BlkMap) : Visit :=
  if held || isCur then .keep map else .drop

/-- Enter a new map whose page is on disk into its lookup. -/
def flushMapEnter (flush : FlushState) (map : BlkMap) : Option (FlushState × BlkMap) :=
  match (findLookup flush.mlookups map.mlookupBid map.mlookupBStart).bind
      (mapLookupAddMap · map) with
  | none => none
  | some (mlookup, map) =>
    some ({ flush with
        mlookups := modifyLookup flush.mlookups map.mlookupBid map.mlookupBStart
          fun _ => mlookup },
      { map with isNew := false })

/-- Second half of a visit, after the page was handed over: a map whose page is still under way is
passed over, a new one is entered into its lookup. -/
def flushMapReap (held isCur : Bool) (flush : FlushState) (map : BlkMap) :
    Option (FlushState × Visit) :=
  if map.dirty.isSome then some (flush, .keep map)
  else if !map.isNew then some (flush, blkMapRemove held isCur map)
  else (flushMapEnter flush map).map fun (flush, map) => (flush, blkMapRemove held isCur map)

/-- Visit one map. Without waiting, the current map is passed over and the environment decides what
is on disk. -/
def flushMap (group : Bdevgroup) (env : Env) (wait isCur : Bool) (flush : FlushState)
    (map : BlkMap) : Option (FlushState × Visit) :=
  if !wait && isCur then some (flush, .keep map)
  else if !wait && !env.dataDone map.lIdsStart then
    let (disk, map) := blkMapSetupWrites group flush.disk map
    some ({ flush with disk := disk }, .stop map)
  else
    let (flush, map) := flushMapSubmit group flush map
    let (disk, map) :=
      if wait || env.metaDone map.lIdsStart then completeMap group flush.disk map
      else (flush.disk, map)
    flushMapReap (env.mapHeld map.lIdsStart) isCur { flush with disk := disk } map

/-- Visit maps that are not the current one. Yields the maps that stay cached and whether the flush
goes on behind them. -/
def flushMaps (group : Bdevgroup) (env : Env) (wait : Bool) :
    FlushState → List BlkMap → Option (FlushState × List BlkMap × Bool)
  | flush, [] => some (flush, [], true)
  | flush, map :: rest =>
    match flushMap group env wait false flush map with
    | none => none
    | some (flush, .stop map) => some (flush, map :: rest, false)
    | some (flush, .drop) => flushMaps group env wait flush rest
    | some (flush, .keep map) =>
      (flushMaps group env wait flush rest).map fun (flush, rest, onward) =>
        (flush, map :: rest, onward)

/-- Visit the current map. -/
def flushCur (group : Bdevgroup) (env : Env) (wait : Bool) (flush : FlushState) (cur : BlkMap) :
    Option (FlushState × BlkMap × Bool) :=
  match flushMap group env wait true flush cur with
  | none => none
  | some (flush, .stop cur) => some (flush, cur, false)
  | some (flush, .keep cur) => some (flush, cur, true)
  | some (_, .drop) => none

/-- Visit the cached maps in list order. -/
def flushCursor (group : Bdevgroup) (env : Env) (wait : Bool) (flush : FlushState) :
    Cursor → Option (FlushState × Cursor)
  | .null => some (flush, .null)
  | .loose maps cur =>
    (flushMaps group env wait flush maps).map fun (flush, maps, _) => (flush, .loose maps cur)
  | .dangling maps =>
    (flushMaps group env wait flush maps).map fun (flush, maps, _) => (flush, .dangling maps)
  | .on before cur after =>
    match flushMaps group env wait flush before with
    | none => none
    | some (flush, before, false) => some (flush, .on before cur after)
    | some (flush, before, true) =>
      match flushCur group env wait flush cur with
      | none => none
      | some (flush, cur, false) => some (flush, .on before cur after)
      | some (flush, cur, true) =>
        (flushMaps group env wait flush after).map fun (flush, after, _) =>
          (flush, .on before cur after)

/-- Drop a lookup from the cache if nothing refers to it. -/
def keptLookup (env : Env) (maps : List BlkMap) (mlookup : MapLookup) : List MapLookup :=
  if mapLookupKept env maps mlookup then [mlookup] else []

/-- Hand one changed lookup to the disk, waiting for it if it is new or the flush waits. -/
def flushLookupWrite (group : Bdevgroup) (env : Env) (wait : Bool) (disk : Disk)
    (mlookup : MapLookup) : Disk × MapLookup :=
  let (disk, mlookup) := mapLookupFlushMeta group disk mlookup
  if wait || mlookup.isNew || env.lookupDone mlookup.lIdsStart then
    completeLookup group disk mlookup
  else (disk, mlookup)

/-- A lookup whose successor was just linked to it. -/
def linkedTo (successor : Option MapLookup) (mlookup : MapLookup) : MapLookup :=
  match successor with
  | none => mlookup
  | some next => (mapLookupLink mlookup next).1

/-- A new lookup that is on disk, linked to its predecessor if there is one. -/
def linkNew (predecessor : Option MapLookup) (mlookup : MapLookup) : MapLookup :=
  match predecessor with
  | none => { mlookup with isNew := false }
  | some last => { (mapLookupLink last mlookup).2 with isNew := false }

/-- A visit of the cached lookups from last to first, as far as it got. -/
structure LookupPass where
  /-- The disk contents. -/
  disk : Disk
  /-- The lookups that stay cached, in list order. -/
  kept : List MapLookup
  /-- The lookup just visited, if it was linked behind the one in front of it. -/
  successor : Option MapLookup
  /-- The visit met a new lookup that no map was entered into and does not go further. -/
  stopped : Bool

/-- Visit one lookup after those behind it. The write of an unchanged lookup that is still under
way is taken to end with a flush that waits. -/
def flushLookup (group : Bdevgroup) (env : Env) (wait : Bool) (maps : List BlkMap)
    (predecessor : Option MapLookup) (listed : MapLookup) (behind : LookupPass) : LookupPass :=
  if behind.stopped then { behind with kept := listed :: behind.kept }
  else
    let mlookup := linkedTo behind.successor listed
    if !mlookup.ioPending then
      if mlookup.isNew then
        ⟨behind.disk, mlookup :: behind.kept, none, true⟩
      else
        let (disk, mlookup) :=
          if wait then completeLookup group behind.disk mlookup else (behind.disk, mlookup)
        ⟨disk, keptLookup env maps mlookup ++ behind.kept, none, false⟩
    else
      let (disk, mlookup) := flushLookupWrite group env wait behind.disk mlookup
      if mlookup.isNew && mlookup.mapNrs != 0 then
        let mlookup := linkNew predecessor mlookup
        ⟨disk, keptLookup env maps mlookup ++ behind.kept, some mlookup, false⟩
      else ⟨disk, keptLookup env maps mlookup ++ behind.kept, none, false⟩

/-- Visit the cached lookups from last to first; `predecessor` is the one in front of them. -/
def flushLookups (group : Bdevgroup) (env : Env) (wait : Bool) (maps : List BlkMap) (disk : Disk) :
    Option MapLookup → List MapLookup → LookupPass
  | _, [] => ⟨disk, [], none, false⟩
  | predecessor, listed :: rest =>
    flushLookup group env wait maps predecessor listed
      (flushLookups group env wait maps disk (some listed) rest)

/-- Flush the cached maps and lookups. -/
def flushPass (env : Env) (wait : Bool) (s : State) : Option State :=
  match flushCursor s.group env wait ⟨s.disk, s.part.mlookups⟩ s.part.cursor with
  | none => none
  | some (flush, cursor) =>
    let pass := flushLookups s.group env wait cursor.live flush.disk none flush.mlookups
    some { s with
      disk := pass.disk
      part := { s.part with cursor := cursor, mlookups := pass.kept } }

/-- Flush and wait, if the last transfer was a write. -/
def tapePartitionFlushWrites (env : Env) (s : State) : Option State :=
  if !s.part.dirWrite then some s
  else (flushPass env true s).map fun s => { s with part := { s.part with dirWrite := false } }

/-- Before a write: drop what was cached for reading, unless the last transfer was a write. -/
def tapePartitionPreWrite (env : Env) (s : State) : Option State :=
  if s.part.dirWrite then some s else tapePartitionFlushReads env s

/-- After a write. -/
def tapePartitionPostWrite (s : State) : State := { s with part := { s.part with dirWrite := true } }

/-- Before a positioning command. -/
def tapePartitionPreSpace (env : Env) (s : State) : Option State :=
  (tapePartitionFlushWrites env s).map fun s => { s with part := { s.part with dirRead := false } }

end VirtualTape
