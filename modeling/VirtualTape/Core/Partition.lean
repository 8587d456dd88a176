import VirtualTape.Core.Disk

/-!
# The in-memory state of a partition

A recorded object is a `BlkEntry`: a data block, a filemark or a setmark. Up to 255 consecutive
objects make a `BlkMap`, and up to 252 consecutive maps are indexed by a `MapLookup`. A partition
keeps some maps and lookups in memory, a position, two write cursors and three flags.

The list of cached maps and the pointer into it are kept together in `Cursor`, so that every
pointer is either null, on the list, off the list, or explicitly dangling.
-/

namespace VirtualTape

/-- A recorded object. -/
structure BlkEntry where
  /-- Segment id, type bit, block size and compressed size. -/
  bits : Nat
  /-- First sector of the data. -/
  bStart : Nat
  /-- Disk of the data. -/
  bid : Nat
  /-- Logical id. -/
  lidStart : Nat
  /-- Compressed size in bytes, zero if the block is stored as it is. -/
  compSize : Nat
  /-- Block size in bytes. -/
  blockSize : Nat
  /-- The data of a block that was not handed to the disk yet. -/
  newData : Option Nat
  deriving DecidableEq, Repr

/-- A map of consecutive objects. -/
structure BlkMap where
  /-- Disk of the page. -/
  bid : Nat
  /-- First sector of the page. -/
  bStart : Nat
  /-- Meta segment of the page. -/
  segmentId : Nat
  /-- Number of filemarks. -/
  fIds : Nat
  /-- Number of setmarks. -/
  sIds : Nat
  /-- Logical id of the first object. -/
  lIdsStart : Nat
  /-- The objects; the id of an entry is its place in the list. -/
  entries : List BlkEntry
  /-- Disk of the page of the lookup that indexes the map. -/
  mlookupBid : Nat
  /-- First sector of the page of the lookup that indexes the map. -/
  mlookupBStart : Nat
  /-- Slot of the map in its lookup. -/
  mlookupEntryId : Nat
  /-- The object the tape is positioned in front of; `none` is the end of the map. -/
  cEntry : Option Nat
  /-- Not entered into the lookup yet. -/
  isNew : Bool
  /-- Changed since the page was last handed to the disk. -/
  ioPending : Bool
  /-- The page write that is under way. -/
  dirty : Option RawBlkMap

/-- A lookup of consecutive maps. -/
structure MapLookup where
  /-- Disk of the page. -/
  bid : Nat
  /-- First sector of the page. -/
  bStart : Nat
  /-- Number of maps entered. -/
  mapNrs : Nat
  /-- Number of maps that belong here but are not entered yet. -/
  pendingNewMaps : Nat
  /-- Packed address of the following lookup. -/
  nextBlock : Nat
  /-- Packed address of the preceding lookup. -/
  prevBlock : Nat
  /-- Logical id of the first object. -/
  lIdsStart : Nat
  /-- Filemarks in front of the first object. -/
  fIdsStart : Nat
  /-- Setmarks in front of the first object. -/
  sIdsStart : Nat
  /-- Filemarks of the maps of this lookup. -/
  fIds : Nat
  /-- Setmarks of the maps of this lookup. -/
  sIds : Nat
  /-- Slots of the page. -/
  entries : Nat → MapLookupEntry
  /-- Not linked to its predecessor yet. -/
  isNew : Bool
  /-- Changed since the page was last handed to the disk. -/
  ioPending : Bool
  /-- The page write that is under way. -/
  dirty : Option RawMapLookup

/-- The cached maps in list order, and the current map among them. -/
inductive Cursor where
  /-- No map is cached and there is no current map. -/
  | null
  /-- The current map is on the list. -/
  | on (before : List BlkMap) (cur : BlkMap) (after : List BlkMap)
  /-- The current map is loaded but not on the list. -/
  | loose (maps : List BlkMap) (cur : BlkMap)
  /-- The current map was freed. -/
  | dangling (maps : List BlkMap)

/-- A write cursor: the segment that is being filled and the next sector in it. -/
structure Tsegment where
  /-- First sector of the segment. -/
  bStart : Nat
  /-- Next sector to hand out. -/
  bCur : Nat
  /-- Sector behind the segment. -/
  bEnd : Nat
  /-- Number of the segment. -/
  segmentId : Nat
  /-- Disk of the segment. -/
  bint : Option Bdevint
  deriving DecidableEq, Repr

/-- The cursor before any segment was allocated. -/
def Tsegment.zero : Tsegment := ⟨0, 0, 0, 0, none⟩

/-- A partition of a tape. -/
structure Partition where
  /-- Format flag of the tape: its first meta segment shares the unit of the segment maps. -/
  v2 : Bool
  /-- Recorded objects may not be overwritten. -/
  worm : Bool
  /-- Capacity of the tape. -/
  tapeSize : Nat
  /-- Capacity of the partition. -/
  size : Nat
  /-- Bytes of allocated segments. -/
  used : Nat
  /-- The unit of the segment maps. -/
  tmaps : TmapsRef
  /-- Segment map pages of the meta segments. -/
  maxMetaTmaps : Nat
  /-- Segment map pages of the data segments. -/
  maxDataTmaps : Nat
  /-- Write cursor for index pages. -/
  msegment : Tsegment
  /-- Write cursor for data. -/
  dsegment : Tsegment
  /-- Cached lookups. -/
  mlookups : List MapLookup
  /-- Cached maps and current map. -/
  cursor : Cursor
  /-- The write cursors have to be computed from the position before the next write. -/
  lookupSegments : Bool
  /-- The last data transfer was a write. -/
  dirWrite : Bool
  /-- The last data transfer was a read. -/
  dirRead : Bool

/-- A partition together with its pool and the disk contents. -/
structure State where
  /-- The pool. -/
  group : Bdevgroup
  /-- The disk contents. -/
  disk : Disk
  /-- The partition. -/
  part : Partition

/-- What the environment decides while a command runs. Whether a write that is under way has
completed is asked by the first logical id of its map or lookup. -/
structure Env where
  /-- More data is cached than may be when a write command starts. -/
  cacheFull : Bool
  /-- Is the data of a map on disk when a background flush asks? -/
  dataDone : Nat → Bool
  /-- Is the page of a map on disk when a background flush asks? -/
  metaDone : Nat → Bool
  /-- Is the page of a lookup on disk when a background flush asks? -/
  lookupDone : Nat → Bool
  /-- Is a map still referenced by the completion of its last request? -/
  mapHeld : Nat → Bool
  /-- Is a lookup still referenced by the completion of its last request? -/
  lookupHeld : Nat → Bool
  /-- Does reading ahead run off the cached maps at the end of a read? -/
  readAhead : Bool
  /-- Bound on the lookups or maps that a search visits. -/
  fuel : Nat

/-- How a command ends. -/
inductive Status where
  /-- Success. -/
  | ok
  /-- End of data reached. -/
  | eodReached
  /-- Beginning of the partition reached. -/
  | bomReached
  /-- A filemark was met. -/
  | filemarkEncountered
  /-- A setmark was met. -/
  | setmarkEncountered
  /-- A block was shorter than requested. -/
  | underLength
  /-- A block was longer than requested. -/
  | overLength
  /-- The medium cannot be read or written as requested. -/
  | mediaError
  /-- An overwrite of a write-once tape was refused. -/
  | overwriteWormMedia
  /-- The write does not fit on the tape. -/
  | volumeOverflow
  deriving DecidableEq, Repr

/-! ## Entries -/

/-- Segment id of an entry. -/
def BlkEntry.segmentId (entry : BlkEntry) : Nat := entrySegmentIdBits entry.bits

/-- Is the entry a data block? -/
def BlkEntry.isDataBlock (entry : BlkEntry) : Bool := entryBtype entry.bits != 0

/-- Is the entry a filemark? -/
def BlkEntry.isFilemark (entry : BlkEntry) : Bool :=
  !entry.isDataBlock && entryCsize entry.bits == 0

/-- Is the entry a setmark? -/
def BlkEntry.isSetmark (entry : BlkEntry) : Bool :=
  !entry.isDataBlock && entryCsize entry.bits != 0

/-- Bytes an entry takes on disk, by its stored sizes. -/
def BlkEntry.diskSize (entry : BlkEntry) : Nat :=
  if !entry.isDataBlock then 0
  else if entryCsize entry.bits ≠ 0 then entryCsize entry.bits <<< 9
  else entryEsize entry.bits

/-- A compressed size in units of 512 bytes. -/
def compBlocks (compSize : Nat) : Nat :=
  (compSize >>> 9) + if compSize % 512 = 0 then 0 else 1

/-- The entry after its sizes were put into its word for writing. -/
def BlkEntry.sized (entry : BlkEntry) : BlkEntry :=
  { entry with
    bits := setEntryEsize (setEntryCsize entry.bits (compBlocks entry.compSize)) entry.blockSize }

/-- The entry as stored. -/
def BlkEntry.raw (entry : BlkEntry) : RawBlkEntry :=
  ⟨setBlock entry.bStart entry.bid, entry.sized.bits⟩

/-- The entry read back from its page. -/
def blkMapLoadEntry (lidStart : Nat) (raw : RawBlkEntry) : BlkEntry where
  bits := raw.bits
  bStart := blockBlocknr raw.block
  bid := blockBid raw.block
  lidStart := lidStart
  compSize := entryCsize raw.bits <<< 9
  blockSize := entryEsize raw.bits
  newData := none

/-! ## Cached maps -/

/-- The cached maps in list order. -/
def Cursor.maps : Cursor → List BlkMap
  | .null => []
  | .on before cur after => before ++ cur :: after
  | .loose maps _ => maps
  | .dangling maps => maps

/-- The current map; `none` if there is none or it was freed. -/
def Cursor.cur? : Cursor → Option BlkMap
  | .on _ cur _ => some cur
  | .loose _ cur => some cur
  | _ => none

/-- Change the current map. -/
def Cursor.modifyCur (cursor : Cursor) (change : BlkMap → BlkMap) : Cursor :=
  match cursor with
  | .on before cur after => .on before (change cur) after
  | .loose maps cur => .loose maps (change cur)
  | other => other

/-- Find a cached lookup by the address of its page. -/
def findLookup (mlookups : List MapLookup) (bid bStart : Nat) : Option MapLookup :=
  mlookups.find? fun mlookup => mlookup.bid == bid && mlookup.bStart == bStart

/-- The lookup of a map. -/
def Partition.lookupOf (part : Partition) (map : BlkMap) : Option MapLookup :=
  findLookup part.mlookups map.mlookupBid map.mlookupBStart

/-- Change the cached lookup at an address. -/
def modifyLookup (mlookups : List MapLookup) (bid bStart : Nat)
    (change : MapLookup → MapLookup) : List MapLookup :=
  mlookups.map fun mlookup =>
    if mlookup.bid == bid && mlookup.bStart == bStart then change mlookup else mlookup

/-- Change the lookup of a map. -/
def Partition.modifyLookupOf (part : Partition) (map : BlkMap)
    (change : MapLookup → MapLookup) : Partition :=
  { part with mlookups := modifyLookup part.mlookups map.mlookupBid map.mlookupBStart change }

end VirtualTape
