import VirtualTape.Lib.BitField

/-!
# On-disk records

The constants, packed words and page layouts of the tape format: block addresses, `blk_map`
entries, `map_lookup` entries, the two index pages and their checksum. Pages are indexed by slot
number, so an unused slot is the zero record.
-/

namespace VirtualTape

/-- Size in bytes of an index page. -/
def lbaSize : Nat := 4096

/-- Binary logarithm of the size of an allocation unit. -/
def bintUnitShift : Nat := 26

/-- Size in bytes of an allocation unit. -/
def bintUnitSize : Nat := 2 ^ bintUnitShift

/-- Units at the start of every disk that are never handed out. -/
def bintReservedSegments : Nat := 4

/-- Entries of a `blk_map` page: 16 bytes each, after a 16 byte header is set aside. -/
def blkMaxEntries : Nat := (lbaSize - 16) / 16

/-- Slots of a `map_lookup` page: 16 bytes each, after a 40 byte header is set aside. -/
def nrMapDataEntries : Nat := (lbaSize - 40) / 16

/-- Segment slots of a segment map page: 8 bytes each, after an 8 byte header is set aside. -/
def tsegmentMapMaxSegments : Nat := (lbaSize - 8) / 8

/-- Filemarks one `blk_map` may hold. -/
def maxFileMarksPerMap : Nat := 15

/-- Setmarks one `blk_map` may hold. -/
def maxSetMarksPerMap : Nat := 15

/-- Maps fetched at once when reading runs off the end of the loaded ones. -/
def minMapReadAhead : Nat := 4

/-! ## Block addresses -/

/-- Pack a disk id and a sector number; a sector number is not masked to its 38 bits. -/
def setBlock (blocknr bid : Nat) : Nat := BitField.insert 38 bid blocknr

/-- The sector number of a packed address. -/
def blockBlocknr (block : Nat) : Nat := BitField.extract 0 38 block

/-- The disk id of a packed address. -/
def blockBid (block : Nat) : Nat := BitField.extract 38 9 block

/-! ## Entries of a `blk_map` -/

/-- An entry as stored: a packed address and a packed word of sizes and type. -/
structure RawBlkEntry where
  /-- Packed address of the data. -/
  block : Nat
  /-- Segment id, type bit, block size and compressed size. -/
  bits : Nat
  deriving DecidableEq, Repr

/-- Segment id of an entry word. -/
def entrySegmentIdBits (bits : Nat) : Nat := BitField.extract 0 22 bits

/-- Type bit of an entry word: one for a data block, zero for a tape mark. -/
def entryBtype (bits : Nat) : Nat := BitField.extract 22 1 bits

/-- Block size of an entry word. -/
def entryEsize (bits : Nat) : Nat := BitField.extract 23 24 bits

/-- Compressed size of an entry word, in units of 512 bytes. -/
def entryCsize (bits : Nat) : Nat := BitField.extract 47 15 bits

/-- Replace the segment id of an entry word. -/
def setEntrySegmentId (bits newid : Nat) : Nat :=
  BitField.insert 0 newid (BitField.clearLow 22 bits)

/-- Or the type bit into an entry word. -/
def setEntryBtype (bits btype : Nat) : Nat := BitField.insert 22 btype bits

/-- Or a block size into an entry word. -/
def setEntryEsize (bits esize : Nat) : Nat := BitField.insert 23 esize bits

/-- Or a compressed size into an entry word. -/
def setEntryCsize (bits csize : Nat) : Nat := BitField.insert 47 csize bits

/-! ## Entries of a `map_lookup` -/

/-- A slot of a `map_lookup` page: mark counts and first logical id, and the map's address. -/
structure MapLookupEntry where
  /-- Setmark count, filemark count and first logical id. -/
  lIdsInfo : Nat
  /-- Packed address of the map's page. -/
  block : Nat
  deriving DecidableEq, Repr, Inhabited

/-- First logical id of a slot. -/
def mentryLidStart (entry : MapLookupEntry) : Nat := BitField.extract 0 56 entry.lIdsInfo

/-- Filemark count of a slot. -/
def mentryFilemarks (entry : MapLookupEntry) : Nat := BitField.extract 56 4 entry.lIdsInfo

/-- Setmark count of a slot. -/
def mentrySetmarks (entry : MapLookupEntry) : Nat := BitField.extract 60 4 entry.lIdsInfo

/-- The word of a slot, cut to the 64 bits it is stored in. -/
def mentryLidInfo (lstart fids sids : Nat) : Nat :=
  (BitField.insert 60 sids (BitField.insert 56 fids lstart)) % 2 ^ 64

/-! ## Pages -/

/-- The sum of the four 16 bit parts of a 64 bit word. -/
def halfWords (word : Nat) : Nat :=
  word % 2 ^ 16 + word / 2 ^ 16 % 2 ^ 16 + word / 2 ^ 32 % 2 ^ 16 + word / 2 ^ 48 % 2 ^ 16

/-- The complemented 16 bit sum of a page's words. -/
def netCalcCsum16 (words : List Nat) : Nat :=
  (2 ^ 16 - 1) - (words.map halfWords).sum % 2 ^ 16

/-- A `map_lookup` page: slots and header. -/
structure RawMapLookup where
  /-- Slots, zero where unused. -/
  entries : Nat → MapLookupEntry
  /-- Packed address of the following `map_lookup`, zero if there is none. -/
  nextBlock : Nat
  /-- Packed address of the preceding `map_lookup`, zero if there is none. -/
  prevBlock : Nat
  /-- Logical id of the first object. -/
  lIdsStart : Nat
  /-- Filemarks in front of the first object. -/
  fIdsStart : Nat
  /-- Setmarks in front of the first object. -/
  sIdsStart : Nat
  /-- Checksum over the slots. -/
  csum : Nat
  /-- Number of slots in use. -/
  mapNrs : Nat

/-- A `blk_map` page: entries and header. -/
structure RawBlkMap where
  /-- Entries, zero where unused. -/
  entries : Nat → RawBlkEntry
  /-- Meta segment the page lies in. -/
  segmentId : Nat
  /-- Checksum over the entries. -/
  csum : Nat
  /-- Number of entries in use. -/
  nrEntries : Nat

/-- Checksum over all slots of a `map_lookup` page. -/
def lookupCsum (entries : Nat → MapLookupEntry) : Nat :=
  netCalcCsum16 ((List.range nrMapDataEntries).flatMap fun slot =>
    [(entries slot).lIdsInfo, (entries slot).block])

/-- Checksum over all entries of a `blk_map` page. -/
def mapCsum (entries : Nat → RawBlkEntry) : Nat :=
  netCalcCsum16 ((List.range blkMaxEntries).flatMap fun slot =>
    [(entries slot).block, (entries slot).bits])

/-- An index page. -/
inductive Page where
  /-- A page of the map index. -/
  | lookup (raw : RawMapLookup)
  /-- A page of object entries. -/
  | map (raw : RawBlkMap)

end VirtualTape
