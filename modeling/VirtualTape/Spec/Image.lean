import VirtualTape.Verif.Pool
import VirtualTape.Verif.Codec

/-!
# Tape images

An image says what the index of a tape holds, without saying where it is held: a list of lookups,
each a list of maps, each a list of objects. `Image.objects` is the recorded sequence. A page holds
a part of an image if reading it back yields that part; `Stored` says so for all pages of an image
at once.
-/

namespace VirtualTape

/-- A map, as its page and its slot describe it. -/
structure MapImage where
  /-- Disk of the page. -/
  bid : Nat
  /-- First sector of the page. -/
  bStart : Nat
  /-- Meta segment of the page. -/
  segmentId : Nat
  /-- Logical id of the first object. -/
  lIdsStart : Nat
  /-- Number of filemarks. -/
  fIds : Nat
  /-- Number of setmarks. -/
  sIds : Nat
  /-- The objects as they are read back. -/
  entries : List BlkEntry
  deriving DecidableEq

/-- A lookup and its maps. -/
structure LookupImage where
  /-- Disk of the page. -/
  bid : Nat
  /-- First sector of the page. -/
  bStart : Nat
  /-- Meta segment of the page. -/
  segmentId : Nat
  /-- Logical id of the first object. -/
  lIdsStart : Nat
  /-- Filemarks in front of the first object. -/
  fIdsStart : Nat
  /-- Setmarks in front of the first object. -/
  sIdsStart : Nat
  /-- The maps. -/
  maps : List MapImage
  deriving DecidableEq

/-- The lookups of a tape in chain order. -/
abbrev Image := List LookupImage

/-- The slot that describes a map. -/
def MapImage.slot (map : MapImage) : MapLookupEntry :=
  ⟨mentryLidInfo map.lIdsStart map.fIds map.sIds, setBlock map.bStart map.bid⟩

/-- The packed address of a lookup. -/
def LookupImage.word (mlookup : LookupImage) : Nat := setBlock mlookup.bStart mlookup.bid

namespace Image

/-- All maps in order. -/
def maps (image : Image) : List MapImage := image.flatMap LookupImage.maps

/-- All objects in order. -/
def objects (image : Image) : List BlkEntry := image.maps.flatMap MapImage.entries

/-- The packed address of a lookup by its place in the chain, zero behind the end. -/
def wordAt (image : Image) (ordinal : Nat) : Nat := ((image[ordinal]?).map LookupImage.word).getD 0

/-- The packed address of the lookup in front of one, zero for the first. -/
def prevWord (image : Image) (ordinal : Nat) : Nat :=
  if ordinal = 0 then 0 else image.wordAt (ordinal - 1)

end Image

/-! ## Places in an image -/

/-- A lookup of an image with its place in the chain and the number of maps in front of it. -/
structure Link where
  /-- Place in the chain. -/
  ordinal : Nat
  /-- Number of maps in front. -/
  start : Nat
  /-- The lookup. -/
  img : LookupImage

/-- A map of an image with its place in its lookup and in the whole image. -/
structure Place where
  /-- Disk of the lookup's page. -/
  mlookupBid : Nat
  /-- First sector of the lookup's page. -/
  mlookupBStart : Nat
  /-- Slot in the lookup. -/
  slot : Nat
  /-- Number of maps in front. -/
  index : Nat
  /-- The map. -/
  img : MapImage

/-- The lookups of a part of the chain with their places. -/
def linksFrom : Nat → Nat → List LookupImage → List Link
  | _, _, [] => []
  | ordinal, start, mlookup :: rest =>
    ⟨ordinal, start, mlookup⟩ :: linksFrom (ordinal + 1) (start + mlookup.maps.length) rest

/-- The maps of a lookup with their places. -/
def Link.places (link : Link) : List Place :=
  link.img.maps.mapIdx fun slot map =>
    ⟨link.img.bid, link.img.bStart, slot, link.start + slot, map⟩

/-- The lookups with their places. -/
def Image.links (image : Image) : List Link := linksFrom 0 0 image

/-- The maps with their places. -/
def Image.places (image : Image) : List Place := image.links.flatMap Link.places

/-! ## Pages of an image -/

/-- A page describes the first `count` maps of a lookup, followed by `next`. The address of the
preceding lookup is either right or missing. -/
structure LookupPage (raw : RawMapLookup) (mlookup : LookupImage) (count next prev : Nat) : Prop where
  /-- The checksum holds. -/
  csum : raw.csum = lookupCsum raw.entries
  /-- The maps are counted. -/
  mapNrs : raw.mapNrs = count
  /-- The successor is linked. -/
  nextBlock : raw.nextBlock = next
  /-- The predecessor is linked or not. -/
  prevBlock : raw.prevBlock = 0 ∨ raw.prevBlock = prev
  /-- The first logical id. -/
  lIdsStart : raw.lIdsStart = mlookup.lIdsStart
  /-- The filemarks in front. -/
  fIdsStart : raw.fIdsStart = mlookup.fIdsStart
  /-- The setmarks in front. -/
  sIdsStart : raw.sIdsStart = mlookup.sIdsStart
  /-- The slots describe the maps. -/
  slots : ∀ index map, mlookup.maps[index]? = some map → index < count →
    raw.entries index = map.slot

/-- A page holds the objects of a map. -/
structure MapPage (raw : RawBlkMap) (map : MapImage) : Prop where
  /-- The checksum holds. -/
  csum : raw.csum = mapCsum raw.entries
  /-- The meta segment. -/
  segmentId : raw.segmentId = map.segmentId
  /-- The objects are read back. -/
  entries : rawEntries map.lIdsStart raw = map.entries

/-- The disk holds a map. -/
def MapStored (shift : Nat) (disk : Disk) (map : MapImage) : Prop :=
  ∃ raw, disk.readPage map.bid map.bStart (pageBlocks shift) = .page (.map raw) ∧ MapPage raw map

/-- The disk holds a lookup with the first `count` of its maps. -/
def LookupStored (shift : Nat) (disk : Disk) (mlookup : LookupImage) (count next prev : Nat) :
    Prop :=
  ∃ raw, disk.readPage mlookup.bid mlookup.bStart (pageBlocks shift) = .page (.lookup raw) ∧
    LookupPage raw mlookup count next prev

/-! ## Well-formed images -/

/-- Successive maps count their objects from a logical id on. -/
def Consecutive : Nat → List MapImage → Prop
  | _, [] => True
  | lid, map :: rest =>
    map.lIdsStart = lid ∧ map.entries.map BlkEntry.lidStart = List.range' lid map.entries.length ∧
      Consecutive (lid + map.entries.length) rest

/-- A map keeps to the sizes of its page and its slot. -/
structure MapImage.Sized (map : MapImage) : Prop where
  /-- The objects fit into a page. -/
  length : map.entries.length ≤ blkMaxEntries
  /-- The filemarks fit into a slot. -/
  filemarks : map.fIds ≤ maxFileMarksPerMap
  /-- The setmarks fit into a slot. -/
  setmarks : map.sIds ≤ maxSetMarksPerMap

/-- A lookup keeps to the size of its page. -/
structure LookupImage.Sized (mlookup : LookupImage) : Prop where
  /-- A lookup has a map. -/
  nonempty : mlookup.maps ≠ []
  /-- The maps fit into a page. -/
  length : mlookup.maps.length < nrMapDataEntries
  /-- The lookup starts where its first map starts. -/
  lIdsStart : (mlookup.maps.head?).map MapImage.lIdsStart = some mlookup.lIdsStart

/-- An image keeps to the sizes of its pages and counts its objects from zero on. -/
structure Image.Formed (image : Image) : Prop where
  /-- The lookups keep to their size. -/
  lookups : ∀ mlookup ∈ image, mlookup.Sized
  /-- The maps keep to their sizes. -/
  maps : ∀ map ∈ image.maps, map.Sized
  /-- The objects are counted from zero on. -/
  consecutive : Consecutive 0 image.maps

/-- Every map of an image has an object. -/
def Image.Filled (image : Image) : Prop := ∀ map ∈ image.maps, map.entries ≠ []

/-- The marks of a map are counted. -/
structure MapImage.Counted (map : MapImage) : Prop where
  /-- The filemarks. -/
  filemarks : map.fIds = (map.entries.filter BlkEntry.isFilemark).length
  /-- The setmarks. -/
  setmarks : map.sIds = (map.entries.filter BlkEntry.isSetmark).length

/-- Filemarks of the maps of a lookup. -/
def LookupImage.filemarks (mlookup : LookupImage) : Nat := (mlookup.maps.map MapImage.fIds).sum

/-- Setmarks of the maps of a lookup. -/
def LookupImage.setmarks (mlookup : LookupImage) : Nat := (mlookup.maps.map MapImage.sIds).sum

/-- Successive lookups count the marks in front of them from given numbers on. -/
def TalliedFrom : Nat → Nat → List LookupImage → Prop
  | _, _, [] => True
  | filemarks, setmarks, mlookup :: rest =>
    mlookup.fIdsStart = filemarks ∧ mlookup.sIdsStart = setmarks ∧
      TalliedFrom (filemarks + mlookup.filemarks) (setmarks + mlookup.setmarks) rest

/-- The lookups count the marks in front of them. -/
def Image.Tallied (image : Image) : Prop := TalliedFrom 0 0 image

end VirtualTape
