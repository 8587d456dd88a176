import VirtualTape.Core.Position
import VirtualTape.Core.Append

/-!
# What a read hands over

A read walks over blocks first, which decides its status and the new position, and starts reading their
data. A second walk over the cached maps then collects the pages of the blocks, with a count of bytes
of its own. Sectors may fail to be read and compressed blocks may fail to inflate.
-/

namespace VirtualTape

/-- What goes wrong during a read. -/
structure ReadFaults where
  /-- Sectors that cannot be read. -/
  sector : Nat → Nat → Bool
  /-- Blocks whose data does not inflate. -/
  inflate : BlkEntry → Bool

/-- Nothing goes wrong. -/
def ReadFaults.none : ReadFaults := ⟨fun _ _ => false, fun _ => false⟩

/-- What reading a disk yields: nothing of use where a sector cannot be read. -/
def Disk.failing (disk : Disk) (fails : Nat → Nat → Bool) : Disk :=
  { disk with sector := fun bid block =>
      if fails bid block then .junk 0 else disk.sector bid block }

/-- What the first walk of a read found. -/
structure ReadRun where
  /-- Status. -/
  status : Status
  /-- Number of whole blocks of the size asked for. -/
  dataBlocks : Nat
  /-- Size of a block of another size, zero if there was none. -/
  iliBlockSize : Nat
  /-- The new position in its map. -/
  position : Option Nat
  deriving DecidableEq, Repr

/-- The first walk of a read, from entry `index` of the current map on; `done` counts the blocks
passed. -/
def blkMapReadRun (blockSize : Nat) : Nat → Nat → Nat → State → Option (ReadRun × State)
  | 0, done, index, s => some (⟨.ok, done, 0, some index⟩, s)
  | count + 1, done, index, s =>
    match s.part.cursor with
    | .on _ cur _ =>
      match cur.entries[index]? with
      | none => none
      | some entry =>
        match blkEntryReadNext index s with
        | none => none
        | some (next, s) =>
          match readStop blockSize entry, next with
          | some status, _ =>
            some (⟨status, done, if entry.isDataBlock then entry.blockSize else 0, next⟩, s)
          | none, none => some (⟨if count = 0 then .ok else .eodReached, done + 1, 0, none⟩, s)
          | none, some index => blkMapReadRun blockSize count (done + 1) index s
    | _ => none

/-- Pages of a number of blocks. -/
def pgdataGetCount (blockSize numBlocks : Nat) : Nat :=
  (blockSize / lbaSize + if blockSize % lbaSize = 0 then 0 else 1) * numBlocks

/-- Part of a block that is handed over. -/
structure Piece where
  /-- The sectors of the block, if they were read and inflated. -/
  data : Option (List Sector)
  /-- Bytes from the start of the block. -/
  bytes : Nat

/-- What a read hands over. -/
structure Transfer where
  /-- The pages, block by block; nothing if their number does not fit into its variable. -/
  pieces : Option (List Piece)
  /-- Bytes to transfer. -/
  dxferLen : Nat
  /-- Number of whole blocks of the size asked for. -/
  doneBlocks : Nat
  /-- Size of a block of another size, zero if there was none. -/
  iliBlockSize : Nat

/-- Nothing is handed over. -/
def Transfer.empty : Transfer := ⟨some [], 0, 0, 0⟩

/-- The first so many bytes of what is handed over. -/
def Piece.cut : Nat → List Piece → List Piece
  | _, [] => []
  | left, piece :: rest =>
    if left = 0 then []
    else { piece with bytes := min left piece.bytes } :: Piece.cut (left - piece.bytes) rest

/-- The data an initiator gets. -/
def Transfer.delivered (transfer : Transfer) : Option (List Piece) :=
  transfer.pieces.map (Piece.cut transfer.dxferLen)

/-- The sectors of a block. -/
def BlkEntry.sectors (group : Bdevgroup) (disk : Disk) (entry : BlkEntry) : Option (List Sector) :=
  (bdevFind group entry.bid).map fun bint =>
    (List.range (bint.blocks entry.writeSize)).map fun index =>
      disk.sector entry.bid (entry.bStart + index)

/-- Is a sector of a block among those that cannot be read? -/
def BlkEntry.fails (group : Bdevgroup) (faults : ReadFaults) (entry : BlkEntry) : Bool :=
  (bdevFind group entry.bid).any fun bint =>
    (List.range (bint.blocks entry.writeSize)).any fun index =>
      faults.sector entry.bid (entry.bStart + index)

/-- The data of a block as it is handed over. Neither a failed read nor a failed inflation is noticed. -/
def blkEntryUncompress (group : Bdevgroup) (disk : Disk) (faults : ReadFaults) (entry : BlkEntry) :
    Option (List Sector) :=
  if entry.fails group faults || (entry.compSize != 0 && faults.inflate entry) then none
  else entry.sectors group disk

/-- The cached entries from entry `index` of map number `start` on, up to the position. -/
def Cursor.walked (start index : Nat) : Cursor → List BlkEntry
  | .on before cur after =>
    let last :=
      match cur.cEntry with
      | some position => cur.entries.take position
      | none => cur.entries ++ after.flatMap BlkMap.entries
    ((before.drop start).flatMap BlkMap.entries ++ last).drop index
  | _ => []

/-- A 32 bit signed variable. -/
def toInt32 (value : Int) : Int := Int.bmod value (2 ^ 32)

/-- Collect the pages of blocks until `todo` bytes are reached or the `room` for pages is used up. -/
def entryPglistMap (group : Bdevgroup) (disk : Disk) (faults : ReadFaults) :
    List BlkEntry → Int → Nat → List Piece
  | [], _, _ => []
  | entry :: rest, todo, room =>
    if !entry.isDataBlock then []
    else
      let pages := min (pgdataGetCount entry.blockSize 1) room
      let piece : Piece :=
        ⟨blkEntryUncompress group disk faults entry, min entry.blockSize (pages * lbaSize)⟩
      let todo := toInt32 (todo - entry.blockSize)
      if pages = room ∨ todo ≤ 0 then [piece]
      else piece :: entryPglistMap group disk faults rest todo (room - pages)

/-- Bytes a read transfers. -/
def ReadRun.readSize (run : ReadRun) (fixed : Bool) (blockSize numBlocks : Nat) : Nat :=
  if run.status = .ok then numBlocks * blockSize % 2 ^ 32
  else if fixed then run.dataBlocks * blockSize % 2 ^ 32
  else if run.iliBlockSize > blockSize then blockSize
  else run.iliBlockSize

/-- The second walk of a read. -/
def readTransfer (faults : ReadFaults) (fixed : Bool) (blockSize numBlocks start index : Nat)
    (run : ReadRun) (s : State) : Transfer :=
  let readSize := run.readSize fixed blockSize numBlocks
  let pieces :=
    if readSize = 0 then some []
    else if pgdataGetCount blockSize numBlocks < 2 ^ 31 then
      some (entryPglistMap s.group s.disk faults (s.part.cursor.walked start index) (toInt32 readSize)
        (pgdataGetCount blockSize numBlocks))
    else none
  ⟨pieces, readSize, run.dataBlocks, run.iliBlockSize⟩

/-- Number of cached maps in front of the current one. -/
def Cursor.mapsBefore : Cursor → Nat
  | .on before _ _ => before.length
  | _ => 0

/-- Read blocks at the position, from a disk. -/
def blkMapReadOn (env : Env) (faults : ReadFaults) (fixed : Bool) (blockSize numBlocks : Nat)
    (s : State) : Option (Status × Transfer × State) :=
  match s.part.cursor with
  | .null => some (.eodReached, .empty, s)
  | _ =>
    match blkMapFreeTillCur env s with
    | none => none
    | some s =>
      match readStart env.fuel s with
      | none => none
      | some (status, none, s) => some (status, .empty, s)
      | some (_, some index, s) =>
        let start := s.part.cursor.mapsBefore
        match blkMapReadRun blockSize numBlocks 0 index s with
        | none => none
        | some (run, s) =>
          let s := s.modifyCur fun map => { map with cEntry := run.position }
          let transfer := readTransfer faults fixed blockSize numBlocks start index run s
          if env.readAhead then (blkMapsReadahead s).map fun s => (run.status, transfer, s)
          else some (run.status, transfer, s)

/-- Read blocks at the position while reads may fail. -/
def blkMapReadData (env : Env) (faults : ReadFaults) (fixed : Bool) (blockSize numBlocks : Nat)
    (s : State) : Option (Status × Transfer × State) :=
  (blkMapReadOn env faults fixed blockSize numBlocks
    { s with disk := s.disk.failing faults.sector }).map
      fun (status, transfer, after) => (status, transfer, { after with disk := s.disk })

end VirtualTape
