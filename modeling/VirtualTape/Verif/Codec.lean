import VirtualTape.Core.BlkMap

/-!
# Packed words are read back

Block addresses, slots of a lookup and entries of a map are packed into words without masking.
Within the widths of their fields they are read back as they were written. An entry that was read
back is in a normal form: packing it again and reading it back yields the same entry.
-/

namespace VirtualTape

variable {blocknr bid : Nat}

/-! ## Addresses -/

/-- A sector number that fits its field is read back. -/
theorem blockBlocknr_setBlock (fits : blocknr < 2 ^ 38) :
    blockBlocknr (setBlock blocknr bid) = blocknr := by
  rw [blockBlocknr, setBlock, BitField.extract_insert_above (by omega),
    BitField.extract_low_of_lt fits]

/-- A disk id is read back if the sector number stays below it. -/
theorem blockBid_setBlock (fits : blocknr < 2 ^ 38) (bidFits : bid < tlMaxDisks) :
    blockBid (setBlock blocknr bid) = bid := by
  have width : bid < 2 ^ 9 := by simpa [tlMaxDisks] using bidFits
  exact BitField.extract_insert width (BitField.extract_of_lt fits)

/-- The address of a sector other than the first is not zero. -/
theorem setBlock_ne_zero (positive : 0 < blocknr) : setBlock blocknr bid ≠ 0 :=
  BitField.insert_ne_zero_of_word (by omega)

/-- A sector number taken from an address fits its field. -/
theorem blockBlocknr_lt (block : Nat) : blockBlocknr block < 2 ^ 38 := BitField.extract_lt _ _ _

/-- A disk id taken from an address fits its field. -/
theorem blockBid_lt (block : Nat) : blockBid block < tlMaxDisks := BitField.extract_lt _ _ _

/-! ## Slots of a lookup -/

/-- The word of a slot within its widths is not cut. -/
theorem mentryLidInfo_eq {lstart fids sids : Nat} (lidFits : lstart < 2 ^ 56) (fFits : fids < 2 ^ 4)
    (sFits : sids < 2 ^ 4) :
    mentryLidInfo lstart fids sids = BitField.insert 60 sids (BitField.insert 56 fids lstart) := by
  refine Nat.mod_eq_of_lt (Nat.or_lt_two_pow (Nat.or_lt_two_pow (by omega) ?_) ?_)
  · rw [Nat.shiftLeft_eq]; omega
  · rw [Nat.shiftLeft_eq]; omega

section Slot

variable {entry : MapLookupEntry} {lstart fids sids : Nat}

/-- The first logical id of a slot is read back. -/
theorem mentryLidStart_eq (info : entry.lIdsInfo = mentryLidInfo lstart fids sids)
    (lidFits : lstart < 2 ^ 56) (fFits : fids < 2 ^ 4) (sFits : sids < 2 ^ 4) :
    mentryLidStart entry = lstart := by
  rw [mentryLidStart, info, mentryLidInfo_eq lidFits fFits sFits,
    BitField.extract_insert_above (by omega), BitField.extract_insert_above (by omega),
    BitField.extract_low_of_lt lidFits]

/-- The filemark count of a slot is read back. -/
theorem mentryFilemarks_eq (info : entry.lIdsInfo = mentryLidInfo lstart fids sids)
    (lidFits : lstart < 2 ^ 56) (fFits : fids < 2 ^ 4) (sFits : sids < 2 ^ 4) :
    mentryFilemarks entry = fids := by
  rw [mentryFilemarks, info, mentryLidInfo_eq lidFits fFits sFits,
    BitField.extract_insert_above (by omega)]
  exact BitField.extract_insert fFits (BitField.extract_of_lt lidFits)

/-- The setmark count of a slot is read back. -/
theorem mentrySetmarks_eq (info : entry.lIdsInfo = mentryLidInfo lstart fids sids)
    (lidFits : lstart < 2 ^ 56) (fFits : fids < 2 ^ 4) (sFits : sids < 2 ^ 4) :
    mentrySetmarks entry = sids := by
  have empty : BitField.extract 60 4 (BitField.insert 56 fids lstart) = 0 := by
    rw [BitField.extract_insert_below fFits (by omega), BitField.extract_of_lt (by omega)]
  rw [mentrySetmarks, info, mentryLidInfo_eq lidFits fFits sFits]
  exact BitField.extract_insert sFits empty

end Slot

/-! ## Entries of a map -/

/-- The entry as reading its page back yields it. -/
def BlkEntry.loaded (entry : BlkEntry) : BlkEntry := blkMapLoadEntry entry.lidStart entry.raw

variable (entry : BlkEntry)

/-- A whole number of 512 byte units is its own count. -/
theorem compBlocks_shiftLeft (count : Nat) : compBlocks (count <<< 9) = count := by
  have whole : count * 2 ^ 9 % 512 = 0 := by omega
  rw [compBlocks, Nat.shiftLeft_eq, if_pos whole, Nat.shiftRight_eq_div_pow]
  omega

/-- The logical id is not stored but counted, so it is read back. -/
@[simp]
theorem BlkEntry.loaded_lidStart : entry.loaded.lidStart = entry.lidStart := rfl

/-- The type is read back. -/
@[simp]
theorem BlkEntry.loaded_isDataBlock : entry.loaded.isDataBlock = entry.isDataBlock := by
  simp only [BlkEntry.isDataBlock, BlkEntry.loaded, blkMapLoadEntry, BlkEntry.raw, BlkEntry.sized,
    entryBtype, setEntryEsize, setEntryCsize]
  rw [BitField.extract_insert_above (by omega), BitField.extract_insert_above (by omega)]

/-- What was read back once is read back unchanged. -/
theorem loaded_blkMapLoadEntry (lid : Nat) (raw : RawBlkEntry) :
    (blkMapLoadEntry lid raw).loaded = blkMapLoadEntry lid raw := by
  have bits : (blkMapLoadEntry lid raw).raw.bits = raw.bits := by
    simp only [BlkEntry.raw, BlkEntry.sized, blkMapLoadEntry, compBlocks_shiftLeft, setEntryEsize,
      setEntryCsize, entryCsize, entryEsize, BitField.insert_extract]
  have start : blockBlocknr (blkMapLoadEntry lid raw).raw.block = blockBlocknr raw.block :=
    blockBlocknr_setBlock (blockBlocknr_lt _)
  have disk : blockBid (blkMapLoadEntry lid raw).raw.block = blockBid raw.block :=
    blockBid_setBlock (blockBlocknr_lt _) (blockBid_lt _)
  simp only [BlkEntry.loaded, blkMapLoadEntry] at bits start disk ⊢
  rw [bits, start, disk]

end VirtualTape
