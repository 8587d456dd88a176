import Mathlib.Data.List.Range
import Mathlib.Tactic.Linarith
import Mathlib.Tactic.Positivity
import Mathlib.Tactic.Ring

/-!
# Bytes and byte buffers

Numbers are stored as lists of bytes, most or least significant byte first. A buffer has a size, but
a store behind its end is not stopped: the buffer notes that one has happened. What a buffer holds is
read from its beginning, so that consecutive stores append to what was there.
-/

namespace VirtualTape

/-! ## Numbers as bytes -/

/-- A number in so many bytes, most significant byte first. -/
def beBytes : Nat → Nat → List UInt8
  | 0, _ => []
  | count + 1, value => UInt8.ofNat (value / 256 ^ count) :: beBytes count value

/-- A number in so many bytes, least significant byte first. -/
def leBytes : Nat → Nat → List UInt8
  | 0, _ => []
  | count + 1, value => UInt8.ofNat value :: leBytes count (value / 256)

/-- The number that bytes stand for, most significant byte first. -/
def ofBe (bytes : List UInt8) : Nat := bytes.foldl (fun value byte => value * 256 + byte.toNat) 0

/-- A stored number takes the bytes it is given. -/
@[simp]
theorem beBytes_length (count value : Nat) : (beBytes count value).length = count := by
  induction count with
  | zero => rfl
  | succ count ih => simp [beBytes, ih]

/-- A stored number takes the bytes it is given, least significant byte first. -/
@[simp]
theorem leBytes_length (count value : Nat) : (leBytes count value).length = count := by
  induction count generalizing value with
  | zero => rfl
  | succ count ih => simp [leBytes, ih]

/-- Reading goes on from the number read so far. -/
theorem foldl_beBytes (count value start : Nat) :
    (beBytes count value).foldl (fun value byte => value * 256 + byte.toNat) start =
      start * 256 ^ count + value % 256 ^ count := by
  induction count generalizing start with
  | zero => simp [beBytes, Nat.mod_one]
  | succ count ih =>
    have digit : (UInt8.ofNat (value / 256 ^ count)).toNat = value / 256 ^ count % 256 := by
      simp
    rw [beBytes, List.foldl_cons, ih, digit, Nat.mod_pow_succ]
    ring

/-- A stored number is read back, up to the bytes it was given. -/
theorem ofBe_beBytes (count value : Nat) : ofBe (beBytes count value) = value % 256 ^ count := by
  rw [ofBe, foldl_beBytes]
  omega

/-- Reading from a number read so far adds to it. -/
theorem foldl_ofBe (bytes : List UInt8) (start : Nat) :
    bytes.foldl (fun value byte => value * 256 + byte.toNat) start =
      start * 256 ^ bytes.length + ofBe bytes := by
  unfold ofBe
  induction bytes generalizing start with
  | nil => simp
  | cons byte rest ih =>
    rw [List.foldl_cons, List.foldl_cons, ih, ih (0 * 256 + byte.toNat), List.length_cons]
    ring

/-- The number that two lists of bytes stand for together. -/
theorem ofBe_append (first second : List UInt8) :
    ofBe (first ++ second) = ofBe first * 256 ^ second.length + ofBe second := by
  rw [ofBe, List.foldl_append, foldl_ofBe]
  rfl

/-- Bytes stand for less than the next power. -/
theorem ofBe_lt (bytes : List UInt8) : ofBe bytes < 256 ^ bytes.length := by
  induction bytes with
  | nil => simp [ofBe]
  | cons byte rest ih =>
    rw [ofBe, List.foldl_cons, foldl_ofBe, List.length_cons, pow_succ]
    have digit : byte.toNat < 256 := byte.toNat_lt
    nlinarith [Nat.zero_le (256 ^ rest.length)]

/-- What is above the bytes it is given does not change how a number is stored. -/
theorem beBytes_add_mul (count high value : Nat) :
    beBytes count (high * 256 ^ count + value) = beBytes count value := by
  induction count generalizing high with
  | zero => rfl
  | succ count ih =>
    have tail := ih (high * 256)
    rw [show high * 256 * 256 ^ count = high * 256 ^ (count + 1) by ring] at tail
    have digit : (high * 256 ^ (count + 1) + value) / 256 ^ count =
        high * 256 + value / 256 ^ count := by
      rw [show high * 256 ^ (count + 1) = high * 256 * 256 ^ count by ring, Nat.add_comm,
        Nat.add_mul_div_right _ _ (by positivity), Nat.add_comm]
    rw [beBytes, beBytes, tail, digit]
    congr 1
    apply UInt8.toNat_inj.mp
    simp

/-- Bytes that are read are stored back the same. -/
theorem beBytes_ofBe (bytes : List UInt8) : beBytes bytes.length (ofBe bytes) = bytes := by
  induction bytes with
  | nil => rfl
  | cons byte rest ih =>
    have low := ofBe_lt rest
    have digit : (byte.toNat * 256 ^ rest.length + ofBe rest) / 256 ^ rest.length =
        byte.toNat := by
      rw [Nat.add_comm, Nat.add_mul_div_right _ _ (by positivity), Nat.div_eq_of_lt low,
        Nat.zero_add]
    rw [ofBe, List.foldl_cons, foldl_ofBe, List.length_cons, Nat.zero_mul, Nat.zero_add, beBytes,
      digit, beBytes_add_mul, ih, UInt8.ofNat_toNat]

/-! ## Buffers -/

/-- A buffer of bytes. -/
structure Buffer where
  /-- Bytes that belong to the buffer. -/
  size : Nat
  /-- Memory from the beginning of the buffer, also behind its end. -/
  data : Nat → UInt8
  /-- Every store so far was inside the buffer. -/
  inside : Bool

namespace Buffer

/-- A new buffer, over memory with whatever was in it. -/
def allocate (size : Nat) (stale : Nat → UInt8) : Buffer := ⟨size, stale, true⟩

/-- Store bytes. -/
def write (buffer : Buffer) (offset : Nat) (bytes : List UInt8) : Buffer :=
  { buffer with
    data := fun index =>
      if offset ≤ index then bytes[index - offset]?.getD (buffer.data index) else buffer.data index
    inside := buffer.inside && (bytes.isEmpty || decide (offset + bytes.length ≤ buffer.size)) }

/-- The first bytes of a buffer. -/
def bytes (buffer : Buffer) (count : Nat) : List UInt8 := (List.range count).map buffer.data

/-- Copy bytes to an offset as far as there is room in front of a limit. -/
def copyPart (limit : Nat) (bytes : List UInt8) (place : Buffer × Nat) : Buffer × Nat :=
  let minLen := min (limit - place.2) bytes.length
  if 0 < minLen then (place.1.write place.2 (bytes.take minLen), place.2 + minLen) else place

variable (buffer : Buffer) (offset count : Nat) (stored : List UInt8)

@[simp]
theorem write_size : (buffer.write offset stored).size = buffer.size := rfl

@[simp]
theorem bytes_length : (buffer.bytes count).length = count := by
  simp [bytes]

/-- A store is inside when it is empty or ends before the buffer does. -/
theorem write_inside_iff :
    (buffer.write offset stored).inside = true ↔
      buffer.inside = true ∧ (stored = [] ∨ offset + stored.length ≤ buffer.size) := by
  simp [write, List.isEmpty_iff]

/-- A store from inside the buffer is inside when it ends before the buffer does. -/
theorem write_inside (front : offset ≤ buffer.size) :
    (buffer.write offset stored).inside = true ↔
      buffer.inside = true ∧ offset + stored.length ≤ buffer.size := by
  rw [write_inside_iff]
  rcases stored with _ | ⟨byte, rest⟩
  · simp [front]
  · simp

/-- Bytes are stored in one go or in two. -/
theorem write_append (more : List UInt8) :
    buffer.write offset (stored ++ more) =
      (buffer.write offset stored).write (offset + stored.length) more := by
  have sameData : (buffer.write offset (stored ++ more)).data =
      ((buffer.write offset stored).write (offset + stored.length) more).data := by
    funext index
    simp only [write]
    by_cases before : index < offset
    · rw [if_neg (by omega), if_neg (by omega), if_neg (by omega)]
    · by_cases behind : offset + stored.length ≤ index
      · rw [if_pos (by omega), if_pos behind, if_pos (by omega),
          List.getElem?_append_right (by omega), List.getElem?_eq_none (by omega : stored.length ≤ index - offset),
          Nat.sub_sub]
        rfl
      · rw [if_pos (by omega), if_neg behind, if_pos (by omega),
          List.getElem?_append_left (by omega)]
  have sameInside : (buffer.write offset (stored ++ more)).inside =
      ((buffer.write offset stored).write (offset + stored.length) more).inside := by
    rw [Bool.eq_iff_iff, write_inside_iff, write_inside_iff, write_inside_iff, write_size,
      List.length_append, List.append_eq_nil_iff]
    rcases more with _ | ⟨byte, rest⟩
    · simp
    · simp only [reduceCtorEq, and_false, false_or]
      exact ⟨fun ⟨was, fits⟩ => ⟨⟨was, Or.inr (by omega)⟩, by omega⟩,
        fun ⟨⟨was, _⟩, fits⟩ => ⟨was, by omega⟩⟩
  cases buffer
  simp only [write, mk.injEq, true_and] at sameData sameInside ⊢
  exact ⟨sameData, sameInside⟩

/-- A store over a shorter one leaves nothing of it. -/
theorem write_cover (cover : List UInt8) (longer : stored.length ≤ cover.length) :
    (buffer.write offset stored).write offset cover = buffer.write offset cover := by
  have sameData : ((buffer.write offset stored).write offset cover).data =
      (buffer.write offset cover).data := by
    funext index
    simp only [write]
    by_cases before : index < offset
    · rw [if_neg (by omega), if_neg (by omega), if_neg (by omega)]
    · rw [if_pos (by omega), if_pos (by omega), if_pos (by omega)]
      by_cases behind : cover.length ≤ index - offset
      · rw [List.getElem?_eq_none behind,
          List.getElem?_eq_none (by omega : stored.length ≤ index - offset)]
        rfl
      · rw [List.getElem?_eq_getElem (by omega)]
        rfl
  have sameInside : ((buffer.write offset stored).write offset cover).inside =
      (buffer.write offset cover).inside := by
    rw [Bool.eq_iff_iff, write_inside_iff, write_inside_iff, write_inside_iff, write_size]
    rcases cover with _ | ⟨byte, rest⟩
    · simp [List.length_eq_zero_iff.mp (Nat.le_zero.mp longer)]
    · simp only [reduceCtorEq, false_or]
      exact ⟨fun ⟨⟨was, _⟩, fits⟩ => ⟨was, fits⟩,
        fun ⟨was, fits⟩ => ⟨⟨was, Or.inr (by omega)⟩, fits⟩⟩
  cases buffer
  simp only [write, mk.injEq, true_and] at sameData sameInside ⊢
  exact ⟨sameData, sameInside⟩

/-- A store changes nothing in front of it. -/
theorem write_data_before {index : Nat} (before : index < offset) :
    (buffer.write offset stored).data index = buffer.data index := by
  simp only [write, if_neg (show ¬offset ≤ index by omega)]

/-- A store changes nothing behind it. -/
theorem write_data_behind {index : Nat} (behind : offset + stored.length ≤ index) :
    (buffer.write offset stored).data index = buffer.data index := by
  have beyond : stored.length ≤ index - offset := by omega
  simp only [write, if_pos (show offset ≤ index by omega), List.getElem?_eq_none beyond,
    Option.getD_none]

/-- What a store leaves where it was made. -/
theorem write_data_at {index : Nat} (isIndex : index < stored.length) :
    (buffer.write offset stored).data (offset + index) = stored[index] := by
  simp [write, isIndex]

/-- What a buffer holds in front of a store stays. -/
theorem bytes_write_of_le (front : count ≤ offset) :
    (buffer.write offset stored).bytes count = buffer.bytes count := by
  refine List.map_congr_left fun index isIndex => write_data_before _ _ _ ?_
  have below : index < count := List.mem_range.mp isIndex
  omega

/-- A store appends to what the buffer holds in front of it. -/
theorem bytes_write :
    (buffer.write offset stored).bytes (offset + stored.length) =
      buffer.bytes offset ++ stored := by
  rw [bytes, List.range_add, List.map_append]
  congr 1
  · exact bytes_write_of_le buffer offset offset stored (Nat.le_refl offset)
  · refine List.ext_getElem (by simp) fun index _ isIndex => ?_
    simp [write, isIndex]

/-- A buffer holds what it holds, in two parts. -/
theorem bytes_add (more : Nat) :
    buffer.bytes (count + more) =
      buffer.bytes count ++ (List.range more).map fun index => buffer.data (count + index) := by
  rw [bytes, List.range_add, List.map_append, List.map_map]
  rfl

/-- The first bytes of the first bytes. -/
theorem take_bytes {fewer : Nat} (less : fewer ≤ count) :
    (buffer.bytes count).take fewer = buffer.bytes fewer := by
  obtain ⟨more, rfl⟩ := Nat.exists_eq_add_of_le less
  rw [bytes_add, List.take_left' (by simp)]

/-- A store in the middle replaces the bytes it covers. -/
theorem bytes_write_middle (room : offset + stored.length ≤ count) :
    (buffer.write offset stored).bytes count =
      buffer.bytes offset ++ stored ++ (buffer.bytes count).drop (offset + stored.length) := by
  obtain ⟨more, rfl⟩ := Nat.exists_eq_add_of_le room
  rw [bytes_add, bytes_write, bytes_add, List.drop_left' (by simp)]
  congr 1
  exact List.map_congr_left fun index _ => write_data_behind _ _ _ (by omega)

/-- One byte stored over what was stored before. -/
theorem write_set {index : Nat} (isIndex : index < stored.length) (byte : UInt8) :
    (buffer.write offset stored).write (offset + index) [byte] =
      buffer.write offset (stored.set index byte) := by
  have sameData : ((buffer.write offset stored).write (offset + index) [byte]).data =
      (buffer.write offset (stored.set index byte)).data := by
    funext place
    simp only [write]
    by_cases isPlace : place = offset + index
    · subst isPlace
      simp [isIndex]
    · by_cases before : place < offset
      · rw [if_neg (by omega), if_neg (by omega), if_neg (by omega)]
      · rw [if_pos (show offset ≤ place by omega), if_pos (show offset ≤ place by omega),
          List.getElem?_set_ne (by omega)]
        by_cases behind : offset + index ≤ place
        · rw [if_pos behind, List.getElem?_eq_none (by simp; omega)]
          rfl
        · rw [if_neg behind]
  have sameInside : ((buffer.write offset stored).write (offset + index) [byte]).inside =
      (buffer.write offset (stored.set index byte)).inside := by
    rw [Bool.eq_iff_iff, write_inside_iff, write_inside_iff, write_inside_iff, write_size,
      List.length_set]
    have some : stored ≠ [] := List.ne_nil_of_length_pos (by omega)
    have stillSome : stored.set index byte ≠ [] := by simpa using some
    simp only [some, stillSome, reduceCtorEq, false_or, List.length_singleton]
    exact ⟨fun both => both.1, fun was => ⟨was, by omega⟩⟩
  cases buffer
  simp only [write, mk.injEq, true_and] at sameData sameInside ⊢
  exact ⟨sameData, sameInside⟩

/-- Nothing is copied where there is no room. -/
theorem copyPart_full {limit : Nat} (bytes : List UInt8) {place : Buffer × Nat}
    (full : limit ≤ place.2) : copyPart limit bytes place = place := by
  have none : ¬0 < min (limit - place.2) bytes.length := by omega
  simp only [copyPart, if_neg none]

end Buffer

/-! ## Filling a buffer of zeros -/

/-- A buffer that was filled from its beginning, with zeros behind, as long as all stores were
inside. -/
structure Buffer.Filled (buffer : Buffer) (size : Nat) (content : List UInt8) (ok : Prop) : Prop where
  /-- The size. -/
  isSize : buffer.size = size
  /-- All stores were inside. -/
  inside : buffer.inside = true ↔ ok
  /-- There was room. -/
  fits : content.length ≤ size
  /-- What the buffer holds. -/
  bytes : ok → buffer.bytes size = content ++ List.replicate (size - content.length) 0

namespace Buffer.Filled

variable {buffer : Buffer} {size : Nat} {content : List UInt8} {ok : Prop}

/-- A new buffer. -/
theorem allocate (size : Nat) : (Buffer.allocate size fun _ => 0).Filled size [] True := by
  refine ⟨rfl, by simp [Buffer.allocate], Nat.zero_le size, fun _ => ?_⟩
  simp [Buffer.allocate, Buffer.bytes, List.map_const']

/-- Zeros are already there. -/
theorem zeros (filled : buffer.Filled size content ok) {count : Nat}
    (room : content.length + count ≤ size) :
    buffer.Filled size (content ++ List.replicate count 0) ok := by
  refine ⟨filled.isSize, filled.inside, by simpa using room, fun isOk => ?_⟩
  rw [filled.bytes isOk, List.append_assoc, List.replicate_append_replicate]
  congr 2
  simp only [List.length_append, List.length_replicate]
  omega

/-- A store behind what is there. -/
theorem write (filled : buffer.Filled size content ok) {stored : List UInt8}
    (room : content.length + stored.length ≤ size) :
    (buffer.write content.length stored).Filled size (content ++ stored) ok := by
  refine ⟨filled.isSize, ?_, by simpa using room, fun isOk => ?_⟩
  · rw [Buffer.write_inside _ _ _ (by rw [filled.isSize]; exact filled.fits), filled.inside,
      filled.isSize]
    simp [room]
  · rw [Buffer.bytes_write_middle _ _ _ _ room, ← Buffer.take_bytes _ size filled.fits,
      filled.bytes isOk, List.take_left, ← List.drop_drop, List.drop_left, List.drop_replicate,
      List.length_append]
    congr 2
    omega

/-- To copy bytes fills the buffer with as many of them as there is room for. -/
theorem copyPart (filled : buffer.Filled size content ok) (bytes : List UInt8) :
    (Buffer.copyPart size bytes (buffer, content.length)).1.Filled size
        (content ++ bytes.take (size - content.length)) ok ∧
      (Buffer.copyPart size bytes (buffer, content.length)).2 =
        (content ++ bytes.take (size - content.length)).length := by
  have room := filled.fits
  have isTake : bytes.take (min (size - content.length) bytes.length) =
      bytes.take (size - content.length) := by
    rw [List.take_eq_take_iff]
    omega
  simp only [Buffer.copyPart, List.length_append, List.length_take]
  split
  · rw [isTake]
    exact ⟨filled.write (by rw [List.length_take]; omega), rfl⟩
  · rename_i none
    have nothing : bytes.take (size - content.length) = [] := by
      rw [← List.length_eq_zero_iff, List.length_take]
      omega
    rw [nothing, List.append_nil]
    exact ⟨filled, by omega⟩

/-- A store over zeros that were left. -/
theorem write_over (filled : buffer.Filled size content ok) {front stored rest : List UInt8}
    (isContent : content = front ++ List.replicate stored.length 0 ++ rest) :
    (buffer.write front.length stored).Filled size (front ++ stored ++ rest) ok := by
  have lengths := congrArg List.length isContent
  simp only [List.length_append, List.length_replicate] at lengths
  have fits := filled.fits
  refine ⟨filled.isSize, ?_, ?_, fun isOk => ?_⟩
  · rw [Buffer.write_inside _ _ _ (by rw [filled.isSize]; omega), filled.inside, filled.isSize]
    constructor
    · exact fun both => both.1
    · exact fun isOk => ⟨isOk, by omega⟩
  · simp only [List.length_append]
    omega
  · have isBytes := filled.bytes isOk
    rw [isContent] at isBytes
    rw [Buffer.bytes_write_middle _ _ _ _ (by omega), ← Buffer.take_bytes _ size (by omega),
      isBytes]
    simp only [List.append_assoc, List.take_left, ← List.drop_drop, List.drop_left,
      List.length_append, List.length_replicate]
    congr 2
    rw [List.drop_left' (by simp)]

/-- After a store that is not inside nothing is said about what the buffer holds. -/
theorem write_outside (filled : buffer.Filled size content ok) {offset : Nat}
    {stored other : List UInt8} (some : stored ≠ []) (outside : size < offset + stored.length)
    (fits : other.length ≤ size) : (buffer.write offset stored).Filled size other False := by
  refine ⟨filled.isSize, ?_, fits, False.elim⟩
  rw [Buffer.write_inside_iff, filled.isSize]
  simp only [some, false_or, iff_false, not_and]
  omega

/-- The same condition in other words. -/
theorem congr (filled : buffer.Filled size content ok) {other : Prop} (same : ok ↔ other) :
    buffer.Filled size content other :=
  ⟨filled.isSize, filled.inside.trans same, filled.fits, fun isOk => filled.bytes (same.mpr isOk)⟩

end Buffer.Filled

end VirtualTape
