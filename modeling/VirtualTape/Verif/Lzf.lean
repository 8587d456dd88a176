import VirtualTape.Core.Lzf

/-!
# What decompresses

A compressed block is the bytes of a sequence of tokens, each of which extends what was
decompressed. Decompressing succeeds exactly for the bytes of tokens whose references stay inside
what was decompressed and whose result fits into the buffer, and no bytes at all make it leave its
buffers.
-/

namespace VirtualTape

variable {room fuel : Nat} {data rest : List UInt8} {token : LzfToken}

namespace LzfToken

/-- The token can be written. -/
def Valid : LzfToken → Prop
  | literals bytes => 1 ≤ bytes.length ∧ bytes.length ≤ 32
  | reference len high _ => 1 ≤ len ∧ len ≤ 262 ∧ high < 32

/-- The bytes of a token. -/
def encode : LzfToken → List UInt8
  | literals bytes => UInt8.ofNat (bytes.length - 1) :: bytes
  | reference len high low =>
    if len < 7 then [UInt8.ofNat (len * 32 + high), low]
    else [UInt8.ofNat (7 * 32 + high), UInt8.ofNat (len - 7), low]

/-- What a token extends a block to; none if there is no room or it refers to before the block. -/
def expand (room : Nat) (out : List UInt8) : LzfToken → Option (List UInt8)
  | literals bytes => if room < out.length + bytes.length then none else some (out ++ bytes)
  | reference len high low =>
    if room < out.length + len + 2 then none
    else if out.length < high * 256 + 1 + low.toNat then none
    else copyBack (len + 2) (out.length - (high * 256 + 1 + low.toNat)) out

/-- A token has a byte. -/
theorem encode_length (token : LzfToken) : 0 < token.encode.length := by
  cases token with
  | literals bytes => exact Nat.succ_pos _
  | reference len high low =>
    rw [encode]
    split <;> exact Nat.succ_pos _

end LzfToken

/-- To do what a token says extends the block, or fails. -/
theorem lzfApply_eq (room : Nat) (out : List UInt8) (token : LzfToken) :
    lzfApply room out token = ((token.expand room out).map LzfResult.decoded).getD .fails := by
  cases token with
  | literals bytes =>
    rw [lzfApply, LzfToken.expand]
    split <;> rfl
  | reference len high low =>
    have copies (ref : Nat) : lzfCopy len ref out = copyBack (len + 2) ref out := by
      unfold lzfCopy
      split
      · rename_i apart
        exact (copyBack_disjoint _ apart.2).symm
      · rfl
    rw [lzfApply, LzfToken.expand, copies]
    split
    · rfl
    · split
      · rfl
      · have inside : out.length - (high * 256 + 1 + low.toNat) < out.length := by omega
        obtain ⟨more, isMore⟩ := Option.isSome_iff_exists.1 (copyBack_isSome (len + 2) inside)
        rw [isMore]
        rfl

/-- The bytes of a token are read as the token. -/
theorem lzfRead_encode (valid : token.Valid) (rest : List UInt8) :
    lzfRead (token.encode ++ rest) = some (token, rest) := by
  have byte {number : Nat} (small : number < 256) : (UInt8.ofNat number).toNat = number := by
    rw [UInt8.toNat_ofNat', Nat.mod_eq_of_lt small]
  cases token with
  | literals bytes =>
    obtain ⟨low, high⟩ := valid
    rw [LzfToken.encode, List.cons_append, lzfRead, byte (by omega), if_pos (by omega),
      Nat.sub_add_cancel low, if_neg (by simp), List.take_left, List.drop_left]
  | reference len high low =>
    obtain ⟨some, short, near⟩ := valid
    rw [LzfToken.encode]
    split
    · rw [List.cons_append, lzfRead, byte (by omega), if_neg (by omega)]
      dsimp only [List.singleton_append]
      rw [if_neg (by omega), show (len * 32 + high) / 32 = len by omega,
        show (len * 32 + high) % 32 = high by omega]
    · rw [List.cons_append, lzfRead, byte (by omega), if_neg (by omega)]
      dsimp only [List.cons_append, List.nil_append]
      rw [if_pos (by omega), byte (by omega), Nat.add_sub_of_le (by omega),
        show (7 * 32 + high) % 32 = high by omega]

/-- What is read as a token is the bytes of the token. -/
theorem lzfRead_some (read : lzfRead data = some (token, rest)) :
    token.Valid ∧ data = token.encode ++ rest := by
  rcases data with _ | ⟨ctrl, input⟩
  · cases read
  have small := ctrl.toNat_lt
  have control : UInt8.ofNat (ctrl.toNat / 32 * 32 + ctrl.toNat % 32) = ctrl := by
    rw [Nat.div_add_mod', UInt8.ofNat_toNat]
  rw [lzfRead] at read
  split at read
  · obtain ⟨enough, same⟩ := Option.ite_none_left_eq_some.1 read
    cases same
    refine ⟨by rw [LzfToken.Valid, List.length_take]; omega, ?_⟩
    rw [LzfToken.encode, List.length_take, Nat.min_eq_left (by omega), Nat.add_sub_cancel,
      UInt8.ofNat_toNat, List.cons_append, List.take_append_drop]
  · rcases input with _ | ⟨first, input⟩
    · cases read
    have firstSmall := first.toNat_lt
    dsimp only at read
    split at read
    · rename_i long
      rcases input with _ | ⟨low, input⟩
      · cases read
      cases read
      refine ⟨by rw [LzfToken.Valid]; omega, ?_⟩
      rw [LzfToken.encode, if_neg (by omega), ← long, control, Nat.add_sub_cancel_left,
        UInt8.ofNat_toNat]
      rfl
    · cases read
      refine ⟨by rw [LzfToken.Valid]; omega, ?_⟩
      rw [LzfToken.encode, if_pos (by omega), control]
      rfl

/-- The bytes are those of tokens that extend a block to another one. -/
def LzfEncodes (room : Nat) (data out block : List UInt8) : Prop :=
  ∃ tokens : List LzfToken, (∀ token ∈ tokens, token.Valid) ∧
    data = tokens.flatMap LzfToken.encode ∧ tokens.foldlM (LzfToken.expand room) out = some block

/-- No bytes are those of no tokens. -/
theorem lzfEncodes_nil {out block : List UInt8} : LzfEncodes room [] out block ↔ out = block := by
  constructor
  · rintro ⟨tokens, -, isData, isBlock⟩
    rcases tokens with _ | ⟨token, tokens⟩
    · exact Option.some.inj isBlock
    · have some := token.encode_length
      rw [List.flatMap_cons, List.nil_eq, List.append_eq_nil_iff] at isData
      rw [isData.1] at some
      cases some
  · rintro rfl
    exact ⟨[], by simp, rfl, rfl⟩

/-- The first token is the one that is read. -/
theorem lzfEncodes_cons {ctrl : UInt8} {input out block : List UInt8} :
    LzfEncodes room (ctrl :: input) out block ↔
      ∃ token rest more, lzfRead (ctrl :: input) = some (token, rest) ∧
        token.expand room out = some more ∧ LzfEncodes room rest more block := by
  constructor
  · rintro ⟨tokens, valid, isData, isBlock⟩
    rcases tokens with _ | ⟨token, tokens⟩
    · cases isData
    · rw [List.foldlM_cons] at isBlock
      obtain ⟨more, isMore, isBlock⟩ := Option.bind_eq_some_iff.1 isBlock
      refine ⟨token, tokens.flatMap LzfToken.encode, more, ?_, isMore, tokens,
        fun other mem => valid other (List.mem_cons_of_mem _ mem), rfl, isBlock⟩
      rw [isData, List.flatMap_cons, lzfRead_encode (valid token List.mem_cons_self)]
  · rintro ⟨token, rest, more, read, isMore, tokens, valid, rfl, isBlock⟩
    obtain ⟨first, isData⟩ := lzfRead_some read
    refine ⟨token :: tokens, List.forall_mem_cons.2 ⟨first, valid⟩, isData, ?_⟩
    rw [List.foldlM_cons, isMore]
    exact isBlock

/-- Decompressing the bytes left. -/
theorem lzfDecompressFrom_format (enough : data.length ≤ fuel) (out : List UInt8) :
    lzfDecompressFrom room fuel data out ≠ .overrun ∧
      ∀ block, lzfDecompressFrom room fuel data out = .decoded block ↔
        LzfEncodes room data out block := by
  induction fuel generalizing data out with
  | zero =>
    obtain rfl := List.eq_nil_of_length_eq_zero (Nat.le_zero.1 enough)
    simp [lzfDecompressFrom, lzfEncodes_nil]
  | succ fuel ih =>
    rcases data with _ | ⟨ctrl, input⟩
    · simp [lzfDecompressFrom, lzfEncodes_nil]
    simp only [lzfDecompressFrom, lzfEncodes_cons]
    cases read : lzfRead (ctrl :: input) with
    | none => simp
    | some found =>
      obtain ⟨token, rest⟩ := found
      have shorter : rest.length ≤ fuel := by
        have some := token.encode_length
        rw [(lzfRead_some read).2, List.length_append] at enough
        omega
      dsimp only
      rw [lzfApply_eq]
      cases isMore : token.expand room out with
      | none => simp [isMore]
      | some more => simpa [isMore] using ih shorter more

/-- No bytes make `lzf_decompress` leave its buffers, and it returns a block exactly for the bytes
of tokens that stand for the block and fit. -/
theorem lzfDecompress_format (room : Nat) (ctrl : UInt8) (input : List UInt8) :
    lzfDecompress room (ctrl :: input) ≠ .overrun ∧
      ∀ block, lzfDecompress room (ctrl :: input) = .decoded block ↔
        LzfEncodes room (ctrl :: input) [] block := by
  rw [lzfDecompress, if_neg (by simp)]
  exact lzfDecompressFrom_format (Nat.le_refl _) []

end VirtualTape
