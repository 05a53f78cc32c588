import TheVoteApp.Solidity.Basic

/-!
# The contract ABI encoding

The standard encoding of argument lists (`abi.encode`), the packed encoding
(`abi.encodePacked`) of the types the contracts pack, and the decoder that
reads event data.  Strings are handled as their UTF-8 bytes; `toUtf8Bytes`
takes a JavaScript or Solidity string literal there.

An argument list has one 32-byte head slot per argument.  A static argument
sits in its slot; a dynamic one (`string`, `bytes`) leaves the offset of its
tail there, and the tail is the length word followed by the data, zero-padded
to a multiple of 32 bytes.
-/

namespace TheVoteApp.Solidity

/-- The UTF-8 encoding of a string. -/
def toUtf8Bytes (s : String) : Bytes := s.toUTF8.data.toList

theorem toUtf8Bytes_injective : Function.Injective toUtf8Bytes := by
  intro a b same
  have data : a.toUTF8.data = b.toUTF8.data := Array.toList_inj.mp same
  exact String.toByteArray_inj.mp (ByteArray.ext data)

theorem toUtf8Bytes_append (a b : String) :
    toUtf8Bytes (a ++ b) = toUtf8Bytes a ++ toUtf8Bytes b := by
  show (a ++ b).toByteArray.data.toList = _
  rw [String.toByteArray_append, ByteArray.data_append, Array.toList_append]
  rfl

/-- The string a byte sequence encodes, if it is valid UTF-8. -/
def fromUtf8Bytes (bs : Bytes) : Option String :=
  String.fromUTF8? ⟨bs.toArray⟩

theorem fromUtf8Bytes_toUtf8Bytes (text : String) :
    fromUtf8Bytes (toUtf8Bytes text) = some text := by
  have bytes : (⟨(toUtf8Bytes text).toArray⟩ : ByteArray) = text.toUTF8 := by
    simp [toUtf8Bytes]
  have valid : text.toUTF8.IsValidUTF8 := text.isValidUTF8
  rw [fromUtf8Bytes, bytes, String.fromUTF8?, dif_pos valid]
  rfl

theorem toUtf8Bytes_of_fromUtf8Bytes {bs : Bytes} {text : String}
    (read : fromUtf8Bytes bs = some text) : toUtf8Bytes text = bs := by
  unfold fromUtf8Bytes String.fromUTF8? at read
  split at read
  · obtain rfl := Option.some.inj read
    show bs.toArray.toList = bs
    rfl
  · cases read

/-- The `len` low-order bytes of `n`, most significant first. -/
def bigEndian : ℕ → ℕ → Bytes
  | 0, _ => []
  | len + 1, n => bigEndian len (n / 256) ++ [UInt8.ofNat (n % 256)]

@[simp] theorem bigEndian_length (len n : ℕ) : (bigEndian len n).length = len := by
  induction len generalizing n with
  | zero => rfl
  | succ len ih => simp [bigEndian, ih]

/-- The natural number a big-endian byte sequence denotes. -/
def ofBigEndian (bs : Bytes) : ℕ :=
  bs.foldl (fun acc b => acc * 256 + b.toNat) 0

theorem ofBigEndian_concat (bs : Bytes) (b : UInt8) :
    ofBigEndian (bs ++ [b]) = ofBigEndian bs * 256 + b.toNat := by
  simp [ofBigEndian]

theorem ofBigEndian_bigEndian (len n : ℕ) : ofBigEndian (bigEndian len n) = n % 256 ^ len := by
  induction len generalizing n with
  | zero => simp [bigEndian, ofBigEndian, Nat.mod_one]
  | succ len ih =>
      have byte : (UInt8.ofNat (n % 256)).toNat = n % 256 := by simp
      rw [bigEndian, ofBigEndian_concat, ih, byte, pow_succ', Nat.mod_mul]
      ring

/-- The two bytes of a `bytes2`. -/
def bytes2Bytes (c : Bytes2) : Bytes := bigEndian 2 c.toNat

@[simp] theorem bytes2Bytes_length (c : Bytes2) : (bytes2Bytes c).length = 2 := by
  simp [bytes2Bytes]

/-- The zero bytes that fill `len` bytes up to a multiple of 32. -/
def paddingLength (len : ℕ) : ℕ := (32 - len % 32) % 32

/-- Zero-pad to a multiple of 32 bytes. -/
def padRight (bs : Bytes) : Bytes := bs ++ List.replicate (paddingLength bs.length) 0

theorem length_le_padRight (bs : Bytes) : bs.length ≤ (padRight bs).length := by
  simp [padRight]

namespace Abi

/-- One argument of a call, event or `abi.encode`. -/
inductive Value where
  /-- A static value, as the word it occupies. -/
  | word (w : ℕ)
  /-- A `string` or `bytes` value. -/
  | dynamic (bs : Bytes)
deriving DecidableEq

/-- A `bytesN` value sits at the high-order end of its word. -/
def Value.fixedBytes (bs : Bytes) : Value := .word (ofBigEndian bs * 256 ^ (32 - bs.length))

/-- The head slots and the tails of an argument list whose first tail starts at
`offset`. -/
def encodeFrom : ℕ → List Value → Bytes × Bytes
  | _, [] => ([], [])
  | offset, .word w :: rest =>
      let encoded := encodeFrom offset rest
      (bigEndian 32 w ++ encoded.1, encoded.2)
  | offset, .dynamic bs :: rest =>
      let tail := bigEndian 32 bs.length ++ padRight bs
      let encoded := encodeFrom (offset + tail.length) rest
      (bigEndian 32 offset ++ encoded.1, tail ++ encoded.2)

/-- `abi.encode`. -/
def encode (values : List Value) : Bytes :=
  let encoded := encodeFrom (32 * values.length) values
  encoded.1 ++ encoded.2

/-- The encoding of a string and a static argument is three words longer than
the string, padding apart. -/
theorem length_encode_string_fixedBytes (bs fixed : Bytes) :
    bs.length + 96 ≤ (encode [.dynamic bs, .fixedBytes fixed]).length := by
  have padded := length_le_padRight bs
  simp only [encode, encodeFrom, Value.fixedBytes, List.length_append, bigEndian_length,
    List.length_nil]
  omega

/-! ## Decoding -/

/-- The word at byte offset `offset`, if the data reach that far. -/
def readWord (data : Bytes) (offset : ℕ) : Option ℕ :=
  if offset + 32 ≤ data.length then some (ofBigEndian ((data.drop offset).take 32)) else none

/-- A word is read back where it was written, up to truncation. -/
theorem readWord_append (before after : Bytes) (n : ℕ) :
    readWord (before ++ (bigEndian 32 n ++ after)) before.length = some (n % 2 ^ 256) := by
  have inBounds : before.length + 32 ≤ (before ++ (bigEndian 32 n ++ after)).length := by
    simp
  have written : ((before ++ (bigEndian 32 n ++ after)).drop before.length).take 32 =
      bigEndian 32 n := by
    rw [List.drop_left, List.take_append_of_le_length (by simp), List.take_of_length_le (by simp)]
  rw [readWord, if_pos inBounds, written, ofBigEndian_bigEndian]
  norm_num

/-- The byte string whose tail starts at `offset`.  The decoder insists on the
padding being there. -/
def readDynamic (data : Bytes) (offset : ℕ) : Option Bytes :=
  (readWord data offset).bind fun len =>
    if offset + 32 + len + paddingLength len ≤ data.length then
      some ((data.drop (offset + 32)).take len)
    else none

/-- A tail is read back where it was written. -/
theorem readDynamic_append (before after bs : Bytes) (small : bs.length < 2 ^ 256) :
    readDynamic (before ++ (bigEndian 32 bs.length ++ (padRight bs ++ after))) before.length =
      some bs := by
  have padded : (padRight bs).length = bs.length + paddingLength bs.length := by
    simp [padRight]
  have inBounds : before.length + 32 + bs.length + paddingLength bs.length ≤
      (before ++ (bigEndian 32 bs.length ++ (padRight bs ++ after))).length := by
    simp only [List.length_append, bigEndian_length, padded]
    omega
  have tail : (before ++ (bigEndian 32 bs.length ++ (padRight bs ++ after))).drop
      (before.length + 32) = padRight bs ++ after := by
    rw [← List.append_assoc, List.drop_left' (by rw [List.length_append, bigEndian_length])]
  rw [readDynamic, readWord_append, Nat.mod_eq_of_lt small, Option.bind_some, if_pos inBounds, tail,
    padRight, List.append_assoc, List.take_left']
  rfl

end Abi

end TheVoteApp.Solidity
