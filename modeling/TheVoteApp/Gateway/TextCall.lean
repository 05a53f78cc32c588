import TheVoteApp.Clients.VoteWireFormat

/-!
# The gateway lookup: the call

Both apps ask a public node for the text record of the gateway.  The call data are the
selector of `text(bytes32,string)`, the node of the name and `abiEncodeString` of the
key, which is to give the head slot of the key and its tail.

The slot holds the offset `0x20`, where the tail of a second argument begins at `0x40`.
The iOS app writes the slot with 63 zeros in front of it, a digit too many, so that
its call data are no sequence of bytes at all (`Ios.decode_arguments`).  The Android
app's can be read, but the offset points at itself: what is found there is the length
`0x20`, and the 32 bytes of the next word for a key (`Android.decodeArguments_eq`).

## Main definitions

* `decodeArguments` — what a contract reads
* `Ios.arguments`, `Android.arguments` — what the apps write after the selector
-/

namespace TheVoteApp.GatewayResolver

open Solidity BlockchainVoteService Foundations

/-- The arguments of `text(bytes32,string)` as a contract reads them. -/
def decodeArguments (digits : List Char) : Option (Bytes32 × String) := do
  let data ← Hex.decode digits
  let node ← Abi.readWord data 0
  let offset ← Abi.readWord data 32
  let text ← Abi.readDynamic data offset
  let key ← fromUtf8Bytes text
  return (BitVec.ofNat 256 node, key)

/-- `leftPad` and `padStart` -/
def leftPad (length : ℕ) (pad : Char) (text : List Char) : List Char :=
  List.replicate (length - text.length) pad ++ text

/-- The text that `ensNameHash` and `nameHash` return for the node. -/
def nodeText (node : Bytes32) : List Char := leftPad 64 '0' (Hex.encode (digestBytes node))

/-- `String(count, radix: 16)` and `size.toString(16)`, padded to a word. -/
def lengthText (count : ℕ) : List Char := leftPad 64 '0' (Nat.toDigits 16 count)

namespace Ios

/-- `padding(toLength:withPad:startingAt:)`, which cuts off what is too long. -/
def padding (length : ℕ) (pad : Char) (text : List Char) : List Char :=
  (text ++ List.replicate (length - text.length) pad).take length

/-- `abiEncodeString` of the iOS app, which cuts the data off after one word. -/
def abiEncodeString (s : String) : List Char :=
  let bytes := toUtf8Bytes s
  let offset := List.replicate 63 '0' ++ "20".toList
  let data := padding 64 '0' (Hex.encode bytes)
  offset ++ lengthText bytes.length ++ data

/-- `namehash + keyEncoded` -/
def arguments (node : Bytes32) (key : String) : List Char := nodeText node ++ abiEncodeString key

end Ios

namespace Android

/-- `padEnd(length, pad)` -/
def padEnd (length : ℕ) (pad : Char) (text : List Char) : List Char :=
  text ++ List.replicate (length - text.length) pad

/-- `offset` -/
def offsetText : List Char :=
  "0000000000000000000000000000000000000000000000000000000000000020".toList

/-- `abiEncodeString` of the Android app, which pads the data to one word. -/
def abiEncodeString (s : String) : List Char :=
  let bytes := toUtf8Bytes s
  let offset := offsetText
  let data := padEnd 64 '0' (Hex.encode bytes)
  offset ++ lengthText bytes.length ++ data

/-- `namehash + keyEncoded` -/
def arguments (node : Bytes32) (key : String) : List Char := nodeText node ++ abiEncodeString key

end Android

/-- The apps write the same text, and it stands for the arguments. -/
structure ValidCall (node : Bytes32) (key : String) : Prop where
  ios : decodeArguments (Ios.arguments node key) = some (node, key)
  android : decodeArguments (Android.arguments node key) = some (node, key)
  same : Ios.arguments node key = Android.arguments node key

/-! ## The decoder -/

section Decoder

variable {digits : List Char} {data text : Bytes} {node : Bytes32} {key : String} {offset : ℕ}

theorem readWord_digestBytes (node : Bytes32) (after : Bytes) :
    Abi.readWord (digestBytes node ++ after) 0 = some node.toNat := by
  have read := Abi.readWord_append [] after node.toNat
  rwa [Nat.mod_eq_of_lt node.isLt, List.nil_append, List.length_nil] at read

theorem readWord_slot (node : Bytes32) (offset : ℕ) (after : Bytes) (small : offset < 2 ^ 256) :
    Abi.readWord (digestBytes node ++ (bigEndian 32 offset ++ after)) 32 = some offset := by
  have read := Abi.readWord_append (digestBytes node) after offset
  rwa [length_digestBytes, Nat.mod_eq_of_lt small] at read

/-- What is read from data that begin with the node. -/
theorem decodeArguments_eq_some (read : Hex.decode digits = some (digestBytes node ++ data))
    (slot : Abi.readWord (digestBytes node ++ data) 32 = some offset)
    (tail : Abi.readDynamic (digestBytes node ++ data) offset = some text) :
    decodeArguments digits = (fromUtf8Bytes text).map (node, ·) := by
  simp only [decodeArguments, read, readWord_digestBytes, slot, tail, Option.bind_eq_bind,
    Option.bind_some, BitVec.ofNat_toNat, BitVec.setWidth_eq]
  cases fromUtf8Bytes text with
  | none => rfl
  | some key => rfl

/-- The standard encoding is read back. -/
theorem decodeArguments_encode (node : Bytes32) (key : String)
    (small : (toUtf8Bytes key).length < 2 ^ 256) :
    decodeArguments (Hex.encode (Abi.encode [.word node.toNat, .dynamic (toUtf8Bytes key)])) =
      some (node, key) := by
  have layout : Abi.encode [.word node.toNat, .dynamic (toUtf8Bytes key)] =
      digestBytes node ++ (bigEndian 32 64 ++
        (bigEndian 32 (toUtf8Bytes key).length ++ (padRight (toUtf8Bytes key) ++ []))) := by
    simp only [Abi.encode, Abi.encodeFrom, digestBytes, List.append_assoc, List.append_nil,
      List.length_cons, List.length_nil]
  have slot := readWord_slot node 64
    (bigEndian 32 (toUtf8Bytes key).length ++ (padRight (toUtf8Bytes key) ++ [])) (by norm_num)
  have tail := Abi.readDynamic_append (digestBytes node ++ bigEndian 32 64) [] _ small
  rw [List.length_append, length_digestBytes, bigEndian_length, List.append_assoc] at tail
  rw [layout, decodeArguments_eq_some (Hex.decode_encode _) slot tail, fromUtf8Bytes_toUtf8Bytes]
  rfl

/-- A key that is read lies within the data. -/
theorem length_key_le (read : decodeArguments digits = some (node, key)) :
    ∃ data, Hex.decode digits = some data ∧ (toUtf8Bytes key).length ≤ data.length := by
  simp only [decodeArguments, Option.bind_eq_bind, Option.bind_eq_some_iff] at read
  obtain ⟨data, isData, _, -, offset, -, text, isText, key', isKey, same⟩ := read
  obtain ⟨-, rfl⟩ := Prod.mk.inj (Option.some.inj same)
  refine ⟨data, isData, ?_⟩
  rw [toUtf8Bytes_of_fromUtf8Bytes isKey]
  simp only [Abi.readDynamic, Option.bind_eq_some_iff] at isText
  obtain ⟨length, -, isText⟩ := isText
  split at isText
  · obtain rfl := Option.some.inj isText
    rw [List.length_take, List.length_drop]
    omega
  · cases isText

end Decoder

/-! ## The iOS app -/

theorem length_nodeText (node : Bytes32) : (nodeText node).length = 64 := by
  simp only [nodeText, leftPad, List.length_append, List.length_replicate, Hex.length_encode,
    length_digestBytes]

theorem nodeText_eq (node : Bytes32) : nodeText node = Hex.encode (digestBytes node) := by
  have full : 64 - 2 * 32 = 0 := by norm_num
  rw [nodeText, leftPad, Hex.length_encode, length_digestBytes, full, List.replicate_zero,
    List.nil_append]

/-- A length takes a word up to `16 ^ 64`, and never more digits than it counts. -/
theorem length_lengthText (count : ℕ) :
    (lengthText count).length = 64 ∨
      16 ^ 64 ≤ count ∧ 64 < (lengthText count).length ∧ (lengthText count).length ≤ count := by
  have length : (lengthText count).length = max 64 (Nat.toDigits 16 count).length := by
    simp only [lengthText, leftPad, List.length_append, List.length_replicate]
    omega
  rw [length]
  rcases Nat.lt_or_ge count (16 ^ 64) with small | large
  · have short := (Nat.length_toDigits_le_iff (by norm_num) (by norm_num)).mpr small
    exact .inl (max_eq_left short)
  · have long : 64 < (Nat.toDigits 16 count).length := by
      rw [← not_le, Nat.length_toDigits_le_iff (by norm_num) (by norm_num)]
      exact not_lt.mpr large
    have bound : (Nat.toDigits 16 count).length ≤ count := by
      rw [Nat.length_toDigits_le_iff (by norm_num) (by omega)]
      exact Nat.lt_pow_self (by norm_num)
    exact .inr ⟨large, by omega, by omega⟩

namespace Ios

theorem length_padding (length : ℕ) (pad : Char) (text : List Char) :
    (padding length pad text).length = length := by
  simp only [padding, List.length_take, List.length_append, List.length_replicate]
  omega

theorem length_arguments (node : Bytes32) (key : String) :
    (arguments node key).length = 193 + (lengthText (toUtf8Bytes key).length).length := by
  simp only [arguments, abiEncodeString, List.length_append, length_nodeText, length_padding,
    List.length_replicate]
  show 64 + (63 + 2 + _ + 64) = _
  omega

/-- No call of the iOS app carries its key. -/
theorem decodeArguments_ne (node node' : Bytes32) (key : String) :
    decodeArguments (arguments node key) ≠ some (node', key) := by
  intro read
  obtain ⟨data, isData, within⟩ := length_key_le read
  have even := Hex.length_decode isData
  rw [length_arguments] at even
  rcases length_lengthText (toUtf8Bytes key).length with word | ⟨large, -, bound⟩
  · omega
  · have huge : 193 < 16 ^ 64 := by norm_num
    omega

/-- A key of a real string makes the call data a text of 257 digits. -/
theorem decode_arguments (node : Bytes32) (key : String)
    (small : (toUtf8Bytes key).length < 16 ^ 64) : Hex.decode (arguments node key) = none := by
  have word : (lengthText (toUtf8Bytes key).length).length = 64 := by
    rcases length_lengthText (toUtf8Bytes key).length with word | ⟨large, -, -⟩
    · exact word
    · exact absurd small (not_lt.mpr large)
  rw [Option.eq_none_iff_forall_ne_some]
  intro data isData
  have even := Hex.length_decode isData
  rw [length_arguments, word] at even
  omega

end Ios

/-! ## The Android app -/

namespace Android

theorem offsetText_eq : offsetText = Hex.encode (bigEndian 32 32) := by decide

theorem length_arguments (node : Bytes32) (key : String) :
    (arguments node key).length =
      128 + (lengthText (toUtf8Bytes key).length).length +
        max 64 (2 * (toUtf8Bytes key).length) := by
  simp only [arguments, abiEncodeString, padEnd, offsetText_eq, List.length_append,
    length_nodeText, List.length_replicate, Hex.length_encode, bigEndian_length]
  omega

/-- Behind the offset. -/
def rest (key : String) : List Char :=
  lengthText (toUtf8Bytes key).length ++ padEnd 64 '0' (Hex.encode (toUtf8Bytes key))

theorem arguments_eq (node : Bytes32) (key : String) :
    arguments node key = Hex.encode (digestBytes node ++ bigEndian 32 32) ++ rest key := by
  simp only [arguments, abiEncodeString, nodeText_eq, offsetText_eq, rest, Hex.encode_append,
    List.append_assoc]

/-- The offset leads back to its own word, which is read as the length 32. -/
theorem readDynamic_self (node : Bytes32) (data : Bytes) :
    Abi.readDynamic (digestBytes node ++ (bigEndian 32 32 ++ data)) 32 =
      if 32 ≤ data.length then some (data.take 32) else none := by
  have length : (digestBytes node ++ (bigEndian 32 32 ++ data)).length = 64 + data.length := by
    rw [List.length_append, List.length_append, length_digestBytes, bigEndian_length]
    omega
  have behind : (digestBytes node ++ (bigEndian 32 32 ++ data)).drop (32 + 32) = data := by
    rw [← List.append_assoc, List.drop_left']
    rw [List.length_append, length_digestBytes, bigEndian_length]
  have padding : paddingLength 32 = 0 := by norm_num [paddingLength]
  rw [Abi.readDynamic, readWord_slot node 32 data (by norm_num), Option.bind_some, behind, length,
    padding]
  by_cases long : 32 ≤ data.length
  · rw [if_pos long, if_pos (by omega)]
  · rw [if_neg long, if_neg (by omega)]

/-- The key that is read is the word behind the offset. -/
theorem decodeArguments_eq (node : Bytes32) (key : String) :
    decodeArguments (arguments node key) =
      (Hex.decode (rest key)).bind fun data =>
        if 32 ≤ data.length then (fromUtf8Bytes (data.take 32)).map (node, ·) else none := by
  have read := Hex.decode_append (digestBytes node ++ bigEndian 32 32) (rest key)
  rw [← arguments_eq] at read
  cases behind : Hex.decode (rest key) with
  | none =>
      rw [behind] at read
      simp only [decodeArguments, read, Option.map_none, Option.bind_eq_bind, Option.bind_none]
  | some data =>
      rw [behind, Option.map_some, List.append_assoc] at read
      have tail := readDynamic_self node data
      rw [Option.bind_some]
      by_cases long : 32 ≤ data.length
      · rw [if_pos long] at tail ⊢
        exact decodeArguments_eq_some read (readWord_slot node 32 data (by norm_num)) tail
      · rw [if_neg long] at tail ⊢
        simp only [decodeArguments, read, readWord_digestBytes,
          readWord_slot node 32 data (by norm_num), tail, Option.bind_eq_bind, Option.bind_some,
          Option.bind_none]

/-- **The one key that arrives** is its own length word: 31 zeros and a space. -/
theorem decodeArguments_iff (node : Bytes32) (key : String) :
    decodeArguments (arguments node key) = some (node, key) ↔
      toUtf8Bytes key = bigEndian 32 32 := by
  have word : lengthText 32 = Hex.encode (bigEndian 32 32) := by decide
  rw [decodeArguments_eq]
  constructor
  · intro read
    obtain ⟨data, isData, read⟩ := Option.bind_eq_some_iff.mp read
    split at read
    · rename_i long
      obtain ⟨key', isKey, same⟩ := Option.map_eq_some_iff.mp read
      obtain ⟨-, rfl⟩ := Prod.mk.inj same
      have bytes := toUtf8Bytes_of_fromUtf8Bytes isKey
      have length : (toUtf8Bytes key').length = 32 := by
        rw [bytes, List.length_take_of_le long]
      rw [rest, length, word, Hex.decode_append] at isData
      obtain ⟨behind, -, rfl⟩ := Option.map_eq_some_iff.mp isData
      rw [bytes, List.take_left']
      exact bigEndian_length 32 32
    · cases read
  · intro bytes
    have isData : Hex.decode (rest key) = some (bigEndian 32 32 ++ bigEndian 32 32) := by
      rw [rest, bytes, bigEndian_length, word, Hex.decode_append]
      decide +kernel
    have long : 32 ≤ (bigEndian 32 32 ++ bigEndian 32 32).length := by
      rw [List.length_append, bigEndian_length]
      omega
    have isKey := fromUtf8Bytes_toUtf8Bytes key
    rw [isData, Option.bind_some, if_pos long, List.take_left' (bigEndian_length 32 32), ← bytes,
      isKey]
    rfl

end Android

/-! ## No lookup is valid -/

/-- The apps never agree: the Android app writes an even number of digits where the iOS
app writes an odd one. -/
theorem arguments_ne (node : Bytes32) (key : String) :
    Ios.arguments node key ≠ Android.arguments node key := by
  intro same
  have length := congrArg List.length same
  rw [Ios.length_arguments, Android.length_arguments] at length
  omega

/-- **No call is valid**, whatever the node and the key.  Of the three things it would
take, two are never there and the third for a single key. -/
theorem not_validCall (node : Bytes32) (key : String) :
    ¬ ValidCall node key ∧ decodeArguments (Ios.arguments node key) ≠ some (node, key) ∧
      Ios.arguments node key ≠ Android.arguments node key ∧
      (decodeArguments (Android.arguments node key) = some (node, key) ↔
        toUtf8Bytes key = bigEndian 32 32) := by
  have ios := Ios.decodeArguments_ne node node key
  refine ⟨?_, ios, arguments_ne node key, Android.decodeArguments_iff node key⟩
  intro valid
  exact ios valid.ios

/-- The lookup the apps make: neither call asks for the record `gateway`. -/
theorem validCall_counterexample :
    ¬ ValidCall 0 "gateway" ∧ Hex.decode (Ios.arguments 0 "gateway") = none ∧
      decodeArguments (Android.arguments 0 "gateway") ≠ some (0, "gateway") ∧
      Ios.arguments 0 "gateway" ≠ Android.arguments 0 "gateway" := by
  have valid : decodeArguments (Android.arguments 0 "gateway") ≠ some (0, "gateway") := by
    decide +kernel
  refine ⟨?_, by decide +kernel, valid, by decide⟩
  intro call
  exact valid call.android

end TheVoteApp.GatewayResolver
