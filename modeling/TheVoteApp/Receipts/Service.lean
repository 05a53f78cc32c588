import TheVoteApp.Foundations.Hex
import TheVoteApp.JavaScript.Encoding

/-!
# Encrypted receipts: the service

`encrypt` seals the printed receipt with AES-256-GCM and pins an object with the nonce,
the tag and the ciphertext.  The key is drawn at random for the one receipt and goes
nowhere: neither the pinned object nor the answer has it, and nothing in either depends
on the voter's public key but the copy of it they carry.

`decrypt` is the service's own inverse, for a caller who has the key
(`decrypt_encrypt`).

## Main definitions

* `AesGcm` — the cipher; `OpensOnlyUnder` is what is assumed of it as ideal
* `Draws` — what `encrypt` draws at random
* `encrypt`, `decrypt`
-/

namespace TheVoteApp.ReceiptEncryptionService

open Solidity JavaScript Foundations

variable {format : NumberFormat}

/-- AES-256-GCM, as key, nonce and plaintext determine the ciphertext and the tag of 16
bytes.  `openBox` is `none` where the tag does not verify. -/
structure AesGcm where
  sealBox : Bytes → Bytes → Bytes → Bytes × Bytes
  openBox : Bytes → Bytes → Bytes → Bytes → Option Bytes
  length_tag : ∀ key nonce plaintext, (sealBox key nonce plaintext).2.length = 16
  openBox_sealBox : ∀ key nonce plaintext,
    openBox key nonce (sealBox key nonce plaintext).1 (sealBox key nonce plaintext).2 =
      some plaintext

/-- What is sealed opens under no other key. -/
def AesGcm.OpensOnlyUnder (aes : AesGcm) (key nonce plaintext : Bytes) : Prop :=
  ∀ other, other ≠ key →
    aes.openBox other nonce (aes.sealBox key nonce plaintext).1
      (aes.sealBox key nonce plaintext).2 = none

/-- What `encrypt` takes from `randomBytes`. -/
structure Draws where
  key : Bytes
  nonce : Bytes
  length_key : key.length = 32
  length_nonce : nonce.length = 12

/-- `toString("hex")` -/
def toHex (bytes : Bytes) : Text := utf16 (String.ofList (Hex.encode bytes))

/-- The bytes that are sealed for a receipt. -/
def plaintext (receipt : List (Text × Value format.Number)) : Bytes :=
  encodeUtf8 (stringify format 0 (.object receipt))

/-- The members of the object that is pinned. -/
def blobMembers (format : NumberFormat) (voterPubHex : Text) (nonce : Bytes)
    (box : Bytes × Bytes) : List (Text × Value format.Number) :=
  [(utf16 "version", .number (format.ofNat 1)), (utf16 "voterPubHex", .string voterPubHex),
    (utf16 "nonce", .string (toHex nonce)), (utf16 "tag", .string (toHex box.2)),
    (utf16 "ciphertext", .string (toHex box.1))]

/-- What `encrypt` returns. -/
structure EncryptedReceipt where
  cid : Text
  nonce : Text
  tag : Text
  pubkey : Text

section Service

variable (aes : AesGcm)

/-- The sealed receipt. -/
def box (receipt : List (Text × Value format.Number)) (draws : Draws) : Bytes × Bytes :=
  aes.sealBox draws.key draws.nonce (plaintext receipt)

/-- The document `encrypt` pins. -/
def blob (receipt : List (Text × Value format.Number)) (voterPubHex : Text) (draws : Draws) :
    Bytes :=
  encodeUtf8 (stringify format 0
    (.object (blobMembers format voterPubHex draws.nonce (box aes receipt draws))))

/-- `encrypt`.  `pinDocument` is the content identifier of a document. -/
def encrypt (pinDocument : Bytes → Text) (receipt : List (Text × Value format.Number))
    (voterPubHex : Text) (draws : Draws) : EncryptedReceipt where
  cid := pinDocument (blob aes receipt voterPubHex draws)
  nonce := toHex draws.nonce
  tag := toHex (box aes receipt draws).2
  pubkey := voterPubHex

/-- `Buffer.from(text, "hex")`: the bytes up to the first pair of characters that is no
byte. -/
def bufferFromHex : List Char → Bytes
  | high :: low :: rest =>
      match Hex.digitValue high, Hex.digitValue low with
      | some high, some low => UInt8.ofNat (16 * high + low) :: bufferFromHex rest
      | _, _ => []
  | _ => []

/-- A property that is a hexadecimal text.  For any other value `Buffer.from` is an
error or reads no text. -/
def hexProperty (object : Value format.Number) (key : Text) : Option Bytes :=
  match object.get key with
  | some (.string text) => some (bufferFromHex (scalarValues text))
  | _ => none

/-- `decrypt`.  `getDocument` fetches a document, and `toUtf8` is
`Buffer.toString("utf-8")`, which replaces what is not UTF-8; an exception is `none`. -/
def decrypt (getDocument : Text → Option Bytes) (toUtf8 : Bytes → Text) (cid : Text)
    (keyHex : Text) : Option (Value format.Number) := do
  let raw ← getDocument cid
  let object ← parse format (toUtf8 raw)
  let nonce ← hexProperty object (utf16 "nonce")
  let tag ← hexProperty object (utf16 "tag")
  let ciphertext ← hexProperty object (utf16 "ciphertext")
  let opened ← aes.openBox (bufferFromHex (scalarValues keyHex)) nonce ciphertext tag
  parse format (toUtf8 opened)

end Service

/-! ## The pinned object is read back -/

@[simp] theorem scalarValues_toHex (bytes : Bytes) :
    scalarValues (toHex bytes) = Hex.encode bytes := by
  have read := readUtf16_utf16 (String.ofList (Hex.encode bytes))
  rw [String.toList_ofList] at read
  exact scalarValues_of_readUtf16 read

@[simp] theorem bufferFromHex_encode (bytes : Bytes) :
    bufferFromHex (Hex.encode bytes) = bytes := by
  induction bytes with
  | nil => rfl
  | cons byte bytes ih =>
      have small := byte.toNat_lt
      have back : 16 * (byte.toNat / 16) + byte.toNat % 16 = byte.toNat := by omega
      rw [Hex.encode_cons, Hex.bytePair, List.cons_append, List.cons_append, List.nil_append,
        bufferFromHex, Hex.digitValue_digitChar (by omega), Hex.digitValue_digitChar (by omega)]
      simp only [back, UInt8.ofNat_toNat, ih]

section Blob

variable {voterPubHex : Text} {nonce : Bytes} {sealedBox : Bytes × Bytes}

theorem inOrder_blobMembers : InOrder (blobMembers format voterPubHex nonce sealedBox) := by
  rw [inOrder_iff_keys]
  show [utf16 "version", utf16 "voterPubHex", utf16 "nonce", utf16 "tag",
    utf16 "ciphertext"].Pairwise _
  decide

theorem ordered_blobMembers :
    (Value.object (blobMembers format voterPubHex nonce sealedBox)).Ordered := by
  refine .object inOrder_blobMembers fun member mem => ?_
  simp only [blobMembers, List.mem_cons, List.not_mem_nil, or_false] at mem
  rcases mem with rfl | rfl | rfl | rfl | rfl
  · exact .number _
  · exact .string _
  · exact .string _
  · exact .string _
  · exact .string _

theorem plain_blobMembers :
    Plain format (.object (blobMembers format voterPubHex nonce sealedBox)) := by
  refine .object fun member mem => ?_
  simp only [blobMembers, List.mem_cons, List.not_mem_nil, or_false] at mem
  rcases mem with rfl | rfl | rfl | rfl | rfl
  · exact .ofNat (by decide) (by decide)
  · exact .string _
  · exact .string _
  · exact .string _
  · exact .string _

theorem lookup_voterPubHex : (blobMembers format voterPubHex nonce sealedBox).lookup
    (utf16 "voterPubHex") = some (.string voterPubHex) := by
  have other : (utf16 "voterPubHex" == utf16 "version") = false := by decide
  simp [blobMembers, List.lookup_cons, other]

theorem lookup_nonce : (blobMembers format voterPubHex nonce sealedBox).lookup (utf16 "nonce") =
    some (.string (toHex nonce)) := by
  have other : ∀ key ∈ [utf16 "version", utf16 "voterPubHex"],
      (utf16 "nonce" == key) = false := by decide
  simp [blobMembers, List.lookup_cons, other]

theorem lookup_tag : (blobMembers format voterPubHex nonce sealedBox).lookup (utf16 "tag") =
    some (.string (toHex sealedBox.2)) := by
  have other : ∀ key ∈ [utf16 "version", utf16 "voterPubHex", utf16 "nonce"],
      (utf16 "tag" == key) = false := by decide
  simp [blobMembers, List.lookup_cons, other]

theorem lookup_ciphertext : (blobMembers format voterPubHex nonce sealedBox).lookup
    (utf16 "ciphertext") = some (.string (toHex sealedBox.1)) := by
  have other : ∀ key ∈ [utf16 "version", utf16 "voterPubHex", utf16 "nonce", utf16 "tag"],
      (utf16 "ciphertext" == key) = false := by decide
  simp [blobMembers, List.lookup_cons, other]

end Blob

/-- **Who has the key has the receipt**: the service reads back what it has pinned, given
the key it has drawn. -/
theorem decrypt_encrypt {aes : AesGcm} {pinDocument : Bytes → Text}
    {getDocument : Text → Option Bytes} {toUtf8 : Bytes → Text}
    (stored : ∀ document, getDocument (pinDocument document) = some document)
    (decoded : ∀ text, WellFormed text → toUtf8 (encodeUtf8 text) = text)
    {receipt : List (Text × Value format.Number)} (ordered : (Value.object receipt).Ordered)
    (voterPubHex : Text) (draws : Draws) :
    decrypt aes getDocument toUtf8 (encrypt aes pinDocument receipt voterPubHex draws).cid
        (toHex draws.key) =
      some (printedValue format (.object receipt)) := by
  have parsed : parse format (toUtf8 (blob aes receipt voterPubHex draws)) =
      some (.object (blobMembers format voterPubHex draws.nonce (box aes receipt draws))) := by
    rw [blob, decoded _ (wellFormed_stringify ordered_blobMembers),
      parse_stringify format 0 ordered_blobMembers, plain_blobMembers.printedValue_eq]
  have opened : aes.openBox draws.key draws.nonce (box aes receipt draws).1
      (box aes receipt draws).2 = some (plaintext receipt) := aes.openBox_sealBox _ _ _
  have receiptParsed : parse format (toUtf8 (plaintext receipt)) =
      some (printedValue format (.object receipt)) := by
    rw [plaintext, decoded _ (wellFormed_stringify ordered), parse_stringify format 0 ordered]
  simp only [decrypt, encrypt, stored, parsed, hexProperty, Value.get, lookup_nonce, lookup_tag,
    lookup_ciphertext, scalarValues_toHex, bufferFromHex_encode, opened, receiptParsed, bind,
    Option.bind_some]

end TheVoteApp.ReceiptEncryptionService
