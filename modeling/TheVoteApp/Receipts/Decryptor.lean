import TheVoteApp.Receipts.Service

/-!
# Encrypted receipts: the apps

Each app has a `ReceiptDecryptor` that reads the pinned object, derives an AES key and
opens the box.  Both derive the key with HKDF-SHA256 under the salt
`receipt-encryption`, from different material: the iOS app from a shared secret of the
voter's private key and the public key in the object, which is the voter's own; the
Android app from the encoding of its key in the Keystore, or from 32 zero bytes where the
Keystore does not give it away.

Neither is the key the receipt was sealed with.  An app returns the receipt exactly when
the 32 random bytes happen to be the key it derives (`decrypt_receipt_iff`).

## Main definitions

* `JsonLibrary`, `P256`, `HmacSha256` — what the apps use of their platforms
* `Ios.decrypt`, `Android.decrypt`
-/

namespace TheVoteApp.ReceiptDecryptor

open Solidity JavaScript Foundations ReceiptEncryptionService

variable {format : NumberFormat}

/-- A member that every JSON library reads alike: a text of characters, or a natural
number that is represented exactly. -/
def Simple (member : Text × Value format.Number) : Prop :=
  WellFormed member.1 ∧
    ((∃ text, WellFormed text ∧ member.2 = .string text) ∨
      ∃ n < 2 ^ 53, member.2 = .number (format.ofNat n))

/-- A platform's JSON library.  `readObject` decodes UTF-8 and parses an object, `none`
for an exception or another value; `getString` reads a property as a string. -/
structure JsonLibrary (format : NumberFormat) where
  readObject : Bytes → Option (List (Text × Value format.Number))
  getString : List (Text × Value format.Number) → Text → Option Text
  readObject_stringify : ∀ members, InOrder members → (∀ member ∈ members, Simple member) →
    readObject (encodeUtf8 (stringify format 0 (.object members))) = some members
  getString_eq : ∀ members key text, members.lookup key = some (.string text) →
    getString members key = some text

/-- P-256 key agreement.  `encoded` is what Java's `Key.getEncoded` returns for a key;
the Android Keystore keeps it to itself. -/
structure P256 where
  PrivateKey : Type
  PublicKey : Type
  publicKey : PrivateKey → PublicKey
  compressedRepresentation : PublicKey → Bytes
  ofCompressed : Bytes → Option PublicKey
  ofCompressed_compressed : ∀ key, ofCompressed (compressedRepresentation key) = some key
  sharedSecret : PrivateKey → PublicKey → Bytes
  encoded : PrivateKey → Option Bytes

/-- HMAC with SHA-256, as far as its length goes. -/
structure HmacSha256 where
  mac : Bytes → Bytes → Bytes
  length_mac : ∀ key data, (mac key data).length = 32

/-- One block of HKDF with SHA-256. -/
def HmacSha256.hkdf (hmac : HmacSha256) (inputKeyMaterial salt info : Bytes) : Bytes :=
  hmac.mac (hmac.mac salt inputKeyMaterial) (info ++ [0x01])

/-- The salt of both derivations. -/
def salt : Bytes := toUtf8Bytes "receipt-encryption"

namespace Ios

/-- `UInt8(text, radix: 16)` on two characters, of which the first may be a sign. -/
def byte (high low : Char) : Option UInt8 :=
  if high = '+' then (Hex.digitValue low).map UInt8.ofNat
  else if high = '-' then if Hex.digitValue low = some 0 then some 0 else none
  else do
    let high ← Hex.digitValue high
    let low ← Hex.digitValue low
    some (UInt8.ofNat (16 * high + low))

/-- The bytes of pairs of characters; an odd one is an error. -/
def bytePairs : List Char → Option Bytes
  | [] => some []
  | [_] => none
  | high :: low :: rest => do
      let first ← byte high low
      let bytes ← bytePairs rest
      some (first :: bytes)

/-- `Data(hexString:)` -/
def dataOfHex (text : Text) : Option Bytes :=
  match scalarValues text with
  | '0' :: 'x' :: digits => bytePairs digits
  | digits => bytePairs digits

variable (json : JsonLibrary format) (aes : AesGcm) (p256 : P256) (hmac : HmacSha256)

/-- The key that `decrypt` derives. -/
def symmetricKey (privateKey : p256.PrivateKey) (backendPub : p256.PublicKey) : Bytes :=
  hmac.hkdf (p256.sharedSecret privateKey backendPub) salt []

/-- `decrypt` -/
def decrypt (blob : Bytes) (privateKey : p256.PrivateKey) :
    Option (List (Text × Value format.Number)) := do
  let object ← json.readObject blob
  let nonce ← (json.getString object (utf16 "nonce")).bind dataOfHex
  let tag ← (json.getString object (utf16 "tag")).bind dataOfHex
  let ciphertext ← (json.getString object (utf16 "ciphertext")).bind dataOfHex
  let compressed ← (json.getString object (utf16 "voterPubHex")).bind dataOfHex
  let backendPub ← p256.ofCompressed compressed
  if 12 ≤ nonce.length ∧ tag.length = 16 then
    let opened ← aes.openBox (symmetricKey p256 hmac privateKey backendPub) nonce ciphertext tag
    json.readObject opened
  else none

end Ios

namespace Android

/-- `toInt(16).toByte()` on one or two characters, of which the first may be a sign.
Only ASCII digits are read here. -/
def byte (high low : Char) : Option UInt8 :=
  if high = '+' then (Hex.digitValue low).map UInt8.ofNat
  else if high = '-' then (Hex.digitValue low).map fun n => UInt8.ofNat (256 - n)
  else do
    let high ← Hex.digitValue high
    let low ← Hex.digitValue low
    some (UInt8.ofNat (16 * high + low))

/-- `hexToBytes`: the last chunk may have one digit. -/
def hexToBytes : List Char → Option Bytes
  | [] => some []
  | [digit] => (Hex.digitValue digit).map fun n => [UInt8.ofNat n]
  | high :: low :: rest => do
      let first ← byte high low
      let bytes ← hexToBytes rest
      some (first :: bytes)

/-- `copyOf(32)` -/
def copyOf32 (bytes : Bytes) : Bytes := (bytes ++ List.replicate 32 0).take 32

variable (json : JsonLibrary format) (aes : AesGcm) (p256 : P256) (hmac : HmacSha256)

/-- `deriveAesKey` -/
def deriveAesKey (ikm : Bytes) : Bytes :=
  let prk := hmac.mac salt ikm
  copyOf32 (hmac.mac prk [0x01])

/-- The key that `decrypt` derives from the Keystore's. -/
def aesKey (privateKey : p256.PrivateKey) : Bytes :=
  deriveAesKey hmac ((p256.encoded privateKey).getD (List.replicate 32 0))

/-- `Cipher.doFinal`, which takes the last 16 bytes for the tag. -/
def doFinal (key nonce cipherWithTag : Bytes) : Option Bytes :=
  if cipherWithTag.length < 16 then none
  else
    let tagStart := cipherWithTag.length - 16
    aes.openBox key nonce (cipherWithTag.take tagStart) (cipherWithTag.drop tagStart)

/-- `decrypt`, with the key the Keystore has under the app's alias. -/
def decrypt (blob : Bytes) (keystoreKey : Option p256.PrivateKey) :
    Option (List (Text × Value format.Number)) := do
  let object ← json.readObject blob
  let nonceBytes ← (json.getString object (utf16 "nonce")).bind fun text =>
    hexToBytes (scalarValues text)
  let tagBytes ← (json.getString object (utf16 "tag")).bind fun text =>
    hexToBytes (scalarValues text)
  let ciphertext ← (json.getString object (utf16 "ciphertext")).bind fun text =>
    hexToBytes (scalarValues text)
  let privateKey ← keystoreKey
  let opened ← doFinal aes (aesKey p256 hmac privateKey) nonceBytes (ciphertext ++ tagBytes)
  json.readObject opened

end Android

/-! ## What the apps read in the pinned object -/

/-- A digit that is written is no sign. -/
theorem digitChar_ne_sign {n : ℕ} (small : n < 16) :
    Nat.digitChar n ≠ '+' ∧ Nat.digitChar n ≠ '-' := by
  have value := Hex.digitValue_digitChar small
  constructor
  · intro sign
    rw [sign] at value
    cases value
  · intro sign
    rw [sign] at value
    cases value

/-- The two digits of a byte: the first is no sign, and together they are the byte. -/
theorem digits_of_byte (byte : UInt8) :
    (Nat.digitChar (byte.toNat / 16) ≠ '+' ∧ Nat.digitChar (byte.toNat / 16) ≠ '-') ∧
      Hex.digitValue (Nat.digitChar (byte.toNat / 16)) = some (byte.toNat / 16) ∧
      Hex.digitValue (Nat.digitChar (byte.toNat % 16)) = some (byte.toNat % 16) ∧
      UInt8.ofNat (16 * (byte.toNat / 16) + byte.toNat % 16) = byte := by
  have small := byte.toNat_lt
  have high : byte.toNat / 16 < 16 := by omega
  have low : byte.toNat % 16 < 16 := by omega
  refine ⟨digitChar_ne_sign high, Hex.digitValue_digitChar high, Hex.digitValue_digitChar low, ?_⟩
  rw [Nat.div_add_mod, UInt8.ofNat_toNat]

theorem Ios.bytePairs_encode (bytes : Bytes) : Ios.bytePairs (Hex.encode bytes) = some bytes := by
  induction bytes with
  | nil => rfl
  | cons byte bytes ih =>
      obtain ⟨noSign, high, low, back⟩ := digits_of_byte byte
      rw [Hex.encode_cons, Hex.bytePair, List.cons_append, List.cons_append, List.nil_append,
        Ios.bytePairs, ih, Ios.byte, if_neg noSign.1, if_neg noSign.2, high, low]
      simp only [bind, Option.bind_some, back]

theorem Android.hexToBytes_encode (bytes : Bytes) :
    Android.hexToBytes (Hex.encode bytes) = some bytes := by
  induction bytes with
  | nil => rfl
  | cons byte bytes ih =>
      obtain ⟨noSign, high, low, back⟩ := digits_of_byte byte
      rw [Hex.encode_cons, Hex.bytePair, List.cons_append, List.cons_append, List.nil_append,
        Android.hexToBytes, ih, Android.byte, if_neg noSign.1, if_neg noSign.2, high, low]
      simp only [bind, Option.bind_some, back]

/-- What is written has no prefix to drop. -/
theorem Ios.dataOfHex_toHex (bytes : Bytes) : Ios.dataOfHex (toHex bytes) = some bytes := by
  have digits : ∀ c ∈ Hex.encode bytes, Hex.isDigit c = true := fun _ => Hex.isDigit_of_mem_encode
  unfold Ios.dataOfHex
  rw [scalarValues_toHex]
  split
  · rename_i rest shape
    have isDigit : Hex.isDigit 'x' = true := digits 'x' (by simp [shape])
    exact absurd isDigit (by decide)
  · exact Ios.bytePairs_encode bytes

/-- The Android app's derivation is HKDF without context information. -/
theorem Android.deriveAesKey_eq (hmac : HmacSha256) (ikm : Bytes) :
    Android.deriveAesKey hmac ikm = hmac.hkdf ikm salt [] := by
  show Android.copyOf32 (hmac.hkdf ikm salt []) = _
  exact List.take_left' (hmac.length_mac _ _)

theorem simple_blobMembers {voterPubHex : Text} (wellFormed : WellFormed voterPubHex)
    (nonce : Bytes) (sealedBox : Bytes × Bytes) :
    ∀ member ∈ blobMembers format voterPubHex nonce sealedBox, Simple member := by
  intro member mem
  simp only [blobMembers, List.mem_cons, List.not_mem_nil, or_false] at mem
  rcases mem with rfl | rfl | rfl | rfl | rfl
  · exact ⟨.utf16 _, .inr ⟨1, by decide, rfl⟩⟩
  · exact ⟨.utf16 _, .inl ⟨_, wellFormed, rfl⟩⟩
  · exact ⟨.utf16 _, .inl ⟨_, .utf16 _, rfl⟩⟩
  · exact ⟨.utf16 _, .inl ⟨_, .utf16 _, rfl⟩⟩
  · exact ⟨.utf16 _, .inl ⟨_, .utf16 _, rfl⟩⟩

section Opened

variable (json : JsonLibrary format) (aes : AesGcm) (p256 : P256) (hmac : HmacSha256)
  (receipt : List (Text × Value format.Number)) (privateKey : p256.PrivateKey) (draws : Draws)

/-- The document pinned for a voter: `encrypt` gets the compressed public key. -/
def pinnedBlob : Bytes :=
  blob aes receipt (toHex (p256.compressedRepresentation (p256.publicKey privateKey))) draws

theorem readObject_pinnedBlob : json.readObject (pinnedBlob aes p256 receipt privateKey draws) =
    some (blobMembers format (toHex (p256.compressedRepresentation (p256.publicKey privateKey)))
      draws.nonce (box aes receipt draws)) :=
  json.readObject_stringify _ inOrder_blobMembers (simple_blobMembers (.utf16 _) _ _)

/-- The app gets as far as opening the box. -/
theorem Ios.decrypt_pinnedBlob :
    Ios.decrypt json aes p256 hmac (pinnedBlob aes p256 receipt privateKey draws) privateKey =
      (aes.openBox (Ios.symmetricKey p256 hmac privateKey (p256.publicKey privateKey)) draws.nonce
        (box aes receipt draws).1 (box aes receipt draws).2).bind json.readObject := by
  have fits : 12 ≤ draws.nonce.length ∧ (box aes receipt draws).2.length = 16 :=
    ⟨draws.length_nonce.ge, aes.length_tag _ _ _⟩
  simp only [Ios.decrypt, readObject_pinnedBlob, json.getString_eq _ _ _ lookup_nonce,
    json.getString_eq _ _ _ lookup_tag, json.getString_eq _ _ _ lookup_ciphertext,
    json.getString_eq _ _ _ lookup_voterPubHex, Ios.dataOfHex_toHex,
    p256.ofCompressed_compressed, bind, Option.bind_some, if_pos fits]

/-- The app takes the tag from where it has put it. -/
theorem Android.doFinal_append (key nonce ciphertext tag : Bytes) (length : tag.length = 16) :
    Android.doFinal aes key nonce (ciphertext ++ tag) = aes.openBox key nonce ciphertext tag := by
  have tagStart : (ciphertext ++ tag).length - 16 = ciphertext.length := by
    rw [List.length_append, length, Nat.add_sub_cancel]
  have long : ¬ (ciphertext ++ tag).length < 16 := by
    rw [List.length_append]
    omega
  rw [Android.doFinal, if_neg long]
  simp only [tagStart, List.take_left, List.drop_left]

theorem Android.decrypt_pinnedBlob :
    Android.decrypt json aes p256 hmac (pinnedBlob aes p256 receipt privateKey draws)
        (some privateKey) =
      (aes.openBox (Android.aesKey p256 hmac privateKey) draws.nonce
        (box aes receipt draws).1 (box aes receipt draws).2).bind json.readObject := by
  have length : (box aes receipt draws).2.length = 16 := aes.length_tag _ _ _
  simp only [Android.decrypt, readObject_pinnedBlob, json.getString_eq _ _ _ lookup_nonce,
    json.getString_eq _ _ _ lookup_tag, json.getString_eq _ _ _ lookup_ciphertext,
    scalarValues_toHex, Android.hexToBytes_encode, bind, Option.bind_some,
    Android.doFinal_append aes _ _ _ _ length]

/-- A key opens the box to the receipt exactly if it is the one that was drawn, and the
library reads the printed receipt back. -/
theorem openBox_box_eq_some_iff
    (ideal : aes.OpensOnlyUnder draws.key draws.nonce (plaintext receipt)) (key : Bytes) :
    (aes.openBox key draws.nonce (box aes receipt draws).1 (box aes receipt draws).2).bind
        json.readObject = some receipt ↔
      draws.key = key ∧ json.readObject (plaintext receipt) = some receipt := by
  have opened : aes.openBox draws.key draws.nonce (box aes receipt draws).1
      (box aes receipt draws).2 = some (plaintext receipt) := aes.openBox_sealBox _ _ _
  by_cases same : key = draws.key
  · rw [same, opened, Option.bind_some]
    exact ⟨fun read => ⟨rfl, read⟩, fun both => both.2⟩
  · have closed : aes.openBox key draws.nonce (box aes receipt draws).1
        (box aes receipt draws).2 = none := ideal key same
    rw [closed, Option.bind_none]
    constructor
    · intro read
      cases read
    · rintro ⟨drawn, -⟩
      exact absurd drawn.symm same

/-- **Exactly the draw of its own key lets an app read the receipt.**  `encrypt` seals it
under 32 random bytes, and an app opens it with an HKDF block: the iOS app of a secret
its private key shares with its own public key, the Android app of the encoded private key
or of zero bytes. -/
theorem decrypt_receipt_iff
    (ideal : aes.OpensOnlyUnder draws.key draws.nonce (plaintext receipt)) :
    (Ios.decrypt json aes p256 hmac (pinnedBlob aes p256 receipt privateKey draws) privateKey =
        some receipt ↔
      draws.key = hmac.hkdf (p256.sharedSecret privateKey (p256.publicKey privateKey)) salt [] ∧
        json.readObject (plaintext receipt) = some receipt) ∧
    (Android.decrypt json aes p256 hmac (pinnedBlob aes p256 receipt privateKey draws)
          (some privateKey) = some receipt ↔
      draws.key = hmac.hkdf ((p256.encoded privateKey).getD (List.replicate 32 0)) salt [] ∧
        json.readObject (plaintext receipt) = some receipt) := by
  constructor
  · rw [Ios.decrypt_pinnedBlob]
    exact openBox_box_eq_some_iff json aes receipt draws ideal _
  · rw [Android.decrypt_pinnedBlob, Android.aesKey, Android.deriveAesKey_eq]
    exact openBox_box_eq_some_iff json aes receipt draws ideal _

end Opened

/-! ### One receipt, two draws

The digests, keys and boxes are those of the libraries, for one key pair and one
receipt. -/

/-- A JSON library that reads UTF-8 as `JSON.parse` reads a text. -/
def jsonLibrary (format : NumberFormat) : JsonLibrary format where
  readObject bytes :=
    match (decodeUtf8 bytes).bind (parse format) with
    | some (.object members) => some members
    | _ => none
  getString members key :=
    match members.lookup key with
    | some (.string text) => some text
    | _ => none
  readObject_stringify members inOrder simple := by
    have ordered : (Value.object members).Ordered := by
      refine .object inOrder fun member mem => ?_
      obtain ⟨-, ⟨text, -, value⟩ | ⟨n, -, value⟩⟩ := simple member mem
      · exact value ▸ .string text
      · exact value ▸ .number _
    have printed : printedMembers format members = members := by
      rw [printedMembers_eq_map]
      refine (List.map_congr_left fun member mem => ?_).trans (List.map_id' _)
      obtain ⟨-, ⟨text, -, value⟩ | ⟨n, small, value⟩⟩ := simple member mem
      · exact Prod.ext rfl (by rw [value]; rfl)
      · exact Prod.ext rfl (by rw [value]; exact printedNumber_ofNat small)
    rw [decodeUtf8_stringify ordered, Option.bind_some, parse_stringify format 0 ordered,
      printedValue, printed]
  getString_eq members key text found := by rw [found]

/-- The cipher at one box: under the key, nonce and plaintext it gives the ciphertext and
the tag. -/
def aesAt (key nonce plaintext ciphertext tag : Bytes) (length : tag.length = 16)
    (other : tag ≠ List.replicate 16 0) : AesGcm where
  sealBox k n p :=
    if k = key ∧ n = nonce ∧ p = plaintext then (ciphertext, tag)
    else (p, List.replicate 16 0)
  openBox k n c t :=
    if c = ciphertext ∧ t = tag then if k = key ∧ n = nonce then some plaintext else none
    else if t = List.replicate 16 0 then some c else none
  length_tag k n p := by
    split
    · exact length
    · exact List.length_replicate
  openBox_sealBox k n p := by
    by_cases box : k = key ∧ n = nonce ∧ p = plaintext
    · rw [if_pos box, if_pos ⟨rfl, rfl⟩, if_pos ⟨box.1, box.2.1⟩, box.2.2]
    · rw [if_neg box, if_neg fun same => other same.2.symm, if_pos rfl]

theorem opensOnlyUnder_aesAt {key nonce plaintext ciphertext tag : Bytes}
    {length : tag.length = 16} {other : tag ≠ List.replicate 16 0} :
    (aesAt key nonce plaintext ciphertext tag length other).OpensOnlyUnder key nonce plaintext := by
  intro k wrong
  simp only [aesAt, and_self, if_true]
  exact if_neg fun same => wrong same.1

/-- One key pair, with its shared secret. -/
def sampleP256 : P256 where
  PrivateKey := Unit
  PublicKey := Unit
  publicKey := id
  compressedRepresentation _ :=
    0x03 :: bigEndian 32 0x60fed4ba255a9d31c961eb74c6356d68c049b8923b61fa6ce669622e60f29fb6
  ofCompressed _ := some ()
  ofCompressed_compressed _ := rfl
  sharedSecret _ _ :=
    bigEndian 32 0x2388ee990c93c4bb757203225b7786d69950d2f0de43cdf23dc71f5efaa169c8
  encoded _ := none

/-- The key of the sample pair. -/
def sampleKey : sampleP256.PrivateKey := ()

/-- The pseudorandom keys and the blocks of the two derivations. -/
def sampleMac (key data : Bytes) : ℕ :=
  if key = salt ∧ data = sampleP256.sharedSecret () () then
    0x04e09c3c640a3cdd8e89c64fccd3b1659e9cb24ad09475c889112c918c7f6dfb
  else if key = salt ∧ data = List.replicate 32 0 then
    0x5f838663d0f0ca665c6ed74cfeae33f51d8b511adec25834128000a9700799f7
  else if key = bigEndian 32 0x04e09c3c640a3cdd8e89c64fccd3b1659e9cb24ad09475c889112c918c7f6dfb then
    0x12d2959417c2651db3899e32ab06f0665f99c614f8f74f17e02effac21fa2fd0
  else 0x50f213eff31696ad7ec690dbbc083839769a1be2d6588f4631fc56b0be10e544

/-- HMAC on the inputs of the sample derivations. -/
def sampleHmac : HmacSha256 where
  mac key data := bigEndian 32 (sampleMac key data)
  length_mac _ _ := bigEndian_length 32 _

/-- The members of a receipt. -/
def sampleReceipt : List (Text × Value NumberFormat.naturals.Number) :=
  [(utf16 "policyId", .string (utf16 "healthcare-reform-2026")),
    (utf16 "blockNumber", .number (NumberFormat.naturals.ofNat 42))]

/-- The draws of one encryption. -/
def sampleDraws (key : ℕ) : Draws where
  key := bigEndian 32 key
  nonce := bigEndian 12 0x000102030405060708090a0b
  length_key := bigEndian_length 32 _
  length_nonce := bigEndian_length 12 _

/-- The cipher at the sample receipt's box under one draw. -/
def sampleAes (key ciphertext tag : ℕ) (other : bigEndian 16 tag ≠ List.replicate 16 0) : AesGcm :=
  aesAt (sampleDraws key).key (sampleDraws key).nonce (plaintext sampleReceipt)
    (bigEndian 54 ciphertext) (bigEndian 16 tag) (bigEndian_length 16 _) other

theorem opensOnlyUnder_sampleAes (key ciphertext tag : ℕ)
    (other : bigEndian 16 tag ≠ List.replicate 16 0) :
    (sampleAes key ciphertext tag other).OpensOnlyUnder (sampleDraws key).key
      (sampleDraws key).nonce (plaintext sampleReceipt) := by
  unfold sampleAes
  exact opensOnlyUnder_aesAt

theorem readObject_sampleReceipt :
    (jsonLibrary .naturals).readObject (plaintext sampleReceipt) = some sampleReceipt := by
  have inOrder : InOrder sampleReceipt := by
    rw [inOrder_iff_keys]
    show [utf16 "policyId", utf16 "blockNumber"].Pairwise _
    decide
  have simple : ∀ member ∈ sampleReceipt, Simple member := by
    intro member mem
    simp only [sampleReceipt, List.mem_cons, List.not_mem_nil, or_false] at mem
    rcases mem with rfl | rfl
    · exact ⟨.utf16 _, .inl ⟨_, .utf16 _, rfl⟩⟩
    · exact ⟨.utf16 _, .inr ⟨42, by decide, rfl⟩⟩
  have read := (jsonLibrary .naturals).readObject_stringify sampleReceipt inOrder simple
  unfold plaintext
  exact read

/-- The draw that is the key the Android app derives. -/
def guessedDraws : Draws :=
  sampleDraws 0x50f213eff31696ad7ec690dbbc083839769a1be2d6588f4631fc56b0be10e544

/-- AES-GCM under the key the Android app derives. -/
def guessedAes : AesGcm :=
  sampleAes 0x50f213eff31696ad7ec690dbbc083839769a1be2d6588f4631fc56b0be10e544
    (0x2f205587b7e42a2dc4fe11d8e8cfd17f9ff20e2eb8faf79f6a39368724 * 256 ^ 25 +
      0xb79cd4f91e8fb46f11f36b1052fe17baef9d46538fea859b6a)
    0x79d80f90ba9e2615b2866bdb0779a4fd (by decide)

/-- A draw like any other. -/
def otherDraws : Draws :=
  sampleDraws 0x50f7becde477bb509c7704de62c349247fb3499c03a95e4bce20151cd552dea5

/-- AES-GCM under the key of the other draw. -/
def otherAes : AesGcm :=
  sampleAes 0x50f7becde477bb509c7704de62c349247fb3499c03a95e4bce20151cd552dea5
    (0x722e2af2b37ba499ccec7a0eb69bfc61af84ea250139f04175ed211888 * 256 ^ 25 +
      0x89afb025120ea99d31f150ca641cb9de4715853e4746ca8250)
    0xfd2ecde25dddfe60bfb692bb5d6a286d (by decide)

/-- The two keys of the sample key pair. -/
theorem hkdf_sample :
    sampleHmac.hkdf (sampleP256.sharedSecret sampleKey (sampleP256.publicKey sampleKey)) salt [] =
        bigEndian 32 0x12d2959417c2651db3899e32ab06f0665f99c614f8f74f17e02effac21fa2fd0 ∧
      sampleHmac.hkdf ((sampleP256.encoded sampleKey).getD (List.replicate 32 0)) salt [] =
        bigEndian 32 0x50f213eff31696ad7ec690dbbc083839769a1be2d6588f4631fc56b0be10e544 := by
  decide

/-- With the guessed draw the Android app reads the receipt, and the iOS app does not. -/
theorem decrypt_receipt_iff_sample :
    Android.decrypt (jsonLibrary .naturals) guessedAes sampleP256 sampleHmac
        (pinnedBlob guessedAes sampleP256 sampleReceipt sampleKey guessedDraws) (some sampleKey) =
        some sampleReceipt ∧
      Ios.decrypt (jsonLibrary .naturals) guessedAes sampleP256 sampleHmac
        (pinnedBlob guessedAes sampleP256 sampleReceipt sampleKey guessedDraws) sampleKey ≠
        some sampleReceipt := by
  obtain ⟨ios, android⟩ := decrypt_receipt_iff (jsonLibrary .naturals) guessedAes sampleP256
    sampleHmac sampleReceipt sampleKey guessedDraws (opensOnlyUnder_sampleAes _ _ _ _)
  refine ⟨android.mpr ⟨hkdf_sample.2.symm, readObject_sampleReceipt⟩, fun opened => ?_⟩
  have drawn : guessedDraws.key =
      bigEndian 32 0x12d2959417c2651db3899e32ab06f0665f99c614f8f74f17e02effac21fa2fd0 :=
    (ios.mp opened).1.trans hkdf_sample.1
  exact absurd drawn (by decide)

/-- With the other draw neither app opens the box. -/
theorem decrypt_receipt_counterexample :
    Ios.decrypt (jsonLibrary .naturals) otherAes sampleP256 sampleHmac
        (pinnedBlob otherAes sampleP256 sampleReceipt sampleKey otherDraws) sampleKey = none ∧
      Android.decrypt (jsonLibrary .naturals) otherAes sampleP256 sampleHmac
        (pinnedBlob otherAes sampleP256 sampleReceipt sampleKey otherDraws) (some sampleKey) =
        none := by
  have ideal : otherAes.OpensOnlyUnder otherDraws.key otherDraws.nonce (plaintext sampleReceipt) :=
    opensOnlyUnder_sampleAes _ _ _ _
  have iosKey : Ios.symmetricKey sampleP256 sampleHmac sampleKey (sampleP256.publicKey sampleKey) ≠
      otherDraws.key := by
    unfold Ios.symmetricKey
    rw [hkdf_sample.1]
    decide
  have androidKey : Android.aesKey sampleP256 sampleHmac sampleKey ≠ otherDraws.key := by
    rw [Android.aesKey, Android.deriveAesKey_eq, hkdf_sample.2]
    decide
  constructor
  · rw [Ios.decrypt_pinnedBlob]
    exact Option.bind_eq_none_iff.mpr fun opened found =>
      absurd ((ideal _ iosKey).symm.trans found) (Option.some_ne_none _).symm
  · rw [Android.decrypt_pinnedBlob]
    exact Option.bind_eq_none_iff.mpr fun opened found =>
      absurd ((ideal _ androidKey).symm.trans found) (Option.some_ne_none _).symm

end TheVoteApp.ReceiptDecryptor
