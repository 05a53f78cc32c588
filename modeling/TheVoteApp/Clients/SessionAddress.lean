import TheVoteApp.Clients.VoteWireFormat

/-!
# The address of a session key

Both apps derive the address in a voter's DID from the compressed public key of
the session key, by SHA-256.  CryptoKit compresses the key itself.  The Android
app takes the coordinates as `BigInteger`s and writes them with `toByteArray`,
which is as long as the number asks for: a byte of zeros comes first when the top
bit is set, and small coordinates are short.

`toByteArrayUnsigned_eq` says that the helper behind it evens this out for every
number that fits the width, and `deriveEthereumAddress_eq` that the apps agree.
-/

namespace TheVoteApp.DIDService

open Solidity BlockchainVoteService

/-! ## The Android app -/

namespace Android

/-- `BigInteger.bitLength`, the sign bit apart. -/
def bitLength : ℤ → ℕ
  | .ofNat n => n.size
  | .negSucc n => n.size

/-- `BigInteger.toByteArray`: the shortest two's-complement form. -/
def toByteArray (n : ℤ) : Bytes :=
  let size := bitLength n / 8 + 1
  bigEndian size (n % 256 ^ size).toNat

/-- `toByteArrayUnsigned`: a sign byte is dropped, zeros are put in front. -/
def toByteArrayUnsigned (n : ℤ) (length : ℕ) : Bytes :=
  let raw := toByteArray n
  if raw.length = length + 1 ∧ raw.head? = some 0 then raw.drop 1
  else if raw.length < length then List.replicate (length - raw.length) 0 ++ raw
  else raw

/-- The coordinates of a point, as the Keystore gives them. -/
structure ECPublicKey where
  affineX : ℤ
  affineY : ℤ

/-- `compressPublicKey`; `none` is the exception of `last`.  `toInt` extends the
sign of the byte. -/
def compressPublicKey (publicKey : ECPublicKey) : Option Bytes := do
  let x := toByteArrayUnsigned publicKey.affineX 32
  let y := toByteArrayUnsigned publicKey.affineY 32
  let last ← y.getLast?
  let sign : UInt8 := if last.toInt8.toInt32 &&& 1 = 0 then 0x02 else 0x03
  return [sign] ++ x

/-- `takeLast(n)` -/
def takeLast (n : ℕ) (bytes : Bytes) : Bytes := bytes.drop (bytes.length - n)

/-- `deriveEthereumAddress`, for the key the Keystore holds; `none` is an
exception. -/
def deriveEthereumAddress (sha256 : Bytes → Bytes32) (key : Option ECPublicKey) :
    Option String := do
  let publicKey ← key
  let compressedKey ← compressPublicKey publicKey
  let hash := digestBytes (sha256 compressedKey)
  return "0x" ++ hexString (takeLast 20 hash)

end Android

/-! ## The iOS app -/

namespace Ios

/-- `P256.Signing.PublicKey.compressedRepresentation`: the SEC 1 form. -/
def compressedRepresentation (x y : ℕ) : Bytes :=
  (if y % 2 = 0 then 0x02 else 0x03) :: bigEndian 32 x

/-- `suffix(maxLength)` -/
def suffix (maxLength : ℕ) (bytes : Bytes) : Bytes := bytes.drop (bytes.length - maxLength)

/-- `ethereumAddress`, for the point with coordinates `x` and `y`. -/
def ethereumAddress (sha256 : Bytes → Bytes32) (x y : ℕ) : String :=
  let keyBytes := compressedRepresentation x y
  let hash := digestBytes (sha256 keyBytes)
  let addressBytes := suffix 20 hash
  "0x" ++ hexString addressBytes

end Ios

/-! ## Coordinates of a fixed width -/

theorem bigEndian_add (front back n : ℕ) :
    bigEndian (front + back) n = bigEndian front (n / 256 ^ back) ++ bigEndian back n := by
  induction back generalizing n with
  | zero => simp [bigEndian]
  | succ back ih =>
      show bigEndian (front + back) (n / 256) ++ _ = _
      rw [ih, Nat.div_div_eq_div_mul, ← pow_succ', List.append_assoc]
      rfl

theorem bigEndian_zero (length : ℕ) : bigEndian length 0 = List.replicate length 0 := by
  induction length with
  | zero => rfl
  | succ length ih =>
      rw [bigEndian, List.replicate_succ', Nat.zero_div, ih]
      rfl

/-- Zeros in front do not change the number. -/
theorem bigEndian_of_lt {back n : ℕ} (small : n < 256 ^ back) (front : ℕ) :
    bigEndian (front + back) n = List.replicate front 0 ++ bigEndian back n := by
  rw [bigEndian_add, Nat.div_eq_of_lt small, bigEndian_zero]

/-- What a number of bytes holds, in bits. -/
theorem pow_bytes (length : ℕ) : 256 ^ length = 2 ^ (8 * length) := by
  rw [pow_mul]
  norm_num

namespace Android

theorem toByteArray_natCast (n : ℕ) : toByteArray n = bigEndian (n.size / 8 + 1) n := by
  have fits : n < 256 ^ (n.size / 8 + 1) := by
    have bits : n < 2 ^ n.size := Nat.lt_size_self n
    rw [pow_bytes]
    exact bits.trans_le (Nat.pow_le_pow_right (by decide) (by omega))
  have number : ((n : ℤ) % 256 ^ (n.size / 8 + 1)).toNat = n := by
    rw [Int.emod_eq_of_lt (Int.natCast_nonneg n) (by exact_mod_cast fits), Int.toNat_natCast]
  show bigEndian (n.size / 8 + 1) _ = _
  rw [show bitLength n = n.size from rfl, number]

/-- **A fixed width.**  Whatever its magnitude, a number that fits is written with
exactly that many bytes. -/
theorem toByteArrayUnsigned_eq {length n : ℕ} (fits : n < 256 ^ length) :
    toByteArrayUnsigned n length = bigEndian length n := by
  have bits : n.size ≤ 8 * length := by
    rw [Nat.size_le, ← pow_bytes]
    exact fits
  simp only [toByteArrayUnsigned, toByteArray_natCast, bigEndian_length]
  rcases lt_trichotomy (n.size / 8 + 1) length with short | exact | long
  · -- a small number, filled up with zeros
    have enough : n < 256 ^ (n.size / 8 + 1) := by
      rw [pow_bytes, ← Nat.size_le]
      omega
    rw [if_neg (fun tall => absurd tall.1 (by omega)), if_pos short]
    rw [← bigEndian_of_lt enough, Nat.sub_add_cancel short.le]
  · rw [if_neg (fun tall => absurd tall.1 (by omega)), if_neg (by omega), exact]
  · -- the top bit is set, and the form begins with a byte for the sign
    have one : n.size / 8 + 1 = 1 + length := by omega
    have form : bigEndian (1 + length) n = 0 :: bigEndian length n := bigEndian_of_lt fits 1
    rw [one, form, if_pos ⟨Nat.add_comm 1 length, rfl⟩]
    rfl

/-- The last bit survives the extension of the sign. -/
theorem and_one_eq_zero_iff (byte : UInt8) :
    byte.toInt8.toInt32 &&& 1 = 0 ↔ byte.toNat % 2 = 0 := by
  have all : ∀ n < 256, (UInt8.ofNat n).toInt8.toInt32 &&& 1 = 0 ↔ n % 2 = 0 := by
    decide +kernel
  have this := all byte.toNat byte.toNat_lt
  rwa [UInt8.ofNat_toNat] at this

/-- The key that CryptoKit writes. -/
theorem compressPublicKey_eq {x y : ℕ} (fitsX : x < 2 ^ 256) (fitsY : y < 2 ^ 256) :
    compressPublicKey ⟨x, y⟩ = some (Ios.compressedRepresentation x y) := by
  rw [show 2 ^ 256 = 256 ^ 32 from (pow_bytes 32).symm] at fitsX fitsY
  have last : (toByteArrayUnsigned y 32).getLast? = some (UInt8.ofNat (y % 256)) := by
    rw [toByteArrayUnsigned_eq fitsY, show 32 = 31 + 1 from rfl, bigEndian, List.getLast?_concat]
  have parity : (UInt8.ofNat (y % 256)).toInt8.toInt32 &&& 1 = 0 ↔ y % 2 = 0 := by
    rw [and_one_eq_zero_iff, UInt8.toNat_ofNat']
    omega
  simp only [compressPublicKey, last, toByteArrayUnsigned_eq fitsX, Option.bind_eq_bind,
    Option.bind_some, Ios.compressedRepresentation, if_congr parity rfl rfl]
  exact congrArg some (List.singleton_append)

end Android

/-- **One key, one address.** -/
theorem deriveEthereumAddress_eq (sha256 : Bytes → Bytes32) (x y : ℕ) (fitsX : x < 2 ^ 256)
    (fitsY : y < 2 ^ 256) :
    Android.deriveEthereumAddress sha256 (some ⟨x, y⟩) = some (Ios.ethereumAddress sha256 x y) := by
  have compressed := Android.compressPublicKey_eq fitsX fitsY
  simp only [Android.deriveEthereumAddress, Option.bind_eq_bind, Option.bind_some, compressed]
  rfl

/-- The coordinates of four times the generator of P-256; both have the top bit set. -/
def sampleX : ℕ := 0xe2534a3532d08fbba02dde659ee62bd0031fe2db785596ef509302446b030852

/-- The second coordinate of the sample key. -/
def sampleY : ℕ := 0xe0f1575a4c633cc719dfee5fda862d764efc96c3f30ee0055c42c23f184ed8c6

/-- SHA-256 of this key, compressed. -/
def sampleSha256 (bytes : Bytes) : Bytes32 :=
  if bytes = 2 :: bigEndian 32 sampleX then
    0xe65ba9af4891ce47079950123663b32d028153a567364603f3c7bf9c6c9f72cd
  else 0

theorem deriveEthereumAddress_eq_sample :
    Android.deriveEthereumAddress sampleSha256 (some ⟨sampleX, sampleY⟩) =
        some "0x3663b32d028153a567364603f3c7bf9c6c9f72cd" ∧
      Android.deriveEthereumAddress sampleSha256 (some ⟨sampleX, sampleY⟩) =
        some (Ios.ethereumAddress sampleSha256 sampleX sampleY) :=
  ⟨by decide +kernel,
    deriveEthereumAddress_eq sampleSha256 sampleX sampleY (by decide) (by decide)⟩

end TheVoteApp.DIDService
