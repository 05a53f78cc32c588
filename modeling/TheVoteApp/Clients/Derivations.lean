import TheVoteApp.Clients.VoteWireFormat

/-!
# Nullifiers and identity commitments on the three platforms

Each platform derives the same two values on its own.  A nullifier is a hash of the
voter's secret and the policy; an identity commitment is a hash of a DID, a country code
and a salt.  The apps and the backend make the same message of their arguments, but then
part: Keccak-256 or SHA-256, with or without `0x` in front of the digits.

|                             | Android          | iOS     | backend          |
|-----------------------------|------------------|---------|------------------|
| `deriveNullifier`           | `0x`, Keccak-256 | SHA-256 |                  |
| `deriveIdentityCommitment`  | SHA-256          | SHA-256 | `0x`, Keccak-256 |

The prefix alone keeps the texts apart on every input (`derivations_disagree`).  Behind
the prefix the digits are equal exactly where the two hash functions are
(`deriveNullifier_digits_iff`, `deriveIdentityCommitment_digits_iff`).
-/

namespace TheVoteApp.BlockchainVoteService

open Solidity Foundations

/-! ## Texts of digests -/

/-- Digits behind the prefix are never digits alone. -/
theorem prefixed_ne_hexString (front back : Bytes) :
    "0x" ++ hexString front ≠ hexString back := by
  intro same
  have accepted := isHex_prefixed front
  rw [same, isHex_hexString] at accepted
  cases accepted

theorem digestBytes_injective : Function.Injective digestBytes := by
  intro first second same
  have numbers : first.toNat % 256 ^ 32 = second.toNat % 256 ^ 32 := by
    rw [← ofBigEndian_bigEndian, ← ofBigEndian_bigEndian]
    exact congrArg ofBigEndian same
  have width : 256 ^ 32 = 2 ^ 256 := by norm_num
  rw [width, Nat.mod_eq_of_lt first.isLt, Nat.mod_eq_of_lt second.isLt] at numbers
  exact BitVec.eq_of_toNat_eq numbers

theorem hexString_digestBytes_inj {first second : Bytes32} :
    hexString (digestBytes first) = hexString (digestBytes second) ↔ first = second := by
  constructor
  · intro same
    apply digestBytes_injective
    apply Hex.encode_injective
    rw [← toList_hexString, ← toList_hexString, same]
  · rintro rfl
    rfl

/-! ## The identity commitment -/

variable (crypto : Cryptography)

namespace Android

/-- `deriveIdentityCommitment` of the Android app: SHA-256, without a prefix. -/
def deriveIdentityCommitment (did countryCode salt : String) : String :=
  let input := toUtf8Bytes (did ++ countryCode ++ salt)
  hexString (digestBytes (crypto.sha256 input))

end Android

namespace Ios

/-- `deriveIdentityCommitment` of the iOS app: SHA-256, without a prefix. -/
def deriveIdentityCommitment (did countryCode salt : String) : String :=
  hexString (digestBytes (crypto.sha256 (toUtf8Bytes (did ++ countryCode ++ salt))))

end Ios

namespace DIDService

/-- `solidityPackedKeccak256` on values of type `string`, which are packed as their UTF-8
bytes. -/
def solidityPackedKeccak256 (values : List String) : String :=
  "0x" ++ hexString (digestBytes (crypto.keccak256 (values.flatMap toUtf8Bytes)))

/-- `deriveIdentityCommitment` of the backend: keccak256, after `0x`. -/
def deriveIdentityCommitment (did countryCode salt : String) : String :=
  solidityPackedKeccak256 crypto [did, countryCode, salt]

end DIDService

/-- The three strings are packed to the bytes that the apps hash. -/
theorem flatMap_toUtf8Bytes (did countryCode salt : String) :
    [did, countryCode, salt].flatMap toUtf8Bytes = toUtf8Bytes (did ++ countryCode ++ salt) := by
  rw [toUtf8Bytes_append, toUtf8Bytes_append, List.append_assoc]
  show _ ++ (_ ++ (_ ++ [])) = _
  rw [List.append_nil]

/-! ## What the platforms agree on -/

section Agreement

variable (voterSecret : Bytes) (policyId did countryCode salt : String)

/-- A voter has one nullifier for the policy in both apps. -/
def NullifiersAgree : Prop :=
  Android.deriveNullifier crypto voterSecret policyId =
    Ios.deriveNullifier crypto voterSecret policyId

/-- Both apps derive the commitment that the backend registers. -/
def CommitmentsAgree : Prop :=
  Android.deriveIdentityCommitment crypto did countryCode salt =
      DIDService.deriveIdentityCommitment crypto did countryCode salt ∧
    Ios.deriveIdentityCommitment crypto did countryCode salt =
      DIDService.deriveIdentityCommitment crypto did countryCode salt

/-- The digits of the nullifiers are equal where the hash functions are. -/
theorem deriveNullifier_digits_iff :
    Android.deriveNullifier crypto voterSecret policyId =
        "0x" ++ Ios.deriveNullifier crypto voterSecret policyId ↔
      crypto.keccak256 (voterSecret ++ toUtf8Bytes policyId) =
        crypto.sha256 (voterSecret ++ toUtf8Bytes policyId) := by
  rw [← hexString_digestBytes_inj]
  exact String.append_right_inj "0x"

/-- The apps derive one commitment. -/
theorem deriveIdentityCommitment_android_ios :
    Android.deriveIdentityCommitment crypto did countryCode salt =
      Ios.deriveIdentityCommitment crypto did countryCode salt := rfl

/-- The digits of the commitments are equal where the hash functions are. -/
theorem deriveIdentityCommitment_digits_iff :
    DIDService.deriveIdentityCommitment crypto did countryCode salt =
        "0x" ++ Android.deriveIdentityCommitment crypto did countryCode salt ↔
      crypto.keccak256 (toUtf8Bytes (did ++ countryCode ++ salt)) =
        crypto.sha256 (toUtf8Bytes (did ++ countryCode ++ salt)) := by
  rw [← hexString_digestBytes_inj, DIDService.deriveIdentityCommitment,
    DIDService.solidityPackedKeccak256, flatMap_toUtf8Bytes]
  exact String.append_right_inj "0x"

/-- The backend's commitment is neither app's. -/
theorem deriveIdentityCommitment_ne :
    Android.deriveIdentityCommitment crypto did countryCode salt ≠
      DIDService.deriveIdentityCommitment crypto did countryCode salt :=
  (prefixed_ne_hexString _ _).symm

/-- **The platforms never agree.**  On no secret and no policy do the apps derive one
nullifier, and on no DID, country code and salt does an app derive the backend's
commitment. -/
theorem derivations_disagree :
    ¬ NullifiersAgree crypto voterSecret policyId ∧
      ¬ CommitmentsAgree crypto did countryCode salt ∧
      Android.deriveIdentityCommitment crypto did countryCode salt ≠
        DIDService.deriveIdentityCommitment crypto did countryCode salt ∧
      Ios.deriveIdentityCommitment crypto did countryCode salt ≠
        DIDService.deriveIdentityCommitment crypto did countryCode salt := by
  have android := deriveIdentityCommitment_ne crypto did countryCode salt
  have ios : Ios.deriveIdentityCommitment crypto did countryCode salt ≠
      DIDService.deriveIdentityCommitment crypto did countryCode salt := by
    rw [← deriveIdentityCommitment_android_ios]
    exact android
  refine ⟨?_, ?_, android, ios⟩
  · show "0x" ++ hexString _ ≠ hexString _
    apply prefixed_ne_hexString
  · rintro ⟨agree, -⟩
    exact android agree

end Agreement

/-! ### A voter with both apps -/

/-- The identifier of the sample voter. -/
def sampleDid : String := "did:ethr:mainnet:0xf39fd6e51aad88f6f4ce6ab8827279cfffb92266"

/-- The libraries' digests of the sample nullifier and the sample commitment. -/
def sampleDigestFunctions : Cryptography :=
  { sampleCryptography with
    keccak256 := fun bytes =>
      if bytes = toUtf8Bytes (sampleDid ++ "GB" ++ "abc123") then
        0xfc7ad6347f4dc417a81d41e153da5587c1e12c1e3dc583906944db0fd3cd8b43
      else sampleCryptography.keccak256 bytes
    sha256 := fun bytes =>
      if bytes = toUtf8Bytes (sampleDid ++ "GB" ++ "abc123") then
        0xcecf930db6fb9d405ab84be4979d885c924b1f499af8cc29865df5836f6458d7
      else sampleCryptography.sha256 bytes }

/-- The two nullifiers of one voter for one policy, and the commitment an app shows
beside the one that is registered. -/
theorem derivations_disagree_counterexample :
    Android.deriveNullifier sampleDigestFunctions sampleSecret "healthcare-reform-2026" =
        "0x3cea1470ea8f4dd987f5d5803555d7e2ccbc3c34517aed21455979d5f472e949" ∧
      Ios.deriveNullifier sampleDigestFunctions sampleSecret "healthcare-reform-2026" =
        "2271749cf995b7614145def118b9139cc2d51c039318234a4d99adaff9c608b0" ∧
      ¬ NullifiersAgree sampleDigestFunctions sampleSecret "healthcare-reform-2026" ∧
      Android.deriveIdentityCommitment sampleDigestFunctions sampleDid "GB" "abc123" =
        "cecf930db6fb9d405ab84be4979d885c924b1f499af8cc29865df5836f6458d7" ∧
      DIDService.deriveIdentityCommitment sampleDigestFunctions sampleDid "GB" "abc123" =
        "0xfc7ad6347f4dc417a81d41e153da5587c1e12c1e3dc583906944db0fd3cd8b43" ∧
      ¬ CommitmentsAgree sampleDigestFunctions sampleDid "GB" "abc123" := by
  refine ⟨by decide +kernel, by decide +kernel, ?_, by decide +kernel, by decide +kernel, ?_⟩
  · show "0x" ++ hexString _ ≠ hexString _
    apply prefixed_ne_hexString
  · rintro ⟨agree, -⟩
    exact deriveIdentityCommitment_ne _ _ _ _ agree

end TheVoteApp.BlockchainVoteService
