import TheVoteApp.Backend.BlockchainService
import TheVoteApp.Foundations.Hex

/-!
# The signed vote on the wire

The Android and the iOS app derive a nullifier, sign the vote and send both as
hexadecimal text; the route checks the texts against `voteSchema`, and
`VoteService.verifySignature` recovers the signer's address.

What the iOS app sends is never accepted.  `voteSchema` wants a `0x` in front of the
digits, and the app writes digits alone; behind that stand two more differences, the
curve P-256 and the DER form of the signature.  What the Android app sends is always
accepted, but it is the wrong signature: the app writes `v`, `r`, `s`, the server reads
`r`, `s`, `v`, and the two readings of the 65 bytes agree only where all of them are
equal (`clients_disagree`).

## Main definitions

* `voteSchema` — what the route accepts
* `Cryptography` — the functions of the crypto libraries on the three platforms
* `Client` — an app; `android` and `ios`
* `recoveredAddress` — the address the server recovers from a request
-/

namespace TheVoteApp.BlockchainVoteService

open Solidity VoteLedger VoteService Foundations

/-! ## The schema -/

/-- A proof as it is sent, all numbers in decimal. -/
structure ZkProof where
  piA : List String
  piB : List (List String)
  piC : List String
  publicSignals : List String
deriving DecidableEq

/-- A vote as it is signed and sent.  The timestamp is a 64-bit integer. -/
structure VotePayload where
  policyId : String
  optionId : String
  voterNullifier : String
  zkProof : ZkProof
  signature : String
  timestamp : ℤ
deriving DecidableEq

/-- `z.string().min(1).max(128).regex(/^[\w-]+$/)`.  What matches is ASCII, so its
length is the number of its characters. -/
def isIdentifier (text : String) : Bool :=
  1 ≤ text.length && text.length ≤ 128 &&
    text.toList.all fun c => c.isAlphanum || c == '_' || c == '-'

/-- `z.string().regex(/^0x[0-9a-fA-F]{n}$/)` -/
def isHex (n : ℕ) (text : String) : Bool :=
  match text.toList with
  | '0' :: 'x' :: digits => digits.length == n && digits.all Hex.isDigit
  | _ => false

/-- The shape of a Groth16 proof: two, two times two, and two coordinates. -/
def isProof (zkProof : ZkProof) : Bool :=
  zkProof.piA.length == 2 &&
    (zkProof.piB.length == 2 && zkProof.piB.all fun row => row.length == 2) &&
    zkProof.piC.length == 2

/-- `voteSchema`, all checks together. -/
def voteSchema (body : VotePayload) : Bool :=
  isIdentifier body.policyId && isIdentifier body.optionId && isHex 64 body.voterNullifier &&
    isProof body.zkProof && isHex 130 body.signature && 0 < body.timestamp

/-! ## Signatures -/

/-- An Ethereum signature with its recovery byte, as `Sign.signMessage` makes it and
`Signature.from` accepts it: `s` is in the lower half of its range. -/
structure Signature where
  r : Bytes
  s : Bytes
  v : UInt8
  length_r : r.length = 32
  length_s : s.length = 32
  canonical : s.getD 0 0 < 0x80
  v_mem : v = 27 ∨ v = 28
deriving DecidableEq

/-- `Signature.getNormalizedV` -/
def getNormalizedV (v : UInt8) : UInt8 :=
  if v = 0 ∨ v = 27 then 27
  else if v = 1 ∨ v = 28 then 28
  else if v % 2 = 1 then 27
  else 28

theorem getNormalizedV_mem (v : UInt8) : getNormalizedV v = 27 ∨ getNormalizedV v = 28 := by
  unfold getNormalizedV
  split
  · exact .inl rfl
  · split
    · exact .inr rfl
    · split
      · exact .inl rfl
      · exact .inr rfl

/-- `Signature.from` on 65 bytes, which are `r`, `s` and `v`. -/
def Signature.ofBytes (bytes : Bytes) : Option Signature :=
  if h : bytes.length = 65 ∧ ((bytes.drop 32).take 32).getD 0 0 < 0x80 then
    some
      { r := bytes.take 32
        s := (bytes.drop 32).take 32
        v := getNormalizedV (bytes.getD 64 0)
        length_r := by simp [h.1]
        length_s := by simp [h.1]
        canonical := h.2
        v_mem := getNormalizedV_mem _ }
  else none

/-- What the apps and the server use of their libraries.  `sign` is web3j's
`Sign.signMessage` on a digest and `recover` the public key recovery of ethers.js;
`derSignature` is CryptoKit's P-256 signature of the message's SHA-256 digest. -/
structure Cryptography where
  keccak256 : Bytes → Bytes32
  sha256 : Bytes → Bytes32
  Secp256k1Key : Type
  secp256k1Address : Secp256k1Key → Address
  sign : Secp256k1Key → Bytes32 → Signature
  recover : Bytes32 → Signature → Option Address
  recover_sign : ∀ key digest, recover digest (sign key digest) = some (secp256k1Address key)
  P256Key : Type
  p256Address : P256Key → Address
  derSignature : P256Key → Bytes → Bytes

/-- The key has signed the digest, and no other signature of it recovers to the key's
address. -/
def Cryptography.Unforged (crypto : Cryptography) (key : crypto.Secp256k1Key)
    (digest : Bytes32) : Prop :=
  ∀ signature, crypto.recover digest signature = some (crypto.secp256k1Address key) →
    signature = crypto.sign key digest

/-! ## The apps -/

/-- `buildVoteMessage`, which is the same in both apps. -/
def buildVoteMessage (payload : VotePayload) : Bytes :=
  toUtf8Bytes (payload.policyId ++ ":" ++ payload.optionId ++ ":" ++ payload.voterNullifier ++
    ":" ++ toString payload.timestamp)

/-- `Numeric.toHexStringNoPrefix` and the apps' own `hexString` -/
def hexString (bytes : Bytes) : String := String.ofList (Hex.encode bytes)

/-- The bytes of a digest. -/
def digestBytes (digest : Bytes32) : Bytes := bigEndian 32 digest.toNat

/-- An app: how it derives a nullifier from the voter's secret and signs with the
session key.  The session key is the one `loadSessionKey` returns. -/
structure Client where
  SessionKey : Type
  address : SessionKey → Address
  deriveNullifier : Bytes → String → String
  signVotePayload : SessionKey → VotePayload → String

namespace Android

variable (crypto : Cryptography)

/-- `deriveNullifier` of the Android app: keccak256, after `0x`. -/
def deriveNullifier (voterSecret : Bytes) (policyId : String) : String :=
  "0x" ++ hexString (digestBytes (crypto.keccak256 (voterSecret ++ toUtf8Bytes policyId)))

/-- `signVotePayload` of the Android app: the recovery byte comes first. -/
def signVotePayload (sessionKey : crypto.Secp256k1Key) (payload : VotePayload) : String :=
  let messageHash := crypto.keccak256 (buildVoteMessage payload)
  let signatureData := crypto.sign sessionKey messageHash
  "0x" ++ hexString [signatureData.v] ++ hexString signatureData.r ++
    hexString signatureData.s

end Android

namespace Ios

variable (crypto : Cryptography)

/-- `deriveNullifier` of the iOS app: SHA-256, without a prefix. -/
def deriveNullifier (voterSecret : Bytes) (policyId : String) : String :=
  hexString (digestBytes (crypto.sha256 (voterSecret ++ toUtf8Bytes policyId)))

/-- `signVotePayload` of the iOS app: a DER signature of P-256. -/
def signVotePayload (sessionKey : crypto.P256Key) (payload : VotePayload) : String :=
  hexString (crypto.derSignature sessionKey (buildVoteMessage payload))

end Ios

/-- The Android app. -/
def android (crypto : Cryptography) : Client where
  SessionKey := crypto.Secp256k1Key
  address := crypto.secp256k1Address
  deriveNullifier := Android.deriveNullifier crypto
  signVotePayload := Android.signVotePayload crypto

/-- The iOS app. -/
def ios (crypto : Cryptography) : Client where
  SessionKey := crypto.P256Key
  address := crypto.p256Address
  deriveNullifier := Ios.deriveNullifier crypto
  signVotePayload := Ios.signVotePayload crypto

/-- What a voter votes, and when. -/
structure Ballot where
  policyId : String
  optionId : String
  zkProof : ZkProof
  timestamp : ℤ

/-- The checks of `voteSchema` on the fields that do not come from the app's
cryptography. -/
def Ballot.Accepted (ballot : Ballot) : Prop :=
  isIdentifier ballot.policyId = true ∧ isIdentifier ballot.optionId = true ∧
    isProof ballot.zkProof = true ∧ 0 < ballot.timestamp

instance (ballot : Ballot) : Decidable ballot.Accepted := by
  unfold Ballot.Accepted
  infer_instance

/-- The payload before it is signed. -/
def Client.unsigned (client : Client) (voterSecret : Bytes) (ballot : Ballot) : VotePayload where
  policyId := ballot.policyId
  optionId := ballot.optionId
  voterNullifier := client.deriveNullifier voterSecret ballot.policyId
  zkProof := ballot.zkProof
  signature := ""
  timestamp := ballot.timestamp

/-- The payload an app sends. -/
def Client.signed (client : Client) (voterSecret : Bytes) (sessionKey : client.SessionKey)
    (ballot : Ballot) : VotePayload :=
  { client.unsigned voterSecret ballot with
    signature := client.signVotePayload sessionKey (client.unsigned voterSecret ballot) }

/-! ## The server -/

/-- The bytes of a `0x` text; ethers.js throws at any other text. -/
def getBytes (text : String) : Option Bytes :=
  match text.toList with
  | '0' :: 'x' :: digits => Hex.decode digits
  | _ => none

section Server

variable (crypto : Cryptography) (readProof : ZkProof → ZKProofData) (readNumber : ℤ → ℤ)

/-- The request in the body.  `readNumber` is the integer JavaScript makes of the digits
of another: itself, unless it is too large for a double. -/
def requestOf (body : VotePayload) : Option VoteRequest := do
  let voterNullifier ← getBytes body.voterNullifier
  let signature ← getBytes body.signature
  some
    { policyId := body.policyId
      optionId := body.optionId
      nullifierText := body.voterNullifier
      voterNullifier := BitVec.ofNat 256 (ofBigEndian voterNullifier)
      zkProof := readProof body.zkProof
      signature := signature
      timestamp := readNumber body.timestamp }

/-- `ethers.recoverAddress` -/
def recoverAddress (digest : Bytes32) (signature : Bytes) : Option Address :=
  (Signature.ofBytes signature).bind (crypto.recover digest)

/-- The address `verifySignature` recovers, `none` when it throws. -/
def recoveredAddress (body : VotePayload) : Option Address :=
  (requestOf readProof readNumber body).bind fun request =>
    recoverAddress crypto (crypto.keccak256 (toUtf8Bytes (voteMessage request)))
      request.signature

/-- The server accepts what the app sends, and recovers the address of the session
key. -/
def Agrees (client : Client) (voterSecret : Bytes) (sessionKey : client.SessionKey)
    (ballot : Ballot) : Prop :=
  voteSchema (client.signed voterSecret sessionKey ballot) = true ∧
    recoveredAddress crypto readProof readNumber (client.signed voterSecret sessionKey ballot) =
      some (client.address sessionKey)

end Server

/-! ## Hexadecimal texts -/

@[simp] theorem toList_hexString (bytes : Bytes) : (hexString bytes).toList = Hex.encode bytes :=
  String.toList_ofList

theorem hexString_append (front back : Bytes) :
    hexString front ++ hexString back = hexString (front ++ back) := by
  apply String.toList_inj.mp
  simp [Hex.encode_append]

theorem toList_prefixed (bytes : Bytes) :
    ("0x" ++ hexString bytes).toList = '0' :: 'x' :: Hex.encode bytes := by
  rw [String.toList_append, toList_hexString]
  rfl

/-- With the prefix, the digits of `n` bytes are accepted where `2 * n` digits are
wanted. -/
theorem isHex_prefixed (bytes : Bytes) :
    isHex (2 * bytes.length) ("0x" ++ hexString bytes) = true := by
  unfold isHex
  rw [toList_prefixed]
  simp [Hex.length_encode, Hex.all_isDigit_encode]

/-- Digits alone never start with `0x`. -/
theorem isHex_hexString (n : ℕ) (bytes : Bytes) : isHex n (hexString bytes) = false := by
  have digits : ∀ c ∈ Hex.encode bytes, Hex.isDigit c = true := fun _ => Hex.isDigit_of_mem_encode
  unfold isHex
  rw [toList_hexString]
  split
  · rename_i rest shape
    have isDigit : Hex.isDigit 'x' = true := digits 'x' (by simp [shape])
    exact absurd isDigit (by decide)
  · rfl

theorem getBytes_prefixed (bytes : Bytes) : getBytes ("0x" ++ hexString bytes) = some bytes := by
  unfold getBytes
  rw [toList_prefixed]
  exact Hex.decode_encode bytes

@[simp] theorem length_digestBytes (digest : Bytes32) : (digestBytes digest).length = 32 :=
  bigEndian_length 32 _

/-! ## The two readings of a signature -/

/-- The bytes the Android app writes. -/
def Signature.androidBytes (signature : Signature) : Bytes :=
  signature.v :: (signature.r ++ signature.s)

theorem Signature.length_androidBytes (signature : Signature) :
    signature.androidBytes.length = 65 := by
  simp [Signature.androidBytes, signature.length_r, signature.length_s]

/-- A list that a shift by one place leaves alone is constant. -/
theorem eq_of_cons_eq_concat {bytes : Bytes} {first last : UInt8}
    (shift : first :: bytes = bytes ++ [last]) : ∀ byte ∈ bytes, byte = first := by
  induction bytes generalizing first with
  | nil => simp
  | cons byte bytes ih =>
      obtain ⟨rfl, shift⟩ := List.cons.inj shift
      intro other mem
      rcases List.mem_cons.mp mem with rfl | mem
      · rfl
      · exact ih shift other mem

/-- Read as 65 bytes in the order `r`, `s`, `v`, a list is those three and the byte that
`v` is the normal form of. -/
theorem Signature.ofBytes_eq_some {bytes : Bytes} {signature : Signature}
    (read : Signature.ofBytes bytes = some signature) :
    ∃ v, bytes = signature.r ++ signature.s ++ [v] ∧ signature.v = getNormalizedV v := by
  unfold Signature.ofBytes at read
  split at read
  · rename_i h
    obtain rfl := Option.some.inj read
    have last : bytes.drop 64 = [bytes.getD 64 0] := by
      rw [List.getD_eq_getElem _ _ (by omega), List.drop_eq_getElem_cons (by omega),
        List.drop_of_length_le (by omega)]
    have middle : (bytes.drop 32).take 32 ++ bytes.drop 64 = bytes.drop 32 := by
      rw [show 64 = 32 + 32 from rfl, ← List.drop_drop]
      exact List.take_append_drop 32 _
    refine ⟨bytes.getD 64 0, ?_, rfl⟩
    show bytes = bytes.take 32 ++ (bytes.drop 32).take 32 ++ [bytes.getD 64 0]
    rw [← last, List.append_assoc, middle, List.take_append_drop]
  · cases read

/-- A signature in the server's order is read back. -/
theorem Signature.ofBytes_append (signature : Signature) :
    Signature.ofBytes (signature.r ++ signature.s ++ [signature.v]) = some signature := by
  have first : (signature.r ++ signature.s ++ [signature.v]).take 32 = signature.r := by
    rw [List.append_assoc, List.take_left' signature.length_r]
  have second : ((signature.r ++ signature.s ++ [signature.v]).drop 32).take 32 =
      signature.s := by
    rw [List.append_assoc, List.drop_left' signature.length_r,
      List.take_left' signature.length_s]
  have third : (signature.r ++ signature.s ++ [signature.v]).getD 64 0 = signature.v := by
    rw [List.getD_append_right _ _ _ _ (by simp [signature.length_r, signature.length_s])]
    simp [signature.length_r, signature.length_s]
  have normal : getNormalizedV signature.v = signature.v := by
    rcases signature.v_mem with v | v
    · rw [v]
      rfl
    · rw [v]
      rfl
  have fits : (signature.r ++ signature.s ++ [signature.v]).length = 65 ∧
      (((signature.r ++ signature.s ++ [signature.v]).drop 32).take 32).getD 0 0 < 0x80 := by
    rw [second]
    exact ⟨by simp [signature.length_r, signature.length_s], signature.canonical⟩
  unfold Signature.ofBytes
  rw [dif_pos fits]
  congr 1
  cases signature
  simp_all

/-- The server reads the app's bytes as the signature they were made from exactly where
all of them are the recovery byte. -/
theorem Signature.ofBytes_androidBytes_iff (signature : Signature) :
    Signature.ofBytes signature.androidBytes = some signature ↔
      ∀ byte ∈ signature.r ++ signature.s, byte = signature.v := by
  constructor
  · intro read
    obtain ⟨v, shift, -⟩ := Signature.ofBytes_eq_some read
    exact eq_of_cons_eq_concat shift
  · intro constant
    have bytes : signature.r ++ signature.s = List.replicate 64 signature.v := by
      rw [List.eq_replicate_iff]
      exact ⟨by simp [signature.length_r, signature.length_s], constant⟩
    have same : signature.androidBytes = signature.r ++ signature.s ++ [signature.v] := by
      rw [Signature.androidBytes, bytes, ← List.replicate_succ, ← List.replicate_succ']
    rw [same]
    exact Signature.ofBytes_append signature

/-! ## What the server makes of the two apps -/

section Apps

variable (crypto : Cryptography) (readProof : ZkProof → ZKProofData) (readNumber : ℤ → ℤ)
  (voterSecret : Bytes) (ballot : Ballot)

/-- What the Android app signs for a ballot. -/
def Android.signature (sessionKey : crypto.Secp256k1Key) : Signature :=
  crypto.sign sessionKey
    (crypto.keccak256 (buildVoteMessage ((android crypto).unsigned voterSecret ballot)))

theorem Android.signVotePayload_eq (sessionKey : crypto.Secp256k1Key) :
    ((android crypto).signed voterSecret sessionKey ballot).signature =
      "0x" ++ hexString (Android.signature crypto voterSecret ballot sessionKey).androidBytes := by
  show "0x" ++ hexString [_] ++ hexString _ ++ hexString _ = _
  rw [String.append_assoc, String.append_assoc, hexString_append, hexString_append]
  rfl

/-- Both texts of the Android app have the prefix and the digits the schema wants. -/
theorem Android.voteSchema_signed (sessionKey : crypto.Secp256k1Key)
    (accepted : ballot.Accepted) :
    voteSchema ((android crypto).signed voterSecret sessionKey ballot) = true := by
  obtain ⟨policyId, optionId, zkProof, timestamp⟩ := accepted
  have nullifier :
      isHex 64 ((android crypto).deriveNullifier voterSecret ballot.policyId) = true := by
    have prefixed := isHex_prefixed
      (digestBytes (crypto.keccak256 (voterSecret ++ toUtf8Bytes ballot.policyId)))
    rwa [length_digestBytes] at prefixed
  have signature : isHex 130
      ((android crypto).signed voterSecret sessionKey ballot).signature = true := by
    rw [Android.signVotePayload_eq]
    have prefixed := isHex_prefixed
      (Android.signature crypto voterSecret ballot sessionKey).androidBytes
    rwa [Signature.length_androidBytes] at prefixed
  unfold voteSchema
  rw [signature]
  simp only [Client.signed, Client.unsigned, policyId, optionId, zkProof, nullifier, timestamp,
    decide_true, Bool.and_self]

/-- The nullifier of the iOS app has no prefix. -/
theorem Ios.voteSchema_signed (sessionKey : crypto.P256Key) :
    voteSchema ((ios crypto).signed voterSecret sessionKey ballot) = false := by
  have nullifier : isHex 64 ((ios crypto).deriveNullifier voterSecret ballot.policyId) = false :=
    isHex_hexString 64 _
  unfold voteSchema
  simp only [Client.signed, Client.unsigned, nullifier, Bool.and_false, Bool.false_and]

/-- The server hashes the message the app has signed, unless the timestamp changes on
the way. -/
theorem Android.recoveredAddress_signed (sessionKey : crypto.Secp256k1Key)
    (exact : readNumber ballot.timestamp = ballot.timestamp) :
    recoveredAddress crypto readProof readNumber
        ((android crypto).signed voterSecret sessionKey ballot) =
      recoverAddress crypto
        (crypto.keccak256 (buildVoteMessage ((android crypto).unsigned voterSecret ballot)))
        (Android.signature crypto voterSecret ballot sessionKey).androidBytes := by
  have nullifier : getBytes ((android crypto).signed voterSecret sessionKey ballot).voterNullifier =
      some (digestBytes (crypto.keccak256 (voterSecret ++ toUtf8Bytes ballot.policyId))) :=
    getBytes_prefixed _
  have signature : getBytes ((android crypto).signed voterSecret sessionKey ballot).signature =
      some (Android.signature crypto voterSecret ballot sessionKey).androidBytes := by
    rw [Android.signVotePayload_eq]
    exact getBytes_prefixed _
  simp only [recoveredAddress, requestOf, nullifier, signature, bind, Option.bind_some]
  simp only [voteMessage, buildVoteMessage, Client.signed, Client.unsigned, exact]

/-- The server recovers the address of the Android session key exactly where the
recovery byte fills the whole signature. -/
theorem Android.recoveredAddress_eq_iff (sessionKey : crypto.Secp256k1Key)
    (exact : readNumber ballot.timestamp = ballot.timestamp)
    (unforged : crypto.Unforged sessionKey
      (crypto.keccak256 (buildVoteMessage ((android crypto).unsigned voterSecret ballot)))) :
    recoveredAddress crypto readProof readNumber
        ((android crypto).signed voterSecret sessionKey ballot) =
        some (crypto.secp256k1Address sessionKey) ↔
      ∀ byte ∈ (Android.signature crypto voterSecret ballot sessionKey).r ++
          (Android.signature crypto voterSecret ballot sessionKey).s,
        byte = (Android.signature crypto voterSecret ballot sessionKey).v := by
  rw [Android.recoveredAddress_signed crypto readProof readNumber voterSecret ballot sessionKey
    exact, ← Signature.ofBytes_androidBytes_iff, recoverAddress, Option.bind_eq_some_iff]
  constructor
  · rintro ⟨signature, read, recovered⟩
    rw [read, unforged signature recovered]
    rfl
  · intro read
    exact ⟨_, read, crypto.recover_sign sessionKey _⟩

/-- **The clients do not agree with the server**, on any ballot.  Nothing the iOS app
sends is accepted; what the Android app sends is, but recovers to the session key only
where all 65 bytes of the signature are equal. -/
theorem clients_disagree (androidKey : crypto.Secp256k1Key) (iosKey : crypto.P256Key)
    (accepted : ballot.Accepted) :
    ¬ (Agrees crypto readProof readNumber (android crypto) voterSecret androidKey ballot ∧
        Agrees crypto readProof readNumber (ios crypto) voterSecret iosKey ballot) ∧
      voteSchema ((ios crypto).signed voterSecret iosKey ballot) = false ∧
      voteSchema ((android crypto).signed voterSecret androidKey ballot) = true ∧
      (readNumber ballot.timestamp = ballot.timestamp →
        crypto.Unforged androidKey
          (crypto.keccak256 (buildVoteMessage ((android crypto).unsigned voterSecret ballot))) →
        (Agrees crypto readProof readNumber (android crypto) voterSecret androidKey ballot ↔
          ∀ byte ∈ (Android.signature crypto voterSecret ballot androidKey).r ++
              (Android.signature crypto voterSecret ballot androidKey).s,
            byte = (Android.signature crypto voterSecret ballot androidKey).v)) := by
  have rejected := Ios.voteSchema_signed crypto voterSecret ballot iosKey
  have passed := Android.voteSchema_signed crypto voterSecret ballot androidKey accepted
  refine ⟨?_, rejected, passed, fun exact unforged => ?_⟩
  · rintro ⟨-, iosPassed, -⟩
    rw [rejected] at iosPassed
    cases iosPassed
  · rw [← Android.recoveredAddress_eq_iff crypto readProof readNumber voterSecret ballot
      androidKey exact unforged]
    exact ⟨fun agrees => agrees.2, fun recovered => ⟨passed, recovered⟩⟩

end Apps

/-! ### A ballot

Session keys of both apps sign one ballot; the digests, signatures and addresses are
those of the libraries. -/

/-- A vote in support. -/
def sampleBallot : Ballot where
  policyId := "healthcare-reform-2026"
  optionId := "support"
  zkProof := ⟨["1", "2"], [["3", "4"], ["5", "6"]], ["7", "8"], []⟩
  timestamp := 1700000000000

/-- The secret of the sample voter. -/
def sampleSecret : Bytes := List.replicate 32 0

/-- The signature of the sample ballot. -/
def sampleSignature : Signature where
  r := bigEndian 32 0xa26b6ac1b9f55e7dc93e2d7cce3091656bdc4871d4d92cab34518cc6e021386f
  s := bigEndian 32 0x21d0cca0dda683abedabb57ea9984140d1b6d8e0321eb56e77a0c3c84cfc52d3
  v := 28
  length_r := bigEndian_length 32 _
  length_s := bigEndian_length 32 _
  canonical := by decide
  v_mem := .inr rfl

/-- The primitives, as they answer for the sample ballot. -/
def sampleCryptography : Cryptography where
  keccak256 bytes :=
    if bytes = sampleSecret ++ toUtf8Bytes "healthcare-reform-2026" then
      0x3cea1470ea8f4dd987f5d5803555d7e2ccbc3c34517aed21455979d5f472e949
    else if bytes = toUtf8Bytes ("healthcare-reform-2026:support:0x" ++
        "3cea1470ea8f4dd987f5d5803555d7e2ccbc3c34517aed21455979d5f472e949:1700000000000") then
      0x203422dcf088e4d4498a2a33f58b380bfc50d9ad87f2ddb57e61d515cc5ccd99
    else 0
  sha256 _ := 0x2271749cf995b7614145def118b9139cc2d51c039318234a4d99adaff9c608b0
  Secp256k1Key := Unit
  secp256k1Address _ := 0xf39fd6e51aad88f6f4ce6ab8827279cfffb92266
  sign _ _ := sampleSignature
  recover _ signature :=
    if signature = sampleSignature then some 0xf39fd6e51aad88f6f4ce6ab8827279cfffb92266
    else if some signature = Signature.ofBytes sampleSignature.androidBytes then
      some 0x037e82fbb983887d3135f3c362c7dba3722e146d
    else none
  recover_sign _ _ := if_pos rfl
  P256Key := Unit
  p256Address _ := 0xdb1cf7c2c5375aea1b363bd4a67803c7f704051b
  derSignature _ _ :=
    bigEndian 39 0x3045022100d26793e135c927439dcf3f84b5caaaa746dfb601e99d92a08d21a794e65066 ++
      bigEndian 32 0x7902205af5c898ab16f314943fc5cd5baf258b53147b51eed4238217041e201b7264 ++ [0x3f]

/-- Every proof is read as the same points. -/
def sampleReadProof (_ : ZkProof) : ZKProofData := ⟨(1, 2), ((3, 4), (5, 6)), (7, 8), []⟩

theorem unforged_sample (digest : Bytes32) : sampleCryptography.Unforged () digest := by
  intro signature recovered
  simp only [sampleCryptography] at recovered
  split at recovered
  · assumption
  · split at recovered
    · exact absurd (Option.some.inj recovered) (by decide)
    · cases recovered

theorem clients_disagree_sample :
    voteSchema ((ios sampleCryptography).signed sampleSecret () sampleBallot) = false ∧
      voteSchema ((android sampleCryptography).signed sampleSecret () sampleBallot) = true ∧
      ¬ Agrees sampleCryptography sampleReadProof id (android sampleCryptography) sampleSecret ()
          sampleBallot := by
  obtain ⟨-, rejected, passed, exactly⟩ :=
    clients_disagree sampleCryptography sampleReadProof id sampleSecret sampleBallot () ()
      (by decide)
  refine ⟨rejected, passed, fun agrees => ?_⟩
  have constant := (exactly rfl (unforged_sample _)).mp agrees
  have first : (0xa2 : UInt8) ∈ sampleSignature.r ++ sampleSignature.s := by decide
  exact absurd (constant 0xa2 first) (by decide)

/-- On this ballot the iOS app's request is rejected, and the server takes the Android
app's signature for that of another key. -/
theorem clients_disagree_counterexample : sampleBallot.Accepted ∧
    ¬ Agrees sampleCryptography sampleReadProof id (ios sampleCryptography) sampleSecret ()
        sampleBallot ∧
      recoveredAddress sampleCryptography sampleReadProof id
          ((android sampleCryptography).signed sampleSecret () sampleBallot) =
        some 0x037e82fbb983887d3135f3c362c7dba3722e146d ∧
      (android sampleCryptography).address () = 0xf39fd6e51aad88f6f4ce6ab8827279cfffb92266 := by
  refine ⟨by decide, ?_, ?_, rfl⟩
  · rintro ⟨passed, -⟩
    have rejected := Ios.voteSchema_signed sampleCryptography sampleSecret sampleBallot ()
    exact absurd (rejected.symm.trans passed) (by decide)
  · decide +kernel

end TheVoteApp.BlockchainVoteService
