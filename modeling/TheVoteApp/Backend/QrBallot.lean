import TheVoteApp.Clients.Derivations
import TheVoteApp.JavaScript.Encoding

/-!
# Signed QR ballots

`POST /vote/qr` takes a ballot with the signature of the voter's device.  What is
signed is a digest of the policy, the option, the nullifier and the timestamp in
packed encoding, which writes a string as its bytes and nothing else.  The last
two fields have a fixed width, but nothing marks where the policy ends and the
option begins: two ballots are signed alike exactly when these two read the same
in a row (`packed_eq_iff`).

`VoteService.verifySignature` puts a colon between its fields.
-/

namespace TheVoteApp.QrRoute

open Solidity Foundations JavaScript BlockchainVoteService

/-- `QRPayload`.  Strings of a request body may hold any code units. -/
structure QRPayload where
  policyId : Text
  optionId : Text
  voterNullifier : String
  signature : String
  timestamp : ℤ
deriving DecidableEq

/-- `z.string().regex(/^0x[0-9a-fA-F]+$/)` -/
def isHexText (text : String) : Bool :=
  match text.toList with
  | '0' :: 'x' :: digits => digits ≠ [] && digits.all Hex.isDigit
  | _ => false

/-- `QRPayloadSchema`. -/
def qrPayloadSchema (body : QRPayload) : Bool :=
  1 ≤ body.policyId.length && 1 ≤ body.optionId.length && isHex 64 body.voterNullifier &&
    isHexText body.signature && 0 < body.timestamp

/-- `ethers.toUtf8Bytes`, which throws at a surrogate that is alone. -/
def utf8BytesOf (text : Text) : Option Bytes :=
  (readUtf16 text).map fun chars => toUtf8Bytes (String.ofList chars)

/-- A number as an argument of type `uint256`; only safe integers are taken. -/
def uint256Bytes (n : ℤ) : Option Bytes :=
  if 0 ≤ n ∧ n < 2 ^ 53 then some (bigEndian 32 n.toNat) else none

/-- The packed encoding of `string`, `string`, `bytes32` and `uint256`; `none` is an
exception. -/
def packed (payload : QRPayload) : Option Bytes := do
  let policyId ← utf8BytesOf payload.policyId
  let optionId ← utf8BytesOf payload.optionId
  let voterNullifier ← getBytes payload.voterNullifier
  let timestamp ← uint256Bytes payload.timestamp
  return policyId ++ optionId ++ voterNullifier ++ timestamp

/-- What the relayed transaction is reported by. -/
structure Receipt where
  transactionHash : Bytes32
  blockNumber : ℕ
  nullifier : String
deriving DecidableEq

/-- How a request ends. -/
inductive Answer where
  /-- 400, with the errors of the schema -/
  | invalidPayload
  /-- 400, "QR ballot has expired (> 30 days)" -/
  | expired
  /-- An exception outside of the handler's `try` -/
  | uncaught
  /-- 400, "Invalid signature" -/
  | invalidSignature
  /-- 201; the signer is logged -/
  | accepted (signer : Address) (receipt : Receipt)
deriving DecidableEq

section Route

variable (keccak256 : Bytes → Bytes32) (recoverAddress : Bytes32 → String → Option Address)

/-- `ethers.hashMessage` of a digest. -/
def hashMessage (digest : Bytes32) : Bytes32 :=
  keccak256 (toUtf8Bytes "\x19Ethereum Signed Message:\n32" ++ digestBytes digest)

/-- The address that the signature of a ballot is checked to be from, for the bytes
that are signed. -/
def signerAddress (bytes : Bytes) (signature : String) : Option Address :=
  recoverAddress (hashMessage keccak256 (keccak256 bytes)) signature

/-- `POST /vote/qr`, at time `now`. -/
def post (now : ℤ) (body : QRPayload) : Answer :=
  if !qrPayloadSchema body then .invalidPayload
  else
    let ageMs := now - body.timestamp
    if ageMs > 30 * 24 * 3600 * 1000 then .expired
    else match packed body with
      | none => .uncaught
      | some bytes =>
        match signerAddress keccak256 recoverAddress bytes body.signature with
        | none => .invalidSignature
        | some signer =>
          match utf8BytesOf (utf16 body.voterNullifier ++ body.policyId ++ body.optionId) with
          | none => .uncaught
          | some text => .accepted signer ⟨keccak256 text, 0, body.voterNullifier⟩

end Route

/-! ## Texts and their bytes -/

/-- A text that can be read has no surrogate that is alone. -/
theorem wellFormed_of_readUtf16 {text : Text} {chars : List Char}
    (read : readUtf16 text = some chars) : WellFormed text := by
  induction text using scalarValues.induct generalizing chars with
  | case1 => exact .nil
  | case2 u =>
      rw [readUtf16.eq_def] at read
      by_cases high : isHighSurrogate u
      · simp only [if_pos high] at read
        cases read
      by_cases low : isLowSurrogate u
      · simp only [if_neg high, if_pos low] at read
        cases read
      exact wellFormed_unit high low
  | case3 u v rest high low ih =>
      rw [readUtf16.eq_def] at read
      simp only [if_pos high, if_pos low] at read
      obtain ⟨chars, inside, -⟩ := Option.map_eq_some_iff.mp read
      exact .append (wellFormed_pair high low) (ih inside)
  | case4 u v rest high low ih =>
      rw [readUtf16.eq_def] at read
      simp only [if_pos high, if_neg low] at read
      cases read
  | case5 u v rest high low ih =>
      rw [readUtf16.eq_def] at read
      simp only [if_neg high, if_pos low] at read
      cases read
  | case6 u v rest high low ih =>
      rw [readUtf16.eq_def] at read
      simp only [if_neg high, if_neg low] at read
      obtain ⟨chars, inside, -⟩ := Option.map_eq_some_iff.mp read
      exact .append (wellFormed_unit high low) (ih inside)

/-- The bytes of a text are those of its string. -/
theorem utf8BytesOf_eq_some {text : Text} {bytes : Bytes} (read : utf8BytesOf text = some bytes) :
    ∃ string : String, utf16 string = text ∧ toUtf8Bytes string = bytes := by
  obtain ⟨chars, isChars, rfl⟩ := Option.map_eq_some_iff.mp read
  obtain ⟨string, rfl⟩ := wellFormed_of_readUtf16 isChars
  refine ⟨string, rfl, ?_⟩
  rw [readUtf16_utf16, Option.some.injEq] at isChars
  rw [← isChars, String.ofList_toList]

/-! ## What is signed -/

/-- The value of a nullifier, of which the case of the digits is no part. -/
def nullifierValue (payload : QRPayload) : Option Bytes := getBytes payload.voterNullifier

/-- The ballots differ in the policy, the option, the value of the nullifier or the
time. -/
def Differ (first second : QRPayload) : Prop :=
  first.policyId ≠ second.policyId ∨ first.optionId ≠ second.optionId ∨
    nullifierValue first ≠ nullifierValue second ∨ first.timestamp ≠ second.timestamp

/-- The policy and the option of the two ballots read the same in a row, and the
other fields are the same. -/
structure SameInARow (first second : QRPayload) : Prop where
  row : first.policyId ++ first.optionId = second.policyId ++ second.optionId
  nullifier : nullifierValue first = nullifierValue second
  timestamp : first.timestamp = second.timestamp

/-- An accepted nullifier is 32 bytes. -/
theorem length_getBytes {text : String} {bytes : Bytes} (accepted : isHex 64 text = true)
    (read : getBytes text = some bytes) : bytes.length = 32 := by
  unfold isHex at accepted
  unfold getBytes at read
  split at accepted
  · rename_i digits shape
    rw [shape] at read
    rw [Bool.and_eq_true, beq_iff_eq] at accepted
    have length := Hex.length_decode read
    omega
  · cases accepted

/-- The parts of the packed encoding. -/
theorem packed_eq_some {payload : QRPayload} {bytes : Bytes}
    (accepted : qrPayloadSchema payload = true) (isPacked : packed payload = some bytes) :
    ∃ (policyId optionId : String) (nullifier : Bytes),
      utf16 policyId = payload.policyId ∧ utf16 optionId = payload.optionId ∧
      nullifierValue payload = some nullifier ∧ nullifier.length = 32 ∧
      0 ≤ payload.timestamp ∧ payload.timestamp < 2 ^ 53 ∧
      bytes = toUtf8Bytes (policyId ++ optionId) ++ nullifier ++
        bigEndian 32 payload.timestamp.toNat := by
  have hexadecimal : isHex 64 payload.voterNullifier = true := by
    simp only [qrPayloadSchema, Bool.and_eq_true] at accepted
    exact accepted.1.1.2
  -- the parts are encoded one after the other, and each may be refused
  obtain ⟨policyBytes, isPolicy, isPacked⟩ := Option.bind_eq_some_iff.mp isPacked
  obtain ⟨optionBytes, isOption, isPacked⟩ := Option.bind_eq_some_iff.mp isPacked
  obtain ⟨nullifier, isNullifier, isPacked⟩ := Option.bind_eq_some_iff.mp isPacked
  obtain ⟨timestamp, isTimestamp, isPacked⟩ := Option.bind_eq_some_iff.mp isPacked
  obtain rfl := Option.some.inj isPacked
  obtain ⟨policyId, isPolicyId, rfl⟩ := utf8BytesOf_eq_some isPolicy
  obtain ⟨optionId, isOptionId, rfl⟩ := utf8BytesOf_eq_some isOption
  unfold uint256Bytes at isTimestamp
  split at isTimestamp
  · rename_i safe
    obtain rfl := Option.some.inj isTimestamp
    refine ⟨policyId, optionId, nullifier, isPolicyId, isOptionId, isNullifier,
      length_getBytes hexadecimal isNullifier, safe.1, safe.2, ?_⟩
    rw [toUtf8Bytes_append]
  · cases isTimestamp

theorem bigEndian_toNat_inj {a b : ℤ} (nonnegA : 0 ≤ a) (nonnegB : 0 ≤ b) (smallA : a < 2 ^ 53)
    (smallB : b < 2 ^ 53) (same : bigEndian 32 a.toNat = bigEndian 32 b.toNat) : a = b := by
  have numbers := congrArg ofBigEndian same
  rw [ofBigEndian_bigEndian, ofBigEndian_bigEndian, Nat.mod_eq_of_lt (by omega),
    Nat.mod_eq_of_lt (by omega)] at numbers
  omega

/-- **What the signature covers.**  Two ballots are signed as the same bytes exactly
when they read the same in a row. -/
theorem packed_eq_iff {first second : QRPayload} {bytes bytes' : Bytes}
    (acceptedFirst : qrPayloadSchema first = true) (acceptedSecond : qrPayloadSchema second = true)
    (isFirst : packed first = some bytes) (isSecond : packed second = some bytes') :
    bytes = bytes' ↔ SameInARow first second := by
  obtain ⟨policyId, optionId, nullifier, isPolicy, isOption, isNullifier, width, nonneg, safe,
    rfl⟩ := packed_eq_some acceptedFirst isFirst
  obtain ⟨policyId', optionId', nullifier', isPolicy', isOption', isNullifier', width', nonneg',
    safe', rfl⟩ := packed_eq_some acceptedSecond isSecond
  constructor
  · intro same
    -- the two fields of a fixed width are at the end
    obtain ⟨front, times⟩ := List.append_inj' same (by rw [bigEndian_length, bigEndian_length])
    obtain ⟨texts, rfl⟩ := List.append_inj' front (width.trans width'.symm)
    refine ⟨?_, isNullifier.trans isNullifier'.symm,
      bigEndian_toNat_inj nonneg nonneg' safe safe' times⟩
    rw [← isPolicy, ← isOption, ← isPolicy', ← isOption', ← utf16_append, ← utf16_append,
      toUtf8Bytes_injective texts]
  · rintro ⟨row, sameNullifier, sameTime⟩
    rw [isNullifier, isNullifier', Option.some.injEq] at sameNullifier
    rw [← isPolicy, ← isOption, ← isPolicy', ← isOption', ← utf16_append, ← utf16_append] at row
    rw [utf16_injective row, sameNullifier, sameTime]

/-! ## Signatures of two ballots -/

section Signatures

variable {keccak256 : Bytes → Bytes32} {recoverAddress : Bytes32 → String → Option Address}

/-- What is hashed between the bytes of a ballot and the digest that is signed. -/
def hashedInputs (keccak256 : Bytes → Bytes32) (bytes : Bytes) : Set Bytes :=
  {bytes, toUtf8Bytes "\x19Ethereum Signed Message:\n32" ++ digestBytes (keccak256 bytes)}

/-- Different bytes are signed as different digests. -/
theorem hashMessage_inj {bytes bytes' : Bytes}
    (free : CollisionFreeOn keccak256
      (hashedInputs keccak256 bytes ∪ hashedInputs keccak256 bytes'))
    (same : hashMessage keccak256 (keccak256 bytes) = hashMessage keccak256 (keccak256 bytes')) :
    bytes = bytes' := by
  have messages := free (Or.inl (Or.inr rfl)) (Or.inr (Or.inr rfl)) same
  have digests := digestBytes_injective (List.append_cancel_left messages)
  exact free (Or.inl (Or.inl rfl)) (Or.inr (Or.inl rfl)) digests

/-- On these two digests the signature has one signer only if they are the same.  It is no
property of all digests: the recovery reads them modulo the order of its group. -/
def Binds (recoverAddress : Bytes32 → String → Option Address) (signature : String)
    (digest digest' : Bytes32) : Prop :=
  ∀ signer, recoverAddress digest signature = some signer →
    recoverAddress digest' signature = some signer → digest = digest'

/-- **One signature, one ballot** fails exactly where two ballots read the same in a
row.  Then every signature is from the same signer on both; otherwise no signature
is that binds the two digests, if the hash has no collision. -/
theorem qr_signature_covers_iff (keccak256 : Bytes → Bytes32)
    (recoverAddress : Bytes32 → String → Option Address) (first second : QRPayload)
    (bytes bytes' : Bytes) (acceptedFirst : qrPayloadSchema first = true)
    (acceptedSecond : qrPayloadSchema second = true) (isFirst : packed first = some bytes)
    (isSecond : packed second = some bytes') :
    ((Differ first second → bytes ≠ bytes') ↔
      ¬ (Differ first second ∧ SameInARow first second)) ∧
    (SameInARow first second → ∀ signature,
      signerAddress keccak256 recoverAddress bytes signature =
        signerAddress keccak256 recoverAddress bytes' signature) ∧
    (¬ SameInARow first second →
      CollisionFreeOn keccak256 (hashedInputs keccak256 bytes ∪ hashedInputs keccak256 bytes') →
      ∀ signature, Binds recoverAddress signature (hashMessage keccak256 (keccak256 bytes))
          (hashMessage keccak256 (keccak256 bytes')) →
        ∀ signer, signerAddress keccak256 recoverAddress bytes signature = some signer →
          signerAddress keccak256 recoverAddress bytes' signature ≠ some signer) := by
  have covered := packed_eq_iff acceptedFirst acceptedSecond isFirst isSecond
  refine ⟨?_, ?_, ?_⟩
  · rw [not_and]
    exact forall_congr' fun _ => covered.not
  · intro same signature
    rw [covered.mpr same]
  · intro apart free signature binds signer isSigner isSigner'
    exact apart (covered.mp (hashMessage_inj free (binds signer isSigner isSigner')))

/-- A valid body whose bytes are signed, with a signature that recovers, is
accepted. -/
theorem post_eq_accepted {now : ℤ} {body : QRPayload} {bytes : Bytes} {signer : Address}
    (valid : qrPayloadSchema body = true) (fresh : now - body.timestamp ≤ 30 * 24 * 3600 * 1000)
    (isPacked : packed body = some bytes)
    (isSigner : signerAddress keccak256 recoverAddress bytes body.signature = some signer)
    (text : (utf8BytesOf (utf16 body.voterNullifier ++ body.policyId ++ body.optionId)).isSome) :
    ∃ receipt, post keccak256 recoverAddress now body = .accepted signer receipt := by
  obtain ⟨textBytes, isText⟩ := Option.isSome_iff_exists.mp text
  have notOld : ¬ now - body.timestamp > 30 * 24 * 3600 * 1000 := not_lt.mpr fresh
  refine ⟨⟨keccak256 textBytes, 0, body.voterNullifier⟩, ?_⟩
  simp only [post, valid, Bool.not_true, Bool.false_eq_true, if_false, if_neg notOld, isPacked,
    isSigner, isText]

end Signatures

/-! ## A signature for two ballots -/

/-- Option "1" of the policy "budget-2026", signed by the account
`0xf39fd6e51aad88f6f4ce6ab8827279cfffb92266`. -/
def ballotFor2026 : QRPayload where
  policyId := utf16 "budget-2026"
  optionId := utf16 "1"
  voterNullifier := "0x6b23c0d5f35d1b11f9b683f0b0a617355deb11277d91ae091d399c655b87940d"
  signature := "0x7785e7bf1f7a95b3759fb8faf3e169c8a8f96abb6c755bd9ac7e516d8c598746" ++
    "28572821597c897c5918b200929391cecc7b03d17581fe17a5cd2e8030177b7f1b"
  timestamp := 1790000000000

/-- The same characters as option "61" of the policy "budget-202". -/
def ballotFor202 : QRPayload :=
  { ballotFor2026 with
    policyId := utf16 "budget-202"
    optionId := utf16 "61" }

/-- Option "2" of the policy "budget-2026". -/
def otherBallot : QRPayload := { ballotFor2026 with optionId := utf16 "2" }

/-- The bytes of a ballot with the sample nullifier and time, whose policy and option read
`row`. -/
def sampleBytes (row : String) : Bytes :=
  toUtf8Bytes row ++
    bigEndian 32 0x6b23c0d5f35d1b11f9b683f0b0a617355deb11277d91ae091d399c655b87940d ++
    bigEndian 32 1790000000000

/-- The sample ballot with another policy and option is valid. -/
theorem valid_sample {policyId optionId : Text} (named : policyId ≠ []) (chosen : optionId ≠ []) :
    qrPayloadSchema { ballotFor2026 with policyId, optionId } = true := by
  have nullifier : isHex 64 ballotFor2026.voterNullifier = true := by decide
  have signature : isHexText ballotFor2026.signature = true := by decide +kernel
  have fresh : 0 < ballotFor2026.timestamp := by decide
  simp [qrPayloadSchema, Nat.one_le_iff_ne_zero, named, chosen, nullifier, signature, fresh]

/-- Its bytes are those of the policy and the option in a row. -/
theorem packed_sample {policyId optionId : String} {row : String}
    (inARow : toUtf8Bytes policyId ++ toUtf8Bytes optionId = toUtf8Bytes row) :
    packed { ballotFor2026 with policyId := utf16 policyId, optionId := utf16 optionId } =
      some (sampleBytes row) := by
  have nullifier : getBytes ballotFor2026.voterNullifier = some (bigEndian 32
      0x6b23c0d5f35d1b11f9b683f0b0a617355deb11277d91ae091d399c655b87940d) := by decide
  have timestamp : uint256Bytes ballotFor2026.timestamp = some (bigEndian 32 1790000000000) := by
    decide
  rw [sampleBytes, ← inARow]
  simp [packed, utf8BytesOf, readUtf16_utf16, nullifier, timestamp]

theorem packed_ballotFor2026 : packed ballotFor2026 = some (sampleBytes "budget-20261") :=
  @packed_sample "budget-2026" "1" "budget-20261" (by decide)

/-- The digests of the bytes of both ballots, and of the messages these are signed as. -/
def qrDigests : List (Bytes × Bytes32) :=
  let digest : Bytes32 := 0x16c3f0a5ce983141c119e1a9459d34d29e52dd6ad36de4c3f5384e77e73269e2
  let digest' : Bytes32 := 0x0f617255760f76470f962a29a0874577b3fb57ba3534e14f4ec26b0e567cf85b
  [(sampleBytes "budget-20261", digest), (sampleBytes "budget-20262", digest'),
    (toUtf8Bytes "\x19Ethereum Signed Message:\n32" ++ digestBytes digest,
      0xdd79f6bb1c28493b4c864f3d72e5839e51c7769e09467e76b55490b782108c6d),
    (toUtf8Bytes "\x19Ethereum Signed Message:\n32" ++ digestBytes digest',
      0x0845cf7b69c754a7cba39643001a24890231409541aa6108e93a8db2f9fe6eca)]

/-- `keccak256` on the strings of both ballots. -/
def qrKeccak256 (bytes : Bytes) : Bytes32 := (qrDigests.lookup bytes).getD 0

/-- Whom the sample signature is from, on the digests of both ballots. -/
def qrRecover (digest : Bytes32) (signature : String) : Option Address :=
  if signature ≠ ballotFor2026.signature then none
  else if digest = 0xdd79f6bb1c28493b4c864f3d72e5839e51c7769e09467e76b55490b782108c6d then
    some 0xf39fd6e51aad88f6f4ce6ab8827279cfffb92266
  else if digest = 0x0845cf7b69c754a7cba39643001a24890231409541aa6108e93a8db2f9fe6eca then
    some 0xd16fd1469765c8c0aa7266d10e7c9b775af29e85
  else none

/-- The signature of the first ballot is not its signer's on a ballot for another option. -/
theorem qr_signature_covers_iff_sample :
    packed ballotFor2026 = some (sampleBytes "budget-20261") ∧
      packed otherBallot = some (sampleBytes "budget-20262") ∧
      sampleBytes "budget-20261" ≠ sampleBytes "budget-20262" ∧
      signerAddress qrKeccak256 qrRecover (sampleBytes "budget-20261") ballotFor2026.signature =
        some 0xf39fd6e51aad88f6f4ce6ab8827279cfffb92266 ∧
      signerAddress qrKeccak256 qrRecover (sampleBytes "budget-20262") ballotFor2026.signature ≠
        some 0xf39fd6e51aad88f6f4ce6ab8827279cfffb92266 := by
  have isFirst := packed_ballotFor2026
  have isSecond : packed otherBallot = some (sampleBytes "budget-20262") :=
    @packed_sample "budget-2026" "2" "budget-20262" (by decide)
  have signed : signerAddress qrKeccak256 qrRecover (sampleBytes "budget-20261")
      ballotFor2026.signature = some 0xf39fd6e51aad88f6f4ce6ab8827279cfffb92266 := by
    decide
  have apart : ¬ SameInARow ballotFor2026 otherBallot := by
    rintro ⟨row, -, -⟩
    exact absurd row (by decide)
  obtain ⟨differ, -, otherwise⟩ := qr_signature_covers_iff qrKeccak256 qrRecover ballotFor2026
    otherBallot _ _ (valid_sample (by decide) (by decide)) (valid_sample (by decide) (by decide))
    isFirst isSecond
  refine ⟨isFirst, isSecond, differ.mpr (fun same => apart same.2) (Or.inr (Or.inl (by decide))),
    signed, otherwise apart ?free _ ?binds _ signed⟩
  case free =>
    have distinct : ∀ input ∈ qrDigests.map Prod.fst, ∀ input' ∈ qrDigests.map Prod.fst,
        qrKeccak256 input = qrKeccak256 input' → input = input' := by decide
    have listed : ∀ input ∈ hashedInputs qrKeccak256 (sampleBytes "budget-20261") ∪
        hashedInputs qrKeccak256 (sampleBytes "budget-20262"),
        input ∈ qrDigests.map Prod.fst := by
      rintro input ((rfl | rfl) | (rfl | rfl)) <;> decide
    intro input mem input' mem'
    exact distinct input (listed input mem) input' (listed input' mem')
  case binds =>
    intro signer isSigner isSigner'
    have first : qrRecover (hashMessage qrKeccak256 (qrKeccak256 (sampleBytes "budget-20261")))
        ballotFor2026.signature = some 0xf39fd6e51aad88f6f4ce6ab8827279cfffb92266 := signed
    have second : qrRecover (hashMessage qrKeccak256 (qrKeccak256 (sampleBytes "budget-20262")))
        ballotFor2026.signature = some 0xd16fd1469765c8c0aa7266d10e7c9b775af29e85 := by
      decide
    rw [first, Option.some.injEq] at isSigner
    rw [second, Option.some.injEq] at isSigner'
    exact absurd (isSigner.trans isSigner'.symm) (by decide)

/-- **Two ballots, one signature.**  Whatever the hash and the recovery of addresses,
a signature that is accepted for the first ballot is accepted for the second as
the same signer's. -/
theorem qr_signature_counterexample :
    qrPayloadSchema ballotFor2026 = true ∧ qrPayloadSchema ballotFor202 = true ∧
      Differ ballotFor2026 ballotFor202 ∧
      ∃ bytes, packed ballotFor2026 = some bytes ∧ packed ballotFor202 = some bytes ∧
        ∀ keccak256 recoverAddress signer,
          signerAddress keccak256 recoverAddress bytes ballotFor2026.signature = some signer →
          (∃ receipt, post keccak256 recoverAddress 1790000001000 ballotFor2026 =
            .accepted signer receipt) ∧
          ∃ receipt, post keccak256 recoverAddress 1790000001000 ballotFor202 =
            .accepted signer receipt := by
  have valid : qrPayloadSchema ballotFor2026 = true := valid_sample (by decide) (by decide)
  have valid' : qrPayloadSchema ballotFor202 = true := valid_sample (by decide) (by decide)
  have isPacked := packed_ballotFor2026
  have isPacked' : packed ballotFor202 = some (sampleBytes "budget-20261") :=
    @packed_sample "budget-202" "61" "budget-20261" (by decide)
  -- the nullifier, the policy and the option are characters
  have isText : ∀ text : String, (utf8BytesOf (utf16 text)).isSome = true := by
    intro text
    rw [utf8BytesOf, readUtf16_utf16]
    rfl
  refine ⟨valid, valid', Or.inl (by decide), _, isPacked, isPacked', ?_⟩
  intro keccak256 recoverAddress signer isSigner
  refine ⟨?_, ?_⟩
  · apply post_eq_accepted valid (by decide) isPacked isSigner
    rw [ballotFor2026, ← utf16_append, ← utf16_append]
    exact isText _
  · apply post_eq_accepted valid' (by decide) isPacked' isSigner
    rw [ballotFor202, ballotFor2026, ← utf16_append, ← utf16_append]
    exact isText _

end TheVoteApp.QrRoute
