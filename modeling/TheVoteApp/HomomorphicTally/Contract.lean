import TheVoteApp.BabyJubjub.OnChain
import TheVoteApp.Foundations.Machine
import TheVoteApp.Solidity.Abi

/-!
# The homomorphic tally contract

`HomomorphicTally.sol`, as a reverting machine: per poll and option it keeps two
accumulated curve points, the sums of the two ciphertext components of the
accepted votes, and their number.

## Main definitions

* `HomomorphicTally` — the contract's storage
* `registerPoll`, `submitEncryptedVote`, `finaliseDecryption`, `setVerifier` and
  the inherited role functions — the external functions
* `machine` — the contract as a `Machine` over its transactions
* `Admits` — the checks of `submitEncryptedVote`

## Design notes

The verifier is another contract.  Its answer to the `staticcall` is a
parameter: whether the call succeeded, and the bytes it returned.

Each external function has one lemma that says when it succeeds and which
storage it leaves; later proofs go through these.
-/

namespace TheVoteApp

open Solidity Foundations

/-- A pair of coordinates. -/
abbrev BabyJubPoint := ℕ × ℕ

/-- The sum of the ciphertexts of an option, and how many they are. -/
structure AccumulatedCiphertext where
  C1 : BabyJubPoint
  C2 : BabyJubPoint
  count : ℕ
deriving DecidableEq

/-- What is stored of a finalised option. -/
structure DecryptionResult where
  tallyValue : ℕ
  T : BabyJubPoint
  decryptionProof : Bytes
  finalised : Bool
deriving DecidableEq

/-- The configuration of a poll; `pollExists` is the source's field `exists`. -/
structure PollConfig where
  tallyPublicKey : BabyJubPoint
  optionCount : ℕ
  closeTime : ℕ
  pollExists : Bool
deriving DecidableEq

/-- The roles of the contract's access control. -/
inductive Role where
  | defaultAdmin
  | tallyAuthority
  | upgrader
deriving DecidableEq

/-- The storage of the contract. -/
structure HomomorphicTally where
  hasRole : Role → Address → Bool
  voteProofVerifier : Address
  polls : Bytes32 → PollConfig
  ciphertexts : Bytes32 → ℕ → AccumulatedCiphertext
  results : Bytes32 → ℕ → DecryptionResult
  nullifiersUsed : Bytes32 → Bytes32 → Bool

namespace HomomorphicTally

/-- The events of the contract. -/
inductive Event where
  | pollRegistered (pollId : Bytes32) (tallyPublicKey : BabyJubPoint) (closeTime : ℕ)
  | encryptedVoteAccumulated (pollId : Bytes32) (optionIndex newCount : ℕ)
  | tallyFinalised (pollId : Bytes32) (optionIndex tallyValue : ℕ)
  | verifierUpdated (oldVerifier newVerifier : Address)
  | roleGranted (role : Role) (account sender : Address)
  | roleRevoked (role : Role) (account sender : Address)
deriving DecidableEq

/-- What a call reverts with. -/
inductive Error where
  | pollNotFound (pollId : Bytes32)
  | pollAlreadyRegistered (pollId : Bytes32)
  | pollNotClosed (pollId : Bytes32) (closeTime : ℕ)
  | pollStillOpen (pollId : Bytes32)
  | invalidOptionIndex (index max : ℕ)
  | nullifierAlreadyUsed (nullifier : Bytes32)
  | invalidProof
  | alreadyFinalised (pollId : Bytes32) (optionIndex : ℕ)
  | accessControlUnauthorizedAccount (account : Address) (neededRole : Role)
  | accessControlBadConfirmation
  | verifierAnswerMalformed
  | arithmeticPanic
deriving DecidableEq

/-- The neutral element the accumulators start from. -/
def neutral : BabyJubPoint := (0, 1)

/-- The storage the initialiser leaves. -/
def initialized (admin verifier : Address) : HomomorphicTally where
  hasRole _ account := decide (account = admin)
  voteProofVerifier := verifier
  polls _ := ⟨(0, 0), 0, 0, false⟩
  ciphertexts _ _ := ⟨(0, 0), (0, 0), 0⟩
  results _ _ := ⟨0, (0, 0), [], false⟩
  nullifiersUsed _ _ := false

/-- The arguments of `submitEncryptedVote`. -/
structure SubmitArgs where
  pollId : Bytes32
  optionIndex : ℕ
  C1 : BabyJubPoint
  C2 : BabyJubPoint
  nullifier : Bytes32
  proof : Bytes
deriving DecidableEq

/-- The loop of `registerPoll`: one round per option. -/
def initialiseAccumulators (optionCount : ℕ) (accs : ℕ → AccumulatedCiphertext) :
    ℕ → AccumulatedCiphertext :=
  (List.range optionCount).foldl
    (fun accs i => Function.update accs i { accs i with C1 := neutral, C2 := neutral }) accs

/-- `InvalidOptionIndex(index, optionCount - 1)`; the subtraction panics for a
poll without options. -/
def optionIndexError (index optionCount : ℕ) : Error :=
  if optionCount = 0 then .arithmeticPanic else .invalidOptionIndex index (optionCount - 1)

/-- Add a ciphertext to an accumulator. -/
def addCiphertext (acc : AccumulatedCiphertext) (C1 C2 : BabyJubPoint) :
    AccumulatedCiphertext where
  C1 := babyJubAdd acc.C1.1 acc.C1.2 C1.1 C1.2
  C2 := babyJubAdd acc.C2.1 acc.C2.2 C2.1 C2.2
  count := acc.count + 1

section Functions

variable (staticcall : Address → Bytes → List ℕ → Bool × Bytes)

/-- `_verifyVoteProof`; `none` when decoding the verifier's answer reverts. -/
def verifyVoteProof (s : HomomorphicTally) (pk C1 C2 : BabyJubPoint) (pollId : Bytes32)
    (proof : Bytes) : Option Bool :=
  if s.voteProofVerifier = 0 then some true
  else
    let pubSignals := [pk.1, pk.2, C1.1, C1.2, C2.1, C2.2, pollId.toNat]
    let (success, ret) := staticcall s.voteProofVerifier proof pubSignals
    if !success || decide (ret.length < 32) then some false
    else match Abi.readWord ret 0 with
      | some 0 => some false
      | some 1 => some true
      | _ => none

/-- `registerPoll`, for tally authorities only. -/
def registerPoll (s : HomomorphicTally) (env : Env) (pollId : Bytes32)
    (tallyPublicKey : BabyJubPoint) (optionCount closeTime : ℕ) :
    Except Error (HomomorphicTally × List Event) :=
  if !s.hasRole .tallyAuthority env.sender then
    .error (.accessControlUnauthorizedAccount env.sender .tallyAuthority)
  else if (s.polls pollId).pollExists then .error (.pollAlreadyRegistered pollId)
  else
    .ok ({ s with
        polls := Function.update s.polls pollId ⟨tallyPublicKey, optionCount, closeTime, true⟩
        ciphertexts := Function.update s.ciphertexts pollId
          (initialiseAccumulators optionCount (s.ciphertexts pollId)) },
      [.pollRegistered pollId tallyPublicKey closeTime])

/-- `submitEncryptedVote`.  The checks run in the order of the source. -/
def submitEncryptedVote (s : HomomorphicTally) (env : Env) (args : SubmitArgs) :
    Except Error (HomomorphicTally × List Event) :=
  let poll := s.polls args.pollId
  if !poll.pollExists then .error (.pollNotFound args.pollId)
  else if poll.closeTime ≤ env.timestamp then .error (.pollNotClosed args.pollId poll.closeTime)
  else if poll.optionCount ≤ args.optionIndex then
    .error (optionIndexError args.optionIndex poll.optionCount)
  else if s.nullifiersUsed args.pollId args.nullifier then
    .error (.nullifierAlreadyUsed args.nullifier)
  else match verifyVoteProof staticcall s poll.tallyPublicKey args.C1 args.C2 args.pollId
      args.proof with
    | none => .error .verifierAnswerMalformed
    | some false => .error .invalidProof
    | some true =>
      let acc := s.ciphertexts args.pollId args.optionIndex
      match checkedIncrement acc.count with
      | none => .error .arithmeticPanic
      | some count =>
        .ok ({ s with
            nullifiersUsed := Function.update s.nullifiersUsed args.pollId
              (Function.update (s.nullifiersUsed args.pollId) args.nullifier true)
            ciphertexts := Function.update s.ciphertexts args.pollId
              (Function.update (s.ciphertexts args.pollId) args.optionIndex
                { addCiphertext acc args.C1 args.C2 with count := count }) },
          [.encryptedVoteAccumulated args.pollId args.optionIndex count])

/-- `finaliseDecryption`.  The decryption proof is stored and not checked. -/
def finaliseDecryption (s : HomomorphicTally) (env : Env) (pollId : Bytes32)
    (optionIndex tallyValue : ℕ) (T : BabyJubPoint) (decryptionProof : Bytes) :
    Except Error (HomomorphicTally × List Event) :=
  let poll := s.polls pollId
  if !s.hasRole .tallyAuthority env.sender then
    .error (.accessControlUnauthorizedAccount env.sender .tallyAuthority)
  else if !poll.pollExists then .error (.pollNotFound pollId)
  else if env.timestamp < poll.closeTime then .error (.pollStillOpen pollId)
  else if poll.optionCount ≤ optionIndex then
    .error (optionIndexError optionIndex poll.optionCount)
  else if (s.results pollId optionIndex).finalised then
    .error (.alreadyFinalised pollId optionIndex)
  else
    .ok ({ s with
        results := Function.update s.results pollId
          (Function.update (s.results pollId) optionIndex
            ⟨tallyValue, T, decryptionProof, true⟩) },
      [.tallyFinalised pollId optionIndex tallyValue])

/-- `setVerifier`, for administrators only. -/
def setVerifier (s : HomomorphicTally) (env : Env) (newVerifier : Address) :
    Except Error (HomomorphicTally × List Event) :=
  if !s.hasRole .defaultAdmin env.sender then
    .error (.accessControlUnauthorizedAccount env.sender .defaultAdmin)
  else
    .ok ({ s with voteProofVerifier := newVerifier },
      [.verifierUpdated s.voteProofVerifier newVerifier])

/-- The storage after `account` gets or loses `role`. -/
def setRole (s : HomomorphicTally) (role : Role) (account : Address) (member : Bool) :
    HomomorphicTally :=
  let members := Function.update (s.hasRole role) account member
  { s with hasRole := Function.update s.hasRole role members }

/-- The inherited `grantRole`: every role is administered by the default admin. -/
def grantRole (s : HomomorphicTally) (env : Env) (role : Role) (account : Address) :
    Except Error (HomomorphicTally × List Event) :=
  if !s.hasRole .defaultAdmin env.sender then
    .error (.accessControlUnauthorizedAccount env.sender .defaultAdmin)
  else
    .ok (setRole s role account true,
      if s.hasRole role account then [] else [.roleGranted role account env.sender])

/-- The inherited `revokeRole`. -/
def revokeRole (s : HomomorphicTally) (env : Env) (role : Role) (account : Address) :
    Except Error (HomomorphicTally × List Event) :=
  if !s.hasRole .defaultAdmin env.sender then
    .error (.accessControlUnauthorizedAccount env.sender .defaultAdmin)
  else
    .ok (setRole s role account false,
      if s.hasRole role account then [.roleRevoked role account env.sender] else [])

/-- The inherited `renounceRole`. -/
def renounceRole (s : HomomorphicTally) (env : Env) (role : Role)
    (callerConfirmation : Address) : Except Error (HomomorphicTally × List Event) :=
  if callerConfirmation ≠ env.sender then .error .accessControlBadConfirmation
  else
    .ok (setRole s role callerConfirmation false,
      if s.hasRole role callerConfirmation then
        [.roleRevoked role callerConfirmation env.sender]
      else [])

end Functions

/-! ## Views -/

/-- `getAccumulated`. -/
def getAccumulated (s : HomomorphicTally) (pollId : Bytes32) (optionIndex : ℕ) :
    AccumulatedCiphertext :=
  s.ciphertexts pollId optionIndex

/-- `getResult`. -/
def getResult (s : HomomorphicTally) (pollId : Bytes32) (optionIndex : ℕ) : ℕ × Bool :=
  let r := s.results pollId optionIndex
  (r.tallyValue, r.finalised)

/-! ## The machine -/

/-- A call of one of the external functions. -/
inductive Call where
  | registerPoll (pollId : Bytes32) (tallyPublicKey : BabyJubPoint) (optionCount closeTime : ℕ)
  | submitEncryptedVote (args : SubmitArgs)
  | finaliseDecryption (pollId : Bytes32) (optionIndex tallyValue : ℕ) (T : BabyJubPoint)
      (decryptionProof : Bytes)
  | setVerifier (newVerifier : Address)
  | grantRole (role : Role) (account : Address)
  | revokeRole (role : Role) (account : Address)
  | renounceRole (role : Role) (callerConfirmation : Address)

/-- A call with the environment it executes in. -/
structure Tx where
  env : Env
  call : Call

/-- The contract, as the machine its transactions drive. -/
def machine (staticcall : Address → Bytes → List ℕ → Bool × Bytes) :
    Machine HomomorphicTally Tx Event Error where
  call s tx :=
    match tx.call with
    | .registerPoll pollId tallyPublicKey optionCount closeTime =>
        registerPoll s tx.env pollId tallyPublicKey optionCount closeTime
    | .submitEncryptedVote args => submitEncryptedVote staticcall s tx.env args
    | .finaliseDecryption pollId optionIndex tallyValue T decryptionProof =>
        finaliseDecryption s tx.env pollId optionIndex tallyValue T decryptionProof
    | .setVerifier newVerifier => setVerifier s tx.env newVerifier
    | .grantRole role account => grantRole s tx.env role account
    | .revokeRole role account => revokeRole s tx.env role account
    | .renounceRole role callerConfirmation => renounceRole s tx.env role callerConfirmation

/-! ## What each function does -/

/-- The storage `registerPoll` leaves. -/
def recordPoll (s : HomomorphicTally) (pollId : Bytes32) (tallyPublicKey : BabyJubPoint)
    (optionCount closeTime : ℕ) : HomomorphicTally :=
  { s with
    polls := Function.update s.polls pollId ⟨tallyPublicKey, optionCount, closeTime, true⟩
    ciphertexts := Function.update s.ciphertexts pollId
      (initialiseAccumulators optionCount (s.ciphertexts pollId)) }

/-- The storage an accepted vote leaves. -/
def recordVote (s : HomomorphicTally) (args : SubmitArgs) : HomomorphicTally :=
  { s with
    nullifiersUsed := Function.update s.nullifiersUsed args.pollId
      (Function.update (s.nullifiersUsed args.pollId) args.nullifier true)
    ciphertexts := Function.update s.ciphertexts args.pollId
      (Function.update (s.ciphertexts args.pollId) args.optionIndex
        (addCiphertext (s.ciphertexts args.pollId args.optionIndex) args.C1 args.C2)) }

/-- The storage a published result leaves. -/
def recordResult (s : HomomorphicTally) (pollId : Bytes32) (optionIndex : ℕ)
    (result : DecryptionResult) : HomomorphicTally :=
  { s with
    results := Function.update s.results pollId
      (Function.update (s.results pollId) optionIndex result) }

/-- Every check of `submitEncryptedVote`: the poll exists and is open, the
option exists, the nullifier is unused and the proof is accepted. -/
structure Admits (staticcall : Address → Bytes → List ℕ → Bool × Bytes) (s : HomomorphicTally)
    (env : Env) (args : SubmitArgs) : Prop where
  registered : (s.polls args.pollId).pollExists = true
  beforeClose : env.timestamp < (s.polls args.pollId).closeTime
  inRange : args.optionIndex < (s.polls args.pollId).optionCount
  unused : s.nullifiersUsed args.pollId args.nullifier = false
  verified : verifyVoteProof staticcall s (s.polls args.pollId).tallyPublicKey args.C1 args.C2
    args.pollId args.proof = some true
  room : (s.ciphertexts args.pollId args.optionIndex).count + 1 < 2 ^ 256

/-- Every check of `finaliseDecryption`: the sender is the tally authority, the
poll exists and is closed, the option exists and has no result yet. -/
structure MayFinalise (s : HomomorphicTally) (env : Env) (pollId : Bytes32) (optionIndex : ℕ) :
    Prop where
  authority : s.hasRole .tallyAuthority env.sender = true
  registered : (s.polls pollId).pollExists = true
  afterClose : (s.polls pollId).closeTime ≤ env.timestamp
  inRange : optionIndex < (s.polls pollId).optionCount
  pending : (s.results pollId optionIndex).finalised = false

section Specifications

variable {staticcall : Address → Bytes → List ℕ → Bool × Bytes} {s s' : HomomorphicTally}
variable {env : Env} {new : List Event}

/-- **`submitEncryptedVote`.**  The call succeeds exactly when its checks pass; it
then uses up the nullifier and adds the ciphertext to one accumulator. -/
theorem submitEncryptedVote_eq_ok_iff {args : SubmitArgs} :
    submitEncryptedVote staticcall s env args = .ok (s', new) ↔
      Admits staticcall s env args ∧ s' = recordVote s args ∧
        new = [.encryptedVoteAccumulated args.pollId args.optionIndex
          ((s.ciphertexts args.pollId args.optionIndex).count + 1)] := by
  constructor
  · intro success
    unfold submitEncryptedVote at success
    dsimp only at success
    split at success; · cases success
    split at success; · cases success
    split at success; · cases success
    split at success; · cases success
    rename_i registered beforeClose inRange unused
    split at success
    · cases success
    · cases success
    · rename_i verified
      split at success
      · cases success
      · rename_i count counted
        obtain ⟨room, rfl⟩ := checkedIncrement_eq_some_iff.mp counted
        obtain ⟨rfl, rfl⟩ := Prod.mk.inj (Except.ok.inj success)
        exact ⟨⟨by simpa using registered, Nat.lt_of_not_le beforeClose, Nat.lt_of_not_le inRange,
          by simpa using unused, verified, room⟩, rfl, rfl⟩
  · rintro ⟨checks, rfl, rfl⟩
    have open' := Nat.not_le.mpr checks.beforeClose
    have valid := Nat.not_le.mpr checks.inRange
    have counted : checkedIncrement (s.ciphertexts args.pollId args.optionIndex).count =
        some ((s.ciphertexts args.pollId args.optionIndex).count + 1) :=
      checkedIncrement_eq_some_iff.mpr ⟨checks.room, rfl⟩
    simp only [submitEncryptedVote, checks.registered, checks.unused, checks.verified, open', valid,
      counted, Bool.not_true, Bool.false_eq_true, if_false]
    rfl

/-- **`registerPoll`.** -/
theorem registerPoll_eq_ok_iff {pollId : Bytes32} {tallyPublicKey : BabyJubPoint}
    {optionCount closeTime : ℕ} :
    registerPoll s env pollId tallyPublicKey optionCount closeTime = .ok (s', new) ↔
      s.hasRole .tallyAuthority env.sender = true ∧ (s.polls pollId).pollExists = false ∧
        s' = recordPoll s pollId tallyPublicKey optionCount closeTime ∧
        new = [.pollRegistered pollId tallyPublicKey closeTime] := by
  cases authority : s.hasRole .tallyAuthority env.sender with
  | false => simp [registerPoll, authority]
  | true =>
      cases registered : (s.polls pollId).pollExists with
      | true => simp [registerPoll, authority, registered]
      | false => simp [registerPoll, authority, registered, recordPoll, eq_comm]

/-- **`finaliseDecryption`.** -/
theorem finaliseDecryption_eq_ok_iff {pollId : Bytes32} {optionIndex tallyValue : ℕ}
    {T : BabyJubPoint} {decryptionProof : Bytes} :
    finaliseDecryption s env pollId optionIndex tallyValue T decryptionProof = .ok (s', new) ↔
      MayFinalise s env pollId optionIndex ∧
        s' = recordResult s pollId optionIndex ⟨tallyValue, T, decryptionProof, true⟩ ∧
        new = [.tallyFinalised pollId optionIndex tallyValue] := by
  constructor
  · intro success
    unfold finaliseDecryption at success
    dsimp only at success
    split at success; · cases success
    split at success; · cases success
    split at success; · cases success
    split at success; · cases success
    split at success; · cases success
    rename_i authority registered afterClose inRange pending
    obtain ⟨rfl, rfl⟩ := Prod.mk.inj (Except.ok.inj success)
    exact ⟨⟨by simpa using authority, by simpa using registered, Nat.le_of_not_lt afterClose,
      Nat.lt_of_not_le inRange, by simpa using pending⟩, rfl, rfl⟩
  · rintro ⟨checks, rfl, rfl⟩
    have closed := Nat.not_lt.mpr checks.afterClose
    have valid := Nat.not_le.mpr checks.inRange
    simp only [finaliseDecryption, checks.authority, checks.registered, checks.pending, closed,
      valid, Bool.not_true, Bool.false_eq_true, if_false]
    rfl

theorem setVerifier_eq_ok_iff {newVerifier : Address} :
    setVerifier s env newVerifier = .ok (s', new) ↔
      s.hasRole .defaultAdmin env.sender = true ∧
        s' = { s with voteProofVerifier := newVerifier } ∧
        new = [.verifierUpdated s.voteProofVerifier newVerifier] := by
  cases admin : s.hasRole .defaultAdmin env.sender <;> simp [setVerifier, admin, eq_comm]

theorem grantRole_eq_ok_iff {role : Role} {account : Address} :
    grantRole s env role account = .ok (s', new) ↔
      s.hasRole .defaultAdmin env.sender = true ∧ s' = setRole s role account true ∧
        new = if s.hasRole role account then [] else [.roleGranted role account env.sender] := by
  cases admin : s.hasRole .defaultAdmin env.sender with
  | false => simp [grantRole, admin]
  | true =>
      simp only [grantRole, admin, Bool.not_true, Bool.false_eq_true, if_false, Except.ok.injEq,
        Prod.mk.injEq, true_and]
      exact and_congr eq_comm eq_comm

theorem revokeRole_eq_ok_iff {role : Role} {account : Address} :
    revokeRole s env role account = .ok (s', new) ↔
      s.hasRole .defaultAdmin env.sender = true ∧ s' = setRole s role account false ∧
        new = if s.hasRole role account then [.roleRevoked role account env.sender] else [] := by
  cases admin : s.hasRole .defaultAdmin env.sender with
  | false => simp [revokeRole, admin]
  | true =>
      simp only [revokeRole, admin, Bool.not_true, Bool.false_eq_true, if_false, Except.ok.injEq,
        Prod.mk.injEq, true_and]
      exact and_congr eq_comm eq_comm

theorem renounceRole_eq_ok_iff {role : Role} {callerConfirmation : Address} :
    renounceRole s env role callerConfirmation = .ok (s', new) ↔
      callerConfirmation = env.sender ∧ s' = setRole s role callerConfirmation false ∧
        new = if s.hasRole role callerConfirmation then
          [.roleRevoked role callerConfirmation env.sender] else [] := by
  by_cases confirmed : callerConfirmation = env.sender
  · simp only [renounceRole, confirmed, ne_eq, not_true_eq_false, if_false, Except.ok.injEq,
      Prod.mk.injEq, true_and]
    exact and_congr eq_comm eq_comm
  · simp [renounceRole, confirmed]

end Specifications

/-- The transaction leaves the polls, the accumulators and the used nullifiers as
they are. -/
structure Untouched (s s' : HomomorphicTally) : Prop where
  polls : s'.polls = s.polls
  ciphertexts : s'.ciphertexts = s.ciphertexts
  nullifiersUsed : s'.nullifiersUsed = s.nullifiersUsed

/-- **What a successful transaction does** to the polls, the accumulators and the
used nullifiers. -/
inductive Step (staticcall : Address → Bytes → List ℕ → Bool × Bytes) (s : HomomorphicTally) :
    Tx → HomomorphicTally → Prop where
  | registerPoll {env : Env} {pollId : Bytes32} {tallyPublicKey : BabyJubPoint}
      {optionCount closeTime : ℕ} (fresh : (s.polls pollId).pollExists = false) :
      Step staticcall s ⟨env, .registerPoll pollId tallyPublicKey optionCount closeTime⟩
        (recordPoll s pollId tallyPublicKey optionCount closeTime)
  | submitEncryptedVote {env : Env} {args : SubmitArgs} (checks : Admits staticcall s env args) :
      Step staticcall s ⟨env, .submitEncryptedVote args⟩ (recordVote s args)
  | other {tx : Tx} {s' : HomomorphicTally} (noVote : ∀ args, tx.call ≠ .submitEncryptedVote args)
      (untouched : Untouched s s') : Step staticcall s tx s'

/-- A successful transaction is one of these. -/
theorem Step.of_call {staticcall : Address → Bytes → List ℕ → Bool × Bytes}
    {s s' : HomomorphicTally} {tx : Tx} {new : List Event}
    (success : (machine staticcall).call s tx = .ok (s', new)) : Step staticcall s tx s' := by
  obtain ⟨env, call⟩ := tx
  cases call with
  | registerPoll pollId tallyPublicKey optionCount closeTime =>
      obtain ⟨-, fresh, rfl, -⟩ := registerPoll_eq_ok_iff.mp success
      exact .registerPoll fresh
  | submitEncryptedVote args =>
      obtain ⟨checks, rfl, -⟩ := submitEncryptedVote_eq_ok_iff.mp success
      exact .submitEncryptedVote checks
  | finaliseDecryption pollId optionIndex tallyValue T decryptionProof =>
      obtain ⟨-, rfl, -⟩ := finaliseDecryption_eq_ok_iff.mp success
      exact .other (by rintro args ⟨⟩) ⟨rfl, rfl, rfl⟩
  | setVerifier newVerifier =>
      obtain ⟨-, rfl, -⟩ := setVerifier_eq_ok_iff.mp success
      exact .other (by rintro args ⟨⟩) ⟨rfl, rfl, rfl⟩
  | grantRole role account =>
      obtain ⟨-, rfl, -⟩ := grantRole_eq_ok_iff.mp success
      exact .other (by rintro args ⟨⟩) ⟨rfl, rfl, rfl⟩
  | revokeRole role account =>
      obtain ⟨-, rfl, -⟩ := revokeRole_eq_ok_iff.mp success
      exact .other (by rintro args ⟨⟩) ⟨rfl, rfl, rfl⟩
  | renounceRole role callerConfirmation =>
      obtain ⟨-, rfl, -⟩ := renounceRole_eq_ok_iff.mp success
      exact .other (by rintro args ⟨⟩) ⟨rfl, rfl, rfl⟩

/-- A successful `submitEncryptedVote` is an admitted one. -/
theorem succeeds_submit_iff {staticcall : Address → Bytes → List ℕ → Bool × Bytes}
    {s : HomomorphicTally} {env : Env} {args : SubmitArgs} :
    (machine staticcall).Succeeds s ⟨env, .submitEncryptedVote args⟩ ↔
      Admits staticcall s env args := by
  constructor
  · rintro ⟨⟨s', new⟩, success⟩
    exact (submitEncryptedVote_eq_ok_iff.mp success).1
  · intro checks
    exact ⟨_, submitEncryptedVote_eq_ok_iff.mpr ⟨checks, rfl, rfl⟩⟩

/-! ## What each storage update leaves alone -/

section Updates

variable (s : HomomorphicTally)

/-- The loop of `registerPoll` resets the points of every option and keeps the
counts. -/
theorem initialiseAccumulators_apply (optionCount i : ℕ) (accs : ℕ → AccumulatedCiphertext) :
    initialiseAccumulators optionCount accs i =
      if i < optionCount then { accs i with C1 := neutral, C2 := neutral } else accs i := by
  induction optionCount with
  | zero => rfl
  | succ optionCount ih =>
      have round : initialiseAccumulators (optionCount + 1) accs =
          Function.update (initialiseAccumulators optionCount accs) optionCount
            { initialiseAccumulators optionCount accs optionCount with
              C1 := neutral, C2 := neutral } := by
        simp only [initialiseAccumulators, List.range_succ, List.foldl_append, List.foldl_cons,
          List.foldl_nil]
      rw [round]
      by_cases last : i = optionCount
      · subst last
        rw [Function.update_self, ih, if_neg (Nat.lt_irrefl i), if_pos (Nat.lt_succ_self i)]
      · rw [Function.update_of_ne last, ih]
        congr 1
        simp only [eq_iff_iff]
        omega

theorem polls_recordPoll_of_ne {p pollId : Bytes32} (other : p ≠ pollId) (key : BabyJubPoint)
    (optionCount closeTime : ℕ) :
    (recordPoll s pollId key optionCount closeTime).polls p = s.polls p :=
  Function.update_of_ne other _ _

theorem ciphertexts_recordPoll_of_ne {p pollId : Bytes32} (other : p ≠ pollId)
    (key : BabyJubPoint) (optionCount closeTime : ℕ) :
    (recordPoll s pollId key optionCount closeTime).ciphertexts p = s.ciphertexts p :=
  Function.update_of_ne other _ _

@[simp] theorem polls_recordVote (args : SubmitArgs) : (recordVote s args).polls = s.polls := rfl

theorem ciphertexts_recordVote (args : SubmitArgs) (p : Bytes32) (i : ℕ) :
    (recordVote s args).ciphertexts p i =
      if p = args.pollId ∧ i = args.optionIndex then
        addCiphertext (s.ciphertexts p i) args.C1 args.C2
      else s.ciphertexts p i := by
  by_cases samePoll : p = args.pollId
  · subst samePoll
    by_cases sameOption : i = args.optionIndex
    · subst sameOption
      simp [recordVote]
    · simp [recordVote, sameOption]
  · simp [recordVote, samePoll]

theorem nullifiersUsed_recordVote (args : SubmitArgs) (p n : Bytes32) :
    (recordVote s args).nullifiersUsed p n =
      (decide (p = args.pollId ∧ n = args.nullifier) || s.nullifiersUsed p n) := by
  by_cases samePoll : p = args.pollId
  · subst samePoll
    by_cases sameNullifier : n = args.nullifier
    · subst sameNullifier
      simp [recordVote]
    · simp [recordVote, sameNullifier]
  · simp [recordVote, samePoll]

end Updates

/-- **A registered poll keeps its configuration.** -/
theorem Step.polls_eq {staticcall : Address → Bytes → List ℕ → Bool × Bytes}
    {s s' : HomomorphicTally} {tx : Tx} (done : Step staticcall s tx s') {p : Bytes32}
    (registered : (s.polls p).pollExists = true) : s'.polls p = s.polls p := by
  cases done with
  | @registerPoll env pollId key optionCount closeTime fresh =>
      have other : p ≠ pollId := by
        rintro rfl
        rw [registered] at fresh
        cases fresh
      exact polls_recordPoll_of_ne s other key optionCount closeTime
  | submitEncryptedVote checks => rfl
  | other noVote untouched => rw [untouched.polls]

/-! ## The sample poll

A poll with two options and the public key `G` of the secret key `1`, and
verifiers that accept one proof for a list of ciphertexts. -/

/-- A verifier contract that returns one boolean. -/
def booleanVerifier (accepts : Bytes → List ℕ → Bool) (_ : Address) (proof : Bytes)
    (pubSignals : List ℕ) : Bool × Bytes :=
  (true, Abi.encode [.word (if accepts proof pubSignals then 1 else 0)])

/-- The contract takes one boolean word as the verdict. -/
theorem verifyVoteProof_of_answer {staticcall : Address → Bytes → List ℕ → Bool × Bytes}
    {s : HomomorphicTally} (deployed : s.voteProofVerifier ≠ 0) {pk C1 C2 : BabyJubPoint}
    {pollId : Bytes32} {proof ret : Bytes} {answer : Bool}
    (returned : staticcall s.voteProofVerifier proof
      [pk.1, pk.2, C1.1, C1.2, C2.1, C2.2, pollId.toNat] = (true, ret))
    (length : ret.length = 32) (word : Abi.readWord ret 0 = some (if answer then 1 else 0)) :
    verifyVoteProof staticcall s pk C1 C2 pollId proof = some answer := by
  simp only [verifyVoteProof, if_neg deployed, returned, length, word]
  cases answer <;> rfl

theorem verifyVoteProof_booleanVerifier {accepts : Bytes → List ℕ → Bool} {s : HomomorphicTally}
    (deployed : s.voteProofVerifier ≠ 0) (pk C1 C2 : BabyJubPoint) (pollId : Bytes32)
    (proof : Bytes) :
    verifyVoteProof (booleanVerifier accepts) s pk C1 C2 pollId proof =
      some (accepts proof [pk.1, pk.2, C1.1, C1.2, C2.1, C2.2, pollId.toNat]) := by
  have word : ∀ answer : Bool, (Abi.encode [.word (if answer then 1 else 0)]).length = 32 ∧
      Abi.readWord (Abi.encode [.word (if answer then 1 else 0)]) 0 =
        some (if answer then 1 else 0) := by decide
  exact verifyVoteProof_of_answer deployed rfl (word _).1 (word _).2

/-- The encryption of `1` with randomness `1` under the key `G`. -/
def sampleC1 : BabyJubPoint := (BabyJubjub.baseX, BabyJubjub.baseY)

/-- The second component of the sample ciphertext. -/
def sampleC2 : BabyJubPoint :=
  (10031262171927540148667355526369034398030886437092045105752248699557385197826,
    633281375905621697187330766174974863687049529291089048651929454608812697683)

theorem coords_base_add_base :
    BabyJubjub.coords (BabyJubjub.base + BabyJubjub.base) = sampleC2 := by
  rw [← babyJubAdd_coords, BabyJubjub.coords_base]
  decide +kernel

/-- With `sampleC2` the encryption of `1` with randomness `2`. -/
def sampleC3 : BabyJubPoint :=
  (2763488322167937039616325905516046217694264098671987087929565332380420898366,
    15305195750036305661220525648961313310481046260814497672243197092298550508693)

theorem coords_base_add_base_add_base :
    BabyJubjub.coords (BabyJubjub.base + BabyJubjub.base + BabyJubjub.base) = sampleC3 := by
  rw [← babyJubAdd_coords, coords_base_add_base, BabyJubjub.coords_base]
  decide +kernel

/-- The poll of the sample votes. -/
def samplePollId : Bytes32 := 7

/-- The one accepted proof, for the public signals of the ciphertexts in the sample poll. -/
def acceptsProof (ciphertexts : List (BabyJubPoint × BabyJubPoint)) (proof : Bytes)
    (pubSignals : List ℕ) : Bool :=
  decide (proof = [9] ∧ ∃ c ∈ ciphertexts, pubSignals = [sampleC1.1, sampleC1.2, c.1.1, c.1.2,
    c.2.1, c.2.2, samplePollId.toNat])

/-- A verifier that accepts proofs about the sample ciphertext. -/
def sampleAccepts : Bytes → List ℕ → Bool := acceptsProof [(sampleC1, sampleC2)]

/-- Both sample ciphertexts. -/
def twoAccepts : Bytes → List ℕ → Bool :=
  acceptsProof [(sampleC1, sampleC2), (sampleC2, sampleC3)]

/-- What a verifier of this kind has accepted. -/
theorem mem_of_acceptsProof {ciphertexts : List (BabyJubPoint × BabyJubPoint)}
    {s : HomomorphicTally} (deployed : s.voteProofVerifier ≠ 0) {pk C1 C2 : BabyJubPoint}
    {pollId : Bytes32} {proof : Bytes}
    (verified : verifyVoteProof (booleanVerifier (acceptsProof ciphertexts)) s pk C1 C2 pollId
      proof = some true) :
    pk = sampleC1 ∧ (C1, C2) ∈ ciphertexts ∧ pollId = samplePollId := by
  rw [verifyVoteProof_booleanVerifier deployed, Option.some.injEq, acceptsProof,
    decide_eq_true_eq] at verified
  obtain ⟨-, c, mem, signals⟩ := verified
  simp only [List.cons.injEq, and_true] at signals
  obtain ⟨keyX, keyY, x1, y1, x2, y2, poll⟩ := signals
  refine ⟨Prod.ext keyX keyY, ?_, BitVec.eq_of_toNat_eq poll⟩
  rwa [show (C1, C2) = c from Prod.ext (Prod.ext x1 y1) (Prod.ext x2 y2)]

/-- The registration of the sample poll. -/
def sampleRegistration : Tx := ⟨⟨1, 50, 1⟩, .registerPoll samplePollId sampleC1 2 1000⟩

/-- The first sample ciphertext, for an option and with a nullifier of the caller's choice. -/
def sampleSubmission (optionIndex : ℕ) (nullifier : Bytes32) : Tx :=
  ⟨⟨2, 100, 2⟩,
    .submitEncryptedVote ⟨samplePollId, optionIndex, sampleC1, sampleC2, nullifier, [9]⟩⟩

/-- The second sample ciphertext, for the first option. -/
def secondSubmission : Tx :=
  ⟨⟨3, 101, 2⟩, .submitEncryptedVote ⟨samplePollId, 0, sampleC2, sampleC3, 2, [9]⟩⟩

/-- The sample poll and both sample votes. -/
def sampleVotes : List Tx := [sampleRegistration, sampleSubmission 0 1, secondSubmission]

end HomomorphicTally

end TheVoteApp
