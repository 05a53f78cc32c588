import TheVoteApp.Solidity.Keccak

/-!
# The vote ledger contract

`VoteLedger.sol`, as a reverting machine.  Every external function is a
partial function on the contract's storage: it returns the error it reverts
with, or the new storage together with the events it emits.

## Main definitions

* `VoteLedger` — the contract's storage
* `createPoll`, `castVote`, `finalisePoll`, `pause`, `unpause` and the inherited
  `transferOwnership`, `renounceOwnership` — the external functions, and
  `getTally`, `getPollMeta`, `isNullifierSpent` — the views
* `machine` — the contract as a `Machine` over its transactions

## Design notes

Two things the contract calls live outside it and are parameters here: the
hash function, and `verifyProof`, the answer of the verifier contract at an
address, which is `none` when that call reverts.  The checks of `castVote` are
also stated as one predicate, `Admits`, and `castVote_eq_ok_iff` says exactly
which storage and which events a call that passes them leaves; later proofs
about recorded votes go through it.
-/

namespace TheVoteApp

open Solidity Foundations

/-- One poll.  `deadline = 0` marks a poll that was never created. -/
structure Poll where
  countryCode : Bytes2
  policyHash : Bytes32
  deadline : ℕ
  finalised : Bool
  totalVotes : ℕ
  optionTally : Bytes32 → ℕ

/-- A poll's storage before anything is written to it. -/
def Poll.empty : Poll where
  countryCode := 0
  policyHash := 0
  deadline := 0
  finalised := false
  totalVotes := 0
  optionTally := fun _ => 0

/-- A proof as it is passed to the verifier. -/
structure ZKProofData where
  piA : ℕ × ℕ
  piB : (ℕ × ℕ) × (ℕ × ℕ)
  piC : ℕ × ℕ
  publicSignals : List ℕ
deriving DecidableEq

/-- The storage of the contract. -/
structure VoteLedger where
  owner : Address
  paused : Bool
  voterRegistry : Address
  zkVerifier : Address
  polls : Bytes32 → Poll
  nullifiers : Bytes32 → Bool
  nullifierList : List Bytes32

namespace VoteLedger

/-- The events of the contract, those of the inherited pause switch and of the
inherited ownership included. -/
inductive Event where
  | pollCreated (pollId : Bytes32) (countryCode : Bytes2) (deadline : ℕ)
  | voteCast (pollId nullifier optionHash : Bytes32)
  | pollFinalised (pollId : Bytes32) (totalVotes : ℕ)
  | paused (account : Address)
  | unpaused (account : Address)
  | ownershipTransferred (previousOwner newOwner : Address)
deriving DecidableEq

/-- What a call reverts with. -/
inductive Error where
  | pollNotFound
  | pollClosed
  | pollAlreadyFinalised
  | nullifierSpent
  | invalidZKProof
  | deadlineInPast
  | ownableUnauthorizedAccount (account : Address)
  | ownableInvalidOwner (owner : Address)
  | enforcedPause
  | expectedPause
  | verifierReverted
  | arithmeticPanic
deriving DecidableEq

/-- The storage the initialiser leaves. -/
def initialized (initialOwner voterRegistryAddress zkVerifierAddress : Address) : VoteLedger where
  owner := initialOwner
  paused := false
  voterRegistry := voterRegistryAddress
  zkVerifier := zkVerifierAddress
  polls := fun _ => Poll.empty
  nullifiers := fun _ => false
  nullifierList := []

/-- `keccak256(abi.encodePacked(policyId, countryCode))`. -/
def pollIdOf (keccak256 : Bytes → Bytes32) (policyId : Bytes) (countryCode : Bytes2) : Bytes32 :=
  keccak256 (policyId ++ bytes2Bytes countryCode)

section Functions

variable (keccak256 : Bytes → Bytes32) (verifyProof : Address → ZKProofData → Option Bool)

/-- `createPoll` returns the identifier it stores the poll under. -/
def createPoll (s : VoteLedger) (env : Env) (policyId : Bytes) (countryCode : Bytes2)
    (deadline : ℕ) : Except Error (Bytes32 × VoteLedger × List Event) :=
  if env.sender ≠ s.owner then .error (.ownableUnauthorizedAccount env.sender)
  else if deadline ≤ env.timestamp then .error .deadlineInPast
  else
    let pollId := pollIdOf keccak256 policyId countryCode
    let poll := { s.polls pollId with
      countryCode := countryCode
      policyHash := keccak256 policyId
      deadline := deadline }
    .ok (pollId, { s with polls := Function.update s.polls pollId poll },
      [.pollCreated pollId countryCode deadline])

/-- `castVote`.  The checks run in the order of the source. -/
def castVote (s : VoteLedger) (env : Env) (pollId optionHash nullifier : Bytes32)
    (proof : ZKProofData) : Except Error (VoteLedger × List Event) :=
  let poll := s.polls pollId
  if s.paused then .error .enforcedPause
  else if poll.deadline = 0 then .error .pollNotFound
  else if poll.deadline < env.timestamp then .error .pollClosed
  else if poll.finalised then .error .pollAlreadyFinalised
  else if s.nullifiers nullifier then .error .nullifierSpent
  else match verifyProof s.zkVerifier proof with
    | none => .error .verifierReverted
    | some false => .error .invalidZKProof
    | some true =>
      match checkedIncrement (poll.optionTally optionHash), checkedIncrement poll.totalVotes with
      | some tally, some total =>
        let poll := { poll with
          optionTally := Function.update poll.optionTally optionHash tally
          totalVotes := total }
        .ok ({ s with
            nullifiers := Function.update s.nullifiers nullifier true
            nullifierList := s.nullifierList ++ [nullifier]
            polls := Function.update s.polls pollId poll },
          [.voteCast pollId nullifier optionHash])
      | _, _ => .error .arithmeticPanic

/-- `finalisePoll`, for the owner only. -/
def finalisePoll (s : VoteLedger) (env : Env) (pollId : Bytes32) :
    Except Error (VoteLedger × List Event) :=
  let poll := s.polls pollId
  if env.sender ≠ s.owner then .error (.ownableUnauthorizedAccount env.sender)
  else if poll.deadline = 0 then .error .pollNotFound
  else if poll.finalised then .error .pollAlreadyFinalised
  else
    .ok ({ s with polls := Function.update s.polls pollId { poll with finalised := true } },
      [.pollFinalised pollId poll.totalVotes])

/-- `pause`, for the owner only. -/
def pause (s : VoteLedger) (env : Env) : Except Error (VoteLedger × List Event) :=
  if env.sender ≠ s.owner then .error (.ownableUnauthorizedAccount env.sender)
  else if s.paused then .error .enforcedPause
  else .ok ({ s with paused := true }, [.paused env.sender])

/-- `unpause`, for the owner only. -/
def unpause (s : VoteLedger) (env : Env) : Except Error (VoteLedger × List Event) :=
  if env.sender ≠ s.owner then .error (.ownableUnauthorizedAccount env.sender)
  else if !s.paused then .error .expectedPause
  else .ok ({ s with paused := false }, [.unpaused env.sender])

/-- The inherited `transferOwnership`. -/
def transferOwnership (s : VoteLedger) (env : Env) (newOwner : Address) :
    Except Error (VoteLedger × List Event) :=
  if env.sender ≠ s.owner then .error (.ownableUnauthorizedAccount env.sender)
  else if newOwner = 0 then .error (.ownableInvalidOwner 0)
  else .ok ({ s with owner := newOwner }, [.ownershipTransferred s.owner newOwner])

/-- The inherited `renounceOwnership`. -/
def renounceOwnership (s : VoteLedger) (env : Env) : Except Error (VoteLedger × List Event) :=
  if env.sender ≠ s.owner then .error (.ownableUnauthorizedAccount env.sender)
  else .ok ({ s with owner := 0 }, [.ownershipTransferred s.owner 0])

end Functions

/-! ## Views -/

/-- `getTally`. -/
def getTally (s : VoteLedger) (pollId optionHash : Bytes32) : ℕ :=
  (s.polls pollId).optionTally optionHash

/-- What `getPollMeta` returns. -/
structure PollMeta where
  countryCode : Bytes2
  deadline : ℕ
  finalised : Bool
  totalVotes : ℕ
deriving DecidableEq

/-- `getPollMeta`. -/
def getPollMeta (s : VoteLedger) (pollId : Bytes32) : PollMeta where
  countryCode := (s.polls pollId).countryCode
  deadline := (s.polls pollId).deadline
  finalised := (s.polls pollId).finalised
  totalVotes := (s.polls pollId).totalVotes

/-- `isNullifierSpent`. -/
def isNullifierSpent (s : VoteLedger) (nullifier : Bytes32) : Bool :=
  s.nullifiers nullifier

/-! ## The contract as a machine -/

/-- The arguments of `castVote`. -/
structure VoteArgs where
  pollId : Bytes32
  optionHash : Bytes32
  nullifier : Bytes32
  proof : ZKProofData
deriving DecidableEq

/-- A call of one of the external functions. -/
inductive Call where
  | createPoll (policyId : Bytes) (countryCode : Bytes2) (deadline : ℕ)
  | castVote (args : VoteArgs)
  | finalisePoll (pollId : Bytes32)
  | pause
  | unpause
  | transferOwnership (newOwner : Address)
  | renounceOwnership

/-- A call with the environment it executes in. -/
structure Tx where
  env : Env
  call : Call

/-- The contract, as the machine its transactions drive. -/
def machine (keccak256 : Bytes → Bytes32) (verifyProof : Address → ZKProofData → Option Bool) :
    Machine VoteLedger Tx Event Error where
  call s tx :=
    match tx.call with
    | .createPoll policyId countryCode deadline =>
        (createPoll keccak256 s tx.env policyId countryCode deadline).map Prod.snd
    | .castVote args =>
        castVote verifyProof s tx.env args.pollId args.optionHash args.nullifier args.proof
    | .finalisePoll pollId => finalisePoll s tx.env pollId
    | .pause => pause s tx.env
    | .unpause => unpause s tx.env
    | .transferOwnership newOwner => transferOwnership s tx.env newOwner
    | .renounceOwnership => renounceOwnership s tx.env

/-! ## What each function does -/

section Specifications

variable {keccak256 : Bytes → Bytes32} {verifyProof : Address → ZKProofData → Option Bool}
variable {s s' : VoteLedger} {env : Env} {new : List Event}

/-- The storage a recorded vote leaves. -/
def recordVote (s : VoteLedger) (pollId optionHash nullifier : Bytes32) : VoteLedger :=
  { s with
    nullifiers := Function.update s.nullifiers nullifier true
    nullifierList := s.nullifierList ++ [nullifier]
    polls := Function.update s.polls pollId { s.polls pollId with
      optionTally := Function.update (s.polls pollId).optionTally optionHash
        (s.getTally pollId optionHash + 1)
      totalVotes := (s.polls pollId).totalVotes + 1 } }

/-- The storage `createPoll` leaves. -/
def writePoll (s : VoteLedger) (pollId : Bytes32) (countryCode : Bytes2) (policyHash : Bytes32)
    (deadline : ℕ) : VoteLedger :=
  { s with polls := Function.update s.polls pollId { s.polls pollId with
      countryCode := countryCode
      policyHash := policyHash
      deadline := deadline } }

/-- The storage `finalisePoll` leaves. -/
def markFinalised (s : VoteLedger) (pollId : Bytes32) : VoteLedger :=
  { s with polls := Function.update s.polls pollId { s.polls pollId with finalised := true } }

/-- Every check `castVote` makes before it records the vote: the contract runs,
the poll exists, is open and not finalised, the nullifier is unspent and the
verifier accepts the proof. -/
structure Admits (verifyProof : Address → ZKProofData → Option Bool) (s : VoteLedger) (env : Env)
    (pollId nullifier : Bytes32) (proof : ZKProofData) : Prop where
  running : s.paused = false
  created : (s.polls pollId).deadline ≠ 0
  beforeDeadline : env.timestamp ≤ (s.polls pollId).deadline
  notFinalised : (s.polls pollId).finalised = false
  unspent : s.nullifiers nullifier = false
  verified : verifyProof s.zkVerifier proof = some true

/-- Recording a vote for `optionHash` overflows no counter of the poll. -/
structure RoomFor (s : VoteLedger) (pollId optionHash : Bytes32) : Prop where
  tally : s.getTally pollId optionHash + 1 < 2 ^ 256
  total : (s.polls pollId).totalVotes + 1 < 2 ^ 256

/-- **`castVote`.**  The call succeeds exactly when its checks pass and the
counters have room; it then records the vote and emits it. -/
theorem castVote_eq_ok_iff {pollId optionHash nullifier : Bytes32} {proof : ZKProofData} :
    castVote verifyProof s env pollId optionHash nullifier proof = .ok (s', new) ↔
      Admits verifyProof s env pollId nullifier proof ∧ RoomFor s pollId optionHash ∧
        s' = recordVote s pollId optionHash nullifier ∧
        new = [.voteCast pollId nullifier optionHash] := by
  constructor
  · intro success
    unfold castVote at success
    dsimp only at success
    -- the checks in the order of the contract
    split at success; · cases success
    split at success; · cases success
    split at success; · cases success
    split at success; · cases success
    split at success; · cases success
    rename_i running created beforeDeadline notFinalised unspent
    split at success
    · cases success
    · cases success
    · rename_i verified
      split at success
      · rename_i tally total tallyStep totalStep
        obtain ⟨tallyRoom, rfl⟩ := checkedIncrement_eq_some_iff.mp tallyStep
        obtain ⟨totalRoom, rfl⟩ := checkedIncrement_eq_some_iff.mp totalStep
        obtain ⟨rfl, rfl⟩ := Prod.mk.inj (Except.ok.inj success)
        exact ⟨⟨by simpa using running, created, by omega, by simpa using notFinalised,
          by simpa using unspent, verified⟩, ⟨tallyRoom, totalRoom⟩, rfl, rfl⟩
      · cases success
  · rintro ⟨checks, room, rfl, rfl⟩
    have inTime : ¬ (s.polls pollId).deadline < env.timestamp := by
      have := checks.beforeDeadline
      omega
    have tallyStep : checkedIncrement ((s.polls pollId).optionTally optionHash) =
        some ((s.polls pollId).optionTally optionHash + 1) :=
      checkedIncrement_eq_some_iff.mpr ⟨room.tally, rfl⟩
    have totalStep : checkedIncrement (s.polls pollId).totalVotes =
        some ((s.polls pollId).totalVotes + 1) :=
      checkedIncrement_eq_some_iff.mpr ⟨room.total, rfl⟩
    simp [castVote, checks.running, checks.created, inTime, checks.notFinalised, checks.unspent,
      checks.verified, tallyStep, totalStep, recordVote, getTally]

/-- **`createPoll`.**  Only the owner creates polls, with a deadline ahead. -/
theorem createPoll_eq_ok_iff {policyId : Bytes} {countryCode : Bytes2} {deadline : ℕ}
    {pollId : Bytes32} :
    createPoll keccak256 s env policyId countryCode deadline = .ok (pollId, s', new) ↔
      env.sender = s.owner ∧ env.timestamp < deadline ∧
        pollId = pollIdOf keccak256 policyId countryCode ∧
        s' = writePoll s pollId countryCode (keccak256 policyId) deadline ∧
        new = [.pollCreated pollId countryCode deadline] := by
  unfold createPoll
  split
  · simp_all
  · split
    · rename_i sender late
      simp [Nat.not_lt.mpr late]
    · rename_i sender early
      simp only [ne_eq, not_not] at sender
      constructor
      · intro success
        obtain ⟨rfl, rfl, rfl⟩ := by simpa [Prod.ext_iff] using success
        exact ⟨sender, by omega, rfl, rfl, rfl⟩
      · rintro ⟨-, -, rfl, rfl, rfl⟩
        rfl

/-- **`finalisePoll`.** -/
theorem finalisePoll_eq_ok_iff {pollId : Bytes32} :
    finalisePoll s env pollId = .ok (s', new) ↔
      env.sender = s.owner ∧ (s.polls pollId).deadline ≠ 0 ∧
        (s.polls pollId).finalised = false ∧ s' = markFinalised s pollId ∧
        new = [.pollFinalised pollId (s.polls pollId).totalVotes] := by
  by_cases sender : env.sender = s.owner
  · by_cases created : (s.polls pollId).deadline = 0
    · simp [finalisePoll, sender, created]
    · cases finalised : (s.polls pollId).finalised with
      | true => simp [finalisePoll, sender, created, finalised]
      | false => simp [finalisePoll, markFinalised, sender, created, finalised, eq_comm]
  · simp [finalisePoll, sender]

theorem pause_eq_ok_iff :
    pause s env = .ok (s', new) ↔ env.sender = s.owner ∧ s.paused = false ∧
      s' = { s with paused := true } ∧ new = [.paused env.sender] := by
  by_cases sender : env.sender = s.owner
  · cases paused : s.paused <;> simp [pause, sender, paused, eq_comm]
  · simp [pause, sender]

theorem unpause_eq_ok_iff :
    unpause s env = .ok (s', new) ↔ env.sender = s.owner ∧ s.paused = true ∧
      s' = { s with paused := false } ∧ new = [.unpaused env.sender] := by
  by_cases sender : env.sender = s.owner
  · cases paused : s.paused <;> simp [unpause, sender, paused, eq_comm]
  · simp [unpause, sender]

theorem transferOwnership_eq_ok_iff {newOwner : Address} :
    transferOwnership s env newOwner = .ok (s', new) ↔ env.sender = s.owner ∧ newOwner ≠ 0 ∧
      s' = { s with owner := newOwner } ∧ new = [.ownershipTransferred s.owner newOwner] := by
  by_cases sender : env.sender = s.owner
  · by_cases zero : newOwner = 0
    · simp [transferOwnership, sender, zero]
    · simp only [transferOwnership, sender, zero, ne_eq, not_true_eq_false, not_false_eq_true,
        if_false, true_and, Except.ok.injEq, Prod.mk.injEq]
      exact and_congr eq_comm eq_comm
  · simp [transferOwnership, sender]

theorem renounceOwnership_eq_ok_iff :
    renounceOwnership s env = .ok (s', new) ↔ env.sender = s.owner ∧
      s' = { s with owner := 0 } ∧ new = [.ownershipTransferred s.owner 0] := by
  by_cases sender : env.sender = s.owner
  · simp [renounceOwnership, sender, eq_comm]
  · simp [renounceOwnership, sender]

end Specifications

/-! ## The step relation -/

/-- **What one successful transaction does.**  One constructor per external
function, with its guards; `call_eq_ok_iff` says that this is the machine. -/
inductive Step (keccak256 : Bytes → Bytes32) (verifyProof : Address → ZKProofData → Option Bool) :
    VoteLedger → Tx → VoteLedger → List Event → Prop where
  | createPoll {s : VoteLedger} {env : Env} {policyId : Bytes} {countryCode : Bytes2}
      {deadline : ℕ} (sender : env.sender = s.owner) (ahead : env.timestamp < deadline) :
      Step keccak256 verifyProof s ⟨env, .createPoll policyId countryCode deadline⟩
        (writePoll s (pollIdOf keccak256 policyId countryCode) countryCode (keccak256 policyId)
          deadline)
        [.pollCreated (pollIdOf keccak256 policyId countryCode) countryCode deadline]
  | castVote {s : VoteLedger} {env : Env} {args : VoteArgs}
      (checks : Admits verifyProof s env args.pollId args.nullifier args.proof)
      (room : RoomFor s args.pollId args.optionHash) :
      Step keccak256 verifyProof s ⟨env, .castVote args⟩
        (recordVote s args.pollId args.optionHash args.nullifier)
        [.voteCast args.pollId args.nullifier args.optionHash]
  | finalisePoll {s : VoteLedger} {env : Env} {pollId : Bytes32} (sender : env.sender = s.owner)
      (created : (s.polls pollId).deadline ≠ 0) (running : (s.polls pollId).finalised = false) :
      Step keccak256 verifyProof s ⟨env, .finalisePoll pollId⟩ (markFinalised s pollId)
        [.pollFinalised pollId (s.polls pollId).totalVotes]
  | pause {s : VoteLedger} {env : Env} (sender : env.sender = s.owner)
      (running : s.paused = false) :
      Step keccak256 verifyProof s ⟨env, .pause⟩ { s with paused := true } [.paused env.sender]
  | unpause {s : VoteLedger} {env : Env} (sender : env.sender = s.owner)
      (stopped : s.paused = true) :
      Step keccak256 verifyProof s ⟨env, .unpause⟩ { s with paused := false }
        [.unpaused env.sender]
  | transferOwnership {s : VoteLedger} {env : Env} {newOwner : Address}
      (sender : env.sender = s.owner) (nonzero : newOwner ≠ 0) :
      Step keccak256 verifyProof s ⟨env, .transferOwnership newOwner⟩
        { s with owner := newOwner } [.ownershipTransferred s.owner newOwner]
  | renounceOwnership {s : VoteLedger} {env : Env} (sender : env.sender = s.owner) :
      Step keccak256 verifyProof s ⟨env, .renounceOwnership⟩ { s with owner := 0 }
        [.ownershipTransferred s.owner 0]

/-- The machine and the step relation are the same. -/
theorem call_eq_ok_iff {keccak256 : Bytes → Bytes32}
    {verifyProof : Address → ZKProofData → Option Bool} {s s' : VoteLedger} {tx : Tx}
    {new : List Event} :
    (machine keccak256 verifyProof).call s tx = .ok (s', new) ↔
      Step keccak256 verifyProof s tx s' new := by
  obtain ⟨env, call⟩ := tx
  constructor
  · intro success
    cases call with
    | createPoll policyId countryCode deadline =>
        -- `createPoll` alone returns something, which the machine drops
        cases outcome : createPoll keccak256 s env policyId countryCode deadline with
        | error e => simp [machine, outcome, Except.map] at success
        | ok r =>
            obtain ⟨pollId, stored, emitted⟩ := r
            obtain ⟨sender, ahead, rfl, rfl, rfl⟩ := createPoll_eq_ok_iff.mp outcome
            obtain ⟨rfl, rfl⟩ := by simpa [machine, outcome, Except.map] using success
            exact .createPoll sender ahead
    | castVote args =>
        obtain ⟨checks, room, rfl, rfl⟩ := castVote_eq_ok_iff.mp success
        exact .castVote checks room
    | finalisePoll pollId =>
        obtain ⟨sender, created, running, rfl, rfl⟩ := finalisePoll_eq_ok_iff.mp success
        exact .finalisePoll sender created running
    | pause =>
        obtain ⟨sender, running, rfl, rfl⟩ := pause_eq_ok_iff.mp success
        exact .pause sender running
    | unpause =>
        obtain ⟨sender, stopped, rfl, rfl⟩ := unpause_eq_ok_iff.mp success
        exact .unpause sender stopped
    | transferOwnership newOwner =>
        obtain ⟨sender, nonzero, rfl, rfl⟩ := transferOwnership_eq_ok_iff.mp success
        exact .transferOwnership sender nonzero
    | renounceOwnership =>
        obtain ⟨sender, rfl, rfl⟩ := renounceOwnership_eq_ok_iff.mp success
        exact .renounceOwnership sender
  · intro step
    cases step with
    | @createPoll _ policyId countryCode deadline sender ahead =>
        have outcome : createPoll keccak256 s env policyId countryCode deadline = .ok (_, _, _) :=
          createPoll_eq_ok_iff.mpr ⟨sender, ahead, rfl, rfl, rfl⟩
        simp only [machine, outcome, Except.map]
    | castVote checks room => exact castVote_eq_ok_iff.mpr ⟨checks, room, rfl, rfl⟩
    | finalisePoll sender created running =>
        exact finalisePoll_eq_ok_iff.mpr ⟨sender, created, running, rfl, rfl⟩
    | pause sender running => exact pause_eq_ok_iff.mpr ⟨sender, running, rfl, rfl⟩
    | unpause sender stopped => exact unpause_eq_ok_iff.mpr ⟨sender, stopped, rfl, rfl⟩
    | transferOwnership sender nonzero =>
        exact transferOwnership_eq_ok_iff.mpr ⟨sender, nonzero, rfl, rfl⟩
    | renounceOwnership sender => exact renounceOwnership_eq_ok_iff.mpr ⟨sender, rfl, rfl⟩

/-! ## What each storage update leaves alone -/

section Updates

variable (s : VoteLedger) (p pollId : Bytes32)

/-- A field that a poll's new value keeps is unchanged in every poll. -/
theorem field_update {α : Type} (field : Poll → α) {polls : Bytes32 → Poll} {poll : Poll}
    (kept : field poll = field (polls pollId)) :
    field (Function.update polls pollId poll p) = field (polls p) := by
  by_cases samePoll : p = pollId
  · subst samePoll
    rw [Function.update_self, kept]
  · rw [Function.update_of_ne samePoll]

@[simp] theorem getTally_recordVote (o optionHash nullifier : Bytes32) :
    (recordVote s pollId optionHash nullifier).getTally p o =
      s.getTally p o + if p = pollId ∧ o = optionHash then 1 else 0 := by
  by_cases samePoll : p = pollId
  · subst samePoll
    by_cases sameOption : o = optionHash
    · subst sameOption
      simp [recordVote, getTally]
    · simp [recordVote, getTally, sameOption]
  · simp [recordVote, getTally, samePoll]

@[simp] theorem totalVotes_recordVote (optionHash nullifier : Bytes32) :
    ((recordVote s pollId optionHash nullifier).polls p).totalVotes =
      (s.polls p).totalVotes + if p = pollId then 1 else 0 := by
  by_cases samePoll : p = pollId
  · subst samePoll
    simp [recordVote]
  · simp [recordVote, samePoll]

@[simp] theorem deadline_recordVote (optionHash nullifier : Bytes32) :
    ((recordVote s pollId optionHash nullifier).polls p).deadline = (s.polls p).deadline :=
  field_update p pollId Poll.deadline rfl

@[simp] theorem countryCode_recordVote (optionHash nullifier : Bytes32) :
    ((recordVote s pollId optionHash nullifier).polls p).countryCode =
      (s.polls p).countryCode :=
  field_update p pollId Poll.countryCode rfl

@[simp] theorem finalised_recordVote (optionHash nullifier : Bytes32) :
    ((recordVote s pollId optionHash nullifier).polls p).finalised = (s.polls p).finalised :=
  field_update p pollId Poll.finalised rfl

variable (countryCode : Bytes2) (policyHash : Bytes32) (deadline : ℕ)

@[simp] theorem getTally_writePoll (o : Bytes32) :
    (writePoll s pollId countryCode policyHash deadline).getTally p o = s.getTally p o :=
  field_update p pollId (fun poll => poll.optionTally o) rfl

@[simp] theorem totalVotes_writePoll :
    ((writePoll s pollId countryCode policyHash deadline).polls p).totalVotes =
      (s.polls p).totalVotes :=
  field_update p pollId Poll.totalVotes rfl

@[simp] theorem finalised_writePoll :
    ((writePoll s pollId countryCode policyHash deadline).polls p).finalised =
      (s.polls p).finalised :=
  field_update p pollId Poll.finalised rfl

@[simp] theorem deadline_writePoll :
    ((writePoll s pollId countryCode policyHash deadline).polls p).deadline =
      if p = pollId then deadline else (s.polls p).deadline := by
  by_cases samePoll : p = pollId
  · subst samePoll
    simp [writePoll]
  · simp [writePoll, samePoll]

@[simp] theorem countryCode_writePoll :
    ((writePoll s pollId countryCode policyHash deadline).polls p).countryCode =
      if p = pollId then countryCode else (s.polls p).countryCode := by
  by_cases samePoll : p = pollId
  · subst samePoll
    simp [writePoll]
  · simp [writePoll, samePoll]

@[simp] theorem getTally_markFinalised (o : Bytes32) :
    (markFinalised s pollId).getTally p o = s.getTally p o :=
  field_update p pollId (fun poll => poll.optionTally o) rfl

@[simp] theorem totalVotes_markFinalised :
    ((markFinalised s pollId).polls p).totalVotes = (s.polls p).totalVotes :=
  field_update p pollId Poll.totalVotes rfl

@[simp] theorem deadline_markFinalised :
    ((markFinalised s pollId).polls p).deadline = (s.polls p).deadline :=
  field_update p pollId Poll.deadline rfl

@[simp] theorem countryCode_markFinalised :
    ((markFinalised s pollId).polls p).countryCode = (s.polls p).countryCode :=
  field_update p pollId Poll.countryCode rfl

@[simp] theorem finalised_markFinalised :
    ((markFinalised s pollId).polls p).finalised =
      (decide (p = pollId) || (s.polls p).finalised) := by
  by_cases samePoll : p = pollId
  · subst samePoll
    simp [markFinalised]
  · simp [markFinalised, samePoll]

end Updates

/-! ## The sample poll

The poll of the contract's tests, with one registered voter secret.  Concrete
runs of this development are about it. -/

/-- The poll of the sample policy. -/
def samplePollId : Bytes32 := pollIdOf sampleKeccak256 samplePolicyId gb

/-- A voter secret `7` is registered; nullifiers add the secret to the poll. -/
def sampleNullifierOf (secret pollId : ℕ) : ℕ := secret + pollId

/-- A proof that secret `7` is registered, with the signals of the sample poll. -/
def sampleProof : ZKProofData where
  piA := (0, 0)
  piB := ((0, 0), (0, 0))
  piC := (0, 0)
  publicSignals := [1, sampleNullifierOf 7 samplePollId.toNat, samplePollId.toNat]

/-- The verifier that accepts that one proof. -/
def sampleVerifyProof (_ : Address) (proof : ZKProofData) : Option Bool :=
  some (decide (proof = sampleProof))

/-- The owner's call that opens the sample poll. -/
def sampleOpening : Tx := ⟨⟨1, 100, 1⟩, .createPoll samplePolicyId gb 1000⟩

/-- A vote in the sample poll with the one accepted proof. -/
def sampleVote (optionHash nullifier : Bytes32) : Tx :=
  ⟨⟨2, 200, 2⟩, .castVote ⟨samplePollId, optionHash, nullifier, sampleProof⟩⟩

end VoteLedger

end TheVoteApp
