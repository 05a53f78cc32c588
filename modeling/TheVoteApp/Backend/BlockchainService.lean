import TheVoteApp.VoteLedger.Contract

/-!
# The write path: from a signed vote to a poll

`VoteService.submitVote` checks a request and hands it to
`BlockchainService.castVote`, which computes the poll identifier itself and
calls the contract; `BlockchainService.getResults` computes it a third time.
The three computations hash three different byte strings:

* `createPoll`: the packed encoding, the policy's bytes and two more;
* `castVote`: the standard encoding, at least 96 bytes longer than the policy;
* `getResults`: the policy's bytes alone.

Their lengths never agree, so without hash collisions no relayed vote reaches
the poll it is meant for, whatever the policy and the country
(`write_paths_disagree`).
-/

namespace TheVoteApp.BlockchainService

open Solidity VoteLedger

/-- The source returns the same country for every policy. -/
def getCountryCode (_policyId : String) : String := "GB"

/-- The poll identifier `castVote` computes: `keccak256` of the standard
encoding of the policy and the country code. -/
def castVotePollId (keccak256 : Bytes → Bytes32) (policyId : String) : Bytes32 :=
  keccak256 (Abi.encode [.dynamic (toUtf8Bytes policyId),
    .fixedBytes (toUtf8Bytes (getCountryCode policyId))])

/-- The poll identifier `getResults` computes. -/
def getResultsPollId (keccak256 : Bytes → Bytes32) (policyId : String) : Bytes32 :=
  keccak256 (toUtf8Bytes policyId)

/-- The arguments of `castVote`, the proof's decimal strings read as numbers. -/
structure CastVoteParams where
  policyId : String
  optionHash : Bytes32
  nullifier : Bytes32
  proof : ZKProofData

/-- `castVote` sends the transaction from the relay's wallet; a revert is an
exception. -/
def castVote (keccak256 : Bytes → Bytes32) (verifyProof : Address → ZKProofData → Option Bool)
    (s : VoteLedger) (env : Env) (params : CastVoteParams) :
    Except VoteLedger.Error (VoteLedger × List Event) :=
  VoteLedger.castVote verifyProof s env (castVotePollId keccak256 params.policyId)
    params.optionHash params.nullifier params.proof

/-- What `getResults` returns. -/
structure Results where
  policyId : String
  totalVotes : String
  isFinalised : Bool
deriving DecidableEq

/-- `getResults`, from the poll's storage. -/
def getResults (keccak256 : Bytes → Bytes32) (s : VoteLedger) (policyId : String) : Results :=
  let pollMeta := s.getPollMeta (getResultsPollId keccak256 policyId)
  { policyId := policyId
    totalVotes := toString pollMeta.totalVotes
    isFinalised := pollMeta.finalised }

end TheVoteApp.BlockchainService

namespace TheVoteApp.VoteService

open Solidity VoteLedger

/-- A request to `submitVote`.  `voterNullifier` is the 32-byte value its
hexadecimal text `nullifierText` denotes. -/
structure VoteRequest where
  policyId : String
  optionId : String
  nullifierText : String
  voterNullifier : Bytes32
  zkProof : ZKProofData
  signature : Bytes
  timestamp : ℤ

/-- What `submitVote` rejects with. -/
inductive Error where
  | invalidSignature
  | proofVerificationFailed
  | staleTimestamp
  | reverted (error : VoteLedger.Error)

/-- The text a voter signs. -/
def voteMessage (request : VoteRequest) : String :=
  request.policyId ++ ":" ++ request.optionId ++ ":" ++ request.nullifierText ++ ":" ++
    toString request.timestamp

/-- `submitVote`.  `recoverAddress` is the signature library's, `none` when it
throws; whichever address it recovers is accepted.  `zkVerify` is the server's
own check of the proof, and `now` the wall clock, both timestamps in
milliseconds. -/
def submitVote (keccak256 : Bytes → Bytes32) (recoverAddress : Bytes32 → Bytes → Option Address)
    (zkVerify : ZKProofData → Bool) (verifyProof : Address → ZKProofData → Option Bool)
    (s : VoteLedger) (env : Env) (now : ℤ) (request : VoteRequest) :
    Except Error (VoteLedger × List Event) :=
  match recoverAddress (keccak256 (toUtf8Bytes (voteMessage request))) request.signature with
  | none => .error .invalidSignature
  | some _ =>
    if !zkVerify request.zkProof then .error .proofVerificationFailed
    else if now - request.timestamp < 0 ∨ 5 * 60 * 1000 < now - request.timestamp then
      .error .staleTimestamp
    else
      (BlockchainService.castVote keccak256 verifyProof s env
        { policyId := request.policyId
          optionHash := keccak256 (toUtf8Bytes request.optionId)
          nullifier := request.voterNullifier
          proof := request.zkProof }).mapError .reverted

end TheVoteApp.VoteService

namespace TheVoteApp.BlockchainService

open Solidity VoteLedger

section WritePath

variable {keccak256 : Bytes → Bytes32}

/-- The byte strings hashed for one policy, created for one country. -/
def hashedStrings (policyId : String) (countryCode : Bytes2) : Set Bytes :=
  {toUtf8Bytes policyId ++ bytes2Bytes countryCode,
    Abi.encode [.dynamic (toUtf8Bytes policyId),
      .fixedBytes (toUtf8Bytes (getCountryCode policyId))],
    toUtf8Bytes policyId}

/-- The identifier `castVote` computes is not the stored one. -/
theorem castVotePollId_ne (policyId : String) (countryCode : Bytes2)
    (free : CollisionFreeOn keccak256 (hashedStrings policyId countryCode)) :
    castVotePollId keccak256 policyId ≠
      pollIdOf keccak256 (toUtf8Bytes policyId) countryCode := by
  refine free.ne_of_length_ne (by simp [hashedStrings]) (by simp [hashedStrings]) ?_
  have long := Abi.length_encode_string_fixedBytes (toUtf8Bytes policyId)
    (toUtf8Bytes (getCountryCode policyId))
  rw [List.length_append, bytes2Bytes_length]
  omega

/-- The identifier `getResults` computes is not the stored one. -/
theorem getResultsPollId_ne (policyId : String) (countryCode : Bytes2)
    (free : CollisionFreeOn keccak256 (hashedStrings policyId countryCode)) :
    getResultsPollId keccak256 policyId ≠
      pollIdOf keccak256 (toUtf8Bytes policyId) countryCode := by
  refine free.ne_of_length_ne (by simp [hashedStrings]) (by simp [hashedStrings]) ?_
  rw [List.length_append, bytes2Bytes_length]
  omega

variable {verifyProof : Address → ZKProofData → Option Bool} {s s' : VoteLedger} {env : Env}
variable {new : List Event}

/-- A vote in one poll leaves every other poll as it was. -/
theorem polls_of_castVote_ok {pollId optionHash nullifier other : Bytes32} {proof : ZKProofData}
    (recorded : VoteLedger.castVote verifyProof s env pollId optionHash nullifier proof =
      .ok (s', new)) (different : other ≠ pollId) : s'.polls other = s.polls other := by
  obtain ⟨-, -, rfl, -⟩ := castVote_eq_ok_iff.mp recorded
  simp [recordVote, different]

/-- A vote `submitVote` relays is recorded, if at all, under the identifier
`castVote` computes. -/
theorem polls_of_submitVote_ok {recoverAddress : Bytes32 → Bytes → Option Address}
    {zkVerify : ZKProofData → Bool} {now : ℤ} {request : VoteService.VoteRequest}
    {other : Bytes32}
    (relayed : VoteService.submitVote keccak256 recoverAddress zkVerify verifyProof s env now
      request = .ok (s', new))
    (different : other ≠ castVotePollId keccak256 request.policyId) :
    s'.polls other = s.polls other := by
  unfold VoteService.submitVote at relayed
  split at relayed
  · cases relayed
  · split at relayed
    · cases relayed
    split at relayed
    · cases relayed
    · cases outcome : castVote keccak256 verifyProof s env
        { policyId := request.policyId
          optionHash := keccak256 (toUtf8Bytes request.optionId)
          nullifier := request.voterNullifier
          proof := request.zkProof } with
      | error e => rw [outcome] at relayed; cases relayed
      | ok r =>
          rw [outcome] at relayed
          obtain rfl := Except.ok.inj relayed
          exact polls_of_castVote_ok outcome different

variable (keccak256)

/-- **The write paths never agree.**  For every policy and country code, neither
`castVote` nor `getResults` computes the identifier `createPoll` stores the
poll under, and no vote `submitVote` relays for the policy changes that poll. -/
theorem write_paths_disagree (policyId : String) (countryCode : Bytes2)
    (free : CollisionFreeOn keccak256 (hashedStrings policyId countryCode)) :
    castVotePollId keccak256 policyId ≠
        pollIdOf keccak256 (toUtf8Bytes policyId) countryCode ∧
      getResultsPollId keccak256 policyId ≠
        pollIdOf keccak256 (toUtf8Bytes policyId) countryCode ∧
      ∀ recoverAddress zkVerify verifyProof s env now request s' new,
        request.policyId = policyId →
        VoteService.submitVote keccak256 recoverAddress zkVerify verifyProof s env now request =
          .ok (s', new) →
        s'.polls (pollIdOf keccak256 (toUtf8Bytes policyId) countryCode) =
          s.polls (pollIdOf keccak256 (toUtf8Bytes policyId) countryCode) := by
  refine ⟨castVotePollId_ne policyId countryCode free,
    getResultsPollId_ne policyId countryCode free, ?_⟩
  rintro recoverAddress zkVerify verifyProof s env now request s' new rfl relayed
  exact polls_of_submitVote_ok relayed (castVotePollId_ne request.policyId countryCode free).symm

theorem sampleKeccak256_collisionFree :
    CollisionFreeOn sampleKeccak256 (hashedStrings "healthcare-reform-2026" gb) := by
  rintro a (rfl | rfl | rfl) b (rfl | rfl | rfl) collision
  all_goals first | rfl | exact absurd collision (by decide)

theorem write_paths_disagree_sample :
    castVotePollId sampleKeccak256 "healthcare-reform-2026" ≠ samplePollId ∧
      getResultsPollId sampleKeccak256 "healthcare-reform-2026" ≠ samplePollId :=
  have disagree := write_paths_disagree sampleKeccak256 "healthcare-reform-2026" gb
    sampleKeccak256_collisionFree
  ⟨disagree.1, disagree.2.1⟩

/-- **A relayed vote is lost.**  The sample poll is open and holds one vote; a
vote relayed for its policy reverts with `PollNotFound`, and `getResults`
reports no votes. -/
theorem relayed_vote_lost :
    let s := (machine sampleKeccak256 sampleVerifyProof).run (initialized 1 3 4)
      [sampleOpening, sampleVote 5 8]
    (s.getPollMeta samplePollId).totalVotes = 1 ∧
      castVote sampleKeccak256 sampleVerifyProof s ⟨2, 300, 3⟩
          ⟨"healthcare-reform-2026", 5, 9, sampleProof⟩ = .error .pollNotFound ∧
      getResults sampleKeccak256 s "healthcare-reform-2026" =
        ⟨"healthcare-reform-2026", "0", false⟩ := by
  refine ⟨by decide, ?_, by decide⟩
  rfl

end WritePath

end TheVoteApp.BlockchainService
