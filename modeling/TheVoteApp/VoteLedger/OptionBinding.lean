import TheVoteApp.VoteLedger.OneVote

/-!
# The option of a pending vote

Nothing `castVote` checks depends on the option: not the spent set, not the
proof, not its public signals.  So whoever sees a pending vote can have any
other option recorded with the voter's own proof and nullifier, and the voter's
transaction then reverts.  The counters cannot stand in the way either, since an
option never has more votes than its poll.
-/

namespace TheVoteApp.VoteLedger

open Solidity Foundations

variable {keccak256 : Bytes → Bytes32} {verifyProof : Address → ZKProofData → Option Bool}
variable {s : VoteLedger} {env : Env} {pollId nullifier : Bytes32} {proof : ZKProofData}

/-- In a storage that holds a list of ballots, a poll with room for one option
has room for every option. -/
theorem Records.roomFor {cast : List Ballot} (held : Records s cast) {optionHash : Bytes32}
    (room : RoomFor s pollId optionHash) (other : Bytes32) : RoomFor s pollId other := by
  have bounded : s.getTally pollId other ≤ (s.polls pollId).totalVotes := by
    rw [held.tally, held.total]
    exact votesFor_le_votesIn cast pollId other
  have := room.total
  exact ⟨by omega, room.total⟩

/-- After a vote is recorded, another admitted call with its nullifier reverts. -/
theorem castVote_recordVote_nullifierSpent
    (checks : Admits verifyProof s env pollId nullifier proof) (optionHash other : Bytes32) :
    castVote verifyProof (recordVote s pollId other nullifier) env pollId optionHash nullifier
      proof = .error .nullifierSpent := by
  have running : (recordVote s pollId other nullifier).paused = false := checks.running
  have spent : (recordVote s pollId other nullifier).nullifiers nullifier = true := by
    simp [recordVote]
  have inTime : ¬ (s.polls pollId).deadline < env.timestamp := Nat.not_lt.mpr checks.beforeDeadline
  simp [castVote, running, spent, checks.created, checks.notFinalised, inTime]

variable (keccak256 verifyProof)

/-- **Every option is admitted.**  In every reachable state, whenever a call
`castVote(p, o, n, proof)` succeeds, the call with any other option and the same
nullifier and proof succeeds there too; it is recorded, and the original call
then reverts. -/
theorem every_option_admitted (owner registry verifier : Address) (txs : List Tx) (env : Env)
    (pollId optionHash nullifier : Bytes32) (proof : ZKProofData)
    (succeeds : ∃ r, castVote verifyProof
      ((machine keccak256 verifyProof).run (initialized owner registry verifier) txs) env
      pollId optionHash nullifier proof = .ok r) (other : Bytes32) :
    ∃ s', castVote verifyProof
        ((machine keccak256 verifyProof).run (initialized owner registry verifier) txs) env
        pollId other nullifier proof = .ok (s', [.voteCast pollId nullifier other]) ∧
      s'.getTally pollId other =
        ((machine keccak256 verifyProof).run
          (initialized owner registry verifier) txs).getTally pollId other + 1 ∧
      castVote verifyProof s' env pollId optionHash nullifier proof = .error .nullifierSpent := by
  obtain ⟨⟨s', new⟩, success⟩ := succeeds
  obtain ⟨checks, room, -, -⟩ := castVote_eq_ok_iff.mp success
  have held := run_records keccak256 verifyProof owner registry verifier txs
  refine ⟨_, castVote_eq_ok_iff.mpr ⟨checks, held.roomFor room other, rfl, rfl⟩, ?_,
    castVote_recordVote_nullifierSpent checks optionHash other⟩
  simp

theorem every_option_admitted_sample :
    ∃ s', castVote sampleVerifyProof
        ((machine sampleKeccak256 sampleVerifyProof).run (initialized 1 3 4) [sampleOpening])
        ⟨2, 200, 2⟩ samplePollId 6 8 sampleProof =
          .ok (s', [.voteCast samplePollId 8 6]) ∧
      s'.getTally samplePollId 6 =
        ((machine sampleKeccak256 sampleVerifyProof).run
          (initialized 1 3 4) [sampleOpening]).getTally samplePollId 6 + 1 ∧
      castVote sampleVerifyProof s' ⟨2, 200, 2⟩ samplePollId 5 8 sampleProof =
        .error .nullifierSpent :=
  every_option_admitted sampleKeccak256 sampleVerifyProof 1 3 4 [sampleOpening] ⟨2, 200, 2⟩
    samplePollId 5 8 sampleProof
    (show (machine sampleKeccak256 sampleVerifyProof).Succeeds
        ((machine sampleKeccak256 sampleVerifyProof).run (initialized 1 3 4) [sampleOpening])
        (sampleVote 5 8) by decide) 6

/-- **Two options for one pending vote.**  With a sound verifier and an open
poll, one proof and one nullifier are accepted for option `5` and for option
`6` in the same state. -/
theorem two_options_one_proof :
    SoundVerifier (sampleVerifyProof 4) {7} sampleNullifierOf ∧
      (machine sampleKeccak256 sampleVerifyProof).Succeeds
        ((machine sampleKeccak256 sampleVerifyProof).run (initialized 1 3 4) [sampleOpening])
        (sampleVote 5 (samplePollId + 7)) ∧
      (machine sampleKeccak256 sampleVerifyProof).Succeeds
        ((machine sampleKeccak256 sampleVerifyProof).run (initialized 1 3 4) [sampleOpening])
        (sampleVote 6 (samplePollId + 7)) :=
  ⟨sampleVerifyProof_sound 4, by decide, by decide⟩

end TheVoteApp.VoteLedger
