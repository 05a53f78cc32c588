import TheVoteApp.VoteLedger.Bookkeeping

/-!
# One voter, one vote

A sound verifier accepts a proof only for public signals `[root, n, pollId, …]`
in which `n` is the nullifier, for that poll, of a registered voter secret.
That bounds the votes of a poll by the registered secrets *if* the signals are
those of the call: `castVote` takes the nullifier and the poll as separate
arguments and never compares them with the signals.

`TiesArguments` is the missing check, as a condition on the calls of a run.
Under it every poll records at most one vote per secret; without it one proof
is recorded any number of times, under nullifiers of the caller's choice.
-/

namespace TheVoteApp.VoteLedger

open Solidity Foundations

/-- The public signals of the proof name the nullifier and the poll of the
call. -/
def VoteArgs.Bound (args : VoteArgs) : Prop :=
  args.proof.publicSignals[1]? = some args.nullifier.toNat ∧
    args.proof.publicSignals[2]? = some args.pollId.toNat

/-- A verifier accepts only proofs about registered secrets. -/
def SoundVerifier {Secret : Type} (verify : ZKProofData → Option Bool)
    (registered : Finset Secret) (nullifierOf : Secret → ℕ → ℕ) : Prop :=
  ∀ proof, verify proof = some true →
    ∃ root n pollId rest, proof.publicSignals = root :: n :: pollId :: rest ∧
      ∃ secret ∈ registered, n = nullifierOf secret pollId

/-- The arguments of a `castVote` transaction. -/
def Tx.voteArgs? (tx : Tx) : Option VoteArgs :=
  match tx.call with
  | .castVote args => some args
  | _ => none

theorem Tx.voteArgs?_eq_some_iff {tx : Tx} {args : VoteArgs} :
    tx.voteArgs? = some args ↔ tx = ⟨tx.env, .castVote args⟩ := by
  obtain ⟨env, call⟩ := tx
  cases call with
  | castVote args' => simp [Tx.voteArgs?]
  | _ => simp [Tx.voteArgs?]

/-- A `castVote` call that passes every check the contract makes carries the
public signals of its own arguments. -/
def TiesArguments (verifyProof : Address → ZKProofData → Option Bool) (s : VoteLedger)
    (tx : Tx) : Prop :=
  ∀ args, tx.voteArgs? = some args →
    Admits verifyProof s tx.env args.pollId args.nullifier args.proof →
      RoomFor s args.pollId args.optionHash → args.Bound

section Runs

variable (keccak256 : Bytes → Bytes32) (verifyProof : Address → ZKProofData → Option Bool)
variable (owner registry verifier : Address)

/-- The votes a run records, with the proofs they were recorded for. -/
def recordedVotes (txs : List Tx) : List VoteArgs :=
  ((machine keccak256 verifyProof).accepted
    (initialized owner registry verifier) txs).filterMap Tx.voteArgs?

variable {keccak256 verifyProof owner registry verifier}

/-- The ballot a recorded vote announces. -/
def VoteArgs.ballot (args : VoteArgs) : Ballot := ⟨args.pollId, args.nullifier, args.optionHash⟩

/-- Each transaction records a vote exactly when it announces one. -/
theorem ballots_of_step {s s' : VoteLedger} {tx : Tx} {new : List Event}
    (done : Step keccak256 verifyProof s tx s' new) :
    ballots new = (tx.voteArgs?.toList).map VoteArgs.ballot := by
  cases done <;> rfl

variable (keccak256 verifyProof owner registry verifier)

/-- The event log announces the recorded votes. -/
theorem ballots_events (txs : List Tx) :
    ballots ((machine keccak256 verifyProof).events (initialized owner registry verifier) txs) =
      (recordedVotes keccak256 verifyProof owner registry verifier txs).map VoteArgs.ballot := by
  refine Machine.run_induction
    (I := fun _ log done => ballots log = (done.filterMap Tx.voteArgs?).map VoteArgs.ballot)
    rfl ?_ txs
  intro s log done tx s' new agree outcome
  rw [ballots_append, agree, ballots_of_step (call_eq_ok_iff.mp outcome)]
  cases named : tx.voteArgs? <;> simp [List.filterMap_append, named]

variable {keccak256 verifyProof owner registry verifier}

/-- A sound verifier's acceptance gives a bound vote the nullifier of a
registered secret. -/
theorem named_of_bound {Secret : Type} {registered : Finset Secret}
    {nullifierOf : Secret → ℕ → ℕ}
    (sound : SoundVerifier (verifyProof verifier) registered nullifierOf) {args : VoteArgs}
    (bound : args.Bound) (verified : verifyProof verifier args.proof = some true) :
    ∃ secret ∈ registered, args.nullifier.toNat = nullifierOf secret args.pollId.toNat := by
  obtain ⟨root, n, pollId, rest, signals, secret, mem, rfl⟩ := sound args.proof verified
  obtain ⟨second, third⟩ := bound
  simp only [signals, List.getElem?_cons_succ, List.getElem?_cons_zero, Option.some.injEq]
    at second third
  exact ⟨secret, mem, by rw [← second, third]⟩

/-- The verifier is configured once and for all. -/
theorem zkVerifier_of_step {s s' : VoteLedger} {tx : Tx} {new : List Event}
    (done : Step keccak256 verifyProof s tx s' new) : s'.zkVerifier = s.zkVerifier := by
  cases done <;> rfl

/-- Along a run whose calls carry their own signals, every recorded vote is
bound and accepted by the configured verifier. -/
theorem recordedVotes_bound_and_verified (txs : List Tx)
    (tied : (machine keccak256 verifyProof).Along (TiesArguments verifyProof)
      (initialized owner registry verifier) txs) :
    ∀ args ∈ recordedVotes keccak256 verifyProof owner registry verifier txs,
      args.Bound ∧ verifyProof verifier args.proof = some true := by
  refine (Machine.run_induction_along
    (I := fun s _ done => s.zkVerifier = verifier ∧ ∀ args ∈ done.filterMap Tx.voteArgs?,
      args.Bound ∧ verifyProof verifier args.proof = some true)
    ⟨rfl, by simp⟩ ?_ txs tied).2
  rintro s log done tx s' new ⟨configured, held⟩ ties outcome
  refine ⟨(zkVerifier_of_step (call_eq_ok_iff.mp outcome)).trans configured, ?_⟩
  intro args mem
  rw [List.filterMap_append, List.mem_append] at mem
  rcases mem with earlier | last
  · exact held args earlier
  · have named : tx.voteArgs? = some args := by simpa using last
    rw [Tx.voteArgs?_eq_some_iff.mp named] at outcome
    obtain ⟨checks, room, -, -⟩ := castVote_eq_ok_iff.mp outcome
    exact ⟨ties args named checks room, configured ▸ checks.verified⟩

/-- Conversely, where every recorded vote is bound no admitted call was
unbound. -/
theorem tiesArguments_of_bound (txs : List Tx)
    (bound : ∀ args ∈ recordedVotes keccak256 verifyProof owner registry verifier txs,
      args.Bound) :
    (machine keccak256 verifyProof).Along (TiesArguments verifyProof)
      (initialized owner registry verifier) txs := by
  induction txs using List.reverseRecOn with
  | nil => trivial
  | append_singleton txs tx ih =>
      have split : recordedVotes keccak256 verifyProof owner registry verifier (txs ++ [tx]) =
          recordedVotes keccak256 verifyProof owner registry verifier txs ++
            (if (machine keccak256 verifyProof).Succeeds
                ((machine keccak256 verifyProof).run (initialized owner registry verifier) txs) tx
              then [tx] else []).filterMap Tx.voteArgs? := by
        simp only [recordedVotes, Machine.accepted_concat, List.filterMap_append]
      rw [split] at bound
      refine (Machine.along_concat _ txs tx).mpr
        ⟨ih fun args mem => bound args (List.mem_append_left _ mem), ?_⟩
      intro args named checks room
      refine bound args (List.mem_append_right _ ?_)
      have success : (machine keccak256 verifyProof).Succeeds
          ((machine keccak256 verifyProof).run (initialized owner registry verifier) txs) tx := by
        rw [Tx.voteArgs?_eq_some_iff.mp named]
        exact ⟨_, castVote_eq_ok_iff.mpr ⟨checks, room, rfl, rfl⟩⟩
      rw [if_pos success]
      simp [named]

/-- Along a run whose calls carry their own signals, no poll records more votes
than there are registered secrets. -/
theorem totalVotes_le_card {Secret : Type} {registered : Finset Secret}
    {nullifierOf : Secret → ℕ → ℕ}
    (sound : SoundVerifier (verifyProof verifier) registered nullifierOf) (txs : List Tx)
    (tied : (machine keccak256 verifyProof).Along (TiesArguments verifyProof)
      (initialized owner registry verifier) txs) (p : Bytes32) :
    (((machine keccak256 verifyProof).run
      (initialized owner registry verifier) txs).polls p).totalVotes ≤ registered.card := by
  have held := run_records keccak256 verifyProof owner registry verifier txs
  have votes := recordedVotes_bound_and_verified txs tied
  have log := ballots_events keccak256 verifyProof owner registry verifier txs
  rw [held.total p, votesIn, List.countP_eq_length_filter]
  refine length_le_card_of_named (fun b => b.nullifier.toNat)
    (fun secret => nullifierOf secret p.toNat) ?_ ?_
  · -- the nullifiers of one poll are among those of the whole log, which repeat none
    have distinct : ((ballots ((machine keccak256 verifyProof).events
        (initialized owner registry verifier) txs)).map Ballot.nullifier).Nodup :=
      held.order ▸ held.nodup
    have inPoll := distinct.sublist
      ((List.filter_sublist (p := fun b => decide (b.pollId = p))).map Ballot.nullifier)
    have values := inPoll.map BitVec.toNat_injective
    rwa [List.map_map] at values
  · intro b mem
    obtain ⟨inLog, samePoll⟩ := List.mem_filter.mp mem
    rw [log] at inLog
    obtain ⟨args, recorded, rfl⟩ := List.mem_map.mp inLog
    obtain ⟨bound, verified⟩ := votes args recorded
    obtain rfl : args.pollId = p := of_decide_eq_true samePoll
    exact named_of_bound sound bound verified

variable (keccak256 owner registry verifier)

/-- **One voter, one vote, exactly when the calls tie their arguments.**  With
a sound verifier, every vote a run records carries the nullifier and the poll
of its own proof if and only if no unbound call passed the contract's checks;
and then no poll records more votes than there are registered secrets. -/
theorem one_vote_iff_tied {Secret : Type} {registered : Finset Secret}
    {nullifierOf : Secret → ℕ → ℕ}
    (sound : SoundVerifier (verifyProof verifier) registered nullifierOf) (txs : List Tx) :
    ((∀ args ∈ recordedVotes keccak256 verifyProof owner registry verifier txs, args.Bound) ↔
      (machine keccak256 verifyProof).Along (TiesArguments verifyProof)
        (initialized owner registry verifier) txs) ∧
    ((machine keccak256 verifyProof).Along (TiesArguments verifyProof)
        (initialized owner registry verifier) txs →
      ∀ p, (((machine keccak256 verifyProof).run
        (initialized owner registry verifier) txs).getPollMeta p).totalVotes ≤
          registered.card) :=
  ⟨⟨tiesArguments_of_bound txs, fun tied args mem =>
      (recordedVotes_bound_and_verified txs tied args mem).1⟩,
    fun tied p => totalVotes_le_card sound txs tied p⟩

end Runs

/-! ## One proof, two votes -/

theorem sampleVerifyProof_sound (verifier : Address) :
    SoundVerifier (sampleVerifyProof verifier) {7} sampleNullifierOf := by
  intro proof accepted
  obtain rfl : proof = sampleProof := by simpa [sampleVerifyProof] using accepted
  exact ⟨1, _, _, [], rfl, 7, by simp, rfl⟩

instance decidableBound (args : VoteArgs) : Decidable args.Bound := by
  unfold VoteArgs.Bound
  infer_instance

theorem one_vote_iff_tied_sample :
    (((machine sampleKeccak256 sampleVerifyProof).run (initialized 1 3 4)
      [sampleOpening, sampleVote 5 (samplePollId + 7)]).getPollMeta samplePollId).totalVotes ≤
        Finset.card {7} := by
  have tied := one_vote_iff_tied sampleKeccak256 1 3 4 (sampleVerifyProof_sound 4)
    [sampleOpening, sampleVote 5 (samplePollId + 7)]
  exact tied.2 (tied.1.mp (by decide)) samplePollId

/-- **One proof is recorded twice.**  The verifier is sound for one registered
secret, yet its single proof is recorded under the nullifiers `8` and `9`, so
the poll counts two votes. -/
theorem one_proof_two_votes :
    SoundVerifier (sampleVerifyProof 4) {7} sampleNullifierOf ∧
      (∃ args ∈ recordedVotes sampleKeccak256 sampleVerifyProof 1 3 4
        [sampleOpening, sampleVote 5 8, sampleVote 5 9], ¬ args.Bound) ∧
      Finset.card {7} < (((machine sampleKeccak256 sampleVerifyProof).run (initialized 1 3 4)
        [sampleOpening, sampleVote 5 8, sampleVote 5 9]).getPollMeta samplePollId).totalVotes :=
  ⟨sampleVerifyProof_sound 4, by decide, by decide⟩

end TheVoteApp.VoteLedger
