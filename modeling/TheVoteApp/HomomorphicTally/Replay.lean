import TheVoteApp.HomomorphicTally.Accumulator

/-!
# Replayed ciphertexts

The proof of a submission covers the public key, the ciphertext and the poll.
The nullifier and the option index are the caller's, so a verifier that accepts
exactly the valid proofs accepts an encrypted vote again under every other
nullifier, for every option.

`counted_once_iff_no_replay` says that nothing else goes wrong: an encrypted
vote is counted twice exactly when somebody replays it.
-/

namespace TheVoteApp.HomomorphicTally

open Solidity Foundations BabyJubjub

/-- The encrypted vote a submission carries: the poll, the ciphertext and the
proof. -/
def SubmitArgs.encryptedVote (a : SubmitArgs) : Bytes32 × BabyJubPoint × BabyJubPoint × Bytes :=
  (a.pollId, a.C1, a.C2, a.proof)

/-- The public signals of a submission to a poll with the public key `pk`. -/
def SubmitArgs.pubSignals (a : SubmitArgs) (pk : BabyJubPoint) : List ℕ :=
  [pk.1, pk.2, a.C1.1, a.C1.2, a.C2.1, a.C2.2, a.pollId.toNat]

/-- A verifier is deployed, and it accepts exactly the valid proofs for the public
signals it is passed. -/
structure ExactVerifier (staticcall : Address → Bytes → List ℕ → Bool × Bytes)
    (valid : List ℕ → Bytes → Prop) (s : HomomorphicTally) : Prop where
  deployed : s.voteProofVerifier ≠ 0
  exact : ∀ pk C1 C2 pollId proof,
    verifyVoteProof staticcall s pk C1 C2 pollId proof = some true ↔
      valid [pk.1, pk.2, C1.1, C1.2, C2.1, C2.2, pollId.toNat] proof

/-- An encrypted vote among `cast` is submitted again before its poll closes, for an
option of the poll and with a nullifier the poll has not seen. -/
structure Replays (s : HomomorphicTally) (cast : List SubmitArgs) (env : Env)
    (args : SubmitArgs) : Prop where
  seen : ∃ a ∈ cast, a.encryptedVote = args.encryptedVote
  beforeClose : env.timestamp < (s.polls args.pollId).closeTime
  inRange : args.optionIndex < (s.polls args.pollId).optionCount
  unused : s.nullifiersUsed args.pollId args.nullifier = false
  room : (s.ciphertexts args.pollId args.optionIndex).count + 1 < 2 ^ 256

/-- The proofs of the votes `cast` are valid under the keys of their polls. -/
def StillValid (valid : List ℕ → Bytes → Prop) (s : HomomorphicTally) (cast : List SubmitArgs) :
    Prop :=
  ∀ a ∈ cast, valid (a.pubSignals (s.polls a.pollId).tallyPublicKey) a.proof

section Runs

variable {staticcall : Address → Bytes → List ℕ → Bool × Bytes} {valid : List ℕ → Bytes → Prop}

/-- **One step.**  The key of a poll never changes, so valid proofs stay valid. -/
theorem StillValid.step {s s' : HomomorphicTally} {cast : List SubmitArgs} {tx : Tx}
    (still : StillValid valid s cast) (held : Accumulates s cast)
    (exact : ExactVerifier staticcall valid s) (done : Step staticcall s tx s') :
    StillValid valid s' (cast ++ submissions [tx]) := by
  intro a mem
  rcases List.mem_append.mp mem with earlier | last
  · rw [done.polls_eq (held.inRange a earlier).1]
    exact still a earlier
  · have named : tx.submission? = some a := by simpa [submissions] using last
    have checks := done.admits named
    rw [done.polls_eq checks.registered]
    exact (exact.exact _ _ _ _ _).mp checks.verified

/-- The proofs of all accepted votes are valid, at any time. -/
theorem run_stillValid (admin verifier : Address) (txs : List Tx)
    (along : (machine staticcall).Along (fun s _ => ExactVerifier staticcall valid s)
      (initialized admin verifier) txs) :
    StillValid valid ((machine staticcall).run (initialized admin verifier) txs)
      (submissions ((machine staticcall).accepted (initialized admin verifier) txs)) := by
  refine (Machine.run_induction_along
    (I := fun s _ done => Accumulates s (submissions done) ∧ StillValid valid s (submissions done))
    ⟨accumulates_initialized admin verifier, ?_⟩ ?_ txs along).2
  · intro a mem
    cases mem
  · rintro s log done tx s' new ⟨held, still⟩ exact outcome
    have step := Step.of_call outcome
    rw [submissions, List.filterMap_append]
    exact ⟨held.step step, still.step held exact step⟩

/-- A replay passes every check. -/
theorem Replays.admits {s : HomomorphicTally} {cast : List SubmitArgs} {env : Env}
    {args : SubmitArgs} (replay : Replays s cast env args) (held : Accumulates s cast)
    (still : StillValid valid s cast) (exact : ExactVerifier staticcall valid s) :
    Admits staticcall s env args := by
  obtain ⟨a, mem, same⟩ := replay.seen
  simp only [SubmitArgs.encryptedVote, Prod.mk.injEq] at same
  obtain ⟨poll, c1, c2, proof⟩ := same
  have registered := (held.inRange a mem).1
  have proved := still a mem
  rw [SubmitArgs.pubSignals, poll, c1, c2, proof] at proved
  rw [poll] at registered
  exact ⟨registered, replay.beforeClose, replay.inRange, replay.unused,
    (exact.exact _ _ _ _ _).mpr proved, replay.room⟩

/-- An accepted vote that is not a replay is a new one. -/
theorem Admits.encryptedVote_notMem {s : HomomorphicTally} {cast : List SubmitArgs} {env : Env}
    {args : SubmitArgs} (checks : Admits staticcall s env args)
    (noReplay : ¬ Replays s cast env args) :
    args.encryptedVote ∉ cast.map SubmitArgs.encryptedVote := by
  intro mem
  obtain ⟨a, earlier, same⟩ := List.mem_map.mp mem
  exact noReplay
    ⟨⟨a, earlier, same⟩, checks.beforeClose, checks.inRange, checks.unused, checks.room⟩

variable (staticcall) (admin verifier : Address)

/-- The accepted votes of a run. -/
def acceptedVotes (txs : List Tx) : List SubmitArgs :=
  submissions ((machine staticcall).accepted (initialized admin verifier) txs)

/-- No transaction of the run replays a vote accepted before it. -/
def NoReplay (txs : List Tx) : Prop :=
  ∀ done env args rest, txs = done ++ ⟨env, .submitEncryptedVote args⟩ :: rest →
    ¬ Replays ((machine staticcall).run (initialized admin verifier) done)
      (acceptedVotes staticcall admin verifier done) env args

variable {staticcall admin verifier}

theorem acceptedVotes_concat (txs : List Tx) (tx : Tx) :
    acceptedVotes staticcall admin verifier (txs ++ [tx]) =
      acceptedVotes staticcall admin verifier txs ++ submissions
        (if (machine staticcall).Succeeds
          ((machine staticcall).run (initialized admin verifier) txs) tx then [tx] else []) := by
  rw [acceptedVotes, Machine.accepted_concat, submissions, List.filterMap_append]
  rfl

/-- A run without replays accepts every encrypted vote once. -/
theorem NoReplay.nodup {txs : List Tx} (noReplay : NoReplay staticcall admin verifier txs) :
    ((acceptedVotes staticcall admin verifier txs).map SubmitArgs.encryptedVote).Nodup := by
  induction txs using List.reverseRecOn with
  | nil => exact List.nodup_nil
  | append_singleton txs tx ih =>
      have earlier : NoReplay staticcall admin verifier txs := by
        rintro done env args rest rfl
        exact noReplay done env args (rest ++ [tx]) (by simp)
      have distinct := ih earlier
      rw [acceptedVotes_concat]
      by_cases success : (machine staticcall).Succeeds
          ((machine staticcall).run (initialized admin verifier) txs) tx
      · rw [if_pos success]
        cases named : tx.submission? with
        | none => simpa [submissions, named] using distinct
        | some args =>
            rw [Tx.submission?_eq_some_iff.mp named] at success noReplay
            have fresh := (succeeds_submit_iff.mp success).encryptedVote_notMem
              (noReplay txs tx.env args [] rfl)
            have last : submissions [tx] = [args] := by simp [submissions, named]
            rw [last, List.map_append, List.nodup_append]
            refine ⟨distinct, List.nodup_singleton _, ?_⟩
            rintro x mem y once rfl
            obtain rfl := List.mem_singleton.mp once
            exact fresh mem
      · rw [if_neg success]
        simpa [submissions] using distinct

variable (staticcall admin verifier)

/-- **What it takes to count a vote twice.**  With an exact verifier the
accumulators of a registered poll are those of its accepted votes, and no
encrypted vote is among these twice exactly when the run replays none. -/
theorem counted_once_iff_no_replay (txs : List Tx)
    (along : (machine staticcall).Along (fun s _ => ExactVerifier staticcall valid s)
      (initialized admin verifier) txs) :
    let s := (machine staticcall).run (initialized admin verifier) txs
    let cast := acceptedVotes staticcall admin verifier txs
    (∀ p i, (s.polls p).pollExists = true → i < (s.polls p).optionCount →
      s.getAccumulated p i = accumulate (votesFor cast p i)) ∧
    ((cast.map SubmitArgs.encryptedVote).Nodup ↔ NoReplay staticcall admin verifier txs) := by
  refine ⟨(run_accumulates staticcall admin verifier txs).accumulated, ?_, NoReplay.nodup⟩
  rintro distinct done env args rest rfl replay
  obtain ⟨before, exact, -⟩ := (Machine.along_append _ done _).mp along
  -- the replay is accepted, next to the vote it repeats
  have admitted := replay.admits (run_accumulates staticcall admin verifier done)
    (run_stillValid admin verifier done before) exact
  obtain ⟨a, mem, same⟩ := replay.seen
  have split : acceptedVotes staticcall admin verifier
      (done ++ ⟨env, .submitEncryptedVote args⟩ :: rest) =
      acceptedVotes staticcall admin verifier done ++ args :: submissions
        ((machine staticcall).accepted ((machine staticcall).next
          ((machine staticcall).run (initialized admin verifier) done)
          ⟨env, .submitEncryptedVote args⟩) rest) := by
    rw [acceptedVotes, Machine.accepted_append, Machine.accepted,
      if_pos (succeeds_submit_iff.mpr admitted), submissions, List.filterMap_append]
    rfl
  rw [split, List.map_append, List.nodup_append] at distinct
  exact distinct.2.2 _ (List.mem_map_of_mem mem) _ List.mem_cons_self same

end Runs

/-! ## A replay -/

/-- A verifier that returns a boolean accepts exactly what it says, wherever it is deployed. -/
theorem exactVerifier_booleanVerifier (accepts : Bytes → List ℕ → Bool) {s : HomomorphicTally}
    (deployed : s.voteProofVerifier ≠ 0) :
    ExactVerifier (booleanVerifier accepts)
      (fun pubSignals proof => accepts proof pubSignals = true) s :=
  ⟨deployed, fun pk C1 C2 pollId proof => by
    rw [verifyVoteProof_booleanVerifier deployed, Option.some.injEq]⟩

/-- Two distinct votes are no replay. -/
theorem counted_once_iff_no_replay_sample :
    NoReplay (booleanVerifier twoAccepts) 1 2 sampleVotes :=
  (counted_once_iff_no_replay (booleanVerifier twoAccepts) 1 2 sampleVotes
    ⟨exactVerifier_booleanVerifier twoAccepts (by decide),
      exactVerifier_booleanVerifier twoAccepts (by decide),
      exactVerifier_booleanVerifier twoAccepts (by decide), trivial⟩).2.mp
    (by decide)

/-- **One ciphertext, two options.**  The encryption of `1` with randomness `1` is
accepted under the nullifiers `1` and `2` and counted for both options. -/
theorem one_ciphertext_two_options :
    let txs := [sampleRegistration, sampleSubmission 0 1, sampleSubmission 1 2]
    let s := (machine (booleanVerifier sampleAccepts)).run (initialized 1 2) txs
    (machine (booleanVerifier sampleAccepts)).Along
        (fun s _ => ExactVerifier (booleanVerifier sampleAccepts)
          (fun pubSignals proof => sampleAccepts proof pubSignals = true) s)
        (initialized 1 2) txs ∧
      ciphertextCoords (ElGamal.encrypt base base ⟨1, 1⟩) = (sampleC1, sampleC2) ∧
      s.getAccumulated samplePollId 0 = ⟨sampleC1, sampleC2, 1⟩ ∧
      s.getAccumulated samplePollId 1 = ⟨sampleC1, sampleC2, 1⟩ ∧
      ¬ ((acceptedVotes (booleanVerifier sampleAccepts) 1 2 txs).map
        SubmitArgs.encryptedVote).Nodup := by
  refine ⟨⟨?_, ?_, ?_, trivial⟩, ciphertextCoords_encrypt_sample, by decide,
    by decide, by decide⟩
  · exact exactVerifier_booleanVerifier sampleAccepts (by decide)
  · exact exactVerifier_booleanVerifier sampleAccepts (by decide)
  · exact exactVerifier_booleanVerifier sampleAccepts (by decide)

end TheVoteApp.HomomorphicTally
