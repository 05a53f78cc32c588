import TheVoteApp.Circuits.HomomorphicVote
import TheVoteApp.HomomorphicTally.Service

/-!
# The tally of verified votes

What the circuit, the contract and the service achieve together, whoever votes
and whatever the voters send: if the deployed verifiers accept a proof only for
public signals that satisfy the circuit, the service publishes the number of the
accepted votes whose vote signal is `1`, an *aye* (`verified_tally`).

## Main definitions

* `Certifies` — an assignment of the circuit explains a submission
* `SoundVerifier` — the assumption on the verifier
* `ayes` — the number that is published

## Design notes

A verifier sees the public signals modulo the field, so the assumption says
nothing about unreduced coordinates.  The contract does not check that they are
reduced, and an accumulator may keep an unreduced pair; hence the hypothesis
`Reduced`.
-/

namespace TheVoteApp.HomomorphicTally

open Solidity Foundations BabyJubjub Circuits HomomorphicTallyService

/-- The signals a pair of numbers is passed as. -/
def toSignals (c : BabyJubPoint) : Fp × Fp := (c.1, c.2)

/-- Both coordinates are below the modulus. -/
def Reduced (c : BabyJubPoint) : Prop := c.1 < fieldModulus ∧ c.2 < fieldModulus

theorem eq_coords_of_toSignals {c : BabyJubPoint} {P : curve.Point} (reduced : Reduced c)
    (same : toSignals c = signals P) : c = coords P := by
  obtain ⟨x, y⟩ := Prod.mk.inj same
  exact Prod.ext (eq_val_of_cast_eq reduced.1 x) (eq_val_of_cast_eq reduced.2 y)

/-- The assignment explains the submission to a poll with the key `pk`. -/
structure Certifies (lib : Circomlib) (pk : BabyJubPoint) (a : SubmitArgs)
    (w : HomomorphicVote) : Prop where
  sat : w.Satisfies lib
  pk : w.pk = toSignals pk
  C1 : w.C1 = toSignals a.C1
  C2 : w.C2 = toSignals a.C2
  pollId : w.pollId = (a.pollId.toNat : Fp)

/-- A verifier is deployed, and it accepts a proof only for satisfiable public
signals. -/
structure SoundVerifier (lib : Circomlib)
    (staticcall : Address → Bytes → List ℕ → Bool × Bytes) (s : HomomorphicTally) : Prop where
  deployed : s.voteProofVerifier ≠ 0
  sound : ∀ pk a, verifyVoteProof staticcall s pk a.C1 a.C2 a.pollId a.proof = some true →
    ∃ w, Certifies lib pk a w

/-- Every vote of `cast` is certified under the key of its poll. -/
def AllCertified (lib : Circomlib) (s : HomomorphicTally) (cast : List SubmitArgs) : Prop :=
  ∀ a ∈ cast, ∃ w, Certifies lib (s.polls a.pollId).tallyPublicKey a w

section Runs

variable {lib : Circomlib} {staticcall : Address → Bytes → List ℕ → Bool × Bytes}

/-- **One step.**  An accepted vote is certified, and the keys of the earlier votes
do not change. -/
theorem AllCertified.step {s s' : HomomorphicTally} {cast : List SubmitArgs} {tx : Tx}
    (certified : AllCertified lib s cast) (held : Accumulates s cast)
    (sound : SoundVerifier lib staticcall s) (done : Step staticcall s tx s') :
    AllCertified lib s' (cast ++ submissions [tx]) := by
  intro a mem
  rcases List.mem_append.mp mem with earlier | last
  · rw [done.polls_eq (held.inRange a earlier).1]
    exact certified a earlier
  · have named : tx.submission? = some a := by simpa [submissions] using last
    have checks := done.admits named
    rw [done.polls_eq checks.registered]
    exact sound.sound _ a checks.verified

/-- The accepted votes of a run are certified, at any time. -/
theorem run_allCertified (admin verifier : Address) (txs : List Tx)
    (along : (machine staticcall).Along (fun s _ => SoundVerifier lib staticcall s)
      (initialized admin verifier) txs) :
    AllCertified lib ((machine staticcall).run (initialized admin verifier) txs)
      (submissions ((machine staticcall).accepted (initialized admin verifier) txs)) := by
  refine (Machine.run_induction_along
    (I := fun s _ done => Accumulates s (submissions done) ∧
      AllCertified lib s (submissions done))
    ⟨accumulates_initialized admin verifier, ?_⟩ ?_ txs along).2
  · intro a mem
    cases mem
  · rintro s log done tx s' new ⟨held, certified⟩ sound outcome
    have step := Step.of_call outcome
    rw [submissions, List.filterMap_append]
    exact ⟨held.step step, certified.step held sound step⟩

end Runs

/-! ## Ayes -/

/-- Some assignment explains the submission with the vote `1`. -/
def Aye (lib : Circomlib) (pk : BabyJubPoint) (a : SubmitArgs) : Prop :=
  ∃ w, Certifies lib pk a w ∧ w.v = 1

open Classical in
/-- The number of ayes among `votes`. -/
noncomputable def ayes (lib : Circomlib) (pk : BabyJubPoint) (votes : List SubmitArgs) : ℕ :=
  (votes.filter fun a => decide (Aye lib pk a)).length

section Openings

variable {lib : Circomlib} {pk : BabyJubPoint} {sk : ℕ}

theorem ayes_le_length (votes : List SubmitArgs) : ayes lib pk votes ≤ votes.length :=
  List.length_filter_le _ _

open Classical in
theorem ayes_cons (a : SubmitArgs) (votes : List SubmitArgs) :
    ayes lib pk (a :: votes) = (if Aye lib pk a then 1 else 0) + ayes lib pk votes := by
  rw [ayes, List.filter_cons]
  by_cases aye : Aye lib pk a
  · simp [aye, ayes, Nat.add_comm]
  · simp [aye, ayes]

open Classical in
/-- A certified vote encrypts `1` exactly when it is an aye: the circuit leaves no
choice of the vote. -/
theorem Certifies.opening_value (doc : lib.Documented) (key : toSignals pk = signals (sk • base))
    {a : SubmitArgs} {w : HomomorphicVote} (certified : Certifies lib pk a w) :
    w.opening.value = if Aye lib pk a then 1 else 0 := by
  have one : (1 : Fp).val = 1 := ZMod.val_one fieldModulus
  split
  · rename_i aye
    obtain ⟨w', certified', vote⟩ := aye
    have same := certified.sat.vote_unique certified'.sat doc (certified.pk.trans key)
      (certified.pk.trans certified'.pk.symm) (certified.C1.trans certified'.C1.symm)
      (certified.C2.trans certified'.C2.symm)
    rw [HomomorphicVote.opening, same.1, vote, one]
  · rename_i nay
    rcases certified.sat.vote_cases with zero | vote
    · rw [HomomorphicVote.opening, zero, ZMod.val_zero]
    · exact absurd ⟨w, certified, vote⟩ nay

/-- Certified votes with reduced coordinates are encryptions; the plaintexts add up
to the number of ayes. -/
theorem exists_openings (doc : lib.Documented) (key : toSignals pk = signals (sk • base))
    (votes : List SubmitArgs) (certified : ∀ a ∈ votes, ∃ w, Certifies lib pk a w)
    (reduced : ∀ a ∈ votes, Reduced a.C1 ∧ Reduced a.C2) :
    ∃ openings : List Opening,
      votes.map SubmitArgs.ciphertext =
          (openings.map (ElGamal.encrypt base (sk • base))).map ciphertextCoords ∧
        (openings.map Opening.value).sum = ayes lib pk votes := by
  induction votes with
  | nil => exact ⟨[], rfl, rfl⟩
  | cons a votes ih =>
      obtain ⟨w, certifies⟩ := certified a List.mem_cons_self
      obtain ⟨reduced1, reduced2⟩ := reduced a List.mem_cons_self
      obtain ⟨openings, ciphertexts, values⟩ := ih
        (fun b mem => certified b (List.mem_cons_of_mem a mem))
        (fun b mem => reduced b (List.mem_cons_of_mem a mem))
      have cipher := certifies.sat.ciphertext_eq doc (certifies.pk.trans key)
      rw [certifies.C1, certifies.C2] at cipher
      obtain ⟨first, second⟩ := Prod.mk.inj cipher
      have coordinates : a.ciphertext =
          ciphertextCoords (ElGamal.encrypt base (sk • base) w.opening) :=
        Prod.ext (eq_coords_of_toSignals reduced1 first) (eq_coords_of_toSignals reduced2 second)
      refine ⟨w.opening :: openings, ?_, ?_⟩
      · rw [List.map_cons, List.map_cons, List.map_cons, coordinates, ciphertexts]
      · rw [List.map_cons, List.sum_cons, values, ayes_cons, certifies.opening_value doc key]

end Openings

/-! ## The published tally -/

/-- **The published tally is the number of ayes.**  In every run whose verifiers
accept satisfiable public signals only, and for a poll under the public key of
`sk`, the accumulator of an option decrypts to the number of the ayes among its
accepted votes, times `G`, if the coordinates of these votes are reduced; the number
is at most the count on chain, and while it is at most `MAX_VOTERS` the search finds
it and the service publishes it unless the option is final. -/
theorem verified_tally {lib : Circomlib} (doc : lib.Documented) (keccak256 : Bytes → Bytes32)
    (staticcall : Address → Bytes → List ℕ → Bool × Bytes) (admin verifier : Address)
    (txs : List Tx)
    (along : (machine staticcall).Along (fun s _ => SoundVerifier lib staticcall s)
      (initialized admin verifier) txs)
    (pollId : Bytes32) (optionIndex sk : ℕ)
    (registered : (((machine staticcall).run (initialized admin verifier) txs).polls
      pollId).pollExists = true)
    (inRange : optionIndex < (((machine staticcall).run (initialized admin verifier) txs).polls
      pollId).optionCount)
    (key : toSignals (((machine staticcall).run (initialized admin verifier) txs).polls
      pollId).tallyPublicKey = signals (sk • base))
    (reduced : ∀ a ∈ acceptedFor staticcall admin verifier txs pollId optionIndex,
      Reduced a.C1 ∧ Reduced a.C2) :
    let s := (machine staticcall).run (initialized admin verifier) txs
    let acc := s.getAccumulated pollId optionIndex
    let tally := ayes lib (s.polls pollId).tallyPublicKey
      (acceptedFor staticcall admin verifier txs pollId optionIndex)
    tallyPoint sk acc = bigCoords (tally • base) ∧ tally ≤ acc.count ∧
      (tally ≤ maxVoters →
        bsgs (tallyPoint sk acc).1 (tallyPoint sk acc).2 maxVoters = some (some tally) ∧
        ∀ result : ℕ × Bool, result.2 = false →
          finaliseOption keccak256 (some sk) pollId optionIndex result acc =
            .submitted (tallyCall keccak256 sk pollId optionIndex tally acc)) := by
  intro s acc tally
  -- the votes for the option are certified under the key of this poll
  have certified : ∀ a ∈ acceptedFor staticcall admin verifier txs pollId optionIndex,
      ∃ w, Certifies lib (s.polls pollId).tallyPublicKey a w := by
    intro a mem
    obtain ⟨accepted, named⟩ := List.mem_filter.mp mem
    have poll : a.pollId = pollId := (of_decide_eq_true named).1
    have explained := run_allCertified admin verifier txs along a accepted
    rw [poll] at explained
    exact explained
  obtain ⟨openings, ciphertexts, values⟩ := exists_openings doc key _ certified reduced
  have stored : acc =
      accumulate (acceptedFor staticcall admin verifier txs pollId optionIndex) :=
    (run_accumulates staticcall admin verifier txs).accumulated pollId optionIndex registered
      inRange
  have decrypted : tallyPoint sk acc = bigCoords (tally • base) := by
    rw [stored, accumulate_coords (List.Perm.of_eq ciphertexts), tallyPoint_coords,
      ElGamal.decrypt_sum_encrypt, values]
  have bounded : tally ≤ acc.count := by
    rw [stored, count_accumulate]
    exact ayes_le_length _
  refine ⟨decrypted, bounded, ?_⟩
  intro small
  refine ⟨?_, ?_⟩
  · rw [decrypted]
    exact bsgs_nsmul_base small
  · intro result pending
    exact finaliseOption_eq_submitted keccak256 decrypted small pollId optionIndex pending

/-! ## The sample votes -/

/-- A submission of an encryption of `1` under the key `G` is certified. -/
theorem certifies_encrypt {a : SubmitArgs} {r : ℕ} (small : r < 2 ^ 253)
    (poll : a.pollId = samplePollId)
    (ciphertext : a.ciphertext = ciphertextCoords (ElGamal.encrypt base base ⟨1, r⟩)) :
    Certifies Circomlib.graphs sampleC1 a
      (HomomorphicVote.witness 1 ⟨1, r⟩ (samplePollId.toNat : Fp)) := by
  have first : a.C1 = coords (r • base) := congrArg Prod.fst ciphertext
  have second : a.C2 = coords (1 • base + r • base) := congrArg Prod.snd ciphertext
  refine ⟨HomomorphicVote.satisfies_witness Circomlib.documented_graphs 1 ⟨1, r⟩ le_rfl small _,
    ?_, ?_, ?_, ?_⟩
  · rw [HomomorphicVote.witness, one_nsmul]
    rfl
  · rw [first]
    exact (Prod.ext (cast_coords_fst _) (cast_coords_snd _)).symm
  · rw [second, HomomorphicVote.witness, one_nsmul]
    exact (Prod.ext (cast_coords_fst _) (cast_coords_snd _)).symm
  · rw [poll]
    rfl

/-- Both sample ciphertexts are ayes. -/
theorem aye_sample {a : SubmitArgs} (poll : a.pollId = samplePollId)
    (listed : a.ciphertext ∈ [(sampleC1, sampleC2), (sampleC2, sampleC3)]) :
    Aye Circomlib.graphs sampleC1 a := by
  rw [← ciphertextCoords_encrypt_sample, ← ciphertextCoords_encrypt_second] at listed
  simp only [List.mem_cons, List.not_mem_nil, or_false] at listed
  rcases listed with first | second
  · exact ⟨_, certifies_encrypt (Nat.one_lt_two_pow (by omega)) poll first, rfl⟩
  · exact ⟨_, certifies_encrypt (by norm_num) poll second, rfl⟩

/-- The sample verifier is sound, wherever it is deployed. -/
theorem soundVerifier_sample {s : HomomorphicTally} (deployed : s.voteProofVerifier ≠ 0) :
    SoundVerifier Circomlib.graphs (booleanVerifier twoAccepts) s := by
  refine ⟨deployed, ?_⟩
  intro pk a verified
  obtain ⟨rfl, listed, poll⟩ := mem_of_acceptsProof deployed verified
  obtain ⟨w, certified, -⟩ := aye_sample poll listed
  exact ⟨w, certified⟩

/-- Both sample votes are counted, and found. -/
theorem verified_tally_sample :
    let s := (machine (booleanVerifier twoAccepts)).run (initialized 1 2) sampleVotes
    let T := tallyPoint (1 : ℕ) (s.getAccumulated samplePollId 0)
    T = bigCoords (2 • base) ∧ bsgs T.1 T.2 maxVoters = some (some 2) := by
  have accepted : acceptedFor (booleanVerifier twoAccepts) 1 2 sampleVotes samplePollId 0 =
      [⟨samplePollId, 0, sampleC1, sampleC2, 1, [9]⟩,
        ⟨samplePollId, 0, sampleC2, sampleC3, 2, [9]⟩] := by decide
  have key : (((machine (booleanVerifier twoAccepts)).run (initialized 1 2) sampleVotes).polls
      samplePollId).tallyPublicKey = sampleC1 := by decide
  have counted : ayes Circomlib.graphs
      (((machine (booleanVerifier twoAccepts)).run (initialized 1 2) sampleVotes).polls
        samplePollId).tallyPublicKey
      (acceptedFor (booleanVerifier twoAccepts) 1 2 sampleVotes samplePollId 0) = 2 := by
    rw [accepted, key, ayes_cons, ayes_cons, if_pos, if_pos]
    · rfl
    · exact aye_sample rfl (by simp [SubmitArgs.ciphertext])
    · exact aye_sample rfl (by simp [SubmitArgs.ciphertext])
  obtain ⟨decrypted, -, found⟩ := verified_tally Circomlib.documented_graphs (fun _ => 0)
    (booleanVerifier twoAccepts) 1 2 sampleVotes
    ⟨soundVerifier_sample (by decide), soundVerifier_sample (by decide),
      soundVerifier_sample (by decide), trivial⟩
    samplePollId 0 1 (by decide) (by decide)
    (by
      rw [key, one_nsmul]
      rfl)
    (by
      have reduced : ∀ c ∈ [sampleC1, sampleC2, sampleC3],
          c.1 < fieldModulus ∧ c.2 < fieldModulus := by decide
      rw [accepted]
      intro a mem
      simp only [List.mem_cons, List.not_mem_nil, or_false] at mem
      rcases mem with rfl | rfl
      · exact ⟨reduced _ (by simp), reduced _ (by simp)⟩
      · exact ⟨reduced _ (by simp), reduced _ (by simp)⟩)
  rw [counted] at decrypted found
  exact ⟨decrypted, (found (by decide)).1⟩

end TheVoteApp.HomomorphicTally
