import TheVoteApp.Foundations.Counting
import TheVoteApp.Foundations.ElGamal
import TheVoteApp.HomomorphicTally.Contract

/-!
# What the accumulators hold

`Accumulates` says that the storage is a function of the list of accepted
votes: the accumulator of an option is the fold of the contract's own addition
over the option's votes, and the used nullifiers are those of the poll's votes.
It holds after every run, whatever the verifier accepts
(`run_accumulates`).

If the accepted ciphertexts are canonical points, the fold is the sum in the
group (`accumulate_coords`); then the order of the votes is irrelevant.
-/

namespace TheVoteApp.HomomorphicTally

open Solidity Foundations BabyJubjub

/-- The vote a transaction submits. -/
def Tx.submission? (tx : Tx) : Option SubmitArgs :=
  match tx.call with
  | .submitEncryptedVote args => some args
  | _ => none

theorem Tx.submission?_eq_some_iff {tx : Tx} {args : SubmitArgs} :
    tx.submission? = some args ↔ tx = ⟨tx.env, .submitEncryptedVote args⟩ := by
  obtain ⟨env, call⟩ := tx
  cases call with
  | submitEncryptedVote cast => simp [Tx.submission?]
  | _ => simp [Tx.submission?]

/-- An accepted submission passed the checks. -/
theorem Step.admits {staticcall : Address → Bytes → List ℕ → Bool × Bytes}
    {s s' : HomomorphicTally} {tx : Tx} {args : SubmitArgs} (done : Step staticcall s tx s')
    (named : tx.submission? = some args) : Admits staticcall s tx.env args := by
  cases done with
  | registerPoll fresh => cases named
  | submitEncryptedVote checks =>
      obtain rfl := Option.some.inj named
      exact checks
  | other noVote untouched =>
      have submits := Tx.submission?_eq_some_iff.mp named
      exact absurd (congrArg Tx.call submits) (noVote args)

/-- The votes a list of transactions submits, in order. -/
def submissions (txs : List Tx) : List SubmitArgs := txs.filterMap Tx.submission?

/-- The votes for one option of a poll. -/
def votesFor (cast : List SubmitArgs) (pollId : Bytes32) (optionIndex : ℕ) : List SubmitArgs :=
  cast.filter fun a => a.pollId = pollId ∧ a.optionIndex = optionIndex

/-- The votes in a poll. -/
def votesIn (cast : List SubmitArgs) (pollId : Bytes32) : List SubmitArgs :=
  cast.filter fun a => a.pollId = pollId

/-- The accumulator the votes `votes` leave. -/
def accumulate (votes : List SubmitArgs) : AccumulatedCiphertext :=
  votes.foldl (fun acc a => addCiphertext acc a.C1 a.C2) ⟨neutral, neutral, 0⟩

theorem accumulate_concat (votes : List SubmitArgs) (a : SubmitArgs) :
    accumulate (votes ++ [a]) = addCiphertext (accumulate votes) a.C1 a.C2 := by
  simp [accumulate]

theorem count_accumulate (votes : List SubmitArgs) : (accumulate votes).count = votes.length := by
  induction votes using List.reverseRecOn with
  | nil => rfl
  | append_singleton votes a ih =>
      rw [accumulate_concat, addCiphertext, ih, List.length_append, List.length_singleton]

theorem votesFor_concat (cast : List SubmitArgs) (a : SubmitArgs) (p : Bytes32) (i : ℕ) :
    votesFor (cast ++ [a]) p i =
      if p = a.pollId ∧ i = a.optionIndex then votesFor cast p i ++ [a] else votesFor cast p i := by
  rw [votesFor, List.filter_append, ← votesFor]
  by_cases same : p = a.pollId ∧ i = a.optionIndex
  · obtain ⟨rfl, rfl⟩ := same
    simp
  · rw [if_neg same]
    have skipped : ¬ (a.pollId = p ∧ a.optionIndex = i) := by
      rintro ⟨poll, option⟩
      exact same ⟨poll.symm, option.symm⟩
    simp [skipped]

/-! ## The storage as a function of the accepted votes -/

/-- **The contract's storage holds exactly the votes `cast`.** -/
structure Accumulates (s : HomomorphicTally) (cast : List SubmitArgs) : Prop where
  accumulated : ∀ p i, (s.polls p).pollExists = true → i < (s.polls p).optionCount →
    s.ciphertexts p i = accumulate (votesFor cast p i)
  unregistered : ∀ p, (s.polls p).pollExists = false → ∀ i, (s.ciphertexts p i).count = 0
  inRange : ∀ a ∈ cast, (s.polls a.pollId).pollExists = true ∧
    a.optionIndex < (s.polls a.pollId).optionCount
  used : ∀ p n, s.nullifiersUsed p n = true ↔ ∃ a ∈ cast, a.pollId = p ∧ a.nullifier = n
  distinct : (cast.map fun a => (a.pollId, a.nullifier)).Nodup

theorem accumulates_initialized (admin verifier : Address) :
    Accumulates (initialized admin verifier) [] where
  accumulated p i registered := by cases registered
  unregistered _ _ _ := rfl
  inRange _ mem := by cases mem
  used p n := by simp [initialized]
  distinct := List.nodup_nil

namespace Accumulates

variable {staticcall : Address → Bytes → List ℕ → Bool × Bytes} {s s' : HomomorphicTally}
variable {cast : List SubmitArgs}

/-- The accumulators of a poll that does not exist hold no votes. -/
theorem votesFor_eq_nil (held : Accumulates s cast) {p : Bytes32}
    (unregistered : (s.polls p).pollExists = false) (i : ℕ) : votesFor cast p i = [] := by
  apply List.filter_eq_nil_iff.mpr
  intro a mem same
  have named : a.pollId = p := (of_decide_eq_true same).1
  have registered := (held.inRange a mem).1
  rw [named, unregistered] at registered
  cases registered

theorem of_untouched (held : Accumulates s cast) (same : Untouched s s') : Accumulates s' cast := by
  refine ⟨?_, ?_, ?_, ?_, held.distinct⟩
  · rw [same.polls, same.ciphertexts]
    exact held.accumulated
  · rw [same.polls, same.ciphertexts]
    exact held.unregistered
  · rw [same.polls]
    exact held.inRange
  · rw [same.nullifiersUsed]
    exact held.used

/-- Registering a poll starts its accumulators at the neutral element. -/
theorem recordPoll (held : Accumulates s cast) {pollId : Bytes32}
    (fresh : (s.polls pollId).pollExists = false) (key : BabyJubPoint)
    (optionCount closeTime : ℕ) :
    Accumulates (recordPoll s pollId key optionCount closeTime) cast := by
  refine ⟨?_, ?_, ?_, held.used, held.distinct⟩
  · intro p i registered inRange
    by_cases same : p = pollId
    · subst same
      have bound : i < optionCount := by
        simpa [HomomorphicTally.recordPoll] using inRange
      have empty := held.unregistered p fresh i
      rw [held.votesFor_eq_nil fresh]
      simp [HomomorphicTally.recordPoll, initialiseAccumulators_apply, bound, empty, accumulate]
    · rw [polls_recordPoll_of_ne s same] at registered inRange
      rw [ciphertexts_recordPoll_of_ne s same]
      exact held.accumulated p i registered inRange
  · intro p unregistered i
    by_cases same : p = pollId
    · subst same
      simp [HomomorphicTally.recordPoll] at unregistered
    · rw [polls_recordPoll_of_ne s same] at unregistered
      rw [ciphertexts_recordPoll_of_ne s same]
      exact held.unregistered p unregistered i
  · intro a mem
    have other : a.pollId ≠ pollId := by
      intro same
      have registered := (held.inRange a mem).1
      rw [same, fresh] at registered
      cases registered
    rw [polls_recordPoll_of_ne s other]
    exact held.inRange a mem

/-- An accepted vote goes into one accumulator and uses up one nullifier. -/
theorem recordVote (held : Accumulates s cast) {env : Env} {args : SubmitArgs}
    (checks : Admits staticcall s env args) :
    Accumulates (recordVote s args) (cast ++ [args]) := by
  -- the contract has checked the nullifier against those of all votes before
  have unused : ¬ ∃ a ∈ cast, a.pollId = args.pollId ∧ a.nullifier = args.nullifier := by
    rw [← held.used, checks.unused]
    simp
  refine ⟨?_, ?_, ?_, ?_, ?_⟩
  · intro p i registered inRange
    rw [ciphertexts_recordVote, votesFor_concat, held.accumulated p i registered inRange]
    split
    · rw [accumulate_concat]
    · rfl
  · intro p unregistered i
    have other : ¬ (p = args.pollId ∧ i = args.optionIndex) := by
      rintro ⟨rfl, -⟩
      rw [polls_recordVote, checks.registered] at unregistered
      cases unregistered
    rw [ciphertexts_recordVote, if_neg other]
    exact held.unregistered p unregistered i
  · intro a mem
    rcases List.mem_append.mp mem with earlier | last
    · exact held.inRange a earlier
    · rw [List.mem_singleton.mp last]
      exact ⟨checks.registered, checks.inRange⟩
  · intro p n
    rw [nullifiersUsed_recordVote, Bool.or_eq_true, held.used, decide_eq_true_eq]
    constructor
    · rintro (⟨rfl, rfl⟩ | ⟨a, mem, named⟩)
      · exact ⟨args, by simp, rfl, rfl⟩
      · exact ⟨a, List.mem_append_left _ mem, named⟩
    · rintro ⟨a, mem, rfl, rfl⟩
      rcases List.mem_append.mp mem with earlier | last
      · exact Or.inr ⟨a, earlier, rfl, rfl⟩
      · rw [List.mem_singleton.mp last]
        exact Or.inl ⟨rfl, rfl⟩
  · rw [List.map_append, List.nodup_append]
    refine ⟨held.distinct, List.nodup_singleton _, ?_⟩
    rintro x earlier y last rfl
    obtain ⟨a, mem, keyed⟩ := List.mem_map.mp earlier
    rw [List.map_singleton, List.mem_singleton] at last
    obtain ⟨poll, nullifier⟩ := Prod.mk.inj (keyed.trans last)
    exact unused ⟨a, mem, poll, nullifier⟩

/-- **One step.**  The votes a successful transaction submits are appended. -/
theorem step (held : Accumulates s cast) {tx : Tx} (done : Step staticcall s tx s') :
    Accumulates s' (cast ++ submissions [tx]) := by
  cases done with
  | @registerPoll env pollId key optionCount closeTime fresh =>
      show Accumulates _ (cast ++ [])
      rw [List.append_nil]
      exact held.recordPoll fresh key optionCount closeTime
  | submitEncryptedVote checks => exact held.recordVote checks
  | other noVote untouched =>
      have none : tx.submission? = none := by
        apply Option.eq_none_iff_forall_ne_some.mpr
        intro args named
        exact noVote args (congrArg Tx.call (Tx.submission?_eq_some_iff.mp named))
      simpa [submissions, none] using held.of_untouched untouched

/-! ## Nullifiers -/

/-- The nullifiers used in a poll are as many as its votes. -/
theorem card_nullifiers (held : Accumulates s cast) (p : Bytes32) :
    (Finset.univ.filter fun n => s.nullifiersUsed p n = true).card = (votesIn cast p).length := by
  have distinct : ((votesIn cast p).map SubmitArgs.nullifier).Nodup := by
    have pairs : ((votesIn cast p).map fun a => (a.pollId, a.nullifier)).Nodup :=
      held.distinct.sublist (List.filter_sublist.map _)
    have samePoll : (votesIn cast p).map (fun a => (a.pollId, a.nullifier)) =
        ((votesIn cast p).map SubmitArgs.nullifier).map (Prod.mk p) := by
      rw [List.map_map]
      apply List.map_congr_left
      intro a mem
      have named : a.pollId = p := of_decide_eq_true (List.mem_filter.mp mem).2
      rw [named]
      rfl
    rw [samePoll] at pairs
    exact pairs.of_map
  have listed : (Finset.univ.filter fun n => s.nullifiersUsed p n = true) =
      ((votesIn cast p).map SubmitArgs.nullifier).toFinset := by
    ext n
    simp [held.used, votesIn, and_assoc]
  rw [listed, List.toFinset_card_of_nodup distinct, List.length_map]

/-- The counts of a registered poll add up to its votes. -/
theorem sum_count (held : Accumulates s cast) {p : Bytes32}
    (registered : (s.polls p).pollExists = true) :
    ∑ i ∈ Finset.range (s.polls p).optionCount, (s.ciphertexts p i).count =
      (votesIn cast p).length := by
  have split := sum_countP_key (fun a : SubmitArgs => a.pollId = p) SubmitArgs.optionIndex
    (Finset.range (s.polls p).optionCount) cast (by
      intro a mem named
      obtain rfl : a.pollId = p := of_decide_eq_true named
      exact Finset.mem_range.mpr (held.inRange a mem).2)
  rw [votesIn, ← List.countP_eq_length_filter, ← split]
  apply Finset.sum_congr rfl
  intro i bound
  rw [held.accumulated p i registered (Finset.mem_range.mp bound), count_accumulate, votesFor,
    ← List.countP_eq_length_filter]
  simp only [Bool.decide_and]

end Accumulates

/-- **After every run the storage holds the accepted votes.** -/
theorem run_accumulates (staticcall : Address → Bytes → List ℕ → Bool × Bytes)
    (admin verifier : Address) (txs : List Tx) :
    Accumulates ((machine staticcall).run (initialized admin verifier) txs)
      (submissions ((machine staticcall).accepted (initialized admin verifier) txs)) := by
  refine Machine.run_induction (I := fun s _ done => Accumulates s (submissions done))
    (accumulates_initialized admin verifier) ?_ txs
  intro s log done tx s' new held outcome
  rw [submissions, List.filterMap_append]
  exact held.step (Step.of_call outcome)

/-! ## Sums of points -/

/-- The coordinates of an encrypted vote. -/
def ciphertextCoords (c : curve.Point × curve.Point) : BabyJubPoint × BabyJubPoint :=
  (coords c.1, coords c.2)

/-- The ciphertext of a submission. -/
def SubmitArgs.ciphertext (a : SubmitArgs) : BabyJubPoint × BabyJubPoint := (a.C1, a.C2)

theorem ciphertextCoords_injective : Function.Injective ciphertextCoords := by
  rintro ⟨P, Q⟩ ⟨P', Q'⟩ same
  obtain ⟨first, second⟩ := Prod.mk.inj same
  exact Prod.ext (coords_injective first) (coords_injective second)

/-- Canonical ciphertexts are those of points. -/
theorem exists_points (votes : List SubmitArgs)
    (canonical : ∀ a ∈ votes, Canonical a.C1 ∧ Canonical a.C2) :
    ∃ points : List (curve.Point × curve.Point),
      votes.map SubmitArgs.ciphertext = points.map ciphertextCoords := by
  induction votes with
  | nil => exact ⟨[], rfl⟩
  | cons a votes ih =>
      obtain ⟨⟨P, onP⟩, ⟨Q, onQ⟩⟩ := canonical a List.mem_cons_self
      obtain ⟨points, same⟩ := ih fun b mem => canonical b (List.mem_cons_of_mem a mem)
      refine ⟨(P, Q) :: points, ?_⟩
      rw [List.map_cons, List.map_cons, same, ciphertextCoords, onP, onQ]
      rfl

/-- Adding further ciphertexts to an accumulator of points. -/
theorem foldl_addCiphertext (points : List (curve.Point × curve.Point)) :
    ∀ (votes : List SubmitArgs) (c : curve.Point × curve.Point) (n : ℕ),
      votes.map SubmitArgs.ciphertext = points.map ciphertextCoords →
      votes.foldl (fun acc a => addCiphertext acc a.C1 a.C2) ⟨coords c.1, coords c.2, n⟩ =
        ⟨coords (c + points.sum).1, coords (c + points.sum).2, n + votes.length⟩ := by
  induction points with
  | nil =>
      intro votes c n same
      obtain rfl := List.map_eq_nil_iff.mp same
      simp
  | cons point points ih =>
      intro votes c n same
      obtain ⟨a, rest, rfl, first, others⟩ := List.map_eq_cons_iff.mp same
      obtain ⟨c1, c2⟩ := Prod.mk.inj first
      have round := ih rest (c + point) (n + 1) others
      rw [List.foldl_cons, addCiphertext, c1, c2, babyJubAdd_coords, babyJubAdd_coords]
      rw [List.sum_cons, ← add_assoc, List.length_cons, Nat.add_comm rest.length, ← Nat.add_assoc]
      exact round

/-- **The accumulator of canonical ciphertexts is their sum**, in whatever order
they are added. -/
theorem accumulate_coords {votes : List SubmitArgs} {points : List (curve.Point × curve.Point)}
    (perm : (votes.map SubmitArgs.ciphertext).Perm (points.map ciphertextCoords)) :
    accumulate votes = ⟨coords points.sum.1, coords points.sum.2, votes.length⟩ := by
  have canonical : ∀ a ∈ votes, Canonical a.C1 ∧ Canonical a.C2 := by
    intro a mem
    obtain ⟨point, -, same⟩ := List.mem_map.mp (perm.mem_iff.mp (List.mem_map_of_mem mem))
    obtain ⟨c1, c2⟩ := Prod.mk.inj same
    exact ⟨⟨point.1, c1⟩, ⟨point.2, c2⟩⟩
  obtain ⟨ordered, same⟩ := exists_points votes canonical
  have permuted : ordered.Perm points := by
    rw [← List.map_perm_map_iff ciphertextCoords_injective, ← same]
    exact perm
  have fold := foldl_addCiphertext ordered votes 0 0 same
  rw [zero_add, zero_add, permuted.sum_eq, Prod.fst_zero, Prod.snd_zero, coords_zero] at fold
  exact fold

/-- The order of canonical votes is irrelevant. -/
theorem accumulate_perm {votes reordered : List SubmitArgs}
    (canonical : ∀ a ∈ votes, Canonical a.C1 ∧ Canonical a.C2) (perm : reordered.Perm votes) :
    accumulate reordered = accumulate votes := by
  obtain ⟨points, same⟩ := exists_points votes canonical
  have reached := perm.map SubmitArgs.ciphertext
  rw [same] at reached
  rw [accumulate_coords reached, accumulate_coords (List.Perm.of_eq same), perm.length_eq]

/-! ## Verifiers that check the points -/

/-- A verifier is deployed, and it accepts canonical points only. -/
structure ChecksPoints (staticcall : Address → Bytes → List ℕ → Bool × Bytes)
    (s : HomomorphicTally) : Prop where
  deployed : s.voteProofVerifier ≠ 0
  canonical : ∀ pk C1 C2 pollId proof,
    verifyVoteProof staticcall s pk C1 C2 pollId proof = some true → Canonical C1 ∧ Canonical C2

section Runs

variable (staticcall : Address → Bytes → List ℕ → Bool × Bytes) (admin verifier : Address)

/-- The accepted votes of a run for one option of a poll. -/
def acceptedFor (txs : List Tx) (pollId : Bytes32) (optionIndex : ℕ) : List SubmitArgs :=
  votesFor (submissions ((machine staticcall).accepted (initialized admin verifier) txs)) pollId
    optionIndex

variable {staticcall admin verifier}

/-- What such verifiers let through is canonical. -/
theorem canonical_of_accepted (txs : List Tx)
    (along : (machine staticcall).Along (fun s _ => ChecksPoints staticcall s)
      (initialized admin verifier) txs) :
    ∀ a ∈ submissions ((machine staticcall).accepted (initialized admin verifier) txs),
      Canonical a.C1 ∧ Canonical a.C2 := by
  refine Machine.run_induction_along
    (I := fun _ _ done => ∀ a ∈ submissions done, Canonical a.C1 ∧ Canonical a.C2)
    (by simp [submissions]) ?_ txs along
  intro s log done tx s' new held checksPoints outcome a mem
  rw [submissions, List.filterMap_append, List.mem_append] at mem
  rcases mem with earlier | last
  · exact held a earlier
  · have named : tx.submission? = some a := by simpa using last
    exact checksPoints.canonical _ _ _ _ _ ((Step.of_call outcome).admits named).verified

variable (staticcall admin verifier)

/-- **The accumulator invariant.**  While the verifier checks the points, the
accumulators of a registered poll are the coordinates of the sums of the
accepted ciphertexts, the counts are their numbers and add up to the number of
used nullifiers, and another run that accepts the same votes in another order
reaches the same accumulators. -/
theorem accumulator_invariant (txs : List Tx)
    (along : (machine staticcall).Along (fun s _ => ChecksPoints staticcall s)
      (initialized admin verifier) txs) (p : Bytes32) :
    let s := (machine staticcall).run (initialized admin verifier) txs
    (s.polls p).pollExists = true →
      (∀ i < (s.polls p).optionCount,
        Canonical (s.getAccumulated p i).C1 ∧ Canonical (s.getAccumulated p i).C2 ∧
        (∃ points : List (curve.Point × curve.Point),
          (acceptedFor staticcall admin verifier txs p i).map SubmitArgs.ciphertext =
              points.map ciphertextCoords ∧
            ((s.getAccumulated p i).C1, (s.getAccumulated p i).C2) =
              ciphertextCoords points.sum) ∧
        (s.getAccumulated p i).count = (acceptedFor staticcall admin verifier txs p i).length ∧
        ∀ staticcall' admin' verifier' txs',
          let s' := (machine staticcall').run (initialized admin' verifier') txs'
          (s'.polls p).pollExists = true → i < (s'.polls p).optionCount →
          (acceptedFor staticcall' admin' verifier' txs' p i).Perm
            (acceptedFor staticcall admin verifier txs p i) →
          s'.getAccumulated p i = s.getAccumulated p i) ∧
      ∑ i ∈ Finset.range (s.polls p).optionCount, (s.getAccumulated p i).count =
        (Finset.univ.filter fun n => s.nullifiersUsed p n = true).card := by
  intro s registered
  have held := run_accumulates staticcall admin verifier txs
  refine ⟨?_, ?_⟩
  · intro i bound
    -- the checked proofs make every accepted ciphertext a pair of points
    have canonical : ∀ a ∈ acceptedFor staticcall admin verifier txs p i,
        Canonical a.C1 ∧ Canonical a.C2 :=
      fun a mem => canonical_of_accepted txs along a (List.mem_filter.mp mem).1
    obtain ⟨points, same⟩ := exists_points _ canonical
    have stored : s.getAccumulated p i =
        accumulate (acceptedFor staticcall admin verifier txs p i) :=
      held.accumulated p i registered bound
    have sums := stored.trans (accumulate_coords (List.Perm.of_eq same))
    refine ⟨?_, ?_, ⟨points, same, ?_⟩, ?_, ?_⟩
    · rw [sums]
      exact ⟨_, rfl⟩
    · rw [sums]
      exact ⟨_, rfl⟩
    · rw [sums]
      rfl
    · rw [sums]
    · intro staticcall' admin' verifier' txs' s' registered' bound' perm
      have stored' : s'.getAccumulated p i =
          accumulate (acceptedFor staticcall' admin' verifier' txs' p i) :=
        (run_accumulates staticcall' admin' verifier' txs').accumulated p i registered' bound'
      rw [stored, stored']
      exact accumulate_perm canonical perm
  · rw [held.card_nullifiers]
    exact held.sum_count registered

end Runs

/-- The first sample ciphertext is the encryption of `1` with randomness `1`. -/
theorem ciphertextCoords_encrypt_sample :
    ciphertextCoords (ElGamal.encrypt base base ⟨1, 1⟩) = (sampleC1, sampleC2) := by
  rw [ElGamal.encrypt, one_nsmul, ciphertextCoords, coords_base, coords_base_add_base]
  rfl

/-- The second sample ciphertext is the encryption of `1` with randomness `2`. -/
theorem ciphertextCoords_encrypt_second :
    ciphertextCoords (ElGamal.encrypt base base ⟨1, 2⟩) = (sampleC2, sampleC3) := by
  rw [ElGamal.encrypt, one_nsmul, two_nsmul, ciphertextCoords, coords_base_add_base,
    ← add_assoc, coords_base_add_base_add_base]

/-- The sample verifier checks the points, wherever it is deployed. -/
theorem checksPoints_sample {s : HomomorphicTally} (deployed : s.voteProofVerifier ≠ 0) :
    ChecksPoints (booleanVerifier twoAccepts) s := by
  refine ⟨deployed, ?_⟩
  intro pk C1 C2 pollId proof verified
  have canonical1 : Canonical sampleC1 := ⟨base, coords_base⟩
  have canonical2 : Canonical sampleC2 := ⟨base + base, coords_base_add_base⟩
  have canonical3 : Canonical sampleC3 := ⟨base + base + base, coords_base_add_base_add_base⟩
  have listed := (mem_of_acceptsProof deployed verified).2.1
  simp only [List.mem_cons, List.not_mem_nil, or_false, Prod.mk.injEq] at listed
  obtain ⟨rfl, rfl⟩ | ⟨rfl, rfl⟩ := listed
  · exact ⟨canonical1, canonical2⟩
  · exact ⟨canonical2, canonical3⟩

/-- The two sample votes in the other order. -/
def sampleVotesReversed : List Tx := [sampleRegistration, secondSubmission, sampleSubmission 0 1]

theorem accumulator_invariant_sample :
    let s := (machine (booleanVerifier twoAccepts)).run (initialized 1 2) sampleVotes
    let s' := (machine (booleanVerifier twoAccepts)).run (initialized 1 2) sampleVotesReversed
    Canonical (s.getAccumulated samplePollId 0).C2 ∧
      (s.getAccumulated samplePollId 0).count = 2 ∧
      s'.getAccumulated samplePollId 0 = s.getAccumulated samplePollId 0 ∧
      ∑ i ∈ Finset.range (s.polls samplePollId).optionCount,
          (s.getAccumulated samplePollId i).count =
        (Finset.univ.filter fun n => s.nullifiersUsed samplePollId n = true).card := by
  obtain ⟨options, counts⟩ := accumulator_invariant (booleanVerifier twoAccepts) 1 2 sampleVotes
    ⟨checksPoints_sample (by decide), checksPoints_sample (by decide),
      checksPoints_sample (by decide), trivial⟩
    samplePollId (by decide)
  obtain ⟨-, canonical, -, count, reordered⟩ := options 0 (by decide)
  refine ⟨canonical, count.trans (by decide), ?_, counts⟩
  exact reordered (booleanVerifier twoAccepts) 1 2 sampleVotesReversed (by decide)
    (by decide) (by decide)

end TheVoteApp.HomomorphicTally
