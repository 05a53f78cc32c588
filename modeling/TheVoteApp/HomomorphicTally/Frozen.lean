import TheVoteApp.HomomorphicTally.Contract

/-!
# A finalised option freezes its poll

Votes are accepted strictly before the close time, results from the close time
on, a poll is registered once and an option finalised once.  When block times
do not decrease, the first result published for an option therefore freezes the
poll: its configuration, its accumulators and counts, its used nullifiers and
that result never change again (`frozen_after_finalisation`).
-/

namespace TheVoteApp.HomomorphicTally

open Solidity Foundations

/-- Block times do not decrease along the run. -/
def Chronological (txs : List Tx) : Prop :=
  txs.Pairwise fun tx later => tx.env.timestamp ≤ later.env.timestamp

/-- The option has its result, and the poll is closed at time `now`. -/
structure FinalisedAt (s : HomomorphicTally) (pollId : Bytes32) (optionIndex now : ℕ) : Prop where
  registered : (s.polls pollId).pollExists = true
  closed : (s.polls pollId).closeTime ≤ now
  finalised : (s.results pollId optionIndex).finalised = true

/-- What stays fixed of a poll once the option is finalised. -/
structure SamePoll (pollId : Bytes32) (optionIndex : ℕ) (s s' : HomomorphicTally) : Prop where
  result : s'.results pollId optionIndex = s.results pollId optionIndex
  poll : s'.polls pollId = s.polls pollId
  ciphertexts : s'.ciphertexts pollId = s.ciphertexts pollId
  nullifiersUsed : s'.nullifiersUsed pollId = s.nullifiersUsed pollId

section Steps

variable {staticcall : Address → Bytes → List ℕ → Bool × Bytes} {s s' s'' : HomomorphicTally}
variable {pollId : Bytes32} {optionIndex now : ℕ}

theorem SamePoll.refl (pollId : Bytes32) (optionIndex : ℕ) (s : HomomorphicTally) :
    SamePoll pollId optionIndex s s :=
  ⟨rfl, rfl, rfl, rfl⟩

theorem SamePoll.trans (first : SamePoll pollId optionIndex s s')
    (second : SamePoll pollId optionIndex s' s'') : SamePoll pollId optionIndex s s'' where
  result := second.result.trans first.result
  poll := second.poll.trans first.poll
  ciphertexts := second.ciphertexts.trans first.ciphertexts
  nullifiersUsed := second.nullifiersUsed.trans first.nullifiersUsed

/-- The option stays finalised, and the poll closed, when nothing of it changes. -/
theorem FinalisedAt.of_samePoll (finalised : FinalisedAt s pollId optionIndex now)
    (same : SamePoll pollId optionIndex s s') : FinalisedAt s' pollId optionIndex now where
  registered := by rw [same.poll]; exact finalised.registered
  closed := by rw [same.poll]; exact finalised.closed
  finalised := by rw [same.result]; exact finalised.finalised

/-- Publishing a result changes the result of that option only. -/
theorem results_recordResult_of_ne {p : Bytes32} {i : ℕ} (other : pollId = p → optionIndex ≠ i)
    (result : DecryptionResult) :
    (recordResult s p i result).results pollId optionIndex = s.results pollId optionIndex := by
  by_cases samePoll : pollId = p
  · subst samePoll
    simp [recordResult, Function.update_of_ne (other rfl)]
  · simp [recordResult, samePoll]

/-- A published result is the stored one. -/
theorem results_recordResult_self (result : DecryptionResult) :
    (recordResult s pollId optionIndex result).results pollId optionIndex = result := by
  simp [recordResult]

/-- **One step.**  No transaction from the close time on changes a poll with a
finalised option, nor the result of that option. -/
theorem FinalisedAt.step (finalised : FinalisedAt s pollId optionIndex now) {tx : Tx}
    (later : now ≤ tx.env.timestamp) {new : List Event}
    (success : (machine staticcall).call s tx = .ok (s', new)) :
    SamePoll pollId optionIndex s s' := by
  obtain ⟨env, call⟩ := tx
  cases call with
  | registerPoll p key optionCount closeTime =>
      -- a registered poll is not registered again
      obtain ⟨-, fresh, rfl, -⟩ := registerPoll_eq_ok_iff.mp success
      have other : pollId ≠ p := by
        rintro rfl
        rw [finalised.registered] at fresh
        cases fresh
      exact ⟨rfl, polls_recordPoll_of_ne s other key optionCount closeTime,
        ciphertexts_recordPoll_of_ne s other key optionCount closeTime, rfl⟩
  | submitEncryptedVote args =>
      -- a vote in this poll would have to be sent before the close time
      obtain ⟨checks, rfl, -⟩ := submitEncryptedVote_eq_ok_iff.mp success
      have other : pollId ≠ args.pollId := by
        rintro rfl
        exact absurd (lt_of_lt_of_le checks.beforeClose finalised.closed) (Nat.not_lt.mpr later)
      exact ⟨rfl, rfl, Function.update_of_ne other _ _, Function.update_of_ne other _ _⟩
  | finaliseDecryption p i tallyValue T decryptionProof =>
      -- an option is finalised once
      obtain ⟨checks, rfl, -⟩ := finaliseDecryption_eq_ok_iff.mp success
      refine ⟨results_recordResult_of_ne ?_ _, rfl, rfl, rfl⟩
      rintro rfl rfl
      have pending := checks.pending
      rw [finalised.finalised] at pending
      cases pending
  | setVerifier newVerifier =>
      obtain ⟨-, rfl, -⟩ := setVerifier_eq_ok_iff.mp success
      exact ⟨rfl, rfl, rfl, rfl⟩
  | grantRole role account =>
      obtain ⟨-, rfl, -⟩ := grantRole_eq_ok_iff.mp success
      exact ⟨rfl, rfl, rfl, rfl⟩
  | revokeRole role account =>
      obtain ⟨-, rfl, -⟩ := revokeRole_eq_ok_iff.mp success
      exact ⟨rfl, rfl, rfl, rfl⟩
  | renounceRole role callerConfirmation =>
      obtain ⟨-, rfl, -⟩ := renounceRole_eq_ok_iff.mp success
      exact ⟨rfl, rfl, rfl, rfl⟩

/-- A run from a state with a finalised option, at times not before the close
time. -/
theorem FinalisedAt.run (finalised : FinalisedAt s pollId optionIndex now) (txs : List Tx)
    (later : ∀ tx ∈ txs, now ≤ tx.env.timestamp) :
    SamePoll pollId optionIndex s ((machine staticcall).run s txs) := by
  refine Machine.run_invariant_along (I := SamePoll pollId optionIndex s) (.refl _ _ s) ?_ txs
    (Machine.along_of_forall_mem later s)
  intro s' tx s'' new same inTime success
  exact same.trans ((finalised.of_samePoll same).step inTime success)

/-- A successful `finaliseDecryption` leaves its option finalised. -/
theorem finalisedAt_next {env : Env} {tallyValue : ℕ} {T : BabyJubPoint} {decryptionProof : Bytes}
    (success : (machine staticcall).Succeeds s
      ⟨env, .finaliseDecryption pollId optionIndex tallyValue T decryptionProof⟩) :
    FinalisedAt ((machine staticcall).next s
      ⟨env, .finaliseDecryption pollId optionIndex tallyValue T decryptionProof⟩)
      pollId optionIndex env.timestamp := by
  obtain ⟨⟨s', new⟩, outcome⟩ := success
  rw [Machine.next_of_ok outcome]
  obtain ⟨checks, rfl, -⟩ := finaliseDecryption_eq_ok_iff.mp outcome
  exact ⟨checks.registered, checks.afterClose, by rw [results_recordResult_self]⟩

end Steps

/-- **Frozen after finalisation.**  Along a run whose block times do not
decrease, a successful `finaliseDecryption` fixes the result of its option and
the configuration, accumulators, counts and used nullifiers of its poll: every
state the run reaches afterwards has the values right after the call. -/
theorem frozen_after_finalisation (staticcall : Address → Bytes → List ℕ → Bool × Bytes)
    (admin verifier : Address) (before mid rest : List Tx) (env : Env) (pollId : Bytes32)
    (optionIndex tallyValue : ℕ) (T : BabyJubPoint) (decryptionProof : Bytes)
    (chronological : Chronological (before ++
      ⟨env, .finaliseDecryption pollId optionIndex tallyValue T decryptionProof⟩ :: (mid ++ rest)))
    (success : (machine staticcall).Succeeds
      ((machine staticcall).run (initialized admin verifier) before)
      ⟨env, .finaliseDecryption pollId optionIndex tallyValue T decryptionProof⟩) :
    let finalisation : Tx :=
      ⟨env, .finaliseDecryption pollId optionIndex tallyValue T decryptionProof⟩
    SamePoll pollId optionIndex
      ((machine staticcall).run (initialized admin verifier) (before ++ [finalisation]))
      ((machine staticcall).run (initialized admin verifier) (before ++ finalisation :: mid)) := by
  intro finalisation
  have later : ∀ tx ∈ mid, env.timestamp ≤ tx.env.timestamp := by
    have ordered := (List.pairwise_cons.mp (List.pairwise_append.mp chronological).2.1).1
    intro tx mem
    exact ordered tx (List.mem_append_left rest mem)
  rw [Machine.run_concat, Machine.run_append, Machine.run_cons]
  exact (finalisedAt_next success).run mid later

/-- The authority publishes a result of the sample poll at its close time. -/
def sampleFinalisation : Tx := ⟨⟨1, 1000, 3⟩, .finaliseDecryption samplePollId 0 0 (0, 1) []⟩

theorem frozen_after_finalisation_sample :
    let M := machine (booleanVerifier sampleAccepts)
    SamePoll samplePollId 0
      (M.run (initialized 1 0) ([sampleRegistration] ++ [sampleFinalisation]))
      (M.run (initialized 1 0) ([sampleRegistration] ++ sampleFinalisation ::
        [⟨⟨2, 1000, 3⟩, (sampleSubmission 0 5).call⟩])) :=
  frozen_after_finalisation (booleanVerifier sampleAccepts) 1 0 [sampleRegistration]
    [⟨⟨2, 1000, 3⟩, (sampleSubmission 0 5).call⟩] [] ⟨1, 1000, 3⟩ samplePollId 0 0 (0, 1) []
    (by simp [Chronological, sampleRegistration, sampleSubmission]) (by decide)

end TheVoteApp.HomomorphicTally
