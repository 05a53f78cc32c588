import TheVoteApp.VoteLedger.Contract

/-!
# When a closed poll stays closed

A poll is closed by its deadline or by `finalisePoll`.  Neither can be undone by
a vote, a finalisation or the pause switch, but `createPoll` does not ask
whether the poll exists: the owner can write a new deadline over a closed poll.
`Reopens` is that call, judged in the state it is made in.  A run keeps a
closed poll closed and unchanged exactly when it contains no such call
(`closed_poll_stays_closed_iff`).
-/

namespace TheVoteApp.VoteLedger

open Solidity Foundations

/-- The poll exists and its deadline has passed at time `now`, or it was
finalised. -/
structure ClosedAt (s : VoteLedger) (pollId : Bytes32) (now : ℕ) : Prop where
  created : (s.polls pollId).deadline ≠ 0
  closed : (s.polls pollId).deadline < now ∨ (s.polls pollId).finalised = true

/-- What a poll must keep once it is closed. -/
structure SameResult (s s' : VoteLedger) (pollId : Bytes32) : Prop where
  deadline : (s'.polls pollId).deadline = (s.polls pollId).deadline
  countryCode : (s'.polls pollId).countryCode = (s.polls pollId).countryCode
  tally : ∀ o, s'.getTally pollId o = s.getTally pollId o
  total : (s'.polls pollId).totalVotes = (s.polls pollId).totalVotes

/-- The owner writes another deadline or country code over the poll. -/
def Reopens (keccak256 : Bytes → Bytes32) (pollId : Bytes32) (s : VoteLedger) (tx : Tx) : Prop :=
  ∃ policyId countryCode deadline, tx.call = .createPoll policyId countryCode deadline ∧
    tx.env.sender = s.owner ∧ tx.env.timestamp < deadline ∧
    pollIdOf keccak256 policyId countryCode = pollId ∧
    (deadline ≠ (s.polls pollId).deadline ∨ countryCode ≠ (s.polls pollId).countryCode)

/-- The transaction is a vote in the poll. -/
def VotesIn (pollId : Bytes32) (tx : Tx) : Prop :=
  ∃ args, tx.call = .castVote args ∧ args.pollId = pollId

namespace SameResult

variable {s s' s'' : VoteLedger} {pollId : Bytes32}

theorem refl (s : VoteLedger) (pollId : Bytes32) : SameResult s s pollId :=
  ⟨rfl, rfl, fun _ => rfl, rfl⟩

theorem symm (same : SameResult s s' pollId) : SameResult s' s pollId :=
  ⟨same.deadline.symm, same.countryCode.symm, fun o => (same.tally o).symm, same.total.symm⟩

theorem trans (first : SameResult s s' pollId) (second : SameResult s' s'' pollId) :
    SameResult s s'' pollId :=
  ⟨second.deadline.trans first.deadline, second.countryCode.trans first.countryCode,
    fun o => (second.tally o).trans (first.tally o), second.total.trans first.total⟩

end SameResult

section Steps

variable {keccak256 : Bytes → Bytes32} {verifyProof : Address → ZKProofData → Option Bool}
variable {s s' : VoteLedger} {pollId : Bytes32} {now : ℕ} {tx : Tx} {new : List Event}

/-- No vote is admitted in a closed poll. -/
theorem ClosedAt.not_admits (closed : ClosedAt s pollId now) {env : Env}
    (later : now ≤ env.timestamp) {nullifier : Bytes32} {proof : ZKProofData} :
    ¬ Admits verifyProof s env pollId nullifier proof := by
  intro checks
  rcases closed.closed with late | finalised
  · have := checks.beforeDeadline
    omega
  · simp [checks.notFinalised] at finalised

/-- A step that keeps the poll's result and does not clear its `finalised` flag
keeps it closed. -/
theorem ClosedAt.of_untouched (closed : ClosedAt s pollId now) (same : SameResult s s' pollId)
    (sticky : (s.polls pollId).finalised = true → (s'.polls pollId).finalised = true)
    (noVote : ¬ VotesIn pollId tx) :
    ClosedAt s' pollId now ∧ SameResult s s' pollId ∧ ¬ VotesIn pollId tx := by
  refine ⟨⟨same.deadline ▸ closed.created, ?_⟩, same, noVote⟩
  exact closed.closed.imp (fun late => same.deadline ▸ late) sticky

/-- **One step.**  A transaction that does not reopen a closed poll leaves it
closed, with the same result, and is not a vote in it. -/
theorem ClosedAt.step (closed : ClosedAt s pollId now) (later : now ≤ tx.env.timestamp)
    (keeps : ¬ Reopens keccak256 pollId s tx) (done : Step keccak256 verifyProof s tx s' new) :
    ClosedAt s' pollId now ∧ SameResult s s' pollId ∧ ¬ VotesIn pollId tx := by
  cases done with
  | @createPoll env policyId countryCode deadline sender ahead =>
      -- a call that rewrites this poll rewrites it with the values it already has
      have same : pollId = pollIdOf keccak256 policyId countryCode →
          deadline = (s.polls pollId).deadline ∧ countryCode = (s.polls pollId).countryCode := by
        intro samePoll
        by_contra differs
        exact keeps ⟨policyId, countryCode, deadline, rfl, sender, ahead, samePoll.symm,
          not_and_or.mp differs⟩
      refine closed.of_untouched ⟨?_, ?_, by simp, by simp⟩ (by simp) (by rintro ⟨args, ⟨⟩, -⟩)
      · rw [deadline_writePoll]
        split
        · exact (same ‹_›).1
        · rfl
      · rw [countryCode_writePoll]
        split
        · exact (same ‹_›).2
        · rfl
  | @castVote env args checks room =>
      have otherPoll : pollId ≠ args.pollId := by
        rintro rfl
        exact closed.not_admits later checks
      refine closed.of_untouched ⟨by simp, by simp, by simp [otherPoll], by simp [otherPoll]⟩
        (by simp) ?_
      rintro ⟨args', named, samePoll⟩
      obtain rfl : args = args' := by simpa using named
      exact otherPoll samePoll.symm
  | finalisePoll sender created running =>
      exact closed.of_untouched ⟨by simp, by simp, by simp, by simp⟩
        (fun finalised => by simp [finalised]) (by rintro ⟨args, ⟨⟩, -⟩)
  | pause sender running =>
      exact closed.of_untouched ⟨rfl, rfl, fun _ => rfl, rfl⟩ id (by rintro ⟨args, ⟨⟩, -⟩)
  | unpause sender stopped =>
      exact closed.of_untouched ⟨rfl, rfl, fun _ => rfl, rfl⟩ id (by rintro ⟨args, ⟨⟩, -⟩)
  | transferOwnership sender nonzero =>
      exact closed.of_untouched ⟨rfl, rfl, fun _ => rfl, rfl⟩ id (by rintro ⟨args, ⟨⟩, -⟩)
  | renounceOwnership sender =>
      exact closed.of_untouched ⟨rfl, rfl, fun _ => rfl, rfl⟩ id (by rintro ⟨args, ⟨⟩, -⟩)

variable (verifyProof) in
/-- A reopening call changes the poll's deadline or country code. -/
theorem not_sameResult_of_reopens (reopens : Reopens keccak256 pollId s tx) :
    ∃ s' new, Step keccak256 verifyProof s tx s' new ∧ ¬ SameResult s s' pollId := by
  obtain ⟨env, call⟩ := tx
  obtain ⟨policyId, countryCode, deadline, rfl, sender, ahead, rfl, differs⟩ := reopens
  refine ⟨_, _, .createPoll sender ahead, ?_⟩
  intro same
  rcases differs with other | other
  · exact other (by simpa using same.deadline)
  · exact other (by simpa using same.countryCode)

end Steps

section Runs

variable (keccak256 : Bytes → Bytes32) (verifyProof : Address → ZKProofData → Option Bool)

/-- Over a run from `s`, the poll keeps its result in every state and no vote in
it succeeds. -/
def StaysClosed (pollId : Bytes32) (s : VoteLedger) (txs : List Tx) : Prop :=
  (∀ done rest, txs = done ++ rest →
    SameResult s ((machine keccak256 verifyProof).run s done) pollId) ∧
  ∀ tx ∈ (machine keccak256 verifyProof).accepted s txs, ¬ VotesIn pollId tx

variable {keccak256 verifyProof}

/-- A run without reopening calls, from a closed poll. -/
theorem ClosedAt.run {s : VoteLedger} {pollId : Bytes32} {now : ℕ}
    (closed : ClosedAt s pollId now) (txs : List Tx)
    (later : ∀ tx ∈ txs, now ≤ tx.env.timestamp)
    (keeps : (machine keccak256 verifyProof).Along
      (fun s tx => ¬ Reopens keccak256 pollId s tx) s txs) :
    SameResult s ((machine keccak256 verifyProof).run s txs) pollId ∧
      ∀ tx ∈ (machine keccak256 verifyProof).accepted s txs, ¬ VotesIn pollId tx := by
  have along : (machine keccak256 verifyProof).Along
      (fun s tx => now ≤ tx.env.timestamp ∧ ¬ Reopens keccak256 pollId s tx) s txs :=
    (Machine.along_and s txs).mpr ⟨Machine.along_of_forall_mem later s, keeps⟩
  refine (Machine.run_induction_along
    (I := fun s' _ done => ClosedAt s' pollId now ∧ SameResult s s' pollId ∧
      ∀ tx ∈ done, ¬ VotesIn pollId tx)
    ⟨closed, .refl s pollId, by simp⟩ ?_ txs along).2
  rintro s' _ done tx s'' new ⟨stillClosed, same, noVotes⟩ ⟨inTime, noReopening⟩ outcome
  obtain ⟨closed', same', noVote⟩ :=
    stillClosed.step inTime noReopening (call_eq_ok_iff.mp outcome)
  refine ⟨closed', same.trans same', ?_⟩
  intro tx' mem
  rcases List.mem_append.mp mem with earlier | last
  · exact noVotes tx' earlier
  · rwa [List.mem_singleton.mp last]

variable (keccak256 verifyProof)

/-- **A closed poll stays closed exactly as long as it is not created again.**
Once a run has closed a poll, the rest of the run (whose timestamps are not
earlier) keeps its deadline, country code, tallies and total and lets no vote
in it succeed, if and only if no call of it is the owner's `createPoll` writing
another deadline or country code over that poll. -/
theorem closed_poll_stays_closed_iff (owner registry verifier : Address)
    (before after : List Tx) (pollId : Bytes32) (now : ℕ)
    (closed : ClosedAt ((machine keccak256 verifyProof).run
      (initialized owner registry verifier) before) pollId now)
    (later : ∀ tx ∈ after, now ≤ tx.env.timestamp) :
    StaysClosed keccak256 verifyProof pollId
        ((machine keccak256 verifyProof).run (initialized owner registry verifier) before) after ↔
      (machine keccak256 verifyProof).Along (fun s tx => ¬ Reopens keccak256 pollId s tx)
        ((machine keccak256 verifyProof).run (initialized owner registry verifier) before)
        after := by
  constructor
  · rintro ⟨same, -⟩
    apply (Machine.along_iff_forall_split _ after).mpr
    rintro done tx rest rfl reopens
    obtain ⟨s', new, step, changed⟩ := not_sameResult_of_reopens verifyProof reopens
    have atStep := same done (tx :: rest) rfl
    have afterStep := same (done ++ [tx]) rest (by simp)
    rw [Machine.run_concat, Machine.next_of_ok (call_eq_ok_iff.mpr step)] at afterStep
    exact changed (atStep.symm.trans afterStep)
  · intro keeps
    refine ⟨?_, (closed.run after later keeps).2⟩
    rintro done rest rfl
    exact (closed.run done (fun tx mem => later tx (List.mem_append_left _ mem))
      ((Machine.along_append _ done rest).mp keeps).1).1

theorem closed_poll_stays_closed_iff_sample :
    StaysClosed sampleKeccak256 sampleVerifyProof samplePollId
      ((machine sampleKeccak256 sampleVerifyProof).run (initialized 1 3 4) [sampleOpening])
      [⟨⟨2, 2100, 5⟩, (sampleVote 5 8).call⟩] :=
  (closed_poll_stays_closed_iff sampleKeccak256 sampleVerifyProof 1 3 4 [sampleOpening]
    [⟨⟨2, 2100, 5⟩, (sampleVote 5 8).call⟩] samplePollId 2000
    ⟨by decide, Or.inl (by decide)⟩ (by simp)).mpr
    ⟨by rintro ⟨policyId, countryCode, deadline, ⟨⟩, -⟩, trivial⟩

/-- The owner creates the sample poll again after its deadline. -/
def sampleReopening : Tx := ⟨⟨1, 2000, 4⟩, .createPoll samplePolicyId gb 5000⟩

/-- **A closed poll reopens.**  The sample poll closes at time 1000; created
again at time 2000 it has deadline 5000 and records a vote at time 2100. -/
theorem closed_poll_reopens :
    let M := machine sampleKeccak256 sampleVerifyProof
    let s := M.run (initialized 1 3 4) [sampleOpening]
    let after : List Tx := [sampleReopening, ⟨⟨2, 2100, 5⟩, (sampleVote 5 8).call⟩]
    ClosedAt s samplePollId 2000 ∧ (∀ tx ∈ after, 2000 ≤ tx.env.timestamp) ∧
      (s.getPollMeta samplePollId).deadline = 1000 ∧
      (s.getPollMeta samplePollId).totalVotes = 0 ∧
      ((M.run s after).getPollMeta samplePollId).deadline = 5000 ∧
      ((M.run s after).getPollMeta samplePollId).totalVotes = 1 ∧
      ¬ StaysClosed sampleKeccak256 sampleVerifyProof samplePollId s after := by
  intro M s after
  refine ⟨⟨by decide, Or.inl (by decide)⟩, by simp [after, sampleReopening],
    by decide, by decide, by decide, by decide, ?_⟩
  rintro ⟨same, -⟩
  have changed : ((M.run s after).polls samplePollId).deadline ≠ (s.polls samplePollId).deadline :=
    by decide
  exact changed (same after [] (by simp)).deadline

end Runs

end TheVoteApp.VoteLedger
