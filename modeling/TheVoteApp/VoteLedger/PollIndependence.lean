import TheVoteApp.VoteLedger.Finality

/-!
# Votes on one poll, seen from another

The records of two polls are separate, but the contract keeps one set of spent
nullifiers for all polls.  Compare two runs that differ only in which votes were
cast on a poll `A`, and look at another poll `B`.  Everything `castVote` reads
for a vote on `B` is the same in both runs, except whether its nullifier was
spent; so the votes on `B` have the same outcomes, and `B` the same tallies,
exactly when that agrees at every vote on `B` that gets as far as the nullifier
check (`poll_independent_iff`).

The runs need not be the same length.  `AgreeExceptVotesIn` aligns them, and the
proof carries `Agrees` — the contract's switches and the record of `B` — along
the alignment.
-/

namespace TheVoteApp.VoteLedger

open Solidity Foundations

/-- The two runs agree on all operations except which votes were cast on the
poll. -/
inductive AgreeExceptVotesIn (pollId : Bytes32) : List Tx → List Tx → Prop where
  | nil : AgreeExceptVotesIn pollId [] []
  | both {txs₁ txs₂ : List Tx} (tx : Tx) (rest : AgreeExceptVotesIn pollId txs₁ txs₂) :
      AgreeExceptVotesIn pollId (tx :: txs₁) (tx :: txs₂)
  | left {txs₁ txs₂ : List Tx} {tx : Tx} (vote : VotesIn pollId tx)
      (rest : AgreeExceptVotesIn pollId txs₁ txs₂) : AgreeExceptVotesIn pollId (tx :: txs₁) txs₂
  | right {txs₁ txs₂ : List Tx} {tx : Tx} (vote : VotesIn pollId tx)
      (rest : AgreeExceptVotesIn pollId txs₁ txs₂) : AgreeExceptVotesIn pollId txs₁ (tx :: txs₂)

instance decidableVotesIn (pollId : Bytes32) (tx : Tx) : Decidable (VotesIn pollId tx) :=
  match named : tx.call with
  | .castVote args =>
      decidable_of_iff (args.pollId = pollId)
        ⟨fun same => ⟨args, named, same⟩, by
          rintro ⟨args', named', same⟩
          obtain rfl : args = args' := by simpa using named.symm.trans named'
          exact same⟩
  | .createPoll _ _ _ | .finalisePoll _ | .pause | .unpause | .transferOwnership _
  | .renounceOwnership => isFalse (by
      rintro ⟨args, named', -⟩
      rw [named] at named'
      cases named')

/-- What a vote on the poll reads besides the nullifiers. -/
structure Agrees (pollId : Bytes32) (s₁ s₂ : VoteLedger) : Prop where
  owner : s₁.owner = s₂.owner
  paused : s₁.paused = s₂.paused
  zkVerifier : s₁.zkVerifier = s₂.zkVerifier
  poll : s₁.polls pollId = s₂.polls pollId

/-- The vote passes the checks before the one of the nullifier. -/
structure ReachesNullifierCheck (s : VoteLedger) (env : Env) (pollId : Bytes32) : Prop where
  running : s.paused = false
  created : (s.polls pollId).deadline ≠ 0
  beforeDeadline : env.timestamp ≤ (s.polls pollId).deadline
  notFinalised : (s.polls pollId).finalised = false

section Definitions

variable (keccak256 : Bytes → Bytes32) (verifyProof : Address → ZKProofData → Option Bool)

/-- Success, or the error of the revert. -/
def outcome (vote : VoteLedger × Tx) : Except Error Unit :=
  ((machine keccak256 verifyProof).call vote.1 vote.2).map fun _ => ()

/-- The `castVote` calls on the poll, each with the state it is made in. -/
def votesOn (pollId : Bytes32) : VoteLedger → List Tx → List (VoteLedger × Tx)
  | _, [] => []
  | s, tx :: txs =>
      let rest := votesOn pollId ((machine keccak256 verifyProof).next s tx) txs
      if VotesIn pollId tx then (s, tx) :: rest else rest

end Definitions

/-- The nullifier of the vote is spent in both states or in neither, if the vote
is judged by it at all. -/
def SameSpent (vote₁ vote₂ : VoteLedger × Tx) : Prop :=
  ∀ args, vote₁.2.call = .castVote args →
    ReachesNullifierCheck vote₁.1 vote₁.2.env args.pollId →
    vote₁.1.isNullifierSpent args.nullifier = vote₂.1.isNullifierSpent args.nullifier

/-- The poll has the same tallies and the same total. -/
structure SameTallies (pollId : Bytes32) (s₁ s₂ : VoteLedger) : Prop where
  tally : ∀ o, s₁.getTally pollId o = s₂.getTally pollId o
  total : (s₁.getPollMeta pollId).totalVotes = (s₂.getPollMeta pollId).totalVotes

namespace Agrees

variable {s s₁ s₂ s₃ : VoteLedger} {pollId : Bytes32}

theorem refl (s : VoteLedger) (pollId : Bytes32) : Agrees pollId s s := ⟨rfl, rfl, rfl, rfl⟩

theorem symm (agrees : Agrees pollId s₁ s₂) : Agrees pollId s₂ s₁ :=
  ⟨agrees.owner.symm, agrees.paused.symm, agrees.zkVerifier.symm, agrees.poll.symm⟩

theorem trans (first : Agrees pollId s₁ s₂) (second : Agrees pollId s₂ s₃) :
    Agrees pollId s₁ s₃ :=
  ⟨first.owner.trans second.owner, first.paused.trans second.paused,
    first.zkVerifier.trans second.zkVerifier, first.poll.trans second.poll⟩

theorem sameTallies (agrees : Agrees pollId s₁ s₂) : SameTallies pollId s₁ s₂ := by
  constructor
  · intro o
    show (s₁.polls pollId).optionTally o = (s₂.polls pollId).optionTally o
    rw [agrees.poll]
  · show (s₁.polls pollId).totalVotes = (s₂.polls pollId).totalVotes
    rw [agrees.poll]

theorem reaches (agrees : Agrees pollId s₁ s₂) {env : Env}
    (reaches : ReachesNullifierCheck s₁ env pollId) : ReachesNullifierCheck s₂ env pollId :=
  ⟨agrees.paused ▸ reaches.running, agrees.poll ▸ reaches.created,
    agrees.poll ▸ reaches.beforeDeadline, agrees.poll ▸ reaches.notFinalised⟩

end Agrees

section Steps

variable {keccak256 : Bytes → Bytes32} {verifyProof : Address → ZKProofData → Option Bool}
variable {s s₁ s₂ : VoteLedger} {pollId other : Bytes32} {tx : Tx}

/-- **Votes elsewhere.**  A vote on another poll changes nothing this poll's votes
read but the nullifiers. -/
theorem agrees_next_of_votesIn (vote : VotesIn other tx) (different : pollId ≠ other) :
    Agrees pollId s ((machine keccak256 verifyProof).next s tx) := by
  obtain ⟨env, call⟩ := tx
  obtain ⟨args, rfl, rfl⟩ := vote
  by_cases success : (machine keccak256 verifyProof).Succeeds s ⟨env, .castVote args⟩
  · obtain ⟨⟨s', new⟩, success⟩ := success
    rw [Machine.next_of_ok success]
    cases call_eq_ok_iff.mp success with
    | castVote checks room => exact ⟨rfl, rfl, rfl, (Function.update_of_ne different _ _).symm⟩
  · rw [Machine.next_of_not_succeeds success]
    exact .refl s pollId

/-- A `finalisePoll` of another poll does not touch this one. -/
theorem agrees_next_of_finalisePoll {env : Env} (different : pollId ≠ other) :
    Agrees pollId s ((machine keccak256 verifyProof).next s ⟨env, .finalisePoll other⟩) := by
  by_cases success : (machine keccak256 verifyProof).Succeeds s ⟨env, .finalisePoll other⟩
  · obtain ⟨⟨s', new⟩, success⟩ := success
    rw [Machine.next_of_ok success]
    cases call_eq_ok_iff.mp success with
    | finalisePoll sender created running =>
        exact ⟨rfl, rfl, rfl, (Function.update_of_ne different _ _).symm⟩
  · rw [Machine.next_of_not_succeeds success]
    exact .refl s pollId

/-- A transaction whose guard and effect depend on the agreeing parts only. -/
theorem Agrees.next_of_step (agrees : Agrees pollId s₁ s₂)
    (transfer : ∀ s₁ s₂ : VoteLedger, Agrees pollId s₁ s₂ → ∀ s₁' new,
      Step keccak256 verifyProof s₁ tx s₁' new →
      ∃ s₂' new', Step keccak256 verifyProof s₂ tx s₂' new' ∧ Agrees pollId s₁' s₂') :
    Agrees pollId ((machine keccak256 verifyProof).next s₁ tx)
      ((machine keccak256 verifyProof).next s₂ tx) := by
  by_cases success : (machine keccak256 verifyProof).Succeeds s₁ tx
  · obtain ⟨⟨s₁', new⟩, success⟩ := success
    obtain ⟨s₂', new', step, agrees'⟩ := transfer s₁ s₂ agrees s₁' new (call_eq_ok_iff.mp success)
    rw [Machine.next_of_ok success, Machine.next_of_ok (call_eq_ok_iff.mpr step)]
    exact agrees'
  · -- if it succeeded in the other state it would transfer back
    have reverts : ¬ (machine keccak256 verifyProof).Succeeds s₂ tx := by
      rintro ⟨⟨s₂', new⟩, success₂⟩
      obtain ⟨s₁', new', step, -⟩ :=
        transfer s₂ s₁ agrees.symm s₂' new (call_eq_ok_iff.mp success₂)
      exact success ⟨_, call_eq_ok_iff.mpr step⟩
    rw [Machine.next_of_not_succeeds success, Machine.next_of_not_succeeds reverts]
    exact agrees

/-- **Other operations.**  The same transaction, when it is no vote on the poll,
keeps two agreeing states in agreement. -/
theorem Agrees.next (agrees : Agrees pollId s₁ s₂) (noVote : ¬ VotesIn pollId tx) :
    Agrees pollId ((machine keccak256 verifyProof).next s₁ tx)
      ((machine keccak256 verifyProof).next s₂ tx) := by
  obtain ⟨env, call⟩ := tx
  cases call with
  | castVote args =>
      -- a vote on another poll touches the poll on neither side
      have different : pollId ≠ args.pollId := fun same => noVote ⟨args, rfl, same.symm⟩
      have vote : VotesIn args.pollId ⟨env, .castVote args⟩ := ⟨args, rfl, rfl⟩
      exact ((agrees_next_of_votesIn vote different).symm.trans agrees).trans
        (agrees_next_of_votesIn vote different)
  | finalisePoll p =>
      by_cases same : pollId = p
      · subst same
        refine agrees.next_of_step ?_
        intro s₁ s₂ agrees s₁' new step
        cases step with
        | finalisePoll sender created running =>
            refine ⟨_, _, .finalisePoll (agrees.owner ▸ sender) (agrees.poll ▸ created)
              (agrees.poll ▸ running), agrees.owner, agrees.paused, agrees.zkVerifier, ?_⟩
            simp only [markFinalised, Function.update_self, agrees.poll]
      · exact ((agrees_next_of_finalisePoll same).symm.trans agrees).trans
          (agrees_next_of_finalisePoll same)
  | createPoll policyId countryCode deadline =>
      refine agrees.next_of_step ?_
      intro s₁ s₂ agrees s₁' new step
      cases step with
      | createPoll sender ahead =>
          refine ⟨_, _, .createPoll (agrees.owner ▸ sender) ahead, agrees.owner, agrees.paused,
            agrees.zkVerifier, ?_⟩
          by_cases same : pollId = pollIdOf keccak256 policyId countryCode
          · subst same
            simp only [writePoll, Function.update_self, agrees.poll]
          · simp only [writePoll, Function.update_of_ne same, agrees.poll]
  | pause =>
      refine agrees.next_of_step ?_
      intro s₁ s₂ agrees s₁' new step
      cases step with
      | pause sender running =>
          exact ⟨_, _, .pause (agrees.owner ▸ sender) (agrees.paused ▸ running), agrees.owner, rfl,
            agrees.zkVerifier, agrees.poll⟩
  | unpause =>
      refine agrees.next_of_step ?_
      intro s₁ s₂ agrees s₁' new step
      cases step with
      | unpause sender stopped =>
          exact ⟨_, _, .unpause (agrees.owner ▸ sender) (agrees.paused ▸ stopped), agrees.owner,
            rfl, agrees.zkVerifier, agrees.poll⟩
  | transferOwnership newOwner =>
      refine agrees.next_of_step ?_
      intro s₁ s₂ agrees s₁' new step
      cases step with
      | transferOwnership sender nonzero =>
          exact ⟨_, _, .transferOwnership (agrees.owner ▸ sender) nonzero, rfl, agrees.paused,
            agrees.zkVerifier, agrees.poll⟩
  | renounceOwnership =>
      refine agrees.next_of_step ?_
      intro s₁ s₂ agrees s₁' new step
      cases step with
      | renounceOwnership sender =>
          exact ⟨_, _, .renounceOwnership (agrees.owner ▸ sender), rfl, agrees.paused,
            agrees.zkVerifier, agrees.poll⟩

end Steps

/-! ## Votes on the poll -/

section Votes

variable {keccak256 : Bytes → Bytes32} {verifyProof : Address → ZKProofData → Option Bool}
variable {s s₁ s₂ : VoteLedger} {env : Env} {pollId : Bytes32} {args : VoteArgs}

theorem outcome_castVote :
    outcome keccak256 verifyProof (s, ⟨env, .castVote args⟩) =
      (castVote verifyProof s env args.pollId args.optionHash args.nullifier args.proof).map
        fun _ => () :=
  rfl

variable (keccak256 verifyProof) in
/-- A vote that gets to the nullifier check is refused there exactly when its
nullifier is spent. -/
theorem outcome_eq_nullifierSpent_iff (reaches : ReachesNullifierCheck s env args.pollId) :
    outcome keccak256 verifyProof (s, ⟨env, .castVote args⟩) = .error .nullifierSpent ↔
      s.isNullifierSpent args.nullifier = true := by
  have inTime := Nat.not_lt.mpr reaches.beforeDeadline
  rw [outcome_castVote]
  cases spent : s.nullifiers args.nullifier with
  | true =>
      simp [castVote, reaches.running, reaches.created, inTime, reaches.notFinalised, spent,
        isNullifierSpent, Except.map]
  | false =>
      refine iff_of_false ?_ (by simp [isNullifierSpent, spent])
      simp only [castVote, reaches.running, reaches.created, inTime, reaches.notFinalised, spent,
        Bool.false_eq_true, if_false]
      split
      · simp [Except.map]
      · simp [Except.map]
      · split <;> simp [Except.map]

variable (keccak256 verifyProof env) in
/-- A vote that does not get there has an outcome without it. -/
theorem reaches_or_outcome_eq (agrees : Agrees args.pollId s₁ s₂) :
    ReachesNullifierCheck s₁ env args.pollId ∨
      outcome keccak256 verifyProof (s₁, ⟨env, .castVote args⟩) =
        outcome keccak256 verifyProof (s₂, ⟨env, .castVote args⟩) := by
  by_cases running : s₁.paused = true
  · right
    simp [outcome_castVote, castVote, ← agrees.paused, running]
  by_cases created : (s₁.polls args.pollId).deadline = 0
  · right
    simp [outcome_castVote, castVote, ← agrees.paused, ← agrees.poll, running, created]
  by_cases late : (s₁.polls args.pollId).deadline < env.timestamp
  · right
    simp [outcome_castVote, castVote, ← agrees.paused, ← agrees.poll, running, created, late]
  by_cases finalised : (s₁.polls args.pollId).finalised = true
  · right
    simp [outcome_castVote, castVote, ← agrees.paused, ← agrees.poll, running, created, late,
      finalised]
  · left
    exact ⟨by simpa using running, created, Nat.le_of_not_lt late, by simpa using finalised⟩

variable (keccak256 verifyProof env) in
/-- **A vote on the poll** has the same outcome in two agreeing states exactly
when its nullifier is spent in both or in neither, provided it is asked for. -/
theorem outcome_eq_iff (agrees : Agrees args.pollId s₁ s₂) :
    outcome keccak256 verifyProof (s₁, ⟨env, .castVote args⟩) =
        outcome keccak256 verifyProof (s₂, ⟨env, .castVote args⟩) ↔
      SameSpent (s₁, ⟨env, .castVote args⟩) (s₂, ⟨env, .castVote args⟩) := by
  constructor
  · rintro same args' ⟨⟩ reaches
    have first := outcome_eq_nullifierSpent_iff keccak256 verifyProof reaches
    have second := outcome_eq_nullifierSpent_iff keccak256 verifyProof (agrees.reaches reaches)
    rw [Bool.eq_iff_iff, ← first, ← second, same]
  · intro sameSpent
    rcases reaches_or_outcome_eq keccak256 verifyProof env agrees with reaches | same
    · have spent : s₁.nullifiers args.nullifier = s₂.nullifiers args.nullifier :=
        sameSpent args rfl reaches
      rw [outcome_castVote, outcome_castVote]
      simp only [castVote, agrees.paused, agrees.poll, agrees.zkVerifier, spent]
      split; · rfl
      split; · rfl
      split; · rfl
      split; · rfl
      split; · rfl
      split
      · rfl
      · rfl
      · split <;> rfl
    · exact same

/-- Votes with the same outcome keep two agreeing states in agreement. -/
theorem Agrees.next_of_outcome (agrees : Agrees args.pollId s₁ s₂)
    (same : outcome keccak256 verifyProof (s₁, ⟨env, .castVote args⟩) =
      outcome keccak256 verifyProof (s₂, ⟨env, .castVote args⟩)) :
    Agrees args.pollId ((machine keccak256 verifyProof).next s₁ ⟨env, .castVote args⟩)
      ((machine keccak256 verifyProof).next s₂ ⟨env, .castVote args⟩) := by
  unfold outcome at same
  cases first : (machine keccak256 verifyProof).call s₁ ⟨env, .castVote args⟩ with
  | error e₁ =>
      cases second : (machine keccak256 verifyProof).call s₂ ⟨env, .castVote args⟩ with
      | error e₂ => simpa [Machine.next, first, second] using agrees
      | ok r₂ => simp [first, second, Except.map] at same
  | ok r₁ =>
      cases second : (machine keccak256 verifyProof).call s₂ ⟨env, .castVote args⟩ with
      | error e₂ => simp [first, second, Except.map] at same
      | ok r₂ =>
          obtain ⟨s₁', new₁⟩ := r₁
          obtain ⟨s₂', new₂⟩ := r₂
          rw [Machine.next_of_ok first, Machine.next_of_ok second]
          cases call_eq_ok_iff.mp first
          cases call_eq_ok_iff.mp second
          refine ⟨agrees.owner, agrees.paused, agrees.zkVerifier, ?_⟩
          simp only [recordVote, getTally, Function.update_self, agrees.poll]

end Votes

/-! ## Two runs -/

section Runs

variable {keccak256 : Bytes → Bytes32} {verifyProof : Address → ZKProofData → Option Bool}

/-- The outcomes of a run's votes on the poll, in order. -/
abbrev outcomesOn (keccak256 : Bytes → Bytes32)
    (verifyProof : Address → ZKProofData → Option Bool) (pollId : Bytes32) (s : VoteLedger)
    (txs : List Tx) : List (Except Error Unit) :=
  (votesOn keccak256 verifyProof pollId s txs).map (outcome keccak256 verifyProof)

theorem votesOn_cons_of_ne {pollId other : Bytes32} {s : VoteLedger} {tx : Tx} {txs : List Tx}
    (vote : VotesIn other tx) (different : pollId ≠ other) :
    votesOn keccak256 verifyProof pollId s (tx :: txs) =
      votesOn keccak256 verifyProof pollId ((machine keccak256 verifyProof).next s tx) txs := by
  refine if_neg ?_
  rintro ⟨args, named, rfl⟩
  obtain ⟨args', named', rfl⟩ := vote
  obtain rfl : args = args' := by simpa using named.symm.trans named'
  exact different rfl

variable (keccak256 verifyProof) in
/-- Along aligned runs from agreeing states: the votes on the poll have the same
outcomes exactly when their nullifiers fare the same, and then the final states
agree. -/
theorem outcomesOn_eq_iff {pollId other : Bytes32} (different : pollId ≠ other)
    {txs₁ txs₂ : List Tx} (aligned : AgreeExceptVotesIn other txs₁ txs₂) {s₁ s₂ : VoteLedger}
    (agrees : Agrees pollId s₁ s₂) :
    (outcomesOn keccak256 verifyProof pollId s₁ txs₁ =
        outcomesOn keccak256 verifyProof pollId s₂ txs₂ ↔
      List.Forall₂ SameSpent (votesOn keccak256 verifyProof pollId s₁ txs₁)
        (votesOn keccak256 verifyProof pollId s₂ txs₂)) ∧
      (outcomesOn keccak256 verifyProof pollId s₁ txs₁ =
          outcomesOn keccak256 verifyProof pollId s₂ txs₂ →
        Agrees pollId ((machine keccak256 verifyProof).run s₁ txs₁)
          ((machine keccak256 verifyProof).run s₂ txs₂)) := by
  induction aligned generalizing s₁ s₂ with
  | nil => exact ⟨iff_of_true rfl .nil, fun _ => agrees⟩
  | @both txs₁ txs₂ tx rest ih =>
      by_cases vote : VotesIn pollId tx
      · obtain ⟨env, call⟩ := tx
        obtain ⟨args, rfl, rfl⟩ := vote
        have vote : VotesIn args.pollId ⟨env, .castVote args⟩ := ⟨args, rfl, rfl⟩
        have head := outcome_eq_iff keccak256 verifyProof env agrees
        simp only [outcomesOn, votesOn, if_pos vote, List.map_cons, List.cons.injEq,
          List.forall₂_cons, ← head]
        constructor
        · exact and_congr_right fun same => (ih (agrees.next_of_outcome same)).1
        · rintro ⟨same, tail⟩
          exact (ih (agrees.next_of_outcome same)).2 tail
      · simp only [outcomesOn, votesOn, if_neg vote]
        exact ih (agrees.next vote)
  | left vote rest ih =>
      rw [outcomesOn, votesOn_cons_of_ne vote different]
      exact ih ((agrees_next_of_votesIn vote different).symm.trans agrees)
  | right vote rest ih =>
      rw [outcomesOn, outcomesOn, votesOn_cons_of_ne vote different]
      exact ih (agrees.trans (agrees_next_of_votesIn vote different))

variable (keccak256 verifyProof)

/-- **When polls are independent.**  Take two runs that agree on all operations
except which votes were cast on the poll `A`.  Every vote on another poll `B` has
the same outcome in both, and `B` the same tallies, if and only if at each vote
on `B` that passes the checks before the nullifier check, its nullifier is spent
in both runs or in neither. -/
theorem poll_independent_iff (owner registry verifier : Address) {A B : Bytes32}
    (different : B ≠ A) {txs₁ txs₂ : List Tx} (aligned : AgreeExceptVotesIn A txs₁ txs₂) :
    let s₀ := initialized owner registry verifier
    (outcomesOn keccak256 verifyProof B s₀ txs₁ = outcomesOn keccak256 verifyProof B s₀ txs₂ ∧
        SameTallies B ((machine keccak256 verifyProof).run s₀ txs₁)
          ((machine keccak256 verifyProof).run s₀ txs₂)) ↔
      List.Forall₂ SameSpent (votesOn keccak256 verifyProof B s₀ txs₁)
        (votesOn keccak256 verifyProof B s₀ txs₂) := by
  intro s₀
  obtain ⟨outcomes, final⟩ :=
    outcomesOn_eq_iff keccak256 verifyProof different aligned (.refl s₀ B)
  rw [← outcomes]
  exact ⟨And.left, fun same => ⟨same, (final same).sameTallies⟩⟩

end Runs

/-! ## One policy in two countries -/

/-- The country code `FR`. -/
def fr : Bytes2 := 0x4652

/-- `keccak256` on the sample strings and the sample policy in a second country. -/
def twoCountriesKeccak256 : Bytes → Bytes32 :=
  Function.update sampleKeccak256 (samplePolicyId ++ bytes2Bytes fr)
    0xb5b188cd634d5905be82e190a5c7f6041c8fb30d5ce1d2f07ab11597d3a5eb83

/-- The sample policy's poll in the second country. -/
def frPollId : Bytes32 := pollIdOf twoCountriesKeccak256 samplePolicyId fr

/-- The owner opens the sample poll and the one of the second country. -/
def twoOpenings : List Tx := [sampleOpening, ⟨⟨1, 100, 1⟩, .createPoll samplePolicyId fr 1000⟩]

/-- A vote in the second country's poll. -/
def frVote (optionHash nullifier : Bytes32) : Tx :=
  ⟨⟨2, 200, 3⟩, .castVote ⟨frPollId, optionHash, nullifier, sampleProof⟩⟩

theorem poll_independent_iff_sample :
    let s₀ := initialized 1 3 4
    outcomesOn twoCountriesKeccak256 sampleVerifyProof frPollId s₀
        (twoOpenings ++ [sampleVote 5 8, frVote 5 9]) =
      outcomesOn twoCountriesKeccak256 sampleVerifyProof frPollId s₀
        (twoOpenings ++ [frVote 5 9]) := by
  intro s₀
  have different : frPollId ≠ samplePollId := by decide
  refine ((poll_independent_iff twoCountriesKeccak256 sampleVerifyProof 1 3 4 different
    (.both _ (.both _ (.left ⟨_, rfl, rfl⟩ (.both _ .nil))))).mpr ?_).1
  refine .cons ?_ .nil
  rintro args ⟨⟩ -
  decide

/-- **A vote in one country blocks another.**  The nullifier is a hash of the
voter's secret and the policy, so it is the same in both countries' polls.  After
the vote in the first poll the one in the second is refused; without it, it is
recorded. -/
theorem vote_blocked_by_other_poll :
    let M := machine twoCountriesKeccak256 sampleVerifyProof
    let withVote := twoOpenings ++ [sampleVote 5 8, frVote 5 8]
    let without := twoOpenings ++ [frVote 5 8]
    frPollId ≠ samplePollId ∧ AgreeExceptVotesIn samplePollId withVote without ∧
      outcomesOn twoCountriesKeccak256 sampleVerifyProof frPollId (initialized 1 3 4) withVote =
        [.error .nullifierSpent] ∧
      outcomesOn twoCountriesKeccak256 sampleVerifyProof frPollId (initialized 1 3 4) without =
        [.ok ()] ∧
      (M.run (initialized 1 3 4) withVote).getTally frPollId 5 = 0 ∧
      (M.run (initialized 1 3 4) without).getTally frPollId 5 = 1 := by
  intro M withVote without
  exact ⟨by decide, .both _ (.both _ (.left ⟨_, rfl, rfl⟩ (.both _ .nil))),
    by decide, by decide, by decide, by decide⟩

end TheVoteApp.VoteLedger
