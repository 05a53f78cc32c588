import TheVoteApp.PauseGuardian.Contract

/-!
# Where the approvals of a proposal come from

The contract counts approvals in one number and remembers the approvers in one
mapping, for every id, created or not.  Both are functions of the history: an
address is recorded as an approver of `id` exactly when an accepted call of it
proposed or approved `id` (`approved_iff`), and the number is the number of
recorded approvers (`Consistent.tallied`).

The role is checked when the approval is given and never again, so an approval
survives the loss of the role.  `execute_approved_by_guardians` says what is left
of "the executed proposal is backed by guardians", and
`executed_by_one_current_guardian` what is not.
-/

namespace TheVoteApp

open Solidity Foundations

/-- The recorded approvers of a proposal. -/
def Proposal.approvers (p : Proposal) : Finset Address :=
  Finset.univ.filter fun g => p.approved g = true

@[simp] theorem Proposal.mem_approvers {p : Proposal} {g : Address} :
    g ∈ p.approvers ↔ p.approved g = true := by
  simp [Proposal.approvers]

namespace PauseGuardian

/-! ## The storage is consistent -/

/-- What holds of the storage in every reachable state: the number of approvals
is the number of approvers, an executed proposal has its quorum, and an id that
was not created yet reads as an unpause proposal. -/
structure Consistent (s : PauseGuardian) : Prop where
  positive : 0 < s.threshold
  tallied : ∀ id, (s.proposals id).approvals = (s.proposals id).approvers.card
  executed : ∀ id, (s.proposals id).executed = true → s.threshold ≤ (s.proposals id).approvals
  uncreated : ∀ id, s.proposalCount ≤ id → (s.proposals id).isPause = false

section Steps

variable {s s' : PauseGuardian} {id : ℕ} {tx : Tx} {g : Address}

theorem Deployed.consistent {guardians : List Address} {threshold : ℕ}
    (deployed : Deployed guardians threshold s) : Consistent s where
  positive := by rw [deployed.threshold_eq]; exact deployed.positive
  tallied id := by
    have none : (s.proposals id).approvers = ∅ := by
      rw [deployed.proposals_eq, Finset.eq_empty_iff_forall_notMem]
      simp [Proposal.empty]
    rw [none, deployed.proposals_eq]
    rfl
  executed id done := by
    rw [deployed.proposals_eq] at done
    cases done
  uncreated id _ := by
    rw [deployed.proposals_eq]
    rfl

/-- A new approver is one more. -/
theorem card_approvers_recordApproval (i : ℕ) (fresh : (s.proposals i).approved g = false) :
    ((recordApproval s i g).proposals id).approvers.card =
      if id = i then (s.proposals i).approvers.card + 1 else (s.proposals id).approvers.card := by
  split
  · rename_i same
    subst same
    have inserted : ((recordApproval s id g).proposals id).approvers =
        insert g (s.proposals id).approvers := by
      ext a
      simp [or_comm]
    rw [inserted, Finset.card_insert_of_notMem (by simp [fresh])]
  · rename_i other
    refine congrArg Finset.card ?_
    ext a
    simp [other]

theorem Consistent.recordApproval (held : Consistent s) (i : ℕ)
    (fresh : (s.proposals i).approved g = false) :
    Consistent (PauseGuardian.recordApproval s i g) where
  positive := held.positive
  tallied id := by
    rw [approvals_recordApproval, card_approvers_recordApproval i fresh]
    split
    · rw [held.tallied]
    · exact held.tallied id
  executed id done := by
    rw [executed_recordApproval] at done
    have quorum : s.threshold ≤ (s.proposals id).approvals := held.executed id done
    rw [approvals_recordApproval]
    split
    · rename_i same
      subst same
      exact Nat.le_succ_of_le quorum
    · exact quorum
  uncreated id new := by
    rw [isPause_recordApproval]
    exact held.uncreated id new

theorem Consistent.recordProposal (held : Consistent s) (isPause : Bool) (reason : Bytes) :
    Consistent (PauseGuardian.recordProposal s isPause reason) where
  positive := held.positive
  tallied id := by
    simp only [approvals_recordProposal, Proposal.approvers, approved_recordProposal]
    exact held.tallied id
  executed id done := by
    rw [executed_recordProposal] at done
    rw [approvals_recordProposal]
    exact held.executed id done
  uncreated id new := by
    have later : s.proposalCount < id := new
    rw [isPause_recordProposal, if_neg (Nat.ne_of_gt later)]
    exact held.uncreated id (Nat.le_of_lt later)

theorem Consistent.markExecuted (held : Consistent s) {i : ℕ}
    (quorum : s.threshold ≤ (s.proposals i).approvals) :
    Consistent (PauseGuardian.markExecuted s i) where
  positive := held.positive
  tallied id := by
    simp only [approvals_markExecuted, Proposal.approvers, approved_markExecuted]
    exact held.tallied id
  executed id done := by
    rw [approvals_markExecuted]
    rcases (executed_markExecuted s i id).mp done with earlier | rfl
    · exact held.executed id earlier
    · exact quorum
  uncreated id new := by
    rw [isPause_markExecuted]
    exact held.uncreated id new

theorem Consistent.setRole (held : Consistent s) (role : Role) (account : Address)
    (member : Bool) : Consistent (PauseGuardian.setRole s role account member) :=
  ⟨held.positive, held.tallied, held.executed, held.uncreated⟩

/-- **One step** keeps the storage consistent. -/
theorem Consistent.step (held : Consistent s) (step : Step s tx s') : Consistent s' := by
  cases step with
  | @propose env _ isPause reason guardian room checks =>
      refine (held.recordProposal isPause reason).recordApproval _ ?_
      rw [approved_recordProposal]
      exact checks.fresh
  | approve guardian kind checks => exact held.recordApproval _ checks.fresh
  | execute guardian checks => exact held.markExecuted checks.quorum
  | grantRole admin => exact held.setRole _ _ _
  | revokeRole admin => exact held.setRole _ _ _
  | renounceRole => exact held.setRole _ _ _

/-- An address approves once, so the counter cannot overflow. -/
theorem Consistent.room (held : Consistent s) (id : ℕ) :
    (s.proposals id).approvals + 1 < 2 ^ 256 := by
  have bound : (s.proposals id).approvers.card ≤ 2 ^ 160 := by
    calc (s.proposals id).approvers.card ≤ Fintype.card Address := Finset.card_le_univ _
      _ = 2 ^ 160 := card_bitVec 160
  rw [held.tallied]
  omega

/-! ## Approvals and the calls behind them -/

/-- The accepted call of the guardian `g` that proposes or approves `id`. -/
structure Approves (id : ℕ) (g : Address) (s : PauseGuardian) (tx : Tx) : Prop where
  accepted : machine.Succeeds s tx
  sender : tx.env.sender = g
  holds : s.hasRole .guardian g = true
  names : (∃ isPause reason, tx.call = .propose isPause reason ∧ s.proposalCount = id) ∨
    ∃ isPause, tx.call = .approve isPause id

/-- **One step** records an approver exactly when it is such a call. -/
theorem Step.approved_iff (step : Step s tx s') :
    (s'.proposals id).approved g = true ↔
      (s.proposals id).approved g = true ∨ Approves id g s tx := by
  have accepted : machine.Succeeds s tx := succeeds_iff.mpr ⟨s', step⟩
  cases step with
  | propose guardian room checks =>
      rw [approved_recordApproval, approved_recordProposal]
      refine or_congr_right ⟨?_, ?_⟩
      · rintro ⟨rfl, rfl⟩
        exact ⟨accepted, rfl, guardian, .inl ⟨_, _, rfl, rfl⟩⟩
      · rintro ⟨-, rfl, -, ⟨_, _, -, rfl⟩ | ⟨_, ⟨⟩⟩⟩
        exact ⟨rfl, rfl⟩
  | approve guardian kind checks =>
      rw [approved_recordApproval]
      refine or_congr_right ⟨?_, ?_⟩
      · rintro ⟨rfl, rfl⟩
        exact ⟨accepted, rfl, guardian, .inr ⟨_, rfl⟩⟩
      · rintro ⟨-, rfl, -, ⟨_, _, ⟨⟩, -⟩ | ⟨_, named⟩⟩
        simp only [Call.approve.injEq] at named
        exact ⟨named.2.symm, rfl⟩
  | execute guardian checks =>
      rw [approved_markExecuted]
      refine (or_iff_left ?_).symm
      rintro ⟨-, -, -, ⟨_, _, ⟨⟩, -⟩ | ⟨_, ⟨⟩⟩⟩
  | grantRole admin =>
      refine (or_iff_left ?_).symm
      rintro ⟨-, -, -, ⟨_, _, ⟨⟩, -⟩ | ⟨_, ⟨⟩⟩⟩
  | revokeRole admin =>
      refine (or_iff_left ?_).symm
      rintro ⟨-, -, -, ⟨_, _, ⟨⟩, -⟩ | ⟨_, ⟨⟩⟩⟩
  | renounceRole =>
      refine (or_iff_left ?_).symm
      rintro ⟨-, -, -, ⟨_, _, ⟨⟩, -⟩ | ⟨_, ⟨⟩⟩⟩

theorem Step.threshold_eq (step : Step s tx s') : s'.threshold = s.threshold := by
  cases step <;> rfl

/-- An accepted call by which `g` loses the guardian role. -/
def LosesRole (g : Address) (s : PauseGuardian) (tx : Tx) : Prop :=
  machine.Succeeds s tx ∧
    (tx.call = .revokeRole .guardian g ∨ tx.call = .renounceRole .guardian g)

/-- A guardian stays one until it loses the role. -/
theorem Step.guardian_of_not_losesRole (step : Step s tx s')
    (holds : s.hasRole .guardian g = true) (keeps : ¬ LosesRole g s tx) :
    s'.hasRole .guardian g = true := by
  have accepted : machine.Succeeds s tx := succeeds_iff.mpr ⟨s', step⟩
  cases step with
  | propose guardian room checks => exact holds
  | approve guardian kind checks => exact holds
  | execute guardian checks => exact holds
  | grantRole admin =>
      rw [hasRole_setRole]
      split
      · rfl
      · exact holds
  | revokeRole admin =>
      rw [hasRole_setRole, if_neg]
      · exact holds
      · rintro ⟨rfl, rfl⟩
        exact keeps ⟨accepted, .inl rfl⟩
  | renounceRole =>
      rw [hasRole_setRole, if_neg]
      · exact holds
      · rintro ⟨rfl, rfl⟩
        exact keeps ⟨accepted, .inr rfl⟩

end Steps

section Runs

variable {guardians : List Address} {threshold : ℕ} {s₀ : PauseGuardian}

theorem Deployed.consistent_run (deployed : Deployed guardians threshold s₀) (txs : List Tx) :
    Consistent (machine.run s₀ txs) :=
  Machine.run_invariant deployed.consistent
    (fun _ _ _ _ held success => held.step (.of_call success)) txs

theorem threshold_run (s : PauseGuardian) (txs : List Tx) :
    (machine.run s txs).threshold = s.threshold :=
  Machine.run_invariant (I := fun s' => s'.threshold = s.threshold) rfl
    (fun _ _ _ _ held success => (Step.of_call success).threshold_eq.trans held) txs

/-- **Approvers are those who approved.** -/
theorem Deployed.approved_iff (deployed : Deployed guardians threshold s₀) (txs : List Tx)
    (id : ℕ) (g : Address) :
    ((machine.run s₀ txs).proposals id).approved g = true ↔
      machine.Sometime (Approves id g) s₀ txs := by
  refine Machine.run_iff_sometime (I := fun s : PauseGuardian => (s.proposals id).approved g = true)
    ?_ (fun _ _ => Approves.accepted) ?_ txs
  · rw [deployed.proposals_eq]
    simp [Proposal.empty]
  · intro s tx s' new success
    exact (Step.of_call success).approved_iff

/-- A run in which a guardian does not lose the role leaves it a guardian. -/
theorem guardian_run {s : PauseGuardian} {g : Address} (txs : List Tx)
    (holds : s.hasRole .guardian g = true)
    (keeps : machine.Along (fun s tx => ¬ LosesRole g s tx) s txs) :
    (machine.run s txs).hasRole .guardian g = true :=
  Machine.run_invariant_along (I := fun s => s.hasRole .guardian g = true) holds
    (fun _ _ _ _ held kept success => (Step.of_call success).guardian_of_not_losesRole held kept)
    txs keeps

/-- An approving call leaves the role as it is. -/
theorem Approves.guardian_next {s : PauseGuardian} {tx : Tx} {id : ℕ} {g : Address}
    (approves : Approves id g s tx) : (machine.next s tx).hasRole .guardian g = true := by
  obtain ⟨s', step⟩ := succeeds_iff.mp approves.accepted
  rw [step.next_eq]
  refine step.guardian_of_not_losesRole approves.holds ?_
  rintro ⟨-, revoked | renounced⟩
  · rcases approves.names with ⟨_, _, named, -⟩ | ⟨_, named⟩ <;> rw [revoked] at named <;>
      cases named
  · rcases approves.names with ⟨_, _, named, -⟩ | ⟨_, named⟩ <;> rw [renounced] at named <;>
      cases named

/-- A proposal that may be executed has at least `threshold` approvers. -/
theorem Deployed.quorum_of_execute (deployed : Deployed guardians threshold s₀) {txs : List Tx}
    {caller : Env} {targetReturns isPause : Bool} {id : ℕ}
    (success : machine.Succeeds (machine.run s₀ txs) ⟨caller, targetReturns, .execute isPause id⟩) :
    MayExecute isPause (machine.run s₀ txs) id ∧
      threshold ≤ ((machine.run s₀ txs).proposals id).approvers.card := by
  obtain ⟨s', step⟩ := succeeds_iff.mp success
  cases step with
  | execute guardian checks =>
      refine ⟨checks, ?_⟩
      rw [← (deployed.consistent_run txs).tallied, ← deployed.threshold_eq, ← threshold_run s₀ txs]
      exact checks.quorum

end Runs

/-- **An executed proposal was approved by a quorum of guardians.**  Whenever
`executePause(id)` or `executeUnpause(id)` succeeds, at least `threshold`
different addresses have proposed or approved `id`, each while it held the
guardian role; each of them still holds it, or lost it afterwards. -/
theorem execute_approved_by_guardians {env : Env} {target : Address} {guardians : List Address}
    {threshold : ℕ} {s₀ : PauseGuardian} {log : List Event}
    (constructed : construct env target guardians threshold = .ok (s₀, log)) (txs : List Tx)
    (caller : Env) (targetReturns isPause : Bool) (id : ℕ)
    (success : machine.Succeeds (machine.run s₀ txs)
      ⟨caller, targetReturns, .execute isPause id⟩) :
    ∃ F : Finset Address, threshold ≤ F.card ∧ ∀ g ∈ F, ∃ done tx rest,
      txs = done ++ tx :: rest ∧ Approves id g (machine.run s₀ done) tx ∧
        ((machine.run s₀ txs).hasRole .guardian g = true ∨
          machine.Sometime (LosesRole g) (machine.run s₀ (done ++ [tx])) rest) := by
  have deployed := deployed_of_construct constructed
  refine ⟨_, (deployed.quorum_of_execute success).2, ?_⟩
  intro g mem
  have approved := (deployed.approved_iff txs id g).mp (Proposal.mem_approvers.mp mem)
  obtain ⟨done, tx, rest, rfl, approves⟩ := (Machine.sometime_iff_exists_split s₀ txs).mp approved
  refine ⟨done, tx, rest, rfl, approves, ?_⟩
  rw [Machine.run_append, Machine.run_cons, Machine.run_concat]
  by_cases lost : machine.Sometime (LosesRole g) (machine.next (machine.run s₀ done) tx) rest
  · exact .inr lost
  · have kept := (Machine.not_sometime_iff _ rest).mp lost
    exact .inl (guardian_run rest approves.guardian_next kept)

/-- One guardian proposes, the other approves. -/
def sampleApprovals : List Tx := [sampleCall 1 (.propose true []), sampleCall 2 (.approve true 0)]

theorem execute_approved_by_guardians_sample :
    ∃ F : Finset Address, 2 ≤ F.card ∧ ∀ g ∈ F, ∃ done tx rest,
      sampleApprovals = done ++ tx :: rest ∧
        Approves 0 g (machine.run (sampleDeployment [1, 2]) done) tx ∧
        ((machine.run (sampleDeployment [1, 2]) sampleApprovals).hasRole .guardian g = true ∨
          machine.Sometime (LosesRole g)
            (machine.run (sampleDeployment [1, 2]) (done ++ [tx])) rest) := by
  obtain ⟨log, constructed⟩ := construct_sample [1, 2] (by decide)
  exact execute_approved_by_guardians constructed sampleApprovals ⟨1, 100, 1⟩ true true 0
    (by decide)

/-- **A revoked guardian still counts.**  One guardian proposes, the other
approves and is revoked; the proposal is executed although only one address that
holds the role has approved it. -/
theorem executed_by_one_current_guardian :
    let s₀ := sampleDeployment [1, 2]
    let txs := sampleApprovals ++ [sampleCall 9 (.revokeRole .guardian 2)]
    (∃ log, construct ⟨9, 0, 0⟩ 77 [1, 2] 2 = .ok (s₀, log)) ∧
      machine.Succeeds (machine.run s₀ txs) (sampleCall 1 (.execute true 0)) ∧
      ¬ ∃ F : Finset Address, 2 ≤ F.card ∧ ∀ g ∈ F,
        (machine.run s₀ txs).hasRole .guardian g = true ∧
          machine.Sometime (Approves 0 g) s₀ txs := by
  intro s₀ txs
  refine ⟨construct_sample _ (by decide), by decide, ?_⟩
  rintro ⟨F, quorum, current⟩
  have onlyOne : F ⊆ {1} := by
    intro g mem
    obtain ⟨holds, approves | approves | revokes | never⟩ := current g mem
    · exact Finset.mem_singleton.mpr approves.sender.symm
    · obtain rfl : (2 : Address) = g := approves.sender
      exact absurd holds (by decide)
    · rcases revokes.names with ⟨_, _, ⟨⟩, -⟩ | ⟨_, ⟨⟩⟩
    · exact never.elim
  have := Finset.card_le_card onlyOne
  rw [Finset.card_singleton] at this
  omega

end PauseGuardian

end TheVoteApp
