import TheVoteApp.PauseGuardian.Approvals

/-!
# Approvals of proposals that do not exist yet

An id that was not created yet reads as an unpause proposal, so a guardian can
call `approveUnpause` on it, and creating the proposal later keeps the approval.
`PreApproves` is that call.  It is the only way around the M-of-N rule, and the
only way a guardian can be kept from proposing:

* without it, an executed proposal was created and has a quorum of approvals of
  its own kind, given after it was created (`execute_has_quorum`);
* a guardian's next proposal is accepted, with the proposer as its one approver,
  exactly when the next id was not approved in advance
  (`propose_creates_fresh_iff`).
-/

namespace TheVoteApp.PauseGuardian

open Solidity Foundations

/-- An accepted `approveUnpause(id)` before `id` was created. -/
def PreApproves (id : ℕ) (s : PauseGuardian) (tx : Tx) : Prop :=
  machine.Succeeds s tx ∧ tx.call = .approve false id ∧ s.proposalCount ≤ id

/-- The accepted call of the guardian `g` that creates `id` as a proposal of the
kind `isPause`, or approves it as one after it was created. -/
structure Endorses (id : ℕ) (isPause : Bool) (g : Address) (s : PauseGuardian) (tx : Tx) :
    Prop where
  accepted : machine.Succeeds s tx
  sender : tx.env.sender = g
  holds : s.hasRole .guardian g = true
  names : (∃ reason, tx.call = .propose isPause reason ∧ s.proposalCount = id) ∨
    tx.call = .approve isPause id ∧ id < s.proposalCount

/-- A created proposal has its kind for good. -/
structure CreatedAs (id : ℕ) (isPause : Bool) (s : PauseGuardian) : Prop where
  created : id < s.proposalCount
  kind : (s.proposals id).isPause = isPause

section Steps

variable {s s' : PauseGuardian} {id : ℕ} {tx : Tx} {isPause : Bool} {g : Address}

theorem CreatedAs.step (created : CreatedAs id isPause s) (step : Step s tx s') :
    CreatedAs id isPause s' := by
  cases step with
  | propose guardian room checks =>
      refine ⟨Nat.lt_succ_of_lt created.created, ?_⟩
      rw [isPause_recordApproval, isPause_recordProposal, if_neg (Nat.ne_of_lt created.created)]
      exact created.kind
  | approve guardian kind checks =>
      exact ⟨created.created, (isPause_recordApproval s _ id _).trans created.kind⟩
  | execute guardian checks =>
      exact ⟨created.created, (isPause_markExecuted s _ id).trans created.kind⟩
  | grantRole admin => exact ⟨created.created, created.kind⟩
  | revokeRole admin => exact ⟨created.created, created.kind⟩
  | renounceRole => exact ⟨created.created, created.kind⟩

theorem CreatedAs.run (created : CreatedAs id isPause s) (txs : List Tx) :
    CreatedAs id isPause (machine.run s txs) :=
  Machine.run_invariant created
    (fun _ _ _ _ held success => held.step (.of_call success)) txs

/-- An endorsement leaves a proposal of its kind. -/
theorem Endorses.createdAs (endorses : Endorses id isPause g s tx) :
    CreatedAs id isPause (machine.next s tx) := by
  obtain ⟨s', step⟩ := succeeds_iff.mp endorses.accepted
  rw [step.next_eq]
  cases step with
  | propose guardian room checks =>
      obtain ⟨reason, named, rfl⟩ | ⟨⟨⟩, -⟩ := endorses.names
      simp only [Call.propose.injEq] at named
      obtain ⟨rfl, rfl⟩ := named
      refine ⟨Nat.lt_succ_self s.proposalCount, ?_⟩
      rw [isPause_recordApproval, isPause_recordProposal, if_pos rfl]
  | approve guardian kind checks =>
      obtain ⟨reason, ⟨⟩, -⟩ | ⟨named, created⟩ := endorses.names
      simp only [Call.approve.injEq] at named
      obtain ⟨rfl, rfl⟩ := named
      exact ⟨created, (isPause_recordApproval s _ _ _).trans kind⟩
  | execute guardian checks => obtain ⟨reason, ⟨⟩, -⟩ | ⟨⟨⟩, -⟩ := endorses.names
  | grantRole admin => obtain ⟨reason, ⟨⟩, -⟩ | ⟨⟨⟩, -⟩ := endorses.names
  | revokeRole admin => obtain ⟨reason, ⟨⟩, -⟩ | ⟨⟨⟩, -⟩ := endorses.names
  | renounceRole => obtain ⟨reason, ⟨⟩, -⟩ | ⟨⟨⟩, -⟩ := endorses.names

/-- An approving call endorses the proposal as one of some kind, or pre-approves
it. -/
theorem Approves.endorses_or_preApproves (held : Consistent s) (approves : Approves id g s tx) :
    (∃ isPause, Endorses id isPause g s tx) ∨ PreApproves id s tx := by
  obtain ⟨accepted, sender, holds, ⟨isPause, reason, named, next⟩ | ⟨isPause, named⟩⟩ := approves
  · exact .inl ⟨isPause, accepted, sender, holds, .inl ⟨reason, named, next⟩⟩
  · by_cases created : id < s.proposalCount
    · exact .inl ⟨isPause, accepted, sender, holds, .inr ⟨named, created⟩⟩
    · -- an id that does not exist can only be approved as an unpause proposal
      have uncreated := Nat.le_of_not_lt created
      obtain ⟨env, targetReturns, call⟩ := tx
      obtain rfl : call = .approve isPause id := named
      obtain ⟨s', step⟩ := succeeds_iff.mp accepted
      cases step with
      | approve guardian kind checks =>
          have isUnpause := held.uncreated id uncreated
          exact .inr ⟨accepted, by rw [← kind, isUnpause], uncreated⟩

end Steps

section Runs

variable {guardians : List Address} {threshold : ℕ} {s₀ : PauseGuardian}

/-- A recorded approver endorsed the proposal, which then has the kind it was
endorsed as, or pre-approved it. -/
theorem Deployed.endorsed_of_approved (deployed : Deployed guardians threshold s₀)
    {txs : List Tx} {id : ℕ} {g : Address}
    (approved : ((machine.run s₀ txs).proposals id).approved g = true) :
    (∃ isPause, CreatedAs id isPause (machine.run s₀ txs) ∧
        machine.Sometime (Endorses id isPause g) s₀ txs) ∨
      machine.Sometime (PreApproves id) s₀ txs := by
  obtain ⟨done, tx, rest, rfl, approves⟩ :=
    (Machine.sometime_iff_exists_split s₀ txs).mp ((deployed.approved_iff txs id g).mp approved)
  rcases approves.endorses_or_preApproves (deployed.consistent_run done) with
    ⟨isPause, endorses⟩ | preApproves
  · refine .inl ⟨isPause, ?_, ?_⟩
    · rw [Machine.run_append, Machine.run_cons]
      exact endorses.createdAs.run rest
    · exact (Machine.sometime_iff_exists_split s₀ _).mpr ⟨done, tx, rest, rfl, endorses⟩
  · exact .inr ((Machine.sometime_iff_exists_split s₀ _).mpr ⟨done, tx, rest, rfl, preApproves⟩)

end Runs

/-! ## Executed proposals -/

/-- **M-of-N, for proposals nobody approved in advance.**  In a run without an
accepted `approveUnpause(id)` before `id` was created, whenever
`executePause(id)` or `executeUnpause(id)` succeeds, `id` was created and at
least `threshold` different guardians have created it as, or since then approved
it as, a proposal of that kind. -/
theorem execute_has_quorum {env : Env} {target : Address} {guardians : List Address}
    {threshold : ℕ} {s₀ : PauseGuardian} {log : List Event}
    (constructed : construct env target guardians threshold = .ok (s₀, log)) (txs : List Tx)
    (caller : Env) (targetReturns isPause : Bool) (id : ℕ)
    (noneInAdvance : machine.Along (fun s tx => ¬ PreApproves id s tx) s₀ txs)
    (success : machine.Succeeds (machine.run s₀ txs)
      ⟨caller, targetReturns, .execute isPause id⟩) :
    id < (machine.run s₀ txs).proposalCount ∧
      ∃ F : Finset Address, threshold ≤ F.card ∧
        ∀ g ∈ F, machine.Sometime (Endorses id isPause g) s₀ txs := by
  have deployed := deployed_of_construct constructed
  obtain ⟨checks, quorum⟩ := deployed.quorum_of_execute success
  have endorsed : ∀ g ∈ ((machine.run s₀ txs).proposals id).approvers,
      CreatedAs id isPause (machine.run s₀ txs) ∧
        machine.Sometime (Endorses id isPause g) s₀ txs := by
    intro g mem
    rcases deployed.endorsed_of_approved (Proposal.mem_approvers.mp mem) with
      ⟨kind, created, endorses⟩ | preApproved
    · obtain rfl : kind = isPause := created.kind.symm.trans checks.kind
      exact ⟨created, endorses⟩
    · exact absurd preApproved ((Machine.not_sometime_iff s₀ txs).mpr noneInAdvance)
  have nonempty : 0 < ((machine.run s₀ txs).proposals id).approvers.card :=
    lt_of_lt_of_le deployed.positive quorum
  obtain ⟨g, mem⟩ := Finset.card_pos.mp nonempty
  exact ⟨(endorsed g mem).1.created, _, quorum, fun g mem => (endorsed g mem).2⟩

theorem execute_has_quorum_sample :
    let s := machine.run (sampleDeployment [1, 2]) sampleApprovals
    0 < s.proposalCount ∧ ∃ F : Finset Address, 2 ≤ F.card ∧
      ∀ g ∈ F, machine.Sometime (Endorses 0 true g) (sampleDeployment [1, 2]) sampleApprovals := by
  obtain ⟨log, constructed⟩ := construct_sample [1, 2] (by decide)
  refine execute_has_quorum constructed sampleApprovals ⟨1, 100, 1⟩ true true 0 ?_
    (by decide)
  refine ⟨?_, ?_, trivial⟩
  · rintro ⟨-, ⟨⟩, -⟩
  · rintro ⟨-, ⟨⟩, -⟩

/-- **One guardian can pause.**  With a threshold of two, a proposal is executed
that only its proposer endorsed: another guardian called `approveUnpause` on its
id beforehand.  An id that was never created can be executed as well. -/
theorem executed_without_quorum :
    let s₀ := sampleDeployment [1, 2]
    let crossed := [sampleCall 1 (.approve false 0), sampleCall 2 (.propose true [])]
    let uncreated := [sampleCall 1 (.approve false 0), sampleCall 2 (.approve false 0)]
    (∃ log, construct ⟨9, 0, 0⟩ 77 [1, 2] 2 = .ok (s₀, log)) ∧
      (machine.Succeeds (machine.run s₀ crossed) (sampleCall 2 (.execute true 0)) ∧
        ¬ ∃ F : Finset Address, 2 ≤ F.card ∧
          ∀ g ∈ F, machine.Sometime (Endorses 0 true g) s₀ crossed) ∧
      machine.Succeeds (machine.run s₀ uncreated) (sampleCall 1 (.execute false 0)) ∧
        ¬ 0 < (machine.run s₀ uncreated).proposalCount := by
  intro s₀ crossed uncreated
  refine ⟨construct_sample _ (by decide), ⟨by decide, ?_⟩, by decide,
    by decide⟩
  rintro ⟨F, quorum, endorsed⟩
  have onlyOne : F ⊆ {2} := by
    intro g mem
    obtain early | endorses | never := endorsed g mem
    · obtain ⟨reason, ⟨⟩, -⟩ | ⟨⟨⟩, -⟩ := early.names
    · exact Finset.mem_singleton.mpr endorses.sender.symm
    · exact never.elim
  have := Finset.card_le_card onlyOne
  rw [Finset.card_singleton] at this
  omega

/-! ## New proposals -/

/-- The call adds a proposal of the kind `isPause`, not executed and with `g` as
its one approver. -/
structure CreatesFresh (isPause : Bool) (reason : Bytes) (g : Address) (s s' : PauseGuardian) :
    Prop where
  count : s'.proposalCount = s.proposalCount + 1
  kind : (s'.proposals s.proposalCount).isPause = isPause
  reason : (s'.proposals s.proposalCount).reason = reason
  executed : (s'.proposals s.proposalCount).executed = false
  approvals : (s'.proposals s.proposalCount).approvals = 1
  approver : ∀ a, (s'.proposals s.proposalCount).approved a = true ↔ a = g

/-- An id without approvers is as good as new. -/
theorem Consistent.mayApprove {s : PauseGuardian} (held : Consistent s) {id : ℕ}
    (untouched : (s.proposals id).approvers = ∅) (g : Address) :
    (s.proposals id).approvals = 0 ∧ MayApprove (s.proposals id) g := by
  have none : (s.proposals id).approvals = 0 := by
    rw [held.tallied, untouched, Finset.card_empty]
  refine ⟨none, ?_, ?_, held.room id⟩
  · -- an executed proposal has a quorum, and a quorum is not empty
    by_contra executed
    have quorum := held.executed id (by simpa using executed)
    have positive := held.positive
    omega
  · by_contra approved
    have mem : g ∈ (s.proposals id).approvers :=
      Proposal.mem_approvers.mpr (by simpa using approved)
    rw [untouched] at mem
    exact absurd mem (Finset.notMem_empty g)

/-- Proposing under an id without approvers. -/
theorem creates_fresh_of_untouched {s : PauseGuardian} (held : Consistent s) (caller : Env)
    (guardian : s.hasRole .guardian caller.sender = true)
    (room : s.proposalCount + 1 < 2 ^ 256)
    (untouched : (s.proposals s.proposalCount).approvers = ∅) (targetReturns isPause : Bool)
    (reason : Bytes) :
    ∃ s', Step s ⟨caller, targetReturns, .propose isPause reason⟩ s' ∧
      CreatesFresh isPause reason caller.sender s s' := by
  obtain ⟨none, checks⟩ := held.mayApprove untouched caller.sender
  refine ⟨_, .propose guardian room checks, rfl, by simp, by simp, ?_, by simp [none], ?_⟩
  · rw [executed_recordApproval, executed_recordProposal]
    exact checks.pending
  · intro a
    have notYet : ¬ (s.proposals s.proposalCount).approved a = true := by
      rw [← Proposal.mem_approvers, untouched]
      exact Finset.notMem_empty a
    rw [approved_recordApproval, approved_recordProposal]
    simp [notYet]

/-- A fresh proposal has no other approver, so its id had none before. -/
theorem untouched_of_createsFresh {s s' : PauseGuardian} {caller : Env}
    {targetReturns isPause : Bool} {reason : Bytes}
    (step : Step s ⟨caller, targetReturns, .propose isPause reason⟩ s')
    (fresh : CreatesFresh isPause reason caller.sender s s') :
    (s.proposals s.proposalCount).approvers = ∅ := by
  cases step with
  | propose guardian room checks =>
      rw [Finset.eq_empty_iff_forall_notMem]
      intro g mem
      -- approvers stay, so an earlier one would be the proposer
      have approved := Proposal.mem_approvers.mp mem
      have proposer : g = caller.sender := by
        refine (fresh.approver g).mp ?_
        rw [approved_recordApproval, approved_recordProposal]
        exact .inl approved
      have notYet := checks.fresh
      rw [← proposer, approved] at notYet
      cases notYet

/-- An approval in advance is an approval. -/
theorem PreApproves.approves {s : PauseGuardian} {tx : Tx} {id : ℕ}
    (preApproves : PreApproves id s tx) : Approves id tx.env.sender s tx := by
  obtain ⟨accepted, named, -⟩ := preApproves
  obtain ⟨s', step⟩ := succeeds_iff.mp accepted
  refine ⟨accepted, rfl, ?_, .inr ⟨false, named⟩⟩
  cases step with
  | approve guardian kind checks => exact guardian
  | propose guardian room checks => cases named
  | execute guardian checks => cases named
  | grantRole admin => cases named
  | revokeRole admin => cases named
  | renounceRole => cases named

/-- The next id has no approvers exactly when nobody approved it in advance. -/
theorem Deployed.untouched_iff {guardians : List Address} {threshold : ℕ} {s₀ : PauseGuardian}
    (deployed : Deployed guardians threshold s₀) (txs : List Tx) :
    ((machine.run s₀ txs).proposals (machine.run s₀ txs).proposalCount).approvers = ∅ ↔
      ¬ machine.Sometime (PreApproves (machine.run s₀ txs).proposalCount) s₀ txs := by
  rw [Finset.eq_empty_iff_forall_notMem]
  constructor
  · intro untouched preApproved
    obtain ⟨done, tx, rest, split, preApproves⟩ :=
      (Machine.sometime_iff_exists_split s₀ txs).mp preApproved
    have approved := (Machine.sometime_iff_exists_split s₀ txs).mpr
      ⟨done, tx, rest, split, preApproves.approves⟩
    exact untouched tx.env.sender
      (Proposal.mem_approvers.mpr ((deployed.approved_iff txs _ _).mpr approved))
  · intro noneInAdvance g mem
    rcases deployed.endorsed_of_approved (Proposal.mem_approvers.mp mem) with
      ⟨kind, created, -⟩ | preApproved
    · -- the next id is not created
      exact absurd created.created (Nat.lt_irrefl _)
    · exact noneInAdvance preApproved

/-- **When a guardian can propose.**  In every reachable state, for every holder
of the guardian role and either kind, the proposal call succeeds and creates a
fresh proposal with the proposer as its one approver, if and only if no
`approveUnpause` for the next id was accepted before and the next id is not the
last `uint256`. -/
theorem propose_creates_fresh_iff {env : Env} {target : Address} {guardians : List Address}
    {threshold : ℕ} {s₀ : PauseGuardian} {log : List Event}
    (constructed : construct env target guardians threshold = .ok (s₀, log)) (txs : List Tx)
    (caller : Env) (guardian : (machine.run s₀ txs).hasRole .guardian caller.sender = true)
    (targetReturns isPause : Bool) (reason : Bytes) :
    (∃ s' new, machine.call (machine.run s₀ txs)
        ⟨caller, targetReturns, .propose isPause reason⟩ = .ok (s', new) ∧
        CreatesFresh isPause reason caller.sender (machine.run s₀ txs) s') ↔
      ¬ machine.Sometime (PreApproves (machine.run s₀ txs).proposalCount) s₀ txs ∧
        (machine.run s₀ txs).proposalCount + 1 < 2 ^ 256 := by
  have deployed := deployed_of_construct constructed
  rw [← deployed.untouched_iff txs]
  constructor
  · rintro ⟨s', new, success, fresh⟩
    have step := Step.of_call success
    refine ⟨untouched_of_createsFresh step fresh, ?_⟩
    cases step with
    | propose guardian room checks => exact room
  · rintro ⟨untouched, room⟩
    obtain ⟨s', step, fresh⟩ := creates_fresh_of_untouched (deployed.consistent_run txs) caller
      guardian room untouched targetReturns isPause reason
    obtain ⟨new, success⟩ := exists_call_eq_ok_iff.mpr step
    exact ⟨s', new, success, fresh⟩

theorem propose_creates_fresh_iff_sample :
    ∃ s' new, machine.call (machine.run (sampleDeployment [1, 2]) sampleApprovals)
        (sampleCall 2 (.propose false [])) = .ok (s', new) ∧
      CreatesFresh false [] 2 (machine.run (sampleDeployment [1, 2]) sampleApprovals) s' := by
  obtain ⟨log, constructed⟩ := construct_sample [1, 2] (by decide)
  have next : (machine.run (sampleDeployment [1, 2]) sampleApprovals).proposalCount = 1 := by
    decide
  refine (propose_creates_fresh_iff constructed sampleApprovals ⟨2, 100, 1⟩ (by decide)
    true false []).mpr ⟨?_, by rw [next]; norm_num⟩
  rintro (⟨-, ⟨⟩, -⟩ | ⟨-, ⟨⟩, -⟩ | never)
  exact never

/-- **The guardians can be kept from proposing.**  A guardian that approved the
next id in advance cannot propose; once a quorum has approved and executed it,
no guardian can, for either kind. -/
theorem propose_reverts_after_preApproval :
    let s₀ := sampleDeployment [1, 2]
    let approved := [sampleCall 1 (.approve false 0)]
    let jammed := approved ++ [sampleCall 2 (.approve false 0), sampleCall 1 (.execute false 0)]
    (∃ log, construct ⟨9, 0, 0⟩ 77 [1, 2] 2 = .ok (s₀, log)) ∧
      (machine.run s₀ approved).hasRole .guardian 1 = true ∧
      ¬ machine.Succeeds (machine.run s₀ approved) (sampleCall 1 (.propose true [])) ∧
      ∀ isPause, ¬ machine.Succeeds (machine.run s₀ jammed) (sampleCall 1 (.propose isPause [])) ∧
        ¬ machine.Succeeds (machine.run s₀ jammed) (sampleCall 2 (.propose isPause [])) := by
  intro s₀ approved jammed
  exact ⟨construct_sample _ (by decide), by decide, by decide, by decide⟩

end TheVoteApp.PauseGuardian
