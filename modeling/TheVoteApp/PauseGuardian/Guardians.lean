import TheVoteApp.PauseGuardian.Quorum

/-!
# The guardian set and the threshold

The constructor compares the threshold with the length of the guardian array,
and keeps that length as `guardianCount`.  Approvals are given by addresses, and
an address that stands in the array twice approves once.  So the threshold can
be met exactly when the array has that many *different* entries, and
`guardianCount` is the number of role holders exactly as long as the array had
no duplicate and the role did not change (`threshold_reachable_iff`).
-/

namespace TheVoteApp.PauseGuardian

open Solidity Foundations

/-- The addresses that hold the guardian role. -/
def holders (s : PauseGuardian) : Finset Address :=
  Finset.univ.filter fun a => s.hasRole .guardian a = true

@[simp] theorem mem_holders {s : PauseGuardian} {a : Address} :
    a ∈ s.holders ↔ s.hasRole .guardian a = true := by
  simp [holders]

theorem Deployed.holders_eq {guardians : List Address} {threshold : ℕ} {s : PauseGuardian}
    (deployed : Deployed guardians threshold s) : s.holders = guardians.toFinset := by
  ext a
  rw [mem_holders, List.mem_toFinset]
  exact deployed.guardian_iff a

/-! ## Role changes and the stored count -/

/-- A call that changes who holds the guardian role: the admin grants it to
somebody new or revokes it from a holder, or a holder renounces it. -/
def ChangesGuardians (s : PauseGuardian) (tx : Tx) : Prop :=
  (∃ a, tx.call = .grantRole .guardian a ∧ s.hasRole .defaultAdmin tx.env.sender = true ∧
      s.hasRole .guardian a = false) ∨
    (∃ a, tx.call = .revokeRole .guardian a ∧ s.hasRole .defaultAdmin tx.env.sender = true ∧
      s.hasRole .guardian a = true) ∨
    tx.call = .renounceRole .guardian tx.env.sender ∧ s.hasRole .guardian tx.env.sender = true

section Roles

variable {s s' : PauseGuardian} {tx : Tx} {role : Role} {a : Address}

theorem holders_setRole_of_ne (other : role ≠ .guardian) (member : Bool) :
    (setRole s role a member).holders = s.holders := by
  ext g
  rw [mem_holders, mem_holders, hasRole_setRole, if_neg]
  rintro ⟨rfl, -⟩
  exact other rfl

theorem holders_grant : (setRole s .guardian a true).holders = insert a s.holders := by
  ext g
  rw [mem_holders, Finset.mem_insert, mem_holders, hasRole_setRole]
  by_cases same : g = a <;> simp [same]

theorem holders_revoke : (setRole s .guardian a false).holders = s.holders.erase a := by
  ext g
  rw [mem_holders, Finset.mem_erase, mem_holders, hasRole_setRole]
  by_cases same : g = a <;> simp [same]

/-- Granting the role leaves the number of holders exactly when the account holds
it already. -/
theorem card_holders_grant :
    (setRole s .guardian a true).holders.card = s.holders.card ↔ s.hasRole .guardian a = true := by
  rw [holders_grant]
  by_cases holds : a ∈ s.holders
  · simp [Finset.insert_eq_of_mem holds, mem_holders.mp holds]
  · rw [Finset.card_insert_of_notMem holds]
    simp [mt mem_holders.mpr holds]

/-- Taking the role away leaves the number of holders exactly when the account
does not hold it. -/
theorem card_holders_revoke :
    (setRole s .guardian a false).holders.card = s.holders.card ↔
      ¬ s.hasRole .guardian a = true := by
  rw [holders_revoke]
  by_cases holds : a ∈ s.holders
  · rw [Finset.card_erase_of_mem holds]
    have positive : 0 < s.holders.card := Finset.card_pos.mpr ⟨a, holds⟩
    simp only [mem_holders.mp holds, not_true_eq_false, iff_false]
    omega
  · simp [mt mem_holders.mpr holds]

/-- **One step** keeps the number of guardians exactly when it does not change
who they are. -/
theorem Step.card_holders_iff (step : Step s tx s') :
    s'.holders.card = s.holders.card ↔ ¬ ChangesGuardians s tx := by
  cases step with
  | propose guardian room checks =>
      -- the roles stay as they are
      refine iff_of_true rfl ?_
      rintro (⟨_, ⟨⟩, -⟩ | ⟨_, ⟨⟩, -⟩ | ⟨⟨⟩, -⟩)
  | approve guardian kind checks =>
      refine iff_of_true rfl ?_
      rintro (⟨_, ⟨⟩, -⟩ | ⟨_, ⟨⟩, -⟩ | ⟨⟨⟩, -⟩)
  | execute guardian checks =>
      refine iff_of_true rfl ?_
      rintro (⟨_, ⟨⟩, -⟩ | ⟨_, ⟨⟩, -⟩ | ⟨⟨⟩, -⟩)
  | @grantRole env _ role account admin =>
      by_cases guardianRole : role = .guardian
      · subst guardianRole
        rw [card_holders_grant]
        simp [ChangesGuardians, admin]
      · refine iff_of_true (by rw [holders_setRole_of_ne guardianRole]) ?_
        rintro (⟨_, ⟨⟩, -⟩ | ⟨_, ⟨⟩, -⟩ | ⟨⟨⟩, -⟩)
        exact guardianRole rfl
  | @revokeRole env _ role account admin =>
      by_cases guardianRole : role = .guardian
      · subst guardianRole
        rw [card_holders_revoke]
        simp [ChangesGuardians, admin]
      · refine iff_of_true (by rw [holders_setRole_of_ne guardianRole]) ?_
        rintro (⟨_, ⟨⟩, -⟩ | ⟨_, ⟨⟩, -⟩ | ⟨⟨⟩, -⟩)
        exact guardianRole rfl
  | @renounceRole env _ role =>
      by_cases guardianRole : role = .guardian
      · subst guardianRole
        rw [card_holders_revoke]
        simp [ChangesGuardians]
      · refine iff_of_true (by rw [holders_setRole_of_ne guardianRole]) ?_
        rintro (⟨_, ⟨⟩, -⟩ | ⟨_, ⟨⟩, -⟩ | ⟨⟨⟩, -⟩)
        exact guardianRole rfl

theorem Step.guardianCount_eq (step : Step s tx s') : s'.guardianCount = s.guardianCount := by
  cases step <;> rfl

/-- A call that changes the guardians does not revert. -/
theorem ChangesGuardians.succeeds (changes : ChangesGuardians s tx) : machine.Succeeds s tx := by
  obtain ⟨env, targetReturns, call⟩ := tx
  rw [succeeds_iff]
  rcases changes with ⟨a, rfl, admin, -⟩ | ⟨a, rfl, admin, -⟩ | ⟨named, -⟩
  · exact ⟨_, .grantRole admin⟩
  · exact ⟨_, .revokeRole admin⟩
  · obtain rfl : call = .renounceRole .guardian env.sender := named
    exact ⟨_, .renounceRole⟩

theorem guardianCount_next (s : PauseGuardian) (tx : Tx) :
    (machine.next s tx).guardianCount = s.guardianCount := by
  by_cases succeeds : machine.Succeeds s tx
  · obtain ⟨s', step⟩ := succeeds_iff.mp succeeds
    rw [step.next_eq]
    exact step.guardianCount_eq
  · rw [Machine.next_of_not_succeeds succeeds]

theorem card_holders_next_iff (s : PauseGuardian) (tx : Tx) :
    (machine.next s tx).holders.card = s.holders.card ↔ ¬ ChangesGuardians s tx := by
  by_cases succeeds : machine.Succeeds s tx
  · obtain ⟨s', step⟩ := succeeds_iff.mp succeeds
    rw [step.next_eq]
    exact step.card_holders_iff
  · rw [Machine.next_of_not_succeeds succeeds]
    exact iff_of_true rfl fun changes => succeeds changes.succeeds

/-- The stored count is the number of holders all along a run exactly when it is
at the start and no step changes the guardians. -/
theorem counts_holders_iff (s : PauseGuardian) (txs : List Tx) :
    (∀ done rest, txs = done ++ rest →
        (machine.run s done).guardianCount = (machine.run s done).holders.card) ↔
      s.guardianCount = s.holders.card ∧
        machine.Along (fun s tx => ¬ ChangesGuardians s tx) s txs := by
  refine Machine.forall_run_iff_along (V := fun _ _ => True) (I := fun _ => True)
    (G := fun s => s.guardianCount = s.holders.card) trivial ?_ (fun _ _ _ _ _ => trivial) txs
    (Machine.along_of_forall_mem (fun _ _ => trivial) s)
  intro s tx _ _ counts
  have kept : (machine.next s tx).guardianCount = s.holders.card :=
    (guardianCount_next s tx).trans counts
  exact (eq_comm.trans (Eq.congr_right kept)).trans (card_holders_next_iff s tx)

end Roles

/-! ## Executing a pause -/

/-- A call of one of the contract's own functions; the others are the inherited
role functions. -/
def IsGuardianCall : Call → Prop
  | .propose _ _ | .approve _ _ | .execute _ _ => True
  | .grantRole _ _ | .revokeRole _ _ | .renounceRole _ _ => False

/-- Some sequence of proposals, approvals and executions executes a pause. -/
def PauseReachable (s : PauseGuardian) : Prop :=
  ∃ txs caller id, (∀ tx ∈ txs, IsGuardianCall tx.call) ∧
    machine.Succeeds (machine.run s txs) ⟨caller, true, .execute true id⟩

/-- The approval of the pause proposal `id` by `g`. -/
def approvalBy (id : ℕ) (g : Address) : Tx := ⟨⟨g, 0, 0⟩, true, .approve true id⟩

section Sequences

variable {s s' : PauseGuardian} {tx : Tx}

theorem Step.hasRole_eq (step : Step s tx s') (own : IsGuardianCall tx.call) :
    s'.hasRole = s.hasRole := by
  cases step with
  | propose guardian room checks => rfl
  | approve guardian kind checks => rfl
  | execute guardian checks => rfl
  | grantRole admin => exact own.elim
  | revokeRole admin => exact own.elim
  | renounceRole => exact own.elim

/-- The guardians' own calls leave the roles alone. -/
theorem hasRole_run {txs : List Tx} (own : ∀ tx ∈ txs, IsGuardianCall tx.call) :
    (machine.run s txs).hasRole = s.hasRole := by
  refine Machine.run_invariant_along (I := fun s' => s'.hasRole = s.hasRole) rfl ?_ txs
    (Machine.along_of_forall_mem own s)
  intro s' tx s'' new held own success
  exact ((Step.of_call success).hasRole_eq own).trans held

/-- **Collecting approvals.**  When every guardian of a list without duplicates
approves a pending pause proposal, the approvals go up by its length. -/
theorem approvals_after_all (held : Consistent s) {id : ℕ}
    (kind : (s.proposals id).isPause = true) (pending : (s.proposals id).executed = false)
    {l : List Address} (distinct : l.Nodup) (guardians : ∀ g ∈ l, s.hasRole .guardian g = true)
    (notYet : ∀ g ∈ l, (s.proposals id).approved g = false) :
    let s' := machine.run s (l.map (approvalBy id))
    (s'.proposals id).isPause = true ∧ (s'.proposals id).executed = false ∧
      (s'.proposals id).approvals = (s.proposals id).approvals + l.length := by
  induction l generalizing s with
  | nil => exact ⟨kind, pending, rfl⟩
  | cons g l ih =>
      obtain ⟨others, distinct⟩ := List.nodup_cons.mp distinct
      have fresh : (s.proposals id).approved g = false := notYet g List.mem_cons_self
      have step : Step s (approvalBy id g) (recordApproval s id g) :=
        .approve (guardians g List.mem_cons_self) kind ⟨pending, fresh, held.room id⟩
      rw [List.map_cons, Machine.run_cons, step.next_eq]
      obtain ⟨kind', pending', counted⟩ := ih (s := recordApproval s id g)
        (held.recordApproval id fresh)
        (by rw [isPause_recordApproval]; exact kind)
        (by rw [executed_recordApproval]; exact pending) distinct
        (fun g' mem => guardians g' (List.mem_cons_of_mem g mem)) (by
          intro g' mem
          have other : g' ≠ g := by
            rintro rfl
            exact others mem
          have earlier := notYet g' (List.mem_cons_of_mem g mem)
          rw [← Bool.not_eq_true, approved_recordApproval]
          simp [earlier, other])
      refine ⟨kind', pending', ?_⟩
      rw [counted, approvals_recordApproval, if_pos rfl, List.length_cons]
      omega

/-- When nobody has approved the next id, enough guardians can execute a pause: the
first proposes, the others approve, the first executes. -/
theorem pauseReachable_of_guardians (held : Consistent s) (room : s.proposalCount + 1 < 2 ^ 256)
    (untouched : (s.proposals s.proposalCount).approvers = ∅) {g₀ : Address} {rest : List Address}
    (distinct : (g₀ :: rest).Nodup) (holds : ∀ g ∈ g₀ :: rest, s.hasRole .guardian g = true)
    (enough : s.threshold ≤ rest.length + 1) : PauseReachable s := by
  obtain ⟨others, distinct⟩ := List.nodup_cons.mp distinct
  -- the times of the calls do not matter
  let proposer : Env := ⟨g₀, 0, 0⟩
  let approvals := rest.map (approvalBy s.proposalCount)
  obtain ⟨s₁, step, fresh⟩ := creates_fresh_of_untouched held proposer
    (holds g₀ List.mem_cons_self) room untouched true true []
  have roles : s₁.hasRole = s.hasRole := step.hasRole_eq trivial
  have notYet : ∀ g ∈ rest, (s₁.proposals s.proposalCount).approved g = false := by
    intro g mem
    have other : g ≠ g₀ := by
      rintro rfl
      exact others mem
    simpa using mt (fresh.approver g).mp other
  obtain ⟨kind, pending, counted⟩ := approvals_after_all (held.step step) fresh.kind fresh.executed
    distinct (fun g mem => roles ▸ holds g (List.mem_cons_of_mem g₀ mem)) notYet
  have run : machine.run s (⟨proposer, true, .propose true []⟩ :: approvals) =
      machine.run s₁ approvals := by
    rw [Machine.run_cons, step.next_eq]
  have own : ∀ tx ∈ (⟨proposer, true, .propose true []⟩ : Tx) :: approvals,
      IsGuardianCall tx.call := by
    intro tx mem
    rcases List.mem_cons.mp mem with rfl | mem
    · trivial
    · obtain ⟨g, -, rfl⟩ := List.mem_map.mp mem
      trivial
  refine ⟨_, proposer, s.proposalCount, own, succeeds_iff.mpr ⟨_, .execute ?_ ⟨?_, ?_, ?_⟩⟩⟩
  · rw [hasRole_run own]
    exact holds g₀ List.mem_cons_self
  · rw [run]
    exact pending
  · rw [run]
    exact kind
  · rw [threshold_run, run, counted, fresh.approvals]
    omega

end Sequences

section Deployment

variable {guardians : List Address} {threshold : ℕ} {s₀ : PauseGuardian}

/-- The guardians can execute a pause when enough of them are different. -/
theorem Deployed.pauseReachable (deployed : Deployed guardians threshold s₀)
    (enough : threshold ≤ guardians.toFinset.card) : PauseReachable s₀ := by
  rw [List.card_toFinset] at enough
  cases different : guardians.dedup with
  | nil =>
      -- the threshold is at least one
      have positive := deployed.positive
      rw [different, List.length_nil] at enough
      omega
  | cons g₀ rest =>
      refine pauseReachable_of_guardians deployed.consistent ?_ ?_
        (different ▸ List.nodup_dedup guardians) ?_ ?_
      · rw [deployed.proposalCount_eq]
        norm_num
      · rw [deployed.proposals_eq, Finset.eq_empty_iff_forall_notMem]
        simp [Proposal.empty]
      · intro g mem
        rw [← different, List.mem_dedup] at mem
        exact (deployed.guardian_iff g).mpr mem
      · rw [deployed.threshold_eq]
        rwa [different, List.length_cons] at enough

/-- A pause is within reach of the guardians exactly when the array has at least
`threshold` different entries. -/
theorem Deployed.pauseReachable_iff (deployed : Deployed guardians threshold s₀) :
    PauseReachable s₀ ↔ threshold ≤ guardians.toFinset.card := by
  constructor
  · rintro ⟨txs, caller, id, own, success⟩
    refine (deployed.quorum_of_execute success).2.trans (Finset.card_le_card ?_)
    intro g mem
    -- whoever approved held the role, and the role never changed
    obtain ⟨done, tx, rest, rfl, approves⟩ := (Machine.sometime_iff_exists_split s₀ txs).mp
      ((deployed.approved_iff txs id g).mp (Proposal.mem_approvers.mp mem))
    have holds := approves.holds
    rw [hasRole_run fun tx mem => own tx (List.mem_append_left _ mem)] at holds
    exact List.mem_toFinset.mpr ((deployed.guardian_iff g).mp holds)
  · exact deployed.pauseReachable

end Deployment

/-- **When the threshold is reachable and the count right.**  For every accepted
constructor call: at least `threshold` addresses hold the guardian role, and the
guardians can execute a pause, if and only if the array has at least `threshold`
different entries.  Along any run, `guardianCount` is the number of role holders
in every state if and only if the array has no duplicates and no call of the run
changes who holds the role. -/
theorem threshold_reachable_iff {env : Env} {target : Address} {guardians : List Address}
    {threshold : ℕ} {s₀ : PauseGuardian} {log : List Event}
    (constructed : construct env target guardians threshold = .ok (s₀, log)) (txs : List Tx) :
    (threshold ≤ s₀.holders.card ↔ threshold ≤ guardians.toFinset.card) ∧
      (PauseReachable s₀ ↔ threshold ≤ guardians.toFinset.card) ∧
      ((∀ done rest, txs = done ++ rest →
          (machine.run s₀ done).guardianCount = (machine.run s₀ done).holders.card) ↔
        guardians.Nodup ∧ machine.Along (fun s tx => ¬ ChangesGuardians s tx) s₀ txs) := by
  have deployed := deployed_of_construct constructed
  have start : s₀.guardianCount = s₀.holders.card ↔ guardians.Nodup := by
    rw [deployed.guardianCount_eq, deployed.holders_eq, eq_comm]
    exact Multiset.toFinset_card_eq_card_iff_nodup (m := (guardians : Multiset Address))
  refine ⟨by rw [deployed.holders_eq], deployed.pauseReachable_iff, ?_⟩
  rw [counts_holders_iff, start]

theorem threshold_reachable_iff_sample :
    (∀ done rest, sampleApprovals = done ++ rest →
        (machine.run (sampleDeployment [1, 2]) done).guardianCount =
          (machine.run (sampleDeployment [1, 2]) done).holders.card) ∧
      PauseReachable (sampleDeployment [1, 2]) := by
  obtain ⟨log, constructed⟩ := construct_sample [1, 2] (by decide)
  obtain ⟨-, reachable, counts⟩ := threshold_reachable_iff constructed sampleApprovals
  refine ⟨counts.mpr ⟨by decide, ?_, ?_, trivial⟩, reachable.mpr (by decide)⟩
  · rintro (⟨_, ⟨⟩, -⟩ | ⟨_, ⟨⟩, -⟩ | ⟨⟨⟩, -⟩)
  · rintro (⟨_, ⟨⟩, -⟩ | ⟨_, ⟨⟩, -⟩ | ⟨⟨⟩, -⟩)

/-- **A threshold out of reach.**  An array that names one guardian twice passes
the check for a threshold of two; nobody can execute a pause, and the count is
wrong.  Without duplicates, the count is wrong after a revocation. -/
theorem threshold_unreachable :
    let twice := sampleDeployment [1, 1]
    let twoGuardians := sampleDeployment [1, 2]
    ((∃ log, construct ⟨9, 0, 0⟩ 77 [1, 1] 2 = .ok (twice, log)) ∧
        ¬ 2 ≤ twice.holders.card ∧ ¬ PauseReachable twice ∧
        twice.guardianCount ≠ twice.holders.card) ∧
      (∃ log, construct ⟨9, 0, 0⟩ 77 [1, 2] 2 = .ok (twoGuardians, log)) ∧
        (machine.run twoGuardians [sampleCall 9 (.revokeRole .guardian 2)]).guardianCount ≠
          (machine.run twoGuardians [sampleCall 9 (.revokeRole .guardian 2)]).holders.card := by
  intro twice twoGuardians
  obtain ⟨log, constructed⟩ := construct_sample [1, 1] (by decide)
  obtain ⟨log', constructed'⟩ := construct_sample [1, 2] (by decide)
  have deployed : Deployed [1, 1] 2 twice := deployed_of_construct constructed
  have deployed' : Deployed [1, 2] 2 twoGuardians := deployed_of_construct constructed'
  have single : twice.holders.card = 1 := by
    rw [deployed.holders_eq]
    decide
  refine ⟨⟨⟨log, constructed⟩, by omega, ?_, ?_⟩, ⟨log', constructed'⟩, ?_⟩
  · rw [deployed.pauseReachable_iff]
    decide
  · rw [single, deployed.guardianCount_eq]
    decide
  · have changes : ChangesGuardians twoGuardians (sampleCall 9 (.revokeRole .guardian 2)) :=
      .inr (.inl ⟨2, rfl, by decide, by decide⟩)
    show (machine.next twoGuardians (sampleCall 9 (.revokeRole .guardian 2))).guardianCount ≠
      (machine.next twoGuardians (sampleCall 9 (.revokeRole .guardian 2))).holders.card
    rw [guardianCount_next, deployed'.guardianCount_eq]
    intro counted
    refine (card_holders_next_iff _ _).mp ?_ changes
    rw [← counted, deployed'.holders_eq]
    decide

end TheVoteApp.PauseGuardian
