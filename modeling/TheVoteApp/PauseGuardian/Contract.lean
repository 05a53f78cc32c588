import TheVoteApp.Solidity.Basic

/-!
# The pause guardian contract

`PauseGuardian.sol`, as a reverting machine: an M-of-N multisig whose executed
proposals pause and unpause a target contract.

## Main definitions

* `PauseGuardian` — the contract's storage
* `construct` — the constructor, which may revert
* `proposePause`, `approvePause`, `executePause`, their three unpause
  counterparts and the inherited role functions — the external functions
* `machine` — the contract as a `Machine` over its transactions

## Design notes

The functions come in pairs that differ in the kind of proposal they are about,
so each pair is one definition with the kind as a parameter.

The target is another contract.  Whether its `pause()` or `unpause()` returns or
reverts is part of the transaction (`Tx.targetReturns`); it calls nothing back.
-/

namespace TheVoteApp

open Solidity Foundations

/-- A pause (`isPause`) or unpause proposal. -/
structure Proposal where
  isPause : Bool
  reason : Bytes
  approvals : ℕ
  executed : Bool
  approved : Address → Bool

/-- A proposal's storage before anything is written to it. -/
def Proposal.empty : Proposal where
  isPause := false
  reason := []
  approvals := 0
  executed := false
  approved := fun _ => false

namespace PauseGuardian

/-- The roles of the contract's access control; no function asks for another
role than the first two. -/
inductive Role where
  | defaultAdmin
  | guardian
  | other (role : Bytes32)
deriving DecidableEq

/-- The events of the contract. -/
inductive Event where
  | proposalCreated (id : ℕ) (isPause : Bool) (proposer : Address) (reason : Bytes)
  | proposalApproved (id : ℕ) (guardian : Address)
  | proposalExecuted (id : ℕ) (isPause : Bool)
  | roleGranted (role : Role) (account sender : Address)
  | roleRevoked (role : Role) (account sender : Address)
deriving DecidableEq

/-- What a call reverts with. -/
inductive Error where
  | alreadyApproved
  | alreadyExecuted
  | thresholdNotMet
  | reason (message : String)
  | accessControlUnauthorizedAccount (account : Address) (neededRole : Role)
  | accessControlBadConfirmation
  | arithmeticPanic
  | targetReverted
deriving DecidableEq

end PauseGuardian

open PauseGuardian in
/-- The storage of the contract. -/
structure PauseGuardian where
  hasRole : Role → Address → Bool
  target : Address
  threshold : ℕ
  guardianCount : ℕ
  proposalCount : ℕ
  proposals : ℕ → Proposal

namespace PauseGuardian

/-! ## Roles -/

/-- The storage after `account` gets or loses `role`. -/
def setRole (s : PauseGuardian) (role : Role) (account : Address) (member : Bool) :
    PauseGuardian :=
  { s with
    hasRole := Function.update s.hasRole role (Function.update (s.hasRole role) account member) }

/-- The inherited `_grantRole`. -/
def grant (s : PauseGuardian) (env : Env) (role : Role) (account : Address) :
    PauseGuardian × List Event :=
  (setRole s role account true,
    if s.hasRole role account then [] else [.roleGranted role account env.sender])

/-- The inherited `_revokeRole`. -/
def revoke (s : PauseGuardian) (env : Env) (role : Role) (account : Address) :
    PauseGuardian × List Event :=
  (setRole s role account false,
    if s.hasRole role account then [.roleRevoked role account env.sender] else [])

/-- The inherited `grantRole`: every role is administered by the default admin. -/
def grantRole (s : PauseGuardian) (env : Env) (role : Role) (account : Address) :
    Except Error (PauseGuardian × List Event) :=
  if !s.hasRole .defaultAdmin env.sender then
    .error (.accessControlUnauthorizedAccount env.sender .defaultAdmin)
  else .ok (grant s env role account)

/-- The inherited `revokeRole`. -/
def revokeRole (s : PauseGuardian) (env : Env) (role : Role) (account : Address) :
    Except Error (PauseGuardian × List Event) :=
  if !s.hasRole .defaultAdmin env.sender then
    .error (.accessControlUnauthorizedAccount env.sender .defaultAdmin)
  else .ok (revoke s env role account)

/-- The inherited `renounceRole`. -/
def renounceRole (s : PauseGuardian) (env : Env) (role : Role) (callerConfirmation : Address) :
    Except Error (PauseGuardian × List Event) :=
  if callerConfirmation ≠ env.sender then .error .accessControlBadConfirmation
  else .ok (revoke s env role callerConfirmation)

/-! ## The constructor -/

/-- The storage before the constructor writes its first role. -/
def blank (target : Address) (threshold : ℕ) : PauseGuardian where
  hasRole _ _ := false
  target := target
  threshold := threshold
  guardianCount := 0
  proposalCount := 0
  proposals _ := .empty

/-- The loop of the constructor: the guardian role for every entry of the array. -/
def grantGuardians (env : Env) (guardians : List Address) (r : PauseGuardian × List Event) :
    PauseGuardian × List Event :=
  guardians.foldl (fun r account =>
    let granted := grant r.1 env .guardian account
    (granted.1, r.2 ++ granted.2)) r

/-- The constructor. -/
def construct (env : Env) (target : Address) (guardians : List Address) (threshold : ℕ) :
    Except Error (PauseGuardian × List Event) :=
  if 0 < threshold ∧ threshold ≤ guardians.length then
    let deployed := grant (blank target threshold) env .defaultAdmin env.sender
    let granted := grantGuardians env guardians deployed
    .ok ({ granted.1 with guardianCount := guardians.length }, granted.2)
  else .error (.reason "Invalid threshold")

/-! ## Proposals -/

/-- `_createProposal`; the id is the count before the call. -/
def createProposal (s : PauseGuardian) (env : Env) (isPause : Bool) (reason : Bytes) :
    Except Error (PauseGuardian × ℕ × List Event) :=
  let id := s.proposalCount
  match checkedIncrement s.proposalCount with
  | none => .error .arithmeticPanic
  | some proposalCount =>
    .ok ({ s with
        proposalCount := proposalCount
        proposals := Function.update s.proposals id
          { s.proposals id with isPause := isPause, reason := reason } },
      id, [.proposalCreated id isPause env.sender reason])

/-- `_approve`. -/
def approveProposal (s : PauseGuardian) (env : Env) (id : ℕ) :
    Except Error (PauseGuardian × List Event) :=
  let p := s.proposals id
  if p.executed then .error .alreadyExecuted
  else if p.approved env.sender then .error .alreadyApproved
  else match checkedIncrement p.approvals with
    | none => .error .arithmeticPanic
    | some approvals =>
      .ok ({ s with
          proposals := Function.update s.proposals id
            { p with
              approved := Function.update p.approved env.sender true
              approvals := approvals } },
        [.proposalApproved id env.sender])

/-- The modifier `onlyRole(GUARDIAN_ROLE)`. -/
def onlyGuardian {α : Type} (s : PauseGuardian) (env : Env) (body : Except Error α) :
    Except Error α :=
  if !s.hasRole .guardian env.sender then
    .error (.accessControlUnauthorizedAccount env.sender .guardian)
  else body

/-- The message for a proposal of the other kind. -/
def wrongKind (isPause : Bool) : Error :=
  .reason (if isPause then "Not a pause proposal" else "Not an unpause proposal")

/-- `proposePause` and `proposeUnpause`. -/
def propose (isPause : Bool) (s : PauseGuardian) (env : Env) (reason : Bytes) :
    Except Error (PauseGuardian × List Event) :=
  onlyGuardian s env do
    let (s₁, id, created) ← createProposal s env isPause reason
    let (s₂, approved) ← approveProposal s₁ env id
    return (s₂, created ++ approved)

/-- `approvePause` and `approveUnpause`. -/
def approve (isPause : Bool) (s : PauseGuardian) (env : Env) (id : ℕ) :
    Except Error (PauseGuardian × List Event) :=
  onlyGuardian s env <|
    if (s.proposals id).isPause ≠ isPause then .error (wrongKind isPause)
    else approveProposal s env id

/-- `executePause` and `executeUnpause`.  A target that reverts undoes the call. -/
def execute (isPause : Bool) (s : PauseGuardian) (env : Env) (targetReturns : Bool) (id : ℕ) :
    Except Error (PauseGuardian × List Event) :=
  onlyGuardian s env <|
    let p := s.proposals id
    if p.executed then .error .alreadyExecuted
    else if p.isPause ≠ isPause then .error (wrongKind isPause)
    else if p.approvals < s.threshold then .error .thresholdNotMet
    else if !targetReturns then .error .targetReverted
    else
      .ok ({ s with proposals := Function.update s.proposals id { p with executed := true } },
        [.proposalExecuted id isPause])

/-- `proposePause`. -/
def proposePause := propose true
/-- `approvePause`. -/
def approvePause := approve true
/-- `executePause`. -/
def executePause := execute true
/-- `proposeUnpause`. -/
def proposeUnpause := propose false
/-- `approveUnpause`. -/
def approveUnpause := approve false
/-- `executeUnpause`. -/
def executeUnpause := execute false

/-! ## Views -/

/-- `getApprovals`. -/
def getApprovals (s : PauseGuardian) (id : ℕ) : ℕ := (s.proposals id).approvals

/-- `hasApproved`. -/
def hasApproved (s : PauseGuardian) (id : ℕ) (guardian : Address) : Bool :=
  (s.proposals id).approved guardian

/-! ## The machine -/

/-- A call of one of the external functions. -/
inductive Call where
  | propose (isPause : Bool) (reason : Bytes)
  | approve (isPause : Bool) (id : ℕ)
  | execute (isPause : Bool) (id : ℕ)
  | grantRole (role : Role) (account : Address)
  | revokeRole (role : Role) (account : Address)
  | renounceRole (role : Role) (callerConfirmation : Address)
deriving DecidableEq

/-- A call with the environment it executes in. -/
structure Tx where
  env : Env
  /-- whether the target's `pause()` or `unpause()` returns, if the call reaches it -/
  targetReturns : Bool
  call : Call

/-- The contract, as the machine its transactions drive. -/
def machine : Machine PauseGuardian Tx Event Error where
  call s tx :=
    match tx.call with
    | .propose true reason => proposePause s tx.env reason
    | .propose false reason => proposeUnpause s tx.env reason
    | .approve true id => approvePause s tx.env id
    | .approve false id => approveUnpause s tx.env id
    | .execute true id => executePause s tx.env tx.targetReturns id
    | .execute false id => executeUnpause s tx.env tx.targetReturns id
    | .grantRole role account => grantRole s tx.env role account
    | .revokeRole role account => revokeRole s tx.env role account
    | .renounceRole role callerConfirmation => renounceRole s tx.env role callerConfirmation

/-! ## What each function does -/

/-- The storage `_createProposal` leaves. -/
def recordProposal (s : PauseGuardian) (isPause : Bool) (reason : Bytes) : PauseGuardian :=
  { s with
    proposalCount := s.proposalCount + 1
    proposals := Function.update s.proposals s.proposalCount
      { s.proposals s.proposalCount with isPause := isPause, reason := reason } }

/-- The storage `_approve` leaves. -/
def recordApproval (s : PauseGuardian) (id : ℕ) (guardian : Address) : PauseGuardian :=
  { s with
    proposals := Function.update s.proposals id
      { s.proposals id with
        approved := Function.update (s.proposals id).approved guardian true
        approvals := (s.proposals id).approvals + 1 } }

/-- The storage an execution leaves. -/
def markExecuted (s : PauseGuardian) (id : ℕ) : PauseGuardian :=
  { s with proposals := Function.update s.proposals id { s.proposals id with executed := true } }

/-- The checks of `_approve`. -/
structure MayApprove (p : Proposal) (guardian : Address) : Prop where
  pending : p.executed = false
  fresh : p.approved guardian = false
  room : p.approvals + 1 < 2 ^ 256

/-- The checks of `executePause` and `executeUnpause`. -/
structure MayExecute (isPause : Bool) (s : PauseGuardian) (id : ℕ) : Prop where
  pending : (s.proposals id).executed = false
  kind : (s.proposals id).isPause = isPause
  quorum : s.threshold ≤ (s.proposals id).approvals

section Specifications

variable {s s' : PauseGuardian} {env : Env} {new : List Event} {isPause : Bool} {id : ℕ}

theorem approveProposal_eq_ok_iff :
    approveProposal s env id = .ok (s', new) ↔
      MayApprove (s.proposals id) env.sender ∧ s' = recordApproval s id env.sender ∧
        new = [.proposalApproved id env.sender] := by
  constructor
  · intro success
    unfold approveProposal at success
    dsimp only at success
    split at success; · cases success
    split at success; · cases success
    split at success; · cases success
    rename_i pending fresh _ approvals counted
    obtain ⟨room, rfl⟩ := checkedIncrement_eq_some_iff.mp counted
    obtain ⟨rfl, rfl⟩ := Prod.mk.inj (Except.ok.inj success)
    exact ⟨⟨by simpa using pending, by simpa using fresh, room⟩, rfl, rfl⟩
  · rintro ⟨checks, rfl, rfl⟩
    have counted := checkedIncrement_eq_some_iff.mpr ⟨checks.room, rfl⟩
    unfold approveProposal
    dsimp only
    rw [if_neg (by simp [checks.pending]), if_neg (by simp [checks.fresh]), counted]
    rfl

theorem createProposal_eq_ok_iff {reason : Bytes} {r : PauseGuardian × ℕ × List Event} :
    createProposal s env isPause reason = .ok r ↔
      s.proposalCount + 1 < 2 ^ 256 ∧
        r = (recordProposal s isPause reason, s.proposalCount,
          [.proposalCreated s.proposalCount isPause env.sender reason]) := by
  constructor
  · intro success
    unfold createProposal at success
    dsimp only at success
    split at success; · cases success
    rename_i proposalCount counted
    obtain ⟨room, rfl⟩ := checkedIncrement_eq_some_iff.mp counted
    exact ⟨room, (Except.ok.inj success).symm⟩
  · rintro ⟨room, rfl⟩
    have counted := checkedIncrement_eq_some_iff.mpr ⟨room, rfl⟩
    unfold createProposal
    dsimp only
    rw [counted]
    rfl

/-- A guarded body succeeds for a guardian only, with the result of the body. -/
theorem onlyGuardian_eq_ok_iff {α : Type} {body : Except Error α} {r : α} :
    onlyGuardian s env body = .ok r ↔ s.hasRole .guardian env.sender = true ∧ body = .ok r := by
  cases holds : s.hasRole .guardian env.sender <;> simp [onlyGuardian, holds]

/-- **`proposePause`, `proposeUnpause`.**  The approval checks read the record
the id already has. -/
theorem propose_eq_ok_iff {reason : Bytes} :
    propose isPause s env reason = .ok (s', new) ↔
      s.hasRole .guardian env.sender = true ∧ s.proposalCount + 1 < 2 ^ 256 ∧
        MayApprove (s.proposals s.proposalCount) env.sender ∧
        s' = recordApproval (recordProposal s isPause reason) s.proposalCount env.sender ∧
        new = [.proposalCreated s.proposalCount isPause env.sender reason,
          .proposalApproved s.proposalCount env.sender] := by
  unfold propose
  rw [onlyGuardian_eq_ok_iff]
  refine and_congr_right fun _ => ?_
  have sameChecks : MayApprove ((recordProposal s isPause reason).proposals s.proposalCount)
      env.sender ↔ MayApprove (s.proposals s.proposalCount) env.sender := by
    simp only [recordProposal, Function.update_self]
    exact ⟨fun checks => ⟨checks.pending, checks.fresh, checks.room⟩,
      fun checks => ⟨checks.pending, checks.fresh, checks.room⟩⟩
  constructor
  · intro success
    obtain ⟨r, created, success⟩ := bind_eq_ok_iff.mp success
    obtain ⟨room, rfl⟩ := createProposal_eq_ok_iff.mp created
    obtain ⟨⟨s₂, log⟩, approved, stored⟩ := bind_eq_ok_iff.mp success
    obtain ⟨checks, rfl, rfl⟩ := approveProposal_eq_ok_iff.mp approved
    obtain ⟨rfl, rfl⟩ := Prod.mk.inj (Except.ok.inj stored)
    exact ⟨room, sameChecks.mp checks, rfl, rfl⟩
  · rintro ⟨room, checks, rfl, rfl⟩
    refine bind_eq_ok_iff.mpr ⟨_, createProposal_eq_ok_iff.mpr ⟨room, rfl⟩, ?_⟩
    exact bind_eq_ok_iff.mpr
      ⟨_, approveProposal_eq_ok_iff.mpr ⟨sameChecks.mpr checks, rfl, rfl⟩, rfl⟩

/-- **`approvePause`, `approveUnpause`.** -/
theorem approve_eq_ok_iff :
    approve isPause s env id = .ok (s', new) ↔
      s.hasRole .guardian env.sender = true ∧ (s.proposals id).isPause = isPause ∧
        MayApprove (s.proposals id) env.sender ∧ s' = recordApproval s id env.sender ∧
        new = [.proposalApproved id env.sender] := by
  unfold approve
  rw [onlyGuardian_eq_ok_iff]
  refine and_congr_right fun _ => ?_
  by_cases kind : (s.proposals id).isPause = isPause
  · simp only [kind, ne_eq, not_true_eq_false, if_false, true_and, approveProposal_eq_ok_iff]
  · simp [kind]

/-- **`executePause`, `executeUnpause`.** -/
theorem execute_eq_ok_iff {targetReturns : Bool} :
    execute isPause s env targetReturns id = .ok (s', new) ↔
      s.hasRole .guardian env.sender = true ∧ MayExecute isPause s id ∧ targetReturns = true ∧
        s' = markExecuted s id ∧ new = [.proposalExecuted id isPause] := by
  unfold execute
  rw [onlyGuardian_eq_ok_iff]
  refine and_congr_right fun _ => ?_
  constructor
  · intro success
    dsimp only at success
    split at success; · cases success
    split at success; · cases success
    split at success; · cases success
    split at success; · cases success
    rename_i pending kind quorum returned
    obtain ⟨rfl, rfl⟩ := Prod.mk.inj (Except.ok.inj success)
    exact ⟨⟨by simpa using pending, by simpa using kind, Nat.le_of_not_lt quorum⟩,
      by simpa using returned, rfl, rfl⟩
  · rintro ⟨checks, rfl, rfl, rfl⟩
    dsimp only
    rw [if_neg (by simp [checks.pending]), if_neg (not_not.mpr checks.kind),
      if_neg (Nat.not_lt.mpr checks.quorum), if_neg (by simp)]
    rfl

theorem grantRole_eq_ok_iff {role : Role} {account : Address} :
    grantRole s env role account = .ok (s', new) ↔
      s.hasRole .defaultAdmin env.sender = true ∧ (s', new) = grant s env role account := by
  cases admin : s.hasRole .defaultAdmin env.sender <;> simp [grantRole, admin, eq_comm]

theorem revokeRole_eq_ok_iff {role : Role} {account : Address} :
    revokeRole s env role account = .ok (s', new) ↔
      s.hasRole .defaultAdmin env.sender = true ∧ (s', new) = revoke s env role account := by
  cases admin : s.hasRole .defaultAdmin env.sender <;> simp [revokeRole, admin, eq_comm]

theorem renounceRole_eq_ok_iff {role : Role} {callerConfirmation : Address} :
    renounceRole s env role callerConfirmation = .ok (s', new) ↔
      callerConfirmation = env.sender ∧ (s', new) = revoke s env role callerConfirmation := by
  by_cases confirmed : callerConfirmation = env.sender
  · simp [renounceRole, confirmed, eq_comm]
  · simp [renounceRole, confirmed]

end Specifications

/-- **What a successful transaction does**, and what it checks. -/
inductive Step (s : PauseGuardian) : Tx → PauseGuardian → Prop where
  | propose {env : Env} {targetReturns isPause : Bool} {reason : Bytes}
      (guardian : s.hasRole .guardian env.sender = true)
      (room : s.proposalCount + 1 < 2 ^ 256)
      (checks : MayApprove (s.proposals s.proposalCount) env.sender) :
      Step s ⟨env, targetReturns, .propose isPause reason⟩
        (recordApproval (recordProposal s isPause reason) s.proposalCount env.sender)
  | approve {env : Env} {targetReturns isPause : Bool} {id : ℕ}
      (guardian : s.hasRole .guardian env.sender = true)
      (kind : (s.proposals id).isPause = isPause)
      (checks : MayApprove (s.proposals id) env.sender) :
      Step s ⟨env, targetReturns, .approve isPause id⟩ (recordApproval s id env.sender)
  | execute {env : Env} {isPause : Bool} {id : ℕ}
      (guardian : s.hasRole .guardian env.sender = true) (checks : MayExecute isPause s id) :
      Step s ⟨env, true, .execute isPause id⟩ (markExecuted s id)
  | grantRole {env : Env} {targetReturns : Bool} {role : Role} {account : Address}
      (admin : s.hasRole .defaultAdmin env.sender = true) :
      Step s ⟨env, targetReturns, .grantRole role account⟩ (setRole s role account true)
  | revokeRole {env : Env} {targetReturns : Bool} {role : Role} {account : Address}
      (admin : s.hasRole .defaultAdmin env.sender = true) :
      Step s ⟨env, targetReturns, .revokeRole role account⟩ (setRole s role account false)
  | renounceRole {env : Env} {targetReturns : Bool} {role : Role} :
      Step s ⟨env, targetReturns, .renounceRole role env.sender⟩ (setRole s role env.sender false)

section Dispatch

variable (s : PauseGuardian) (env : Env) (targetReturns isPause : Bool)

theorem call_propose (reason : Bytes) :
    machine.call s ⟨env, targetReturns, .propose isPause reason⟩ =
      propose isPause s env reason := by
  cases isPause <;> rfl

theorem call_approve (id : ℕ) :
    machine.call s ⟨env, targetReturns, .approve isPause id⟩ = approve isPause s env id := by
  cases isPause <;> rfl

theorem call_execute (id : ℕ) :
    machine.call s ⟨env, targetReturns, .execute isPause id⟩ =
      execute isPause s env targetReturns id := by
  cases isPause <;> rfl

end Dispatch

/-- A transaction succeeds exactly when it is one of these. -/
theorem exists_call_eq_ok_iff {s s' : PauseGuardian} {tx : Tx} :
    (∃ new, machine.call s tx = .ok (s', new)) ↔ Step s tx s' := by
  obtain ⟨env, targetReturns, call⟩ := tx
  constructor
  · rintro ⟨new, success⟩
    cases call with
    | propose isPause reason =>
        rw [call_propose] at success
        obtain ⟨guardian, room, checks, rfl, -⟩ := propose_eq_ok_iff.mp success
        exact .propose guardian room checks
    | approve isPause id =>
        rw [call_approve] at success
        obtain ⟨guardian, kind, checks, rfl, -⟩ := approve_eq_ok_iff.mp success
        exact .approve guardian kind checks
    | execute isPause id =>
        rw [call_execute] at success
        obtain ⟨guardian, checks, rfl, rfl, -⟩ := execute_eq_ok_iff.mp success
        exact .execute guardian checks
    | grantRole role account =>
        obtain ⟨admin, stored⟩ := grantRole_eq_ok_iff.mp success
        obtain ⟨rfl, -⟩ := Prod.mk.inj stored
        exact .grantRole admin
    | revokeRole role account =>
        obtain ⟨admin, stored⟩ := revokeRole_eq_ok_iff.mp success
        obtain ⟨rfl, -⟩ := Prod.mk.inj stored
        exact .revokeRole admin
    | renounceRole role callerConfirmation =>
        obtain ⟨confirmed, stored⟩ := renounceRole_eq_ok_iff.mp success
        obtain rfl : callerConfirmation = env.sender := confirmed
        obtain ⟨rfl, -⟩ := Prod.mk.inj stored
        exact .renounceRole
  · intro step
    cases step with
    | propose guardian room checks =>
        rw [call_propose]
        exact ⟨_, propose_eq_ok_iff.mpr ⟨guardian, room, checks, rfl, rfl⟩⟩
    | approve guardian kind checks =>
        rw [call_approve]
        exact ⟨_, approve_eq_ok_iff.mpr ⟨guardian, kind, checks, rfl, rfl⟩⟩
    | execute guardian checks =>
        rw [call_execute]
        exact ⟨_, execute_eq_ok_iff.mpr ⟨guardian, checks, rfl, rfl, rfl⟩⟩
    | grantRole admin => exact ⟨_, grantRole_eq_ok_iff.mpr ⟨admin, rfl⟩⟩
    | revokeRole admin => exact ⟨_, revokeRole_eq_ok_iff.mpr ⟨admin, rfl⟩⟩
    | renounceRole => exact ⟨_, renounceRole_eq_ok_iff.mpr ⟨rfl, rfl⟩⟩

theorem Step.of_call {s s' : PauseGuardian} {tx : Tx} {new : List Event}
    (success : machine.call s tx = .ok (s', new)) : Step s tx s' :=
  exists_call_eq_ok_iff.mp ⟨new, success⟩

theorem succeeds_iff {s : PauseGuardian} {tx : Tx} :
    machine.Succeeds s tx ↔ ∃ s', Step s tx s' := by
  constructor
  · rintro ⟨⟨s', new⟩, success⟩
    exact ⟨s', .of_call success⟩
  · rintro ⟨s', step⟩
    obtain ⟨new, success⟩ := exists_call_eq_ok_iff.mpr step
    exact ⟨_, success⟩

/-- A step is the one the machine takes. -/
theorem Step.next_eq {s s' : PauseGuardian} {tx : Tx} (step : Step s tx s') :
    machine.next s tx = s' := by
  obtain ⟨new, success⟩ := exists_call_eq_ok_iff.mpr step
  exact Machine.next_of_ok success

/-! ## What each storage update leaves -/

section Updates

variable (s : PauseGuardian) (isPause : Bool) (reason : Bytes) (i id : ℕ) (g a : Address)

theorem hasRole_setRole (role r : Role) (member : Bool) :
    (setRole s role g member).hasRole r a =
      if r = role ∧ a = g then member else s.hasRole r a := by
  by_cases sameRole : r = role
  · subst sameRole
    by_cases sameAccount : a = g
    · subst sameAccount
      simp [setRole]
    · simp [setRole, sameAccount]
  · simp [setRole, sameRole]

/-- A field of the proposal `id` after the proposal `i` was rewritten. -/
theorem field_update {α : Type} (field : Proposal → α) {proposals : ℕ → Proposal} {p : Proposal} :
    field (Function.update proposals i p id) =
      if id = i then field p else field (proposals id) := by
  by_cases same : id = i
  · subst same
    simp
  · simp [same]

@[simp] theorem approved_recordApproval :
    ((recordApproval s i g).proposals id).approved a = true ↔
      (s.proposals id).approved a = true ∨ (id = i ∧ a = g) := by
  show (Function.update s.proposals i _ id).approved a = true ↔ _
  rw [field_update i id (fun p => p.approved a)]
  by_cases same : id = i
  · subst same
    by_cases sender : a = g
    · subst sender
      simp
    · simp [sender]
  · simp [same]

@[simp] theorem approvals_recordApproval :
    ((recordApproval s i g).proposals id).approvals =
      if id = i then (s.proposals i).approvals + 1 else (s.proposals id).approvals :=
  field_update i id Proposal.approvals

@[simp] theorem executed_recordApproval :
    ((recordApproval s i g).proposals id).executed = (s.proposals id).executed := by
  refine (field_update i id Proposal.executed).trans ?_
  split <;> simp [*]

@[simp] theorem isPause_recordApproval :
    ((recordApproval s i g).proposals id).isPause = (s.proposals id).isPause := by
  refine (field_update i id Proposal.isPause).trans ?_
  split <;> simp [*]

@[simp] theorem reason_recordApproval :
    ((recordApproval s i g).proposals id).reason = (s.proposals id).reason := by
  refine (field_update i id Proposal.reason).trans ?_
  split <;> simp [*]

@[simp] theorem approved_recordProposal :
    ((recordProposal s isPause reason).proposals id).approved = (s.proposals id).approved := by
  refine (field_update s.proposalCount id Proposal.approved).trans ?_
  split <;> simp [*]

@[simp] theorem approvals_recordProposal :
    ((recordProposal s isPause reason).proposals id).approvals = (s.proposals id).approvals := by
  refine (field_update s.proposalCount id Proposal.approvals).trans ?_
  split <;> simp [*]

@[simp] theorem executed_recordProposal :
    ((recordProposal s isPause reason).proposals id).executed = (s.proposals id).executed := by
  refine (field_update s.proposalCount id Proposal.executed).trans ?_
  split <;> simp [*]

@[simp] theorem isPause_recordProposal :
    ((recordProposal s isPause reason).proposals id).isPause =
      if id = s.proposalCount then isPause else (s.proposals id).isPause :=
  field_update s.proposalCount id Proposal.isPause

@[simp] theorem reason_recordProposal :
    ((recordProposal s isPause reason).proposals id).reason =
      if id = s.proposalCount then reason else (s.proposals id).reason :=
  field_update s.proposalCount id Proposal.reason

@[simp] theorem approved_markExecuted :
    ((markExecuted s i).proposals id).approved = (s.proposals id).approved := by
  refine (field_update i id Proposal.approved).trans ?_
  split <;> simp [*]

@[simp] theorem approvals_markExecuted :
    ((markExecuted s i).proposals id).approvals = (s.proposals id).approvals := by
  refine (field_update i id Proposal.approvals).trans ?_
  split <;> simp [*]

@[simp] theorem isPause_markExecuted :
    ((markExecuted s i).proposals id).isPause = (s.proposals id).isPause := by
  refine (field_update i id Proposal.isPause).trans ?_
  split <;> simp [*]

@[simp] theorem executed_markExecuted :
    ((markExecuted s i).proposals id).executed = true ↔
      (s.proposals id).executed = true ∨ id = i := by
  show (Function.update s.proposals i _ id).executed = true ↔ _
  rw [field_update i id Proposal.executed]
  by_cases same : id = i <;> simp [same]

end Updates

/-! ## What the constructor leaves -/

/-- The storage an accepted constructor call leaves. -/
structure Deployed (guardians : List Address) (threshold : ℕ) (s : PauseGuardian) : Prop where
  positive : 0 < threshold
  bounded : threshold ≤ guardians.length
  threshold_eq : s.threshold = threshold
  guardianCount_eq : s.guardianCount = guardians.length
  proposalCount_eq : s.proposalCount = 0
  proposals_eq : ∀ id, s.proposals id = .empty
  guardian_iff : ∀ a, s.hasRole .guardian a = true ↔ a ∈ guardians

/-- The loop of the constructor adds the array's entries to the role. -/
theorem grantGuardians_fst (env : Env) (guardians : List Address)
    (r : PauseGuardian × List Event) :
    (∀ a, (grantGuardians env guardians r).1.hasRole .guardian a = true ↔
        r.1.hasRole .guardian a = true ∨ a ∈ guardians) ∧
      ∃ hasRole, (grantGuardians env guardians r).1 = { r.1 with hasRole := hasRole } := by
  induction guardians generalizing r with
  | nil => exact ⟨fun a => by simp [grantGuardians], r.1.hasRole, rfl⟩
  | cons account guardians ih =>
      let granted := grant r.1 env .guardian account
      obtain ⟨members, hasRole, rest⟩ := ih (granted.1, r.2 ++ granted.2)
      refine ⟨fun a => ?_, hasRole, rest⟩
      have first : granted.1.hasRole .guardian a = true ↔
          r.1.hasRole .guardian a = true ∨ a = account := by
        show (setRole r.1 .guardian account true).hasRole .guardian a = true ↔ _
        rw [hasRole_setRole]
        by_cases same : a = account <;> simp [same]
      rw [List.mem_cons, ← or_assoc, ← first]
      exact members a

theorem deployed_of_construct {env : Env} {target : Address} {guardians : List Address}
    {threshold : ℕ} {s : PauseGuardian} {log : List Event}
    (constructed : construct env target guardians threshold = .ok (s, log)) :
    Deployed guardians threshold s := by
  unfold construct at constructed
  split at constructed
  · rename_i accepted
    obtain ⟨rfl, -⟩ := Prod.mk.inj (Except.ok.inj constructed)
    obtain ⟨members, hasRole, stored⟩ := grantGuardians_fst env guardians
      (grant (blank target threshold) env .defaultAdmin env.sender)
    refine ⟨accepted.1, accepted.2, ?_, rfl, ?_, ?_, fun a => ?_⟩
    · rw [stored]
      rfl
    · rw [stored]
      rfl
    · rw [stored]
      intro id
      rfl
    · refine (members a).trans (or_iff_right ?_)
      show ¬ (setRole (blank target threshold) .defaultAdmin env.sender true).hasRole .guardian a =
        true
      rw [hasRole_setRole]
      simp [blank]
  · cases constructed

/-! ## The sample deployment

The deployer `9` sets up a threshold of two. -/

/-- The storage of the sample deployment, for guardians of the reader's choice. -/
def sampleDeployment (guardians : List Address) : PauseGuardian :=
  { (grantGuardians ⟨9, 0, 0⟩ guardians (grant (blank 77 2) ⟨9, 0, 0⟩ .defaultAdmin 9)).1 with
    guardianCount := guardians.length }

theorem construct_sample (guardians : List Address) (enough : 2 ≤ guardians.length) :
    ∃ log, construct ⟨9, 0, 0⟩ 77 guardians 2 = .ok (sampleDeployment guardians, log) :=
  ⟨_, if_pos ⟨by decide, enough⟩⟩

/-- A call from `sender`, with a target that answers. -/
def sampleCall (sender : Address) (call : Call) : Tx := ⟨⟨sender, 100, 1⟩, true, call⟩

end PauseGuardian

end TheVoteApp
