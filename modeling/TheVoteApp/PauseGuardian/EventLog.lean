import TheVoteApp.Foundations.EventSourcing
import TheVoteApp.PauseGuardian.Contract

/-!
# The event log of the pause guardian

The storage of `PauseGuardian.sol` is told by its constructor's arguments and its log: the
roles that were granted and revoked, the proposals, their approvals and their executions.
A grant to a member and a revocation from somebody else emit nothing, and change nothing
(`setRole_of_hasRole`).

`storage_from_log` has the events of the constructor in the log, as they are on chain.
-/

namespace TheVoteApp.PauseGuardian

open Solidity Foundations

/-- What an event says about the storage. -/
def Event.apply (s : PauseGuardian) : Event → PauseGuardian
  | .proposalCreated id isPause _ reason =>
      { s with
        proposalCount := id + 1
        proposals := Function.update s.proposals id
          { s.proposals id with isPause := isPause, reason := reason } }
  | .proposalApproved id guardian => recordApproval s id guardian
  | .proposalExecuted id _ => markExecuted s id
  | .roleGranted role account _ => setRole s role account true
  | .roleRevoked role account _ => setRole s role account false

section Functions

variable {s : PauseGuardian} (env : Env) (role : Role) (account : Address)

/-- Writing a role that is held as it stands changes nothing. -/
theorem setRole_of_hasRole {role : Role} {account : Address} {member : Bool}
    (held : s.hasRole role account = member) : setRole s role account member = s := by
  subst held
  unfold setRole
  rw [Function.update_eq_self, Function.update_eq_self]

theorem grant_sourced :
    (grant s env role account).1 = (grant s env role account).2.foldl Event.apply s := by
  unfold grant
  cases held : s.hasRole role account with
  | true => exact setRole_of_hasRole held
  | false => rfl

theorem revoke_sourced :
    (revoke s env role account).1 = (revoke s env role account).2.foldl Event.apply s := by
  unfold revoke
  cases held : s.hasRole role account with
  | true => rfl
  | false => exact setRole_of_hasRole held

end Functions

/-- Every function announces what it writes. -/
theorem sourced : machine.Sourced id Event.apply := by
  rintro s ⟨env, targetReturns, call⟩ s' new success
  cases call with
  | propose isPause reason =>
      rw [call_propose] at success
      obtain ⟨-, -, -, rfl, rfl⟩ := propose_eq_ok_iff.mp success
      rfl
  | approve isPause id =>
      rw [call_approve] at success
      obtain ⟨-, -, -, rfl, rfl⟩ := approve_eq_ok_iff.mp success
      rfl
  | execute isPause id =>
      rw [call_execute] at success
      obtain ⟨-, -, -, rfl, rfl⟩ := execute_eq_ok_iff.mp success
      rfl
  | grantRole role account =>
      obtain ⟨-, stored⟩ := grantRole_eq_ok_iff.mp success
      obtain ⟨rfl, rfl⟩ := Prod.mk.inj stored
      exact grant_sourced env role account
  | revokeRole role account =>
      obtain ⟨-, stored⟩ := revokeRole_eq_ok_iff.mp success
      obtain ⟨rfl, rfl⟩ := Prod.mk.inj stored
      exact revoke_sourced env role account
  | renounceRole role callerConfirmation =>
      obtain ⟨-, stored⟩ := renounceRole_eq_ok_iff.mp success
      obtain ⟨rfl, rfl⟩ := Prod.mk.inj stored
      exact revoke_sourced env role callerConfirmation

/-! ## The constructor -/

section Constructor

variable {s : PauseGuardian} {env : Env} {guardians : List Address} {r : PauseGuardian × List Event}

theorem grantGuardians_sourced (told : r.1 = r.2.foldl Event.apply s) :
    (grantGuardians env guardians r).1 =
      (grantGuardians env guardians r).2.foldl Event.apply s := by
  unfold grantGuardians
  induction guardians generalizing r with
  | nil => exact told
  | cons account guardians ih =>
      rw [List.foldl_cons]
      refine ih ?_
      dsimp only
      rw [List.foldl_append, ← told]
      exact grant_sourced env .guardian account

/-- No event is about the number of guardians. -/
theorem foldl_apply_guardianCount (log : List Event) (s : PauseGuardian) (count : ℕ) :
    { log.foldl Event.apply s with guardianCount := count } =
      log.foldl Event.apply { s with guardianCount := count } := by
  induction log generalizing s with
  | nil => rfl
  | cons event log ih =>
      rw [List.foldl_cons, List.foldl_cons, ih]
      cases event <;> rfl

theorem construct_sourced {target : Address} {threshold : ℕ} {log : List Event}
    (constructed : construct env target guardians threshold = .ok (s, log)) :
    s = log.foldl Event.apply
      { blank target threshold with guardianCount := guardians.length } := by
  unfold construct at constructed
  split at constructed
  · obtain ⟨rfl, rfl⟩ := Prod.mk.inj (Except.ok.inj constructed)
    have deployed := @grant_sourced (blank target threshold) env .defaultAdmin env.sender
    have told := @grantGuardians_sourced _ env guardians _ deployed
    rw [← foldl_apply_guardianCount, ← told]
  · cases constructed

end Constructor

/-- **The log is a complete record**, from the constructor on. -/
theorem storage_from_log {env : Env} {target : Address} {guardians : List Address}
    {threshold : ℕ} {s₀ : PauseGuardian} {log : List Event}
    (constructed : construct env target guardians threshold = .ok (s₀, log)) (txs : List Tx) :
    machine.run s₀ txs =
      (log ++ machine.events s₀ txs).foldl Event.apply
        { blank target threshold with guardianCount := guardians.length } := by
  rw [List.foldl_append, ← construct_sourced constructed]
  exact sourced.run_eq s₀ txs

/-- A pause that both guardians agree on. -/
theorem storage_from_log_sample :
    let txs : List Tx :=
      [⟨⟨1, 100, 1⟩, true, .propose true []⟩, ⟨⟨2, 101, 2⟩, true, .approve true 0⟩,
        ⟨⟨1, 102, 3⟩, true, .execute true 0⟩]
    ∃ log, construct ⟨9, 0, 0⟩ 77 [1, 2] 2 = .ok (sampleDeployment [1, 2], log) ∧
      machine.run (sampleDeployment [1, 2]) txs =
        (log ++ machine.events (sampleDeployment [1, 2]) txs).foldl Event.apply
          { blank 77 2 with guardianCount := 2 } := by
  intro txs
  obtain ⟨log, constructed⟩ := construct_sample [1, 2] (by decide)
  exact ⟨log, constructed, storage_from_log constructed txs⟩

end TheVoteApp.PauseGuardian
