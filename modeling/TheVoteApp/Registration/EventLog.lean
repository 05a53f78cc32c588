import TheVoteApp.Foundations.EventSourcing
import TheVoteApp.Registration.VoterRegistry

/-!
# The event log of the voter registry

Every write of `VoterRegistry.sol` is announced: a registration, a registrar, the pause
switch and the owner.  `storage_from_events` says that nothing is missing, so that whoever
reads the log from the deployment on has the storage of the contract, the order of the
commitments included.
-/

namespace TheVoteApp.VoterRegistry

open Solidity Foundations

/-- What an event says about the storage. -/
def Event.apply (s : VoterRegistry) : Event → VoterRegistry
  | .voterRegistered commitment countryCode => s.recordVoter commitment countryCode
  | .registrarUpdated countryCode registrar =>
      { s with countryRegistrar := Function.update s.countryRegistrar countryCode registrar }
  | .paused _ => { s with paused := true }
  | .unpaused _ => { s with paused := false }
  | .ownershipTransferred _ newOwner => { s with owner := newOwner }

section Functions

variable {s s' : VoterRegistry} {sender : Address} {new : List Event}

theorem setCountryRegistrar_sourced {countryCode : Bytes2} {registrar : Address}
    (success : setCountryRegistrar s sender countryCode registrar = .ok (s', new)) :
    s' = new.foldl Event.apply s := by
  unfold setCountryRegistrar at success
  split at success; · cases success
  obtain ⟨rfl, rfl⟩ := Prod.mk.inj (Except.ok.inj success)
  rfl

theorem pause_sourced (success : pause s sender = .ok (s', new)) :
    s' = new.foldl Event.apply s := by
  unfold pause at success
  split at success; · cases success
  split at success; · cases success
  obtain ⟨rfl, rfl⟩ := Prod.mk.inj (Except.ok.inj success)
  rfl

theorem unpause_sourced (success : unpause s sender = .ok (s', new)) :
    s' = new.foldl Event.apply s := by
  unfold unpause at success
  split at success; · cases success
  split at success; · cases success
  obtain ⟨rfl, rfl⟩ := Prod.mk.inj (Except.ok.inj success)
  rfl

theorem transferOwnership_sourced {newOwner : Address}
    (success : transferOwnership s sender newOwner = .ok (s', new)) :
    s' = new.foldl Event.apply s := by
  unfold transferOwnership at success
  split at success; · cases success
  split at success; · cases success
  obtain ⟨rfl, rfl⟩ := Prod.mk.inj (Except.ok.inj success)
  rfl

theorem renounceOwnership_sourced (success : renounceOwnership s sender = .ok (s', new)) :
    s' = new.foldl Event.apply s := by
  unfold renounceOwnership at success
  split at success; · cases success
  obtain ⟨rfl, rfl⟩ := Prod.mk.inj (Except.ok.inj success)
  rfl

end Functions

/-- Every function announces what it writes. -/
theorem sourced : machine.Sourced id Event.apply := by
  rintro s ⟨sender, call⟩ s' new success
  cases call with
  | register commitment countryCode =>
      obtain ⟨-, -, -, rfl, rfl⟩ := register_eq_ok_iff.mp success
      rfl
  | setCountryRegistrar countryCode registrar => exact setCountryRegistrar_sourced success
  | pause => exact pause_sourced success
  | unpause => exact unpause_sourced success
  | transferOwnership newOwner => exact transferOwnership_sourced success
  | renounceOwnership => exact renounceOwnership_sourced success

/-- **The log is a complete record.** -/
theorem storage_from_events (initialOwner : Address) (txs : List Tx) :
    machine.run (initialized initialOwner) txs =
      (machine.events (initialized initialOwner) txs).foldl Event.apply
        (initialized initialOwner) :=
  sourced.run_eq (initialized initialOwner) txs

end TheVoteApp.VoterRegistry
