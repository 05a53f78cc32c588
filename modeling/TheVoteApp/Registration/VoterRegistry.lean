import TheVoteApp.Solidity.Basic

/-!
# The voter registry contract

`VoterRegistry.sol`: identity commitments, each stored with the country it was
registered for.  A country code of zero means that the commitment is not
registered.  `register_eq_ok_iff` says what a registration does, and
`exists_register_eq_ok_iff` that for a running contract and its country's registrar
it fails on registered commitments only.  `machine` is the contract with all its
functions; `Step` says which of them touch the registrations.
-/

namespace TheVoteApp

open Solidity Foundations

/-- The storage of the contract. -/
structure VoterRegistry where
  owner : Address
  paused : Bool
  commitmentToCountry : Bytes32 → Bytes2
  commitments : List Bytes32
  countryRegistrar : Bytes2 → Address

namespace VoterRegistry

/-- The events of the contract. -/
inductive Event where
  | voterRegistered (commitment : Bytes32) (countryCode : Bytes2)
  | registrarUpdated (countryCode : Bytes2) (registrar : Address)
  | paused (account : Address)
  | unpaused (account : Address)
  | ownershipTransferred (previousOwner newOwner : Address)
deriving DecidableEq

/-- What a call reverts with. -/
inductive Error where
  | alreadyRegistered
  | unauthorisedRegistrar
  | invalidCommitment
  | ownableUnauthorizedAccount (account : Address)
  | ownableInvalidOwner (owner : Address)
  | enforcedPause
  | expectedPause
deriving DecidableEq

/-- The storage the initialiser leaves. -/
def initialized (initialOwner : Address) : VoterRegistry where
  owner := initialOwner
  paused := false
  commitmentToCountry := fun _ => 0
  commitments := []
  countryRegistrar := fun _ => 0

/-- `register`.  The checks run in the order of the source. -/
def register (s : VoterRegistry) (sender : Address) (commitment : Bytes32)
    (countryCode : Bytes2) : Except Error (VoterRegistry × List Event) :=
  let registrar := s.countryRegistrar countryCode
  if s.paused then .error .enforcedPause
  else if commitment = 0 then .error .invalidCommitment
  else if s.commitmentToCountry commitment ≠ 0 then .error .alreadyRegistered
  else if registrar = 0 ∨ registrar ≠ sender then .error .unauthorisedRegistrar
  else
    .ok ({ s with
        commitmentToCountry := Function.update s.commitmentToCountry commitment countryCode
        commitments := s.commitments ++ [commitment] },
      [.voterRegistered commitment countryCode])

/-- `isRegistered`.  The country of an unknown commitment is zero. -/
def isRegistered (s : VoterRegistry) (commitment : Bytes32) (countryCode : Bytes2) : Bool :=
  decide (s.commitmentToCountry commitment = countryCode)

/-- `setCountryRegistrar`, for the owner only. -/
def setCountryRegistrar (s : VoterRegistry) (sender : Address) (countryCode : Bytes2)
    (registrar : Address) : Except Error (VoterRegistry × List Event) :=
  if sender ≠ s.owner then .error (.ownableUnauthorizedAccount sender)
  else
    .ok ({ s with countryRegistrar := Function.update s.countryRegistrar countryCode registrar },
      [.registrarUpdated countryCode registrar])

/-- `totalVoters`. -/
def totalVoters (s : VoterRegistry) : ℕ := s.commitments.length

/-- `pause`, for the owner only. -/
def pause (s : VoterRegistry) (sender : Address) : Except Error (VoterRegistry × List Event) :=
  if sender ≠ s.owner then .error (.ownableUnauthorizedAccount sender)
  else if s.paused then .error .enforcedPause
  else .ok ({ s with paused := true }, [.paused sender])

/-- `unpause`, for the owner only. -/
def unpause (s : VoterRegistry) (sender : Address) : Except Error (VoterRegistry × List Event) :=
  if sender ≠ s.owner then .error (.ownableUnauthorizedAccount sender)
  else if !s.paused then .error .expectedPause
  else .ok ({ s with paused := false }, [.unpaused sender])

/-- The inherited `transferOwnership`. -/
def transferOwnership (s : VoterRegistry) (sender newOwner : Address) :
    Except Error (VoterRegistry × List Event) :=
  if sender ≠ s.owner then .error (.ownableUnauthorizedAccount sender)
  else if newOwner = 0 then .error (.ownableInvalidOwner 0)
  else .ok ({ s with owner := newOwner }, [.ownershipTransferred s.owner newOwner])

/-- The inherited `renounceOwnership`. -/
def renounceOwnership (s : VoterRegistry) (sender : Address) :
    Except Error (VoterRegistry × List Event) :=
  if sender ≠ s.owner then .error (.ownableUnauthorizedAccount sender)
  else .ok ({ s with owner := 0 }, [.ownershipTransferred s.owner 0])

/-- The commitment is on chain, for some country. -/
def Registered (s : VoterRegistry) (commitment : Bytes32) : Prop :=
  s.commitmentToCountry commitment ≠ 0

instance decidableRegistered (s : VoterRegistry) (commitment : Bytes32) :
    Decidable (s.Registered commitment) :=
  inferInstanceAs (Decidable (_ ≠ _))

/-- `sender` may register voters of `countryCode` in a contract that is not
paused. -/
structure Accepts (s : VoterRegistry) (sender : Address) (countryCode : Bytes2) : Prop where
  running : s.paused = false
  registrar : s.countryRegistrar countryCode = sender
  nonzero : sender ≠ 0

/-- The storage a registration leaves. -/
def recordVoter (s : VoterRegistry) (commitment : Bytes32) (countryCode : Bytes2) :
    VoterRegistry :=
  { s with
    commitmentToCountry := Function.update s.commitmentToCountry commitment countryCode
    commitments := s.commitments ++ [commitment] }

section Specifications

variable {s s' : VoterRegistry} {sender : Address} {commitment : Bytes32} {countryCode : Bytes2}
variable {new : List Event}

/-- **`register`.** -/
theorem register_eq_ok_iff :
    register s sender commitment countryCode = .ok (s', new) ↔
      s.Accepts sender countryCode ∧ commitment ≠ 0 ∧ ¬ s.Registered commitment ∧
        s' = recordVoter s commitment countryCode ∧
        new = [.voterRegistered commitment countryCode] := by
  constructor
  · intro success
    unfold register at success
    dsimp only at success
    split at success; · cases success
    split at success; · cases success
    split at success; · cases success
    split at success; · cases success
    rename_i running valid fresh registrar
    obtain ⟨rfl, rfl⟩ := Prod.mk.inj (Except.ok.inj success)
    obtain ⟨nonzero, sent⟩ := not_or.mp registrar
    have named := not_not.mp sent
    exact ⟨⟨by simpa using running, named, named ▸ nonzero⟩, valid, fresh, rfl, rfl⟩
  · rintro ⟨accepts, valid, fresh, rfl, rfl⟩
    have unregistered : s.commitmentToCountry commitment = 0 := not_not.mp fresh
    have nonzero := accepts.nonzero
    simp only [register, accepts.running, unregistered, accepts.registrar, valid, nonzero, ne_eq,
      not_true_eq_false, or_self, Bool.false_eq_true, if_false, recordVoter]

/-- For the country's registrar a registration fails on registered commitments
only. -/
theorem exists_register_eq_ok_iff (accepts : s.Accepts sender countryCode)
    (valid : commitment ≠ 0) :
    (∃ r, register s sender commitment countryCode = .ok r) ↔ ¬ s.Registered commitment := by
  constructor
  · rintro ⟨⟨s', new⟩, success⟩
    exact (register_eq_ok_iff.mp success).2.2.1
  · intro fresh
    exact ⟨_, register_eq_ok_iff.mpr ⟨accepts, valid, fresh, rfl, rfl⟩⟩

end Specifications

theorem registered_recordVoter {s : VoterRegistry} {commitment other : Bytes32}
    {countryCode : Bytes2} (registered : (recordVoter s commitment countryCode).Registered other) :
    other = commitment ∨ s.Registered other := by
  by_cases same : other = commitment
  · exact Or.inl same
  · right
    simpa [Registered, recordVoter, same] using registered

/-! ## The contract as a machine -/

/-- A call of one of the external functions. -/
inductive Call where
  | register (commitment : Bytes32) (countryCode : Bytes2)
  | setCountryRegistrar (countryCode : Bytes2) (registrar : Address)
  | pause
  | unpause
  | transferOwnership (newOwner : Address)
  | renounceOwnership
deriving DecidableEq

/-- A call with its `msg.sender`. -/
structure Tx where
  sender : Address
  call : Call

/-- The contract, as the machine its transactions drive. -/
def machine : Machine VoterRegistry Tx Event Error where
  call s tx :=
    match tx.call with
    | .register commitment countryCode => register s tx.sender commitment countryCode
    | .setCountryRegistrar countryCode registrar =>
        setCountryRegistrar s tx.sender countryCode registrar
    | .pause => pause s tx.sender
    | .unpause => unpause s tx.sender
    | .transferOwnership newOwner => transferOwnership s tx.sender newOwner
    | .renounceOwnership => renounceOwnership s tx.sender

/-- The transaction leaves the registrations as they are. -/
structure SameVoters (s s' : VoterRegistry) : Prop where
  commitmentToCountry : s'.commitmentToCountry = s.commitmentToCountry
  commitments : s'.commitments = s.commitments

/-- **What a successful transaction does** to the registrations. -/
inductive Step (s : VoterRegistry) : Tx → VoterRegistry → Prop where
  | register {sender : Address} {commitment : Bytes32} {countryCode : Bytes2}
      (accepts : s.Accepts sender countryCode) (valid : commitment ≠ 0)
      (fresh : ¬ s.Registered commitment) :
      Step s ⟨sender, .register commitment countryCode⟩ (recordVoter s commitment countryCode)
  | other {tx : Tx} {s' : VoterRegistry}
      (noVoter : ∀ commitment countryCode, tx.call ≠ .register commitment countryCode)
      (same : SameVoters s s') : Step s tx s'

section Steps

variable {s s' : VoterRegistry} {sender : Address} {new : List Event}

theorem setCountryRegistrar_sameVoters {countryCode : Bytes2} {registrar : Address}
    (success : setCountryRegistrar s sender countryCode registrar = .ok (s', new)) :
    SameVoters s s' := by
  unfold setCountryRegistrar at success
  split at success
  · cases success
  · obtain ⟨rfl, -⟩ := Prod.mk.inj (Except.ok.inj success)
    exact ⟨rfl, rfl⟩

theorem pause_sameVoters (success : pause s sender = .ok (s', new)) : SameVoters s s' := by
  unfold pause at success
  split at success; · cases success
  split at success; · cases success
  obtain ⟨rfl, -⟩ := Prod.mk.inj (Except.ok.inj success)
  exact ⟨rfl, rfl⟩

theorem unpause_sameVoters (success : unpause s sender = .ok (s', new)) : SameVoters s s' := by
  unfold unpause at success
  split at success; · cases success
  split at success; · cases success
  obtain ⟨rfl, -⟩ := Prod.mk.inj (Except.ok.inj success)
  exact ⟨rfl, rfl⟩

theorem transferOwnership_sameVoters {newOwner : Address}
    (success : transferOwnership s sender newOwner = .ok (s', new)) : SameVoters s s' := by
  unfold transferOwnership at success
  split at success; · cases success
  split at success; · cases success
  obtain ⟨rfl, -⟩ := Prod.mk.inj (Except.ok.inj success)
  exact ⟨rfl, rfl⟩

theorem renounceOwnership_sameVoters (success : renounceOwnership s sender = .ok (s', new)) :
    SameVoters s s' := by
  unfold renounceOwnership at success
  split at success
  · cases success
  · obtain ⟨rfl, -⟩ := Prod.mk.inj (Except.ok.inj success)
    exact ⟨rfl, rfl⟩

/-- A successful transaction is one of these. -/
theorem Step.of_call {tx : Tx} (success : machine.call s tx = .ok (s', new)) : Step s tx s' := by
  obtain ⟨sender, call⟩ := tx
  cases call with
  | register commitment countryCode =>
      obtain ⟨accepts, valid, fresh, rfl, -⟩ := register_eq_ok_iff.mp success
      exact .register accepts valid fresh
  | setCountryRegistrar countryCode registrar =>
      exact .other (by rintro _ _ ⟨⟩) (setCountryRegistrar_sameVoters success)
  | pause => exact .other (by rintro _ _ ⟨⟩) (pause_sameVoters success)
  | unpause => exact .other (by rintro _ _ ⟨⟩) (unpause_sameVoters success)
  | transferOwnership newOwner =>
      exact .other (by rintro _ _ ⟨⟩) (transferOwnership_sameVoters success)
  | renounceOwnership => exact .other (by rintro _ _ ⟨⟩) (renounceOwnership_sameVoters success)

/-- A registration succeeds when its checks pass. -/
theorem succeeds_register_iff {commitment : Bytes32} {countryCode : Bytes2} :
    machine.Succeeds s ⟨sender, .register commitment countryCode⟩ ↔
      s.Accepts sender countryCode ∧ commitment ≠ 0 ∧ ¬ s.Registered commitment := by
  constructor
  · rintro ⟨⟨s', new⟩, success⟩
    obtain ⟨accepts, valid, fresh, -, -⟩ := register_eq_ok_iff.mp success
    exact ⟨accepts, valid, fresh⟩
  · rintro ⟨accepts, valid, fresh⟩
    exact ⟨_, register_eq_ok_iff.mpr ⟨accepts, valid, fresh, rfl, rfl⟩⟩

end Steps

end VoterRegistry

end TheVoteApp
