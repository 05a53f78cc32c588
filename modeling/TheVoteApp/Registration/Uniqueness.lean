import TheVoteApp.Registration.VoterRegistry

/-!
# One registration per commitment

The registry keeps each commitment twice: in a mapping to its country, where zero
means "not registered", and in an array.  A country code is any two bytes, and
the owner can name a registrar for `0x0000` as for any other code.  A commitment
registered under `0x0000` is in the array but reads as not registered, and can be
registered again.

`registration_unique_iff` says exactly when the three views of the registry agree
with its history: the array has no duplicates, and counts the registered
commitments, as long as no such commitment is registered again; `isRegistered` is
right for every code but `0x0000`, for which it says "yes" about all commitments
without a country.
-/

namespace TheVoteApp.VoterRegistry

open Solidity Foundations

/-- An accepted `register(commitment, countryCode)`. -/
def Registers (commitment : Bytes32) (countryCode : Bytes2) (s : VoterRegistry) (tx : Tx) : Prop :=
  machine.Succeeds s tx ∧ tx.call = .register commitment countryCode

/-- The registrar of a country registers a commitment that is in the array and
reads as not registered, because all its registrations were under `0x0000`. -/
def RegistersAgain (s : VoterRegistry) (tx : Tx) : Prop :=
  ∃ commitment countryCode, tx.call = .register commitment countryCode ∧
    s.Accepts tx.sender countryCode ∧ commitment ≠ 0 ∧ commitment ∈ s.commitments ∧
    s.commitmentToCountry commitment = 0

section Steps

variable {s s' : VoterRegistry} {tx : Tx} {new : List Event} {c : Bytes32} {cc : Bytes2}

/-- **One step** adds to the array the commitment it registers. -/
theorem mem_commitments_step (success : machine.call s tx = .ok (s', new)) :
    c ∈ s'.commitments ↔ c ∈ s.commitments ∨ ∃ cc, Registers c cc s tx := by
  cases Step.of_call success with
  | @register sender commitment countryCode accepts valid fresh =>
      show c ∈ s.commitments ++ [commitment] ↔ _
      rw [List.mem_append, List.mem_singleton]
      refine or_congr_right ⟨?_, ?_⟩
      · rintro rfl
        exact ⟨countryCode, ⟨_, success⟩, rfl⟩
      · rintro ⟨cc, -, named⟩
        simp only [Call.register.injEq] at named
        exact named.1.symm
  | other noVoter same =>
      rw [same.commitments]
      refine (or_iff_left ?_).symm
      rintro ⟨cc, -, named⟩
      exact noVoter c cc named

/-- **One step** sets the country of the commitment it registers. -/
theorem commitmentToCountry_step (nonzero : cc ≠ 0)
    (success : machine.call s tx = .ok (s', new)) :
    s'.commitmentToCountry c = cc ↔ s.commitmentToCountry c = cc ∨ Registers c cc s tx := by
  cases Step.of_call success with
  | @register sender commitment countryCode accepts valid fresh =>
      have unregistered : s.commitmentToCountry commitment = 0 := not_not.mp fresh
      have named : Registers c cc s ⟨sender, .register commitment countryCode⟩ ↔
          c = commitment ∧ cc = countryCode := by
        constructor
        · rintro ⟨-, named⟩
          simp only [Call.register.injEq] at named
          exact ⟨named.1.symm, named.2.symm⟩
        · rintro ⟨rfl, rfl⟩
          exact ⟨⟨_, success⟩, rfl⟩
      rw [named]
      show Function.update s.commitmentToCountry commitment countryCode c = cc ↔ _
      by_cases same : c = commitment
      · subst same
        rw [Function.update_self, unregistered]
        constructor
        · rintro rfl
          exact .inr ⟨rfl, rfl⟩
        · rintro (zero | ⟨-, country⟩)
          · exact absurd zero.symm nonzero
          · exact country.symm
      · simp [same]
  | other noVoter same =>
      rw [same.commitmentToCountry]
      exact (or_iff_left fun registers => noVoter c cc registers.2).symm

theorem RegistersAgain.succeeds (again : RegistersAgain s tx) : machine.Succeeds s tx := by
  obtain ⟨sender, call⟩ := tx
  obtain ⟨commitment, countryCode, rfl, accepts, valid, -, unregistered⟩ := again
  exact succeeds_register_iff.mpr ⟨accepts, valid, not_not.mpr unregistered⟩

/-- **One step** puts a duplicate in the array exactly when it registers again. -/
theorem not_nodup_step (success : machine.call s tx = .ok (s', new)) :
    ¬ s'.commitments.Nodup ↔ ¬ s.commitments.Nodup ∨ RegistersAgain s tx := by
  cases Step.of_call success with
  | @register sender commitment countryCode accepts valid fresh =>
      have unregistered : s.commitmentToCountry commitment = 0 := not_not.mp fresh
      have again : RegistersAgain s ⟨sender, .register commitment countryCode⟩ ↔
          commitment ∈ s.commitments := by
        constructor
        · rintro ⟨c, cc, named, -, -, mem, -⟩
          simp only [Call.register.injEq] at named
          rw [named.1]
          exact mem
        · intro mem
          exact ⟨commitment, countryCode, rfl, accepts, valid, mem, unregistered⟩
      show ¬ (s.commitments ++ [commitment]).Nodup ↔ _
      rw [again, ← List.concat_eq_append, List.nodup_concat, not_and_or, not_not, or_comm]
  | other noVoter same =>
      rw [same.commitments]
      refine (or_iff_left ?_).symm
      rintro ⟨c, cc, named, -⟩
      exact noVoter c cc named

end Steps

section Runs

variable (initialOwner : Address) (txs : List Tx)

theorem mem_commitments_iff (c : Bytes32) :
    c ∈ (machine.run (initialized initialOwner) txs).commitments ↔
      ∃ cc, machine.Sometime (Registers c cc) (initialized initialOwner) txs := by
  rw [← Machine.sometime_exists]
  refine Machine.run_iff_sometime (I := fun s : VoterRegistry => c ∈ s.commitments)
    List.not_mem_nil ?_ (fun _ _ _ _ success => mem_commitments_step success) txs
  rintro s tx ⟨cc, registers⟩
  exact registers.1

/-- A commitment has a country other than `0x0000` exactly when it was registered
for it. -/
theorem commitmentToCountry_iff (c : Bytes32) {cc : Bytes2} (nonzero : cc ≠ 0) :
    (machine.run (initialized initialOwner) txs).commitmentToCountry c = cc ↔
      machine.Sometime (Registers c cc) (initialized initialOwner) txs :=
  Machine.run_iff_sometime (I := fun s : VoterRegistry => s.commitmentToCountry c = cc)
    (Ne.symm nonzero) (fun _ _ registers => registers.1)
    (fun _ _ _ _ success => commitmentToCountry_step nonzero success) txs

theorem nodup_commitments_iff :
    (machine.run (initialized initialOwner) txs).commitments.Nodup ↔
      machine.Along (fun s tx => ¬ RegistersAgain s tx) (initialized initialOwner) txs := by
  rw [← Machine.not_sometime_iff, ← not_iff_not, not_not]
  exact Machine.run_iff_sometime (I := fun s : VoterRegistry => ¬ s.commitments.Nodup)
    (not_not.mpr List.nodup_nil) (fun _ _ => RegistersAgain.succeeds)
    (fun _ _ _ _ success => not_nodup_step success) txs

/-- The array holds the registered commitments, so its length counts them exactly
when it has no duplicates. -/
theorem totalVoters_eq_iff :
    (machine.run (initialized initialOwner) txs).totalVoters =
        Set.ncard {c | ∃ cc, machine.Sometime (Registers c cc) (initialized initialOwner) txs} ↔
      (machine.run (initialized initialOwner) txs).commitments.Nodup := by
  have registered : {c | ∃ cc, machine.Sometime (Registers c cc) (initialized initialOwner) txs} =
      ((machine.run (initialized initialOwner) txs).commitments.toFinset : Set Bytes32) := by
    ext c
    rw [Set.mem_ofPred_eq, ← mem_commitments_iff, Finset.mem_coe, List.mem_toFinset]
  rw [registered, Set.ncard_coe_finset, totalVoters, eq_comm]
  exact Multiset.toFinset_card_eq_card_iff_nodup
    (m := ((machine.run (initialized initialOwner) txs).commitments : Multiset Bytes32))

/-- The answer about `0x0000` is "yes" for commitments without another country. -/
theorem isRegistered_zero_iff (c : Bytes32) :
    (machine.run (initialized initialOwner) txs).isRegistered c 0 = true ↔
      ¬ ∃ cc, cc ≠ 0 ∧ machine.Sometime (Registers c cc) (initialized initialOwner) txs := by
  rw [isRegistered, decide_eq_true_iff]
  constructor
  · rintro unregistered ⟨cc, nonzero, registered⟩
    rw [← commitmentToCountry_iff initialOwner txs c nonzero, unregistered] at registered
    exact nonzero registered.symm
  · intro never
    by_contra registered
    exact never ⟨_, registered, (commitmentToCountry_iff initialOwner txs c registered).mp rfl⟩

end Runs

/-- **When the registry is unique.**  After any run: the array has no duplicates,
and `totalVoters` is the number of registered commitments, if and only if no
commitment registered under `0x0000` was registered again; and `isRegistered`
says that `register(c, cc)` succeeded earlier if and only if it did, exactly for
`cc ≠ 0x0000` and for those commitments that were registered under `0x0000` or
under another code but not both. -/
theorem registration_unique_iff (initialOwner : Address) (txs : List Tx) :
    let s := machine.run (initialized initialOwner) txs
    let registered c cc := machine.Sometime (Registers c cc) (initialized initialOwner) txs
    let noneAgain :=
      machine.Along (fun s tx => ¬ RegistersAgain s tx) (initialized initialOwner) txs
    (s.commitments.Nodup ↔ noneAgain) ∧
      (s.totalVoters = Set.ncard {c | ∃ cc, registered c cc} ↔ noneAgain) ∧
      ∀ c cc, (s.isRegistered c cc = true ↔ registered c cc) ↔
        cc ≠ 0 ∨ Xor (registered c 0) (∃ cc', cc' ≠ 0 ∧ registered c cc') := by
  intro s registered noneAgain
  have unique : s.commitments.Nodup ↔ noneAgain := nodup_commitments_iff initialOwner txs
  refine ⟨unique, (totalVoters_eq_iff initialOwner txs).trans unique, ?_⟩
  intro c cc
  by_cases zero : cc = 0
  · subst zero
    have answer := isRegistered_zero_iff initialOwner txs c
    change s.isRegistered c 0 = true ↔ ¬ ∃ cc, cc ≠ 0 ∧ registered c cc at answer
    rw [answer, or_iff_right (not_not.mpr rfl), xor_iff_iff_not]
    exact iff_comm
  · have answer : s.isRegistered c cc = true ↔ registered c cc := by
      rw [isRegistered, decide_eq_true_iff]
      exact commitmentToCountry_iff initialOwner txs c zero
    exact iff_of_true answer (.inl zero)

/-- The owner names a registrar for `0x0000`, who registers a commitment twice. -/
def sampleRegistrations : List Tx :=
  [⟨1, .setCountryRegistrar 0 5⟩, ⟨5, .register 8 0⟩, ⟨5, .register 8 0⟩]

/-- **A commitment registered twice.**  The array holds the commitment twice and
counts two voters where one is registered; `isRegistered` answers "yes" for a
commitment nobody registered. -/
theorem registered_twice :
    let s := machine.run (initialized 1) sampleRegistrations
    ¬ s.commitments.Nodup ∧ s.totalVoters = 2 ∧
      Set.ncard {c | ∃ cc, machine.Sometime (Registers c cc) (initialized 1)
        sampleRegistrations} = 1 ∧
      s.isRegistered 9 0 = true ∧
      ¬ machine.Sometime (Registers 9 0) (initialized 1) sampleRegistrations := by
  intro s
  have stored : s.commitments = [8, 8] := by decide
  refine ⟨by rw [stored]; decide, by rw [totalVoters, stored]; rfl, ?_, by decide, ?_⟩
  · have only : {c | ∃ cc, machine.Sometime (Registers c cc) (initialized 1)
        sampleRegistrations} = {8} := by
      ext c
      rw [Set.mem_ofPred_eq, ← mem_commitments_iff, Set.mem_singleton_iff]
      show c ∈ s.commitments ↔ _
      rw [stored]
      simp
    rw [only, Set.ncard_singleton]
  · rintro (⟨-, ⟨⟩⟩ | ⟨-, ⟨⟩⟩ | ⟨-, ⟨⟩⟩ | never)
    exact never

end TheVoteApp.VoterRegistry
