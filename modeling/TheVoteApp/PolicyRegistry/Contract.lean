import TheVoteApp.Foundations.EventSourcing
import TheVoteApp.Solidity.Keccak

/-!
# The policy registry contract

`PolicyRegistry.sol` keeps, for each policy, where its document is: the content identifier
and, for verification on chain, its first 32 bytes.  The owner publishes a policy once and
may deactivate it; nothing is ever taken back.

`policies_from_events` says that the log tells all of a record but its time of creation,
and `published_stands` that a published record is only ever changed in one place, its
`active` flag, by the deactivations in the log.  Whether a policy has been published is
read from the time of creation, a `uint64`: a block whose time is a multiple of 2^64 would
publish a policy that does not count as published.
-/

namespace TheVoteApp

open Solidity Foundations

/-- `struct PolicyMeta`, the string as its bytes. -/
structure PolicyMeta where
  countryCode : Bytes2
  documentHash : Bytes32
  ipfsCID : Bytes
  createdAt : ℕ
  active : Bool
deriving DecidableEq

/-- A record that has never been written. -/
def PolicyMeta.empty : PolicyMeta where
  countryCode := 0
  documentHash := 0
  ipfsCID := []
  createdAt := 0
  active := false

/-- The storage of the contract. -/
structure PolicyRegistry where
  owner : Address
  policies : Bytes32 → PolicyMeta

namespace PolicyRegistry

/-- The events of the contract. -/
inductive Event where
  | policyPublished (policyId : Bytes32) (countryCode : Bytes2) (ipfsCID : Bytes)
  | policyDeactivated (policyId : Bytes32)
  | ownershipTransferred (previousOwner newOwner : Address)
deriving DecidableEq

/-- What a call reverts with. -/
inductive Error where
  | policyExists
  | policyNotFound
  | ownableUnauthorizedAccount (account : Address)
  | ownableInvalidOwner (owner : Address)
deriving DecidableEq

/-- `initialize`. -/
def initialized (initialOwner : Address) : PolicyRegistry where
  owner := initialOwner
  policies _ := .empty

/-- The conversion `bytes32(bytes(s))`: the first 32 bytes, with zeros where there are
fewer. -/
def bytes32Of (bytes : Bytes) : Bytes32 :=
  BitVec.ofNat 256 (ofBigEndian ((bytes ++ List.replicate 32 0).take 32))

section Functions

variable (keccak256 : Bytes → Bytes32) (s : PolicyRegistry) (env : Env)

/-- The modifier `onlyOwner`. -/
def onlyOwner {α : Type} (body : Except Error α) : Except Error α :=
  if env.sender ≠ s.owner then .error (.ownableUnauthorizedAccount env.sender) else body

/-- `publishPolicy`.  A record that was deactivated stands in the way as well. -/
def publishPolicy (policyId : Bytes) (countryCode : Bytes2) (ipfsCID : Bytes) :
    Except Error (PolicyRegistry × List Event) :=
  onlyOwner s env <|
    let key := keccak256 policyId
    if (s.policies key).createdAt ≠ 0 then .error .policyExists
    else
      .ok ({ s with
          policies := Function.update s.policies key
            { countryCode := countryCode
              documentHash := bytes32Of ipfsCID
              ipfsCID := ipfsCID
              createdAt := env.timestamp % 2 ^ 64
              active := true } },
        [.policyPublished key countryCode ipfsCID])

/-- `deactivatePolicy`. -/
def deactivatePolicy (policyId : Bytes) : Except Error (PolicyRegistry × List Event) :=
  onlyOwner s env <|
    let key := keccak256 policyId
    if (s.policies key).createdAt = 0 then .error .policyNotFound
    else
      .ok ({ s with
          policies := Function.update s.policies key
            { s.policies key with active := false } },
        [.policyDeactivated key])

/-- `getPolicy`, which answers for every name. -/
def getPolicy (policyId : Bytes) : PolicyMeta := s.policies (keccak256 policyId)

/-- The inherited `transferOwnership`. -/
def transferOwnership (newOwner : Address) : Except Error (PolicyRegistry × List Event) :=
  onlyOwner s env <|
    if newOwner = 0 then .error (.ownableInvalidOwner 0)
    else .ok ({ s with owner := newOwner }, [.ownershipTransferred s.owner newOwner])

/-- The inherited `renounceOwnership`. -/
def renounceOwnership : Except Error (PolicyRegistry × List Event) :=
  onlyOwner s env (.ok ({ s with owner := 0 }, [.ownershipTransferred s.owner 0]))

end Functions

/-! ## The contract as a machine -/

/-- A call of one of the external functions. -/
inductive Call where
  | publishPolicy (policyId : Bytes) (countryCode : Bytes2) (ipfsCID : Bytes)
  | deactivatePolicy (policyId : Bytes)
  | transferOwnership (newOwner : Address)
  | renounceOwnership
deriving DecidableEq

/-- A call with its environment. -/
structure Tx where
  env : Env
  call : Call

/-- The contract, as the machine its transactions drive. -/
def machine (keccak256 : Bytes → Bytes32) : Machine PolicyRegistry Tx Event Error where
  call s tx :=
    match tx.call with
    | .publishPolicy policyId countryCode ipfsCID =>
        publishPolicy keccak256 s tx.env policyId countryCode ipfsCID
    | .deactivatePolicy policyId => deactivatePolicy keccak256 s tx.env policyId
    | .transferOwnership newOwner => transferOwnership s tx.env newOwner
    | .renounceOwnership => renounceOwnership s tx.env

section Specifications

variable {keccak256 : Bytes → Bytes32} {s s' : PolicyRegistry} {env : Env} {new : List Event}

/-- A guarded body succeeds for the owner only, with the result of the body. -/
theorem onlyOwner_eq_ok_iff {α : Type} {body : Except Error α} {r : α} :
    onlyOwner s env body = .ok r ↔ env.sender = s.owner ∧ body = .ok r := by
  by_cases owner : env.sender = s.owner <;> simp [onlyOwner, owner]

/-- The storage that `publishPolicy` leaves. -/
def publish (s : PolicyRegistry) (key : Bytes32) (countryCode : Bytes2) (ipfsCID : Bytes)
    (createdAt : ℕ) : PolicyRegistry :=
  { s with
    policies := Function.update s.policies key
      ⟨countryCode, bytes32Of ipfsCID, ipfsCID, createdAt, true⟩ }

/-- The storage that `deactivatePolicy` leaves. -/
def deactivate (s : PolicyRegistry) (key : Bytes32) : PolicyRegistry :=
  { s with policies := Function.update s.policies key { s.policies key with active := false } }

/-- **What a successful transaction does**, what it checks and what it emits. -/
inductive Step (keccak256 : Bytes → Bytes32) (s : PolicyRegistry) :
    Tx → PolicyRegistry → List Event → Prop where
  | publish {env : Env} {policyId : Bytes} {countryCode : Bytes2} {ipfsCID : Bytes}
      (owner : env.sender = s.owner) (fresh : (s.policies (keccak256 policyId)).createdAt = 0) :
      Step keccak256 s ⟨env, .publishPolicy policyId countryCode ipfsCID⟩
        (s.publish (keccak256 policyId) countryCode ipfsCID (env.timestamp % 2 ^ 64))
        [.policyPublished (keccak256 policyId) countryCode ipfsCID]
  | deactivate {env : Env} {policyId : Bytes} (owner : env.sender = s.owner)
      (published : (s.policies (keccak256 policyId)).createdAt ≠ 0) :
      Step keccak256 s ⟨env, .deactivatePolicy policyId⟩ (s.deactivate (keccak256 policyId))
        [.policyDeactivated (keccak256 policyId)]
  | owner {tx : Tx} {newOwner : Address} (owner : tx.env.sender = s.owner) :
      Step keccak256 s tx { s with owner := newOwner } [.ownershipTransferred s.owner newOwner]

theorem Step.of_call {tx : Tx} (success : (machine keccak256).call s tx = .ok (s', new)) :
    Step keccak256 s tx s' new := by
  obtain ⟨env, call⟩ := tx
  cases call with
  | publishPolicy policyId countryCode ipfsCID =>
      obtain ⟨owner, success⟩ := onlyOwner_eq_ok_iff.mp success
      dsimp only at success
      split at success; · cases success
      rename_i fresh
      obtain ⟨rfl, rfl⟩ := Prod.mk.inj (Except.ok.inj success)
      exact .publish owner (not_not.mp fresh)
  | deactivatePolicy policyId =>
      obtain ⟨owner, success⟩ := onlyOwner_eq_ok_iff.mp success
      dsimp only at success
      split at success; · cases success
      rename_i published
      obtain ⟨rfl, rfl⟩ := Prod.mk.inj (Except.ok.inj success)
      exact .deactivate owner published
  | transferOwnership newOwner =>
      obtain ⟨owner, success⟩ := onlyOwner_eq_ok_iff.mp success
      split at success; · cases success
      obtain ⟨rfl, rfl⟩ := Prod.mk.inj (Except.ok.inj success)
      exact .owner owner
  | renounceOwnership =>
      obtain ⟨owner, success⟩ := onlyOwner_eq_ok_iff.mp success
      obtain ⟨rfl, rfl⟩ := Prod.mk.inj (Except.ok.inj success)
      exact .owner owner

end Specifications
/-! ## What the log tells -/

/-- The storage without the times of creation. -/
def timeless (s : PolicyRegistry) : PolicyRegistry :=
  { s with policies := fun key => { s.policies key with createdAt := 0 } }

/-- What an event says about the storage. -/
def Event.apply (s : PolicyRegistry) : Event → PolicyRegistry
  | .policyPublished key countryCode ipfsCID => s.publish key countryCode ipfsCID 0
  | .policyDeactivated key => s.deactivate key
  | .ownershipTransferred _ newOwner => { s with owner := newOwner }

section Log

variable (keccak256 : Bytes → Bytes32) (s : PolicyRegistry)

theorem timeless_publish (key : Bytes32) (countryCode : Bytes2) (ipfsCID : Bytes) (time : ℕ) :
    (s.publish key countryCode ipfsCID time).timeless =
      s.timeless.publish key countryCode ipfsCID 0 := by
  refine congrArg (PolicyRegistry.mk s.owner) (funext fun other => ?_)
  by_cases same : other = key
  · simp [publish, same]
  · simp [publish, timeless, same]

theorem timeless_deactivate (key : Bytes32) :
    (s.deactivate key).timeless = s.timeless.deactivate key := by
  refine congrArg (PolicyRegistry.mk s.owner) (funext fun other => ?_)
  by_cases same : other = key
  · simp [deactivate, timeless, same]
  · simp [deactivate, timeless, same]

/-- Every function announces what it writes, but for the time. -/
theorem sourced : (machine keccak256).Sourced timeless Event.apply := by
  intro s tx s' new success
  cases Step.of_call success with
  | publish => exact timeless_publish s ..
  | deactivate => exact timeless_deactivate s ..
  | owner => rfl

/-- **The log tells the registry.** -/
theorem policies_from_events (initialOwner : Address) (txs : List Tx) :
    ((machine keccak256).run (initialized initialOwner) txs).timeless =
      ((machine keccak256).events (initialized initialOwner) txs).foldl Event.apply
        (initialized initialOwner) :=
  (sourced keccak256).view_run (initialized initialOwner) txs

end Log

/-! ## Published records -/

/-- The record of `key` is the old one, apart from the deactivations in the log. -/
structure Stands (old : PolicyMeta) (key : Bytes32) (s : PolicyRegistry) (log : List Event) :
    Prop where
  record : s.policies key =
    { old with active := old.active && !log.contains (.policyDeactivated key) }
  unrepeated : ∀ countryCode ipfsCID, .policyPublished key countryCode ipfsCID ∉ log

section Records

variable {keccak256 : Bytes → Bytes32} {old : PolicyMeta} {key : Bytes32} {s s' : PolicyRegistry}
variable {log new : List Event} {tx : Tx}

theorem Stands.start (s : PolicyRegistry) (key : Bytes32) : Stands (s.policies key) key s [] where
  record := by simp
  unrepeated _ _ := List.not_mem_nil

/-- A step that leaves the record alone and says nothing about it. -/
theorem Stands.other (held : Stands old key s log) (kept : s'.policies key = s.policies key)
    (deactivated : .policyDeactivated key ∉ new)
    (published : ∀ countryCode ipfsCID, .policyPublished key countryCode ipfsCID ∉ new) :
    Stands old key s' (log ++ new) where
  record := by
    rw [kept, held.record, List.contains_append]
    simp [deactivated]
  unrepeated countryCode ipfsCID mem :=
    (List.mem_append.mp mem).elim (held.unrepeated countryCode ipfsCID)
      (published countryCode ipfsCID)

/-- **One step.** -/
theorem Stands.step (held : Stands old key s log) (created : old.createdAt ≠ 0)
    (step : Step keccak256 s tx s' new) : Stands old key s' (log ++ new) := by
  cases step with
  | @publish env policyId countryCode ipfsCID owner fresh =>
      have other : key ≠ keccak256 policyId := by
        rintro rfl
        rw [held.record] at fresh
        exact created fresh
      refine held.other (Function.update_of_ne other ..) (by simp) ?_
      intro countryCode' ipfsCID' mem
      simp only [List.mem_singleton, Event.policyPublished.injEq] at mem
      exact other mem.1
  | @deactivate env policyId owner published =>
      by_cases same : key = keccak256 policyId
      · subst same
        refine ⟨?_, fun countryCode ipfsCID mem => ?_⟩
        · show Function.update s.policies _ _ _ = _
          rw [Function.update_self, held.record, List.contains_append]
          simp
        · rcases List.mem_append.mp mem with earlier | now
          · exact held.unrepeated countryCode ipfsCID earlier
          · exact absurd (List.mem_singleton.mp now) (by simp)
      · refine held.other (Function.update_of_ne same ..) ?_ (by simp)
        simpa using same
  | owner => exact held.other rfl (by simp) (by simp)

/-- **A published record stands.**  In every run it keeps its country, its document and its
time; it is active until the log has a deactivation, and the log has no second publication. -/
theorem published_stands (keccak256 : Bytes → Bytes32) (s : PolicyRegistry) (key : Bytes32)
    (created : (s.policies key).createdAt ≠ 0) (txs : List Tx) :
    let log := (machine keccak256).events s txs
    ((machine keccak256).run s txs).policies key =
        { s.policies key with
          active := (s.policies key).active && !log.contains (.policyDeactivated key) } ∧
      ∀ countryCode ipfsCID, .policyPublished key countryCode ipfsCID ∉ log := by
  have held : Stands (s.policies key) key ((machine keccak256).run s txs)
      ((machine keccak256).events s txs) := by
    refine Machine.run_induction (I := fun s' log _ => Stands (s.policies key) key s' log)
      (Stands.start s key) ?_ txs
    intro s' log _ tx s'' new held success
    exact held.step created (Step.of_call success)
  exact ⟨held.record, held.unrepeated⟩

end Records

/-- The key of the policy "healthcare-reform-2026". -/
def sampleKey : Bytes32 := 0x4fa7b89b7d07c5a6a29e133d0cbf3f6eb034f379b8eb268122f14fd83f57aad0

/-- That policy, published by account 1. -/
def samplePublished : PolicyRegistry :=
  (initialized 1).publish sampleKey gb [0x62, 0x61, 0x66] 100

/-- The policy is published once more, which reverts, and deactivated. -/
def sampleLater : List Tx :=
  [⟨⟨1, 200, 2⟩, .publishPolicy samplePolicyId gb [0x62]⟩,
    ⟨⟨1, 300, 3⟩, .deactivatePolicy samplePolicyId⟩]

theorem published_stands_sample :
    ((machine sampleKeccak256).run samplePublished sampleLater).policies sampleKey =
      { samplePublished.policies sampleKey with active := false } := by
  have created : (samplePublished.policies sampleKey).createdAt ≠ 0 := by decide
  have deactivated : ((machine sampleKeccak256).events samplePublished sampleLater).contains
      (.policyDeactivated sampleKey) = true := by decide
  have stands := (published_stands sampleKeccak256 samplePublished sampleKey created sampleLater).1
  rw [deactivated] at stands
  simpa using stands

end PolicyRegistry

end TheVoteApp
