import TheVoteApp.Foundations.Machine
import TheVoteApp.Registration.VoterRegistry

/-!
# Self-service registration

`POST /identity/register`, any number of requests at once.  After the identity
adapter has answered, a request talks to two shared stores, the used-identifier
store and the registry contract, and every such exchange is one step; the steps
of different requests interleave freely.  A run is therefore a list of request
numbers: each entry lets that request take its next step.

## Main definitions

* `UsedIdentifierStore` — the Redis commands of the claim store
* `Phase` — where a request stands
* `advance` — the next step of one request
* `machine` — all requests together
-/

namespace TheVoteApp.Registration

open Solidity Foundations

/-- An identifier of a document.  Adapters that have none leave it out. -/
abbrev SybilKey := {key : String // key ≠ ""}

/-! ## The used-identifier store -/

/-- The keys in use, each with the commitment that holds it. -/
abbrev UsedIdentifierStore := SybilKey → Option Bytes32

namespace UsedIdentifierStore

/-- `SET key commitment NX`: the new store, if the key was free. -/
def setNX (store : UsedIdentifierStore) (key : SybilKey) (commitment : Bytes32) :
    Option UsedIdentifierStore :=
  match store key with
  | none => some (Function.update store key (some commitment))
  | some _ => none

/-- The script of `release`: delete the key if `commitment` holds it. -/
def release (store : UsedIdentifierStore) (key : SybilKey) (commitment : Bytes32) :
    UsedIdentifierStore :=
  if store key = some commitment then Function.update store key none else store

end UsedIdentifierStore

/-! ## Requests -/

/-- What the identity adapter returns for a request, the country code already in
its two-byte encoding.  Adapters write commitments in lower case, so that equal
commitments have equal texts. -/
structure Request where
  commitment : Bytes32
  countryCode : Bytes2
  sybilKey : Option SybilKey

/-- The answer a request ends with. -/
inductive Response where
  /-- 409, "This identity has already registered" -/
  | conflict
  /-- 200 with `alreadyRegistered: true` -/
  | alreadyRegistered
  /-- 201 -/
  | registered
  /-- 400 -/
  | failed
deriving DecidableEq

/-- Where a request stands.  `claimed` is the key this request newly claimed, if
it did: the one it gives back when the transaction fails. -/
inductive Phase where
  /-- The adapter has answered; `SET NX` comes next. -/
  | verified
  /-- The key was taken; `GET` comes next. -/
  | keyTaken (key : SybilKey)
  /-- Past the store; `isRegistered` comes next. -/
  | admitted (claimed : Option SybilKey)
  /-- Not registered yet; the `register` transaction comes next. -/
  | unregistered (claimed : Option SybilKey)
  /-- The transaction failed; `release` comes next. -/
  | releasing (key : SybilKey)
  | answered (response : Response)
deriving DecidableEq

/-- The two stores and the phase of every request. -/
structure State where
  store : UsedIdentifierStore
  registry : VoterRegistry
  phase : ℕ → Phase

/-- Request `i` moves on. -/
def State.goto (s : State) (i : ℕ) (phase : Phase) : State :=
  { s with phase := Function.update s.phase i phase }

/-- Every request stands before the store, and no key is in use. -/
def start (registry : VoterRegistry) : State where
  store := fun _ => none
  registry := registry
  phase := fun _ => .verified

section Steps

variable (requests : ℕ → Request) (relay : Address)

/-- The next step of request `i`; `none` when it has been answered. -/
def advance (s : State) (i : ℕ) : Option State :=
  let request := requests i
  match s.phase i with
  | .verified =>
    match request.sybilKey with
    | none => some (s.goto i (.admitted none))
    | some key =>
      match s.store.setNX key request.commitment with
      | some store => some ({ s with store := store }.goto i (.admitted (some key)))
      | none => some (s.goto i (.keyTaken key))
  | .keyTaken key =>
    match s.store key with
    -- the key vanished between SET and GET: claim again
    | none => some (s.goto i .verified)
    | some existing =>
      if existing ≠ request.commitment then some (s.goto i (.answered .conflict))
      else some (s.goto i (.admitted none))
  | .admitted claimed =>
    if s.registry.isRegistered request.commitment request.countryCode then
      some (s.goto i (.answered .alreadyRegistered))
    else some (s.goto i (.unregistered claimed))
  | .unregistered claimed =>
    match s.registry.register relay request.commitment request.countryCode with
    | .ok (registry, _) =>
      some ({ s with registry := registry }.goto i (.answered .registered))
    | .error _ =>
      match claimed with
      | some key => some (s.goto i (.releasing key))
      | none => some (s.goto i (.answered .failed))
  | .releasing key =>
    some ({ s with store := s.store.release key request.commitment }.goto i (.answered .failed))
  | .answered _ => none

/-- All requests together, driven by a schedule of request numbers. -/
def machine : Machine State ℕ Unit Unit where
  call s i :=
    match advance requests relay s i with
    | some s' => .ok (s', [])
    | none => .error ()

end Steps

/-! ## What one step does -/

/-- **One step of a request**, by the phase it starts in. -/
inductive Step (requests : ℕ → Request) (relay : Address) (s : State) (i : ℕ) : State → Prop where
  | unkeyed (phase : s.phase i = .verified) (noKey : (requests i).sybilKey = none) :
      Step requests relay s i (s.goto i (.admitted none))
  | claims {key : SybilKey} (phase : s.phase i = .verified)
      (hasKey : (requests i).sybilKey = some key) (free : s.store key = none) :
      Step requests relay s i
        ({ s with store := Function.update s.store key (some (requests i).commitment) }.goto i
          (.admitted (some key)))
  | taken {key : SybilKey} (phase : s.phase i = .verified)
      (hasKey : (requests i).sybilKey = some key) :
      Step requests relay s i (s.goto i (.keyTaken key))
  | vanished {key : SybilKey} (phase : s.phase i = .keyTaken key) :
      Step requests relay s i (s.goto i .verified)
  | conflicts {key : SybilKey} (phase : s.phase i = .keyTaken key) :
      Step requests relay s i (s.goto i (.answered .conflict))
  | retries {key : SybilKey} (phase : s.phase i = .keyTaken key)
      (held : s.store key = some (requests i).commitment) :
      Step requests relay s i (s.goto i (.admitted none))
  | skips {claimed : Option SybilKey} (phase : s.phase i = .admitted claimed) :
      Step requests relay s i (s.goto i (.answered .alreadyRegistered))
  | proceeds {claimed : Option SybilKey} (phase : s.phase i = .admitted claimed) :
      Step requests relay s i (s.goto i (.unregistered claimed))
  | registers {claimed : Option SybilKey} (phase : s.phase i = .unregistered claimed)
      (accepts : s.registry.Accepts relay (requests i).countryCode)
      (fresh : ¬ s.registry.Registered (requests i).commitment) :
      Step requests relay s i
        ({ s with
            registry := s.registry.recordVoter (requests i).commitment
              (requests i).countryCode }.goto i (.answered .registered))
  | fails (phase : s.phase i = .unregistered none) :
      Step requests relay s i (s.goto i (.answered .failed))
  | failsClaimed {key : SybilKey} (phase : s.phase i = .unregistered (some key))
      (reverts : ¬ ∃ r, s.registry.register relay (requests i).commitment
        (requests i).countryCode = .ok r) :
      Step requests relay s i (s.goto i (.releasing key))
  | releases {key : SybilKey} (phase : s.phase i = .releasing key) :
      Step requests relay s i
        ({ s with store := s.store.release key (requests i).commitment }.goto i
          (.answered .failed))

variable {requests : ℕ → Request} {relay : Address}

/-- Every step of the machine is one of these. -/
theorem Step.of_advance {s s' : State} {i : ℕ} (moved : advance requests relay s i = some s') :
    Step requests relay s i s' := by
  unfold advance at moved
  cases phase : s.phase i with
  | verified =>
      simp only [phase] at moved
      cases hasKey : (requests i).sybilKey with
      | none =>
          simp only [hasKey, Option.some.injEq] at moved
          exact moved ▸ .unkeyed phase hasKey
      | some key =>
          cases free : s.store key with
          | none =>
              simp only [hasKey, UsedIdentifierStore.setNX, free, Option.some.injEq] at moved
              exact moved ▸ .claims phase hasKey free
          | some existing =>
              simp only [hasKey, UsedIdentifierStore.setNX, free, Option.some.injEq] at moved
              exact moved ▸ .taken phase hasKey
  | keyTaken key =>
      cases held : s.store key with
      | none =>
          simp only [phase, held, Option.some.injEq] at moved
          exact moved ▸ .vanished phase
      | some existing =>
          simp only [phase, held] at moved
          split at moved
          · exact Option.some.inj moved ▸ .conflicts phase
          · rename_i same
            -- a retry of the one who holds the key
            rw [not_not.mp same] at held
            exact Option.some.inj moved ▸ .retries phase held
  | admitted claimed =>
      simp only [phase] at moved
      split at moved
      · exact Option.some.inj moved ▸ .skips phase
      · exact Option.some.inj moved ▸ .proceeds phase
  | unregistered claimed =>
      simp only [phase] at moved
      cases outcome : s.registry.register relay (requests i).commitment
        (requests i).countryCode with
      | ok r =>
          obtain ⟨registry, events⟩ := r
          obtain ⟨accepts, -, fresh, rfl, -⟩ := VoterRegistry.register_eq_ok_iff.mp outcome
          simp only [outcome, Option.some.injEq] at moved
          exact moved ▸ .registers phase accepts fresh
      | error e =>
          cases claimed with
          | none =>
              simp only [outcome, Option.some.injEq] at moved
              exact moved ▸ .fails phase
          | some key =>
              simp only [outcome, Option.some.injEq] at moved
              exact moved ▸ .failsClaimed phase (by simp [outcome])
  | releasing key =>
      simp only [phase, Option.some.injEq] at moved
      exact moved ▸ .releases phase
  | answered response => simp [phase] at moved

theorem Step.of_call {s s' : State} {i : ℕ} {new : List Unit}
    (moved : (machine requests relay).call s i = .ok (s', new)) : Step requests relay s i s' := by
  cases outcome : advance requests relay s i with
  | none => simp [machine, outcome] at moved
  | some r =>
      obtain ⟨rfl, -⟩ := by simpa [machine, outcome] using moved
      exact .of_advance outcome

@[simp] theorem State.phase_goto_self (s : State) (i : ℕ) (phase : Phase) :
    (s.goto i phase).phase i = phase := Function.update_self ..

theorem State.phase_goto_of_ne (s : State) {i j : ℕ} (phase : Phase) (other : j ≠ i) :
    (s.goto i phase).phase j = s.phase j := Function.update_of_ne other ..

@[simp] theorem State.store_goto (s : State) (i : ℕ) (phase : Phase) :
    (s.goto i phase).store = s.store := rfl

@[simp] theorem State.registry_goto (s : State) (i : ℕ) (phase : Phase) :
    (s.goto i phase).registry = s.registry := rfl

end TheVoteApp.Registration
