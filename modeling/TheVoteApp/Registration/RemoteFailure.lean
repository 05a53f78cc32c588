import TheVoteApp.Registration.Route

/-!
# Registrations that fail

`POST /identity/register` when remote calls fail.  After the claim a request
makes three of them: the `isRegistered` read, the submission of the transaction,
and the wait for its receipt.  Each may fail for any reason, and a transaction
may be mined although its submission or the wait for it failed.

The handler gives the key back when the submission or the wait fails; the read
comes before the `try` that does so.

## Main definitions

* `RemoteCall`, `Phase`, `State` — the calls, and where the requests stand
* `advance`, `mine` — the next step of a request, and of the chain
* `Invariant` — a newly claimed key is held by the request that claimed it
* `Follows` — a state has the stores and the phases of one of the route

## Main results

* `exists_run_of_route` — every run of the route is one of this machine
* `key_restored_iff` — which failures leave the store as it was
-/

namespace TheVoteApp.Registration.RemoteFailure

open Solidity Foundations

/-- The remote calls after the claim. -/
inductive RemoteCall where
  | isRegistered
  | submission
  | receipt
deriving DecidableEq

/-- The answer a request ends with. -/
inductive Response where
  /-- 409, "This identity has already registered" -/
  | conflict
  /-- 200 with `alreadyRegistered: true` -/
  | alreadyRegistered
  /-- 201 -/
  | registered
  /-- 400, with the error of the call -/
  | failed (call : RemoteCall)
deriving DecidableEq

/-- Where a request stands.  `claimed` is the key this request newly claimed, if
it did. -/
inductive Phase where
  /-- The adapter has answered; `SET NX` comes next. -/
  | verified
  /-- The key was taken; `GET` comes next. -/
  | keyTaken (key : SybilKey)
  /-- Past the store; `isRegistered` comes next. -/
  | admitted (claimed : Option SybilKey)
  /-- Not registered yet; the submission comes next. -/
  | unregistered (claimed : Option SybilKey)
  /-- Submitted; the wait for the receipt comes next. -/
  | submitted (claimed : Option SybilKey)
  /-- A call failed; `release` comes next. -/
  | releasing (key : SybilKey) (call : RemoteCall)
  | answered (response : Response)
deriving DecidableEq

/-- The key a request has newly claimed and not yet been answered about. -/
def Phase.claimedKey : Phase → Option SybilKey
  | .admitted claimed => claimed
  | .unregistered claimed => claimed
  | .submitted claimed => claimed
  | .releasing key _ => some key
  | _ => none

/-- The transaction of a request. -/
inductive Transaction where
  | unsent
  | pending
  | mined
  | reverted
deriving DecidableEq

/-- The stores, the transactions, and the phase of every request. -/
structure State where
  store : UsedIdentifierStore
  registry : VoterRegistry
  transaction : ℕ → Transaction
  phase : ℕ → Phase

/-- Request `i` moves on. -/
def State.goto (s : State) (i : ℕ) (phase : Phase) : State :=
  { s with phase := Function.update s.phase i phase }

@[simp] theorem State.phase_goto_self (s : State) (i : ℕ) (phase : Phase) :
    (s.goto i phase).phase i = phase := Function.update_self ..

theorem State.phase_goto_of_ne (s : State) {i j : ℕ} (phase : Phase) (other : j ≠ i) :
    (s.goto i phase).phase j = s.phase j := Function.update_of_ne other ..

@[simp] theorem State.store_goto (s : State) (i : ℕ) (phase : Phase) :
    (s.goto i phase).store = s.store := rfl

/-- The transaction of request `i` has been sent, or was about to be. -/
def State.send (s : State) (i : ℕ) : State :=
  { s with transaction := Function.update s.transaction i .pending }

/-- Every request stands before the store, and no key is in use. -/
def start (registry : VoterRegistry) : State where
  store := fun _ => none
  registry := registry
  transaction := fun _ => .unsent
  phase := fun _ => .verified

/-- The handler of a failed transaction: a newly claimed key is given back
first. -/
def failing (claimed : Option SybilKey) (call : RemoteCall) : Phase :=
  match claimed with
  | some key => .releasing key call
  | none => .answered (.failed call)

/-- What happens next: a step of a request, whose remote call may fail, or the
chain executes the transaction of a request. -/
inductive Action where
  | request (i : ℕ) (fails : Bool)
  | mine (i : ℕ)
deriving DecidableEq

section Steps

variable (requests : ℕ → Request) (relay : Address)

/-- The next step of request `i`; `none` when it has been answered, or waits for
a transaction that is not mined. -/
def advance (s : State) (i : ℕ) (fails : Bool) : Option State :=
  let request := requests i
  match s.phase i with
  | .verified =>
    match request.sybilKey with
    | none => some (s.goto i (.admitted none))
    | some key =>
      match s.store.setNX key request.commitment with
      | some store => some ({ s with store := store }.goto i (.admitted (some key)))
      | none => some (s.goto i (.keyTaken key))
  | .keyTaken key =>
    match s.store key with
    | none => some (s.goto i .verified)
    | some existing =>
      if existing ≠ request.commitment then some (s.goto i (.answered .conflict))
      else some (s.goto i (.admitted none))
  | .admitted claimed =>
    -- outside the inner `try`: the error goes straight to the response
    if fails then some (s.goto i (.answered (.failed .isRegistered)))
    else if s.registry.isRegistered request.commitment request.countryCode then
      some (s.goto i (.answered .alreadyRegistered))
    else some (s.goto i (.unregistered claimed))
  | .unregistered claimed =>
    if fails then some ((s.send i).goto i (failing claimed .submission))
    else some ((s.send i).goto i (.submitted claimed))
  | .submitted claimed =>
    if fails then some (s.goto i (failing claimed .receipt))
    else if s.transaction i = .mined then some (s.goto i (.answered .registered))
    else none
  | .releasing key call =>
    some ({ s with store := s.store.release key request.commitment }.goto i
      (.answered (.failed call)))
  | .answered _ => none

/-- The chain executes the transaction of request `i`. -/
def mine (s : State) (i : ℕ) : Option State :=
  match s.transaction i with
  | .pending =>
    match s.registry.register relay (requests i).commitment (requests i).countryCode with
    | .ok (registry, _) =>
      some { s with registry := registry, transaction := Function.update s.transaction i .mined }
    | .error _ => some { s with transaction := Function.update s.transaction i .reverted }
  | _ => none

/-- All requests and the chain. -/
def machine : Machine State Action Unit Unit where
  call s action :=
    let moved := match action with
      | .request i fails => advance requests s i fails
      | .mine i => mine requests relay s i
    match moved with
    | some s' => .ok (s', [])
    | none => .error ()

end Steps

/-! ## What one step does to the claims -/

/-- **One step**, by what it does to the store and to the claims. -/
inductive Step (requests : ℕ → Request) (s : State) : State → Prop where
  | claims {i : ℕ} {key : SybilKey} {s' : State} (unclaimed : (s.phase i).claimedKey = none)
      (free : s.store key = none)
      (store : s'.store = Function.update s.store key (some (requests i).commitment))
      (phase : s'.phase = Function.update s.phase i (.admitted (some key))) : Step requests s s'
  | keeps {i : ℕ} (phase : Phase) {s' : State} (sameKey : phase.claimedKey = (s.phase i).claimedKey)
      (failure : ∀ key call, phase = .releasing key call → call ≠ .isRegistered)
      (store : s'.store = s.store) (moves : s'.phase = Function.update s.phase i phase) :
      Step requests s s'
  | ends {i : ℕ} (response : Response) {s' : State}
      (failure : ∀ call, response = .failed call → (s.phase i).claimedKey ≠ none →
        call = .isRegistered)
      (store : s'.store = s.store)
      (moves : s'.phase = Function.update s.phase i (.answered response)) : Step requests s s'
  | releases {i : ℕ} {key : SybilKey} {call : RemoteCall} {s' : State}
      (phase : s.phase i = .releasing key call)
      (store : s'.store = s.store.release key (requests i).commitment)
      (moves : s'.phase = Function.update s.phase i (.answered (.failed call))) :
      Step requests s s'
  | mines {s' : State} (store : s'.store = s.store) (phase : s'.phase = s.phase) :
      Step requests s s'

variable {requests : ℕ → Request} {relay : Address}

/-- The handler of a failed transaction keeps a newly claimed key until it is
given back. -/
theorem Step.of_failing {s : State} (sent : State) {i : ℕ} {claimed : Option SybilKey}
    {call : RemoteCall} (sameStore : sent.store = s.store) (samePhase : sent.phase = s.phase)
    (claimedKey : (s.phase i).claimedKey = claimed) (later : call ≠ .isRegistered) :
    Step requests s (sent.goto i (failing claimed call)) := by
  have moves : (sent.goto i (failing claimed call)).phase =
      Function.update s.phase i (failing claimed call) := by rw [← samePhase]; rfl
  cases claimed with
  | none =>
      refine .ends (i := i) (.failed call) ?_ sameStore moves
      exact fun _ _ claimedSome => absurd claimedKey claimedSome
  | some key =>
      refine .keeps (i := i) (.releasing key call) claimedKey.symm ?_ sameStore moves
      intro key' call' same
      obtain ⟨-, rfl⟩ := Phase.releasing.inj same
      exact later

theorem Step.of_advance {s s' : State} {i : ℕ} {fails : Bool}
    (moved : advance requests s i fails = some s') : Step requests s s' := by
  unfold advance at moved
  -- by phase, and within it by what the store or the remote call answers
  cases phase : s.phase i with
  | verified =>
      simp only [phase] at moved
      cases hasKey : (requests i).sybilKey with
      | none =>
          simp only [hasKey, Option.some.injEq] at moved
          exact moved ▸ .keeps (i := i) _ (by simp [phase, Phase.claimedKey]) (by simp) rfl rfl
      | some key =>
          cases free : s.store key with
          | none =>
              simp only [hasKey, UsedIdentifierStore.setNX, free, Option.some.injEq] at moved
              exact moved ▸ .claims (i := i) (by simp [phase, Phase.claimedKey]) free rfl rfl
          | some existing =>
              simp only [hasKey, UsedIdentifierStore.setNX, free, Option.some.injEq] at moved
              exact moved ▸ .keeps (i := i) _ (by simp [phase, Phase.claimedKey]) (by simp) rfl rfl
  | keyTaken key =>
      simp only [phase] at moved
      cases held : s.store key with
      | none =>
          simp only [held, Option.some.injEq] at moved
          exact moved ▸ .keeps (i := i) _ (by simp [phase, Phase.claimedKey]) (by simp) rfl rfl
      | some existing =>
          simp only [held] at moved
          split at moved
          · exact Option.some.inj moved ▸ .ends (i := i) _ (by simp) rfl rfl
          · exact Option.some.inj moved ▸
              .keeps (i := i) _ (by simp [phase, Phase.claimedKey]) (by simp) rfl rfl
  | admitted claimed =>
      simp only [phase] at moved
      split at moved
      · exact Option.some.inj moved ▸ .ends (i := i) _ (by simp) rfl rfl
      · split at moved
        · exact Option.some.inj moved ▸ .ends (i := i) _ (by simp) rfl rfl
        · exact Option.some.inj moved ▸
            .keeps (i := i) _ (by simp [phase, Phase.claimedKey]) (by simp) rfl rfl
  | unregistered claimed =>
      simp only [phase] at moved
      have claimedKey : (s.phase i).claimedKey = claimed := by rw [phase]; rfl
      split at moved
      · exact Option.some.inj moved ▸ .of_failing (s.send i) rfl rfl claimedKey (by decide)
      · exact Option.some.inj moved ▸
          .keeps (i := i) (.submitted claimed) claimedKey.symm (by simp) rfl rfl
  | submitted claimed =>
      simp only [phase] at moved
      have claimedKey : (s.phase i).claimedKey = claimed := by rw [phase]; rfl
      split at moved
      · exact Option.some.inj moved ▸ .of_failing s rfl rfl claimedKey (by decide)
      · split at moved
        · exact Option.some.inj moved ▸ .ends (i := i) _ (by simp) rfl rfl
        · cases moved
  | releasing key call =>
      simp only [phase, Option.some.injEq] at moved
      exact moved ▸ .releases phase rfl rfl
  | answered response => simp [phase] at moved

theorem Step.of_mine {s s' : State} {i : ℕ} (moved : mine requests relay s i = some s') :
    Step requests s s' := by
  unfold mine at moved
  split at moved
  · split at moved
    · exact Option.some.inj moved ▸ .mines rfl rfl
    · exact Option.some.inj moved ▸ .mines rfl rfl
  · cases moved

theorem Step.of_call {s s' : State} {action : Action} {new : List Unit}
    (moved : (machine requests relay).call s action = .ok (s', new)) : Step requests s s' := by
  cases action with
  | request i fails =>
      cases outcome : advance requests s i fails with
      | none => simp [machine, outcome] at moved
      | some r =>
          obtain ⟨rfl, -⟩ := by simpa [machine, outcome] using moved
          exact .of_advance outcome
  | mine i =>
      cases outcome : mine requests relay s i with
      | none => simp [machine, outcome] at moved
      | some r =>
          obtain ⟨rfl, -⟩ := by simpa [machine, outcome] using moved
          exact .of_mine outcome

/-- An action that changes the state is a step. -/
theorem Step.of_next {s : State} {action : Action}
    (changed : (machine requests relay).next s action ≠ s) :
    Step requests s ((machine requests relay).next s action) := by
  by_cases succeeds : (machine requests relay).Succeeds s action
  · obtain ⟨⟨s', new⟩, moved⟩ := succeeds
    rw [Machine.next_of_ok moved]
    exact .of_call moved
  · exact absurd (Machine.next_of_not_succeeds succeeds) changed

/-! ## The invariant -/

/-- A newly claimed key is held by the one request that claimed it, and what is
given back is given back for a failed transaction. -/
structure Invariant (requests : ℕ → Request) (s : State) : Prop where
  held : ∀ i key, (s.phase i).claimedKey = some key →
    s.store key = some (requests i).commitment
  unique : ∀ i j key, (s.phase i).claimedKey = some key → (s.phase j).claimedKey = some key →
    i = j
  failure : ∀ i key call, s.phase i = .releasing key call → call ≠ .isRegistered

theorem Invariant.start (registry : VoterRegistry) :
    Invariant requests (start registry) where
  held _ _ claimed := by cases claimed
  unique _ _ _ claimed := by cases claimed
  failure _ _ _ releasing := by cases releasing

/-- Leaving the claims of all requests but one, and claiming nothing new, keeps
the invariant. -/
theorem Invariant.of_moves {s s' : State} {i : ℕ} {phase : Phase} (inv : Invariant requests s)
    (moves : s'.phase = Function.update s.phase i phase)
    (fewer : ∀ key, phase.claimedKey = some key → (s.phase i).claimedKey = some key)
    (failure : ∀ key call, phase = .releasing key call → call ≠ .isRegistered)
    (stores : ∀ j key, (s'.phase j).claimedKey = some key →
      s'.store key = s.store key) : Invariant requests s' := by
  have older : ∀ j key, (s'.phase j).claimedKey = some key → (s.phase j).claimedKey = some key := by
    intro j key claimed
    rw [moves] at claimed
    by_cases same : j = i
    · subst same
      rw [Function.update_self] at claimed
      exact fewer key claimed
    · rwa [Function.update_of_ne same] at claimed
  refine ⟨?held, ?unique, ?failure⟩
  case held =>
    intro j key claimed
    rw [stores j key claimed]
    exact inv.held j key (older j key claimed)
  case unique =>
    intro j k key claimedJ claimedK
    exact inv.unique j k key (older j key claimedJ) (older k key claimedK)
  case failure =>
    intro j key call releasing
    rw [moves] at releasing
    by_cases same : j = i
    · subst same
      rw [Function.update_self] at releasing
      exact failure key call releasing
    · rw [Function.update_of_ne same] at releasing
      exact inv.failure j key call releasing

theorem Invariant.step {s s' : State} (inv : Invariant requests s) (step : Step requests s s') :
    Invariant requests s' := by
  cases step with
  | @claims i key _ unclaimed free store phase =>
      -- the key was free, so no other request holds it
      have nobody : ∀ j, (s.phase j).claimedKey ≠ some key := by
        intro j claimed
        rw [inv.held j key claimed] at free
        cases free
      refine ⟨?_, ?_, ?_⟩
      · intro j key' claimed
        rw [phase] at claimed
        rw [store]
        by_cases same : j = i
        · subst same
          obtain rfl : key = key' := by simpa [Phase.claimedKey] using claimed
          exact Function.update_self ..
        · rw [Function.update_of_ne same] at claimed
          have other : key' ≠ key := by
            rintro rfl
            exact nobody j claimed
          rw [Function.update_of_ne other]
          exact inv.held j key' claimed
      · intro j k key' claimedJ claimedK
        rw [phase] at claimedJ claimedK
        by_cases sameJ : j = i <;> by_cases sameK : k = i
        · rw [sameJ, sameK]
        · subst sameJ
          obtain rfl : key = key' := by simpa [Phase.claimedKey] using claimedJ
          rw [Function.update_of_ne sameK] at claimedK
          exact absurd claimedK (nobody k)
        · subst sameK
          obtain rfl : key = key' := by simpa [Phase.claimedKey] using claimedK
          rw [Function.update_of_ne sameJ] at claimedJ
          exact absurd claimedJ (nobody j)
        · rw [Function.update_of_ne sameJ] at claimedJ
          rw [Function.update_of_ne sameK] at claimedK
          exact inv.unique j k key' claimedJ claimedK
      · intro j key' call releasing
        rw [phase] at releasing
        by_cases same : j = i
        · subst same
          simp at releasing
        · rw [Function.update_of_ne same] at releasing
          exact inv.failure j key' call releasing
  | keeps phase sameKey failure store moves =>
      exact inv.of_moves moves (fun key claimed => sameKey ▸ claimed) failure
        fun _ _ _ => by rw [store]
  | ends response _ store moves =>
      exact inv.of_moves moves (fun key claimed => by cases claimed)
        (fun _ _ same => by cases same) fun _ _ _ => by rw [store]
  | @releases i key call _ phase store moves =>
      refine inv.of_moves moves (fun _ claimed => by cases claimed)
        (fun _ _ same => by cases same) ?_
      intro j key' claimed
      have claimedI : (s.phase i).claimedKey = some key := by rw [phase]; rfl
      have other : key' ≠ key := by
        rintro rfl
        rw [moves] at claimed
        by_cases same : j = i
        · subst same
          simp [Phase.claimedKey] at claimed
        · rw [Function.update_of_ne same] at claimed
          exact same (inv.unique j i key' claimed claimedI)
      rw [store, UsedIdentifierStore.release]
      split
      · exact Function.update_of_ne other _ _
      · rfl
  | mines store phase =>
      refine ⟨?_, ?_, ?_⟩
      · intro i key claimed
        rw [store]
        exact inv.held i key (phase ▸ claimed)
      · intro i j key claimedI claimedJ
        exact inv.unique i j key (phase ▸ claimedI) (phase ▸ claimedJ)
      · intro i key call releasing
        exact inv.failure i key call (phase ▸ releasing)

theorem Invariant.run (requests : ℕ → Request) (relay : Address) (registry : VoterRegistry)
    (actions : List Action) :
    Invariant requests ((machine requests relay).run (RemoteFailure.start registry) actions) :=
  Machine.run_invariant (.start registry)
    (fun _ _ _ _ inv moved => inv.step (.of_call moved)) actions

/-! ## The route without failures -/

/-- The phase of a request of the route, where a transaction that failed is one whose
receipt did not come. -/
def ofPhase : Registration.Phase → Phase
  | .verified => .verified
  | .keyTaken key => .keyTaken key
  | .admitted claimed => .admitted claimed
  | .unregistered claimed => .unregistered claimed
  | .releasing key => .releasing key .receipt
  | .answered .conflict => .answered .conflict
  | .answered .alreadyRegistered => .answered .alreadyRegistered
  | .answered .registered => .answered .registered
  | .answered .failed => .answered (.failed .receipt)

/-- The stores and the phases are those of a state of the route. -/
structure Follows (t : Registration.State) (s : State) : Prop where
  store : s.store = t.store
  registry : s.registry = t.registry
  phase : ∀ i, s.phase i = ofPhase (t.phase i)

theorem Follows.start (registry : VoterRegistry) :
    Follows (Registration.start registry) (start registry) :=
  ⟨rfl, rfl, fun _ => rfl⟩

/-- A request moves on in both. -/
theorem Follows.moves {t t' : Registration.State} {s s' : State} (follows : Follows t s) {i : ℕ}
    (phase : Registration.Phase) (store : s'.store = t'.store)
    (registry : s'.registry = t'.registry)
    (moves : s'.phase = Function.update s.phase i (ofPhase phase))
    (moves' : t'.phase = Function.update t.phase i phase) : Follows t' s' := by
  refine ⟨store, registry, fun j => ?_⟩
  rw [moves, moves']
  by_cases same : j = i
  · subst same
    rw [Function.update_self, Function.update_self]
  · rw [Function.update_of_ne same, Function.update_of_ne same]
    exact follows.phase j

theorem next_of_advance {s s' : State} {i : ℕ} {fails : Bool}
    (moved : advance requests s i fails = some s') :
    (machine requests relay).next s (.request i fails) = s' := by
  rw [Machine.next_of_ok (r := (s', []))]
  simp [machine, moved]

theorem next_of_mine {s s' : State} {i : ℕ} (moved : mine requests relay s i = some s') :
    (machine requests relay).next s (.mine i) = s' := by
  rw [Machine.next_of_ok (r := (s', []))]
  simp [machine, moved]

theorem mine_of_ok {s : State} {i : ℕ} {registry : VoterRegistry}
    {new : List VoterRegistry.Event} (pending : s.transaction i = .pending)
    (accepted : s.registry.register relay (requests i).commitment (requests i).countryCode =
      .ok (registry, new)) :
    mine requests relay s i = some { s with
      registry := registry, transaction := Function.update s.transaction i .mined } := by
  simp [mine, pending, accepted]

theorem mine_of_error {s : State} {i : ℕ} {e : VoterRegistry.Error}
    (pending : s.transaction i = .pending)
    (reverted : s.registry.register relay (requests i).commitment (requests i).countryCode =
      .error e) :
    mine requests relay s i = some { s with
      transaction := Function.update s.transaction i .reverted } := by
  simp [mine, pending, reverted]

/-- A transaction of the route is a submission, a block, and a wait, which fails if the
transaction was reverted. -/
theorem Follows.exists_run_of_unregistered {t t' : Registration.State} {s : State}
    (follows : Follows t s) {i : ℕ} {claimed : Option SybilKey}
    (phase : t.phase i = .unregistered claimed)
    (moved : Registration.advance requests relay t i = some t') :
    ∃ actions, Follows t' ((machine requests relay).run s actions) := by
  have here : s.phase i = .unregistered claimed := by rw [follows.phase, phase]; rfl
  let sent := (s.send i).goto i (.submitted claimed)
  have submits : advance requests s i false = some sent := by simp [advance, here, sent]
  have pending : sent.transaction i = .pending := Function.update_self ..
  have waits : sent.phase i = .submitted claimed := State.phase_goto_self ..
  unfold Registration.advance at moved
  simp only [phase, ← follows.registry] at moved
  cases outcome : s.registry.register relay (requests i).commitment (requests i).countryCode with
  | ok r =>
      obtain ⟨registry, new⟩ := r
      simp only [outcome, Option.some.injEq] at moved
      subst moved
      let mined : State := { sent with
        registry := registry, transaction := Function.update sent.transaction i .mined }
      have ends : advance requests mined i false =
          some (mined.goto i (.answered .registered)) := by
        simp [advance, mined, waits]
      refine ⟨[.request i false, .mine i, .request i false], ?_⟩
      rw [Machine.run_cons, next_of_advance submits, Machine.run_cons,
        next_of_mine (mine_of_ok pending outcome), Machine.run_cons, next_of_advance ends]
      exact follows.moves (.answered .registered) follows.store rfl
        (Function.update_idem _ _ _) rfl
  | error e =>
      let reverted : State := { sent with
        transaction := Function.update sent.transaction i .reverted }
      have ends : advance requests reverted i true =
          some (reverted.goto i (failing claimed .receipt)) := by
        simp [advance, reverted, waits]
      refine ⟨[.request i false, .mine i, .request i true], ?_⟩
      rw [Machine.run_cons, next_of_advance submits, Machine.run_cons,
        next_of_mine (mine_of_error pending outcome), Machine.run_cons, next_of_advance ends]
      cases claimed with
      | none =>
          simp only [outcome, Option.some.injEq] at moved
          subst moved
          exact follows.moves (.answered .failed) follows.store follows.registry
            (Function.update_idem _ _ _) rfl
      | some key =>
          simp only [outcome, Option.some.injEq] at moved
          subst moved
          exact follows.moves (.releasing key) follows.store follows.registry
            (Function.update_idem _ _ _) rfl

/-- Every step of the route is a run here. -/
theorem Follows.exists_run_of_advance {t t' : Registration.State} {s : State}
    (follows : Follows t s) {i : ℕ}
    (moved : Registration.advance requests relay t i = some t') :
    ∃ actions, Follows t' ((machine requests relay).run s actions) := by
  -- a step here whose call does not fail
  have single {t' : Registration.State} (s' : State)
      (next : advance requests s i false = some s') (reached : Follows t' s') :
      ∃ actions, Follows t' ((machine requests relay).run s actions) := by
    refine ⟨[.request i false], ?_⟩
    rwa [Machine.run_cons, next_of_advance next]
  -- one that leaves the stores as they are
  have goes (phase : Registration.Phase)
      (next : advance requests s i false = some (s.goto i (ofPhase phase))) :
      ∃ actions, Follows (t.goto i phase) ((machine requests relay).run s actions) :=
    single _ next (follows.moves phase follows.store follows.registry rfl rfl)
  have here := follows.phase i
  cases phase : t.phase i with
  | unregistered claimed => exact follows.exists_run_of_unregistered phase moved
  | verified =>
      rw [phase] at here
      unfold Registration.advance at moved
      cases hasKey : (requests i).sybilKey with
      | none =>
          simp only [phase, hasKey, Option.some.injEq] at moved
          subst moved
          exact goes (.admitted none) (by simp [advance, here, ofPhase, hasKey])
      | some key =>
          cases claim : t.store.setNX key (requests i).commitment with
          | none =>
              simp only [phase, hasKey, claim, Option.some.injEq] at moved
              subst moved
              exact goes (.keyTaken key)
                (by simp [advance, here, ofPhase, hasKey, follows.store, claim])
          | some store =>
              simp only [phase, hasKey, claim, Option.some.injEq] at moved
              subst moved
              exact single ({ s with store := store }.goto i (.admitted (some key)))
                (by simp [advance, here, ofPhase, hasKey, follows.store, claim])
                (follows.moves _ rfl follows.registry rfl rfl)
  | keyTaken key =>
      rw [phase] at here
      unfold Registration.advance at moved
      cases held : t.store key with
      | none =>
          simp only [phase, held, Option.some.injEq] at moved
          subst moved
          exact goes .verified (by simp [advance, here, ofPhase, follows.store, held])
      | some existing =>
          simp only [phase, held] at moved
          split at moved
          · rename_i other
            obtain rfl := Option.some.inj moved
            exact goes (.answered .conflict)
              (by simp [advance, here, ofPhase, follows.store, held, other])
          · rename_i same
            obtain rfl := Option.some.inj moved
            exact goes (.admitted none)
              (by simp [advance, here, ofPhase, follows.store, held, not_not.mp same])
  | admitted claimed =>
      rw [phase] at here
      unfold Registration.advance at moved
      simp only [phase, ← follows.registry] at moved
      split at moved
      · rename_i registered
        obtain rfl := Option.some.inj moved
        exact goes (.answered .alreadyRegistered) (by simp [advance, here, ofPhase, registered])
      · rename_i unregistered
        obtain rfl := Option.some.inj moved
        exact goes (.unregistered claimed) (by simp [advance, here, ofPhase, unregistered])
  | releasing key =>
      rw [phase] at here
      unfold Registration.advance at moved
      simp only [phase, Option.some.injEq, ← follows.store] at moved
      subst moved
      exact single ({ s with store := s.store.release key (requests i).commitment }.goto i
        (.answered (.failed .receipt))) (by simp [advance, here, ofPhase])
        (follows.moves _ rfl follows.registry rfl rfl)
  | answered response => simp [Registration.advance, phase] at moved

/-- **The route is a part of this machine.**  Every run of the route is a run in which the
submissions succeed and a transaction is mined at once. -/
theorem exists_run_of_route (requests : ℕ → Request) (relay : Address) (registry : VoterRegistry)
    (schedule : List ℕ) :
    ∃ actions, Follows
      ((Registration.machine requests relay).run (Registration.start registry) schedule)
      ((machine requests relay).run (start registry) actions) := by
  refine Machine.exists_run_of_simulates (fun t s i follows => ?_) (Follows.start registry) schedule
  by_cases succeeds : (Registration.machine requests relay).Succeeds t i
  · obtain ⟨⟨t', new⟩, moved⟩ := succeeds
    rw [Machine.next_of_ok moved]
    cases step : Registration.advance requests relay t i with
    | none => simp [Registration.machine, step] at moved
    | some reached =>
        obtain ⟨rfl, -⟩ : reached = t' ∧ [] = new := by
          simpa [Registration.machine, step] using moved
        exact follows.exists_run_of_advance step
  · rw [Machine.next_of_not_succeeds succeeds]
    exact ⟨[], follows⟩

/-- So the invariant holds of the route: what a request has newly claimed is held by its
commitment, and claimed by no other. -/
theorem invariant_of_route (requests : ℕ → Request) (relay : Address) (registry : VoterRegistry)
    (schedule : List ℕ) :
    let t := (Registration.machine requests relay).run (Registration.start registry) schedule
    (∀ i key, (ofPhase (t.phase i)).claimedKey = some key →
      t.store key = some (requests i).commitment) ∧
    ∀ i j key, (ofPhase (t.phase i)).claimedKey = some key →
      (ofPhase (t.phase j)).claimedKey = some key → i = j := by
  intro t
  obtain ⟨actions, follows⟩ := exists_run_of_route requests relay registry schedule
  have inv := Invariant.run requests relay registry actions
  refine ⟨fun i key claimed => ?_, fun i j key claimedI claimedJ => ?_⟩
  · rw [← follows.phase] at claimed
    rw [← follows.store]
    exact inv.held i key claimed
  · rw [← follows.phase] at claimedI claimedJ
    exact inv.unique i j key claimedI claimedJ

/-! ## Failures after a new claim -/

/-- The step newly claims `key` for request `i`. -/
structure Claims (s s' : State) (i : ℕ) (key : SybilKey) : Prop where
  before : (s.phase i).claimedKey = none
  after : (s'.phase i).claimedKey = some key

/-- The step answers request `i`, which has newly claimed `key`, with the error
of `call`. -/
structure Fails (s s' : State) (i : ℕ) (key : SybilKey) (call : RemoteCall) : Prop where
  claimed : (s.phase i).claimedKey = some key
  answered : s'.phase i = .answered (.failed call)

/-- The request that claims is the one that moves. -/
theorem Claims.moved {s s' : State} {i j : ℕ} {key : SybilKey} {phase : Phase}
    (claims : Claims s s' i key) (moves : s'.phase = Function.update s.phase j phase) :
    i = j ∧ phase.claimedKey = some key := by
  have after := claims.after
  rw [moves] at after
  by_cases same : i = j
  · subst same
    rw [Function.update_self] at after
    exact ⟨rfl, after⟩
  · rw [Function.update_of_ne same, claims.before] at after
    cases after

/-- A request that has been answered is not answered again. -/
theorem Fails.unanswered {s s' : State} {i : ℕ} {key : SybilKey} {call : RemoteCall}
    (fails : Fails s s' i key call) : s.phase i ≠ .answered (.failed call) := by
  intro already
  have claimed := fails.claimed
  rw [already] at claimed
  cases claimed

/-- The request that fails is the one that moves. -/
theorem Fails.moved {s s' : State} {i j : ℕ} {key : SybilKey} {call : RemoteCall} {phase : Phase}
    (fails : Fails s s' i key call) (moves : s'.phase = Function.update s.phase j phase) :
    i = j ∧ phase = .answered (.failed call) := by
  have answered := fails.answered
  rw [moves] at answered
  by_cases same : i = j
  · subst same
    rw [Function.update_self] at answered
    exact ⟨rfl, answered⟩
  · rw [Function.update_of_ne same] at answered
    exact absurd answered fails.unanswered

theorem Step.free_of_claims {s s' : State} {i : ℕ} {key : SybilKey} (step : Step requests s s')
    (claims : Claims s s' i key) : s.store key = none := by
  cases step with
  | @claims _ key' _ _ free _ phase =>
      obtain ⟨-, same⟩ := claims.moved phase
      obtain rfl : key' = key := Option.some.inj same
      exact free
  | keeps phase sameKey _ _ moves =>
      obtain ⟨rfl, same⟩ := claims.moved moves
      rw [sameKey, claims.before] at same
      cases same
  | ends response _ _ moves =>
      obtain ⟨-, same⟩ := claims.moved moves
      cases same
  | releases _ _ moves =>
      obtain ⟨-, same⟩ := claims.moved moves
      cases same
  | mines _ phase =>
      have after := claims.after
      rw [phase, claims.before] at after
      cases after

/-- The answer with an error leaves the key free, unless `isRegistered` failed. -/
theorem Step.store_of_fails {s s' : State} {i : ℕ} {key : SybilKey} {call : RemoteCall}
    (inv : Invariant requests s) (step : Step requests s s') (fails : Fails s s' i key call) :
    s'.store key = none ↔ call ≠ .isRegistered := by
  have held := inv.held i key fails.claimed
  cases step with
  | claims _ _ _ phase =>
      obtain ⟨-, same⟩ := fails.moved phase
      cases same
  | keeps phase sameKey _ _ moves =>
      obtain ⟨rfl, rfl⟩ := fails.moved moves
      rw [fails.claimed] at sameKey
      cases sameKey
  | ends response failure store moves =>
      obtain ⟨rfl, same⟩ := fails.moved moves
      obtain rfl := Phase.answered.inj same
      have read := failure call rfl (by rw [fails.claimed]; exact Option.some_ne_none key)
      rw [store, held]
      simp [read]
  | @releases j key' call' _ phase store moves =>
      obtain ⟨rfl, same⟩ := fails.moved moves
      obtain rfl := Response.failed.inj (Phase.answered.inj same)
      have claimed := fails.claimed
      rw [phase] at claimed
      obtain rfl : key' = key := Option.some.inj claimed
      rw [store, UsedIdentifierStore.release, if_pos held, Function.update_self]
      simp [inv.failure i key' call' phase]
  | mines _ phase =>
      have answered := fails.answered
      rw [phase] at answered
      exact absurd answered fails.unanswered

/-- **Failures leave no trace, the read excepted.**  In any interleaving of any
requests, take one that newly claims a key and is answered with the error of a
remote call.  The store maps the key as it did right before the claim, and any
commitment can claim it again, if and only if the call was not `isRegistered`. -/
theorem key_restored_iff (requests : ℕ → Request) (relay : Address) (registry : VoterRegistry)
    (before between : List Action) (claim last : Action) {i : ℕ} {key : SybilKey}
    {call : RemoteCall}
    (claims : Claims ((machine requests relay).run (start registry) before)
      ((machine requests relay).run (start registry) (before ++ [claim])) i key)
    (fails : Fails ((machine requests relay).run (start registry) (before ++ claim :: between))
      ((machine requests relay).run (start registry) (before ++ claim :: between ++ [last]))
      i key call) :
    (((machine requests relay).run (start registry) (before ++ claim :: between ++ [last])).store
        key = ((machine requests relay).run (start registry) before).store key ∧
      ∀ commitment, (((machine requests relay).run (start registry)
        (before ++ claim :: between ++ [last])).store.setNX key commitment).isSome) ↔
      call ≠ .isRegistered := by
  have inv := Invariant.run requests relay registry (before ++ claim :: between)
  rw [Machine.run_concat] at claims fails ⊢
  -- both actions change the state, so that both are steps
  have claimMoves : (machine requests relay).next
      ((machine requests relay).run (start registry) before) claim ≠
        (machine requests relay).run (start registry) before := fun same =>
    Option.some_ne_none key ((same ▸ claims.after).symm.trans claims.before)
  have lastMoves : (machine requests relay).next
      ((machine requests relay).run (start registry) (before ++ claim :: between)) last ≠
        (machine requests relay).run (start registry) (before ++ claim :: between) := by
    intro same
    have answered := same ▸ fails.answered
    have claimed := fails.claimed
    rw [answered] at claimed
    cases claimed
  rw [(Step.of_next claimMoves).free_of_claims claims,
    ← (Step.of_next lastMoves).store_of_fails inv fails]
  constructor
  · exact fun restored => restored.1
  · intro free
    refine ⟨free, fun commitment => ?_⟩
    rw [UsedIdentifierStore.setNX, free]
    rfl

/-! ## One document, two attempts -/

/-- The document of all sample requests. -/
def sampleKey : SybilKey := ⟨"zkr-salted-1", by decide⟩

/-- Request `1` presents another commitment than request `0`. -/
def sampleRequests (i : ℕ) : Request where
  commitment := if i = 1 then 12 else 11
  countryCode := 0x4742
  sybilKey := some sampleKey

/-- A running registry whose registrar is the relay, at address 9. -/
def sampleRegistry : VoterRegistry :=
  { VoterRegistry.initialized 1 with countryRegistrar := fun _ => 9 }

/-- Request `0` claims the document, reads, and fails to submit. -/
def sampleFailure : List Action := [.request 0 false, .request 0 true]

/-- The key is free again. -/
theorem key_restored_iff_sample :
    ((machine sampleRequests 9).run (start sampleRegistry)
        ([] ++ .request 0 false :: sampleFailure ++ [.request 0 false])).store sampleKey =
      ((machine sampleRequests 9).run (start sampleRegistry) []).store sampleKey ∧
    ∀ commitment, (((machine sampleRequests 9).run (start sampleRegistry)
      ([] ++ .request 0 false :: sampleFailure ++ [.request 0 false])).store.setNX sampleKey
        commitment).isSome :=
  (key_restored_iff sampleRequests 9 sampleRegistry [] sampleFailure (.request 0 false)
    (.request 0 false) (show Claims _ _ 0 sampleKey from ⟨by decide, by decide⟩)
    (show Fails _ _ 0 sampleKey .submission from ⟨by decide, by decide⟩)).mpr
    (by decide)

/-- **A failed read keeps the key.**  Request `0` claims the document and is
answered with an error because `isRegistered` failed; its commitment is not
registered, and request `1` for the same document is refused. -/
theorem failed_read_keeps_key :
    let s := (machine sampleRequests 9).run (start sampleRegistry)
      [.request 0 false, .request 0 true]
    s.phase 0 = .answered (.failed .isRegistered) ∧ ¬ s.registry.Registered 11 ∧
      (start sampleRegistry).store sampleKey = none ∧ s.store sampleKey = some 11 ∧
      ((machine sampleRequests 9).run s [.request 1 false, .request 1 false]).phase 1 =
        .answered .conflict := by
  decide

end TheVoteApp.Registration.RemoteFailure
