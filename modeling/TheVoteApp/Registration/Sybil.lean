import TheVoteApp.Registration.Route

/-!
# One commitment per document

A document's key is meant to lead to one commitment on chain.  The store keeps
that promise as long as a key, once claimed, stays claimed for what it
registered.  It is given back when the claiming request's own transaction fails,
and that transaction also fails when *another* request with the same commitment
was faster: the key is then free although its commitment is on chain
(`released_key_registers_twice`).

`KeepsClaim` excludes that step, and `Owned` is the invariant it leaves: every
request past the store holds its key.
-/

namespace TheVoteApp.Registration

open Solidity Foundations

/-- The store let the request through. -/
def Phase.Admitted : Phase → Prop
  | .verified => False
  | .keyTaken _ => False
  | .answered .conflict => False
  | _ => True

/-- The key a phase mentions. -/
def Phase.key? : Phase → Option SybilKey
  | .keyTaken key => some key
  | .admitted claimed => claimed
  | .unregistered claimed => claimed
  | .releasing key => some key
  | _ => none

section Property

variable (requests : ℕ → Request)

/-- Some request for `key` was let through with this commitment. -/
def VerifiedUnder (s : State) (key : SybilKey) (commitment : Bytes32) : Prop :=
  ∃ i, (requests i).sybilKey = some key ∧ (requests i).commitment = commitment ∧
    (s.phase i).Admitted

/-- No key has two verified commitments on chain. -/
def OnePerKey (s : State) : Prop :=
  ∀ key c c', VerifiedUnder requests s key c → VerifiedUnder requests s key c' →
    s.registry.Registered c → s.registry.Registered c' → c = c'

/-- No two requests for one key have different commitments on chain, unless one
of the commitments is also presented without that key. -/
def OnePresentedPerKey (s : State) : Prop :=
  ∀ i j key, (requests i).sybilKey = some key → (requests j).sybilKey = some key →
    (∀ n, (requests n).commitment = (requests i).commitment ∨
      (requests n).commitment = (requests j).commitment → (requests n).sybilKey = some key) →
    s.registry.Registered (requests i).commitment →
    s.registry.Registered (requests j).commitment →
    (requests i).commitment = (requests j).commitment

/-- A registry, with no voter yet, in which a `register` transaction of the
relay fails on registered commitments only. -/
structure Ready (relay : Address) (registry : VoterRegistry) : Prop where
  accepts : ∀ i, registry.Accepts relay (requests i).countryCode
  valid : ∀ i, (requests i).commitment ≠ 0
  empty : ∀ c, ¬ registry.Registered c

/-- A request that newly claimed its key does not reach its transaction after
its commitment got on chain. -/
def KeepsClaim (s : State) (i : ℕ) : Prop :=
  ∀ key, s.phase i = .unregistered (some key) → ¬ s.registry.Registered (requests i).commitment

/-- **Every request past the store holds its key**, no key is being given back,
and what is on chain was put there by a request. -/
structure Owned (relay : Address) (s : State) : Prop where
  accepts : ∀ i, s.registry.Accepts relay (requests i).countryCode
  ownKey : ∀ i key, (s.phase i).key? = some key → (requests i).sybilKey = some key
  noRelease : ∀ i key, s.phase i ≠ .releasing key
  holds : ∀ i key, (s.phase i).Admitted → (requests i).sybilKey = some key →
    s.store key = some (requests i).commitment
  onChain : ∀ c, s.registry.Registered c →
    ∃ i, s.phase i = .answered .registered ∧ (requests i).commitment = c

end Property

namespace Owned

variable {requests : ℕ → Request} {relay : Address} {s s' : State} {i : ℕ}

theorem of_ready {registry : VoterRegistry} (ready : Ready requests relay registry) :
    Owned requests relay (start registry) where
  accepts := ready.accepts
  ownKey _ _ named := by cases named
  noRelease _ _ := by simp [start]
  holds _ _ admitted := admitted.elim
  onChain c registered := (ready.empty c registered).elim

/-- A request moves on and nothing else changes. -/
theorem goto (held : Owned requests relay s) {phase : Phase}
    (unanswered : s.phase i ≠ .answered .registered)
    (ownKey : ∀ key, phase.key? = some key → (requests i).sybilKey = some key)
    (noRelease : ∀ key, phase ≠ .releasing key)
    (holds : ∀ key, phase.Admitted → (requests i).sybilKey = some key →
      s.store key = some (requests i).commitment) :
    Owned requests relay (s.goto i phase) := by
  refine ⟨held.accepts, ?_, ?_, ?_, ?_⟩
  · intro j key named
    by_cases same : j = i
    · subst same
      exact ownKey key (by simpa using named)
    · exact held.ownKey j key (by rwa [State.phase_goto_of_ne _ _ same] at named)
  · intro j key
    by_cases same : j = i
    · subst same
      simpa using noRelease key
    · rw [State.phase_goto_of_ne _ _ same]
      exact held.noRelease j key
  · intro j key admitted hasKey
    by_cases same : j = i
    · subst same
      exact holds key (by simpa using admitted) hasKey
    · rw [State.phase_goto_of_ne _ _ same] at admitted
      exact held.holds j key admitted hasKey
  · intro c registered
    obtain ⟨n, answered, named⟩ := held.onChain c registered
    refine ⟨n, ?_, named⟩
    rw [State.phase_goto_of_ne]
    · exact answered
    · rintro rfl
      exact unanswered answered

/-- A free key is claimed. -/
theorem claim (held : Owned requests relay s) {key : SybilKey} (free : s.store key = none)
    (commitment : Bytes32) :
    Owned requests relay
      { s with store := Function.update s.store key (some commitment) } := by
  refine ⟨held.accepts, held.ownKey, held.noRelease, ?_, held.onChain⟩
  intro j other admitted hasKey
  have present := held.holds j other admitted hasKey
  have different : other ≠ key := by
    rintro rfl
    rw [free] at present
    cases present
  exact (Function.update_of_ne different _ _).trans present

/-- A request's commitment gets on chain. -/
theorem register (held : Owned requests relay s) (answered : s.phase i = .answered .registered)
    (countryCode : Bytes2) :
    Owned requests relay
      { s with registry := s.registry.recordVoter (requests i).commitment countryCode } := by
  refine ⟨?_, held.ownKey, held.noRelease, held.holds, ?_⟩
  · intro j
    have accepts := held.accepts j
    exact ⟨accepts.running, accepts.registrar, accepts.nonzero⟩
  · intro c registered
    rcases VoterRegistry.registered_recordVoter registered with rfl | earlier
    · exact ⟨i, answered, rfl⟩
    · exact held.onChain c earlier

/-- **One step.**  A step that keeps the claims preserves the invariant. -/
theorem step (held : Owned requests relay s) (valid : ∀ i, (requests i).commitment ≠ 0)
    (keeps : KeepsClaim requests s i) (moved : Step requests relay s i s') :
    Owned requests relay s' := by
  cases moved with
  | unkeyed phase noKey =>
      refine held.goto (by simp [phase]) (by rintro _ ⟨⟩) (by simp) ?_
      intro key _ hasKey
      rw [noKey] at hasKey
      cases hasKey
  | @claims key phase hasKey free =>
      refine (held.claim free _).goto (by simp [phase]) ?_ (by simp) ?_
      · rintro other ⟨⟩
        exact hasKey
      · intro other _ otherKey
        obtain rfl := Option.some.inj (hasKey.symm.trans otherKey)
        exact Function.update_self ..
  | @taken key phase hasKey =>
      refine held.goto (by simp [phase]) ?_ (by simp) (fun _ admitted => admitted.elim)
      rintro other ⟨⟩
      exact hasKey
  | vanished phase =>
      exact held.goto (by simp [phase]) (by rintro _ ⟨⟩) (by simp) (fun _ admitted => admitted.elim)
  | conflicts phase =>
      exact held.goto (by simp [phase]) (by rintro _ ⟨⟩) (by simp) (fun _ admitted => admitted.elim)
  | @retries key phase present =>
      refine held.goto (by simp [phase]) (by rintro _ ⟨⟩) (by simp) ?_
      intro other _ otherKey
      have hasKey := held.ownKey i key (by simp [phase, Phase.key?])
      obtain rfl := Option.some.inj (hasKey.symm.trans otherKey)
      exact present
  | skips phase =>
      exact held.goto (by simp [phase]) (by rintro _ ⟨⟩) (by simp) fun key _ =>
        held.holds i key (by simp [phase, Phase.Admitted])
  | @proceeds claimed phase =>
      refine held.goto (by simp [phase]) ?_ (by simp) fun key _ =>
        held.holds i key (by simp [phase, Phase.Admitted])
      intro key named
      exact held.ownKey i key (by simpa [phase, Phase.key?] using named)
  | registers phase accepts fresh =>
      have moved : Owned requests relay (s.goto i (.answered .registered)) :=
        held.goto (by simp [phase]) (by rintro _ ⟨⟩) (by simp) fun key _ =>
          held.holds i key (by simp [phase, Phase.Admitted])
      exact moved.register (State.phase_goto_self ..) _
  | fails phase =>
      exact held.goto (by simp [phase]) (by rintro _ ⟨⟩) (by simp) fun key _ =>
        held.holds i key (by simp [phase, Phase.Admitted])
  | @failsClaimed key phase reverts =>
      -- the transaction failed, so the commitment was on chain already
      have fresh := keeps key phase
      exact absurd
        ((VoterRegistry.exists_register_eq_ok_iff (held.accepts i) (valid i)).mpr fresh) reverts
  | @releases key phase => exact absurd phase (held.noRelease i key)

/-- A key with an owner has one commitment. -/
theorem onePerKey (held : Owned requests relay s) : OnePerKey requests s := by
  rintro key c c' ⟨i, keyI, rfl, admittedI⟩ ⟨j, keyJ, rfl, admittedJ⟩ - -
  have left := held.holds i key admittedI keyI
  have right := held.holds j key admittedJ keyJ
  exact Option.some.inj (left.symm.trans right)

theorem onePresentedPerKey (held : Owned requests relay s) : OnePresentedPerKey requests s := by
  intro i j key _ _ only registeredI registeredJ
  -- the requests that put the two commitments on chain are both for `key`
  have verified : ∀ c, s.registry.Registered c →
      (∀ n, (requests n).commitment = c → (requests n).sybilKey = some key) →
      VerifiedUnder requests s key c := by
    intro c registered named
    obtain ⟨n, answered, same⟩ := held.onChain c registered
    exact ⟨n, named n same, same, by simp [answered, Phase.Admitted]⟩
  exact held.onePerKey key _ _ (verified _ registeredI fun n same => only n (Or.inl same))
    (verified _ registeredJ fun n same => only n (Or.inr same)) registeredI registeredJ

end Owned

section Runs

variable (requests : ℕ → Request) (relay : Address)

/-- **Sybil safety.**  Over every interleaving in which no request that claimed
its key loses the race for its own commitment, no key has two commitments on
chain. -/
theorem one_commitment_per_key (registry : VoterRegistry) (ready : Ready requests relay registry)
    (schedule : List ℕ)
    (keeps : (machine requests relay).Along (KeepsClaim requests) (start registry) schedule) :
    OnePerKey requests ((machine requests relay).run (start registry) schedule) ∧
      OnePresentedPerKey requests ((machine requests relay).run (start registry) schedule) := by
  have held : Owned requests relay ((machine requests relay).run (start registry) schedule) := by
    refine Machine.run_invariant_along (I := Owned requests relay) (Owned.of_ready ready) ?_
      schedule keeps
    intro s i s' _ held keepsClaim moved
    exact held.step ready.valid keepsClaim (Step.of_call moved)
  exact ⟨held.onePerKey, held.onePresentedPerKey⟩

end Runs

/-! ## A lost race -/

theorem salted_ne_empty : "zkr-salted-1" ≠ "" := by decide

/-- The document all sample requests are about. -/
def sampleKey : SybilKey := ⟨"zkr-salted-1", salted_ne_empty⟩

/-- Request `2` presents another commitment than the others. -/
def sampleRequests (i : ℕ) : Request where
  commitment := if i = 2 then 12 else 11
  countryCode := 0x4742
  sybilKey := some sampleKey

/-- A running registry whose registrar is the relay, at address 9. -/
def sampleRegistry : VoterRegistry :=
  { VoterRegistry.initialized 1 with countryRegistrar := fun _ => 9 }

theorem sampleRegistry_ready : Ready sampleRequests 9 sampleRegistry where
  accepts _ := ⟨rfl, rfl, by decide⟩
  valid i := by
    unfold sampleRequests
    split <;> decide
  empty _ registered := registered rfl

theorem one_commitment_per_key_sample :
    OnePerKey sampleRequests
      ((machine sampleRequests 9).run (start sampleRegistry) [0, 2, 2, 0, 0]) :=
  (one_commitment_per_key sampleRequests 9 sampleRegistry sampleRegistry_ready [0, 2, 2, 0, 0]
    (by
      refine ⟨?_, ?_, ?_, ?_, ?_, trivial⟩ <;> intro key phase
      all_goals first | exact absurd phase (by decide) | decide)).1

/-- **A released key registers twice.**  Request `0` claims the key; request `1`
retries with the same commitment and registers it first; the transaction of
request `0` reverts and gives the key back; request `2` registers another
commitment under it. -/
theorem released_key_registers_twice :
    let s := (machine sampleRequests 9).run (start sampleRegistry)
      [0, 0, 1, 1, 1, 1, 0, 0, 2, 2, 2]
    s.registry.Registered 11 ∧ s.registry.Registered 12 ∧
      VerifiedUnder sampleRequests s sampleKey 11 ∧
      VerifiedUnder sampleRequests s sampleKey 12 ∧
      s.phase 2 = .answered .registered ∧ ¬ OnePerKey sampleRequests s := by
  intro s
  have first : s.registry.Registered 11 := by decide
  have second : s.registry.Registered 12 := by decide
  have verified : VerifiedUnder sampleRequests s sampleKey 11 := by
    refine ⟨1, rfl, rfl, ?_⟩
    have answered : s.phase 1 = .answered .registered := by decide
    simp [answered, Phase.Admitted]
  have answered : s.phase 2 = .answered .registered := by decide
  have verified' : VerifiedUnder sampleRequests s sampleKey 12 :=
    ⟨2, rfl, rfl, by simp [answered, Phase.Admitted]⟩
  refine ⟨first, second, verified, verified', answered, ?_⟩
  intro one
  exact absurd (one sampleKey 11 12 verified verified' first second) (by decide)

end TheVoteApp.Registration
