import TheVoteApp.Foundations.OpenPool
import TheVoteApp.HomomorphicTally.PollsGetter

/-!
# Refreshing the ciphertext cache

`_refreshCache` reads an accumulator from the chain and writes a snapshot of it to
Redis.  A run is started by every `EncryptedVoteAccumulated` event, and by every
call of `getCiphertexts` that finds an option missing from the cache.  Nothing
orders the runs: one that has read an accumulator before a vote can write it after
the snapshot with the vote has been written, and no event corrects it.

The cached count does not decrease, and the cache converges to the accumulators,
in the runs where no snapshot is written over one of a later accumulator.

## Main definitions

* `World` — the contract, the events on their way, the clock and the cache
* `Stage`, `step` — a run of the listener or of `getCiphertexts`
* `InOrder` — the condition on one command
* `Converging` — the invariant

## Design notes

The chain moves by itself: a transaction of the contract is an action of the
environment, and so are the passing of time and the expiry of a snapshot.  Events
may be delivered in any order.  `decodes` says whether the service can decode the
answer of the getter `polls`; with the contract as it is it cannot
(`readPolls_deployed`), and then `getCiphertexts` starts no run.  `newest` counts
the votes of the latest accumulator written so far; nothing reads it.
-/

namespace TheVoteApp.HomomorphicTallyService

open Solidity Foundations JavaScript HomomorphicTally

/-! ## The world -/

/-- The contract, its events that have not been delivered yet, the clock and the
cache. -/
structure World where
  chain : HomomorphicTally
  logs : List (Bytes32 × ℕ)
  clock : ℕ
  cache : Cache
  newest : Bytes32 → ℕ → ℕ

/-- The poll and the option of an `EncryptedVoteAccumulated` event. -/
def accumulatedIn : Event → Option (Bytes32 × ℕ)
  | .encryptedVoteAccumulated pollId optionIndex _ => some (pollId, optionIndex)
  | _ => none

/-- What happens besides the service's own commands. -/
inductive Action where
  | transaction (tx : Tx)
  | tick (ms : ℕ)
  | expires (pollId : Bytes32) (optionIndex : ℕ)

/-- A cache with one entry replaced. -/
def setCache (cache : Cache) (pollId : Bytes32) (optionIndex : ℕ)
    (snap : Option CiphertextSnapshot) : Cache :=
  Function.update cache pollId (Function.update (cache pollId) optionIndex snap)

theorem setCache_apply (cache : Cache) (pollId p : Bytes32) (optionIndex i : ℕ)
    (snap : Option CiphertextSnapshot) :
    setCache cache pollId optionIndex snap p i =
      if p = pollId ∧ i = optionIndex then snap else cache p i := by
  by_cases samePoll : p = pollId
  · subst samePoll
    by_cases sameOption : i = optionIndex
    · subst sameOption
      simp [setCache]
    · simp [setCache, sameOption]
  · simp [setCache, samePoll]

/-- What happens besides the runs: a transaction, time passing, a key that expires. -/
def act (staticcall : Address → Bytes → List ℕ → Bool × Bytes) (world : World) : Action → World
  | .transaction tx =>
      { world with
        chain := (machine staticcall).next world.chain tx
        logs := world.logs ++
          ((machine staticcall).emitted world.chain tx).filterMap accumulatedIn }
  | .tick ms => { world with clock := world.clock + ms }
  | .expires pollId optionIndex =>
      { world with cache := setCache world.cache pollId optionIndex none }

/-- What the service learns from `polls`. -/
def readPolls (decodes : Bool) (chain : HomomorphicTally) (pollId : Bytes32) : Option PollData :=
  let poll := chain.polls pollId
  if decodes then some ⟨poll.tallyPublicKey, poll.optionCount, poll.closeTime, poll.pollExists⟩
  else none

/-- With the getter of the contract, nothing. -/
theorem readPolls_deployed (chain : HomomorphicTally) (pollId : Bytes32) :
    decodePolls (chain.pollsGetter pollId) = readPolls false chain pollId :=
  decodePolls_pollsGetter chain pollId

/-! ## Runs -/

/-- What starts a run: an event, or a request for the ciphertexts of a poll. -/
inductive Trigger where
  | event (pollId : Bytes32) (optionIndex : ℕ)
  | getCiphertexts (pollId : Bytes32)
deriving DecidableEq

/-- The loop of `getCiphertexts`. -/
structure Loop where
  next : ℕ
  optionCount : ℕ
  results : List CiphertextSnapshot
deriving DecidableEq

/-- Where a run stands: the command that is next.  A refresh on behalf of
`getCiphertexts` returns to its loop. -/
inductive Stage where
  | begins (trigger : Trigger)
  | gets (pollId : Bytes32) (loop : Loop)
  | reads (pollId : Bytes32) (optionIndex : ℕ) (loop : Option Loop)
  | writes (pollId : Bytes32) (optionIndex : ℕ) (acc : AccumulatedCiphertext) (now : ℕ)
      (loop : Option Loop)
deriving DecidableEq

/-- How a run ends. -/
inductive Ended where
  | listened
  | rejected
  | ciphertexts (results : List CiphertextSnapshot)
deriving DecidableEq

/-- The next round of the loop, or the return. -/
def continueLoop (pollId : Bytes32) (loop : Loop) : Stage ⊕ Ended :=
  if loop.next < loop.optionCount then .inl (.gets pollId loop)
  else .inr (.ciphertexts loop.results)

/-- What follows a refresh. -/
def resume (pollId : Bytes32) (snap : Option CiphertextSnapshot) : Option Loop → Stage ⊕ Ended
  | none => .inr .listened
  | some loop => continueLoop pollId ⟨loop.next + 1, loop.optionCount, loop.results ++ snap.toList⟩

/-- `_refreshCache`: an index that is no safe integer is refused before the chain
is read, which is logged and answered with `null`. -/
def startRefresh (pollId : Bytes32) (optionIndex : ℕ) (loop : Option Loop) : Stage ⊕ Ended :=
  if 2 ^ 53 ≤ optionIndex then resume pollId none loop
  else .inl (.reads pollId optionIndex loop)

/-- The beginning of a run.  A listener takes up an event that is on its way. -/
def begin (decodes : Bool) (world : World) : Trigger → (Stage ⊕ Ended) × World
  | .event pollId optionIndex =>
      if (pollId, optionIndex) ∈ world.logs then
        (startRefresh pollId (toNumber optionIndex) none,
          { world with logs := world.logs.erase (pollId, optionIndex) })
      else (.inl (.begins (.event pollId optionIndex)), world)
  | .getCiphertexts pollId =>
    match readPolls decodes world.chain pollId with
    | none => (.inr .rejected, world)
    | some pollData =>
        (if !pollData.pollExists then .inr (.ciphertexts [])
        else continueLoop pollId ⟨0, toNumber pollData.optionCount, []⟩, world)

/-- The next command of a run. -/
def step (decodes : Bool) : Stage → World → (Stage ⊕ Ended) × World
  | .begins trigger, world => begin decodes world trigger
  | .gets pollId loop, world =>
    match world.cache pollId loop.next with
    | some cached =>
        (continueLoop pollId ⟨loop.next + 1, loop.optionCount, loop.results ++ [cached]⟩, world)
    | none => (startRefresh pollId loop.next (some loop), world)
  | .reads pollId optionIndex loop, world =>
      (.inl (.writes pollId optionIndex (world.chain.getAccumulated pollId optionIndex)
        world.clock loop), world)
  | .writes pollId optionIndex acc now loop, world =>
      let snap := snapshot now pollId optionIndex acc
      let newest := max (world.newest pollId optionIndex) acc.count
      (resume pollId (some snap) loop,
        { world with
          cache := setCache world.cache pollId optionIndex (some snap)
          newest := Function.update world.newest pollId
            (Function.update (world.newest pollId) optionIndex newest) })

/-- The two commands of a refresh, one right after the other, are `_refreshCache`. -/
theorem cache_refresh (decodes : Bool) (pollId : Bytes32) (optionIndex : ℕ) (loop : Option Loop)
    (world : World) :
    (step decodes (.writes pollId optionIndex (world.chain.getAccumulated pollId optionIndex)
      world.clock loop) world).2.cache =
    (refreshCache (fun i => some (world.chain.getAccumulated pollId i)) world.clock pollId
      world.cache optionIndex).2 := rfl

section Machine

variable {ι : Type} [DecidableEq ι] (staticcall : Address → Bytes → List ℕ → Bool × Bytes)
  (admin verifier : Address) (decodes : Bool) (triggers : ι → Trigger)

/-- Runs in progress on every instance of the service. -/
abbrev Runs (ι : Type) := Pool ι Stage World Ended

/-- The runs and the world, as one machine. -/
abbrev refreshes : Machine (Runs ι) (Pool.Move ι Action) (ι × Ended) Unit :=
  Pool.openMachine (fun _ => step decodes) fun action world => act staticcall world action

/-- A contract that has just been deployed, and no run yet. -/
abbrev start : Runs ι :=
  Pool.launch (fun i => .begins (triggers i))
    ⟨initialized admin verifier, [], 0, fun _ _ => none, fun _ _ => 0⟩

/-- The run has not begun, or has ended. -/
def Idle : Stage ⊕ Ended → Prop
  | .inl (.begins _) => True
  | .inl _ => False
  | .inr _ => True

instance decidableIdle : ∀ left, Decidable (Idle left)
  | .inl (.begins _) => isTrue trivial
  | .inr _ => isTrue trivial
  | .inl (.gets _ _) => isFalse id
  | .inl (.reads _ _ _) => isFalse id
  | .inl (.writes _ _ _ _ _) => isFalse id

/-- A snapshot is not written after one of a later accumulator. -/
def StageInOrder (world : World) : Stage → Prop
  | .writes pollId optionIndex acc _ _ => world.newest pollId optionIndex ≤ acc.count
  | _ => True

instance decidableStageInOrder (world : World) : ∀ stage, Decidable (StageInOrder world stage)
  | .writes _ _ _ _ _ => inferInstanceAs (Decidable (_ ≤ _))
  | .begins _ => isTrue trivial
  | .gets _ _ => isTrue trivial
  | .reads _ _ _ => isTrue trivial

/-- The move writes no snapshot after one of a later accumulator. -/
def InOrder (s : Runs ι) : Pool.Move ι Action → Prop
  | .call i => ∀ stage ∈ (s.calls i).getLeft?, StageInOrder s.shared stage
  | .act _ => True

instance decidableInOrder (s : Runs ι) : ∀ move, Decidable (InOrder s move)
  | .call _ => inferInstanceAs (Decidable (∀ _ ∈ _, _))
  | .act _ => isTrue trivial

end Machine

/-! ## What a transaction does to the accumulators -/

section Chain

variable {staticcall : Address → Bytes → List ℕ → Bool × Bytes} {chain : HomomorphicTally}
  {tx : Tx} {pollId : Bytes32} {optionIndex : ℕ} {acc : AccumulatedCiphertext}

/-- The accumulator is older than the one on chain, or the one on chain. -/
def Recent (chain : HomomorphicTally) (pollId : Bytes32) (optionIndex : ℕ)
    (acc : AccumulatedCiphertext) : Prop :=
  acc.count < (chain.getAccumulated pollId optionIndex).count ∨
    acc = chain.getAccumulated pollId optionIndex

/-- What a transaction does to the accumulator of an option: nothing, or it adds a
vote and says so. -/
structure Accumulated (chain chain' : HomomorphicTally) (new : List Event) : Prop where
  registered : ∀ pollId, (chain.polls pollId).pollExists = true →
    (chain'.polls pollId).pollExists = true
  kept : ∀ pollId optionIndex, (chain.polls pollId).pollExists = true →
    Recent chain' pollId optionIndex (chain.getAccumulated pollId optionIndex)
  counted : ∀ pollId optionIndex,
    (chain'.getAccumulated pollId optionIndex).count =
        (chain.getAccumulated pollId optionIndex).count ∨
      (pollId, optionIndex) ∈ new.filterMap accumulatedIn
  logged : ∀ pollId optionIndex, (pollId, optionIndex) ∈ new.filterMap accumulatedIn →
    (chain'.polls pollId).pollExists = true

theorem accumulated_of_untouched {chain' : HomomorphicTally} {new : List Event}
    (untouched : Untouched chain chain') (silent : new.filterMap accumulatedIn = []) :
    Accumulated chain chain' new where
  registered pollId exists' := by rw [untouched.polls, exists']
  kept pollId optionIndex _ := .inr (by rw [getAccumulated, getAccumulated, untouched.ciphertexts])
  counted pollId optionIndex := .inl (by
    rw [getAccumulated, getAccumulated, untouched.ciphertexts])
  logged pollId optionIndex mem := by
    rw [silent] at mem
    cases mem

theorem accumulated_recordPoll (fresh : (chain.polls pollId).pollExists = false)
    (key : BabyJubPoint) (optionCount closeTime : ℕ) :
    Accumulated chain (recordPoll chain pollId key optionCount closeTime)
      [.pollRegistered pollId key closeTime] where
  registered p exists' := by
    by_cases same : p = pollId
    · subst same
      simp [recordPoll]
    · rw [polls_recordPoll_of_ne chain same, exists']
  kept p i exists' := by
    have other : p ≠ pollId := by
      rintro rfl
      rw [exists'] at fresh
      cases fresh
    exact .inr (by rw [getAccumulated, getAccumulated, ciphertexts_recordPoll_of_ne chain other])
  counted p i := by
    refine .inl ?_
    by_cases same : p = pollId
    · subst same
      simp only [getAccumulated, recordPoll, Function.update_self, initialiseAccumulators_apply]
      split <;> rfl
    · rw [getAccumulated, getAccumulated, ciphertexts_recordPoll_of_ne chain same]
  logged p i mem := by cases mem

theorem accumulated_recordVote {args : SubmitArgs}
    (exists' : (chain.polls args.pollId).pollExists = true) (count : ℕ) :
    Accumulated chain (recordVote chain args)
      [.encryptedVoteAccumulated args.pollId args.optionIndex count] where
  registered p existsP := existsP
  kept p i _ := by
    simp only [Recent, getAccumulated, ciphertexts_recordVote]
    split
    · exact .inl (Nat.lt_succ_self _)
    · exact .inr rfl
  counted p i := by
    simp only [getAccumulated, ciphertexts_recordVote]
    split
    · rename_i same
      obtain ⟨rfl, rfl⟩ := same
      exact .inr List.mem_cons_self
    · exact .inl rfl
  logged p i mem := by
    obtain ⟨rfl, -⟩ := Prod.mk.inj (List.mem_singleton.mp mem)
    exact exists'

theorem accumulated_setRole (role : Role) (account : Address) (member : Bool)
    {new : List Event} (silent : new.filterMap accumulatedIn = []) :
    Accumulated chain (setRole chain role account member) new :=
  accumulated_of_untouched ⟨rfl, rfl, rfl⟩ silent

/-- **A transaction**, one that reverts included. -/
theorem accumulated_next (staticcall : Address → Bytes → List ℕ → Bool × Bytes)
    (chain : HomomorphicTally) (tx : Tx) :
    Accumulated chain ((machine staticcall).next chain tx)
      ((machine staticcall).emitted chain tx) := by
  by_cases success : (machine staticcall).Succeeds chain tx
  swap
  · rw [Machine.next_of_not_succeeds success, Machine.emitted_of_not_succeeds success]
    exact accumulated_of_untouched ⟨rfl, rfl, rfl⟩ rfl
  obtain ⟨⟨chain', new⟩, success⟩ := success
  rw [Machine.next_of_ok success, Machine.emitted_of_ok success]
  obtain ⟨env, call⟩ := tx
  cases call with
  | registerPoll pollId key optionCount closeTime =>
      obtain ⟨-, fresh, rfl, rfl⟩ := registerPoll_eq_ok_iff.mp success
      exact accumulated_recordPoll fresh key optionCount closeTime
  | submitEncryptedVote args =>
      obtain ⟨checks, rfl, rfl⟩ := submitEncryptedVote_eq_ok_iff.mp success
      exact accumulated_recordVote checks.registered _
  | finaliseDecryption pollId optionIndex tallyValue T decryptionProof =>
      obtain ⟨-, rfl, rfl⟩ := finaliseDecryption_eq_ok_iff.mp success
      exact accumulated_of_untouched ⟨rfl, rfl, rfl⟩ rfl
  | setVerifier newVerifier =>
      obtain ⟨-, rfl, rfl⟩ := setVerifier_eq_ok_iff.mp success
      exact accumulated_of_untouched ⟨rfl, rfl, rfl⟩ rfl
  | grantRole role account =>
      obtain ⟨-, rfl, rfl⟩ := grantRole_eq_ok_iff.mp success
      exact accumulated_setRole role account true (by split <;> rfl)
  | revokeRole role account =>
      obtain ⟨-, rfl, rfl⟩ := revokeRole_eq_ok_iff.mp success
      exact accumulated_setRole role account false (by split <;> rfl)
  | renounceRole role callerConfirmation =>
      obtain ⟨-, rfl, rfl⟩ := renounceRole_eq_ok_iff.mp success
      exact accumulated_setRole role callerConfirmation false (by split <;> rfl)

/-- A recent accumulator stays recent. -/
theorem Recent.trans {chain' : HomomorphicTally} (recent : Recent chain pollId optionIndex acc)
    (kept : Recent chain' pollId optionIndex (chain.getAccumulated pollId optionIndex)) :
    Recent chain' pollId optionIndex acc := by
  rcases recent with older | rfl
  · rcases kept with more | same
    · exact .inl (older.trans more)
    · exact .inl (same ▸ older)
  · exact kept

end Chain

/-! ## The invariant -/

section Converging

variable {ι : Type} [DecidableEq ι] {staticcall : Address → Bytes → List ℕ → Bool × Bytes}
  {decodes : Bool} {s : Runs ι} {world : World} {stage : Stage} {i : ι} {pollId : Bytes32}
  {optionIndex : ℕ}

/-- What a run in progress has established about the chain. -/
def Established (chain : HomomorphicTally) : Stage → Prop
  | .begins _ => True
  | .gets pollId _ => (chain.polls pollId).pollExists = true
  | .reads pollId optionIndex _ =>
      (chain.polls pollId).pollExists = true ∧ optionIndex < 2 ^ 53
  | .writes pollId optionIndex acc _ _ =>
      (chain.polls pollId).pollExists = true ∧ optionIndex < 2 ^ 53 ∧
        Recent chain pollId optionIndex acc

/-- The run will write the accumulator the option has now, or a later one. -/
def Refreshing (chain : HomomorphicTally) (pollId : Bytes32) (optionIndex : ℕ) : Stage → Prop
  | .reads pollId' optionIndex' _ => pollId' = pollId ∧ optionIndex' = optionIndex
  | .writes pollId' optionIndex' acc _ _ =>
      pollId' = pollId ∧ optionIndex' = optionIndex ∧
        acc.count = (chain.getAccumulated pollId optionIndex).count
  | _ => False

/-- A snapshot of the latest accumulator that has been written. -/
structure Latest (world : World) (pollId : Bytes32) (optionIndex : ℕ)
    (snap : CiphertextSnapshot) : Prop where
  registered : (world.chain.polls pollId).pollExists = true
  safe : optionIndex < 2 ^ 53
  written : ∃ now acc, snap = snapshot now pollId optionIndex acc ∧
    acc.count = world.newest pollId optionIndex ∧ Recent world.chain pollId optionIndex acc

/-- What holds between any two commands.  The last field is what makes the cache
converge: an accumulator that has not been written has an event on its way, or a
run at work on it. -/
structure Converging (s : Runs ι) : Prop where
  logged : ∀ pollId optionIndex, (pollId, optionIndex) ∈ s.shared.logs →
    (s.shared.chain.polls pollId).pollExists = true
  established : ∀ i stage, s.calls i = .inl stage → Established s.shared.chain stage
  latest : ∀ pollId optionIndex, ∀ snap ∈ s.shared.cache pollId optionIndex,
    Latest s.shared pollId optionIndex snap
  covered : ∀ pollId optionIndex, optionIndex < 2 ^ 53 →
    (s.shared.chain.getAccumulated pollId optionIndex).count ≤
        s.shared.newest pollId optionIndex ∨
      (pollId, optionIndex) ∈ s.shared.logs ∨
      ∃ i stage, s.calls i = .inl stage ∧ Refreshing s.shared.chain pollId optionIndex stage

theorem Established.next {chain chain' : HomomorphicTally} {new : List Event}
    (held : Established chain stage) (moved : Accumulated chain chain' new) :
    Established chain' stage := by
  cases stage with
  | begins trigger => trivial
  | gets pollId loop => exact moved.registered pollId held
  | reads pollId optionIndex loop => exact ⟨moved.registered pollId held.1, held.2⟩
  | writes pollId optionIndex acc now loop =>
      obtain ⟨registered, safe, recent⟩ := held
      exact ⟨moved.registered pollId registered, safe,
        recent.trans (moved.kept pollId optionIndex registered)⟩

/-- A refresh in progress covers the option until its next vote. -/
theorem Refreshing.next {chain chain' : HomomorphicTally}
    (refreshing : Refreshing chain pollId optionIndex stage)
    (same : (chain'.getAccumulated pollId optionIndex).count =
      (chain.getAccumulated pollId optionIndex).count) :
    Refreshing chain' pollId optionIndex stage := by
  cases stage with
  | begins trigger => exact refreshing
  | gets pollId' loop => exact refreshing
  | reads pollId' optionIndex' loop => exact refreshing
  | writes pollId' optionIndex' acc now loop =>
      obtain ⟨ownPoll, ownOption, current⟩ := refreshing
      exact ⟨ownPoll, ownOption, current.trans same.symm⟩

omit [DecidableEq ι] in
theorem converging_transaction (held : Converging s) (tx : Tx) :
    Converging ⟨act staticcall s.shared (.transaction tx), s.calls⟩ := by
  have moved := accumulated_next staticcall s.shared.chain tx
  refine ⟨?_, ?_, ?_, ?_⟩
  · intro pollId optionIndex mem
    rcases List.mem_append.mp mem with old | new
    · exact moved.registered pollId (held.logged pollId optionIndex old)
    · exact moved.logged pollId optionIndex new
  · intro i stage left
    exact (held.established i stage left).next moved
  · intro pollId optionIndex snap cached
    obtain ⟨registered, safe, now, acc, rfl, count, recent⟩ :=
      held.latest pollId optionIndex snap cached
    exact ⟨moved.registered pollId registered, safe, now, acc, rfl, count,
      recent.trans (moved.kept pollId optionIndex registered)⟩
  · intro pollId optionIndex safe
    rcases moved.counted pollId optionIndex with same | new
    · rcases held.covered pollId optionIndex safe with written | logged | ⟨i, stage, left, at'⟩
      · exact .inl (same.trans_le written)
      · exact .inr (.inl (List.mem_append_left _ logged))
      · exact .inr (.inr ⟨i, stage, left, at'.next same⟩)
    · exact .inr (.inl (List.mem_append_right _ new))

omit [DecidableEq ι] in
theorem converging_act (held : Converging s) (action : Action) :
    Converging ⟨act staticcall s.shared action, s.calls⟩ := by
  cases action with
  | transaction tx => exact converging_transaction held tx
  | tick ms =>
      exact ⟨held.logged, held.established, fun p i snap cached =>
        ⟨(held.latest p i snap cached).registered, (held.latest p i snap cached).safe,
          (held.latest p i snap cached).written⟩, held.covered⟩
  | expires pollId optionIndex =>
      refine ⟨held.logged, held.established, fun p i snap cached => ?_, held.covered⟩
      have entry : (if p = pollId ∧ i = optionIndex then none else s.shared.cache p i) =
          some snap := by
        rw [← setCache_apply]
        exact cached
      have alive : snap ∈ s.shared.cache p i := by
        split at entry
        · cases entry
        · exact entry
      exact ⟨(held.latest p i snap alive).registered, (held.latest p i snap alive).safe,
        (held.latest p i snap alive).written⟩

/-! ### One command -/

theorem established_continueLoop {chain : HomomorphicTally} {loop : Loop} {stage' : Stage}
    (registered : (chain.polls pollId).pollExists = true)
    (left : continueLoop pollId loop = .inl stage') : Established chain stage' := by
  unfold continueLoop at left
  split at left
  · obtain rfl := Sum.inl.inj left
    exact registered
  · cases left

theorem established_resume {chain : HomomorphicTally} {snap : Option CiphertextSnapshot}
    {loop : Option Loop} {stage' : Stage} (registered : (chain.polls pollId).pollExists = true)
    (left : resume pollId snap loop = .inl stage') : Established chain stage' := by
  cases loop with
  | none => cases left
  | some loop => exact established_continueLoop registered left

theorem established_startRefresh {chain : HomomorphicTally} {loop : Option Loop} {stage' : Stage}
    (registered : (chain.polls pollId).pollExists = true)
    (left : startRefresh pollId optionIndex loop = .inl stage') : Established chain stage' := by
  unfold startRefresh at left
  split at left
  · exact established_resume registered left
  · obtain rfl := Sum.inl.inj left
    exact ⟨registered, Nat.lt_of_not_le ‹_›⟩

/-- What a command does that is not a write: nothing to the chain and the cache,
and an event is taken up only to refresh its option. -/
structure Quiet (world : World) (next : (Stage ⊕ Ended) × World) (stage : Stage) : Prop where
  chain : next.2.chain = world.chain
  cache : next.2.cache = world.cache
  newest : next.2.newest = world.newest
  logs : ∀ entry ∈ next.2.logs, entry ∈ world.logs
  established : ∀ stage', next.1 = .inl stage' → Established world.chain stage'
  takenUp : ∀ pollId optionIndex, optionIndex < 2 ^ 53 → (pollId, optionIndex) ∈ world.logs →
    (pollId, optionIndex) ∈ next.2.logs ∨
      ∃ stage', next.1 = .inl stage' ∧ Refreshing world.chain pollId optionIndex stage'
  refreshed : ∀ pollId optionIndex, Refreshing world.chain pollId optionIndex stage →
    ∃ stage', next.1 = .inl stage' ∧ Refreshing world.chain pollId optionIndex stage'

/-- A command that leaves the world as it is. -/
theorem quiet_of_unchanged {next : Stage ⊕ Ended}
    (established : ∀ stage', next = .inl stage' → Established world.chain stage')
    (refreshed : ∀ pollId optionIndex, Refreshing world.chain pollId optionIndex stage →
      ∃ stage', next = .inl stage' ∧ Refreshing world.chain pollId optionIndex stage') :
    Quiet world (next, world) stage :=
  ⟨rfl, rfl, rfl, fun _ => id, established, fun _ _ _ logged => .inl logged, refreshed⟩

theorem quiet_takeUp (registered : (world.chain.polls pollId).pollExists = true) :
    Quiet world (startRefresh pollId (toNumber optionIndex) none,
      { world with logs := world.logs.erase (pollId, optionIndex) })
      (.begins (.event pollId optionIndex)) where
  chain := rfl
  cache := rfl
  newest := rfl
  logs entry mem := List.mem_of_mem_erase mem
  established stage' left := established_startRefresh registered left
  takenUp p i safe logged := by
    by_cases same : (p, i) = (pollId, optionIndex)
    · obtain ⟨rfl, rfl⟩ := Prod.mk.inj same
      refine .inr ⟨.reads p i none, ?_, rfl, rfl⟩
      show startRefresh p (toNumber i) none = _
      rw [toNumber_of_lt safe, startRefresh, if_neg (Nat.not_le.mpr safe)]
    · exact .inl ((List.mem_erase_of_ne same).mpr logged)
  refreshed p i refreshing := refreshing.elim

theorem quiet_begin (logged : ∀ p i, (p, i) ∈ world.logs →
      (world.chain.polls p).pollExists = true) (trigger : Trigger) :
    Quiet world (begin decodes world trigger) (.begins trigger) := by
  cases trigger with
  | event pollId optionIndex =>
      rw [begin]
      split
      · exact quiet_takeUp (logged pollId optionIndex ‹_›)
      · refine quiet_of_unchanged (fun stage' left => ?_) fun _ _ refreshing => refreshing.elim
        obtain rfl := Sum.inl.inj left
        trivial
  | getCiphertexts pollId =>
      rw [begin]
      cases answer : readPolls decodes world.chain pollId with
      | none =>
          exact quiet_of_unchanged (fun stage' left => by cases left)
            fun _ _ refreshing => refreshing.elim
      | some pollData =>
          refine quiet_of_unchanged (fun stage' left => ?_) fun _ _ refreshing => refreshing.elim
          have configured : pollData.pollExists = (world.chain.polls pollId).pollExists := by
            cases decodes with
            | false => cases answer
            | true => rw [← Option.some.inj answer]
          cases registered : pollData.pollExists with
          | false =>
              rw [registered] at left
              cases left
          | true =>
              rw [registered] at left
              exact established_continueLoop (configured ▸ registered) left

theorem quiet_gets {loop : Loop} (registered : (world.chain.polls pollId).pollExists = true) :
    Quiet world (step decodes (.gets pollId loop) world) (.gets pollId loop) := by
  rw [step]
  cases world.cache pollId loop.next with
  | some cached =>
      exact quiet_of_unchanged (fun stage' left => established_continueLoop registered left)
        fun _ _ refreshing => refreshing.elim
  | none =>
      exact quiet_of_unchanged (fun stage' left => established_startRefresh registered left)
        fun _ _ refreshing => refreshing.elim

/-- A read of the chain is of the accumulator at that moment. -/
theorem quiet_reads {loop : Option Loop}
    (held : Established world.chain (.reads pollId optionIndex loop)) :
    Quiet world (step decodes (.reads pollId optionIndex loop) world)
      (.reads pollId optionIndex loop) := by
  refine quiet_of_unchanged (fun stage' left => ?_) fun p i refreshing => ?_
  · obtain rfl := Sum.inl.inj left
    exact ⟨held.1, held.2, .inr rfl⟩
  · obtain ⟨rfl, rfl⟩ := refreshing
    exact ⟨_, rfl, rfl, rfl, rfl⟩

theorem converging_of_quiet (held : Converging s) (left : s.calls i = .inl stage)
    (quiet : Quiet s.shared (step decodes stage s.shared) stage) :
    Converging (Pool.advance (fun _ => step decodes) s i stage) := by
  refine ⟨?_, ?_, ?_, ?_⟩
  · intro p o mem
    rw [Pool.shared_advance, quiet.chain]
    exact held.logged p o (quiet.logs (p, o) mem)
  · intro j stage' left'
    rw [Pool.shared_advance, quiet.chain]
    by_cases same : j = i
    · subst same
      rw [Pool.calls_advance_self] at left'
      exact quiet.established stage' left'
    · rw [Pool.calls_advance_of_ne same] at left'
      exact held.established j stage' left'
  · intro p o snap cached
    rw [Pool.shared_advance, quiet.cache] at cached
    obtain ⟨registered, safe, written⟩ := held.latest p o snap cached
    refine ⟨?_, safe, ?_⟩
    · rwa [Pool.shared_advance, quiet.chain]
    · rwa [Pool.shared_advance, quiet.chain, quiet.newest]
  · intro p o safe
    -- what the stage itself takes up is under way afterwards
    have taken : (∃ stage', (step decodes stage s.shared).1 = .inl stage' ∧
        Refreshing s.shared.chain p o stage') → ∃ j stage',
          (Pool.advance (fun _ => step decodes) s i stage).calls j = .inl stage' ∧
            Refreshing s.shared.chain p o stage' := by
      rintro ⟨stage', next, refreshing⟩
      exact ⟨i, stage', by rw [Pool.calls_advance_self, next], refreshing⟩
    rw [Pool.shared_advance, quiet.chain, quiet.newest]
    rcases held.covered p o safe with written | logged | ⟨j, stage', left', refreshing⟩
    · exact .inl written
    · rcases quiet.takenUp p o safe logged with waits | next
      · exact .inr (.inl waits)
      · exact .inr (.inr (taken next))
    · refine .inr (.inr ?_)
      by_cases same : j = i
      · subst same
        obtain rfl := Sum.inl.inj (left'.symm.trans left)
        exact taken (quiet.refreshed p o refreshing)
      · exact ⟨j, stage', by rw [Pool.calls_advance_of_ne same, left'], refreshing⟩

/-- The count of the latest accumulator, after a write. -/
theorem newest_advance_writes {acc : AccumulatedCiphertext} {now : ℕ} {loop : Option Loop}
    (p : Bytes32) (o : ℕ) :
    (Pool.advance (fun _ => step decodes) s i
        (.writes pollId optionIndex acc now loop)).shared.newest p o =
      if p = pollId ∧ o = optionIndex then max (s.shared.newest pollId optionIndex) acc.count
      else s.shared.newest p o := by
  by_cases samePoll : p = pollId
  · subst samePoll
    by_cases sameOption : o = optionIndex
    · subst sameOption
      simp [step]
    · simp [step, sameOption]
  · simp [step, samePoll]

/-- **A write in order.** -/
theorem converging_writes {acc : AccumulatedCiphertext} {now : ℕ} {loop : Option Loop}
    (held : Converging s) (left : s.calls i = .inl (.writes pollId optionIndex acc now loop))
    (inOrder : s.shared.newest pollId optionIndex ≤ acc.count) :
    Converging (Pool.advance (fun _ => step decodes) s i
      (.writes pollId optionIndex acc now loop)) := by
  obtain ⟨registered, safe, recent⟩ := held.established i _ left
  refine ⟨held.logged, ?_, ?_, ?_⟩
  · intro j stage' left'
    by_cases same : j = i
    · subst same
      rw [Pool.calls_advance_self] at left'
      exact established_resume registered left'
    · rw [Pool.calls_advance_of_ne same] at left'
      exact held.established j stage' left'
  · intro p o snap cached
    -- the entry is the one written now or one of before
    have entry : (if p = pollId ∧ o = optionIndex then
        some (snapshot now pollId optionIndex acc) else s.shared.cache p o) = some snap := by
      rw [← setCache_apply]
      exact cached
    split at entry
    · rename_i same
      obtain ⟨rfl, rfl⟩ := same
      obtain rfl := Option.some.inj entry
      refine ⟨registered, safe, now, acc, rfl, ?_, recent⟩
      rw [newest_advance_writes, if_pos ⟨rfl, rfl⟩, max_eq_right inOrder]
    · rename_i other
      obtain ⟨registered', safe', written⟩ := held.latest p o snap entry
      refine ⟨registered', safe', ?_⟩
      rw [newest_advance_writes, if_neg other]
      exact written
  · intro p o safe'
    rw [newest_advance_writes]
    by_cases same : p = pollId ∧ o = optionIndex
    · rw [if_pos same]
      obtain ⟨rfl, rfl⟩ := same
      rcases held.covered p o safe' with written | logged | ⟨j, stage', left', refreshing⟩
      · exact .inl (le_max_of_le_left written)
      · exact .inr (.inl logged)
      · by_cases own : j = i
        · subst own
          -- the refresh that was under way is this write
          obtain rfl := Sum.inl.inj (left'.symm.trans left)
          exact .inl (le_max_of_le_right refreshing.2.2.ge)
        · exact .inr (.inr ⟨j, stage', by rw [Pool.calls_advance_of_ne own, left'], refreshing⟩)
    · rw [if_neg same]
      rcases held.covered p o safe' with written | logged | ⟨j, stage', left', refreshing⟩
      · exact .inl written
      · exact .inr (.inl logged)
      · have own : j ≠ i := by
          rintro rfl
          obtain rfl := Sum.inl.inj (left'.symm.trans left)
          exact same ⟨refreshing.1.symm, refreshing.2.1.symm⟩
        exact .inr (.inr ⟨j, stage', by rw [Pool.calls_advance_of_ne own, left'], refreshing⟩)

theorem converging_advance (held : Converging s) (left : s.calls i = .inl stage)
    (inOrder : StageInOrder s.shared stage) :
    Converging (Pool.advance (fun _ => step decodes) s i stage) := by
  have established := held.established i stage left
  cases stage with
  | begins trigger => exact converging_of_quiet held left (quiet_begin held.logged trigger)
  | gets pollId loop => exact converging_of_quiet held left (quiet_gets established)
  | reads pollId optionIndex loop => exact converging_of_quiet held left (quiet_reads established)
  | writes pollId optionIndex acc now loop => exact converging_writes held left inOrder

/-- Only a write puts a snapshot in the place of another. -/
theorem count_le_advance (held : Converging s) (left : s.calls i = .inl stage)
    (inOrder : StageInOrder s.shared stage) {old new : CiphertextSnapshot}
    (before : old ∈ s.shared.cache pollId optionIndex)
    (after : new ∈ (Pool.advance (fun _ => step decodes) s i stage).shared.cache pollId
      optionIndex) : old.count ≤ new.count := by
  have unchanged (quiet : Quiet s.shared (step decodes stage s.shared) stage) :
      old.count ≤ new.count := by
    rw [Pool.shared_advance, quiet.cache] at after
    exact le_of_eq (congrArg CiphertextSnapshot.count (Option.some.inj (before.symm.trans after)))
  have established := held.established i stage left
  cases stage with
  | begins trigger => exact unchanged (quiet_begin held.logged trigger)
  | gets pollId' loop => exact unchanged (quiet_gets established)
  | reads pollId' optionIndex' loop => exact unchanged (quiet_reads established)
  | writes pollId' optionIndex' acc now loop =>
      have entry : (if pollId = pollId' ∧ optionIndex = optionIndex' then
          some (snapshot now pollId' optionIndex' acc) else s.shared.cache pollId optionIndex) =
          some new := by
        rw [← setCache_apply]
        exact after
      split at entry
      · rename_i same
        obtain ⟨rfl, rfl⟩ := same
        obtain rfl := Option.some.inj entry
        obtain ⟨-, -, now', acc', rfl, count, -⟩ := held.latest pollId optionIndex old before
        exact toNumber_mono (count.trans_le inOrder)
      · exact le_of_eq (congrArg CiphertextSnapshot.count
          (Option.some.inj (before.symm.trans entry)))

/-! ### Runs -/

omit [DecidableEq ι] in
theorem converging_start (admin verifier : Address) (triggers : ι → Trigger) :
    Converging (start admin verifier triggers) where
  logged p o mem := by cases mem
  established i stage left := by
    obtain rfl := Sum.inl.inj left
    trivial
  latest p o snap cached := by cases cached
  covered p o safe := .inl le_rfl

theorem converging_run (admin verifier : Address) (triggers : ι → Trigger)
    (moves : List (Pool.Move ι Action))
    (inOrder : (refreshes staticcall decodes).Along InOrder (start admin verifier triggers)
      moves) :
    Converging ((refreshes staticcall decodes).run (start admin verifier triggers) moves) :=
  Pool.openMachine_invariant (I := Converging) (converging_start admin verifier triggers)
    (fun _ _ _ held inOrder left =>
      converging_advance held left (inOrder _ (Sum.getLeft?_eq_some_iff.mpr left)))
    (fun _ action held _ => converging_act held action) moves inOrder

omit [DecidableEq ι] in
/-- When all runs have finished, the cache is the chain. -/
theorem Converging.settled (held : Converging s) (delivered : s.shared.logs = [])
    (idle : ∀ i, Idle (s.calls i)) {snap : CiphertextSnapshot}
    (cached : snap ∈ s.shared.cache pollId optionIndex) :
    ∃ now, snap = snapshot now pollId optionIndex
      (s.shared.chain.getAccumulated pollId optionIndex) := by
  obtain ⟨-, safe, now, acc, rfl, count, older | rfl⟩ := held.latest pollId optionIndex snap cached
  · rcases held.covered pollId optionIndex safe with written | logged | ⟨i, stage, left, at'⟩
    · omega
    · rw [delivered] at logged
      cases logged
    · have finished := left ▸ idle i
      cases stage with
      | begins trigger => exact at'.elim
      | gets pollId' loop => exact finished.elim
      | reads pollId' optionIndex' loop => exact finished.elim
      | writes pollId' optionIndex' acc now loop => exact finished.elim
  · exact ⟨now, rfl⟩

/-- Along one move. -/
theorem count_le_next (held : Converging s) {move : Pool.Move ι Action} (inOrder : InOrder s move)
    {old new : CiphertextSnapshot} (before : old ∈ s.shared.cache pollId optionIndex)
    (after : new ∈ ((refreshes staticcall decodes).next s move).shared.cache pollId optionIndex) :
    old.count ≤ new.count := by
  have kept (same : s.shared.cache pollId optionIndex = some new) : old.count ≤ new.count :=
    le_of_eq (congrArg CiphertextSnapshot.count (Option.some.inj (before.symm.trans same)))
  cases move with
  | act action =>
      cases action with
      | transaction tx => exact kept after
      | tick ms => exact kept after
      | expires p o =>
          have entry : (if pollId = p ∧ optionIndex = o then none
              else s.shared.cache pollId optionIndex) = some new := by
            rw [← setCache_apply]
            exact after
          split at entry
          · cases entry
          · exact kept entry
  | call i =>
      by_cases succeeds : (refreshes staticcall decodes).Succeeds s (.call i)
      · obtain ⟨⟨s', ended⟩, success⟩ := succeeds
        obtain ⟨stage, left, rfl, -⟩ := Pool.call_eq_ok success
        rw [Machine.next_of_ok success] at after
        exact count_le_advance held left (inOrder _ (Sum.getLeft?_eq_some_iff.mpr left)) before
          after
      · rw [Machine.next_of_not_succeeds succeeds] at after
        exact kept after

end Converging

/-- **The cache converges**: while an entry is alive its count does not decrease,
and when every event has been delivered and every run has finished, it is a
snapshot of the accumulator on chain; in the runs that write in order. -/
theorem converges_of_inOrder {ι : Type} [DecidableEq ι]
    (staticcall : Address → Bytes → List ℕ → Bool × Bytes) (admin verifier : Address)
    (decodes : Bool) (triggers : ι → Trigger) (moves : List (Pool.Move ι Action))
    (inOrder : (refreshes staticcall decodes).Along InOrder (start admin verifier triggers)
      moves) :
    (∀ done move rest, moves = done ++ move :: rest → ∀ pollId optionIndex,
      ∀ old ∈ ((refreshes staticcall decodes).run (start admin verifier triggers)
        done).shared.cache pollId optionIndex,
      ∀ new ∈ ((refreshes staticcall decodes).run (start admin verifier triggers)
        (done ++ [move])).shared.cache pollId optionIndex, old.count ≤ new.count) ∧
    (let s := (refreshes staticcall decodes).run (start admin verifier triggers) moves
    s.shared.logs = [] → (∀ i, Idle (s.calls i)) → ∀ pollId optionIndex,
      ∀ snap ∈ s.shared.cache pollId optionIndex, ∃ now, snap = snapshot now pollId optionIndex
        (s.shared.chain.getAccumulated pollId optionIndex)) := by
  constructor
  · rintro done move rest rfl pollId optionIndex old before new after
    obtain ⟨earlier, now, -⟩ := (Machine.along_append _ _ _).mp inOrder
    rw [Machine.run_concat] at after
    exact count_le_next (converging_run admin verifier triggers done earlier) now before after
  · intro s delivered idle pollId optionIndex snap cached
    exact (converging_run admin verifier triggers moves inOrder).settled delivered idle cached

/-! ## Two votes in quick succession -/

/-- The listener of the first vote. -/
def former : Fin 2 := ⟨0, Nat.two_pos⟩

/-- The listener of the second vote. -/
def latter : Fin 2 := ⟨1, Nat.one_lt_two⟩

/-- Two listeners, one for each vote. -/
def twoEvents : Fin 2 → Trigger := fun _ => .event samplePollId 0

/-- The sample poll is registered. -/
def registration : Pool.Move (Fin 2) Action := .act (.transaction sampleRegistration)

/-- A sample vote is submitted. -/
def vote (nullifier : Bytes32) : Pool.Move (Fin 2) Action :=
  .act (.transaction (sampleSubmission 0 nullifier))

/-- The first refresh is over before the second vote. -/
def oneByOne : List (Pool.Move (Fin 2) Action) :=
  [registration, vote 1, .call former, .call former, .call former, vote 2, .call latter,
    .call latter, .call latter]

theorem converges_of_inOrder_sample :
    let s := (refreshes (booleanVerifier sampleAccepts) false).run (start 1 0 twoEvents) oneByOne
    s.shared.logs = [] → (∀ i, Idle (s.calls i)) → ∀ pollId optionIndex,
      ∀ snap ∈ s.shared.cache pollId optionIndex, ∃ now, snap = snapshot now pollId optionIndex
        (s.shared.chain.getAccumulated pollId optionIndex) :=
  (converges_of_inOrder (booleanVerifier sampleAccepts) 1 0 false twoEvents oneByOne
    (by decide)).2

/-- The refresh of the first vote has read one vote, and writes after the refresh
of the second vote has written two. -/
def overtaken : List (Pool.Move (Fin 2) Action) :=
  [registration, vote 1, .call former, .call former, vote 2, .call latter, .call latter,
    .call latter]

/-- The cached count falls from two to one, and stays there when every event has
been delivered and both runs have finished. -/
theorem converges_counterexample :
    let before := (refreshes (booleanVerifier sampleAccepts) false).run (start 1 0 twoEvents)
      overtaken
    let after := (refreshes (booleanVerifier sampleAccepts) false).run (start 1 0 twoEvents)
      (overtaken ++ [.call 0])
    (before.shared.cache samplePollId 0).map CiphertextSnapshot.count = some 2 ∧
      (after.shared.cache samplePollId 0).map CiphertextSnapshot.count = some 1 ∧
      after.shared.logs = [] ∧ (∀ i, Idle (after.calls i)) ∧
      (after.shared.chain.getAccumulated samplePollId 0).count = 2 := by
  decide

end TheVoteApp.HomomorphicTallyService
