import TheVoteApp.Backend.LiveVersusBatch
import TheVoteApp.Foundations.Machine

/-!
# Stopping and restarting the live tally

A run of the live service: votes reach the chain while it listens and while it
does not, it stops, and it starts again from the last block it has seen.  The
chain has at most one `VoteCast` a block (`WellFormed`), so several votes in a
block are not what goes wrong here.

`CountsOnce` says when a step counts what it should: a replay must not find a vote
that was counted, a start from block zero must not leave one behind.  The snapshot
is right throughout a run exactly when every step meets it
(`counted_exactly_once_iff`).  The first part fails in the ordinary case: `catchUp`
replays from the last block seen, that block included, so the vote counted live
there is counted again (`last_vote_counted_twice`).

## Main definitions

* `World`, `Occurrence`, `occur` — the service and the chain, and what can happen
* `WellFormed` — the runs considered
* `CountedOnce` — the snapshot is the tally of the chain's votes
* `CountsOnce` — the condition on a step
-/

namespace TheVoteApp.LiveTallyService

open Solidity VoteLedger TallyService Foundations

/-- The service and the chain it reads.  `missed` are the events since the last
`start` that no listener received, `firstFrom` the block of the first `start`. -/
structure World where
  service : LiveTallyService
  chain : List VoteCastArgs
  missed : List VoteCastArgs
  firstFrom : Option ℕ

/-- What can happen. -/
inductive Occurrence where
  | start (fromBlock : ℕ)
  | stop
  | voteCast (event : VoteCastArgs)
  | policyFinalized (policyIdHash : Bytes32)
deriving DecidableEq

/-- One occurrence, with the update the service emits. -/
def occur (w : World) : Occurrence → World × List LiveTallyUpdate
  | .start fromBlock =>
      ({ w with
          service := w.service.start w.chain fromBlock
          missed := []
          firstFrom := some (w.firstFrom.getD fromBlock) }, [])
  | .stop => ({ w with service := w.service.stop }, [])
  | .voteCast event =>
      if w.service.subscribed then
        let delivered := w.service.onVoteCast event
        ({ w with service := delivered.1, chain := w.chain ++ [event] }, delivered.2.toList)
      else ({ w with chain := w.chain ++ [event], missed := w.missed ++ [event] }, [])
  | .policyFinalized policyIdHash =>
      if w.service.subscribed then
        let delivered := w.service.onPolicyFinalized policyIdHash
        ({ w with service := delivered.1 }, delivered.2.toList)
      else (w, [])

/-- The runs of the service; nothing reverts. -/
def machine : Machine World Occurrence LiveTallyUpdate Empty where
  call w o := .ok (occur w o)

/-- The service with its policies tracked, beside an empty chain. -/
def World.initial (keccak256 : Bytes → Bytes32) (policyIds : List String) : World where
  service := tracking keccak256 policyIds
  chain := []
  missed := []
  firstFrom := none

/-- A vote is in a later block than those before it, and a restart is after a stop
and from the last block seen. -/
def WellFormed (w : World) : Occurrence → Prop
  | .start fromBlock =>
      w.service.subscribed = false ∧
        ∀ first ∈ w.firstFrom, fromBlock = w.service.lastSeenBlock
  | .voteCast event => ∀ earlier ∈ w.chain, earlier.blockNumber < event.blockNumber
  | .stop | .policyFinalized _ => True

instance decidableWellFormed (w : World) : ∀ o, Decidable (WellFormed w o)
  | .start fromBlock =>
      inferInstanceAs (Decidable (w.service.subscribed = false ∧
        ∀ first ∈ w.firstFrom, fromBlock = w.service.lastSeenBlock))
  | .voteCast event =>
      inferInstanceAs (Decidable (∀ earlier ∈ w.chain, earlier.blockNumber < event.blockNumber))
  | .stop | .policyFinalized _ => isTrue trivial

section Runs

variable (keccak256 : Bytes → Bytes32) (policyIds : List String) (p : String)

/-- The snapshot of the policy counts each of its votes on the chain once, from
the block of the first `start` on. -/
def CountedOnce (w : World) : Prop :=
  ∃ first snapshot, w.firstFrom = some first ∧ w.service.getSnapshot p = some snapshot ∧
    SameCounts snapshot (tallyOf keccak256 p (eventsFrom w.chain first))

/-- A `start` that replays finds votes of the policy only among those missed; one
from block zero, which replays nothing, finds none missed.  A vote delivered is
later than the last block seen. -/
def CountsOnce (w : World) : Occurrence → Prop
  | .start fromBlock =>
      if 0 < fromBlock then
        ∀ event ∈ w.chain, event.policyIdHash = ethersId keccak256 p →
          fromBlock ≤ event.blockNumber → p ≠ "" ∧ event ∈ w.missed
      else ∀ event ∈ w.missed, event.policyIdHash ≠ ethersId keccak256 p
  | .voteCast event =>
      w.service.subscribed = true → event.policyIdHash = ethersId keccak256 p →
        (∀ first ∈ w.firstFrom, first ≤ event.blockNumber) →
          p ≠ "" ∧ w.service.lastSeenBlock < event.blockNumber
  | .stop | .policyFinalized _ => True

instance decidableCountsOnce (w : World) : ∀ o, Decidable (CountsOnce keccak256 p w o)
  | .start fromBlock =>
      inferInstanceAs (Decidable (if 0 < fromBlock then
        ∀ event ∈ w.chain, event.policyIdHash = ethersId keccak256 p →
          fromBlock ≤ event.blockNumber → p ≠ "" ∧ event ∈ w.missed
        else ∀ event ∈ w.missed, event.policyIdHash ≠ ethersId keccak256 p))
  | .voteCast event =>
      inferInstanceAs (Decidable (w.service.subscribed = true →
        event.policyIdHash = ethersId keccak256 p →
          (∀ first ∈ w.firstFrom, first ≤ event.blockNumber) →
            p ≠ "" ∧ w.service.lastSeenBlock < event.blockNumber))
  | .stop | .policyFinalized _ => isTrue trivial

end Runs

variable {keccak256 : Bytes → Bytes32} {policyIds : List String} {p : String}

/-! ## Lists of events -/

/-- The events a snapshot counts: none for the empty policy, which the service
takes for an unknown one. -/
def countable (p : String) (events : List VoteCastArgs) : List VoteCastArgs :=
  if p = "" then [] else events

theorem eventsFrom_append (before after : List VoteCastArgs) (fromBlock : ℕ) :
    eventsFrom (before ++ after) fromBlock =
      eventsFrom before fromBlock ++ eventsFrom after fromBlock := List.filter_append ..

theorem votesFor_append (before after : List VoteCastArgs) :
    votesFor keccak256 p (before ++ after) =
      votesFor keccak256 p before ++ votesFor keccak256 p after := List.filter_append ..

theorem eventsFrom_zero (events : List VoteCastArgs) : eventsFrom events 0 = events := by
  simp [eventsFrom]

theorem votesFor_eq_nil_iff (events : List VoteCastArgs) :
    votesFor keccak256 p events = [] ↔
      ∀ event ∈ events, event.policyIdHash ≠ ethersId keccak256 p := by
  simp [votesFor]

theorem votesFor_eventsFrom_eq_nil_iff (events : List VoteCastArgs) (fromBlock : ℕ) :
    votesFor keccak256 p (eventsFrom events fromBlock) = [] ↔
      ∀ event ∈ events, event.policyIdHash = ethersId keccak256 p →
        ¬ fromBlock ≤ event.blockNumber := by
  rw [votesFor_eq_nil_iff]
  simp only [eventsFrom, List.mem_filter, decide_eq_true_eq]
  constructor
  · intro none event mem named late
    exact none event ⟨mem, late⟩ named
  · rintro none event ⟨mem, late⟩ named
    exact none event mem named late

/-- The votes a replay adds make up for those missed exactly when it repeats
none. -/
theorem replay_iff {counted online missed : List VoteCastArgs} {first fromBlock : ℕ}
    (balance : votesFor keccak256 p (countable p counted) =
      votesFor keccak256 p (eventsFrom online first))
    (above : first ≤ fromBlock) (sameMissed : eventsFrom missed fromBlock = eventsFrom missed first)
    (apart : ∀ event ∈ online, event ∉ missed) :
    let all := eventsFrom (online ++ missed) first
    let counted' := countable p (counted ++ eventsFrom (online ++ missed) fromBlock)
    ((votesFor keccak256 p all).Sublist (votesFor keccak256 p counted') ∨
      (votesFor keccak256 p counted').Sublist (votesFor keccak256 p all)) ∧
    (votesFor keccak256 p counted' = votesFor keccak256 p all ↔
      ∀ event ∈ online ++ missed, event.policyIdHash = ethersId keccak256 p →
        fromBlock ≤ event.blockNumber → p ≠ "" ∧ event ∈ missed) := by
  intro all counted'
  by_cases empty : p = ""
  · -- nothing is ever counted for the empty policy, so it must have no votes
    have none : votesFor keccak256 p counted' = [] := by simp [counted', countable, empty, votesFor]
    have noneOnline : votesFor keccak256 p (eventsFrom online first) = [] := by
      rw [← balance, countable, if_pos empty]
      rfl
    refine ⟨.inr (none ▸ List.nil_sublist _), ?_⟩
    rw [none, eq_comm]
    simp only [all, eventsFrom_append, votesFor_append, noneOnline, List.nil_append, ← sameMissed]
    rw [votesFor_eventsFrom_eq_nil_iff] at noneOnline ⊢
    constructor
    · intro noneMissed event mem named late
      rcases List.mem_append.mp mem with old | new
      · exact absurd (above.trans late) (noneOnline event old named)
      · exact absurd late (noneMissed event new named)
    · intro met event mem named late
      exact (met event (List.mem_append_right _ mem) named late).1 empty
  · -- the replay adds the votes missed, and those online from `fromBlock` on again
    have replayed : votesFor keccak256 p counted' =
        votesFor keccak256 p (eventsFrom online first) ++
          (votesFor keccak256 p (eventsFrom online fromBlock) ++
            votesFor keccak256 p (eventsFrom missed first)) := by
      rw [countable, if_neg empty] at balance
      simp only [counted', countable, if_neg empty, votesFor_append, eventsFrom_append, balance,
        sameMissed]
    have target : votesFor keccak256 p all =
        votesFor keccak256 p (eventsFrom online first) ++
          votesFor keccak256 p (eventsFrom missed first) := by
      simp only [all, votesFor_append, eventsFrom_append]
    rw [replayed, target]
    refine ⟨.inl ((List.sublist_append_right _ _).append_left _), ?_⟩
    rw [List.append_cancel_left_eq, List.append_left_eq_self, votesFor_eventsFrom_eq_nil_iff]
    constructor
    · intro none event mem named late
      rcases List.mem_append.mp mem with old | new
      · exact absurd late (none event old named)
      · exact ⟨empty, new⟩
    · intro met event mem named late
      exact apart event mem (met event (List.mem_append_left _ mem) named late).2

/-- The same for any start: one from block zero replays nothing. -/
theorem start_iff {counted online missed : List VoteCastArgs} {first fromBlock : ℕ}
    (balance : votesFor keccak256 p (countable p counted) =
      votesFor keccak256 p (eventsFrom online first))
    (above : first ≤ fromBlock) (sameMissed : eventsFrom missed fromBlock = eventsFrom missed first)
    (apart : ∀ event ∈ online, event ∉ missed) :
    let all := eventsFrom (online ++ missed) first
    let counted' :=
      countable p (counted ++ if 0 < fromBlock then eventsFrom (online ++ missed) fromBlock else [])
    ((votesFor keccak256 p all).Sublist (votesFor keccak256 p counted') ∨
      (votesFor keccak256 p counted').Sublist (votesFor keccak256 p all)) ∧
    (votesFor keccak256 p counted' = votesFor keccak256 p all ↔
      if 0 < fromBlock then
        ∀ event ∈ online ++ missed, event.policyIdHash = ethersId keccak256 p →
          fromBlock ≤ event.blockNumber → p ≠ "" ∧ event ∈ missed
      else ∀ event ∈ missed, event.policyIdHash ≠ ethersId keccak256 p) := by
  intro all counted'
  by_cases replays : 0 < fromBlock
  · simp only [counted', if_pos replays]
    exact replay_iff balance above sameMissed apart
  · -- what was missed stays uncounted
    obtain rfl : fromBlock = 0 := by omega
    obtain rfl : first = 0 := Nat.le_zero.mp above
    simp only [counted', if_neg replays, List.append_nil, balance, all, eventsFrom_append,
      votesFor_append]
    refine ⟨.inr (List.sublist_append_left _ _), ?_⟩
    rw [List.self_eq_append_right, eventsFrom_zero missed, votesFor_eq_nil_iff]

/-! ## What a run has counted -/

/-- The snapshots reflect `counted`; the events on the chain are those `online`,
when a listener or a replay got them, and those missed since. -/
structure Tracked (keccak256 : Bytes → Bytes32) (policyIds : List String) (w : World)
    (counted online : List VoteCastArgs) : Prop where
  ordered : w.chain.Pairwise fun earlier later => earlier.blockNumber < later.blockNumber
  chain : w.chain = online ++ w.missed
  heard : w.service.subscribed = true → w.missed = []
  reflects : Reflects keccak256 policyIds w.service counted
  unstarted : w.firstFrom = none →
    online = [] ∧ counted = [] ∧ w.service.subscribed = false
  started : ∀ first, w.firstFrom = some first → first ≤ w.service.lastSeenBlock ∧
    (w.service.lastSeenBlock ≤ first ∨
      ∃ event ∈ online, w.service.lastSeenBlock ≤ event.blockNumber)

/-- Each vote `online` is counted once. -/
def Balance (keccak256 : Bytes → Bytes32) (p : String) (w : World)
    (counted online : List VoteCastArgs) : Prop :=
  ∀ first, w.firstFrom = some first →
    votesFor keccak256 p (countable p counted) = votesFor keccak256 p (eventsFrom online first)

/-- While the service listens, the policy's votes are counted once. -/
def Good (keccak256 : Bytes → Bytes32) (p : String) (w : World) : Prop :=
  w.service.subscribed = true → CountedOnce keccak256 p w

variable {w : World} {counted online : List VoteCastArgs}

theorem balance_iff {first : ℕ} (started : w.firstFrom = some first) :
    Balance keccak256 p w counted online ↔
      votesFor keccak256 p (countable p counted) =
        votesFor keccak256 p (eventsFrom online first) := by
  simp only [Balance, started, Option.some.injEq, forall_eq']

theorem Tracked.apart (held : Tracked keccak256 policyIds w counted online) :
    ∀ event ∈ online, event ∉ w.missed := by
  intro event old new
  have ordered := held.ordered
  rw [held.chain, List.pairwise_append] at ordered
  exact absurd (ordered.2.2 event old event new) (lt_irrefl _)

/-- Nothing missed lies between the first block and the last one seen. -/
theorem Tracked.eventsFrom_missed (held : Tracked keccak256 policyIds w counted online)
    {first : ℕ} (started : w.firstFrom = some first) :
    eventsFrom w.missed w.service.lastSeenBlock = eventsFrom w.missed first := by
  obtain ⟨above, reached⟩ := held.started first started
  refine List.filter_congr fun event mem => decide_eq_decide.mpr ?_
  refine ⟨above.trans, fun late => ?_⟩
  rcases reached with atStart | ⟨last, seen, bound⟩
  · exact atStart.trans late
  · -- what was missed came after all that is online
    have ordered := held.ordered
    rw [held.chain, List.pairwise_append] at ordered
    exact bound.trans (ordered.2.2 last seen event mem).le

/-- While the service listens, its snapshot is right exactly when what it has
counted is. -/
theorem Tracked.countedOnce_iff (held : Tracked keccak256 policyIds w counted online)
    (tracked : p ∈ policyIds) (listening : w.service.subscribed = true) {first : ℕ}
    (started : w.firstFrom = some first)
    (nested : (votesFor keccak256 p (eventsFrom online first)).Sublist
        (votesFor keccak256 p (countable p counted)) ∨
      (votesFor keccak256 p (countable p counted)).Sublist
        (votesFor keccak256 p (eventsFrom online first))) :
    CountedOnce keccak256 p w ↔ Balance keccak256 p w counted online := by
  obtain ⟨snapshot, stored, live⟩ := held.reflects.tallies p tracked
  have all : w.chain = online := by
    rw [held.chain, held.heard listening, List.append_nil]
  have same : SameCounts snapshot (tallyOf keccak256 p (eventsFrom online first)) ↔
      Balance keccak256 p w counted online :=
    ((live.congr (.refl _)).trans (sameCounts_tallyOf_iff nested.symm)).trans
      (balance_iff started).symm
  rw [← same, CountedOnce, all]
  constructor
  · rintro ⟨first', snapshot', started', stored', counts⟩
    obtain rfl := Option.some.inj (started.symm.trans started')
    obtain rfl := Option.some.inj (stored.symm.trans stored')
    exact counts
  · intro counts
    exact ⟨first, snapshot, started, stored, counts⟩

theorem Tracked.good (held : Tracked keccak256 policyIds w counted online)
    (tracked : p ∈ policyIds) (balance : Balance keccak256 p w counted online) :
    Good keccak256 p w := by
  intro listening
  cases started : w.firstFrom with
  | none =>
      have idle := (held.unstarted started).2.2
      rw [listening] at idle
      cases idle
  | some first =>
      refine (held.countedOnce_iff tracked listening started (.inl ?_)).mpr balance
      rw [balance first started]

/-! ## The steps -/

/-- What a step leads to: the new lists, and that the policy's votes in them are
still counted once exactly when the step meets its condition. -/
def StepSpec (keccak256 : Bytes → Bytes32) (policyIds : List String) (p : String) (w : World)
    (o : Occurrence) : Prop :=
  ∃ counted online, Tracked keccak256 policyIds (occur w o).1 counted online ∧
    (CountsOnce keccak256 p w o ↔ Balance keccak256 p (occur w o).1 counted online) ∧
    (Good keccak256 p (occur w o).1 ↔ Balance keccak256 p (occur w o).1 counted online)

/-- A step into a state in which the service listens. -/
theorem stepSpec_of_nested (tracked : p ∈ policyIds) {o : Occurrence}
    (held' : Tracked keccak256 policyIds (occur w o).1 counted online)
    (listens : (occur w o).1.service.subscribed = true) {first : ℕ}
    (begun : (occur w o).1.firstFrom = some first)
    (nested : (votesFor keccak256 p (eventsFrom online first)).Sublist
        (votesFor keccak256 p (countable p counted)) ∨
      (votesFor keccak256 p (countable p counted)).Sublist
        (votesFor keccak256 p (eventsFrom online first)))
    (met : CountsOnce keccak256 p w o ↔ Balance keccak256 p (occur w o).1 counted online) :
    StepSpec keccak256 policyIds p w o := by
  refine ⟨counted, online, held', met, ?_⟩
  rw [← held'.countedOnce_iff tracked listens begun nested]
  exact ⟨fun good => good listens, fun once _ => once⟩

/-- A step after which the same votes are online, counted as before. -/
theorem stepSpec_of_balance (tracked : p ∈ policyIds) {o : Occurrence}
    (counted online : List VoteCastArgs)
    (held' : Tracked keccak256 policyIds (occur w o).1 counted online)
    (balance' : Balance keccak256 p (occur w o).1 counted online)
    (met : CountsOnce keccak256 p w o) :
    StepSpec keccak256 policyIds p w o :=
  ⟨counted, online, held', iff_of_true met balance',
    iff_of_true (held'.good tracked balance') balance'⟩

/-- Where a start leaves off: the votes online are counted, and nothing missed is
before the block it starts from. -/
theorem Tracked.resumption (held : Tracked keccak256 policyIds w counted online)
    (balance : Balance keccak256 p w counted online) {fromBlock : ℕ}
    (valid : WellFormed w (.start fromBlock)) {first : ℕ}
    (begins : w.firstFrom.getD fromBlock = first) :
    votesFor keccak256 p (countable p counted) =
        votesFor keccak256 p (eventsFrom online first) ∧
      first ≤ fromBlock ∧ eventsFrom w.missed fromBlock = eventsFrom w.missed first ∧
      (fromBlock ≤ first ∨ ∃ event ∈ w.chain, fromBlock ≤ event.blockNumber) := by
  cases started : w.firstFrom with
  | none =>
      -- the first start: nothing is online yet
      obtain rfl : fromBlock = first := by simpa [started] using begins
      obtain ⟨rfl, rfl, -⟩ := held.unstarted started
      exact ⟨by simp [countable, eventsFrom], le_rfl, rfl, .inl le_rfl⟩
  | some first' =>
      obtain rfl : first' = first := by simpa [started] using begins
      -- a restart is from the last block seen
      obtain rfl := valid.2 first' started
      obtain ⟨above, reached⟩ := held.started first' started
      refine ⟨balance first' started, above, held.eventsFrom_missed started, reached.imp_right ?_⟩
      rintro ⟨event, mem, bound⟩
      exact ⟨event, held.chain ▸ List.mem_append_left _ mem, bound⟩

/-- What is online after a start is the whole chain. -/
theorem Tracked.start (held : Tracked keccak256 policyIds w counted online) {fromBlock first : ℕ}
    (begins : w.firstFrom.getD fromBlock = first) (above : first ≤ fromBlock)
    (reached : fromBlock ≤ first ∨ ∃ event ∈ w.chain, fromBlock ≤ event.blockNumber) :
    Tracked keccak256 policyIds (occur w (.start fromBlock)).1
      (counted ++ if 0 < fromBlock then eventsFrom w.chain fromBlock else []) w.chain := by
  subst begins
  refine ⟨held.ordered, (List.append_nil _).symm, fun _ => rfl,
    held.reflects.start w.chain fromBlock, ?_, ?_⟩
  · rintro ⟨⟩
  · rintro first ⟨⟩
    simp only [occur, lastSeenBlock_start]
    exact ⟨above, reached⟩

theorem stepSpec_start (held : Tracked keccak256 policyIds w counted online)
    (tracked : p ∈ policyIds) (balance : Balance keccak256 p w counted online) {fromBlock : ℕ}
    (valid : WellFormed w (.start fromBlock)) :
    StepSpec keccak256 policyIds p w (.start fromBlock) := by
  obtain ⟨first, begins⟩ : ∃ first, w.firstFrom.getD fromBlock = first := ⟨_, rfl⟩
  obtain ⟨counts, above, sameMissed, reached⟩ := held.resumption balance valid begins
  have begun : (occur w (.start fromBlock)).1.firstFrom = some first := congrArg some begins
  obtain ⟨nested, same⟩ := start_iff counts above sameMissed held.apart
  rw [← held.chain] at nested same
  refine stepSpec_of_nested tracked (held.start begins above reached) rfl begun nested ?_
  rw [balance_iff begun, same]
  rfl

theorem stepSpec_stop (held : Tracked keccak256 policyIds w counted online)
    (tracked : p ∈ policyIds) (balance : Balance keccak256 p w counted online) :
    StepSpec keccak256 policyIds p w .stop := by
  refine stepSpec_of_balance tracked counted online
    ⟨held.ordered, held.chain, ?_, ?_, ?_, held.started⟩ balance trivial
  · rintro ⟨⟩
  · exact held.reflects.of_same rfl rfl
  · intro never
    exact ⟨(held.unstarted never).1, (held.unstarted never).2.1, rfl⟩

theorem stepSpec_policyFinalized (held : Tracked keccak256 policyIds w counted online)
    (tracked : p ∈ policyIds) (balance : Balance keccak256 p w counted online)
    (policyIdHash : Bytes32) :
    StepSpec keccak256 policyIds p w (.policyFinalized policyIdHash) := by
  by_cases listening : w.service.subscribed = true
  · obtain ⟨tallies, same⟩ := w.service.onPolicyFinalized_eq policyIdHash
    have next : (occur w (.policyFinalized policyIdHash)).1 =
        { w with service := { w.service with tallies } } := by
      simp only [occur, if_pos listening, same]
    have reflects := held.reflects.onPolicyFinalized policyIdHash
    rw [same] at reflects
    refine stepSpec_of_balance tracked counted online ?_ ?_ trivial
    · rw [next]
      exact ⟨held.ordered, held.chain, held.heard, reflects, held.unstarted, held.started⟩
    · rw [next]
      exact balance
  · have next : (occur w (.policyFinalized policyIdHash)).1 = w := by
      simp only [occur, if_neg listening]
    exact stepSpec_of_balance tracked counted online (next.symm ▸ held) (next.symm ▸ balance)
      trivial

theorem pairwise_concat {chain : List VoteCastArgs}
    (ordered : chain.Pairwise fun earlier later => earlier.blockNumber < later.blockNumber)
    {event : VoteCastArgs} (last : ∀ earlier ∈ chain, earlier.blockNumber < event.blockNumber) :
    (chain ++ [event]).Pairwise fun earlier later => earlier.blockNumber < later.blockNumber := by
  rw [List.pairwise_append]
  refine ⟨ordered, List.pairwise_singleton .., ?_⟩
  intro earlier mem later singleton
  rw [List.mem_singleton.mp singleton]
  exact last earlier mem

/-- A vote nobody hears of. -/
theorem stepSpec_voteCast_missed (held : Tracked keccak256 policyIds w counted online)
    (tracked : p ∈ policyIds) (balance : Balance keccak256 p w counted online)
    {event : VoteCastArgs} (valid : WellFormed w (.voteCast event))
    (deaf : ¬ w.service.subscribed = true) :
    StepSpec keccak256 policyIds p w (.voteCast event) := by
  have next : (occur w (.voteCast event)).1 =
      { w with chain := w.chain ++ [event], missed := w.missed ++ [event] } := by
    simp only [occur, if_neg deaf]
  refine stepSpec_of_balance tracked counted online ?_ ?_
    fun listening => absurd listening deaf
  · rw [next]
    refine ⟨pairwise_concat held.ordered valid, ?_, fun listening => absurd listening deaf,
      held.reflects, held.unstarted, held.started⟩
    rw [held.chain, List.append_assoc]
  · rw [next]
    exact balance

theorem append_ite_eq_iff {α : Type*} (xs : List α) (x : α) (P Q : Prop) [Decidable P]
    [Decidable Q] :
    (xs ++ if P then [x] else []) = (xs ++ if Q then [x] else []) ↔ (P ↔ Q) := by
  by_cases left : P <;> by_cases right : Q <;> simp [left, right]

theorem append_ite_nested {α : Type*} (xs : List α) (x : α) (P Q : Prop) [Decidable P]
    [Decidable Q] :
    (xs ++ if P then [x] else []).Sublist (xs ++ if Q then [x] else []) ∨
      (xs ++ if Q then [x] else []).Sublist (xs ++ if P then [x] else []) := by
  by_cases left : P <;> by_cases right : Q <;> simp [left, right]

theorem votesFor_concat (events : List VoteCastArgs) (event : VoteCastArgs) (P : Prop)
    [Decidable P] :
    votesFor keccak256 p (countable p (events ++ if P then [event] else [])) =
      votesFor keccak256 p (countable p events) ++
        if event.policyIdHash = ethersId keccak256 p ∧ p ≠ "" ∧ P then [event] else [] := by
  by_cases empty : p = "" <;> by_cases held : P <;>
    by_cases named : event.policyIdHash = ethersId keccak256 p <;>
      simp [votesFor, countable, empty, held, named]

theorem votesFor_eventsFrom_concat (events : List VoteCastArgs) (event : VoteCastArgs)
    (first : ℕ) :
    votesFor keccak256 p (eventsFrom (events ++ [event]) first) =
      votesFor keccak256 p (eventsFrom events first) ++
        if event.policyIdHash = ethersId keccak256 p ∧ first ≤ event.blockNumber then [event]
        else [] := by
  by_cases late : first ≤ event.blockNumber <;>
    by_cases named : event.policyIdHash = ethersId keccak256 p <;>
      simp [votesFor, eventsFrom, late, named]

/-- A vote the listener receives is online; it is counted in a new block. -/
theorem Tracked.voteCast (held : Tracked keccak256 policyIds w counted online)
    {event : VoteCastArgs} (valid : WellFormed w (.voteCast event))
    (listening : w.service.subscribed = true) {first : ℕ} (started : w.firstFrom = some first) :
    Tracked keccak256 policyIds (occur w (.voteCast event)).1
      (counted ++ if w.service.lastSeenBlock < event.blockNumber then [event] else [])
      (online ++ [event]) := by
  obtain ⟨above, reached⟩ := held.started first started
  simp only [occur, if_pos listening]
  refine ⟨pairwise_concat held.ordered valid, ?_, fun _ => held.heard listening, ?_,
    fun never => by simp [started] at never, ?_⟩
  · simp [held.chain, held.heard listening]
  · simpa only [← not_lt, ite_not] using held.reflects.onVoteCast event
  · intro first' started'
    obtain rfl := Option.some.inj (started.symm.trans started')
    simp only [lastSeenBlock_onVoteCast]
    split
    · -- the guard stops the vote, and the last block seen stays
      refine ⟨above, reached.imp_right ?_⟩
      rintro ⟨last, seen, bound⟩
      exact ⟨last, List.mem_append_left _ seen, bound⟩
    · rename_i later
      exact ⟨above.trans (Nat.le_of_not_le later), .inr ⟨event, by simp, le_rfl⟩⟩

/-- The vote is counted exactly when it should be. -/
theorem countsOnce_voteCast_iff {event : VoteCastArgs} {first : ℕ}
    (listening : w.service.subscribed = true) (started : w.firstFrom = some first)
    (above : first ≤ w.service.lastSeenBlock) :
    CountsOnce keccak256 p w (.voteCast event) ↔
      (event.policyIdHash = ethersId keccak256 p ∧ p ≠ "" ∧
          w.service.lastSeenBlock < event.blockNumber ↔
        event.policyIdHash = ethersId keccak256 p ∧ first ≤ event.blockNumber) := by
  simp only [CountsOnce, listening, started, Option.mem_def, Option.some.injEq, forall_eq',
    true_implies]
  constructor
  · intro met
    constructor
    · -- a vote that is counted is not before the first block
      rintro ⟨named, -, later⟩
      exact ⟨named, above.trans later.le⟩
    · rintro ⟨named, late⟩
      exact ⟨named, met named late⟩
  · intro counts named late
    exact (counts.mpr ⟨named, late⟩).2

theorem stepSpec_voteCast_heard (held : Tracked keccak256 policyIds w counted online)
    (tracked : p ∈ policyIds) (balance : Balance keccak256 p w counted online)
    {event : VoteCastArgs} (valid : WellFormed w (.voteCast event))
    (listening : w.service.subscribed = true) :
    StepSpec keccak256 policyIds p w (.voteCast event) := by
  obtain ⟨first, started⟩ : ∃ first, w.firstFrom = some first := by
    cases started : w.firstFrom with
    | none => simp [(held.unstarted started).2.2] at listening
    | some first => exact ⟨first, rfl⟩
  have begun : (occur w (.voteCast event)).1.firstFrom = some first := by
    simp only [occur, if_pos listening, started]
  have listens : (occur w (.voteCast event)).1.service.subscribed = true := by
    simp only [occur, if_pos listening, subscribed_onVoteCast]
    exact listening
  have before := balance first started
  refine stepSpec_of_nested tracked (held.voteCast valid listening started) listens begun ?_ ?_
  · rw [votesFor_concat, votesFor_eventsFrom_concat, before]
    exact append_ite_nested ..
  · rw [countsOnce_voteCast_iff listening started (held.started first started).1,
      balance_iff begun, votesFor_concat, votesFor_eventsFrom_concat, before, append_ite_eq_iff]

/-! ## Runs -/

theorem stepSpec (held : Tracked keccak256 policyIds w counted online) (tracked : p ∈ policyIds)
    (balance : Balance keccak256 p w counted online) (o : Occurrence) (valid : WellFormed w o) :
    StepSpec keccak256 policyIds p w o := by
  cases o with
  | start fromBlock => exact stepSpec_start held tracked balance valid
  | stop => exact stepSpec_stop held tracked balance
  | voteCast event =>
      by_cases listening : w.service.subscribed = true
      · exact stepSpec_voteCast_heard held tracked balance valid listening
      · exact stepSpec_voteCast_missed held tracked balance valid listening
  | policyFinalized policyIdHash => exact stepSpec_policyFinalized held tracked balance policyIdHash

/-- **When a restarted service counts every vote once.**  Take any run of starts,
stops, votes and finalisations, with at most one vote a block and each restart
from the last block seen.  In every state the run reaches in which the service
listens, the snapshot of the policy counts each of its votes since the first
`fromBlock` once if and only if every step meets `CountsOnce`. -/
theorem counted_exactly_once_iff (keccak256 : Bytes → Bytes32) (policyIds : List String)
    (free : DistinctHashes keccak256 policyIds) (p : String) (tracked : p ∈ policyIds)
    (steps : List Occurrence)
    (valid : machine.Along WellFormed (World.initial keccak256 policyIds) steps) :
    (∀ done rest, steps = done ++ rest →
        Good keccak256 p (machine.run (World.initial keccak256 policyIds) done)) ↔
      machine.Along (CountsOnce keccak256 p) (World.initial keccak256 policyIds) steps := by
  have idle := subscribed_tracking keccak256 policyIds
  have good : Good keccak256 p (World.initial keccak256 policyIds) :=
    fun listening => absurd (listening.symm.trans idle) (by decide)
  refine (Machine.forall_run_iff_along
    (I := fun w => ∃ counted online, Tracked keccak256 policyIds w counted online ∧
      Balance keccak256 p w counted online) ?_ ?_ ?_ steps valid).trans (and_iff_right good)
  · refine ⟨[], [],
      ⟨.nil, rfl, fun _ => rfl, reflects_tracking free, fun _ => ⟨rfl, rfl, idle⟩, ?_⟩,
      ?_⟩
    · rintro first ⟨⟩
    · rintro first ⟨⟩
  · rintro w o ⟨counted, online, held, balance⟩ wellFormed -
    obtain ⟨counted', online', -, met, good⟩ := stepSpec held tracked balance o wellFormed
    exact good.trans met.symm
  · rintro w o ⟨counted, online, held, balance⟩ wellFormed countsOnce
    obtain ⟨counted', online', held', met, -⟩ := stepSpec held tracked balance o wellFormed
    exact ⟨counted', online', held', met.mp countsOnce⟩

/-- A vote for a policy the service does not track. -/
def untrackedArgs (nullifier : Bytes32) (blockNumber : ℕ) : VoteCastArgs where
  policyIdHash := 1
  nullifier := nullifier
  optionId := "option-support"
  blockNumber := blockNumber

/-- A stop after a vote for another policy loses and repeats nothing. -/
theorem counted_exactly_once_iff_sample :
    CountedOnce sampleKeccak256 "healthcare-reform-2026"
      (machine.run (World.initial sampleKeccak256 ["healthcare-reform-2026"])
        [.start 1, .voteCast (sampleArgs 8 "option-support" 5), .voteCast (untrackedArgs 9 6),
          .stop, .voteCast (sampleArgs 10 "option-oppose" 7), .start 6]) :=
  (counted_exactly_once_iff sampleKeccak256 ["healthcare-reform-2026"]
    sampleKeccak256_distinctHashes "healthcare-reform-2026" (by decide) _ (by decide)).mpr
    (by decide) _ [] (List.append_nil _).symm (by decide)

/-- **The last vote seen.**  The service starts from block 1, counts the vote of
block 5, stops, and starts again from block 5.  The replay counts the vote a
second time. -/
theorem last_vote_counted_twice :
    let steps : List Occurrence :=
      [.start 1, .voteCast (sampleArgs 8 "option-support" 5), .stop, .start 5]
    let w := machine.run (World.initial sampleKeccak256 ["healthcare-reform-2026"]) steps
    DistinctHashes sampleKeccak256 ["healthcare-reform-2026"] ∧
      machine.Along WellFormed (World.initial sampleKeccak256 ["healthcare-reform-2026"]) steps ∧
      w.service.subscribed = true ∧ w.chain = [sampleArgs 8 "option-support" 5] ∧
      w.service.getSnapshot "healthcare-reform-2026" =
        some ⟨"healthcare-reform-2026", 2, 0, 0, 2, 5, false⟩ ∧
      ¬ Good sampleKeccak256 "healthcare-reform-2026" w := by
  intro steps w
  have listens : w.service.subscribed = true := by decide
  have stored : w.service.getSnapshot "healthcare-reform-2026" =
      some ⟨"healthcare-reform-2026", 2, 0, 0, 2, 5, false⟩ := by decide
  refine ⟨sampleKeccak256_distinctHashes, by decide, listens, by decide, stored, ?_⟩
  intro good
  obtain ⟨first, snapshot, started, stored', same⟩ := good listens
  obtain rfl := Option.some.inj (stored.symm.trans stored')
  obtain rfl : 1 = first := Option.some.inj started
  -- the tally over the chain has one vote
  have total := same.total
  rw [total_tallyOf] at total
  exact absurd total (by decide)

end TheVoteApp.LiveTallyService
