import TheVoteApp.Foundations.Counting
import TheVoteApp.VoteLedger.Contract

/-!
# The ledger is a list of ballots

The abstract ledger is a list of ballots in the order they were cast.  `Records`
says that the contract's storage holds exactly that list, spread over four
separately written pieces: the option counters, the poll totals, the spent set
and the append-only nullifier list.  Every transaction preserves it
(`Records.step`), so after every run the storage is a function of the public
event log (`run_records`).
-/

namespace TheVoteApp.VoteLedger

open Solidity Foundations

/-- A vote as the event log shows it. -/
structure Ballot where
  pollId : Bytes32
  nullifier : Bytes32
  optionHash : Bytes32
deriving DecidableEq

/-- The ballot a `VoteCast` event announces. -/
def Event.ballot? : Event → Option Ballot
  | .voteCast pollId nullifier optionHash => some ⟨pollId, nullifier, optionHash⟩
  | _ => none

/-- The ballots announced by an event log, in order. -/
def ballots (log : List Event) : List Ballot := log.filterMap Event.ballot?

theorem ballots_append (log new : List Event) : ballots (log ++ new) = ballots log ++ ballots new :=
  List.filterMap_append

/-- The number of ballots for one option of a poll. -/
def votesFor (cast : List Ballot) (pollId optionHash : Bytes32) : ℕ :=
  cast.countP fun b => decide (b.pollId = pollId) && decide (b.optionHash = optionHash)

/-- The number of ballots in a poll. -/
def votesIn (cast : List Ballot) (pollId : Bytes32) : ℕ :=
  cast.countP fun b => decide (b.pollId = pollId)

theorem votesFor_le_votesIn (cast : List Ballot) (pollId optionHash : Bytes32) :
    votesFor cast pollId optionHash ≤ votesIn cast pollId :=
  List.countP_mono_left fun _ _ both => (Bool.and_eq_true_iff.mp both).1

/-- The options of a poll share its ballots among them. -/
theorem sum_votesFor (cast : List Ballot) (pollId : Bytes32) :
    ∑ o : Bytes32, votesFor cast pollId o = votesIn cast pollId :=
  sum_countP_key _ _ Finset.univ cast fun _ _ _ => Finset.mem_univ _

/-- The polls share all the ballots among them. -/
theorem sum_votesIn (cast : List Ballot) : ∑ p : Bytes32, votesIn cast p = cast.length := by
  have split := sum_countP_key (fun _ => true) Ballot.pollId Finset.univ cast
    fun _ _ _ => Finset.mem_univ _
  simpa [votesIn] using split

/-- **The contract's storage holds exactly the ballots `cast`.** -/
structure Records (s : VoteLedger) (cast : List Ballot) : Prop where
  tally : ∀ p o, s.getTally p o = votesFor cast p o
  total : ∀ p, (s.polls p).totalVotes = votesIn cast p
  order : s.nullifierList = cast.map Ballot.nullifier
  spent : ∀ n, s.nullifiers n = true ↔ n ∈ s.nullifierList
  nodup : s.nullifierList.Nodup

theorem records_initialized (owner registry verifier : Address) :
    Records (initialized owner registry verifier) [] where
  tally _ _ := rfl
  total _ := rfl
  order := rfl
  spent n := by simp [initialized]
  nodup := List.nodup_nil

namespace Records

variable {keccak256 : Bytes → Bytes32} {verifyProof : Address → ZKProofData → Option Bool}
variable {s s' : VoteLedger} {cast : List Ballot}

/-- Recording a vote with an unspent nullifier appends its ballot. -/
theorem recordVote (held : Records s cast) {pollId optionHash nullifier : Bytes32}
    (unspent : s.nullifiers nullifier = false) :
    Records (recordVote s pollId optionHash nullifier)
      (cast ++ [⟨pollId, nullifier, optionHash⟩]) := by
  have fresh : nullifier ∉ s.nullifierList := by
    intro mem
    rw [(held.spent nullifier).mpr mem] at unspent
    cases unspent
  refine ⟨?_, ?_, ?_, ?_, ?_⟩
  · intro p o
    rw [getTally_recordVote, held.tally]
    simp [votesFor, List.countP_append, @eq_comm _ pollId, @eq_comm _ optionHash]
  · intro p
    rw [totalVotes_recordVote, held.total]
    simp [votesIn, List.countP_append, @eq_comm _ pollId]
  · simp [VoteLedger.recordVote, held.order]
  · intro n
    by_cases same : n = nullifier
    · subst same
      simp [VoteLedger.recordVote]
    · simp [VoteLedger.recordVote, same, held.spent n]
  · refine List.nodup_append.mpr ⟨held.nodup, List.nodup_singleton _, ?_⟩
    rintro a mem b single rfl
    exact fresh (by simpa [List.mem_singleton.mp single] using mem)

/-- A storage that differs only in what is not counted holds the same ballots. -/
theorem of_untouched (held : Records s cast)
    (tally : ∀ p o, s'.getTally p o = s.getTally p o)
    (total : ∀ p, (s'.polls p).totalVotes = (s.polls p).totalVotes)
    (list : s'.nullifierList = s.nullifierList) (spent : s'.nullifiers = s.nullifiers) :
    Records s' (cast ++ []) := by
  rw [List.append_nil]
  exact ⟨fun p o => (tally p o).trans (held.tally p o), fun p => (total p).trans (held.total p),
    list.trans held.order, fun n => by rw [spent, list]; exact held.spent n,
    list ▸ held.nodup⟩

/-- Every successful transaction appends the ballots it announces. -/
theorem step (held : Records s cast) {tx : Tx} {new : List Event}
    (done : Step keccak256 verifyProof s tx s' new) : Records s' (cast ++ ballots new) := by
  cases done with
  | createPoll sender ahead =>
      exact held.of_untouched (fun p o => getTally_writePoll ..)
        (fun p => totalVotes_writePoll ..) rfl rfl
  | castVote checks room => exact held.recordVote checks.unspent
  | finalisePoll sender created running =>
      exact held.of_untouched (fun p o => getTally_markFinalised ..)
        (fun p => totalVotes_markFinalised ..) rfl rfl
  | pause sender running => exact held.of_untouched (fun _ _ => rfl) (fun _ => rfl) rfl rfl
  | unpause sender stopped => exact held.of_untouched (fun _ _ => rfl) (fun _ => rfl) rfl rfl
  | transferOwnership sender nonzero =>
      exact held.of_untouched (fun _ _ => rfl) (fun _ => rfl) rfl rfl
  | renounceOwnership sender =>
      exact held.of_untouched (fun _ _ => rfl) (fun _ => rfl) rfl rfl

end Records

section Runs

variable (keccak256 : Bytes → Bytes32) (verifyProof : Address → ZKProofData → Option Bool)
variable (owner registry verifier : Address)

/-- **After every run the storage holds the ballots of the event log.** -/
theorem run_records (txs : List Tx) :
    Records ((machine keccak256 verifyProof).run (initialized owner registry verifier) txs)
      (ballots ((machine keccak256 verifyProof).events
        (initialized owner registry verifier) txs)) := by
  refine Machine.run_induction (I := fun s log _ => Records s (ballots log))
    (records_initialized owner registry verifier) ?_ txs
  intro s log _ tx s' new held outcome
  rw [ballots_append]
  exact held.step (call_eq_ok_iff.mp outcome)

/-- **Ledger bookkeeping.**  In every reachable state the option counters count
the `VoteCast` events, the option counters of a poll add up to its total, the
totals add up to the length of the nullifier list, and that list has no
repetition, follows the event order and holds exactly the spent nullifiers. -/
theorem ledger_bookkeeping (txs : List Tx) :
    let s := (machine keccak256 verifyProof).run (initialized owner registry verifier) txs
    let log := (machine keccak256 verifyProof).events (initialized owner registry verifier) txs
    (∀ p o, s.getTally p o = votesFor (ballots log) p o) ∧
      (∀ p, ∑ o : Bytes32, s.getTally p o = (s.getPollMeta p).totalVotes) ∧
      ∑ p : Bytes32, (s.getPollMeta p).totalVotes = s.nullifierList.length ∧
      s.nullifierList.Nodup ∧
      s.nullifierList = (ballots log).map Ballot.nullifier ∧
      ∀ n, s.isNullifierSpent n = true ↔ n ∈ s.nullifierList := by
  intro s log
  have held : Records s (ballots log) :=
    run_records keccak256 verifyProof owner registry verifier txs
  refine ⟨held.tally, ?_, ?_, held.nodup, held.order, held.spent⟩
  · intro p
    calc ∑ o : Bytes32, s.getTally p o = ∑ o : Bytes32, votesFor (ballots log) p o :=
          Finset.sum_congr rfl fun o _ => held.tally p o
      _ = votesIn (ballots log) p := sum_votesFor _ p
      _ = (s.getPollMeta p).totalVotes := (held.total p).symm
  · calc ∑ p : Bytes32, (s.getPollMeta p).totalVotes = ∑ p : Bytes32, votesIn (ballots log) p :=
          Finset.sum_congr rfl fun p _ => held.total p
      _ = (ballots log).length := sum_votesIn _
      _ = s.nullifierList.length := by rw [held.order, List.length_map]

end Runs

end TheVoteApp.VoteLedger
