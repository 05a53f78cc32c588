import TheVoteApp.Backend.ReadPath
import TheVoteApp.Foundations.FirstVisits
import TheVoteApp.JavaScript.Builtins
import TheVoteApp.JavaScript.Double

/-!
# The batch tally and the delivery of events

The loop of `TallyService.getTally` over whatever list of events the node
answers with.  It reads an option off an object literal, so an option may also
name a member that every object inherits; such an option changes no counter
(`increment_property`).  Block numbers go through `Number`.

A vote is known by its nullifier, and the loop passes over a nullifier it has
seen.  When events with the same nullifier are copies of each other, the tally is
that of the *set* of events (`getTallyOf_eq`), so neither the order of the events
nor their repetitions make a difference.
-/

namespace TheVoteApp.TallyService

open Solidity VoteLedger JavaScript Foundations

/-- The name of a counter. -/
def Field.name : Field → String
  | .support => "support"
  | .oppose => "oppose"
  | .abstain => "abstain"

/-- `OPTION_MAP` as an object literal. -/
def optionNames : List (String × String) :=
  optionTable.map fun (optionId, field) => (optionId, field.name)

/-- `tally[field]++`, for a `field` read off the table.  When that is inherited,
the increment adds a property of its own to the object and leaves the counters
alone. -/
def PolicyTally.increment (tally : PolicyTally) (field : String) : PolicyTally :=
  if field = "support" then { tally with support := tally.support + 1 }
  else if field = "oppose" then { tally with oppose := tally.oppose + 1 }
  else if field = "abstain" then { tally with abstain := tally.abstain + 1 }
  else tally

/-- What one event with a new nullifier changes. -/
def addVote (tally : PolicyTally) (event : VoteCastArgs) : PolicyTally :=
  let blockNum := toNumber event.blockNumber
  let tally := (property optionNames event.optionId).elim tally tally.increment
  let tally := { tally with total := tally.total + 1 }
  if tally.lastBlock < blockNum then { tally with lastBlock := blockNum } else tally

theorem lawfulBEq_nullifiers : LawfulBEq Bytes32 := inferInstance

attribute [local instance] lawfulBEq_nullifiers

/-- One round of the loop: the tally and `seenNullifiers`. -/
def tallyRound (acc : PolicyTally × List Bytes32) (event : VoteCastArgs) :
    PolicyTally × List Bytes32 :=
  visitFirst VoteCastArgs.nullifier addVote acc event

/-- `getTally` on a cold cache, given what the two filters select. -/
def getTallyOf (policyId : String) (events : List VoteCastArgs) (finalEvents : List Log) :
    PolicyTally :=
  let tally := (events.foldl tallyRound (.empty policyId, [])).1
  { tally with finalized := decide (0 < finalEvents.length) }

/-! ## Reading the option table -/

/-- What is inherited prints as an object or as a function. -/
theorem head?_inherited {name text : String} (inherits : inherited name = some text) :
    text.toList.head? = some '[' ∨ text.toList.head? = some 'f' := by
  unfold inherited at inherits
  split_ifs at inherits
  · obtain rfl := Option.some.inj inherits
    exact Or.inl (by decide)
  · obtain rfl := Option.some.inj inherits
    exact Or.inr (by decide)
  · obtain rfl := Option.some.inj inherits
    right
    rw [String.toList_append, String.toList_append, List.append_assoc]
    rfl

theorem increment_of_inherited (tally : PolicyTally) {name text : String}
    (inherits : inherited name = some text) : tally.increment text = tally := by
  have other : ∀ counter : String, counter.toList.head? ≠ some '[' →
      counter.toList.head? ≠ some 'f' → text ≠ counter := by
    rintro counter bracket letter rfl
    exact (head?_inherited inherits).elim bracket letter
  rw [PolicyTally.increment, if_neg (other "support" (by decide) (by decide)),
    if_neg (other "oppose" (by decide) (by decide)),
    if_neg (other "abstain" (by decide) (by decide))]

/-- **The lookup.**  For every text, the increment is that of `optionMap`. -/
theorem increment_property (tally : PolicyTally) (optionId : String) :
    (property optionNames optionId).elim tally tally.increment =
      tally.bump (optionMap optionId) := by
  by_cases support : optionId = "option-support"
  · rw [support]
    rfl
  by_cases oppose : optionId = "option-oppose"
  · rw [oppose]
    rfl
  by_cases abstain : optionId = "option-abstain"
  · rw [abstain]
    rfl
  have unknown : optionMap optionId = none := by
    simp [optionMap, optionTable, List.lookup, beq_false_of_ne support, beq_false_of_ne oppose,
      beq_false_of_ne abstain]
  have notOwn : optionNames.lookup optionId = none := by
    simp [optionNames, optionTable, List.lookup, beq_false_of_ne support,
      beq_false_of_ne oppose, beq_false_of_ne abstain]
  rw [unknown, property, notOwn, Option.none_or]
  cases inherits : inherited optionId with
  | none => rfl
  | some text => exact increment_of_inherited tally inherits

/-- The three known options. -/
def Known (optionId : String) : Prop := optionId ∈ optionTable.map Prod.fst

instance decidableKnown : DecidablePred Known := fun _ => inferInstanceAs (Decidable (_ ∈ _))

theorem known_iff (optionId : String) : Known optionId ↔ optionMap optionId ≠ none := by
  rw [← Option.isSome_iff_ne_none, optionMap, List.lookup_isSome_iff, Known, List.mem_map]
  simp only [beq_iff_eq]
  exact exists_congr fun _ => and_congr_right fun _ => eq_comm

/-! ## The tally of a set of votes -/

/-- The votes for one counter. -/
def votesOn (field : Field) (votes : Finset VoteCastArgs) : Finset VoteCastArgs :=
  {vote ∈ votes | optionMap vote.optionId = some field}

/-- What a set of votes comes to. -/
def tallyOfVotes (policyId : String) (votes : Finset VoteCastArgs) : PolicyTally where
  policyId := policyId
  support := (votesOn .support votes).card
  oppose := (votesOn .oppose votes).card
  abstain := (votesOn .abstain votes).card
  total := votes.card
  lastBlock := votes.sup fun vote => toNumber vote.blockNumber
  finalized := false

theorem card_votesOn_insert {event : VoteCastArgs} {votes : Finset VoteCastArgs}
    (new : event ∉ votes) (field : Field) :
    (votesOn field (insert event votes)).card =
      (votesOn field votes).card + if optionMap event.optionId = some field then 1 else 0 := by
  unfold votesOn
  rw [Finset.filter_insert]
  split
  · rw [Finset.card_insert_of_notMem fun mem => new (Finset.mem_of_mem_filter _ mem)]
  · rfl

theorem addVote_eq (tally : PolicyTally) (event : VoteCastArgs) :
    addVote tally event =
      { tally.bump (optionMap event.optionId) with
        total := tally.total + 1
        lastBlock := max (toNumber event.blockNumber) tally.lastBlock } := by
  have total : (tally.bump (optionMap event.optionId)).total = tally.total := by
    rcases optionMap event.optionId with _ | _ | _ | _ <;> rfl
  have last : (tally.bump (optionMap event.optionId)).lastBlock = tally.lastBlock := by
    rcases optionMap event.optionId with _ | _ | _ | _ <;> rfl
  simp only [addVote, increment_property, total, last]
  split
  · rename_i less
    rw [max_eq_left less.le]
  · rename_i most
    rw [max_eq_right (Nat.le_of_not_lt most), ← last]

/-- A new vote changes the tally of a set as it does that of the loop. -/
theorem tallyOfVotes_insert (policyId : String) (event : VoteCastArgs)
    (votes : Finset VoteCastArgs) (new : event ∉ votes) :
    tallyOfVotes policyId (insert event votes) =
      addVote (tallyOfVotes policyId votes) event := by
  rw [addVote_eq]
  unfold tallyOfVotes
  rw [card_votesOn_insert new, card_votesOn_insert new, card_votesOn_insert new,
    Finset.card_insert_of_notMem new, Finset.sup_insert]
  cases optionMap event.optionId with
  | none => rfl
  | some field => cases field <;> rfl

/-- Events with the same nullifier are copies of each other. -/
def Copies (events : List VoteCastArgs) : Prop :=
  ∀ first ∈ events, ∀ second ∈ events, first.nullifier = second.nullifier → first = second

theorem Copies.copiesBy {events : List VoteCastArgs} (copies : Copies events) :
    CopiesBy VoteCastArgs.nullifier events :=
  fun first memFirst second memSecond => copies first memFirst second memSecond

/-- **The tally is that of the set of events.** -/
theorem getTallyOf_eq (policyId : String) {events : List VoteCastArgs} (copies : Copies events)
    (finalEvents : List Log) :
    getTallyOf policyId events finalEvents =
      { tallyOfVotes policyId events.toFinset with
        finalized := decide (0 < finalEvents.length) } := by
  have loop := foldl_visitFirst (tallyOfVotes_insert policyId) copies.copiesBy
  unfold getTallyOf
  rw [← loop]
  rfl

/-- The counters of a set of votes are those of the votes with a known option. -/
theorem counters_tallyOfVotes (policyId : String) (votes : Finset VoteCastArgs) :
    let tally := tallyOfVotes policyId votes
    tally.support + tally.oppose + tally.abstain =
      (votes.filter fun vote => Known vote.optionId).card := by
  have fields : (votes.filter fun vote => Known vote.optionId) =
      votesOn .support votes ∪ votesOn .oppose votes ∪ votesOn .abstain votes := by
    ext vote
    simp only [votesOn, Finset.mem_union, Finset.mem_filter, known_iff, ← and_or_left]
    apply and_congr_right'
    cases optionMap vote.optionId with
    | none => simp
    | some field => cases field <;> simp
  have apart : ∀ {first second : Field}, first ≠ second →
      Disjoint (votesOn first votes) (votesOn second votes) := by
    intro first second differ
    apply Finset.disjoint_filter.mpr
    intro vote _ isFirst isSecond
    exact differ (Option.some.inj (isFirst.symm.trans isSecond))
  intro tally
  rw [fields, Finset.card_union_of_disjoint, Finset.card_union_of_disjoint (apart (by decide))]
  · rfl
  · exact Finset.disjoint_union_left.mpr ⟨apart (by decide), apart (by decide)⟩

/-! ## The tally of a list -/

/-- With block numbers that a `number` holds, `getTally` is `getTallyOf` on what
the filters select. -/
theorem getTally_eq_getTallyOf {keccak256 : Bytes → Bytes32} {entries : List Log}
    {policyId : String} {events : List VoteCastArgs}
    (read : voteCastEvents keccak256 entries policyId = some events)
    (small : ∀ event ∈ events, event.blockNumber < 2 ^ 53) :
    getTally keccak256 entries policyId =
      some (getTallyOf policyId events (queryFilter entries
        [signatureTopic keccak256 "PolicyFinalized(bytes32)",
          keccak256 (toUtf8Bytes policyId)])) := by
  have rounds : ∀ (acc : PolicyTally × List Bytes32), ∀ event ∈ events,
      countEvent acc event = tallyRound acc event := by
    intro acc event mem
    unfold countEvent tallyRound visitFirst
    rw [addVote_eq, toNumber_of_lt (small event mem), max_comm]
    rcases optionMap event.optionId with _ | _ | _ | _ <;> rfl
  unfold getTally getTallyOf
  rw [read, ← List.foldl_ext _ _ _ fun acc event mem => rounds acc event mem]
  rfl

/-- **Delivery makes no difference.**  A list with the same events, in any order
and with any repetitions, has the same tally.  Its total is the number of
nullifiers; the counters add up to no more, and to as much exactly when every
option is known. -/
theorem getTallyOf_delivery (policyId : String) (finalEvents : List Log)
    (events : List VoteCastArgs) (copies : Copies events) :
    let tally := getTallyOf policyId events finalEvents
    (∀ other : List VoteCastArgs, (∀ event, event ∈ other ↔ event ∈ events) →
      getTallyOf policyId other finalEvents = tally) ∧
    tally.total = (events.map VoteCastArgs.nullifier).toFinset.card ∧
    tally.support + tally.oppose + tally.abstain ≤ tally.total ∧
    (tally.support + tally.oppose + tally.abstain = tally.total ↔
      ∀ event ∈ events, Known event.optionId) := by
  intro tally
  have counters := counters_tallyOfVotes policyId events.toFinset
  have isTally : tally = _ := getTallyOf_eq policyId copies finalEvents
  rw [isTally]
  refine ⟨?_, ?_, ?_, ?_⟩
  · intro other same
    have copiesOther : Copies other := fun first memFirst second memSecond =>
      copies first ((same first).mp memFirst) second ((same second).mp memSecond)
    -- the tally depends on the set of events alone
    have sameSet : other.toFinset = events.toFinset := by
      ext event
      rw [List.mem_toFinset, List.mem_toFinset, same]
    rw [getTallyOf_eq policyId copiesOther, sameSet]
  · have image : (events.map VoteCastArgs.nullifier).toFinset =
        events.toFinset.image VoteCastArgs.nullifier := by
      ext nullifier
      simp
    rw [image, Finset.card_image_of_injOn]
    · rfl
    · intro first memFirst second memSecond
      exact copies first (List.mem_toFinset.mp memFirst) second (List.mem_toFinset.mp memSecond)
  · exact counters.le.trans (Finset.card_filter_le _ _)
  · have all : (events.toFinset.filter fun vote => Known vote.optionId).card =
        events.toFinset.card ↔ ∀ event ∈ events, Known event.optionId := by
      simp only [Finset.card_filter_eq_iff, List.mem_toFinset]
    exact (Eq.congr_left counters).trans all

/-- Two votes, one of them for an option that every object inherits: the sample
list and the same list with the first vote delivered again. -/
def sampleVotes : List VoteCastArgs :=
  [⟨7, 1, "option-support", 12⟩, ⟨7, 2, "toString", 10⟩]

theorem getTallyOf_delivery_sample :
    let tally := getTallyOf "pol-001" sampleVotes []
    getTallyOf "pol-001" (sampleVotes ++ sampleVotes.take 1) [] = tally ∧ tally.total = 2 ∧
      ¬ tally.support + tally.oppose + tally.abstain = tally.total := by
  have copies : Copies sampleVotes := by
    unfold Copies
    decide
  obtain ⟨delivery, total, -, complete⟩ :=
    getTallyOf_delivery "pol-001" [] sampleVotes copies
  refine ⟨delivery _ ?_, total.trans (by decide), complete.not.mpr (by decide)⟩
  intro event
  simp [sampleVotes]
  tauto

end TheVoteApp.TallyService
