import TheVoteApp.Backend.LiveTallyService

/-!
# The live tally and the batch tally

`TallyService.getTally` reads the whole log; the live service gets the same
events one by one.  Over events with different nullifiers the batch tally is the
fold of `count` over the policy's events (`getTally_sameCounts`), and the live one
the same fold over those the guard lets through (`deliver_reflects`).  The two
lists agree exactly when the guard stops no event of the policy
(`votesFor_passed_eq_iff`).
-/

namespace TheVoteApp.LiveTallyService

open Solidity VoteLedger TallyService

variable {keccak256 : Bytes → Bytes32} {policyIds : List String}

/-! ## The guard -/

/-- The events `onVoteCast` lets through, when the last block it has seen is
`lastSeenBlock`. -/
def passed : ℕ → List VoteCastArgs → List VoteCastArgs
  | _, [] => []
  | lastSeenBlock, event :: events =>
      if event.blockNumber ≤ lastSeenBlock then passed lastSeenBlock events
      else event :: passed event.blockNumber events

/-- Every event that `wanted` selects is in a later block than all before it. -/
def AllPass (wanted : VoteCastArgs → Prop) : ℕ → List VoteCastArgs → Prop
  | _, [] => True
  | lastSeenBlock, event :: events =>
      (wanted event → lastSeenBlock < event.blockNumber) ∧
        AllPass wanted (max lastSeenBlock event.blockNumber) events

theorem passed_sublist (lastSeenBlock : ℕ) (events : List VoteCastArgs) :
    (passed lastSeenBlock events).Sublist events := by
  induction events generalizing lastSeenBlock with
  | nil => exact .slnil
  | cons event events ih =>
      unfold passed
      split
      · exact (ih lastSeenBlock).cons event
      · exact (ih event.blockNumber).cons_cons event

/-- The guard stops no event of the policy exactly when each is in a later block
than all events before it. -/
theorem votesFor_passed_eq_iff (p : String) (lastSeenBlock : ℕ) (events : List VoteCastArgs) :
    votesFor keccak256 p (passed lastSeenBlock events) = votesFor keccak256 p events ↔
      AllPass (fun event => event.policyIdHash = ethersId keccak256 p) lastSeenBlock events := by
  induction events generalizing lastSeenBlock with
  | nil => exact iff_of_true rfl trivial
  | cons event events ih =>
      unfold passed AllPass
      by_cases stopped : event.blockNumber ≤ lastSeenBlock
      · rw [if_pos stopped, max_eq_left stopped, ← ih]
        by_cases named : event.policyIdHash = ethersId keccak256 p
        · -- the list without the event is too short
          refine iff_of_false ?_ fun all => absurd (all.1 named) (Nat.not_lt.mpr stopped)
          intro same
          have bound : (votesFor keccak256 p (passed lastSeenBlock events)).length ≤
              (votesFor keccak256 p events).length :=
            ((passed_sublist lastSeenBlock events).filter _).length_le
          rw [same] at bound
          simp [votesFor, named] at bound
        · -- an event of another policy is missed by nobody
          simp [votesFor, named]
      · rw [if_neg stopped, max_eq_right (Nat.le_of_not_le stopped), ← ih]
        by_cases named : event.policyIdHash = ethersId keccak256 p
        · simp [votesFor, named, Nat.lt_of_not_le stopped]
        · simp [votesFor, named]

/-- The same condition, read off the splits of the list. -/
theorem allPass_iff_forall_split {wanted : VoteCastArgs → Prop} (lastSeenBlock : ℕ)
    (events : List VoteCastArgs) :
    AllPass wanted lastSeenBlock events ↔
      ∀ before event after, events = before ++ event :: after → wanted event →
        lastSeenBlock < event.blockNumber ∧
          ∀ earlier ∈ before, earlier.blockNumber < event.blockNumber := by
  induction events generalizing lastSeenBlock with
  | nil => exact iff_of_true trivial (by simp)
  | cons event events ih =>
      unfold AllPass
      rw [ih]
      constructor
      · rintro ⟨first, rest⟩ before event' after split wants
        cases before with
        | nil =>
            obtain ⟨rfl, rfl⟩ := List.cons.inj split
            exact ⟨first wants, by simp⟩
        | cons head before =>
            obtain ⟨rfl, rfl⟩ := List.cons.inj split
            obtain ⟨later, earlier⟩ := rest before event' after rfl wants
            refine ⟨(le_max_left _ _).trans_lt later, ?_⟩
            intro other mem
            rcases List.mem_cons.mp mem with rfl | mem
            · exact (le_max_right _ _).trans_lt later
            · exact earlier other mem
      · intro all
        refine ⟨fun wants => (all [] event events rfl wants).1, ?_⟩
        rintro before event' after rfl wants
        obtain ⟨later, earlier⟩ := all (event :: before) event' after rfl wants
        exact ⟨max_lt later (earlier event List.mem_cons_self),
          fun other mem => earlier other (List.mem_cons_of_mem event mem)⟩

/-! ## The live side -/

/-- Delivered events are counted when they pass the guard. -/
theorem deliver_reflects {s : LiveTallyService} {counted : List VoteCastArgs}
    (held : Reflects keccak256 policyIds s counted) (events : List VoteCastArgs) :
    Reflects keccak256 policyIds (s.deliver events)
      (counted ++ passed s.lastSeenBlock events) := by
  induction events generalizing s counted with
  | nil =>
      rw [passed, List.append_nil]
      exact held
  | cons event events ih =>
      -- the event moves the guard exactly when it passes it
      have next := ih (held.onVoteCast event)
      show Reflects keccak256 policyIds ((s.onVoteCast event).1.deliver events) _
      unfold passed
      by_cases stopped : event.blockNumber ≤ s.lastSeenBlock
      · have same : (s.onVoteCast event).1 = s := by rw [onVoteCast, if_pos stopped]
        simpa [stopped, same] using next
      · have seen : (s.onVoteCast event).1.lastSeenBlock = event.blockNumber := by
          rw [lastSeenBlock_onVoteCast, if_neg stopped]
        simpa [stopped, seen] using next

/-! ## The batch side -/

/-- Where a decoded event's policy hash comes from. -/
theorem topics_of_decodeVoteCast {entry : Log} {event : VoteCastArgs}
    (decoded : decodeVoteCast entry = some event) :
    ∃ signature nullifier rest,
      entry.topics = signature :: event.policyIdHash :: nullifier :: rest := by
  unfold decodeVoteCast at decoded
  split at decoded
  · rename_i signature policyIdHash nullifier rest topics
    simp only [Option.bind_eq_bind, Option.bind_eq_some_iff, Option.pure_def,
      Option.some.injEq] at decoded
    obtain ⟨offset, -, blockNumber, -, text, -, optionId, -, rfl⟩ := decoded
    exact ⟨signature, nullifier, rest, topics⟩
  · cases decoded

/-- Reading the selected entries selects among the read ones. -/
theorem mapM_filter {α β : Type} {f : α → Option β} {P : α → Bool} {Q : β → Bool} {xs : List α}
    {ys : List β} (mapped : xs.mapM f = some ys)
    (same : ∀ x ∈ xs, ∀ y, f x = some y → P x = Q y) :
    (xs.filter P).mapM f = some (ys.filter Q) := by
  induction xs generalizing ys with
  | nil =>
      obtain rfl : [] = ys := Option.some.inj mapped
      rfl
  | cons x xs ih =>
      rw [List.mapM_cons] at mapped
      simp only [Option.bind_eq_bind, Option.bind_eq_some_iff, Option.pure_def,
        Option.some.injEq] at mapped
      obtain ⟨y, first, rest, others, rfl⟩ := mapped
      have tail := ih others fun x' mem => same x' (List.mem_cons_of_mem x mem)
      rw [List.filter_cons, List.filter_cons, same x List.mem_cons_self y first]
      split
      · rw [List.mapM_cons, first, tail]
        rfl
      · exact tail

/-- A longer pattern selects among what a shorter one does. -/
theorem queryFilter_longer {few many : List Bytes32} (isPrefix : few <+: many)
    (entries : List Log) :
    queryFilter entries many =
      (queryFilter entries few).filter fun entry => many.isPrefixOf entry.topics := by
  rw [queryFilter, queryFilter, List.filter_filter]
  refine List.filter_congr fun entry _ => ?_
  cases matched : many.isPrefixOf entry.topics with
  | false => rfl
  | true =>
      rw [Bool.true_and, eq_comm, List.isPrefixOf_iff_prefix]
      exact isPrefix.trans (List.isPrefixOf_iff_prefix.mp matched)

/-- The batch reader gets the events of the policy. -/
theorem voteCastEvents_eq_some {entries : List Log} {events : List VoteCastArgs}
    (decoded : (queryFilter entries
      [signatureTopic keccak256 "VoteCast(bytes32,bytes32,string,uint256)"]).mapM decodeVoteCast =
        some events) (p : String) :
    voteCastEvents keccak256 entries p = some (votesFor keccak256 p events) := by
  unfold voteCastEvents
  have shorter : [signatureTopic keccak256 "VoteCast(bytes32,bytes32,string,uint256)"] <+:
      [signatureTopic keccak256 "VoteCast(bytes32,bytes32,string,uint256)",
        keccak256 (toUtf8Bytes p)] := List.prefix_append [_] [_]
  rw [queryFilter_longer shorter]
  refine mapM_filter decoded ?_
  intro entry mem event readEvent
  have selected := (List.mem_filter.mp mem).2
  obtain ⟨signature, nullifier, others, topics⟩ := topics_of_decodeVoteCast readEvent
  rw [topics] at selected ⊢
  simp only [List.isPrefixOf, Bool.and_true, beq_iff_eq] at selected
  rw [selected, Bool.eq_iff_iff]
  simp only [List.isPrefixOf, beq_self_eq_true, Bool.true_and, Bool.and_true, beq_iff_eq,
    decide_eq_true_eq]
  exact eq_comm

/-- Without repeated nullifiers the batch loop counts every event. -/
theorem foldl_countEvent_eq {events : List VoteCastArgs} (tally : PolicyTally) (seen : List Bytes32)
    (distinct : (events.map VoteCastArgs.nullifier).Nodup)
    (unseen : ∀ event ∈ events, event.nullifier ∉ seen) :
    (events.foldl TallyService.countEvent (tally, seen)).1 =
      events.foldl (fun tally event => count tally event.optionId event.blockNumber) tally := by
  induction events generalizing tally seen with
  | nil => rfl
  | cons event events ih =>
      rw [List.map_cons, List.nodup_cons] at distinct
      -- the nullifier is new, so the round counts the event
      have first : TallyService.countEvent (tally, seen) event =
          (count tally event.optionId event.blockNumber, event.nullifier :: seen) :=
        if_neg (unseen event List.mem_cons_self)
      rw [List.foldl_cons, List.foldl_cons, first]
      refine ih _ _ distinct.2 ?_
      intro other mem
      rw [List.mem_cons, not_or]
      refine ⟨?_, unseen other (List.mem_cons_of_mem event mem)⟩
      rintro same
      exact distinct.1 (same ▸ List.mem_map_of_mem mem)

theorem getTally_sameCounts {entries : List Log} {events : List VoteCastArgs}
    (decoded : (queryFilter entries
      [signatureTopic keccak256 "VoteCast(bytes32,bytes32,string,uint256)"]).mapM decodeVoteCast =
        some events) (distinct : (events.map VoteCastArgs.nullifier).Nodup) (p : String) :
    ∃ tally, TallyService.getTally keccak256 entries p = some tally ∧
      SameCounts tally (tallyOf keccak256 p events) := by
  have ofPolicy : ((votesFor keccak256 p events).map VoteCastArgs.nullifier).Nodup :=
    distinct.sublist (List.filter_sublist.map _)
  have counted := foldl_countEvent_eq (.empty p) [] ofPolicy (by simp)
  refine ⟨_, by rw [TallyService.getTally, voteCastEvents_eq_some decoded]; rfl, ?_⟩
  rw [counted]
  exact ⟨rfl, rfl, rfl, rfl, rfl⟩

/-! ## The comparison -/

theorem total_foldl_count (events : List VoteCastArgs) (tally : PolicyTally) :
    (events.foldl (fun tally event => count tally event.optionId event.blockNumber) tally).total =
      tally.total + events.length := by
  induction events generalizing tally with
  | nil => rfl
  | cons event events ih =>
      have one : (count tally event.optionId event.blockNumber).total = tally.total + 1 := by
        unfold count
        cases optionField event.optionId with
        | none => rfl
        | some field => cases field <;> rfl
      rw [List.foldl_cons, ih, one, List.length_cons]
      omega

theorem total_tallyOf (p : String) (events : List VoteCastArgs) :
    (tallyOf keccak256 p events).total = (votesFor keccak256 p events).length := by
  rw [tallyOf, total_foldl_count]
  exact Nat.zero_add _

/-- Tallies over two lists of events, of which one has all the policy's votes that
the other has, are the same exactly when the lists have the same votes. -/
theorem sameCounts_tallyOf_iff {p : String} {left right : List VoteCastArgs}
    (nested : (votesFor keccak256 p left).Sublist (votesFor keccak256 p right) ∨
      (votesFor keccak256 p right).Sublist (votesFor keccak256 p left)) :
    SameCounts (tallyOf keccak256 p left) (tallyOf keccak256 p right) ↔
      votesFor keccak256 p left = votesFor keccak256 p right := by
  constructor
  · intro same
    have total := same.total
    rw [total_tallyOf, total_tallyOf] at total
    rcases nested with sublist | sublist
    · exact sublist.eq_of_length total
    · exact (sublist.eq_of_length total.symm).symm
  · intro same
    rw [tallyOf, tallyOf, same]
    exact .refl _

/-- **When the live tally is the batch tally.**  Let the service track some
policies, start from block zero and receive the log's `VoteCast` entries in
order.  For each tracked policy, its snapshot has the same counts and last block
as `TallyService.getTally` computes from the same log if and only if every vote
for it is in a block after block zero and after those of all entries before it,
of whatever policy (and the policy's id is not empty, if it has votes at all). -/
theorem live_tally_eq_batch_iff (keccak256 : Bytes → Bytes32) (policyIds : List String)
    (free : DistinctHashes keccak256 policyIds) (entries : List Log) (events : List VoteCastArgs)
    (decoded : (queryFilter entries
      [signatureTopic keccak256 "VoteCast(bytes32,bytes32,string,uint256)"]).mapM decodeVoteCast =
        some events)
    (distinct : (events.map VoteCastArgs.nullifier).Nodup) (chain : List VoteCastArgs) (p : String)
    (tracked : p ∈ policyIds) :
    (∃ snapshot tally,
      (((tracking keccak256 policyIds).start chain 0).deliver events).getSnapshot p =
          some snapshot ∧
        TallyService.getTally keccak256 entries p = some tally ∧ SameCounts snapshot tally) ↔
      ∀ before event after, events = before ++ event :: after →
        event.policyIdHash = ethersId keccak256 p →
          p ≠ "" ∧ 0 < event.blockNumber ∧
            ∀ earlier ∈ before, earlier.blockNumber < event.blockNumber := by
  have started := (reflects_tracking free).start chain 0
  have held := deliver_reflects started events
  obtain ⟨snapshot, stored, live⟩ := held.tallies p tracked
  obtain ⟨tally, read, batch⟩ := getTally_sameCounts decoded distinct p
  have property : (∃ snapshot tally,
      (((tracking keccak256 policyIds).start chain 0).deliver events).getSnapshot p =
          some snapshot ∧
        TallyService.getTally keccak256 entries p = some tally ∧ SameCounts snapshot tally) ↔
      SameCounts snapshot tally := by
    constructor
    · rintro ⟨snapshot', tally', stored', read', same⟩
      obtain rfl := Option.some.inj (stored.symm.trans stored')
      obtain rfl := Option.some.inj (read.symm.trans read')
      exact same
    · intro same
      exact ⟨snapshot, tally, stored, read, same⟩
  rw [property]
  have seen : ((tracking keccak256 policyIds).start chain 0).lastSeenBlock = 0 := rfl
  rw [seen, if_neg (lt_irrefl 0), List.append_nil, List.nil_append] at live
  by_cases empty : p = ""
  · rw [if_pos empty] at live
    rw [live.congr batch, sameCounts_tallyOf_iff (.inl ((List.nil_sublist events).filter _))]
    -- the empty policy is never counted
    rw [votesFor, List.filter_nil, eq_comm, votesFor, List.filter_eq_nil_iff]
    constructor
    · rintro never before event after rfl named
      exact absurd (decide_eq_true named) (never event (by simp))
    · intro all event mem named
      obtain ⟨before, after, split⟩ := List.append_of_mem mem
      exact (all before event after split (of_decide_eq_true named)).1 empty
  · rw [if_neg empty] at live
    rw [live.congr batch, sameCounts_tallyOf_iff (.inl ((passed_sublist 0 events).filter _)),
      votesFor_passed_eq_iff, allPass_iff_forall_split]
    simp [empty]

/-! ## Two votes -/

/-- A vote for the sample policy, as its log entry under the readers'
declaration. -/
def sampleEntry (nullifier : Bytes32) (optionId : String) (blockNumber : ℕ) : Log where
  topics := [signatureTopic sampleKeccak256 "VoteCast(bytes32,bytes32,string,uint256)",
    ethersId sampleKeccak256 "healthcare-reform-2026", nullifier]
  data := Abi.encode [.dynamic (toUtf8Bytes optionId), .word blockNumber]

/-- The same vote as the listener gets it. -/
def sampleArgs (nullifier : Bytes32) (optionId : String) (blockNumber : ℕ) : VoteCastArgs where
  policyIdHash := ethersId sampleKeccak256 "healthcare-reform-2026"
  nullifier := nullifier
  optionId := optionId
  blockNumber := blockNumber

theorem sampleKeccak256_distinctHashes :
    DistinctHashes sampleKeccak256 ["healthcare-reform-2026"] := by
  rintro _ ⟨p, memP, rfl⟩ _ ⟨q, memQ, rfl⟩ _
  rw [List.mem_singleton.mp memP, List.mem_singleton.mp memQ]

/-- Votes in different blocks are all counted. -/
theorem live_tally_eq_batch_iff_sample :
    ∃ snapshot tally,
      (((tracking sampleKeccak256 ["healthcare-reform-2026"]).start [] 0).deliver
          [sampleArgs 8 "option-support" 5, sampleArgs 9 "option-oppose" 6]).getSnapshot
            "healthcare-reform-2026" = some snapshot ∧
        TallyService.getTally sampleKeccak256
          [sampleEntry 8 "option-support" 5, sampleEntry 9 "option-oppose" 6]
            "healthcare-reform-2026" = some tally ∧
        SameCounts snapshot tally := by
  refine (live_tally_eq_batch_iff sampleKeccak256 ["healthcare-reform-2026"]
    sampleKeccak256_distinctHashes
    [sampleEntry 8 "option-support" 5, sampleEntry 9 "option-oppose" 6]
    [sampleArgs 8 "option-support" 5, sampleArgs 9 "option-oppose" 6] (by decide +kernel)
    (by decide) [] "healthcare-reform-2026" (by decide)).mpr ?_
  intro before event after split _
  rcases before with _ | ⟨first, _ | ⟨second, before⟩⟩
  · obtain ⟨rfl, rfl⟩ := List.cons.inj split
    exact ⟨by decide, by decide, by simp⟩
  · obtain ⟨rfl, rest⟩ := List.cons.inj split
    obtain ⟨rfl, rfl⟩ := List.cons.inj rest
    exact ⟨by decide, by decide, by simp [sampleArgs]⟩
  · simp at split

/-- **The second vote of a block.**  Two valid votes in block 5: the batch tally
counts both, the live one only the first. -/
theorem second_vote_of_block_lost :
    let entries := [sampleEntry 8 "option-support" 5, sampleEntry 9 "option-oppose" 5]
    let events := [sampleArgs 8 "option-support" 5, sampleArgs 9 "option-oppose" 5]
    let live := ((tracking sampleKeccak256 ["healthcare-reform-2026"]).start [] 0).deliver events
    DistinctHashes sampleKeccak256 ["healthcare-reform-2026"] ∧
      (queryFilter entries
        [signatureTopic sampleKeccak256 "VoteCast(bytes32,bytes32,string,uint256)"]).mapM
          decodeVoteCast = some events ∧
      (events.map VoteCastArgs.nullifier).Nodup ∧
      (events.map VoteCastArgs.blockNumber).Pairwise (· ≤ ·) ∧
      live.getSnapshot "healthcare-reform-2026" =
        some ⟨"healthcare-reform-2026", 1, 0, 0, 1, 5, false⟩ ∧
      TallyService.getTally sampleKeccak256 entries "healthcare-reform-2026" =
        some ⟨"healthcare-reform-2026", 1, 1, 0, 2, 5, false⟩ := by
  exact ⟨sampleKeccak256_distinctHashes, by decide +kernel, by decide, by decide,
    by decide +kernel, by decide +kernel⟩

end TheVoteApp.LiveTallyService
