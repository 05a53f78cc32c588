import TheVoteApp.Backend.LiveTallyService
import TheVoteApp.JavaScript.Builtins
import TheVoteApp.JavaScript.JsonRoundTrip

/-!
# Published results

`AnonymityService` suppresses the breakdown of a tally with fewer than `k` votes.
The results are published on three paths: the results of a policy, the snapshot sent
to a WebSocket client when it subscribes, and the update broadcast with every vote.

The filter does what it should (`anonymise_eq_of_below`), but none of the three paths
uses it.  Each sends the tally as it is, and printing is injective: two tallies below
the threshold that differ in their breakdown are told apart on every path
(`breakdown_revealed`).

## Main definitions

* `AnonymityService.anonymise` — the filter
* `getResults` — `GET /api/v1/policy/:id/results`
* `WSBroadcaster.ServerMessage` — the messages of the WebSocket server
* `WSBroadcaster.onMessage`, `WSBroadcaster.onTally` — the WebSocket paths
* `DifferBelow` — two tallies below the threshold that differ in the breakdown
-/

namespace TheVoteApp

open Solidity VoteLedger JavaScript TallyService

/-! ## The filter -/

/-- The thresholds of the service, one of its own for some countries. -/
structure AnonymityService where
  defaultK : ℕ
  countryThresholds : List (String × ℕ)

namespace AnonymityService

/-- The service of the backend; `k` is `ANONYMITY_K`, or 5. -/
def deployed (k : ℕ) : AnonymityService where
  defaultK := k
  countryThresholds := [("NZ", 10), ("IS", 10), ("LU", 10)]

/-- A tally, or what replaces it. -/
inductive AnonymisedResult where
  | available (policyId : String) (tally : PolicyTally)
  | insufficientVotes (policyId : String) (minimumRequired current : ℕ)
deriving DecidableEq

variable (table : CaseTable) (service : AnonymityService)

/-- The `k` that holds for a country. -/
def threshold (countryCode : Option String) : ℕ :=
  match countryCode with
  | none => service.defaultK
  | some code =>
      if code = "" then service.defaultK
      else (service.countryThresholds.lookup (table.toUpperCase code)).getD service.defaultK

/-- `anonymise`.  A tally that reaches the threshold is returned as it is. -/
def anonymise (tally : PolicyTally) (countryCode : Option String) : AnonymisedResult :=
  let k := service.threshold table countryCode
  if tally.total < k then .insufficientVotes tally.policyId k tally.total
  else .available tally.policyId tally

/-- `anonymiseAll`. -/
def anonymiseAll (tallies : List PolicyTally) (countryCode : Option String) :
    List AnonymisedResult :=
  tallies.map fun tally => service.anonymise table tally countryCode

end AnonymityService

/-! ## The paths -/

section Paths

variable (format : NumberFormat)

/-- A tally as it is printed. -/
def tallyValue (tally : PolicyTally) : Value format.Number :=
  .object [(utf16 "policyId", .string (utf16 tally.policyId)),
    (utf16 "support", .number (format.ofNat tally.support)),
    (utf16 "oppose", .number (format.ofNat tally.oppose)),
    (utf16 "abstain", .number (format.ofNat tally.abstain)),
    (utf16 "total", .number (format.ofNat tally.total)),
    (utf16 "lastBlock", .number (format.ofNat tally.lastBlock)),
    (utf16 "finalized", .bool tally.finalized)]

/-- An answer of the server. -/
structure Response where
  status : ℕ
  body : Text
deriving DecidableEq

/-- `GET /:id/results`, given the ids of all policies and what `getTally` returns,
from its cache or from the log. -/
def getResults (policyIds : List String) (getTally : String → PolicyTally) (id : String) :
    Response :=
  if id ∈ policyIds then
    ⟨200, stringify format 0 (.object [(utf16 "policyId", .string (utf16 id)),
      (utf16 "tally", tallyValue format (getTally id))])⟩
  else ⟨404, stringify format 0 (.object [(utf16 "error", .string (utf16 "Policy not found"))])⟩

namespace WSBroadcaster

/-- The type of a message. -/
def hasType (message : Value format.Number) (type : String) : Bool :=
  match message.get (utf16 "type") with
  | some (.string text) => text = utf16 type
  | _ => false

/-- `{ type: "error", message }`, as it is sent. -/
def errorMessage (message : String) : Text :=
  stringify format 0 (.object [(utf16 "type", .string (utf16 "error")),
    (utf16 "message", .string (utf16 message))])

/-- The answer to a `ping`. -/
def pongMessage : Text := stringify format 0 (.object [(utf16 "type", .string (utf16 "pong"))])

/-- The tally sent to a client that subscribes. -/
def snapshotMessage (policyId : Text) (tally : PolicyTally) : Text :=
  stringify format 0 (.object [(utf16 "type", .string (utf16 "snapshot")),
    (utf16 "policyId", .string policyId), (utf16 "tally", tallyValue format tally)])

/-- An update, as it is broadcast. -/
def tallyMessage (update : LiveTallyUpdate) : Text :=
  stringify format 0 (.object [(utf16 "type", .string (utf16 "tally")),
    (utf16 "policyId", .string (utf16 update.policyId)),
    (utf16 "tally", tallyValue format update.tally),
    (utf16 "blockNumber", .number (format.ofNat update.blockNumber))])

/-- `liveTallyService.getSnapshot`, for any string. -/
def getSnapshot (live : LiveTallyService) (policyId : Text) : Option PolicyTally :=
  (readUtf16 policyId).bind fun chars => live.getSnapshot (String.ofList chars)

/-- A message of the server. -/
inductive ServerMessage where
  | error (message : String)
  | pong
  | snapshot (policyId : Text) (tally : PolicyTally)
  | tally (update : LiveTallyUpdate)
deriving DecidableEq

/-- The text that is sent. -/
def ServerMessage.text : ServerMessage → Text
  | .error message => errorMessage format message
  | .pong => pongMessage format
  | .snapshot policyId counts => snapshotMessage format policyId counts
  | .tally update => tallyMessage format update

/-- The listener of `message`: the subscriptions afterwards and the replies; `none` is
the `TypeError` for `null`.  A policy id that is no string has no snapshot and no
updates. -/
def handle (live : LiveTallyService) (subs : List Text) (raw : Text) :
    Option (List Text × List ServerMessage) :=
  match parse format raw with
  | none => some (subs, [.error "Invalid JSON"])
  | some .null => none
  | some message =>
    if hasType format message "ping" then some (subs, [.pong])
    else
      match message.get (utf16 "policyId") with
      | none => some (subs, [.error "policyId required"])
      | some policyId =>
        if ¬ truthy policyId then some (subs, [.error "policyId required"])
        else
          match policyId with
          | .string policyId =>
              if hasType format message "subscribe" then
                some (policyId :: subs,
                  ((getSnapshot live policyId).map (ServerMessage.snapshot policyId)).toList)
              else if hasType format message "unsubscribe" then
                some (subs.filter (· ≠ policyId), [])
              else some (subs, [])
          | _ => some (subs, [])

/-- A message of a client: its subscriptions afterwards, and the texts it is sent. -/
def onMessage (live : LiveTallyService) (subs : List Text) (raw : Text) :
    Option (List Text × List Text) :=
  (handle format live subs raw).map fun (subs, messages) =>
    (subs, messages.map (ServerMessage.text format))

/-- An update of the live tally, sent to the open clients that have subscribed. -/
def onTally {ι : Type} (clients : List (ι × List Text)) (update : LiveTallyUpdate) :
    List (ι × Text) :=
  (clients.filter fun client => utf16 update.policyId ∈ client.2).map fun client =>
    (client.1, (ServerMessage.tally update).text format)

end WSBroadcaster

end Paths

/-! ## Tallies below the threshold -/

/-- No more votes are broken down than are counted. -/
def Counted (tally : PolicyTally) : Prop :=
  tally.support + tally.oppose + tally.abstain ≤ tally.total

instance decidableCounted (tally : PolicyTally) : Decidable (Counted tally) :=
  inferInstanceAs (Decidable (_ ≤ _))

theorem counted_empty (policyId : String) : Counted (.empty policyId) := le_rfl

theorem counted_bump {tally : PolicyTally} (counted : Counted tally) (field : Option Field)
    (lastBlock : ℕ) :
    Counted { tally.bump field with
      total := (tally.bump field).total + 1
      lastBlock := lastBlock } := by
  unfold Counted at *
  cases field with
  | none => exact counted.trans (Nat.le_succ _)
  | some field =>
      cases field with
      | support => simp only [PolicyTally.bump]; omega
      | oppose => simp only [PolicyTally.bump]; omega
      | abstain => simp only [PolicyTally.bump]; omega

/-- The tallies of the log. -/
theorem counted_getTally {keccak256 : Bytes → Bytes32} {entries : List Log} {policyId : String}
    {tally : PolicyTally}
    (found : TallyService.getTally keccak256 entries policyId = some tally) : Counted tally := by
  obtain ⟨events, -, found⟩ := Option.bind_eq_some_iff.mp found
  obtain rfl := Option.some.inj found
  have counted : ∀ (events : List VoteCastArgs) (acc : PolicyTally × List Bytes32),
      Counted acc.1 → Counted (events.foldl countEvent acc).1 := by
    intro events
    induction events with
    | nil => exact fun _ counted => counted
    | cons event events ih =>
        intro acc counted
        refine ih _ ?_
        unfold countEvent
        split
        · exact counted
        · exact counted_bump counted _ _
  exact counted events _ (counted_empty policyId)

/-- The tallies of the live service: a vote keeps them counted. -/
theorem counted_applyVoteCast {s : LiveTallyService}
    (counted : ∀ policyId, ∀ tally ∈ s.tallies policyId, Counted tally)
    (policyIdHash : Bytes32) (optionId : String) (blockNumber : ℕ) :
    ∀ policyId, ∀ tally ∈ (s.applyVoteCast policyIdHash optionId blockNumber).1.tallies policyId,
      Counted tally := by
  unfold LiveTallyService.applyVoteCast
  split
  · exact counted
  split
  · exact counted
  split
  · exact counted
  · rename_i policyId _ _ _ tally found
    intro policyId' tally' mem
    dsimp only at mem
    by_cases same : policyId' = policyId
    · subst same
      rw [Function.update_self] at mem
      obtain rfl := Option.some.inj mem
      exact counted_bump (counted policyId' tally found) _ _
    · rw [Function.update_of_ne same] at mem
      exact counted policyId' tally' mem

/-- Two tallies of a policy with the same total below `k`, the same last block and
the same flag, and different breakdowns. -/
structure DifferBelow (k : ℕ) (tally tally' : PolicyTally) : Prop where
  policyId : tally.policyId = tally'.policyId
  total : tally.total = tally'.total
  below : tally.total < k
  lastBlock : tally.lastBlock = tally'.lastBlock
  finalized : tally.finalized = tally'.finalized
  breakdown : ¬ (tally.support = tally'.support ∧ tally.oppose = tally'.oppose ∧
    tally.abstain = tally'.abstain)

section Filter

variable {table : CaseTable} {service : AnonymityService} {countryCode : Option String}

/-- **The filter** does not tell them apart. -/
theorem anonymise_eq_of_below {tally tally' : PolicyTally}
    (differ : DifferBelow (service.threshold table countryCode) tally tally') :
    service.anonymise table tally countryCode = service.anonymise table tally' countryCode := by
  have below' := differ.total ▸ differ.below
  rw [AnonymityService.anonymise, AnonymityService.anonymise]
  simp only [if_pos below', differ.policyId, differ.total]

theorem anonymiseAll_eq_of_below {tallies tallies' : List PolicyTally}
    (differ : List.Forall₂ (DifferBelow (service.threshold table countryCode)) tallies tallies') :
    service.anonymiseAll table tallies countryCode =
      service.anonymiseAll table tallies' countryCode := by
  induction differ with
  | nil => rfl
  | cons first _ ih =>
      exact congrArg₂ List.cons (anonymise_eq_of_below first) ih

end Filter

/-! ## What is sent -/

section Sent

variable {format : NumberFormat} {tally tally' : PolicyTally} {k : ℕ}

theorem ordered_tallyValue : (tallyValue format tally).Ordered := by
  refine .object ?_ fun member mem => ?_
  · rw [inOrder_iff_keys]
    show [utf16 "policyId", utf16 "support", utf16 "oppose", utf16 "abstain", utf16 "total",
      utf16 "lastBlock", utf16 "finalized"].Pairwise _
    decide
  · simp only [List.mem_cons, List.not_mem_nil, or_false] at mem
    rcases mem with rfl | rfl | rfl | rfl | rfl | rfl | rfl
    · exact .string _
    · exact .number _
    · exact .number _
    · exact .number _
    · exact .number _
    · exact .number _
    · exact .bool _

/-- A printed tally tells the breakdown. -/
theorem DifferBelow.printedValue_ne (differ : DifferBelow k tally tally') (safe : k ≤ 2 ^ 53)
    (counted : Counted tally) (counted' : Counted tally') :
    printedValue format (tallyValue format tally) ≠
      printedValue format (tallyValue format tally') := by
  intro same
  have below := differ.below.trans_le safe
  have below' := differ.total ▸ below
  unfold Counted at counted counted'
  have support : tally.support < 2 ^ 53 := by omega
  have oppose : tally.oppose < 2 ^ 53 := by omega
  have abstain : tally.abstain < 2 ^ 53 := by omega
  have support' : tally'.support < 2 ^ 53 := by omega
  have oppose' : tally'.oppose < 2 ^ 53 := by omega
  have abstain' : tally'.abstain < 2 ^ 53 := by omega
  simp only [tallyValue, printedValue, printedMembers, printedNumber_ofNat support,
    printedNumber_ofNat oppose, printedNumber_ofNat abstain, printedNumber_ofNat support',
    printedNumber_ofNat oppose', printedNumber_ofNat abstain', Value.object.injEq,
    List.cons.injEq, Prod.mk.injEq, Value.number.injEq, true_and] at same
  obtain ⟨-, sameSupport, sameOppose, sameAbstain, -⟩ := same
  exact differ.breakdown ⟨NumberFormat.ofNat_inj support support' sameSupport,
    NumberFormat.ofNat_inj oppose oppose' sameOppose,
    NumberFormat.ofNat_inj abstain abstain' sameAbstain⟩

/-- **Every message with a tally tells it.**  `members` are those of a message whose
property `tally` is the tally. -/
theorem stringify_ne_of_tally {members members' : List (Text × Value format.Number)}
    (ordered : (Value.object members).Ordered) (ordered' : (Value.object members').Ordered)
    (found : (Value.object members).get (utf16 "tally") = some (tallyValue format tally))
    (found' : (Value.object members').get (utf16 "tally") = some (tallyValue format tally'))
    (differ : printedValue format (tallyValue format tally) ≠
      printedValue format (tallyValue format tally')) :
    stringify format 0 (.object members) ≠ stringify format 0 (.object members') := by
  intro same
  have printed := printedValue_eq_of_stringify_eq ordered ordered' same
  have told := congrArg (Value.get (utf16 "tally")) printed
  rw [get_printedValue, get_printedValue, found, found'] at told
  exact differ (Option.some.inj told)

theorem get_tally_of_keys {pre post : List (Text × Value format.Number)} {v : Value format.Number}
    (before : ∀ key ∈ pre.map Prod.fst, key ≠ utf16 "tally") :
    (Value.object (pre ++ (utf16 "tally", v) :: post)).get (utf16 "tally") = some v := by
  rw [Value.get]
  induction pre with
  | nil => simp
  | cons member pre ih =>
      obtain ⟨first, others⟩ := List.forall_mem_cons.mp before
      rw [List.cons_append, List.lookup_cons, beq_false_of_ne (Ne.symm first)]
      exact ih others

/-- Messages that differ in their tally only differ. -/
theorem stringify_ne {pre post : List (Text × Value format.Number)}
    (keys : ((pre.map Prod.fst) ++ utf16 "tally" :: post.map Prod.fst).Pairwise fun key key' =>
      key ≠ key' ∧ ¬ Precedes key' key)
    (orderedPre : ∀ member ∈ pre, member.2.Ordered)
    (orderedPost : ∀ member ∈ post, member.2.Ordered)
    (differ : printedValue format (tallyValue format tally) ≠
      printedValue format (tallyValue format tally')) :
    stringify format 0 (.object (pre ++ (utf16 "tally", tallyValue format tally) :: post)) ≠
      stringify format 0 (.object (pre ++ (utf16 "tally", tallyValue format tally') :: post)) := by
  have ordered (tally : PolicyTally) : (Value.object
      (pre ++ (utf16 "tally", tallyValue format tally) :: post)).Ordered := by
    refine .object ?_ fun member mem => ?_
    · rw [inOrder_iff_keys, List.map_append, List.map_cons]
      exact keys
    · rcases List.mem_append.mp mem with early | late
      · exact orderedPre member early
      · rcases List.mem_cons.mp late with rfl | late
        · exact ordered_tallyValue
        · exact orderedPost member late
  have before : ∀ key ∈ pre.map Prod.fst, key ≠ utf16 "tally" := fun key mem =>
    ((List.pairwise_append.mp keys).2.2 key mem _ List.mem_cons_self).1
  exact stringify_ne_of_tally (ordered tally) (ordered tally') (get_tally_of_keys before)
    (get_tally_of_keys before) differ

theorem getResults_ne {policyIds : List String} {id : String} (known : id ∈ policyIds)
    {getTally getTally' : String → PolicyTally}
    (differ : printedValue format (tallyValue format (getTally id)) ≠
      printedValue format (tallyValue format (getTally' id))) :
    (getResults format policyIds getTally id).body ≠
      (getResults format policyIds getTally' id).body := by
  rw [getResults, getResults, if_pos known, if_pos known]
  refine @stringify_ne format _ _ [(utf16 "policyId", .string (utf16 id))] [] ?_ ?_ ?_ differ
  · show [utf16 "policyId", utf16 "tally"].Pairwise _
    decide
  · exact List.forall_mem_singleton.mpr (.string _)
  · simp

namespace WSBroadcaster

theorem snapshotMessage_ne (policyId : Text)
    (differ : printedValue format (tallyValue format tally) ≠
      printedValue format (tallyValue format tally')) :
    snapshotMessage format policyId tally ≠ snapshotMessage format policyId tally' := by
  refine @stringify_ne format _ _ [(utf16 "type", .string (utf16 "snapshot")),
    (utf16 "policyId", .string policyId)] [] ?_ ?_ ?_ differ
  · show [utf16 "type", utf16 "policyId", utf16 "tally"].Pairwise _
    decide
  · exact List.forall_mem_cons.mpr ⟨.string _, List.forall_mem_singleton.mpr (.string _)⟩
  · simp

theorem tallyMessage_ne (policyId : String) (blockNumber : ℕ)
    (differ : printedValue format (tallyValue format tally) ≠
      printedValue format (tallyValue format tally')) :
    tallyMessage format ⟨policyId, tally, blockNumber⟩ ≠
      tallyMessage format ⟨policyId, tally', blockNumber⟩ := by
  refine @stringify_ne format _ _ [(utf16 "type", .string (utf16 "tally")),
    (utf16 "policyId", .string (utf16 policyId))]
    [(utf16 "blockNumber", .number (format.ofNat blockNumber))] ?_ ?_ ?_ differ
  · show [utf16 "type", utf16 "policyId", utf16 "tally", utf16 "blockNumber"].Pairwise _
    decide
  · exact List.forall_mem_cons.mpr ⟨.string _, List.forall_mem_singleton.mpr (.string _)⟩
  · exact List.forall_mem_singleton.mpr (.number _)

/-- The message subscribes to the policy. -/
def Subscribes (format : NumberFormat) (raw : Text) (policyId : String) : Prop :=
  policyId ≠ "" ∧ ∃ message, parse format raw = some message ∧
    message.get (utf16 "type") = some (.string (utf16 "subscribe")) ∧
    message.get (utf16 "policyId") = some (.string (utf16 policyId))

theorem onMessage_of_subscribes {raw : Text} {policyId : String}
    (subscribes : Subscribes format raw policyId) (live : LiveTallyService) (subs : List Text) :
    onMessage format live subs raw = some (utf16 policyId :: subs,
      ((live.getSnapshot policyId).map (snapshotMessage format (utf16 policyId))).toList) := by
  obtain ⟨nonempty, message, parsed, type, policy⟩ := subscribes
  have notPing : hasType format message "ping" = false := by
    have other : utf16 "subscribe" ≠ utf16 "ping" := by decide
    simp [hasType, type, other]
  have subscribe : hasType format message "subscribe" = true := by simp [hasType, type]
  have named : truthy (.string (utf16 policyId) : Value format.Number) = true := by
    refine decide_eq_true fun empty => nonempty (utf16_injective (empty.trans ?_))
    decide
  have snapshot : getSnapshot live (utf16 policyId) = live.getSnapshot policyId := by
    rw [getSnapshot, readUtf16_utf16, Option.bind_some, String.ofList_toList]
  have handled : handle format live subs raw = some (utf16 policyId :: subs,
      ((live.getSnapshot policyId).map (ServerMessage.snapshot (utf16 policyId))).toList) := by
    rw [handle, parsed]
    cases message with
    | null => cases type
    | _ => simp only [notPing, policy, named, subscribe, snapshot, not_true, if_false, if_true,
        Bool.false_eq_true]
  rw [onMessage, handled]
  cases live.getSnapshot policyId <;> rfl

end WSBroadcaster

end Sent

/-- **The breakdown is revealed** below the threshold.  Two tallies of a policy with
the same total below `k`, and different breakdowns, give different results, different
replies to a client that subscribes, and different updates. -/
theorem breakdown_revealed (format : NumberFormat) {k : ℕ} (safe : k ≤ 2 ^ 53)
    {tally tally' : PolicyTally} (differ : DifferBelow k tally tally') (counted : Counted tally)
    (counted' : Counted tally') :
    (∀ policyIds id getTally getTally', id ∈ policyIds → getTally id = tally →
      getTally' id = tally' → (getResults format policyIds getTally id).body ≠
        (getResults format policyIds getTally' id).body) ∧
    (∀ live live' subs raw policyId, live.getSnapshot policyId = some tally →
      live'.getSnapshot policyId = some tally' →
        WSBroadcaster.Subscribes format raw policyId →
          WSBroadcaster.onMessage format live subs raw ≠
            WSBroadcaster.onMessage format live' subs raw) ∧
    ∀ (ι : Type) (clients : List (ι × List Text)) policyId blockNumber,
      (∃ client ∈ clients, utf16 policyId ∈ client.2) →
        WSBroadcaster.onTally format clients ⟨policyId, tally, blockNumber⟩ ≠
          WSBroadcaster.onTally format clients ⟨policyId, tally', blockNumber⟩ := by
  have told := @DifferBelow.printedValue_ne format _ _ _ differ safe counted counted'
  refine ⟨?_, ?_, ?_⟩
  · rintro policyIds id getTally getTally' known rfl rfl
    exact getResults_ne known told
  · intro live live' subs raw policyId found found' subscribes same
    rw [WSBroadcaster.onMessage_of_subscribes subscribes,
      WSBroadcaster.onMessage_of_subscribes subscribes, found, found'] at same
    obtain ⟨-, sent⟩ := Prod.mk.inj (Option.some.inj same)
    exact WSBroadcaster.snapshotMessage_ne _ told (List.singleton_inj.mp sent)
  · rintro ι clients policyId blockNumber ⟨client, mem, subscribed⟩ same
    have inside : (client.1, WSBroadcaster.tallyMessage format ⟨policyId, tally, blockNumber⟩) ∈
        WSBroadcaster.onTally format clients ⟨policyId, tally', blockNumber⟩ := by
      rw [← same]
      exact List.mem_map_of_mem (List.mem_filter.mpr ⟨mem, decide_eq_true subscribed⟩)
    obtain ⟨other, -, sent⟩ := List.mem_map.mp inside
    exact WSBroadcaster.tallyMessage_ne policyId blockNumber told (Prod.mk.inj sent).2.symm

/-! ## Two votes -/

/-- Two votes in support. -/
def bothSupport : PolicyTally := ⟨"pol-001", 2, 0, 0, 2, 100, false⟩

/-- One vote in support and one opposed. -/
def oneEach : PolicyTally := ⟨"pol-001", 1, 1, 0, 2, 100, false⟩

theorem differBelow_sample : DifferBelow 5 bothSupport oneEach where
  policyId := rfl
  total := rfl
  below := by decide
  lastBlock := rfl
  finalized := rfl
  breakdown := by decide

/-- The live service with a snapshot of one policy. -/
def liveWith (tally : PolicyTally) : LiveTallyService :=
  { LiveTallyService.fresh with
    tallies := Function.update LiveTallyService.fresh.tallies tally.policyId (some tally) }

theorem getSnapshot_liveWith (tally : PolicyTally) :
    (liveWith tally).getSnapshot tally.policyId = some tally := Function.update_self ..

/-- A client subscribes to the sample policy. -/
def sampleSubscription : Text :=
  stringify .naturals 0 (.object [(utf16 "type", .string (utf16 "subscribe")),
    (utf16 "policyId", .string (utf16 "pol-001"))])

theorem subscribes_sample :
    WSBroadcaster.Subscribes .naturals sampleSubscription "pol-001" := by
  refine ⟨by decide, _, parse_stringify _ _ (.object (by decide) ?_), ?_, ?_⟩
  · exact List.forall_mem_cons.mpr ⟨.string _, List.forall_mem_singleton.mpr (.string _)⟩
  · rw [get_printedValue, Value.get, List.lookup_cons_self]
    rfl
  · have other : utf16 "policyId" ≠ utf16 "type" := by decide
    rw [get_printedValue, Value.get, List.lookup_cons, beq_false_of_ne other,
      List.lookup_cons_self]
    rfl

theorem breakdown_revealed_sample :
    (getResults .naturals ["pol-001"] (fun _ => bothSupport) "pol-001").body ≠
      (getResults .naturals ["pol-001"] (fun _ => oneEach) "pol-001").body ∧
    WSBroadcaster.onMessage .naturals (liveWith bothSupport) [] sampleSubscription ≠
      WSBroadcaster.onMessage .naturals (liveWith oneEach) [] sampleSubscription ∧
    WSBroadcaster.onTally .naturals [((), [utf16 "pol-001"])] ⟨"pol-001", bothSupport, 100⟩ ≠
      WSBroadcaster.onTally .naturals [((), [utf16 "pol-001"])] ⟨"pol-001", oneEach, 100⟩ := by
  obtain ⟨results, snapshots, updates⟩ := breakdown_revealed .naturals (k := 5) (by decide)
    differBelow_sample (by decide) (by decide)
  refine ⟨?_, ?_, ?_⟩
  · exact results ["pol-001"] "pol-001" _ _ List.mem_cons_self rfl rfl
  · exact snapshots _ _ [] _ "pol-001" (getSnapshot_liveWith bothSupport)
      (getSnapshot_liveWith oneEach) subscribes_sample
  · exact updates Unit _ "pol-001" 100 ⟨_, List.mem_cons_self, List.mem_cons_self⟩

/-- What a client is sent for two votes: both of them. -/
theorem breakdown_counterexample :
    DifferBelow 5 bothSupport oneEach ∧
    getResults .naturals ["pol-001"] (fun _ => bothSupport) "pol-001" =
      ⟨200, utf16 ("\x7b\"policyId\":\"pol-001\",\"tally\":\x7b\"policyId\":\"pol-001\"," ++
        "\"support\":2,\"oppose\":0,\"abstain\":0,\"total\":2,\"lastBlock\":100," ++
        "\"finalized\":false\x7d\x7d")⟩ ∧
    WSBroadcaster.snapshotMessage .naturals (utf16 "pol-001") bothSupport ≠
      WSBroadcaster.snapshotMessage .naturals (utf16 "pol-001") oneEach ∧
    WSBroadcaster.tallyMessage .naturals ⟨"pol-001", bothSupport, 100⟩ ≠
      WSBroadcaster.tallyMessage .naturals ⟨"pol-001", oneEach, 100⟩ := by
  refine ⟨differBelow_sample, ?_, ?_, ?_⟩
  · decide +kernel
  · decide
  · decide

end TheVoteApp
