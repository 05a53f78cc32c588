import TheVoteApp.Backend.PublishedResults
import TheVoteApp.Backend.Restart

/-!
# The live feed

The WebSocket server of `WSBroadcaster.ts` over the live tally service: its
connections, their subscriptions and what is written to each socket.

## Main definitions

* `Handled` — what the listener of `message` does
* `Feed`, `feedMachine` — the server and its occurrences
* `shown` — what a list of messages tells of a policy
* `FeedStep` — what a step does

## Design notes

The listeners run to completion one after the other, so each occurrence is one
step.  An exception inside the listener of `message` ends the process.
-/

namespace TheVoteApp.WSBroadcaster

open Solidity VoteLedger JavaScript TallyService Foundations

/-! ## Messages -/

/-- The tally of the policy `p`, if the message carries it. -/
def ServerMessage.about (p : String) : ServerMessage → Option PolicyTally
  | .snapshot policyId counts => if policyId = utf16 p then some counts else none
  | .tally update => if update.policyId = p then some update.tally else none
  | .error _ | .pong => none

/-- What a message does to the subscriptions and which replies it has. -/
inductive Handled (live : LiveTallyService) (subs : List Text) :
    List Text × List ServerMessage → Prop where
  | error (message : String) : Handled live subs (subs, [.error message])
  | pong : Handled live subs (subs, [.pong])
  | subscribe (policyId : Text) : Handled live subs (policyId :: subs,
      ((getSnapshot live policyId).map (ServerMessage.snapshot policyId)).toList)
  | unsubscribe (policyId : Text) : Handled live subs (subs.filter (· ≠ policyId), [])
  | ignored : Handled live subs (subs, [])

section Handle

variable {format : NumberFormat} {live : LiveTallyService} {subs : List Text} {raw : Text}

theorem handled_of_handle {outcome : List Text × List ServerMessage}
    (done : handle format live subs raw = some outcome) : Handled live subs outcome := by
  unfold handle at done
  split at done
  · cases done
    exact .error _
  · cases done
  · split at done
    · cases done
      exact .pong
    · split at done
      · cases done
        exact .error _
      · split at done
        · cases done
          exact .error _
        · split at done
          · split at done
            · cases done
              exact .subscribe _
            · split at done
              · cases done
                exact .unsubscribe _
              · cases done
                exact .ignored
          · cases done
            exact .ignored

/-- Only `null` makes the listener throw. -/
theorem handle_eq_none_iff :
    handle format live subs raw = none ↔ parse format raw = some .null := by
  unfold handle
  cases parsed : parse format raw with
  | none => simp
  | some message =>
      cases message with
      | null => simp
      | _ =>
          simp only [Option.some.injEq, reduceCtorEq, iff_false]
          repeat' split
          all_goals simp

end Handle

/-! ## The server -/

/-- The life of a socket, seen from the server. -/
inductive SocketStatus where
  | unused
  | open
  /-- `readyState` has left `OPEN`, the `close` event is still to come. -/
  | closing
  | closed
deriving DecidableEq

/-- The server: the live service, the `subscriptions` map, the sockets and what has
been written to each. -/
structure Feed (ι : Type) where
  world : LiveTallyService.World
  subscriptions : List (ι × List Text)
  status : ι → SocketStatus
  sent : ι → List ServerMessage
  crashed : Bool

/-- What can happen to it. -/
inductive FeedOccurrence (ι : Type) where
  | connection (ws : ι)
  | message (ws : ι) (raw : Text)
  | closing (ws : ι)
  | close (ws : ι)
  | trackPolicy (policyId : String)
  | service (o : LiveTallyService.Occurrence)

namespace Feed

variable {ι : Type} [DecidableEq ι]

/-- The service's snapshot of a policy. -/
def snapshot (s : Feed ι) (p : String) : Option PolicyTally := s.world.service.getSnapshot p

/-- `ws.send`, which does nothing unless the socket is open. -/
def send (s : Feed ι) (ws : ι) (messages : List ServerMessage) : Feed ι :=
  if s.status ws = .open then
    { s with sent := Function.update s.sent ws (s.sent ws ++ messages) }
  else s

/-- The listener of `tally`. -/
def broadcast (s : Feed ι) (update : LiveTallyUpdate) : Feed ι :=
  { s with
    sent := fun ws =>
      s.sent ws ++ ((s.subscriptions.filter fun client =>
        client.1 = ws ∧ s.status ws = .open ∧ client.2.contains (utf16 update.policyId)).map
          fun _ => ServerMessage.tally update) }

/-- The entry of a client gets another set. -/
def setSubscriptions (s : Feed ι) (ws : ι) (subs : List Text) : Feed ι :=
  { s with
    subscriptions := s.subscriptions.map fun client =>
      if client.1 = ws then (ws, subs) else client }

end Feed

variable {ι : Type} [DecidableEq ι]

/-- The server.  An occurrence that is impossible in a state is rejected; a crashed
process has none. -/
def feedMachine (ι : Type) [DecidableEq ι] (format : NumberFormat)
    (keccak256 : Bytes → Bytes32) : Machine (Feed ι) (FeedOccurrence ι) Empty Unit where
  call s o :=
    if s.crashed then .error ()
    else match o with
      | .connection ws =>
          if s.status ws = .unused then
            .ok ({ s with
              subscriptions := s.subscriptions ++ [(ws, [])]
              status := Function.update s.status ws .open }, [])
          else .error ()
      | .message ws raw =>
          match s.subscriptions.lookup ws with
          | none => .error ()
          | some subs =>
            match handle format s.world.service subs raw with
            | none => .ok ({ s with crashed := true }, [])
            | some (subs, replies) => .ok ((s.setSubscriptions ws subs).send ws replies, [])
      | .closing ws =>
          if s.status ws = .open then
            .ok ({ s with status := Function.update s.status ws .closing }, [])
          else .error ()
      | .close ws =>
          if s.status ws = .open ∨ s.status ws = .closing then
            .ok ({ s with
              subscriptions := s.subscriptions.filter (·.1 ≠ ws)
              status := Function.update s.status ws .closed }, [])
          else .error ()
      | .trackPolicy policyId =>
          .ok ({ s with
            world := { s.world with
              service := LiveTallyService.trackPolicy keccak256 s.world.service policyId } }, [])
      | .service o =>
          let (world, updates) := LiveTallyService.occur s.world o
          .ok (updates.foldl Feed.broadcast { s with world }, [])

/-- The server as it starts. -/
def Feed.fresh (ι : Type) : Feed ι where
  world := ⟨LiveTallyService.fresh, [], [], none⟩
  subscriptions := []
  status _ := .unused
  sent _ := []
  crashed := false

/-! ## What a socket has been told -/

/-- The tally of the last message that carries one of the policy `p`. -/
def shown (p : String) (messages : List ServerMessage) : Option PolicyTally :=
  (messages.filterMap (ServerMessage.about p)).getLast?

section Shown

variable {p : String}

theorem shown_append (before after : List ServerMessage) :
    shown p (before ++ after) = (shown p after).or (shown p before) := by
  rw [shown, List.filterMap_append, List.getLast?_append]
  rfl

theorem shown_eq_none_iff {messages : List ServerMessage} :
    shown p messages = none ↔ ∀ m ∈ messages, m.about p = none := by
  rw [shown, List.getLast?_eq_none_iff, List.filterMap_eq_nil_iff]

theorem shown_append_of_silent {before after : List ServerMessage}
    (silent : ∀ m ∈ after, m.about p = none) : shown p (before ++ after) = shown p before := by
  rw [shown_append, shown_eq_none_iff.mpr silent, Option.none_or]

/-- The last message counts, however often it is sent. -/
theorem shown_append_copies {before copies : List ServerMessage} {tally : PolicyTally}
    (some_copy : copies ≠ []) (all : ∀ m ∈ copies, m.about p = some tally) :
    shown p (before ++ copies) = some tally := by
  have values : copies.filterMap (ServerMessage.about p) =
      List.replicate copies.length tally := by
    induction copies with
    | nil => rfl
    | cons m copies ih =>
        rw [List.filterMap_cons_some (all m List.mem_cons_self), List.length_cons,
          List.replicate_succ]
        cases copies with
        | nil => rfl
        | cons m' copies => rw [ih (by simp) fun m mem => all m (List.mem_cons_of_mem _ mem)]
  have positive : copies.length ≠ 0 := by simpa using some_copy
  rw [shown_append, shown, values, List.getLast?_replicate, if_neg positive, Option.some_or]

end Shown

/-- Snapshots stay, and once anything is counted they are not empty. -/
def Grows (p : String) (old new : Option PolicyTally) : Prop :=
  ∀ tally, old = some tally →
    ∃ tally', new = some tally' ∧ (tally' = .empty p → tally = .empty p)

/-- Whatever was sent of `p` came from a snapshot. -/
def Grounded (p : String) (s : Feed ι) : Prop :=
  ∀ ws m tally, m ∈ s.sent ws → m.about p = some tally → Grows p (some tally) (s.snapshot p)

theorem Grows.refl (p : String) (old : Option PolicyTally) : Grows p old old :=
  fun tally stored => ⟨tally, stored, id⟩

theorem Grows.trans {p : String} {old middle new : Option PolicyTally} (first : Grows p old middle)
    (second : Grows p middle new) : Grows p old new := by
  intro tally stored
  obtain ⟨tally', stored', empty'⟩ := first tally stored
  obtain ⟨tally'', stored'', empty''⟩ := second tally' stored'
  exact ⟨tally'', stored'', fun empty => empty' (empty'' empty)⟩

/-! ## What the service does to its snapshots -/

theorem count_ne_empty (tally : PolicyTally) (optionId : String) (blockNumber : ℕ) (p : String) :
    LiveTallyService.count tally optionId blockNumber ≠ .empty p := by
  intro same
  have total := congrArg PolicyTally.total same
  simp [LiveTallyService.count, PolicyTally.empty] at total

/-- Counting an event replaces one snapshot and hands out the new one, or does nothing. -/
theorem applyVoteCast_cases (live : LiveTallyService) (policyIdHash : Bytes32)
    (optionId : String) (blockNumber : ℕ) :
    live.applyVoteCast policyIdHash optionId blockNumber = (live, none) ∨
      ∃ update tally, live.tallies update.policyId = some tally ∧
        (∀ p, update.tally ≠ .empty p) ∧
        live.applyVoteCast policyIdHash optionId blockNumber =
          ({ live with
              tallies := Function.update live.tallies update.policyId (some update.tally) },
            some update) := by
  unfold LiveTallyService.applyVoteCast
  split
  · exact Or.inl rfl
  · split
    · exact Or.inl rfl
    · split
      · exact Or.inl rfl
      · rename_i policyId named nonempty _ tally stored
        exact Or.inr ⟨⟨policyId, LiveTallyService.count tally optionId blockNumber, blockNumber⟩,
          tally, stored, count_ne_empty tally optionId blockNumber, rfl⟩

theorem grows_update {p : String} {tallies : String → Option PolicyTally} {q : String}
    {tally : PolicyTally} (nonempty : ∀ p, tally ≠ .empty p) :
    Grows p (tallies p) (Function.update tallies q (some tally) p) := by
  intro old stored
  by_cases same : p = q
  · subst same
    exact ⟨tally, Function.update_self .., fun empty => absurd empty (nonempty p)⟩
  · exact ⟨old, by rw [Function.update_of_ne same, stored], id⟩

theorem grows_catchUp (p : String) (live : LiveTallyService) (chain : List VoteCastArgs)
    (fromBlock : ℕ) : Grows p (live.tallies p) ((live.catchUp chain fromBlock).tallies p) := by
  unfold LiveTallyService.catchUp
  generalize LiveTallyService.eventsFrom chain fromBlock = events
  induction events generalizing live with
  | nil => exact .refl p _
  | cons event events ih =>
      refine Grows.trans ?_ (ih _)
      dsimp only
      rcases applyVoteCast_cases live event.policyIdHash event.optionId event.blockNumber with
        same | ⟨update, tally, -, nonempty, done⟩
      · rw [same]
        exact .refl p _
      · rw [done]
        exact grows_update nonempty

theorem catchUp_eq_none {p : String} {live : LiveTallyService} (none : live.tallies p = none)
    (chain : List VoteCastArgs) (fromBlock : ℕ) :
    (live.catchUp chain fromBlock).tallies p = .none := by
  unfold LiveTallyService.catchUp
  generalize LiveTallyService.eventsFrom chain fromBlock = events
  induction events generalizing live with
  | nil => exact none
  | cons event events ih =>
      apply ih
      dsimp only
      rcases applyVoteCast_cases live event.policyIdHash event.optionId event.blockNumber with
        same | ⟨update, tally, stored, -, done⟩
      · rw [same]
        exact none
      · rw [done]
        have other : p ≠ update.policyId := by
          rintro rfl
          cases none.symm.trans stored
        exact (Function.update_of_ne other _ _).trans none

theorem getSnapshot_start_eq_none {p : String} {live : LiveTallyService}
    {chain : List VoteCastArgs} {fromBlock : ℕ} (none : live.getSnapshot p = none) :
    (live.start chain fromBlock).getSnapshot p = .none := by
  unfold LiveTallyService.start
  dsimp only
  split
  · exact @catchUp_eq_none p { live with lastSeenBlock := fromBlock } none chain fromBlock
  · exact none

/-- **The service, one occurrence.**  Apart from a `start`, a snapshot changes exactly
when it is handed out. -/
theorem occur_cases (w : LiveTallyService.World) (o : LiveTallyService.Occurrence)
    (running : ∀ fromBlock, o ≠ .start fromBlock) :
    ((LiveTallyService.occur w o).2 = [] ∧
        (LiveTallyService.occur w o).1.service.tallies = w.service.tallies) ∨
      ∃ update, (LiveTallyService.occur w o).2 = [update] ∧ (∀ p, update.tally ≠ .empty p) ∧
        (LiveTallyService.occur w o).1.service.tallies =
          Function.update w.service.tallies update.policyId (some update.tally) := by
  cases o with
  | start fromBlock => exact absurd rfl (running fromBlock)
  | stop => exact Or.inl ⟨rfl, rfl⟩
  | voteCast event =>
      simp only [LiveTallyService.occur]
      split
      · unfold LiveTallyService.onVoteCast
        split
        · exact Or.inl ⟨rfl, rfl⟩
        · rcases applyVoteCast_cases { w.service with lastSeenBlock := event.blockNumber }
            event.policyIdHash event.optionId event.blockNumber with
            same | ⟨update, tally, -, nonempty, done⟩
          · rw [same]
            exact Or.inl ⟨rfl, rfl⟩
          · rw [done]
            exact Or.inr ⟨update, rfl, nonempty, rfl⟩
      · exact Or.inl ⟨rfl, rfl⟩
  | policyFinalized policyIdHash =>
      simp only [LiveTallyService.occur]
      split
      · unfold LiveTallyService.onPolicyFinalized
        split
        · exact Or.inl ⟨rfl, rfl⟩
        · split
          · exact Or.inl ⟨rfl, rfl⟩
          · split
            · exact Or.inl ⟨rfl, rfl⟩
            · rename_i policyId named nonempty _ tally stored
              refine Or.inr ⟨⟨policyId, { tally with finalized := true }, _⟩, rfl, ?_, rfl⟩
              intro p same
              exact absurd (congrArg PolicyTally.finalized same) (by simp [PolicyTally.empty])
      · exact Or.inl ⟨rfl, rfl⟩

/-! ## What a step does -/

/-- The steps of the server. -/
inductive FeedStep (format : NumberFormat) (keccak256 : Bytes → Bytes32) (s : Feed ι) :
    FeedOccurrence ι → Feed ι → Prop where
  | connection {ws : ι} (unused : s.status ws = .unused) :
      FeedStep format keccak256 s (.connection ws)
        { s with
          subscriptions := s.subscriptions ++ [(ws, [])]
          status := Function.update s.status ws .open }
  | crash {ws : ι} {raw : Text} (null : parse format raw = some .null) :
      FeedStep format keccak256 s (.message ws raw) { s with crashed := true }
  | message {ws : ι} {raw : Text} {subs subs' : List Text} {replies : List ServerMessage}
      (found : s.subscriptions.lookup ws = some subs)
      (handled : handle format s.world.service subs raw = some (subs', replies)) :
      FeedStep format keccak256 s (.message ws raw) ((s.setSubscriptions ws subs').send ws replies)
  | closing {ws : ι} (isOpen : s.status ws = .open) :
      FeedStep format keccak256 s (.closing ws)
        { s with status := Function.update s.status ws .closing }
  | close {ws : ι} :
      FeedStep format keccak256 s (.close ws)
        { s with
          subscriptions := s.subscriptions.filter (·.1 ≠ ws)
          status := Function.update s.status ws .closed }
  | trackPolicy {policyId : String} :
      FeedStep format keccak256 s (.trackPolicy policyId)
        { s with
          world := { s.world with
            service := LiveTallyService.trackPolicy keccak256 s.world.service policyId } }
  | start {fromBlock : ℕ} {world : LiveTallyService.World}
      (started : world.service = s.world.service.start s.world.chain fromBlock) :
      FeedStep format keccak256 s (.service (.start fromBlock)) { s with world }
  | silent {o : LiveTallyService.Occurrence} {world : LiveTallyService.World}
      (running : ∀ fromBlock, o ≠ .start fromBlock)
      (same : world.service.tallies = s.world.service.tallies) :
      FeedStep format keccak256 s (.service o) { s with world }
  | counted {o : LiveTallyService.Occurrence} {world : LiveTallyService.World}
      {update : LiveTallyUpdate} (running : ∀ fromBlock, o ≠ .start fromBlock)
      (nonempty : ∀ p, update.tally ≠ .empty p)
      (stored : world.service.tallies =
        Function.update s.world.service.tallies update.policyId (some update.tally)) :
      FeedStep format keccak256 s (.service o) (({ s with world }).broadcast update)

variable {format : NumberFormat} {keccak256 : Bytes → Bytes32} {s s' : Feed ι}

theorem mem_of_lookup {ws : ι} {subs : List Text} {clients : List (ι × List Text)}
    (found : clients.lookup ws = some subs) : (ws, subs) ∈ clients := by
  obtain ⟨before, after, rfl, -⟩ := List.lookup_eq_some_iff.mp found
  simp

theorem FeedStep.of_call {o : FeedOccurrence ι} {new : List Empty}
    (done : (feedMachine ι format keccak256).call s o = .ok (s', new)) :
    s.crashed = false ∧ FeedStep format keccak256 s o s' := by
  simp only [feedMachine] at done
  split at done
  · cases done
  · rename_i running
    refine ⟨by simpa using running, ?_⟩
    cases o with
    | connection ws =>
        dsimp only at done
        split at done
        · cases done
          exact .connection ‹_›
        · cases done
    | message ws raw =>
        dsimp only at done
        split at done
        · cases done
        · rename_i subs found
          split at done
          · rename_i thrown
            cases done
            exact .crash (handle_eq_none_iff.mp thrown)
          · rename_i subs' replies handled
            cases done
            exact .message found handled
    | closing ws =>
        dsimp only at done
        split at done
        · cases done
          exact .closing ‹_›
        · cases done
    | close ws =>
        dsimp only at done
        split at done
        · cases done
          exact .close
        · cases done
    | trackPolicy policyId =>
        cases done
        exact .trackPolicy
    | service o =>
        cases done
        by_cases starts : ∃ fromBlock, o = .start fromBlock
        · obtain ⟨fromBlock, rfl⟩ := starts
          exact .start rfl
        · have other : ∀ fromBlock, o ≠ .start fromBlock := fun fromBlock same =>
            starts ⟨fromBlock, same⟩
          rcases occur_cases s.world o other with ⟨none, same⟩ | ⟨update, one, nonempty, stored⟩
          · rw [none]
            exact .silent other same
          · rw [one]
            exact .counted other nonempty stored

/-! ## What is sent -/

section Sent

variable {p : String}

theorem getSnapshot_utf16 (live : LiveTallyService) (p : String) :
    getSnapshot live (utf16 p) = live.getSnapshot p := by
  rw [getSnapshot, readUtf16_utf16, Option.bind_some, String.ofList_toList]

/-- A reply about `p` carries its snapshot. -/
theorem Handled.about_reply {live : LiveTallyService} {subs subs' : List Text}
    {replies : List ServerMessage} (handled : Handled live subs (subs', replies))
    {m : ServerMessage} (mem : m ∈ replies) {tally : PolicyTally}
    (carried : m.about p = some tally) : live.getSnapshot p = some tally := by
  cases handled with
  | error message =>
      obtain rfl := List.mem_singleton.mp mem
      cases carried
  | pong =>
      obtain rfl := List.mem_singleton.mp mem
      cases carried
  | subscribe policyId =>
      obtain ⟨tally', found, rfl⟩ := Option.map_eq_some_iff.mp (Option.mem_toList.mp mem)
      obtain ⟨rfl, rfl⟩ : policyId = utf16 p ∧ tally' = tally := by
        simpa [ServerMessage.about] using carried
      rwa [getSnapshot_utf16] at found
  | unsubscribe policyId => cases mem
  | ignored => cases mem

@[simp] theorem snapshot_send (ws : ι) (replies : List ServerMessage) :
    (s.send ws replies).snapshot p = s.snapshot p := by
  unfold Feed.send
  split <;> rfl

@[simp] theorem subscriptions_send (ws : ι) (replies : List ServerMessage) :
    (s.send ws replies).subscriptions = s.subscriptions := by
  unfold Feed.send
  split <;> rfl

@[simp] theorem status_send (ws : ι) (replies : List ServerMessage) :
    (s.send ws replies).status = s.status := by
  unfold Feed.send
  split <;> rfl

theorem sent_send (ws ws' : ι) (replies : List ServerMessage) :
    (s.send ws replies).sent ws' =
      if ws' = ws ∧ s.status ws = .open then s.sent ws' ++ replies else s.sent ws' := by
  unfold Feed.send
  by_cases isOpen : s.status ws = .open
  · by_cases same : ws' = ws
    · subst same
      simp [isOpen]
    · simp [isOpen, same]
  · simp [isOpen]

/-- **What is sent of a policy is its snapshot**, as it is after the step. -/
theorem FeedStep.about_sent {o : FeedOccurrence ι} (done : FeedStep format keccak256 s o s')
    {ws : ι} {m : ServerMessage} (mem : m ∈ s'.sent ws) {tally : PolicyTally}
    (carried : m.about p = some tally) : m ∈ s.sent ws ∨ s'.snapshot p = some tally := by
  cases done with
  | message found handled =>
      rename_i ws' _ _ _ replies
      rw [sent_send] at mem
      split at mem
      · rcases List.mem_append.mp mem with earlier | reply
        · exact Or.inl earlier
        · right
          rw [snapshot_send]
          exact (handled_of_handle handled).about_reply reply carried
      · exact Or.inl mem
  | counted running nonempty stored =>
      rename_i update
      rcases List.mem_append.mp mem with earlier | copy
      · exact Or.inl earlier
      · obtain ⟨client, -, rfl⟩ := List.mem_map.mp copy
        obtain ⟨rfl, rfl⟩ : update.policyId = p ∧ update.tally = tally := by
          simpa [ServerMessage.about] using carried
        exact Or.inr ((congrFun stored _).trans (Function.update_self ..))
  | _ => exact Or.inl mem

theorem FeedStep.grows {o : FeedOccurrence ι} (done : FeedStep format keccak256 s o s') :
    Grows p (s.snapshot p) (s'.snapshot p) := by
  cases done with
  | message found handled =>
      rw [snapshot_send]
      exact .refl p _
  | trackPolicy =>
      rename_i policyId
      intro tally stored
      refine ⟨tally, ?_, id⟩
      show (LiveTallyService.trackPolicy keccak256 s.world.service policyId).tallies p = some tally
      rw [LiveTallyService.tallies_trackPolicy]
      split
      · rename_i fresh
        obtain ⟨rfl, missing⟩ := fresh
        cases missing.symm.trans stored
      · exact stored
  | start started =>
      rename_i fromBlock world
      show Grows p _ (world.service.tallies p)
      rw [started]
      unfold LiveTallyService.start
      dsimp only
      split
      · exact grows_catchUp p { s.world.service with lastSeenBlock := fromBlock } _ _
      · exact .refl p _
  | silent running same =>
      rename_i world
      show Grows p _ (world.service.tallies p)
      rw [same]
      exact .refl p _
  | counted running nonempty stored =>
      rename_i world update
      show Grows p _ (world.service.tallies p)
      rw [stored]
      exact grows_update nonempty
  | _ => exact .refl p _

/-- Whatever was sent came from a snapshot, at any time. -/
theorem Grounded.step {o : FeedOccurrence ι} (grounded : Grounded p s)
    (done : FeedStep format keccak256 s o s') : Grounded p s' := by
  intro ws m tally mem carried
  rcases done.about_sent mem carried with earlier | now
  · exact (grounded ws m tally earlier carried).trans done.grows
  · rw [now]
    exact .refl p _

/-- The clients in the map are connected. -/
def Listed (s : Feed ι) : Prop :=
  ∀ client ∈ s.subscriptions, s.status client.1 = .open ∨ s.status client.1 = .closing

theorem Listed.step {o : FeedOccurrence ι} (listed : Listed s)
    (done : FeedStep format keccak256 s o s') : Listed s' := by
  cases done with
  | connection unused =>
      rename_i ws
      intro client mem
      by_cases same : client.1 = ws
      · simp [same]
      · rcases List.mem_append.mp mem with earlier | last
        · simpa [same] using listed client earlier
        · exact absurd (congrArg Prod.fst (List.mem_singleton.mp last)) same
  | message found handled =>
      rename_i ws _ subs subs' replies
      intro client mem
      rw [subscriptions_send] at mem
      rw [status_send]
      obtain ⟨old, memOld, rfl⟩ := List.mem_map.mp mem
      split
      · exact listed (ws, subs) (mem_of_lookup found)
      · exact listed old memOld
  | closing isOpen =>
      rename_i ws
      intro client mem
      by_cases same : client.1 = ws
      · simp [same]
      · simpa [same] using listed client mem
  | close =>
      rename_i ws
      intro client mem
      obtain ⟨earlier, other⟩ := List.mem_filter.mp mem
      have apart : client.1 ≠ ws := by simpa using other
      simpa [apart] using listed client earlier
  | _ => exact listed

end Sent

/-! ## What a step leaves alone -/

section Frame

/-- The subscriptions of a socket; it has none when it is not in the map. -/
def Feed.subscriptionsOf (s : Feed ι) (ws : ι) : List Text := (s.subscriptions.lookup ws).getD []

theorem Feed.exists_of_mem_subscriptionsOf {s : Feed ι} {ws : ι} {text : Text}
    (known : text ∈ s.subscriptionsOf ws) : ∃ subs, (ws, subs) ∈ s.subscriptions ∧ text ∈ subs := by
  rw [Feed.subscriptionsOf] at known
  cases found : s.subscriptions.lookup ws with
  | none =>
      rw [found] at known
      cases known
  | some subs =>
      rw [found] at known
      exact ⟨subs, mem_of_lookup found, known⟩

theorem lookup_setSubscriptions (s : Feed ι) (ws ws' : ι) (subs : List Text) :
    (s.setSubscriptions ws subs).subscriptions.lookup ws' =
      if ws' = ws then (s.subscriptions.lookup ws).map fun _ => subs
      else s.subscriptions.lookup ws' := by
  simp only [Feed.setSubscriptions]
  induction s.subscriptions with
  | nil => simp
  | cons client clients ih =>
      rw [List.map_cons, List.lookup_cons, ih, List.lookup_cons, List.lookup_cons]
      by_cases this : client.1 = ws
      · by_cases same : ws' = ws
        · simp [this, same]
        · simp [this, same, beq_false_of_ne same]
      · by_cases same : ws' = ws
        · simp [this, same, beq_false_of_ne (Ne.symm this)]
        · simp [this, same]

theorem lookup_filter_ne {clients : List (ι × List Text)} {ws ws' : ι} (other : ws' ≠ ws) :
    (clients.filter (·.1 ≠ ws)).lookup ws' = clients.lookup ws' := by
  induction clients with
  | nil => rfl
  | cons client clients ih =>
      by_cases this : client.1 = ws
      · rw [List.filter_cons_of_neg (by simpa using this), List.lookup_cons, ih, this,
          beq_false_of_ne other]
      · rw [List.filter_cons_of_pos (by simpa using this), List.lookup_cons, List.lookup_cons, ih]

theorem lookup_filter_self (clients : List (ι × List Text)) (ws : ι) :
    (clients.filter (·.1 ≠ ws)).lookup ws = none := by
  rw [List.lookup_eq_none_iff]
  intro client mem
  have other : client.1 ≠ ws := by simpa using (List.mem_filter.mp mem).2
  exact bne_iff_ne.mpr (Ne.symm other)

/-- Messages of a socket apart, its subscriptions stay until it is closed. -/
theorem FeedStep.subscriptionsOf_eq {o : FeedOccurrence ι}
    (done : FeedStep format keccak256 s o s') {ws : ι} (quiet : ∀ raw, o ≠ .message ws raw) :
    s'.subscriptionsOf ws = s.subscriptionsOf ws ∨
      s'.subscriptionsOf ws = [] ∧ s'.status ws = .closed := by
  cases done with
  | connection unused =>
      rename_i ws'
      left
      rw [Feed.subscriptionsOf, Feed.subscriptionsOf, List.lookup_append]
      cases found : s.subscriptions.lookup ws with
      | some subs => rfl
      | none =>
          rw [Option.none_or, List.lookup_cons]
          split <;> rfl
  | message found handled =>
      rename_i ws' raw _ subs' replies
      have other : ws ≠ ws' := by
        rintro rfl
        exact quiet raw rfl
      left
      rw [Feed.subscriptionsOf, subscriptions_send, lookup_setSubscriptions, if_neg other]
      rfl
  | close =>
      rename_i ws'
      by_cases same : ws = ws'
      · subst same
        refine Or.inr ⟨?_, Function.update_self ..⟩
        rw [Feed.subscriptionsOf, lookup_filter_self]
        rfl
      · left
        rw [Feed.subscriptionsOf, lookup_filter_ne same]
        rfl
  | _ => exact Or.inl rfl

/-- A message of a socket changes its subscriptions as `handle` says. -/
theorem FeedStep.subscriptionsOf_message {ws : ι} {raw : Text}
    (done : FeedStep format keccak256 s (.message ws raw) s') {subs' : List Text}
    {replies : List ServerMessage}
    (handled : handle format s.world.service (s.subscriptionsOf ws) raw = some (subs', replies)) :
    s'.subscriptionsOf ws = subs' := by
  cases done with
  | crash null => cases (handle_eq_none_iff.mpr null).symm.trans handled
  | message found handled' =>
      rename_i subs _ replies'
      rw [Feed.subscriptionsOf, found, Option.getD_some, handled'] at handled
      obtain ⟨rfl, rfl⟩ := Prod.mk.inj (Option.some.inj handled)
      rw [Feed.subscriptionsOf, subscriptions_send, lookup_setSubscriptions, if_pos rfl, found]
      rfl

/-- A closed socket stays closed. -/
theorem FeedStep.status_of_closed {o : FeedOccurrence ι} (done : FeedStep format keccak256 s o s')
    {ws : ι} (alive : s'.status ws ≠ .closed) : s.status ws ≠ .closed := by
  intro closed
  apply alive
  cases done with
  | connection unused =>
      rename_i ws'
      have other : ws ≠ ws' := by
        rintro rfl
        cases closed.symm.trans unused
      simp [other, closed]
  | message found handled => rw [status_send]; exact closed
  | closing isOpen =>
      rename_i ws'
      have other : ws ≠ ws' := by
        rintro rfl
        cases closed.symm.trans isOpen
      simp [other, closed]
  | close =>
      rename_i ws'
      by_cases same : ws = ws'
      · simp [same]
      · simp [same, closed]
  | _ => exact closed

/-- What was sent stays sent. -/
theorem FeedStep.exists_sent {o : FeedOccurrence ι} (done : FeedStep format keccak256 s o s')
    (ws : ι) : ∃ new, s'.sent ws = s.sent ws ++ new := by
  cases done with
  | message found handled =>
      rename_i ws' _ _ _ replies
      rw [sent_send]
      split
      · exact ⟨replies, rfl⟩
      · exact ⟨[], (List.append_nil _).symm⟩
  | counted running nonempty stored => exact ⟨_, rfl⟩
  | _ => exact ⟨[], (List.append_nil _).symm⟩

end Frame

end TheVoteApp.WSBroadcaster
