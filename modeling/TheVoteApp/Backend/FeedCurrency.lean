import TheVoteApp.Backend.LiveFeed

/-!
# What the clients of the live feed know

A client knows a tally only from what it is sent: the last snapshot or update of
a policy.  `Current` says that this is the service's snapshot for every open
connection that has subscribed to the policy.  The subscription itself sends the
snapshot and every counted event is broadcast, so the only step that breaks it is
a `start` that replays events: `catchUp` changes the snapshots and emits nothing
(`current_iff_unnoticed`).

The listener of `message` has one unguarded member access: the JSON text `null`
ends the process, and nothing else does (`crashed_iff_null_message`).
-/

namespace TheVoteApp.WSBroadcaster

open Solidity VoteLedger JavaScript TallyService Foundations

variable {ι : Type} [DecidableEq ι] {format : NumberFormat} {keccak256 : Bytes → Bytes32}
variable {s s' : Feed ι}

/-- The snapshot has been told, or there was nothing but the empty one to tell. -/
def Told (p : String) (s : Feed ι) (ws : ι) : Prop :=
  shown p (s.sent ws) = s.snapshot p ∨
    shown p (s.sent ws) = none ∧ s.snapshot p = some (.empty p)

/-- Every open connection that has subscribed to `p` has been told its snapshot. -/
def Current (p : String) (s : Feed ι) : Prop :=
  ∀ client ∈ s.subscriptions, s.status client.1 = .open → utf16 p ∈ client.2 →
    Told p s client.1

/-! ## What the clients know -/

section Currency

variable {p : String}

/-- A `start` that changes the snapshot of `p` finds no open connection that has
subscribed to the policy. -/
def Unnoticed (p : String) (s : Feed ι) : FeedOccurrence ι → Prop
  | .service (.start fromBlock) =>
      s.crashed = false →
        (∃ client ∈ s.subscriptions, s.status client.1 = .open ∧ utf16 p ∈ client.2) →
          (s.world.service.start s.world.chain fromBlock).getSnapshot p = s.snapshot p
  | _ => True

omit [DecidableEq ι] in
/-- A connection that is told nothing of `p` knows as much as before. -/
theorem Told.congr {ws : ι} (told : Told p s ws) (sent : shown p (s'.sent ws) = shown p (s.sent ws))
    (snapshot : s'.snapshot p = s.snapshot p) : Told p s' ws := by
  rw [Told, sent, snapshot]
  exact told

/-- The listener of `message`. -/
theorem Current.message {ws : ι} {subs subs' : List Text} {replies : List ServerMessage}
    (current : Current p s) (grounded : Grounded p s) (entry : (ws, subs) ∈ s.subscriptions)
    (handled : Handled s.world.service subs (subs', replies)) :
    Current p ((s.setSubscriptions ws subs').send ws replies) := by
  intro client mem isOpen subscribed
  rw [subscriptions_send] at mem
  rw [status_send] at isOpen
  obtain ⟨old, memOld, rfl⟩ := List.mem_map.mp mem
  have snapshot : ((s.setSubscriptions ws subs').send ws replies).snapshot p = s.snapshot p :=
    snapshot_send ws replies
  by_cases other : old.1 = ws
  · rw [if_pos other] at isOpen subscribed ⊢
    have sent : ((s.setSubscriptions ws subs').send ws replies).sent ws = s.sent ws ++ replies := by
      rw [sent_send, if_pos ⟨rfl, isOpen⟩]
      rfl
    have before : utf16 p ∈ subs → Told p s ws := current (ws, subs) entry isOpen
    cases handled with
    | error message =>
        exact (before subscribed).congr (by rw [sent]; exact shown_append_of_silent (by
          simp [ServerMessage.about])) snapshot
    | pong =>
        exact (before subscribed).congr (by rw [sent]; exact shown_append_of_silent (by
          simp [ServerMessage.about])) snapshot
    | ignored => exact (before subscribed).congr (by rw [sent, List.append_nil]) snapshot
    | unsubscribe policyId =>
        exact (before (List.mem_of_mem_filter subscribed)).congr
          (by rw [sent, List.append_nil]) snapshot
    | subscribe policyId =>
        by_cases same : policyId = utf16 p
        · -- the subscription itself sends the snapshot, if there is one
          subst same
          have reply : getSnapshot s.world.service (utf16 p) = s.snapshot p :=
            getSnapshot_utf16 _ p
          rw [reply] at sent snapshot ⊢
          refine Or.inl (Eq.trans ?_ snapshot.symm)
          rw [sent]
          cases found : s.snapshot p with
          | none =>
              rw [Option.map_none, Option.toList_none, List.append_nil, shown_eq_none_iff]
              intro m mem
              by_contra carries
              obtain ⟨tally, carried⟩ := Option.ne_none_iff_exists'.mp carries
              obtain ⟨tally', stored, -⟩ := grounded ws m tally mem carried tally rfl
              cases found.symm.trans stored
          | some tally =>
              exact shown_append_copies (by simp) (by simp [ServerMessage.about])
        · have listed : utf16 p ∈ subs := by
            rcases List.mem_cons.mp subscribed with now | earlier
            · exact absurd now.symm same
            · exact earlier
          refine (before listed).congr ?_ snapshot
          rw [sent]
          apply shown_append_of_silent
          intro m mem
          obtain ⟨tally, -, rfl⟩ := Option.map_eq_some_iff.mp (Option.mem_toList.mp mem)
          exact if_neg same
  · rw [if_neg other] at isOpen subscribed ⊢
    refine (current old memOld isOpen subscribed).congr ?_ snapshot
    rw [sent_send, if_neg fun same => other same.1]
    rfl

/-- The listener of `tally`. -/
theorem Current.broadcast {world : LiveTallyService.World} {update : LiveTallyUpdate}
    (current : Current p s) (stored : world.service.tallies =
      Function.update s.world.service.tallies update.policyId (some update.tally)) :
    Current p (({ s with world }).broadcast update) := by
  intro client mem isOpen subscribed
  have counted := congrFun stored p
  by_cases same : p = update.policyId
  · subst same
    rw [Function.update_self] at counted
    refine Or.inl (Eq.trans ?_ counted.symm)
    apply shown_append_copies
    · have copy : client ∈ s.subscriptions.filter fun other =>
          other.1 = client.1 ∧ s.status client.1 = .open ∧
            other.2.contains (utf16 update.policyId) :=
        List.mem_filter.mpr
          ⟨mem, decide_eq_true ⟨rfl, isOpen, List.contains_iff_mem.mpr subscribed⟩⟩
      exact List.ne_nil_of_mem (List.mem_map_of_mem copy)
    · intro m copy
      obtain ⟨-, -, rfl⟩ := List.mem_map.mp copy
      exact if_pos rfl
  · rw [Function.update_of_ne same] at counted
    refine (current client mem isOpen subscribed).congr (shown_append_of_silent ?_) counted
    intro m copy
    obtain ⟨-, -, rfl⟩ := List.mem_map.mp copy
    exact if_neg (Ne.symm same)

omit [DecidableEq ι] in
/-- A `start` tells nobody anything. -/
theorem Current.start_iff {world : LiveTallyService.World} {fromBlock : ℕ}
    (current : Current p s)
    (started : world.service = s.world.service.start s.world.chain fromBlock)
    (grows : Grows p (s.snapshot p) (world.service.getSnapshot p)) :
    Current p { s with world } ↔
      ((∃ client ∈ s.subscriptions, s.status client.1 = .open ∧ utf16 p ∈ client.2) →
        (s.world.service.start s.world.chain fromBlock).getSnapshot p = s.snapshot p) := by
  rw [← started]
  constructor
  · rintro after ⟨client, mem, isOpen, subscribed⟩
    have told : Told p s client.1 := current client mem isOpen subscribed
    have told' : shown p (s.sent client.1) = world.service.getSnapshot p ∨
        shown p (s.sent client.1) = none ∧ world.service.getSnapshot p = some (.empty p) :=
      after client mem isOpen subscribed
    rcases told with same | ⟨silent, empty⟩
    · rcases told' with same' | ⟨silent', empty'⟩
      · rw [← same', same]
      · -- there was no snapshot, and `catchUp` makes none
        rw [silent'] at same
        rw [started, getSnapshot_start_eq_none same.symm] at empty'
        cases empty'
    · rcases told' with same' | ⟨silent', empty'⟩
      · obtain ⟨tally', stored, -⟩ := grows _ empty
        rw [silent, stored] at same'
        cases same'
      · rw [empty, empty']
  · intro same client mem isOpen subscribed
    exact (current client mem isOpen subscribed).congr rfl
      (same ⟨client, mem, isOpen, subscribed⟩)

/-- **One step.**  It leaves the clients informed unless a `start` changes a snapshot
unnoticed. -/
theorem Current.step_iff {o : FeedOccurrence ι} (current : Current p s) (grounded : Grounded p s)
    (listed : Listed s) (running : s.crashed = false) (done : FeedStep format keccak256 s o s') :
    Current p s' ↔ Unnoticed p s o := by
  have grows : Grows p (s.snapshot p) (s'.snapshot p) := done.grows
  cases done with
  | start started =>
      refine (current.start_iff started grows).trans ?_
      simp only [Unnoticed, running, forall_const]
  | connection unused =>
      rename_i ws
      refine iff_of_true ?_ trivial
      intro client mem isOpen subscribed
      rcases List.mem_append.mp mem with earlier | last
      · have other : client.1 ≠ ws := by
          rintro rfl
          rcases listed client earlier with connected | connected <;>
            cases unused.symm.trans connected
        exact (current client earlier (by simpa [other] using isOpen) subscribed).congr rfl rfl
      · rw [List.mem_singleton.mp last] at subscribed
        cases subscribed
  | crash null => exact iff_of_true current trivial
  | message found handled =>
      exact iff_of_true (current.message grounded (mem_of_lookup found) (handled_of_handle handled))
        trivial
  | closing wasOpen =>
      rename_i ws
      refine iff_of_true ?_ trivial
      intro client mem isOpen subscribed
      by_cases same : client.1 = ws
      · simp [same] at isOpen
      · exact (current client mem (by simpa [same] using isOpen) subscribed).congr rfl rfl
  | close =>
      rename_i ws
      refine iff_of_true ?_ trivial
      intro client mem isOpen subscribed
      obtain ⟨earlier, kept⟩ := List.mem_filter.mp mem
      have other : client.1 ≠ ws := by simpa using kept
      exact (current client earlier (by simpa [other] using isOpen) subscribed).congr rfl rfl
  | trackPolicy =>
      rename_i policyId
      refine iff_of_true ?_ trivial
      intro client mem isOpen subscribed
      have told : Told p s client.1 := current client mem isOpen subscribed
      have tracked := LiveTallyService.tallies_trackPolicy keccak256 s.world.service p policyId
      split at tracked
      · -- a policy that is tracked only now has an empty snapshot
        rename_i fresh
        obtain ⟨rfl, missing⟩ := fresh
        rcases told with same | ⟨silent, empty⟩
        · exact Or.inr ⟨same.trans missing, tracked⟩
        · cases missing.symm.trans empty
      · exact told.congr rfl tracked
  | silent other same =>
      refine iff_of_true ?_ (by cases ‹LiveTallyService.Occurrence› <;> simp_all [Unnoticed])
      intro client mem isOpen subscribed
      exact (current client mem isOpen subscribed).congr rfl (congrFun same p)
  | counted other nonempty stored =>
      exact iff_of_true (current.broadcast stored)
        (by cases ‹LiveTallyService.Occurrence› <;> simp_all [Unnoticed])

/-- **The clients are informed as long as no replay goes unnoticed.**  In every run of
the server, every open connection that has subscribed to `p` has at all times been
told the snapshot of `p`, or nothing of it while that is empty, exactly when each
`start` that changes it finds no such connection. -/
theorem current_iff_unnoticed (ι : Type) [DecidableEq ι] (format : NumberFormat)
    (keccak256 : Bytes → Bytes32) (p : String) (os : List (FeedOccurrence ι)) :
    (∀ done rest, os = done ++ rest →
        Current p ((feedMachine ι format keccak256).run (.fresh ι) done)) ↔
      (feedMachine ι format keccak256).Along (Unnoticed p) (.fresh ι) os := by
  have unused : Current p (.fresh ι) := by
    intro client mem
    cases mem
  refine Iff.trans (Machine.forall_run_iff_along (M := feedMachine ι format keccak256)
    (V := fun _ _ => True) (C := Unnoticed p) (I := fun s => Grounded p s ∧ Listed s)
    (G := Current p) ⟨?_, ?_⟩ ?_ ?_ os
    (Machine.along_of_forall_mem (P := fun _ => True) (fun _ _ => trivial) _))
    (and_iff_right unused)
  · intro ws m tally mem
    cases mem
  · intro client mem
    cases mem
  · rintro s o ⟨grounded, listed⟩ - current
    by_cases success : (feedMachine ι format keccak256).Succeeds s o
    · obtain ⟨⟨s', new⟩, outcome⟩ := success
      obtain ⟨running, done⟩ := FeedStep.of_call outcome
      rw [Machine.next_of_ok outcome]
      exact current.step_iff grounded listed running done
    · rw [Machine.next_of_not_succeeds success]
      refine iff_of_true current ?_
      cases o with
      | service o =>
          cases o with
          | start fromBlock =>
              intro running
              exact absurd ⟨_, by simp only [feedMachine, running]; rfl⟩ success
          | _ => trivial
      | _ => trivial
  · rintro s o ⟨grounded, listed⟩ - -
    by_cases success : (feedMachine ι format keccak256).Succeeds s o
    · obtain ⟨⟨s', new⟩, outcome⟩ := success
      obtain ⟨-, done⟩ := FeedStep.of_call outcome
      rw [Machine.next_of_ok outcome]
      exact ⟨grounded.step done, listed.step done⟩
    · rw [Machine.next_of_not_succeeds success]
      exact ⟨grounded, listed⟩

end Currency

/-! ## The message that ends the process -/

/-- A connected client sends the JSON text `null`. -/
def NullMessage (format : NumberFormat) (s : Feed ι) : FeedOccurrence ι → Prop
  | .message ws raw =>
      s.crashed = false ∧ (s.subscriptions.lookup ws).isSome ∧ parse format raw = some .null
  | _ => False

theorem call_of_nullMessage {o : FeedOccurrence ι} (null : NullMessage format s o) :
    (feedMachine ι format keccak256).call s o = .ok ({ s with crashed := true }, []) := by
  cases o with
  | message ws raw =>
      obtain ⟨running, listed, read⟩ := null
      obtain ⟨subs, found⟩ := Option.isSome_iff_exists.mp listed
      have thrown : handle format s.world.service subs raw = none := handle_eq_none_iff.mpr read
      simp only [feedMachine, running, found, thrown, Bool.false_eq_true, if_false]
  | _ => cases null

/-- A step ends the process exactly when it is such a message. -/
theorem crashed_step_iff {o : FeedOccurrence ι} {new : List Empty}
    (done : (feedMachine ι format keccak256).call s o = .ok (s', new)) :
    s'.crashed = true ↔ s.crashed = true ∨ NullMessage format s o := by
  obtain ⟨running, step⟩ := FeedStep.of_call done
  by_cases null : NullMessage format s o
  · obtain ⟨rfl, -⟩ := Prod.mk.inj (Except.ok.inj ((call_of_nullMessage null).symm.trans done))
    exact iff_of_true rfl (Or.inr null)
  · refine iff_of_false ?_ (by rw [running]; simpa using null)
    cases step with
    | crash read =>
        -- the socket of a message that was handled is in the map
        rename_i ws raw
        cases found : s.subscriptions.lookup ws with
        | none =>
            simp only [feedMachine, running, found, Bool.false_eq_true, if_false] at done
            cases done
        | some subs => exact absurd ⟨running, by rw [found]; rfl, read⟩ null
    | message found handled =>
        unfold Feed.send
        split <;> simp [Feed.setSubscriptions, running]
    | _ => simp [Feed.broadcast, running]

/-- **One message stops the server.**  After a run of the server the process has ended
exactly when some connected client has sent the JSON text `null`, whatever else
was sent. -/
theorem crashed_iff_null_message (ι : Type) [DecidableEq ι] (format : NumberFormat)
    (keccak256 : Bytes → Bytes32) (os : List (FeedOccurrence ι)) :
    ((feedMachine ι format keccak256).run (.fresh ι) os).crashed = true ↔
      (feedMachine ι format keccak256).Sometime (NullMessage format) (.fresh ι) os := by
  refine Machine.run_iff_sometime (I := fun s : Feed ι => s.crashed = true)
    (by simp [Feed.fresh]) ?_ ?_ os
  · intro s o null
    exact ⟨_, call_of_nullMessage null⟩
  · intro s o s' new done
    exact crashed_step_iff done

end TheVoteApp.WSBroadcaster
