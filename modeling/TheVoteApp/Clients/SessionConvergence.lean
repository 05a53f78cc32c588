import TheVoteApp.Clients.LiveTallySession

/-!
# What a session of the Android app comes to

Two things the client and the server agree on once nothing is on its way between
them.

* The subscriptions (`subscriptions_settle`).  Every policy of a connected client is
  subscribed to at the server, in every run.  That the server has no others needs
  orderly callbacks: a policy cancelled while a stray callback has the client take
  itself for disconnected stays subscribed.
* The tallies (`session_converges`).  In an orderly run the last update of a policy that
  the app has emitted is the snapshot of the live service.
-/

namespace TheVoteApp

open JavaScript TallyService WSBroadcaster Foundations LiveTallyClient

variable {κ : Type} [DecidableEq κ]

/-! ## Subscriptions -/

section Subscriptions

variable {format : NumberFormat} {keccak256 : Solidity.Bytes → Solidity.Bytes32}
variable {reader : IntegerReader format} {writer : RequestWriter format} {s s' : Session κ}

/-- The served step leaves what settles on a socket. -/
theorem settled_of_served {o : FeedOccurrence (ℕ ⊕ κ)} {feed : Feed (ℕ ⊕ κ)}
    (served : FeedStep format keccak256 s.feed o feed) {ws : ℕ}
    (quiet : ∀ raw, o ≠ .message (.inl ws) raw) (alive : feed.status (.inl ws) ≠ .closed) :
    ({ s with feed } : Session κ).settled ws = s.settled ws := by
  have kept : feed.subscriptionsOf (.inl ws) = s.feed.subscriptionsOf (.inl ws) := by
    rcases served.subscriptionsOf_eq quiet with same | ⟨-, closed⟩
    · exact same
    · exact absurd closed alive
  rw [Session.settled, Session.settled]
  dsimp only
  rw [kept]

/-- Reading a request settles it. -/
theorem settled_of_receive {ws ws' : ℕ} {request : Request} {rest : List Request}
    {feed : Feed (ℕ ⊕ κ)} (next : s.toServer ws' = request :: rest)
    (served : FeedStep format keccak256 s.feed (.message (.inl ws') (request.text writer)) feed)
    (alive : feed.status (.inl ws) ≠ .closed) :
    ({ s with toServer := Function.update s.toServer ws' rest, feed } : Session κ).settled ws =
      s.settled ws := by
  by_cases same : ws = ws'
  · subst same
    obtain ⟨replies, handled⟩ := handle_request writer s.feed.world.service
      (s.feed.subscriptionsOf (.inl ws)) request
    rw [Session.settled, Session.settled, next]
    dsimp only
    rw [served.subscriptionsOf_message handled, Function.update_self, List.foldl_cons]
  · have quiet : ∀ raw, FeedOccurrence.message (ι := ℕ ⊕ κ) (.inl ws') (request.text writer) ≠
        .message (.inl ws) raw := by
      rintro raw ⟨⟩
      exact same rfl
    have kept := settled_of_served (s := s) served quiet alive
    rw [← kept, Session.settled, Session.settled]
    dsimp only
    rw [Function.update_of_ne same]

omit [DecidableEq κ] in
theorem quiet_of_foreign {o : FeedOccurrence (ℕ ⊕ κ)} (foreign : Foreign o = true) (ws : ℕ)
    (raw : Text) : o ≠ .message (.inl ws) raw := by
  rintro rfl
  cases foreign

/-- **No subscription is lost.**  While the client is connected, the server has or will
have read all its policies on the socket the client holds. -/
def Covered (s : Session κ) : Prop :=
  s.client.state = .connected → ∀ ws, s.client.webSocket = some ws →
    s.feed.status (.inl ws) ≠ .closed →
      ∀ p ∈ s.client.subscribedPolicies, p ≠ "" → utf16 p ∈ s.settled ws

theorem Covered.step {move : SessionMove κ} (covered : Covered s)
    (done : SessionStep keccak256 reader writer s move s') : Covered s' := by
  intro connected ws held alive p subscribed nonempty
  cases done with
  | connect idle => cases connected
  | busy => exact covered connected ws held alive p subscribed nonempty
  | disconnect => cases connected
  | onClosing => cases connected
  | onMessage opened next => exact covered connected ws held alive p subscribed nonempty
  | emit => exact covered connected ws held alive p subscribed nonempty
  | accept running served =>
      have before := covered connected ws held (served.status_of_closed alive) p subscribed nonempty
      rwa [settled_of_served served (by rintro raw ⟨⟩) alive]
  | receive next running served =>
      have before := covered connected ws held (served.status_of_closed alive) p subscribed nonempty
      rwa [settled_of_receive next served alive]
  | server foreign running served =>
      have before := covered connected ws held (served.status_of_closed alive) p subscribed nonempty
      rwa [settled_of_served served (quiet_of_foreign foreign ws) alive]
  | onOpen made first =>
      -- all policies are subscribed to again, whatever was on the wire before
      have held : s.client.webSocket = some ws := held
      exact (Session.mem_settled_onOpen held).mpr (Or.inr ⟨p, subscribed, nonempty, rfl⟩)
  | subscribe policyId =>
      have connected : s.client.state = .connected := connected
      have held : s.client.webSocket = some ws := held
      rw [Session.mem_settled_subscribe connected held]
      rcases mem_subscribe.mp subscribed with earlier | now
      · exact Or.inl (covered connected ws held alive p earlier nonempty)
      · subst now
        exact Or.inr ⟨nonempty, rfl⟩
  | unsubscribe policyId =>
      have connected : s.client.state = .connected := connected
      have held : s.client.webSocket = some ws := held
      obtain ⟨earlier, other⟩ := mem_unsubscribe.mp subscribed
      rw [Session.mem_settled_unsubscribe connected held]
      exact ⟨covered connected ws held alive p earlier nonempty,
        Or.inr fun same => other (utf16_injective same)⟩

/-! ### Orderly runs -/

/-- Callbacks come from the socket the client holds, and updates are emitted in the
order they came. -/
def Orderly (s : Session κ) : SessionMove κ → Prop
  | .onOpen ws | .onMessage ws | .onClosing ws => s.client.webSocket = some ws
  | .emit i => i = 0
  | _ => True

instance decidableOrderly (s : Session κ) : ∀ move, Decidable (Orderly s move)
  | .onOpen ws | .onMessage ws | .onClosing ws =>
      inferInstanceAs (Decidable (s.client.webSocket = some ws))
  | .emit i => inferInstanceAs (Decidable (i = 0))
  | .connect | .disconnect | .subscribe _ | .unsubscribe _ | .accept _ | .receive _ | .server _ =>
      isTrue trivial

/-- The sockets of an orderly run: a connected client holds an open one, nothing is sent
on a socket before it opens, and the server is subscribed to the client's policies. -/
structure Exact (s : Session κ) : Prop where
  held : s.client.state = .connected →
    ∃ ws, s.client.webSocket = some ws ∧ s.opened ws = true
  unopened : ∀ ws, s.opened ws = false →
    s.toServer ws = [] ∧ s.feed.subscriptionsOf (.inl ws) = []
  settled : s.client.state = .connected → ∀ ws, s.client.webSocket = some ws →
    s.feed.status (.inl ws) ≠ .closed → ∀ text ∈ s.settled ws,
      ∃ p ∈ s.client.subscribedPolicies, p ≠ "" ∧ text = utf16 p

theorem exact_fresh : Exact (.fresh κ) where
  held connected := by cases connected
  unopened _ _ := ⟨rfl, rfl⟩
  settled connected := by cases connected

/-- A served step keeps unopened sockets unused. -/
theorem Exact.unopened_served (exact : Exact s) {o : FeedOccurrence (ℕ ⊕ κ)}
    {feed : Feed (ℕ ⊕ κ)} (served : FeedStep format keccak256 s.feed o feed) {ws : ℕ}
    (quiet : ∀ raw, o ≠ .message (.inl ws) raw) (closed : s.opened ws = false) :
    s.toServer ws = [] ∧ feed.subscriptionsOf (.inl ws) = [] := by
  obtain ⟨empty, none⟩ := exact.unopened ws closed
  refine ⟨empty, ?_⟩
  rcases served.subscriptionsOf_eq quiet with same | ⟨gone, -⟩
  · exact same.trans none
  · exact gone

theorem Exact.step {move : SessionMove κ} (exact : Exact s) (orderly : Orderly s move)
    (done : SessionStep keccak256 reader writer s move s') : Exact s' := by
  cases done with
  | connect idle =>
      exact ⟨fun connected => (by cases connected), exact.unopened,
        fun connected => (by cases connected)⟩
  | busy => exact exact
  | disconnect =>
      exact ⟨fun connected => (by cases connected), exact.unopened,
        fun connected => (by cases connected)⟩
  | onClosing =>
      exact ⟨fun connected => (by cases connected), exact.unopened,
        fun connected => (by cases connected)⟩
  | onMessage opened next => exact ⟨exact.held, exact.unopened, exact.settled⟩
  | emit => exact ⟨exact.held, exact.unopened, exact.settled⟩
  | accept running served =>
      refine ⟨exact.held, fun ws closed => exact.unopened_served served (by rintro raw ⟨⟩) closed,
        ?_⟩
      intro connected ws held alive
      rw [settled_of_served served (by rintro raw ⟨⟩) alive]
      exact exact.settled connected ws held (served.status_of_closed alive)
  | receive next running served =>
      rename_i ws' request rest feed
      refine ⟨exact.held, ?_, ?_⟩
      · intro ws closed
        have other : ws ≠ ws' := by
          rintro rfl
          rw [(exact.unopened ws closed).1] at next
          cases next
        obtain ⟨empty, none⟩ := exact.unopened_served served
          (by rintro raw ⟨⟩; exact other rfl) closed
        refine ⟨?_, none⟩
        exact (Function.update_of_ne other _ _).trans empty
      · intro connected ws held alive
        rw [settled_of_receive next served alive]
        exact exact.settled connected ws held (served.status_of_closed alive)
  | server foreign running served =>
      refine ⟨exact.held,
        fun ws closed => exact.unopened_served served (quiet_of_foreign foreign ws) closed, ?_⟩
      intro connected ws held alive
      rw [settled_of_served served (quiet_of_foreign foreign ws) alive]
      exact exact.settled connected ws held (served.status_of_closed alive)
  | onOpen made first =>
      rename_i ws'
      have holds : s.client.webSocket = some ws' := orderly
      refine ⟨fun _ => ⟨ws', holds, Function.update_self ..⟩, ?_, ?_⟩
      · intro ws closed
        have other : ws ≠ ws' := by
          rintro rfl
          simp at closed
        have closed' : s.opened ws = false := by simpa [other] using closed
        refine ⟨?_, (exact.unopened ws closed').2⟩
        have queue := s.toServer_onOpen ws
        rw [if_neg (by rw [holds]; simpa using Ne.symm other)] at queue
        exact queue.trans (exact.unopened ws closed').1
      · intro connected ws held alive text mem
        have held : s.client.webSocket = some ws := held
        obtain rfl : ws' = ws := Option.some.inj (holds.symm.trans held)
        rcases (Session.mem_settled_onOpen held).mp mem with before | now
        · -- nothing was settled on the socket before it opened
          obtain ⟨empty, none⟩ := exact.unopened ws' first
          rw [Session.settled, empty, none] at before
          cases before
        · exact now
  | subscribe policyId =>
      refine ⟨exact.held, ?_, ?_⟩
      · intro ws closed
        obtain ⟨empty, none⟩ := exact.unopened ws closed
        refine ⟨?_, none⟩
        rw [Session.toServer_subscribe, if_neg ?_]
        · exact empty
        · rintro ⟨connected, held⟩
          obtain ⟨ws', held', opened⟩ := exact.held connected
          obtain rfl : ws = ws' := Option.some.inj (held.symm.trans held')
          exact absurd (closed.symm.trans opened) (by simp)
      · intro connected ws held alive text mem
        have connected : s.client.state = .connected := connected
        have held : s.client.webSocket = some ws := held
        rcases (Session.mem_settled_subscribe connected held).mp mem with earlier | now
        · obtain ⟨p, subscribed, rest⟩ := exact.settled connected ws held alive text earlier
          exact ⟨p, mem_subscribe.mpr (Or.inl subscribed), rest⟩
        · exact ⟨policyId, mem_subscribe.mpr (Or.inr rfl), now⟩
  | unsubscribe policyId =>
      refine ⟨exact.held, ?_, ?_⟩
      · intro ws closed
        obtain ⟨empty, none⟩ := exact.unopened ws closed
        refine ⟨?_, none⟩
        rw [Session.toServer_unsubscribe, if_neg ?_]
        · exact empty
        · rintro ⟨connected, held⟩
          obtain ⟨ws', held', opened⟩ := exact.held connected
          obtain rfl : ws = ws' := Option.some.inj (held.symm.trans held')
          exact absurd (closed.symm.trans opened) (by simp)
      · intro connected ws held alive text mem
        have connected : s.client.state = .connected := connected
        have held : s.client.webSocket = some ws := held
        obtain ⟨earlier, other⟩ := (Session.mem_settled_unsubscribe connected held).mp mem
        obtain ⟨p, subscribed, nonempty, rfl⟩ :=
          exact.settled connected ws held alive text earlier
        refine ⟨p, mem_unsubscribe.mpr ⟨subscribed, ?_⟩, nonempty, rfl⟩
        rintro rfl
        rcases other with empty | apart
        · exact nonempty empty
        · exact apart rfl

/-- **The subscriptions of a session.**  When a connected client holds a socket that the
server has not closed, and no request is on its way, the server has all policies of
the client among its subscriptions; after an orderly run it has no others. -/
theorem subscriptions_settle (κ : Type) [DecidableEq κ] {format : NumberFormat}
    (keccak256 : Solidity.Bytes → Solidity.Bytes32) (reader : IntegerReader format)
    (writer : RequestWriter format) (moves : List (SessionMove κ)) :
    let machine := sessionMachine κ keccak256 reader writer
    let s := machine.run (.fresh κ) moves
    s.client.state = .connected → ∀ ws, s.client.webSocket = some ws →
      s.feed.status (.inl ws) ≠ .closed → s.toServer ws = [] →
        (∀ p ∈ s.client.subscribedPolicies, p ≠ "" →
          utf16 p ∈ s.feed.subscriptionsOf (.inl ws)) ∧
        (machine.Along Orderly (.fresh κ) moves →
          ∀ text ∈ s.feed.subscriptionsOf (.inl ws),
            ∃ p ∈ s.client.subscribedPolicies, p ≠ "" ∧ text = utf16 p) := by
  intro machine s connected ws held alive quiet
  have settled : s.settled ws = s.feed.subscriptionsOf (.inl ws) := by
    rw [Session.settled, quiet, List.foldl_nil]
  rw [← settled]
  refine ⟨?_, ?_⟩
  · refine Machine.run_invariant (M := machine) (I := Covered) ?_ ?_ moves connected ws held alive
    · intro idle
      cases idle
    · intro s move s' new covered done
      exact covered.step (SessionStep.of_call done)
  · intro orderly
    refine (Machine.run_invariant_along (M := machine) (P := Orderly) (I := Exact) exact_fresh ?_
      moves orderly).settled connected ws held alive
    intro s move s' new exact met done
    exact exact.step met (SessionStep.of_call done)

end Subscriptions

/-! ## Tallies -/

section Tallies

variable {format : NumberFormat} {keccak256 : Solidity.Bytes → Solidity.Bytes32}
variable {reader : IntegerReader format} {writer : RequestWriter format} {s s' : Session κ}
variable {p : String}

/-- The tally of the policy `p`, if the update is about it. -/
def aboutPolicy (p : String) (update : TallyUpdate) : Option PolicyTallyDTO :=
  if update.policyId = utf16 p then some update.tally else none

/-- The last tally of the policy among the updates. -/
def lastUpdate (p : String) (updates : List TallyUpdate) : Option PolicyTallyDTO :=
  (updates.filterMap (aboutPolicy p)).getLast?

/-- The numbers of all messages on the sockets of the client are small enough. -/
def AllFit (s : Session κ) : Prop :=
  ∀ ws < s.made, ∀ m ∈ s.feed.sent (.inl ws), MessageFits kotlinInt m

/-- The client hands on what the server meant. -/
theorem accept_text {m : ServerMessage} (fits : MessageFits kotlinInt m) :
    accept reader kotlinInt (m.text format) = updateOf m := by
  rw [accept, decode_text fits]
  cases m <;> simp [updateOf]

theorem bind_aboutPolicy (m : ServerMessage) :
    (updateOf m).bind (aboutPolicy p) = (m.about p).map toDTO := by
  cases m with
  | error message => rfl
  | pong => rfl
  | snapshot policyId counts =>
      by_cases same : policyId = utf16 p <;> simp [updateOf, aboutPolicy, ServerMessage.about, same]
  | tally update =>
      have named : utf16 update.policyId = utf16 p ↔ update.policyId = p :=
        ⟨fun same => utf16_injective same, fun same => by rw [same]⟩
      by_cases same : update.policyId = p <;>
        simp [updateOf, aboutPolicy, ServerMessage.about, named, same]

theorem filterMap_updateOf (m : ServerMessage) :
    (updateOf m).toList.filterMap (aboutPolicy p) = ((m.about p).map toDTO).toList := by
  rw [← bind_aboutPolicy]
  cases updateOf m with
  | none => rfl
  | some update => cases found : aboutPolicy p update <;> simp [found]

/-- What the client has of the policy: every tally was sent, and the last one is the
last it has read on the socket it holds. -/
structure Seen (p : String) (s : Session κ) : Prop where
  bound : ∀ ws, s.read ws ≤ (s.feed.sent (.inl ws)).length
  unmade : ∀ ws, s.made ≤ ws → s.read ws = 0 ∧ s.opened ws = false
  origin : AllFit s → ∀ update ∈ s.client.updates ++ s.client.launched, ∀ dto,
    aboutPolicy p update = some dto →
      ∃ ws, ∃ m ∈ s.feed.sent (.inl ws), ∃ tally, m.about p = some tally ∧ dto = toDTO tally
  latest : AllFit s → ∀ ws, s.client.webSocket = some ws → ∀ tally,
    shown p ((s.feed.sent (.inl ws)).take (s.read ws)) = some tally →
      lastUpdate p (s.client.updates ++ s.client.launched) = some (toDTO tally)

omit [DecidableEq κ] in
theorem seen_fresh : Seen p (.fresh κ) where
  bound _ := Nat.zero_le _
  unmade _ _ := ⟨rfl, rfl⟩
  origin _ update mem := by cases mem
  latest _ ws held := by cases held

omit [DecidableEq κ] in
/-- The server may send more at any time. -/
theorem Seen.served {feed : Feed (ℕ ⊕ κ)} (seen : Seen p s)
    (sent : ∀ ws, ∃ new, feed.sent ws = s.feed.sent ws ++ new) :
    Seen p { s with feed } := by
  have fits : AllFit { s with feed } → AllFit s := by
    intro all ws made m mem
    obtain ⟨new, more⟩ := sent (.inl ws)
    exact all ws made m (by rw [more]; exact List.mem_append_left _ mem)
  refine ⟨?_, seen.unmade, ?_, ?_⟩
  · intro ws
    obtain ⟨new, more⟩ := sent (.inl ws)
    dsimp only
    rw [more, List.length_append]
    exact (seen.bound ws).trans (Nat.le_add_right _ _)
  · intro all update mem dto named
    obtain ⟨ws, m, memSent, rest⟩ := seen.origin (fits all) update mem dto named
    obtain ⟨new, more⟩ := sent (.inl ws)
    exact ⟨ws, m, by dsimp only; rw [more]; exact List.mem_append_left _ memSent, rest⟩
  · intro all ws held tally last
    obtain ⟨new, more⟩ := sent (.inl ws)
    dsimp only at last
    rw [more, List.take_append_of_le_length (seen.bound ws)] at last
    exact seen.latest (fits all) ws held tally last

omit [DecidableEq κ] in
/-- Reading a message. -/
theorem Seen.onMessage {ws : ℕ} {m : ServerMessage} (seen : Seen p s)
    (opened : s.opened ws = true) (holds : s.client.webSocket = some ws)
    (next : (s.feed.sent (.inl ws))[s.read ws]? = some m) :
    Seen p { s with
      client := s.client.onMessage reader (m.text format)
      read := Function.update s.read ws (s.read ws + 1) } := by
  obtain ⟨inside, found⟩ := List.getElem?_eq_some_iff.mp next
  have mem : m ∈ s.feed.sent (.inl ws) := found ▸ List.getElem_mem inside
  have made : ws < s.made := by
    by_contra large
    exact absurd (opened.symm.trans (seen.unmade ws (Nat.not_lt.mp large)).2) (by simp)
  refine ⟨?_, ?_, ?_, ?_⟩
  · intro ws'
    by_cases same : ws' = ws
    · subst same
      simpa using inside
    · simpa [same] using seen.bound ws'
  · intro ws' large
    have other : ws' ≠ ws := by
      rintro rfl
      exact absurd (opened.symm.trans (seen.unmade ws' large).2) (by simp)
    simpa [other] using seen.unmade ws' large
  · intro all update memUpdate dto named
    have fits : MessageFits kotlinInt m := all ws made m mem
    dsimp only [LiveTallyClient.onMessage] at memUpdate
    rw [accept_text fits, ← List.append_assoc] at memUpdate
    rcases List.mem_append.mp memUpdate with earlier | now
    · exact seen.origin all update earlier dto named
    · have meant := bind_aboutPolicy (p := p) m
      rw [Option.mem_toList.mp now, Option.bind_some, named] at meant
      obtain ⟨tally, carried, same⟩ := Option.map_eq_some_iff.mp meant.symm
      exact ⟨ws, m, mem, tally, carried, same.symm⟩
  · intro all ws' held tally last
    obtain rfl : ws = ws' := Option.some.inj (holds.symm.trans held)
    have fits : MessageFits kotlinInt m := all ws made m mem
    dsimp only [LiveTallyClient.onMessage] at last ⊢
    rw [Function.update_self, List.take_add_one, next, Option.toList_some] at last
    rw [accept_text fits, ← List.append_assoc, lastUpdate, List.filterMap_append,
      filterMap_updateOf, List.getLast?_append]
    cases carried : m.about p with
    | none =>
        rw [shown_append_of_silent (by simpa using carried)] at last
        exact seen.latest all ws holds tally last
    | some tally' =>
        rw [shown_append_copies (by simp) (by simpa using carried)] at last
        obtain rfl := Option.some.inj last
        rfl

theorem Seen.step {move : SessionMove κ} (seen : Seen p s) (orderly : Orderly s move)
    (done : SessionStep keccak256 reader writer s move s') : Seen p s' := by
  cases done with
  | connect idle =>
      refine ⟨seen.bound, fun ws large => seen.unmade ws (by dsimp only at large; omega),
        fun all => seen.origin fun ws made => all ws (Nat.lt_succ_of_lt made), ?_⟩
      -- nothing has been read on a new socket
      intro all ws held tally last
      obtain rfl : s.made = ws := Option.some.inj held
      dsimp only at last
      rw [(seen.unmade s.made le_rfl).1] at last
      cases last
  | busy => exact seen
  | disconnect =>
      exact ⟨seen.bound, seen.unmade, seen.origin, fun all ws held => (by cases held)⟩
  | onClosing => exact ⟨seen.bound, seen.unmade, seen.origin, seen.latest⟩
  | subscribe policyId => exact ⟨seen.bound, seen.unmade, seen.origin, seen.latest⟩
  | unsubscribe policyId => exact ⟨seen.bound, seen.unmade, seen.origin, seen.latest⟩
  | onOpen made first =>
      rename_i ws'
      refine ⟨seen.bound, ?_, seen.origin, seen.latest⟩
      intro ws large
      have other : ws ≠ ws' := by
        rintro rfl
        exact absurd large (Nat.not_le.mpr made)
      obtain ⟨unread, closed⟩ := seen.unmade ws large
      exact ⟨unread, (Function.update_of_ne other _ _).trans closed⟩
  | emit =>
      obtain rfl : _ = 0 := orderly
      have same : (s.client.emit 0).updates ++ (s.client.emit 0).launched =
          s.client.updates ++ s.client.launched := by
        simp only [LiveTallyClient.emit]
        cases s.client.launched with
        | nil => simp
        | cons update launched => simp
      refine ⟨seen.bound, seen.unmade, ?_, ?_⟩
      · dsimp only
        rw [same]
        exact seen.origin
      · dsimp only
        rw [same]
        exact seen.latest
  | onMessage opened next => exact seen.onMessage opened orderly next
  | accept running served => exact seen.served served.exists_sent
  | receive next running served =>
      have sent := seen.served served.exists_sent
      exact ⟨sent.bound, sent.unmade, sent.origin, sent.latest⟩
  | server foreign running served => exact seen.served served.exists_sent

/-! ### What the client has been told -/

/-- The orderly moves in which no replay changes the snapshot of `p` unnoticed. -/
def Noticed (p : String) (s : Session κ) (move : SessionMove κ) : Prop :=
  Orderly s move ∧ ∀ o, move = .server o → Unnoticed p s.feed o

/-- A step leaves the server alone or is one of its steps. -/
theorem SessionStep.feed_cases {move : SessionMove κ}
    (done : SessionStep keccak256 reader writer s move s') :
    s'.feed = s.feed ∨ ∃ o, s.feed.crashed = false ∧ FeedStep format keccak256 s.feed o s'.feed ∧
      (move = .server o ∨ Unnoticed p s.feed o) := by
  cases done with
  | accept running served => exact Or.inr ⟨_, running, served, Or.inr trivial⟩
  | receive next running served => exact Or.inr ⟨_, running, served, Or.inr trivial⟩
  | server foreign running served => exact Or.inr ⟨_, running, served, Or.inl rfl⟩
  | _ => exact Or.inl rfl

/-- What holds all along of the policy `p`. -/
structure Informed (p : String) (s : Session κ) : Prop where
  covered : Covered s
  seen : Seen p s
  grounded : Grounded p s.feed
  listed : Listed s.feed
  current : Current p s.feed

theorem informed_fresh : Informed p (.fresh κ) where
  covered connected := by cases connected
  seen := seen_fresh
  grounded _ _ _ mem := by cases mem
  listed _ mem := by cases mem
  current _ mem := by cases mem

theorem Informed.step {move : SessionMove κ} (informed : Informed p s)
    (noticed : Noticed p s move) (done : SessionStep keccak256 reader writer s move s') :
    Informed p s' := by
  have covered : Covered s' := informed.covered.step done
  have seen : Seen p s' := informed.seen.step noticed.1 done
  rcases done.feed_cases (p := p) with same | ⟨o, running, served, met⟩
  · exact ⟨covered, seen, same ▸ informed.grounded, same ▸ informed.listed,
      same ▸ informed.current⟩
  · have unnoticed : Unnoticed p s.feed o := met.elim (noticed.2 o) id
    exact ⟨covered, seen, informed.grounded.step served, informed.listed.step served,
      (informed.current.step_iff informed.grounded informed.listed running served).mpr unnoticed⟩

/-- The client is connected over the open socket `ws`, and nothing is on its way. -/
structure Quiet (s : Session κ) (ws : ℕ) : Prop where
  connected : s.client.state = .connected
  held : s.client.webSocket = some ws
  isOpen : s.feed.status (.inl ws) = .open
  received : s.toServer ws = []
  delivered : s.read ws = (s.feed.sent (.inl ws)).length
  emitted : s.client.launched = []

omit [DecidableEq κ] in
theorem quiet_iff {s : Session κ} {ws : ℕ} : Quiet s ws ↔
    s.client.state = .connected ∧ s.client.webSocket = some ws ∧ s.feed.status (.inl ws) = .open ∧
      s.toServer ws = [] ∧ s.read ws = (s.feed.sent (.inl ws)).length ∧ s.client.launched = [] :=
  ⟨fun ⟨connected, held, isOpen, received, delivered, emitted⟩ =>
      ⟨connected, held, isOpen, received, delivered, emitted⟩,
    fun ⟨connected, held, isOpen, received, delivered, emitted⟩ =>
      ⟨connected, held, isOpen, received, delivered, emitted⟩⟩

instance decidableQuiet (s : Session κ) (ws : ℕ) : Decidable (Quiet s ws) :=
  decidable_of_iff' _ quiet_iff

/-- Every tally of the policy that the app has emitted is at most as recent as the
snapshot. -/
theorem Informed.grows_of_emitted (informed : Informed p s) (fits : AllFit s)
    {update : TallyUpdate} (mem : update ∈ s.client.updates) {dto : PolicyTallyDTO}
    (named : aboutPolicy p update = some dto) :
    ∃ tally, dto = toDTO tally ∧ Grows p (some tally) (s.feed.snapshot p) := by
  obtain ⟨ws, m, sent, tally, carried, rfl⟩ :=
    informed.seen.origin fits update (List.mem_append_left _ mem) dto named
  exact ⟨tally, rfl, informed.grounded (.inl ws) m tally sent carried⟩

theorem Informed.lastUpdate_eq (informed : Informed p s) {ws : ℕ} (quiet : Quiet s ws)
    (fits : AllFit s) (subscribed : p ∈ s.client.subscribedPolicies) (nonempty : p ≠ "") :
    lastUpdate p s.client.updates = (s.feed.snapshot p).map toDTO ∨
      lastUpdate p s.client.updates = none ∧ s.feed.snapshot p = some (.empty p) := by
  -- the server knows of the subscription, so the socket has been told the snapshot
  have known : utf16 p ∈ s.feed.subscriptionsOf (.inl ws) := by
    have settled := informed.covered quiet.connected ws quiet.held
      (by rw [quiet.isOpen]; exact SocketStatus.noConfusion) p subscribed nonempty
    rwa [Session.settled, quiet.received, List.foldl_nil] at settled
  obtain ⟨subs, entry, inside⟩ := Feed.exists_of_mem_subscriptionsOf known
  have told : Told p s.feed (.inl ws) :=
    informed.current (.inl ws, subs) entry quiet.isOpen inside
  have latest := informed.seen.latest fits ws quiet.held
  rw [quiet.delivered, List.take_length, quiet.emitted, List.append_nil] at latest
  have emitted : ∀ dto, lastUpdate p s.client.updates = some dto →
      ∃ tally, dto = toDTO tally ∧ Grows p (some tally) (s.feed.snapshot p) := by
    intro dto last
    obtain ⟨update, mem, named⟩ := List.mem_filterMap.mp (List.mem_of_getLast? last)
    exact informed.grows_of_emitted fits mem named
  rcases told with same | ⟨silent, empty⟩
  · left
    rw [← same]
    cases last : shown p (s.feed.sent (.inl ws)) with
    | some tally => exact latest tally last
    | none =>
        -- an update that came over an earlier socket would have left a snapshot
        rw [Option.map_none, Option.eq_none_iff_forall_ne_some]
        intro dto emittedLast
        obtain ⟨tally, -, grows⟩ := emitted dto emittedLast
        obtain ⟨tally', stored, -⟩ := grows tally rfl
        cases (last.symm.trans same).trans stored
  · cases last : lastUpdate p s.client.updates with
    | none => exact Or.inr ⟨rfl, empty⟩
    | some dto =>
        left
        obtain ⟨tally, rfl, grows⟩ := emitted dto last
        obtain ⟨tally', stored, onlyEmpty⟩ := grows tally rfl
        obtain rfl := Option.some.inj (empty.symm.trans stored)
        rw [empty, onlyEmpty rfl, Option.map_some]

/-- **The tallies of a session.**  After an orderly run in which no replay goes
unnoticed, a connected client with nothing on its way, all of whose messages it can
read, has emitted the snapshot of the live service last, for every policy it is
subscribed to; only an empty snapshot may never have reached it. -/
theorem session_converges (κ : Type) [DecidableEq κ] {format : NumberFormat}
    (keccak256 : Solidity.Bytes → Solidity.Bytes32) (reader : IntegerReader format)
    (writer : RequestWriter format) (p : String) (moves : List (SessionMove κ)) :
    let machine := sessionMachine κ keccak256 reader writer
    let s := machine.run (.fresh κ) moves
    machine.Along (Noticed p) (.fresh κ) moves → ∀ ws, Quiet s ws → AllFit s →
      p ∈ s.client.subscribedPolicies → p ≠ "" →
        lastUpdate p s.client.updates = (s.feed.snapshot p).map toDTO ∨
          lastUpdate p s.client.updates = none ∧ s.feed.snapshot p = some (.empty p) := by
  intro machine s noticed ws quiet fits subscribed nonempty
  have informed : Informed p s := by
    refine Machine.run_invariant_along (M := machine) (P := Noticed p) (I := Informed p)
      informed_fresh ?_ moves noticed
    intro s move s' new informed met done
    exact informed.step met (SessionStep.of_call done)
  exact informed.lastUpdate_eq quiet fits subscribed nonempty

end Tallies

/-! ## One subscription -/

/-- `JSON.stringify` writes requests. -/
def sampleWriter : RequestWriter .naturals where
  toJson type policyId := stringify .naturals 0 (.object [(utf16 "type", .string (utf16 type)),
    (utf16 "policyId", .string (utf16 policyId))])
  parse_toJson type policyId := by
    let members : List (Text × Value NumberFormat.naturals.Number) :=
      [(utf16 "type", .string (utf16 type)), (utf16 "policyId", .string (utf16 policyId))]
    have distinct : (members.map Prod.fst).Nodup := by
      show [utf16 "type", utf16 "policyId"].Nodup
      decide +kernel
    have ordered : Value.Ordered (.object members) := by
      refine .object ?_ ?_
      · rw [inOrder_iff_keys]
        show [utf16 "type", utf16 "policyId"].Pairwise _
        decide +kernel
      · exact List.forall_mem_cons.mpr ⟨.string _, List.forall_mem_singleton.mpr (.string _)⟩
    refine ⟨_, parse_stringify .naturals 0 ordered, ?_, ?_⟩
    · exact get_of_mem distinct List.mem_cons_self
    · exact get_of_mem distinct (List.mem_cons_of_mem _ List.mem_cons_self)

/-- `keccak256` on the one policy of the session. -/
def policyHash (_ : Solidity.Bytes) : Solidity.Bytes32 :=
  0x4fa7b89b7d07c5a6a29e133d0cbf3f6eb034f379b8eb268122f14fd83f57aad0

/-- A vote for the policy in block 5. -/
def sampleVote : VoteCastArgs where
  policyIdHash := 0x4fa7b89b7d07c5a6a29e133d0cbf3f6eb034f379b8eb268122f14fd83f57aad0
  nullifier := 1
  optionId := "option-support"
  blockNumber := 5

/-- The app subscribes to a policy that the server tracks, and a vote is cast. -/
def sampleMoves : List (SessionMove Empty) :=
  [.server (.trackPolicy "healthcare-reform-2026"), .connect, .accept 0, .onOpen 0,
    .subscribe "healthcare-reform-2026", .receive 0, .onMessage 0, .emit 0,
    .server (.service (.start 0)), .server (.service (.voteCast sampleVote)), .onMessage 0, .emit 0]

/-- The session after these moves. -/
def sampleSession : Session Empty :=
  (sessionMachine Empty policyHash sampleReader sampleWriter).run (.fresh Empty)
    sampleMoves

theorem run_sample :
    (sessionMachine Empty policyHash sampleReader sampleWriter).run (.fresh Empty)
      sampleMoves = sampleSession := rfl

/-- The tally with the vote. -/
def sampleTally : PolicyTally :=
  { PolicyTally.empty "healthcare-reform-2026" with support := 1, total := 1, lastBlock := 5 }

/-- Nothing is on its way, and the app has been sent the snapshot and the update. -/
theorem reached_sample : Quiet sampleSession 0 ∧ sampleSession.made = 1 ∧
    sampleSession.client.subscribedPolicies = ["healthcare-reform-2026"] ∧
    sampleSession.feed.subscriptionsOf (.inl 0) = [utf16 "healthcare-reform-2026"] ∧
    sampleSession.feed.snapshot "healthcare-reform-2026" = some sampleTally ∧
    sampleSession.feed.sent (.inl 0) =
      [.snapshot (utf16 "healthcare-reform-2026") (.empty "healthcare-reform-2026"),
        .tally ⟨"healthcare-reform-2026", sampleTally, 5⟩] ∧
    lastUpdate "healthcare-reform-2026" sampleSession.client.updates ≠ none := by
  decide +kernel

theorem orderly_sample : (sessionMachine Empty policyHash sampleReader
    sampleWriter).Along Orderly (.fresh Empty) sampleMoves :=
  ⟨trivial, trivial, trivial, rfl, trivial, trivial, by decide +kernel, rfl, trivial, trivial,
    by decide +kernel, rfl, trivial⟩

theorem subscriptions_settle_sample :
    sampleSession.feed.subscriptionsOf (.inl 0) = [utf16 "healthcare-reform-2026"] ∧
      utf16 "healthcare-reform-2026" ∈ sampleSession.feed.subscriptionsOf (.inl 0) ∧
      ∀ text ∈ sampleSession.feed.subscriptionsOf (.inl 0),
        ∃ p ∈ sampleSession.client.subscribedPolicies, p ≠ "" ∧ text = utf16 p := by
  have settle := subscriptions_settle Empty policyHash sampleReader sampleWriter
    sampleMoves
  dsimp only at settle
  rw [run_sample] at settle
  obtain ⟨quiet, -, subscribed, subscriptions, -⟩ := reached_sample
  have alive : sampleSession.feed.status (.inl 0) ≠ .closed := by
    rw [quiet.isOpen]
    exact SocketStatus.noConfusion
  obtain ⟨known, others⟩ := settle quiet.connected 0 quiet.held alive quiet.received
  refine ⟨subscriptions, known "healthcare-reform-2026" ?_ (by decide), others orderly_sample⟩
  rw [subscribed]
  exact List.mem_singleton_self _

theorem session_converges_sample :
    lastUpdate "healthcare-reform-2026" sampleSession.client.updates =
      some (toDTO sampleTally) := by
  obtain ⟨quiet, only, subscribed, -, snapshot, sent, updated⟩ := reached_sample
  have fits : AllFit sampleSession := by
    intro ws made m mem
    obtain rfl : ws = 0 := by omega
    rw [sent] at mem
    simp only [List.mem_cons, List.not_mem_nil, or_false] at mem
    rcases mem with rfl | rfl
    · exact ⟨by decide, by decide, by decide, by decide, by decide⟩
    · exact ⟨⟨by decide, by decide, by decide, by decide, by decide⟩, by decide⟩
  have own : ∀ {s : Session Empty} {move : SessionMove Empty}, Orderly s move →
      (∀ o, move ≠ .server o) → Noticed "healthcare-reform-2026" s move :=
    fun orderly other => ⟨orderly, fun o same => absurd same (other o)⟩
  have started : ∀ s : Session Empty,
      Noticed "healthcare-reform-2026" s (.server (.service (.start 0))) := by
    refine fun s => ⟨trivial, ?_⟩
    rintro o ⟨⟩ - -
    rfl
  have noticed : (sessionMachine Empty policyHash sampleReader sampleWriter).Along
      (Noticed "healthcare-reform-2026") (.fresh Empty) sampleMoves := by
    obtain ⟨-, -, -, opened, -, -, first, -, -, -, second, -, -⟩ := orderly_sample
    exact ⟨⟨trivial, by rintro o ⟨⟩; trivial⟩, own trivial (by rintro o ⟨⟩),
      own trivial (by rintro o ⟨⟩), own opened (by rintro o ⟨⟩), own trivial (by rintro o ⟨⟩),
      own trivial (by rintro o ⟨⟩), own first (by rintro o ⟨⟩), own rfl (by rintro o ⟨⟩),
      started _, ⟨trivial, by rintro o ⟨⟩; trivial⟩, own second (by rintro o ⟨⟩),
      own rfl (by rintro o ⟨⟩), trivial⟩
  have converges := session_converges Empty policyHash sampleReader sampleWriter
    "healthcare-reform-2026" sampleMoves
  dsimp only at converges
  rw [run_sample] at converges
  have known : "healthcare-reform-2026" ∈ sampleSession.client.subscribedPolicies := by
    rw [subscribed]
    exact List.mem_singleton_self _
  rcases converges noticed 0 quiet fits known (by decide) with last | ⟨none, -⟩
  · rw [last, snapshot, Option.map_some]
  · exact absurd none updated

end TheVoteApp
