import TheVoteApp.Backend.FeedCurrency
import TheVoteApp.Clients.LiveTallyClient

/-!
# A session of the Android app

The client of `LiveTallyClient.kt` against the live feed, over sockets that
deliver in order: the app connects, disconnects, subscribes and unsubscribes at
any time, the callbacks of its sockets come when they come, and the server has
other clients and the chain to attend to.

## Main definitions

* `LiveTallyClient`, `Request` — the client, and what it sends
* `Session`, `sessionMachine` — the client, the server and the sockets between them
* `settled` — the subscriptions the server will have once it has read a socket

## Design notes

One listener serves all sockets of the client and ignores which of them calls, so
a callback of an abandoned socket changes the state of the client.  The results
that need it assume `Orderly` steps: callbacks come from the socket the client
holds.  Updates are emitted by coroutines of their own; `emit` takes any of the
launched ones, an orderly step the oldest.  `RequestWriter` stands for the JSON
library that prints a request.
-/

namespace TheVoteApp

open JavaScript TallyService WSBroadcaster Foundations

/-- `State`. -/
inductive ConnectionState where
  | disconnected
  | connecting
  | connected
deriving DecidableEq

/-- The client.  A socket is named by a number; `launched` are the updates whose
coroutines have not emitted yet, `updates` those emitted. -/
structure LiveTallyClient where
  state : ConnectionState
  webSocket : Option ℕ
  subscribedPolicies : List String
  launched : List LiveTallyClient.TallyUpdate
  updates : List LiveTallyClient.TallyUpdate

namespace LiveTallyClient

/-- What the client sends. -/
inductive Request where
  | subscribe (policyId : String)
  | unsubscribe (policyId : String)
deriving DecidableEq

/-- `JSONObject(map).toString()` for the two members of a request. -/
structure RequestWriter (format : NumberFormat) where
  toJson : String → String → Text
  parse_toJson : ∀ type policyId, ∃ message, parse format (toJson type policyId) = some message ∧
    message.get (utf16 "type") = some (.string (utf16 type)) ∧
    message.get (utf16 "policyId") = some (.string (utf16 policyId))

/-- A request as it is sent. -/
def Request.text {format : NumberFormat} (writer : RequestWriter format) : Request → Text
  | .subscribe policyId => writer.toJson "subscribe" policyId
  | .unsubscribe policyId => writer.toJson "unsubscribe" policyId

/-! ## The functions of the client -/

/-- The client as it is constructed. -/
def fresh : LiveTallyClient := ⟨.disconnected, none, [], [], []⟩

/-- `send`; without a socket nothing is sent. -/
def send (c : LiveTallyClient) (request : Request) : List (ℕ × Request) :=
  c.webSocket.toList.map fun ws => (ws, request)

/-- `connect`; the new socket, if one is made, is `ws`. -/
def connect (c : LiveTallyClient) (ws : ℕ) : LiveTallyClient :=
  if c.state ≠ .disconnected then c else { c with state := .connecting, webSocket := some ws }

/-- `disconnect`, which keeps the subscribed policies. -/
def disconnect (c : LiveTallyClient) : LiveTallyClient :=
  { c with webSocket := none, state := .disconnected }

/-- `subscribe`.  Before the socket is open the policy is only remembered. -/
def subscribe (c : LiveTallyClient) (policyId : String) :
    LiveTallyClient × List (ℕ × Request) :=
  let c := { c with
    subscribedPolicies :=
      if policyId ∈ c.subscribedPolicies then c.subscribedPolicies
      else c.subscribedPolicies ++ [policyId] }
  (c, if c.state = .connected then c.send (.subscribe policyId) else [])

/-- `unsubscribe`. -/
def unsubscribe (c : LiveTallyClient) (policyId : String) :
    LiveTallyClient × List (ℕ × Request) :=
  let c := { c with subscribedPolicies := c.subscribedPolicies.filter (· ≠ policyId) }
  (c, if c.state = .connected then c.send (.unsubscribe policyId) else [])

/-- `onOpen` subscribes to all remembered policies. -/
def onOpen (c : LiveTallyClient) : LiveTallyClient × List (ℕ × Request) :=
  let c := { c with state := .connected }
  (c, c.subscribedPolicies.flatMap fun policyId => c.send (.subscribe policyId))

/-- `onMessage`.  An accepted update is emitted by a coroutine of its own. -/
def onMessage {format : NumberFormat} (reader : IntegerReader format) (c : LiveTallyClient)
    (text : Text) : LiveTallyClient :=
  { c with launched := c.launched ++ (accept reader kotlinInt text).toList }

/-- `onClosing` and `onFailure`. -/
def onClosing (c : LiveTallyClient) : LiveTallyClient := { c with state := .disconnected }

/-- The launched coroutine at position `i` emits. -/
def emit (c : LiveTallyClient) (i : ℕ) : LiveTallyClient :=
  { c with launched := c.launched.eraseIdx i, updates := c.updates ++ c.launched[i]?.toList }

end LiveTallyClient

open LiveTallyClient

/-! ## The session -/

/-- The client, the server and the sockets of the client, which are `inl n` for the
server; `inr` are those of others.  `made` sockets exist, `opened` had their
`onOpen`, `toServer` is on its way and of the messages sent the first `read` have
reached the client. -/
structure Session (κ : Type) where
  client : LiveTallyClient
  feed : Feed (ℕ ⊕ κ)
  made : ℕ
  opened : ℕ → Bool
  toServer : ℕ → List Request
  read : ℕ → ℕ

/-- What can happen. -/
inductive SessionMove (κ : Type) where
  | connect
  | disconnect
  | subscribe (policyId : String)
  | unsubscribe (policyId : String)
  | onOpen (ws : ℕ)
  | onMessage (ws : ℕ)
  | onClosing (ws : ℕ)
  | emit (i : ℕ)
  /-- The server takes the connection. -/
  | accept (ws : ℕ)
  /-- The server reads the next request. -/
  | receive (ws : ℕ)
  /-- Anything else at the server. -/
  | server (o : FeedOccurrence (ℕ ⊕ κ))

variable {κ : Type} [DecidableEq κ]

namespace Session

/-- Requests are put on their sockets. -/
def deliver (s : Session κ) (requests : List (ℕ × Request)) : Session κ :=
  { s with
    toServer := fun ws =>
      s.toServer ws ++ (requests.filter fun request => request.1 = ws).map Prod.snd }

/-- A call of the client that sends requests. -/
def call (s : Session κ) (f : LiveTallyClient → LiveTallyClient × List (ℕ × Request)) :
    Session κ :=
  ({ s with client := (f s.client).1 }).deliver (f s.client).2

end Session

/-- The occurrence concerns no connection or message of the client's sockets. -/
def Foreign : FeedOccurrence (ℕ ⊕ κ) → Bool
  | .connection (.inl _) | .message (.inl _) _ => false
  | _ => true

/-- The session. -/
def sessionMachine (κ : Type) [DecidableEq κ] {format : NumberFormat}
    (keccak256 : Solidity.Bytes → Solidity.Bytes32) (reader : IntegerReader format)
    (writer : RequestWriter format) : Machine (Session κ) (SessionMove κ) Empty Unit where
  call s move :=
    let serve (s : Session κ) (o : FeedOccurrence (ℕ ⊕ κ)) :
        Except Unit (Session κ × List Empty) :=
      match (feedMachine (ℕ ⊕ κ) format keccak256).call s.feed o with
      | .ok (feed, _) => .ok ({ s with feed }, [])
      | .error e => .error e
    match move with
    | .connect =>
        if s.client.state = .disconnected then
          .ok ({ s with client := s.client.connect s.made, made := s.made + 1 }, [])
        else .ok (s, [])
    | .disconnect => .ok ({ s with client := s.client.disconnect }, [])
    | .subscribe policyId => .ok (s.call fun c => c.subscribe policyId, [])
    | .unsubscribe policyId => .ok (s.call fun c => c.unsubscribe policyId, [])
    | .onOpen ws =>
        if ws < s.made ∧ s.opened ws = false ∧ s.feed.status (.inl ws) ≠ .unused then
          .ok ({ s.call LiveTallyClient.onOpen with
            opened := Function.update s.opened ws true }, [])
        else .error ()
    | .onMessage ws =>
        match (s.feed.sent (.inl ws))[s.read ws]? with
        | none => .error ()
        | some m =>
            if s.opened ws then
              .ok ({ s with
                client := s.client.onMessage reader (m.text format)
                read := Function.update s.read ws (s.read ws + 1) }, [])
            else .error ()
    | .onClosing ws =>
        if ws < s.made then .ok ({ s with client := s.client.onClosing }, []) else .error ()
    | .emit i =>
        if i < s.client.launched.length then .ok ({ s with client := s.client.emit i }, [])
        else .error ()
    | .accept ws => if ws < s.made then serve s (.connection (.inl ws)) else .error ()
    | .receive ws =>
        match s.toServer ws with
        | [] => .error ()
        | request :: rest =>
            serve { s with toServer := Function.update s.toServer ws rest }
              (.message (.inl ws) (request.text writer))
    | .server o => if Foreign o then serve s o else .error ()

/-- The session before anything happens. -/
def Session.fresh (κ : Type) : Session κ where
  client := .fresh
  feed := .fresh _
  made := 0
  opened _ := false
  toServer _ := []
  read _ := 0

/-! ## What a step does -/

section Steps

variable {format : NumberFormat} {keccak256 : Solidity.Bytes → Solidity.Bytes32}
variable {reader : IntegerReader format} {writer : RequestWriter format} {s s' : Session κ}

/-- The steps of the session. -/
inductive SessionStep (keccak256 : Solidity.Bytes → Solidity.Bytes32)
    (reader : IntegerReader format) (writer : RequestWriter format) (s : Session κ) :
    SessionMove κ → Session κ → Prop where
  | connect (idle : s.client.state = .disconnected) :
      SessionStep keccak256 reader writer s .connect
        { s with
          client := { s.client with state := .connecting, webSocket := some s.made }
          made := s.made + 1 }
  | busy : SessionStep keccak256 reader writer s .connect s
  | disconnect :
      SessionStep keccak256 reader writer s .disconnect { s with client := s.client.disconnect }
  | subscribe (policyId : String) :
      SessionStep keccak256 reader writer s (.subscribe policyId)
        (s.call fun c => c.subscribe policyId)
  | unsubscribe (policyId : String) :
      SessionStep keccak256 reader writer s (.unsubscribe policyId)
        (s.call fun c => c.unsubscribe policyId)
  | onOpen {ws : ℕ} (made : ws < s.made) (first : s.opened ws = false) :
      SessionStep keccak256 reader writer s (.onOpen ws)
        { s.call LiveTallyClient.onOpen with opened := Function.update s.opened ws true }
  | onMessage {ws : ℕ} {m : ServerMessage} (opened : s.opened ws = true)
      (next : (s.feed.sent (.inl ws))[s.read ws]? = some m) :
      SessionStep keccak256 reader writer s (.onMessage ws)
        { s with
          client := s.client.onMessage reader (m.text format)
          read := Function.update s.read ws (s.read ws + 1) }
  | onClosing {ws : ℕ} :
      SessionStep keccak256 reader writer s (.onClosing ws) { s with client := s.client.onClosing }
  | emit {i : ℕ} :
      SessionStep keccak256 reader writer s (.emit i) { s with client := s.client.emit i }
  | accept {ws : ℕ} {feed : Feed (ℕ ⊕ κ)} (running : s.feed.crashed = false)
      (served : FeedStep format keccak256 s.feed (.connection (.inl ws)) feed) :
      SessionStep keccak256 reader writer s (.accept ws) { s with feed }
  | receive {ws : ℕ} {request : Request} {rest : List Request} {feed : Feed (ℕ ⊕ κ)}
      (next : s.toServer ws = request :: rest) (running : s.feed.crashed = false)
      (served : FeedStep format keccak256 s.feed (.message (.inl ws) (request.text writer)) feed) :
      SessionStep keccak256 reader writer s (.receive ws)
        { s with toServer := Function.update s.toServer ws rest, feed }
  | server {o : FeedOccurrence (ℕ ⊕ κ)} {feed : Feed (ℕ ⊕ κ)} (foreign : Foreign o = true)
      (running : s.feed.crashed = false) (served : FeedStep format keccak256 s.feed o feed) :
      SessionStep keccak256 reader writer s (.server o) { s with feed }

theorem SessionStep.of_call {move : SessionMove κ} {new : List Empty}
    (done : (sessionMachine κ keccak256 reader writer).call s move = .ok (s', new)) :
    SessionStep keccak256 reader writer s move s' := by
  simp only [sessionMachine] at done
  cases move with
  | connect =>
      dsimp only at done
      split at done
      · rename_i idle
        cases done
        rw [LiveTallyClient.connect, if_neg (not_not.mpr idle)]
        exact .connect idle
      · cases done
        exact .busy
  | disconnect =>
      cases done
      exact .disconnect
  | subscribe policyId =>
      cases done
      exact .subscribe policyId
  | unsubscribe policyId =>
      cases done
      exact .unsubscribe policyId
  | onOpen ws =>
      dsimp only at done
      split at done
      · rename_i guard
        cases done
        exact .onOpen guard.1 guard.2.1
      · cases done
  | onMessage ws =>
      dsimp only at done
      split at done
      · cases done
      · split at done
        · cases done
          exact .onMessage ‹_› ‹_›
        · cases done
  | onClosing ws =>
      dsimp only at done
      split at done
      · cases done
        exact .onClosing
      · cases done
  | emit i =>
      dsimp only at done
      split at done
      · cases done
        exact .emit
      · cases done
  | accept ws =>
      dsimp only at done
      split at done
      · split at done
        · rename_i outcome
          cases done
          obtain ⟨running, served⟩ := FeedStep.of_call outcome
          exact .accept running served
        · cases done
      · cases done
  | receive ws =>
      dsimp only at done
      split at done
      · cases done
      · rename_i next
        split at done
        · rename_i outcome
          cases done
          obtain ⟨running, served⟩ := FeedStep.of_call outcome
          exact .receive next running served
        · cases done
  | server o =>
      dsimp only at done
      split at done
      · rename_i foreign
        split at done
        · rename_i outcome
          cases done
          obtain ⟨running, served⟩ := FeedStep.of_call outcome
          exact .server foreign running served
        · cases done
      · cases done

end Steps

/-! ## Requests at the server -/

namespace LiveTallyClient

theorem mem_subscribe {c : LiveTallyClient} {policyId p : String} :
    p ∈ (c.subscribe policyId).1.subscribedPolicies ↔
      p ∈ c.subscribedPolicies ∨ p = policyId := by
  simp only [LiveTallyClient.subscribe]
  split
  · rename_i known
    constructor
    · exact Or.inl
    · rintro (earlier | rfl)
      · exact earlier
      · exact known
  · rw [List.mem_append, List.mem_singleton]

theorem mem_unsubscribe {c : LiveTallyClient} {policyId p : String} :
    p ∈ (c.unsubscribe policyId).1.subscribedPolicies ↔
      p ∈ c.subscribedPolicies ∧ p ≠ policyId := by
  simp [LiveTallyClient.unsubscribe]

/-- What a request does to the subscriptions of its socket: the server refuses the empty
policy. -/
def Request.settle (subs : List Text) : Request → List Text
  | .subscribe policyId => if policyId = "" then subs else utf16 policyId :: subs
  | .unsubscribe policyId =>
      if policyId = "" then subs else subs.filter (· ≠ utf16 policyId)

section Requests

variable {format : NumberFormat} {live : LiveTallyService} {subs : List Text}
variable {message : Value format.Number} {type policyId : String}

theorem hasType_iff (typed : message.get (utf16 "type") = some (.string (utf16 type)))
    (other : String) : hasType format message other = decide (utf16 type = utf16 other) := by
  rw [hasType, typed]

theorem truthy_utf16 : truthy (.string (utf16 policyId) : Value format.Number) =
    decide (policyId ≠ "") := by
  have empty : utf16 policyId = [] ↔ policyId = "" := by
    constructor
    · intro same
      exact utf16_injective (same.trans rfl)
    · rintro rfl
      rfl
  rw [truthy]
  exact decide_eq_decide.mpr (not_congr empty)

/-- The listener on a message of two strings. -/
theorem handle_members {raw : Text} (read : parse format raw = some message)
    (typed : message.get (utf16 "type") = some (.string (utf16 type)))
    (named : message.get (utf16 "policyId") = some (.string (utf16 policyId)))
    (noPing : utf16 type ≠ utf16 "ping") :
    handle format live subs raw =
      if policyId = "" then some (subs, [.error "policyId required"])
      else if utf16 type = utf16 "subscribe" then
        some (utf16 policyId :: subs, ((live.getSnapshot policyId).map
          (ServerMessage.snapshot (utf16 policyId))).toList)
      else if utf16 type = utf16 "unsubscribe" then
        some (subs.filter (· ≠ utf16 policyId), [])
      else some (subs, []) := by
  rw [handle, read]
  cases message with
  | null => cases typed
  | _ =>
      simp only [hasType_iff typed, named, truthy_utf16, getSnapshot_utf16, noPing,
        decide_eq_true_eq, not_not, if_false]

end Requests

/-- The server does to the subscriptions what the request asks for. -/
theorem handle_request {format : NumberFormat} (writer : RequestWriter format)
    (live : LiveTallyService) (subs : List Text) (request : Request) :
    ∃ replies, handle format live subs (request.text writer) =
      some (request.settle subs, replies) := by
  have kinds : utf16 "subscribe" ≠ utf16 "ping" ∧ utf16 "unsubscribe" ≠ utf16 "ping" ∧
      utf16 "unsubscribe" ≠ utf16 "subscribe" := by decide
  cases request with
  | subscribe policyId =>
      obtain ⟨message, read, typed, named⟩ := writer.parse_toJson "subscribe" policyId
      rw [Request.text, handle_members read typed named kinds.1, if_pos rfl, Request.settle]
      split
      · exact ⟨_, rfl⟩
      · exact ⟨_, rfl⟩
  | unsubscribe policyId =>
      obtain ⟨message, read, typed, named⟩ := writer.parse_toJson "unsubscribe" policyId
      rw [Request.text, handle_members read typed named kinds.2.1, if_neg kinds.2.2, if_pos rfl,
        Request.settle]
      split
      · exact ⟨_, rfl⟩
      · exact ⟨_, rfl⟩

/-- A subscription keeps the others. -/
theorem Request.mem_settle_subscribe {subs : List Text} {policyId : String} {text : Text} :
    text ∈ Request.settle subs (.subscribe policyId) ↔
      text ∈ subs ∨ policyId ≠ "" ∧ text = utf16 policyId := by
  rw [Request.settle]
  split
  · rename_i empty
    simp [empty]
  · rename_i nonempty
    simp [nonempty, or_comm]

/-- So does a cancellation. -/
theorem Request.mem_settle_unsubscribe {subs : List Text} {policyId : String} {text : Text} :
    text ∈ Request.settle subs (.unsubscribe policyId) ↔
      text ∈ subs ∧ (policyId = "" ∨ text ≠ utf16 policyId) := by
  rw [Request.settle]
  split
  · rename_i empty
    simp [empty]
  · rename_i nonempty
    simp [nonempty]

/-- Many subscriptions at once. -/
theorem Request.mem_settle_subscribes (policyIds : List String) (subs : List Text) (text : Text) :
    text ∈ (policyIds.map Request.subscribe).foldl Request.settle subs ↔
      text ∈ subs ∨ ∃ p ∈ policyIds, p ≠ "" ∧ text = utf16 p := by
  induction policyIds generalizing subs with
  | nil => simp
  | cons policyId policyIds ih =>
      rw [List.map_cons, List.foldl_cons, ih, Request.mem_settle_subscribe, or_assoc]
      simp only [List.exists_mem_cons_iff]

end LiveTallyClient

namespace Session

variable {s : Session κ}

/-- The subscriptions of a socket once the server has read it. -/
def settled (s : Session κ) (ws : ℕ) : List Text :=
  (s.toServer ws).foldl Request.settle (s.feed.subscriptionsOf (.inl ws))

omit [DecidableEq κ] in
/-- Requests of the client go to the socket it holds. -/
theorem toServer_deliver (s : Session κ) (c : LiveTallyClient) (requests : List Request)
    (ws : ℕ) :
    (s.deliver (requests.flatMap c.send)).toServer ws =
      if c.webSocket = some ws then s.toServer ws ++ requests else s.toServer ws := by
  cases held : c.webSocket with
  | none =>
      have nothing : requests.flatMap c.send = [] :=
        List.flatMap_eq_nil_iff.mpr fun request _ => by rw [LiveTallyClient.send, held]; rfl
      rw [nothing]
      simp [deliver]
  | some ws' =>
      have sent : requests.flatMap c.send = requests.map fun request => (ws', request) := by
        rw [List.map_eq_flatMap]
        congr 1
        funext request
        rw [LiveTallyClient.send, held]
        rfl
      rw [sent]
      by_cases same : ws' = ws
      · simp [deliver, same, List.filter_map, Function.comp_def]
      · simp [deliver, same, List.filter_map, Function.comp_def]

omit [DecidableEq κ] in
/-- What a subscription puts on the wire. -/
theorem toServer_subscribe (s : Session κ) (policyId : String) (ws : ℕ) :
    (s.call fun c => c.subscribe policyId).toServer ws =
      if s.client.state = .connected ∧ s.client.webSocket = some ws then
        s.toServer ws ++ [.subscribe policyId]
      else s.toServer ws := by
  have sent : (s.client.subscribe policyId).2 =
      (if s.client.state = .connected then [Request.subscribe policyId] else []).flatMap
        s.client.send := by
    rw [LiveTallyClient.subscribe]
    dsimp only
    split
    · rw [List.flatMap_singleton]
      rfl
    · rfl
  rw [call, sent, toServer_deliver]
  split_ifs <;> simp_all

omit [DecidableEq κ] in
theorem toServer_unsubscribe (s : Session κ) (policyId : String) (ws : ℕ) :
    (s.call fun c => c.unsubscribe policyId).toServer ws =
      if s.client.state = .connected ∧ s.client.webSocket = some ws then
        s.toServer ws ++ [.unsubscribe policyId]
      else s.toServer ws := by
  have sent : (s.client.unsubscribe policyId).2 =
      (if s.client.state = .connected then [Request.unsubscribe policyId] else []).flatMap
        s.client.send := by
    rw [LiveTallyClient.unsubscribe]
    dsimp only
    split
    · rw [List.flatMap_singleton]
      rfl
    · rfl
  rw [call, sent, toServer_deliver]
  split_ifs <;> simp_all

omit [DecidableEq κ] in
/-- An opened connection subscribes to everything again. -/
theorem toServer_onOpen (s : Session κ) (ws : ℕ) :
    (s.call LiveTallyClient.onOpen).toServer ws =
      if s.client.webSocket = some ws then
        s.toServer ws ++ s.client.subscribedPolicies.map Request.subscribe
      else s.toServer ws := by
  have sent : s.client.onOpen.2 =
      (s.client.subscribedPolicies.map Request.subscribe).flatMap s.client.send := by
    rw [List.flatMap_map]
    rfl
  rw [call, sent, toServer_deliver]

section Settled

variable {ws : ℕ} {policyId : String} {text : Text}

theorem mem_settled_subscribe (connected : s.client.state = .connected)
    (held : s.client.webSocket = some ws) :
    text ∈ (s.call fun c => c.subscribe policyId).settled ws ↔
      text ∈ s.settled ws ∨ policyId ≠ "" ∧ text = utf16 policyId := by
  rw [settled, toServer_subscribe, if_pos ⟨connected, held⟩, List.foldl_append]
  exact Request.mem_settle_subscribe

theorem mem_settled_unsubscribe (connected : s.client.state = .connected)
    (held : s.client.webSocket = some ws) :
    text ∈ (s.call fun c => c.unsubscribe policyId).settled ws ↔
      text ∈ s.settled ws ∧ (policyId = "" ∨ text ≠ utf16 policyId) := by
  rw [settled, toServer_unsubscribe, if_pos ⟨connected, held⟩, List.foldl_append]
  exact Request.mem_settle_unsubscribe

theorem mem_settled_onOpen (held : s.client.webSocket = some ws) :
    text ∈ (s.call LiveTallyClient.onOpen).settled ws ↔
      text ∈ s.settled ws ∨ ∃ p ∈ s.client.subscribedPolicies, p ≠ "" ∧ text = utf16 p := by
  rw [settled, toServer_onOpen, if_pos held, List.foldl_append]
  exact Request.mem_settle_subscribes _ _ text

end Settled

end Session

end TheVoteApp
