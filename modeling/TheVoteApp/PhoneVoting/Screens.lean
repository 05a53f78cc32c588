import TheVoteApp.PhoneVoting.CrossChannel

/-!
# What a USSD session has been shown

A caller answers the screen in front of them.  The handler answers the stored session.
This module runs the handler and remembers beside the database what each session has been
shown last: the page of policies and the confirmation.

The statements are about any list of policies.

## Main definitions

* `Outcome` — what a request does to its session, case by case
* `Screen` — what a session has been shown last
* `dialogue` — requests to all sessions, and sessions that expire
-/

namespace TheVoteApp.USSDVoteService

open Foundations JavaScript Redis

/-! ## Pages and choices -/

/-- What stands on a page at a number. -/
theorem mem_pageAt_iff {policies : List Policy} {offset number : ℕ} {policy : Policy} :
    (policy, number) ∈ pageAt policies offset ↔
      1 ≤ number ∧ number ≤ 3 ∧ policies[offset + (number - 1)]? = some policy := by
  rw [pageAt, List.mk_mem_zipIdx_iff_le_and_getElem?_sub, List.getElem?_take]
  constructor
  · rintro ⟨first, listed⟩
    split at listed
    · rw [List.getElem?_drop] at listed
      exact ⟨first, by omega, listed⟩
    · cases listed
  · rintro ⟨first, last, listed⟩
    rw [if_pos (by omega), List.getElem?_drop]
    exact ⟨first, listed⟩

/-- What a number chooses. -/
theorem choice_eq_some_iff {policies : List Policy} {policyIndex : ℕ} {last : String}
    {policy : Policy} : choice policies policyIndex last = some policy ↔
      ∃ number, parseInt last = some number ∧ 0 ≤ number - 1 + policyIndex ∧
        policies[(number - 1 + policyIndex).toNat]? = some policy := by
  unfold choice
  cases parseInt last with
  | none => simp
  | some number => simp [Option.ite_none_left_eq_some]

/-! ## One request -/

/-- What a request with a given last input does to its session: the reply, and the session
that is stored afterwards. -/
inductive Outcome (policies : List Policy) (session : Session) :
    Option String → Reply → Option Session → Prop
  | welcome : Outcome policies session none .welcome (some session)
  | ended : Outcome policies session (some "#") .ended none
  | page (fresh : session.policy = none) :
      Outcome policies session (some "0") (.page ((session.policyIndex + 3) % policies.length))
        (some { session with policyIndex := (session.policyIndex + 3) % policies.length })
  | invalidChoice {last : String} (fresh : session.policy = none)
      (missing : choice policies session.policyIndex last = none) :
      Outcome policies session (some last) (.invalidChoice session.policyIndex) (some session)
  | options {last : String} {policy : Policy} (goesOn : last ≠ "#") (selects : last ≠ "0")
      (fresh : session.policy = none)
      (chosen : choice policies session.policyIndex last = some policy) :
      Outcome policies session (some last) (.options policy)
        (some { session with policyId := some policy.id, step := 1 })
  | invalidOption {last policyId : String} (selected : session.policy = some policyId)
      (waits : session.step = 1) (missing : property optionMap last = none) :
      Outcome policies session (some last) .invalidOption (some session)
  | confirm {last policyId optionId : String} (selected : session.policy = some policyId)
      (waits : session.step = 1) (chosen : property optionMap last = some optionId) :
      Outcome policies session (some last) (.confirm optionId (policyBase policyId))
        (some { session with
          step := 2, policyId := some (policyBase policyId ++ ":" ++ optionId) })
  | refused {last policyId : String} {reply : Reply} (selected : session.policy = some policyId)
      (waits : session.step = 2) (answer : reply = .cancelled ∨ reply = .alreadyVoted) :
      Outcome policies session (some last) reply none
  | recorded {last policyId nullifier : String} (selected : session.policy = some policyId)
      (waits : session.step = 2) :
      Outcome policies session (some last)
        (.recorded (policyBase policyId) (split ':' policyId)[1]? nullifier) none
  | expired {last policyId : String} (selected : session.policy = some policyId)
      (first : session.step ≠ 1) (second : session.step ≠ 2) :
      Outcome policies session (some last) .expired (some session)

section Requests

variable (policies : List Policy) (sha256 : String → String) (salt sessionId phone : String)

theorem outcome_selectPolicyOn (redis : Database Session) (session : Session) {last : String}
    (goesOn : last ≠ "#") (fresh : session.policy = none) :
    ∃ after,
      Outcome policies session (some last) ((selectPolicyOn policies sessionId session last).run
        exec (redis.setString (sessionKey sessionId) session)).1 after ∧
      ((selectPolicyOn policies sessionId session last).run exec
        (redis.setString (sessionKey sessionId) session)).2.strings =
          Function.update redis.strings (sessionKey sessionId) after := by
  unfold selectPolicyOn saveSession
  by_cases turns : last = "0"
  · subst turns
    exact ⟨_, .page fresh, by simp [exec]⟩
  · rw [if_neg turns]
    cases chosen : choice policies session.policyIndex last with
    | none => exact ⟨_, .invalidChoice fresh chosen, rfl⟩
    | some policy => exact ⟨_, .options goesOn turns fresh chosen, by simp [exec]⟩

theorem outcome_selectOption (redis : Database Session) (session : Session)
    {last policyId : String} (selected : session.policy = some policyId)
    (waits : session.step = 1) :
    ∃ after,
      Outcome policies session (some last) ((selectOption sessionId session policyId last).run
        exec (redis.setString (sessionKey sessionId) session)).1 after ∧
      ((selectOption sessionId session policyId last).run exec
        (redis.setString (sessionKey sessionId) session)).2.strings =
          Function.update redis.strings (sessionKey sessionId) after := by
  unfold selectOption saveSession
  cases chosen : property optionMap last with
  | none => exact ⟨_, .invalidOption selected waits chosen, rfl⟩
  | some optionId => exact ⟨_, .confirm selected waits chosen, by simp [exec]⟩

theorem outcome_confirmVote (redis : Database Session) (session : Session)
    {last policyId : String} (selected : session.policy = some policyId)
    (waits : session.step = 2) :
    ∃ after,
      Outcome policies session (some last)
        ((confirmVote sha256 salt sessionId phone policyId last).run exec
          (redis.setString (sessionKey sessionId) session)).1 after ∧
      ((confirmVote sha256 salt sessionId phone policyId last).run exec
        (redis.setString (sessionKey sessionId) session)).2.strings =
          Function.update redis.strings (sessionKey sessionId) after := by
  unfold confirmVote
  by_cases confirms : last = "1"
  · simp only [confirms, ne_eq, not_true_eq_false, if_false, sismember_bind, Program.run_command,
      exec, Database.sets_setString]
    cases redis.sets nullifiersKey
        (deriveNullifier sha256 salt phone (policyBase policyId)) with
    | true => exact ⟨none, .refused selected waits (.inr rfl), by simp [exec]⟩
    | false => exact ⟨none, .recorded selected waits, by simp [exec]⟩
  · rw [if_pos confirms]
    exact ⟨none, .refused selected waits (.inl rfl), by simp [exec]⟩

/-- **What one request does**, to its own session and to no other. -/
theorem outcome_handleOn (redis : Database Session) (text : String) :
    ∃ after,
      Outcome policies ((redis.strings (sessionKey sessionId)).getD .initial)
        (inputs text).getLast?
        ((handleOn sha256 salt policies sessionId phone text).run exec redis).1 after ∧
      ((handleOn sha256 salt policies sessionId phone text).run exec redis).2.strings =
        Function.update redis.strings (sessionKey sessionId) after := by
  generalize named : (redis.strings (sessionKey sessionId)).getD .initial = session
  simp only [handleOn, getSession, saveSession, get_bind, setex_bind, Program.run_command, exec,
    named]
  cases (inputs text).getLast? with
  | none => exact ⟨_, .welcome, rfl⟩
  | some last =>
      by_cases exits : last = "#"
      · subst exits
        exact ⟨none, .ended, by simp [exec]⟩
      · simp only [exits, if_false]
        cases selected : session.policy with
        | none => exact outcome_selectPolicyOn policies sessionId redis session exits selected
        | some policyId =>
            by_cases first : session.step = 1
            · simp only [first, if_true]
              exact outcome_selectOption policies sessionId redis session selected first
            · by_cases second : session.step = 2
              · simp only [second, Nat.reduceEqDiff, if_true, if_false]
                exact outcome_confirmVote policies sha256 salt sessionId phone redis session
                  selected second
              · simp only [first, second, if_false]
                exact ⟨_, .expired selected first second, rfl⟩

end Requests

/-! ## Screens -/

/-- What a session has been shown last: the first policy of the page, and the label and
the policy of the confirmation. -/
structure Screen where
  page : Option ℕ
  confirmation : Option (String × String)
deriving DecidableEq

/-- Nothing has been shown yet. -/
def Screen.blank : Screen := ⟨none, none⟩

/-- What is shown after a reply: three replies print a menu, one a confirmation. -/
def Screen.after (screen : Screen) : Reply → Screen
  | .welcome => { screen with page := some 0 }
  | .page policyIndex => { screen with page := some policyIndex }
  | .invalidChoice policyIndex => { screen with page := some policyIndex }
  | .confirm optionId policy =>
      { screen with
        confirmation := some ((property labelMap optionId).getD "undefined", policy) }
  | _ => screen

/-- The database, and what each session has been shown. -/
structure Gateway where
  redis : Database Session
  screens : String → Screen

/-- No session has begun. -/
def Gateway.initial : Gateway := ⟨Database.empty, fun _ => Screen.blank⟩

/-- The stored session. -/
def Gateway.stored (gateway : Gateway) (sessionId : String) : Option Session :=
  gateway.redis.strings (sessionKey sessionId)

/-- A request to a session, or the end of its life in Redis. -/
inductive Request where
  | visit (sessionId phone text : String)
  | expires (sessionId : String)
deriving DecidableEq

section Dialogue

variable (policies : List Policy) (sha256 : String → String) (salt : String)

/-- The reply to a request, and the database it leaves. -/
def answer (gateway : Gateway) (sessionId phone text : String) : Reply × Database Session :=
  (handleOn sha256 salt policies sessionId phone text).run exec gateway.redis

/-- The requests of all sessions, one after the other. -/
def dialogue : Machine Gateway Request Reply Unit where
  call gateway
    | .visit sessionId phone text =>
        let (reply, redis) := answer policies sha256 salt gateway sessionId phone text
        .ok (⟨redis, Function.update gateway.screens sessionId
          ((gateway.screens sessionId).after reply)⟩, [reply])
    | .expires sessionId =>
        .ok ({ gateway with redis := gateway.redis.delete (sessionKey sessionId) }, [])

variable {policies sha256 salt}

theorem sessionKey_injective : Function.Injective sessionKey := by
  intro first second same
  exact (String.append_right_inj "ussd:session:").mp same

/-- **One request of the dialogue**: its outcome, for its session and its screen alone. -/
theorem next_visit (gateway : Gateway) (sessionId phone text : String) :
    ∃ after,
      Outcome policies ((gateway.stored sessionId).getD .initial) (inputs text).getLast?
        (answer policies sha256 salt gateway sessionId phone text).1 after ∧
      ((dialogue policies sha256 salt).next gateway (.visit sessionId phone text)).stored =
        Function.update gateway.stored sessionId after ∧
      ((dialogue policies sha256 salt).next gateway (.visit sessionId phone text)).screens =
        Function.update gateway.screens sessionId ((gateway.screens sessionId).after
          (answer policies sha256 salt gateway sessionId phone text).1) := by
  obtain ⟨after, outcome, strings⟩ :=
    outcome_handleOn policies sha256 salt sessionId phone gateway.redis text
  refine ⟨after, outcome, ?_, rfl⟩
  funext other
  refine (congrFun strings (sessionKey other)).trans ?_
  by_cases own : other = sessionId
  · rw [own, Function.update_self, Function.update_self]
  · rw [Function.update_of_ne own, Function.update_of_ne (sessionKey_injective.ne own)]
    rfl

theorem next_expires (gateway : Gateway) (sessionId : String) :
    ((dialogue policies sha256 salt).next gateway (.expires sessionId)).stored =
        Function.update gateway.stored sessionId none ∧
      ((dialogue policies sha256 salt).next gateway (.expires sessionId)).screens =
        gateway.screens := by
  refine ⟨?_, rfl⟩
  funext other
  show Function.update gateway.redis.strings (sessionKey sessionId) none (sessionKey other) = _
  by_cases own : other = sessionId
  · rw [own, Function.update_self, Function.update_self]
  · rw [Function.update_of_ne own, Function.update_of_ne (sessionKey_injective.ne own)]
    rfl

/-- **Sessions beside their screens.**  What holds of every stored session and its screen
still does after a request that leaves its own session so. -/
theorem stored_next {P : Session → Screen → Prop} {gateway : Gateway} {request : Request}
    (held : ∀ sessionId session, gateway.stored sessionId = some session →
      P session (gateway.screens sessionId))
    (own : ∀ sessionId phone text reply session, request = .visit sessionId phone text →
      Outcome policies ((gateway.stored sessionId).getD .initial) (inputs text).getLast? reply
        (some session) →
      P session ((gateway.screens sessionId).after reply)) :
    ∀ sessionId session,
      ((dialogue policies sha256 salt).next gateway request).stored sessionId = some session →
        P session (((dialogue policies sha256 salt).next gateway request).screens sessionId) := by
  intro other session stored
  cases request with
  | visit sessionId phone text =>
      obtain ⟨after, outcome, sessions, screens⟩ :=
        @next_visit policies sha256 salt gateway sessionId phone text
      rw [sessions] at stored
      rw [screens]
      by_cases same : other = sessionId
      · subst same
        rw [Function.update_self] at stored ⊢
        subst stored
        exact own other phone text _ session rfl outcome
      · rw [Function.update_of_ne same] at stored ⊢
        exact held other session stored
  | expires sessionId =>
      obtain ⟨sessions, screens⟩ := @next_expires policies sha256 salt gateway sessionId
      rw [sessions] at stored
      rw [screens]
      by_cases same : other = sessionId
      · rw [same, Function.update_self] at stored
        cases stored
      · rw [Function.update_of_ne same] at stored
        exact held other session stored

end Dialogue

end TheVoteApp.USSDVoteService
