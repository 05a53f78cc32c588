import TheVoteApp.PhoneVoting.Sms
import TheVoteApp.PhoneVoting.Ussd
import TheVoteApp.Redis.CheckThenAdd

/-!
# Concurrent votes by phone

Both services ask Redis whether a nullifier is spent and, if it is not, add it
with a second command.  Two requests for the same number and policy that both
ask before either adds are both told that their vote was recorded.

That overlap is the only way: in a run in which no request asks about a
nullifier that another is about to add, one request per number and policy is
recorded.
-/

namespace TheVoteApp.PhoneVoting

open Foundations Redis

/-- A USSD request. -/
structure UssdRequest where
  sessionId : String
  phone : String
  text : String

/-- How the replies of a service report votes: the set of its nullifiers, the
nullifier of a number and a policy, the policy a reply says a vote was recorded
on, and the replies that say the number has already voted. -/
structure Ballot (Reply : Type) where
  key : String
  nullifier : String → String → String
  votedOn : Reply → Option String
  refuses : Reply → Bool

/-- What a reply to `number` says about its nullifier. -/
def Ballot.outcome {Reply : Type} (ballot : Ballot Reply) (number : String) (reply : Reply) :
    Outcome :=
  match ballot.votedOn reply with
  | some policyId => .recorded (ballot.nullifier number policyId)
  | none => if ballot.refuses reply then .refused else .other

theorem Ballot.outcome_of_votedOn {Reply : Type} (ballot : Ballot Reply) {number policyId : String}
    {reply : Reply} (voted : ballot.votedOn reply = some policyId) :
    ballot.outcome number reply = .recorded (ballot.nullifier number policyId) := by
  rw [Ballot.outcome, voted]

/-- The votes USSD replies report. -/
def ussdBallot (sha256 : String → String) (salt : String) : Ballot USSDVoteService.Reply where
  key := USSDVoteService.nullifiersKey
  nullifier := USSDVoteService.deriveNullifier sha256 salt
  votedOn
    | .recorded policyId _ _ => some policyId
    | _ => none
  refuses
    | .alreadyVoted => true
    | _ => false

/-- The votes SMS replies report. -/
def smsBallot (sha256 : String → String) (config : SMSVoteService.Config) :
    Ballot SMSVoteService.Reply where
  key := SMSVoteService.nullifiersKey
  nullifier := SMSVoteService.deriveNullifier sha256 config
  votedOn
    | .recorded policyId _ _ _ => some policyId
    | _ => none
  refuses
    | .alreadyVoted _ => true
    | _ => false

/-! ## Both handlers check, then add -/

section Ussd

open USSDVoteService

variable {sha256 : String → String} {salt phone sessionId : String}

theorem neutral_setex (seconds : ℕ) (session : Session) :
    (Command.setex (sessionKey sessionId) seconds session).Neutral
      USSDVoteService.nullifiersKey := trivial

theorem neutral_del :
    (Command.del (sessionKey sessionId) : Command Session).Neutral
      USSDVoteService.nullifiersKey := nullifiersKey_ne_sessionKey sessionId

theorem conforms_selectPolicyOn (session : Session) (last : String) :
    Conforms USSDVoteService.nullifiersKey ((ussdBallot sha256 salt).outcome phone) .fresh
      (selectPolicyOn policies sessionId session last) := by
  unfold selectPolicyOn saveSession
  split
  · exact .neutral (by simp) (neutral_setex _ _) fun _ => .returnsOther rfl
  · split
    · exact .returnsOther rfl
    · exact .neutral (by simp) (neutral_setex _ _) fun _ => .returnsOther rfl

theorem conforms_selectOption (session : Session) (policyId last : String) :
    Conforms USSDVoteService.nullifiersKey ((ussdBallot sha256 salt).outcome phone) .fresh
      (selectOption sessionId session policyId last) := by
  unfold selectOption saveSession
  split
  · exact .returnsOther rfl
  · exact .neutral (by simp) (neutral_setex _ _) fun _ => .returnsOther rfl

theorem conforms_confirmVote (policyId last : String) :
    Conforms USSDVoteService.nullifiersKey ((ussdBallot sha256 salt).outcome phone) .fresh
      (confirmVote sha256 salt sessionId phone policyId last) := by
  unfold confirmVote
  split
  · exact .neutral (by simp) neutral_del fun _ => .returnsOther rfl
  · refine .check ?found ?missing
    case found => exact .neutral (by simp) neutral_del fun _ => .returnsRefused rfl
    case missing => exact .add (.neutral (by simp) neutral_del fun _ => .returnsRecorded rfl)

theorem conforms_handle (text : String) :
    Conforms USSDVoteService.nullifiersKey ((ussdBallot sha256 salt).outcome phone) .fresh
      (handle sha256 salt sessionId phone text) := by
  unfold handle handleOn getSession saveSession
  refine .neutral (by simp) trivial fun stored => .neutral (by simp) (neutral_setex _ _) fun _ => ?_
  split
  · exact .returnsOther rfl
  · split
    · exact .neutral (by simp) neutral_del fun _ => .returnsOther rfl
    · split
      · exact conforms_selectPolicyOn _ _
      · split
        · exact conforms_selectOption _ _ _
        · split
          · exact conforms_confirmVote _ _
          · exact .returnsOther rfl

end Ussd

section Sms

open SMSVoteService

variable {sha256 toUpperCase : String → String} {config : Config} {phone : String}

theorem conforms_handleVote (policyId optionRaw : String) :
    Conforms SMSVoteService.nullifiersKey ((smsBallot sha256 config).outcome phone) .fresh
      (handleVote sha256 config phone policyId optionRaw) := by
  unfold handleVote
  split
  · exact .returnsOther rfl
  · exact .check (.returnsRefused rfl) (.add (.returnsRecorded rfl))

theorem conforms_handleInbound (body : String) :
    Conforms SMSVoteService.nullifiersKey ((smsBallot sha256 config).outcome phone) .fresh
      (handleInbound sha256 toUpperCase config phone body) := by
  unfold handleInbound
  split
  · exact .returnsOther rfl
  · split
    · exact .returnsOther rfl
    · split <;> exact .returnsOther rfl
    · exact conforms_handleVote _ _
    · exact .returnsOther rfl

end Sms

/-! ## All requests together -/

/-- The USSD requests before their first command. -/
def launchUssd {ι : Type} (sha256 : String → String) (salt : String) (requests : ι → UssdRequest)
    (redis : Database USSDVoteService.Session) :
    Concurrent ι USSDVoteService.Session USSDVoteService.Reply :=
  launch (fun i => USSDVoteService.handle sha256 salt (requests i).sessionId (requests i).phone
    (requests i).text) redis

/-- The messages before their first command. -/
def launchSms {ι : Type} (sha256 toUpperCase : String → String) (config : SMSVoteService.Config)
    (messages : ι → SMSVoteService.Message) (redis : Database Unit) :
    Concurrent ι Unit SMSVoteService.Reply :=
  launch (fun i => SMSVoteService.handleInbound sha256 toUpperCase config (messages i).phone
    (messages i).body) redis

/-- For every number and policy at most one of the number's requests has been
answered that its vote was recorded; every request that asked whether the number
had voted on the policy, and has been answered, was recorded or refused. -/
structure OneVotePerNumber {ι V Reply : Type} [DecidableEq ι] (ballot : Ballot Reply)
    (phone : ι → String) (start : Concurrent ι V Reply) (schedule : List ι) : Prop where
  atMostOne : ∀ policyId i j a b, phone i = phone j →
    ((concurrently ι V Reply).run start schedule).calls i = .inr a →
    ballot.votedOn a = some policyId →
    ((concurrently ι V Reply).run start schedule).calls j = .inr b →
    ballot.votedOn b = some policyId → i = j
  answered : ∀ policyId i a,
    (concurrently ι V Reply).Sometime (Asks ballot.key i (ballot.nullifier (phone i) policyId))
      start schedule →
    ((concurrently ι V Reply).run start schedule).calls i = .inr a →
    (∃ votedOn, ballot.votedOn a = some votedOn ∧
      ballot.nullifier (phone i) votedOn = ballot.nullifier (phone i) policyId) ∨
    ballot.refuses a = true

/-- Programs that check, then add: one vote per number in every unraced run. -/
theorem oneVotePerNumber_of_conforms {ι V Reply : Type} [DecidableEq ι] {ballot : Ballot Reply}
    {phone : ι → String} {programs : ι → Program V Reply} (redis : Database V)
    (conforms : ∀ i, Conforms ballot.key (ballot.outcome (phone i)) .fresh (programs i))
    {schedule : List ι} (unraced : (concurrently ι V Reply).Along (Unraced ballot.key)
      (launch programs redis) schedule) :
    OneVotePerNumber ballot phone (launch programs redis) schedule where
  atMostOne policyId i j a b sameNumber resultI votedI resultJ votedJ := by
    refine (exclusive redis conforms schedule unraced (ballot.nullifier (phone i) policyId)).1
      i j a b resultI (ballot.outcome_of_votedOn votedI) resultJ ?_
    rw [sameNumber]
    exact ballot.outcome_of_votedOn votedJ
  answered policyId i a asks result := by
    have outcome := (exclusive redis conforms schedule unraced
      (ballot.nullifier (phone i) policyId)).2 i a asks result
    unfold Ballot.outcome at outcome
    cases voted : ballot.votedOn a with
    | some votedOn =>
        simp only [voted, Outcome.recorded.injEq, reduceCtorEq, or_false] at outcome
        exact Or.inl ⟨votedOn, rfl, outcome⟩
    | none =>
        cases refused : ballot.refuses a with
        | true => exact Or.inr rfl
        | false => simp [voted, refused] at outcome

/-- **One vote per number.**  For any requests of either service and any
interleaving of their commands in which no request asks about a nullifier that
another is about to add. -/
theorem oneVotePerNumber_of_unraced {ι : Type} [DecidableEq ι]
    (sha256 toUpperCase : String → String) (salt : String) (config : SMSVoteService.Config) :
    (∀ (requests : ι → UssdRequest) (redis : Database USSDVoteService.Session) (schedule : List ι),
      (concurrently ι USSDVoteService.Session USSDVoteService.Reply).Along
        (Unraced USSDVoteService.nullifiersKey) (launchUssd sha256 salt requests redis) schedule →
      OneVotePerNumber (ussdBallot sha256 salt) (fun i => (requests i).phone)
        (launchUssd sha256 salt requests redis) schedule) ∧
    ∀ (messages : ι → SMSVoteService.Message) (redis : Database Unit) (schedule : List ι),
      (concurrently ι Unit SMSVoteService.Reply).Along (Unraced SMSVoteService.nullifiersKey)
        (launchSms sha256 toUpperCase config messages redis) schedule →
      OneVotePerNumber (smsBallot sha256 config) (fun i => (messages i).phone)
        (launchSms sha256 toUpperCase config messages redis) schedule := by
  constructor
  · intro requests redis schedule unraced
    exact oneVotePerNumber_of_conforms redis (fun i => conforms_handle (requests i).text) unraced
  · intro messages redis schedule unraced
    exact oneVotePerNumber_of_conforms redis (fun i => conforms_handleInbound (messages i).body)
      unraced

/-! ## Two requests at once -/

/-- The two sessions of one phone, both asked to confirm. -/
def sampleRequests (second : Bool) : UssdRequest where
  sessionId := if second then "s2" else "s1"
  phone := "+254700000001"
  text := "1*1*1"

/-- Both sessions wait for the confirmation. -/
def sampleSessions : Database USSDVoteService.Session :=
  (Database.empty.setString (USSDVoteService.sessionKey "s1")
    ⟨2, 0, some "pol-001:option-support"⟩).setString (USSDVoteService.sessionKey "s2")
    ⟨2, 0, some "pol-001:option-support"⟩

/-- One message, sent twice.  It is in upper case already. -/
def sampleMessages (_ : Bool) : SMSVoteService.Message := ⟨"+447700900123", "VOTE POL-001 SUPPORT"⟩

/-- Both confirmations before their first command. -/
def sampleUssd : Concurrent Bool USSDVoteService.Session USSDVoteService.Reply :=
  launchUssd USSDVoteService.sampleSha256 "ussd-salt-replace" sampleRequests sampleSessions

/-- Both messages before their first command. -/
def sampleSms : Concurrent Bool Unit SMSVoteService.Reply :=
  launchSms SMSVoteService.sampleSha256 id SMSVoteService.sampleConfig sampleMessages
    Database.empty

/-- The check of a confirmation. -/
def sampleUssdBallot : Ballot USSDVoteService.Reply :=
  ussdBallot USSDVoteService.sampleSha256 "ussd-salt-replace"

/-- The check of a message. -/
def sampleSmsBallot : Ballot SMSVoteService.Reply :=
  smsBallot SMSVoteService.sampleSha256 SMSVoteService.sampleConfig

instance decidableUnraced {ι V α : Type} [Fintype ι] [DecidableEq V] (key : String)
    (s : Concurrent ι V α) (i : ι) : Decidable (Unraced key s i) :=
  match next : nextCommand s i with
  | some (.sismember key' member) =>
      if same : key' = key then
        decidable_of_iff (∀ j, nextCommand s j ≠ some (.sadd key member)) (by
          subst same
          constructor
          · intro free member' asks
            obtain ⟨-, rfl⟩ : key' = key' ∧ member = member' := by simpa [next] using asks
            exact free
          · intro unraced
            exact unraced member next)
      else isTrue fun member' asks => by simp [next, same] at asks
  | none => isTrue fun member' asks => by simp [next] at asks
  | some (.get _) => isTrue fun member' asks => by simp [next] at asks
  | some (.setex _ _ _) => isTrue fun member' asks => by simp [next] at asks
  | some (.del _) => isTrue fun member' asks => by simp [next] at asks
  | some (.sadd _ _) => isTrue fun member' asks => by simp [next] at asks

/-- One request after the other is unraced. -/
theorem oneVotePerNumber_of_unraced_sample :
    OneVotePerNumber sampleUssdBallot (fun i => (sampleRequests i).phone) sampleUssd
      (List.replicate 6 false ++ List.replicate 6 true) ∧
    OneVotePerNumber sampleSmsBallot (fun i => (sampleMessages i).phone) sampleSms
      (List.replicate 3 false ++ List.replicate 3 true) :=
  ⟨(oneVotePerNumber_of_unraced USSDVoteService.sampleSha256 id "ussd-salt-replace"
      SMSVoteService.sampleConfig).1 sampleRequests sampleSessions _ (by decide +kernel),
    (oneVotePerNumber_of_unraced SMSVoteService.sampleSha256 id "ussd-salt-replace"
      SMSVoteService.sampleConfig).2 sampleMessages Database.empty _ (by decide +kernel)⟩

/-- Two answers that both report a vote on one policy. -/
theorem not_oneVotePerNumber {V Reply : Type} {ballot : Ballot Reply} {phone : Bool → String}
    {start : Concurrent Bool V Reply} {schedule : List Bool} {policyId : String}
    (sameNumber : phone false = phone true)
    (recorded : ∀ i, (((concurrently Bool V Reply).run start schedule).calls i).getRight?.bind
      ballot.votedOn = some policyId) : ¬ OneVotePerNumber ballot phone start schedule := by
  intro held
  obtain ⟨a, resultA, votedA⟩ := Option.bind_eq_some_iff.mp (recorded false)
  obtain ⟨b, resultB, votedB⟩ := Option.bind_eq_some_iff.mp (recorded true)
  exact Bool.false_ne_true (held.atMostOne policyId false true a b sameNumber
    (Sum.getRight?_eq_some_iff.mp resultA) votedA (Sum.getRight?_eq_some_iff.mp resultB) votedB)

/-- Both requests ask before either adds, and both are recorded. -/
theorem oneVotePerNumber_counterexample :
    ¬ OneVotePerNumber sampleUssdBallot (fun i => (sampleRequests i).phone) sampleUssd
      (List.replicate 3 false ++ List.replicate 3 true ++ List.replicate 3 false ++
        List.replicate 3 true) ∧
    ¬ OneVotePerNumber sampleSmsBallot (fun i => (sampleMessages i).phone) sampleSms
      [false, true, false, true, false, true] :=
  ⟨not_oneVotePerNumber rfl (show ∀ i, _ = some "pol-001" by decide +kernel),
    not_oneVotePerNumber rfl (show ∀ i, _ = some "POL-001" by decide +kernel)⟩

end TheVoteApp.PhoneVoting
