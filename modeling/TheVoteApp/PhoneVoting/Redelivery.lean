import TheVoteApp.Foundations.Redelivery
import TheVoteApp.PhoneVoting.Ussd

/-!
# Redelivered USSD requests

The gateway sends the whole text of a session with every request, so a request
that arrives twice could be recognised: its text has not grown.  The handler
looks at the last input only, and at the stored step; a second delivery answers
the next question with the same input.

A session is safe under redelivery exactly when every request of it arrives in a
session that it leaves `Settled`.  A session that accepts an option is not.

## Main definitions

* `sessionAfter`, `nullifierCast` — the stored session after a request, and the
  nullifier it casts a vote under
* `machine` — the requests of one session
* `RedeliverySafe` — redelivery changes nothing
-/

namespace TheVoteApp.USSDVoteService

open Foundations JavaScript Redis

/-! ## What one request leaves behind -/

/-- A session without a policy, after an input. -/
def Session.afterPolicyInput (session : Session) (last : String) : Session :=
  if last = "0" then
    { session with policyIndex := (session.policyIndex + 3) % policies.length }
  else
    match choice policies session.policyIndex last with
    | none => session
    | some policy => { session with policyId := some policy.id, step := 1 }

/-- A session that waits for an option, after an input. -/
def Session.afterOptionInput (session : Session) (policyId last : String) : Session :=
  match property optionMap last with
  | none => session
  | some optionId => { session with
      step := 2, policyId := some (policyBase policyId ++ ":" ++ optionId) }

/-- The stored session after a request, if one is stored. -/
def sessionAfter (stored : Option Session) (inputs : List String) : Option Session :=
  let session := stored.getD .initial
  match inputs.getLast? with
  | none => some session
  | some last =>
    if last = "#" then none
    else
      match session.policy with
      | none => some (session.afterPolicyInput last)
      | some policyId =>
        if session.step = 1 then some (session.afterOptionInput policyId last)
        else if session.step = 2 then none
        else some session

section Requests

variable (sha256 : String → String) (salt sessionId phone : String)

/-- The nullifier a request casts a vote under, if it confirms one. -/
def nullifierCast (stored : Option Session) (inputs : List String) : Option String :=
  let session := stored.getD .initial
  match session.policy with
  | none => none
  | some policyId =>
    if session.step = 2 ∧ inputs.getLast? = some "1" then
      some (deriveNullifier sha256 salt phone (policyBase policyId))
    else none

/-- The database with a session stored or deleted. -/
def storeSession (redis : Database Session) : Option Session → Database Session
  | some session => redis.setString (sessionKey sessionId) session
  | none => redis.delete (sessionKey sessionId)

/-- The database with a nullifier added. -/
def addNullifier (redis : Database Session) : Option String → Database Session
  | some nullifier => redis.addMember nullifiersKey nullifier
  | none => redis

/-- The requests of one session, each with its reply. -/
def machine : Machine (Database Session) String (String × Reply) Unit where
  call redis text :=
    let visit := (handle sha256 salt sessionId phone text).run exec redis
    .ok (visit.2, [(text, visit.1)])

variable {sha256 salt sessionId phone}

theorem run_selectPolicy_snd (redis : Database Session) (session : Session) (last : String) :
    ((selectPolicyOn policies sessionId session last).run exec
      (redis.setString (sessionKey sessionId) session)).2 =
        redis.setString (sessionKey sessionId) (session.afterPolicyInput last) := by
  unfold selectPolicyOn saveSession Session.afterPolicyInput
  split
  · simp [exec]
  · cases choice policies session.policyIndex last <;> simp [exec]

theorem run_selectOption_snd (redis : Database Session) (session : Session)
    (policyId last : String) :
    ((selectOption sessionId session policyId last).run exec
      (redis.setString (sessionKey sessionId) session)).2 =
        redis.setString (sessionKey sessionId) (session.afterOptionInput policyId last) := by
  unfold selectOption saveSession Session.afterOptionInput
  cases property optionMap last <;> simp [exec]

/-- A nullifier that is already spent is not added, which leaves the same set. -/
theorem run_confirmVote_snd (redis : Database Session) (session : Session)
    (policyId last : String) :
    ((confirmVote sha256 salt sessionId phone policyId last).run exec
      (redis.setString (sessionKey sessionId) session)).2 =
        (addNullifier redis (if last = "1" then
          some (deriveNullifier sha256 salt phone (policyBase policyId)) else none)).delete
          (sessionKey sessionId) := by
  unfold confirmVote
  by_cases confirms : last = "1"
  · simp only [confirms, ne_eq, not_true_eq_false, if_false, if_true, sismember_bind,
      Program.run_command, exec, Database.sets_setString, addNullifier]
    cases spent : redis.sets nullifiersKey
        (deriveNullifier sha256 salt phone (policyBase policyId)) with
    | true =>
        rw [Database.addMember_of_mem spent]
        simp [exec]
    | false => simp [exec, Database.addMember_setString]
  · simp [confirms, exec, addNullifier]

/-- **What one request does** to the database: it may cast a vote, and it stores
or deletes its session. -/
theorem run_handle_snd (redis : Database Session) (text : String) :
    ((handle sha256 salt sessionId phone text).run exec redis).2 =
      storeSession sessionId
        (addNullifier redis (nullifierCast sha256 salt phone
          (redis.strings (sessionKey sessionId)) (inputs text)))
        (sessionAfter (redis.strings (sessionKey sessionId)) (inputs text)) := by
  generalize entry : redis.strings (sessionKey sessionId) = stored
  generalize named : stored.getD .initial = session
  simp only [handle, handleOn, getSession, saveSession, get_bind, setex_bind, Program.run_command,
    exec, entry, named, nullifierCast, sessionAfter]
  cases last : (inputs text).getLast? with
  | none => cases session.policy <;> simp [storeSession, addNullifier]
  | some input =>
      by_cases exits : input = "#"
      · subst exits
        cases session.policy <;> simp [storeSession, addNullifier, exec]
      · simp only [exits, if_false]
        cases policy : session.policy with
        | none => exact run_selectPolicy_snd redis session input
        | some policyId =>
            by_cases first : session.step = 1
            · simp only [first, if_true, Nat.reduceEqDiff, false_and, if_false]
              exact run_selectOption_snd redis session policyId input
            · by_cases second : session.step = 2
              · simp only [second, Nat.reduceEqDiff, if_true, if_false, true_and,
                  Option.some.injEq]
                exact run_confirmVote_snd redis session policyId input
              · simp [first, second, storeSession, addNullifier]

theorem next_eq (redis : Database Session) (text : String) :
    (machine sha256 salt sessionId phone).next redis text =
      storeSession sessionId
        (addNullifier redis (nullifierCast sha256 salt phone
          (redis.strings (sessionKey sessionId)) (inputs text)))
        (sessionAfter (redis.strings (sessionKey sessionId)) (inputs text)) :=
  run_handle_snd redis text

/-! ## Sessions a second delivery leaves alone -/

/-- A second delivery of the same inputs changes nothing: the text is empty or
exits, or the last input is refused, or it chooses a policy and would be refused
as an option. -/
def Settled (stored : Option Session) (inputs : List String) : Prop :=
  let session := stored.getD .initial
  match inputs.getLast? with
  | none => True
  | some last => last = "#" ∨
    match session.policy with
    | none => last ≠ "0" ∧
        (choice policies session.policyIndex last = none ∨ property optionMap last = none)
    | some _ => session.step ≠ 2 ∧ (session.step = 1 → property optionMap last = none)

theorem policy_of_nonempty (session : Session) {policyId : String}
    (stored : session.policyId = some policyId) (nonempty : policyId ≠ "") :
    session.policy = some policyId := by
  simp [Session.policy, stored, nonempty]

theorem mem_policies_of_choice {policyIndex : ℕ} {last : String} {policy : Policy}
    (chosen : choice policies policyIndex last = some policy) : policy ∈ policies := by
  unfold choice at chosen
  cases number : parseInt last with
  | none => simp [number] at chosen
  | some n =>
      simp only [number] at chosen
      split at chosen
      · cases chosen
      · exact List.mem_of_getElem? chosen

theorem id_ne_empty_of_choice {policyIndex : ℕ} {last : String} {policy : Policy}
    (chosen : choice policies policyIndex last = some policy) : policy.id ≠ "" := by
  have all : ∀ policy ∈ policies, policy.id ≠ "" := by decide
  exact all policy (mem_policies_of_choice chosen)

/-- The next page is another page. -/
theorem nextPage_ne (policyIndex : ℕ) :
    ((policyIndex + 3) % policies.length + 3) % policies.length ≠
      (policyIndex + 3) % policies.length := by
  rw [show policies.length = 5 from rfl]
  omega

theorem afterPolicyInput_ne_of_page (session : Session) :
    (session.afterPolicyInput "0").afterPolicyInput "0" ≠ session.afterPolicyInput "0" := by
  intro same
  have index := congrArg Session.policyIndex same
  simp only [Session.afterPolicyInput, if_true] at index
  exact nextPage_ne session.policyIndex index

/-- Before a policy is chosen. -/
theorem settled_iff_of_policy_none {stored : Option Session} {inputs : List String}
    {input : String} (last : inputs.getLast? = some input) (goesOn : input ≠ "#")
    (policy : (stored.getD .initial).policy = none) :
    Settled stored inputs ↔
      sessionAfter (sessionAfter stored inputs) inputs = sessionAfter stored inputs := by
  generalize named : stored.getD .initial = session at policy
  have first : sessionAfter stored inputs = some (session.afterPolicyInput input) := by
    simp [sessionAfter, last, goesOn, named, policy]
  rw [first]
  simp only [Settled, last, goesOn, false_or, named, policy]
  by_cases page : input = "0"
  · have paged : (session.afterPolicyInput input).policy = none := by
      simpa [Session.afterPolicyInput, page, Session.policy] using policy
    have second : sessionAfter (some (session.afterPolicyInput input)) inputs =
        some ((session.afterPolicyInput input).afterPolicyInput input) := by
      simp [sessionAfter, last, goesOn, paged]
    rw [second]
    subst page
    simpa using afterPolicyInput_ne_of_page session
  · cases chosen : choice policies session.policyIndex input with
    -- a choice that is not on the page leaves the session as it is
    | none =>
        have stays : session.afterPolicyInput input = session := by
          simp [Session.afterPolicyInput, page, chosen]
        simp [sessionAfter, last, goesOn, policy, stays, page]
    | some choice =>
        have selects : session.afterPolicyInput input =
            { session with policyId := some choice.id, step := 1 } := by
          simp [Session.afterPolicyInput, page, chosen]
        have selected := policy_of_nonempty
          { session with policyId := some choice.id, step := 1 } rfl
          (id_ne_empty_of_choice chosen)
        rw [selects]
        simp only [sessionAfter, last, goesOn, if_false, Option.getD_some, selected, if_true,
          Session.afterOptionInput]
        cases property optionMap input <;> simp [page]

/-- Once a policy is chosen. -/
theorem settled_iff_of_policy_some {stored : Option Session} {inputs : List String}
    {input policyId : String} (last : inputs.getLast? = some input) (goesOn : input ≠ "#")
    (policy : (stored.getD .initial).policy = some policyId) :
    Settled stored inputs ↔
      sessionAfter (sessionAfter stored inputs) inputs = sessionAfter stored inputs := by
  generalize named : stored.getD .initial = session at policy
  simp only [Settled, last, goesOn, false_or, named, policy]
  by_cases one : session.step = 1
  · have first : sessionAfter stored inputs =
        some (session.afterOptionInput policyId input) := by
      simp [sessionAfter, last, goesOn, named, policy, one]
    rw [first]
    cases option : property optionMap input with
    -- an unknown option leaves the session as it is
    | none =>
        have stays : session.afterOptionInput policyId input = session := by
          simp [Session.afterOptionInput, option]
        simp [stays, sessionAfter, last, goesOn, policy, one]
    | some optionId =>
        have selects : session.afterOptionInput policyId input = { session with
            step := 2
            policyId := some (policyBase policyId ++ ":" ++ optionId) } := by
          simp [Session.afterOptionInput, option]
        have selected := policy_of_nonempty { session with
            step := 2
            policyId := some (policyBase policyId ++ ":" ++ optionId) } rfl (by simp)
        rw [selects]
        simp only [sessionAfter, last, goesOn, if_false, Option.getD_some, selected]
        simp [one]
  · by_cases two : session.step = 2
    · have first : sessionAfter stored inputs = none := by
        simp [sessionAfter, last, goesOn, named, policy, two]
      have fresh : Session.initial.policy = none := rfl
      rw [first]
      simp [sessionAfter, last, goesOn, fresh, two]
    · simp [sessionAfter, last, goesOn, named, policy, one, two]

/-- **Settled sessions** are those that a second delivery leaves alone. -/
theorem settled_iff (stored : Option Session) (inputs : List String) :
    Settled stored inputs ↔
      sessionAfter (sessionAfter stored inputs) inputs = sessionAfter stored inputs := by
  cases last : inputs.getLast? with
  | none => simp [Settled, sessionAfter, last]
  | some input =>
      by_cases exits : input = "#"
      · simp [Settled, sessionAfter, last, exits]
      · cases policy : (stored.getD .initial).policy with
        | none => exact settled_iff_of_policy_none last exits policy
        | some policyId => exact settled_iff_of_policy_some last exits policy

/-- A settled request casts no vote. -/
theorem nullifierCast_of_settled {stored : Option Session} {inputs : List String}
    (settled : Settled stored inputs) : nullifierCast sha256 salt phone stored inputs = none := by
  unfold nullifierCast Settled at *
  cases policy : (stored.getD .initial).policy with
  | none => simp only [policy]
  | some policyId =>
      simp only [policy]
      refine if_neg ?_
      rintro ⟨two, last⟩
      simp [last, policy, two] at settled

/-- Reading back the session a request stored. -/
theorem strings_storeSession (redis : Database Session) (session : Option Session) :
    (storeSession sessionId redis session).strings (sessionKey sessionId) = session := by
  cases session <;> simp [storeSession]

theorem storeSession_storeSession (redis : Database Session) (session : Option Session) :
    storeSession sessionId (storeSession sessionId redis session) session =
      storeSession sessionId redis session := by
  cases session <;> simp [storeSession]

/-- **Idempotent requests** are those that arrive in a settled session. -/
theorem idempotent_iff (redis : Database Session) (text : String) :
    (machine sha256 salt sessionId phone).Idempotent redis text ↔
      Settled (redis.strings (sessionKey sessionId)) (inputs text) := by
  constructor
  · intro idempotent
    rw [settled_iff]
    have sessions := congrArg (fun redis => redis.strings (sessionKey sessionId)) idempotent
    simp only [next_eq, strings_storeSession] at sessions
    exact sessions
  · intro settled
    have fixed := (settled_iff _ _).mp settled
    have again := (settled_iff _ _).mpr (congrArg (sessionAfter · (inputs text)) fixed)
    rw [Machine.Idempotent, next_eq, next_eq, strings_storeSession, fixed,
      nullifierCast_of_settled again, nullifierCast_of_settled settled]
    exact storeSession_storeSession _ _

/-- The reply says that a vote was recorded. -/
def Reply.IsVote : Reply → Prop
  | .recorded _ _ _ => True
  | _ => False

theorem not_isVote_selectPolicyOn (redis : Database Session) (session : Session) (last : String) :
    ¬ ((selectPolicyOn policies sessionId session last).run exec redis).1.IsVote := by
  unfold selectPolicyOn saveSession
  split
  · exact id
  · cases choice policies session.policyIndex last <;> exact id

theorem not_isVote_selectOption (redis : Database Session) (session : Session)
    (policyId last : String) :
    ¬ ((selectOption sessionId session policyId last).run exec redis).1.IsVote := by
  unfold selectOption saveSession
  cases property optionMap last <;> exact id

/-- A settled request is not answered that its vote was recorded. -/
theorem not_isVote_of_settled {redis : Database Session} {text : String}
    (settled : Settled (redis.strings (sessionKey sessionId)) (inputs text)) :
    ¬ ((handle sha256 salt sessionId phone text).run exec redis).1.IsVote := by
  unfold Settled at settled
  simp only [handle, handleOn, getSession, saveSession, get_bind, setex_bind, Program.run_command,
    exec]
  cases last : (inputs text).getLast? with
  | none => exact id
  | some input =>
      simp only [last] at settled
      by_cases exits : input = "#"
      · simp only [exits, if_true]
        exact id
      · simp only [exits, false_or, if_false] at settled ⊢
        cases policy : ((redis.strings (sessionKey sessionId)).getD Session.initial).policy with
        | none => exact not_isVote_selectPolicyOn _ _ _
        | some policyId =>
            simp only [policy] at settled
            simp only [settled.1, if_false]
            split
            · exact not_isVote_selectOption _ _ _ _
            · exact id

/-! ## Redelivery -/

/-- The texts of a session: each extends the one before by an entry, starting
from the empty text. -/
def requests (entries : List String) : List String :=
  (List.range (entries.length + 1)).map fun n => "*".intercalate (entries.take n)

/-- The inputs hold a confirmation after an option after a policy. -/
def Confirms (inputs : List String) : Prop :=
  ∃ policy option, property optionMap option ≠ none ∧ [policy, option, "1"].Sublist inputs

/-- Redelivering any of the requests leaves the same state and the same later
replies, and a vote is recorded only for a text that confirms one. -/
structure RedeliverySafe (sha256 : String → String) (salt sessionId phone : String)
    (redis : Database Session) (entries : List String) : Prop where
  state : ∀ extras done rest, requests entries = done ++ rest →
    (machine sha256 salt sessionId phone).run redis (Machine.redeliver extras done) =
      (machine sha256 salt sessionId phone).run redis done
  replies : ∀ extras done text rest, requests entries = done ++ text :: rest →
    (machine sha256 salt sessionId phone).emitted
        ((machine sha256 salt sessionId phone).run redis (Machine.redeliver extras done)) text =
      (machine sha256 salt sessionId phone).emitted
        ((machine sha256 salt sessionId phone).run redis done) text
  confirmed : ∀ extras, ∀ entry ∈ (machine sha256 salt sessionId phone).events redis
    (Machine.redeliver extras (requests entries)), entry.2.IsVote → Confirms (inputs entry.1)

end Requests

/-- **Redelivery.**  A session is safe under redelivery if and only if each of
its requests, delivered once, arrives in a session that it leaves settled. -/
theorem redeliverySafe_iff (sha256 : String → String) (salt sessionId phone : String)
    (redis : Database Session) (entries : List String) :
    RedeliverySafe sha256 salt sessionId phone redis entries ↔
      (machine sha256 salt sessionId phone).Along
        (fun redis text => Settled (redis.strings (sessionKey sessionId)) (inputs text)) redis
        (requests entries) := by
  have settled_eq : (fun (redis : Database Session) (text : String) =>
      Settled (redis.strings (sessionKey sessionId)) (inputs text)) =
        (machine sha256 salt sessionId phone).Idempotent := by
    funext redis text
    exact propext (idempotent_iff redis text).symm
  rw [settled_eq]
  constructor
  · intro safe
    exact (Machine.run_redeliver_iff redis (requests entries)).mp safe.state
  · intro idempotent
    have state := (Machine.run_redeliver_iff redis (requests entries)).mpr idempotent
    refine ⟨state, ?_, ?_⟩
    · intro extras done text rest split
      rw [state extras done (text :: rest) split]
    · -- every delivery is settled, and so none is answered that a vote was recorded
      intro extras entry logged isVote
      have none : ∀ entry ∈ (machine sha256 salt sessionId phone).events redis
          (Machine.redeliver extras (requests entries)), ¬ entry.2.IsVote := by
        refine Machine.run_induction_along (I := fun _ log _ => ∀ entry ∈ log, ¬ entry.2.IsVote)
          (by simp) ?_ _ (Machine.run_redeliver idempotent extras).2
        intro redis log _ text redis' new held idempotent visited entry mem
        rcases List.mem_append.mp mem with old | fresh
        · exact held entry old
        · obtain ⟨-, rfl⟩ := Prod.mk.inj (Except.ok.inj visited)
          rw [List.mem_singleton.mp fresh]
          exact not_isVote_of_settled ((idempotent_iff redis text).mp idempotent)
      exact absurd isVote (none entry logged)

/-- One entry, delivered three times, answers for the policy, the option and the
confirmation. -/
theorem redeliverySafe_counterexample :
    ¬ RedeliverySafe sampleSha256 "ussd-salt-replace" "s1" "+254700000001" Database.empty
      ["1"] := by
  intro safe
  have logged : ("1", Reply.recorded "pol-001" (some "option-support")
      ("0x" ++ sampleSha256 "+254700000001pol-001ussd-salt-replace")) ∈
        (machine sampleSha256 "ussd-salt-replace" "s1" "+254700000001").events Database.empty
          (Machine.redeliver [0, 2] (requests ["1"])) := by
    decide
  obtain ⟨policy, option, -, confirms⟩ := safe.confirmed [0, 2] _ logged trivial
  have short : (inputs "1").length = 1 := by decide
  have long := confirms.length_le
  rw [short] at long
  simp at long

end TheVoteApp.USSDVoteService
