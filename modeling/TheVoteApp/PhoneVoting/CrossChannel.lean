import TheVoteApp.PhoneVoting.Interference
import TheVoteApp.PhoneVoting.Redelivery

/-!
# One number on two channels

The text message service and the USSD service each promise one vote per number
and policy.  Each keeps its own set of spent nullifiers, derives nullifiers with
its own salt and spells the id of a policy in its own case, so neither sees what
the other has recorded.

Within a channel the promise is kept.  Over both it is kept in the runs whose
every recorded vote finds the nullifier of the other channel unspent.

## Main definitions

* `machine` — the requests of both channels, and sessions that expire
* `Vote` — a vote a reply reports as recorded
* `ElsewhereUnspent` — a vote about to be recorded is not recorded on the other
  channel

## Design notes

The services share one Redis.  Their keys are apart (`sms:nullifiers`,
`ussd:nullifiers` and `ussd:session:`), so the state holds a database for each.
-/

namespace TheVoteApp.SMSVoteService

open Foundations JavaScript Redis

variable (toUpperCase : String → String) (config : Config)

/-- The policy of a message that votes. -/
def votePolicy (message : Message) : Option String :=
  if ¬ Permits config message.phone then none
  else
    match words toUpperCase message.body with
    | "VOTE" :: policyId :: optionRaw :: _ =>
      if (property optionMap optionRaw).isSome then some policyId else none
    | _ => none

/-- The policy of a vote that a reply reports as recorded. -/
def Reply.recordedPolicy : Reply → Option String
  | .recorded policyId _ _ _ => some policyId
  | _ => none

variable {toUpperCase config} {sha256 : String → String}

/-- A vote is recorded, and its nullifier spent, unless the nullifier is spent
already. -/
theorem run_handleInbound_recorded (redis : Database Unit) (message : Message) :
    ((handleInbound sha256 toUpperCase config message.phone message.body).run exec redis).2 =
      (match votePolicy toUpperCase config message with
      | some policyId => redis.addMember nullifiersKey
          (deriveNullifier sha256 config message.phone policyId)
      | none => redis) ∧
    ((handleInbound sha256 toUpperCase config message.phone message.body).run exec
        redis).1.recordedPolicy =
      (votePolicy toUpperCase config message).filter fun policyId =>
        !redis.sets nullifiersKey (deriveNullifier sha256 config message.phone policyId) := by
  rcases @handleInbound_cases sha256 toUpperCase config message with
    ⟨policyId, optionRaw, rest, optionId, permits, command, known, handled⟩ |
    ⟨⟨reply, noVote, handled⟩, unknown⟩
  · have votes : votePolicy toUpperCase config message = some policyId := by
      simp [votePolicy, permits, command, known]
    rw [handled, run_handleVote known, votes, Option.filter_some]
    cases spent : redis.sets nullifiersKey
        (deriveNullifier sha256 config message.phone policyId) with
    | true => exact ⟨(Database.addMember_of_mem spent).symm, rfl⟩
    | false => exact ⟨rfl, rfl⟩
  · have silent : votePolicy toUpperCase config message = none := by
      unfold votePolicy
      split
      · rfl
      · rename_i permits
        split
        · rename_i command
          simp [unknown _ _ _ (not_not.mp permits) command]
        · rfl
    rw [handled, silent]
    refine ⟨rfl, ?_⟩
    cases reply with
    | recorded policyId optionId nullifier txHash => cases noVote
    | _ => rfl

/-- The policy of a vote is one of the words of the message. -/
theorem mem_words_of_votePolicy {message : Message} {policyId : String}
    (vote : votePolicy toUpperCase config message = some policyId) :
    policyId ∈ words toUpperCase message.body := by
  unfold votePolicy at vote
  split at vote
  · cases vote
  split at vote
  · rename_i command
    split at vote
    · rw [command, ← Option.some.inj vote]
      exact List.mem_cons_of_mem _ List.mem_cons_self
    · cases vote
  · cases vote

/-- The words of a message are in upper case. -/
theorem toUpperCase_of_votePolicy {table : CaseTable} {message : Message} {policyId : String}
    (vote : votePolicy table.toUpperCase config message = some policyId) :
    table.toUpperCase policyId = policyId :=
  CaseTable.toUpperCase_of_forall fun _ mem =>
    CaseTable.upper_of_mem_toUpperCase
      (mem_of_mem_splitSpaces (mem_words_of_votePolicy vote) mem)

end TheVoteApp.SMSVoteService

namespace TheVoteApp.USSDVoteService

open Foundations JavaScript Redis

/-- The policy of a vote that a reply reports as recorded. -/
def Reply.recordedPolicy : Reply → Option String
  | .recorded policyId _ _ => some policyId
  | _ => none

/-- The policy a request confirms a vote on. -/
def confirmedPolicy (stored : Option Session) (inputs : List String) : Option String :=
  let session := stored.getD .initial
  match session.policy with
  | none => none
  | some policyId =>
    if session.step = 2 ∧ inputs.getLast? = some "1" then some (policyBase policyId) else none

theorem nullifierCast_eq_map (sha256 : String → String) (salt phone : String)
    (stored : Option Session) (inputs : List String) :
    nullifierCast sha256 salt phone stored inputs =
      (confirmedPolicy stored inputs).map (deriveNullifier sha256 salt phone) := by
  unfold nullifierCast confirmedPolicy
  dsimp only
  cases (stored.getD Session.initial).policy with
  | none => rfl
  | some policyId =>
      dsimp only
      split <;> rfl

variable {sha256 : String → String} {salt sessionId phone : String}

theorem recordedPolicy_run_selectPolicyOn (redis : Database Session) (session : Session)
    (last : String) :
    ((selectPolicyOn policies sessionId session last).run exec redis).1.recordedPolicy = none := by
  unfold selectPolicyOn saveSession
  split
  · rfl
  · cases choice policies session.policyIndex last <;> rfl

theorem recordedPolicy_run_selectOption (redis : Database Session) (session : Session)
    (policyId last : String) :
    ((selectOption sessionId session policyId last).run exec redis).1.recordedPolicy = none := by
  unfold selectOption saveSession
  cases property optionMap last <;> rfl

theorem recordedPolicy_run_confirmVote (redis : Database Session) (policyId last : String) :
    ((confirmVote sha256 salt sessionId phone policyId last).run exec redis).1.recordedPolicy =
      if last = "1" ∧ redis.sets nullifiersKey
          (deriveNullifier sha256 salt phone (policyBase policyId)) = false then
        some (policyBase policyId) else none := by
  unfold confirmVote
  by_cases confirms : last = "1"
  · simp only [confirms, ne_eq, not_true_eq_false, if_false, sismember_bind, Program.run_command,
      exec, true_and]
    cases redis.sets nullifiersKey (deriveNullifier sha256 salt phone (policyBase policyId)) <;>
      rfl
  · simp [confirms, Reply.recordedPolicy]

/-- A confirmed vote is recorded unless its nullifier is spent already. -/
theorem recordedPolicy_run_handle (redis : Database Session) (text : String) :
    ((handle sha256 salt sessionId phone text).run exec redis).1.recordedPolicy =
      (confirmedPolicy (redis.strings (sessionKey sessionId)) (inputs text)).filter fun policyId =>
        !redis.sets nullifiersKey (deriveNullifier sha256 salt phone policyId) := by
  generalize entry : redis.strings (sessionKey sessionId) = stored
  simp only [handle, handleOn, getSession, saveSession, get_bind, setex_bind, Program.run_command,
    exec, entry, confirmedPolicy]
  cases last : (inputs text).getLast? with
  | none =>
      cases (stored.getD Session.initial).policy <;> simp [Reply.recordedPolicy]
  | some input =>
      by_cases exits : input = "#"
      · cases (stored.getD Session.initial).policy <;> simp [exits, Reply.recordedPolicy]
      · simp only [exits, if_false]
        cases (stored.getD Session.initial).policy with
        | none => exact recordedPolicy_run_selectPolicyOn _ _ _
        | some policyId =>
            dsimp only
            by_cases option : (stored.getD Session.initial).step = 1
            · rw [if_pos option, recordedPolicy_run_selectOption]
              simp [option]
            by_cases confirm : (stored.getD Session.initial).step = 2
            · rw [if_neg option, if_pos confirm, recordedPolicy_run_confirmVote,
                Database.sets_setString]
              by_cases one : input = "1"
              · subst one
                simp [confirm, Option.filter_some]
              · simp [one]
            · simp [option, confirm, Reply.recordedPolicy]

/-! ## What storing a session leaves alone -/

theorem strings_storeSession_cases {redis : Database Session} {session : Option Session}
    {key : String} {stored : Session}
    (found : (storeSession sessionId redis session).strings key = some stored) :
    session = some stored ∨ redis.strings key = some stored := by
  cases session with
  | none =>
      rw [storeSession, Database.strings_delete, Function.update_apply] at found
      split at found
      · cases found
      · exact .inr found
  | some session =>
      rw [storeSession, Database.strings_setString, Function.update_apply] at found
      split at found
      · exact .inl found
      · exact .inr found

theorem sets_storeSession (redis : Database Session) (sessionId : String)
    (session : Option Session) :
    (storeSession sessionId redis session).sets nullifiersKey =
      redis.sets nullifiersKey := by
  cases session with
  | none => exact redis.sets_delete_of_ne (nullifiersKey_ne_sessionKey sessionId)
  | some session => rfl

theorem strings_addNullifier (redis : Database Session)
    (nullifier : Option String) :
    (addNullifier redis nullifier).strings = redis.strings := by
  cases nullifier <;> rfl

/-! ## Sessions hold policies of the menu -/

theorem policyBase_eq (policyId : String) :
    policyBase policyId = String.ofList (policyId.toList.takeWhile (· ≠ ':')) :=
  headD_split ':' policyId ""

theorem policyBase_policyBase_append (policyId option : String) :
    policyBase (policyBase policyId ++ ":" ++ option) = policyBase policyId := by
  have ends : ∀ c ∈ policyId.toList.takeWhile (· ≠ ':'), c ≠ ':' := fun c mem => by
    simpa using List.mem_takeWhile_imp mem
  rw [policyBase_eq, policyBase_eq policyId]
  apply congrArg String.ofList
  rw [String.toList_append, String.toList_append, String.toList_ofList, List.append_assoc,
    List.takeWhile_append_of_pos (by simpa using ends)]
  simp

/-- The policy of a session, if it has one, is on the menu. -/
def Session.OnMenu (session : Session) : Prop :=
  ∀ policyId, session.policy = some policyId → policyBase policyId ∈ policies.map Policy.id

theorem onMenu_initial : Session.initial.OnMenu := by
  intro policyId none
  cases none

theorem onMenu_afterPolicyInput {session : Session} (onMenu : session.OnMenu) (last : String) :
    (session.afterPolicyInput last).OnMenu := by
  unfold Session.afterPolicyInput
  split
  · exact onMenu
  · cases chosen : choice policies session.policyIndex last with
    | none => exact onMenu
    | some policy =>
        intro policyId stored
        have base : ∀ policy ∈ policies, policyBase policy.id = policy.id := by decide
        have mem := mem_policies_of_choice chosen
        obtain rfl : policy.id = policyId := by
          have value := (Option.filter_eq_some_iff.mp stored).1
          exact Option.some.inj value
        rw [base policy mem]
        exact List.mem_map_of_mem mem

theorem onMenu_afterOptionInput {session : Session} (onMenu : session.OnMenu) {policyId : String}
    (policy : session.policy = some policyId) (last : String) :
    (session.afterOptionInput policyId last).OnMenu := by
  unfold Session.afterOptionInput
  cases property optionMap last with
  | none => exact onMenu
  | some optionId =>
      intro stored policy'
      have value := Option.some.inj (Option.filter_eq_some_iff.mp policy').1
      rw [← value, policyBase_policyBase_append]
      exact onMenu policyId policy

theorem onMenu_sessionAfter {stored : Option Session}
    (onMenu : ∀ session, stored = some session → session.OnMenu) (inputs : List String)
    {session : Session} (after : sessionAfter stored inputs = some session) :
    session.OnMenu := by
  have before : (stored.getD .initial).OnMenu := by
    cases stored with
    | none => exact onMenu_initial
    | some session => exact onMenu session rfl
  unfold sessionAfter at after
  cases last : inputs.getLast? with
  | none =>
      simp only [last, Option.some.injEq] at after
      exact after ▸ before
  | some input =>
      simp only [last] at after
      split at after
      · cases after
      cases policy : (stored.getD Session.initial).policy with
      | none =>
          simp only [policy, Option.some.injEq] at after
          exact after ▸ onMenu_afterPolicyInput before input
      | some policyId =>
          simp only [policy] at after
          split at after
          · exact Option.some.inj after ▸ onMenu_afterOptionInput before policy input
          split at after
          · cases after
          · exact Option.some.inj after ▸ before

theorem confirmedPolicy_mem {stored : Option Session}
    (onMenu : ∀ session, stored = some session → session.OnMenu) {inputs : List String}
    {policyId : String} (confirmed : confirmedPolicy stored inputs = some policyId) :
    policyId ∈ policies.map Policy.id := by
  have before : (stored.getD .initial).OnMenu := by
    cases stored with
    | none => exact onMenu_initial
    | some session => exact onMenu session rfl
  unfold confirmedPolicy at confirmed
  cases policy : (stored.getD Session.initial).policy with
  | none => simp [policy] at confirmed
  | some chosen =>
      simp only [policy, Option.ite_none_right_eq_some, Option.some.injEq] at confirmed
      exact confirmed.2 ▸ before chosen policy

end TheVoteApp.USSDVoteService

namespace TheVoteApp.PhoneVoting

open Foundations JavaScript Redis

/-- What both services are configured with, and the functions they call. -/
structure Environment where
  sha256 : String → String
  table : CaseTable
  sms : SMSVoteService.Config
  ussdSalt : String

/-- The keys of the two services. -/
structure Channels where
  sms : Database Unit
  ussd : Database USSDVoteService.Session

/-- Neither service has stored anything. -/
def Channels.empty : Channels := ⟨Database.empty, Database.empty⟩

/-- A request to either service, or the end of a session's life. -/
inductive Request where
  | sms (message : SMSVoteService.Message)
  | ussd (sessionId phone text : String)
  | sessionExpires (sessionId : String)

/-- The way a vote came in. -/
inductive Channel where
  | sms
  | ussd
deriving DecidableEq

/-- A vote that a reply reports as recorded. -/
structure Vote where
  channel : Channel
  phone : String
  policyId : String
deriving DecidableEq

namespace Environment

variable (env : Environment)

/-- Ids of one policy, in any case. -/
def SamePolicy (id id' : String) : Prop := env.table.toUpperCase id = env.table.toUpperCase id'

instance decidableSamePolicy (id id' : String) : Decidable (env.SamePolicy id id') :=
  inferInstanceAs (Decidable (_ = _))

/-- The nullifier under the salt of the SMS service. -/
def smsNullifier (phone policyId : String) : String :=
  SMSVoteService.deriveNullifier env.sha256 env.sms phone policyId

/-- The nullifier under the salt of the USSD service. -/
def ussdNullifier (phone policyId : String) : String :=
  USSDVoteService.deriveNullifier env.sha256 env.ussdSalt phone policyId

/-- Both services, one request after the other. -/
def machine : Machine Channels Request Vote Unit where
  call channels
    | .sms message =>
        let handled := (SMSVoteService.handleInbound env.sha256 env.table.toUpperCase env.sms
          message.phone message.body).run exec channels.sms
        .ok ({ channels with sms := handled.2 },
          (handled.1.recordedPolicy.map (Vote.mk .sms message.phone)).toList)
    | .ussd sessionId phone text =>
        let handled := (USSDVoteService.handle env.sha256 env.ussdSalt sessionId phone text).run
          exec channels.ussd
        .ok ({ channels with ussd := handled.2 },
          (handled.1.recordedPolicy.map (Vote.mk .ussd phone)).toList)
    | .sessionExpires sessionId =>
        .ok ({ channels with
          ussd := channels.ussd.delete (USSDVoteService.sessionKey sessionId) }, [])

/-- The votes of a number on a policy. -/
def votesOf (phone policyId : String) (votes : List Vote) : List Vote :=
  votes.filter fun vote => vote.phone = phone ∧ env.SamePolicy vote.policyId policyId

/-- If the request has a vote to record, then the nullifier of that number and
policy is unspent on the other channel. -/
def ElsewhereUnspent (channels : Channels) : Request → Prop
  | .sms message =>
      ∀ policyId ∈ SMSVoteService.votePolicy env.table.toUpperCase env.sms message,
        channels.sms.sets SMSVoteService.nullifiersKey (env.smsNullifier message.phone policyId) =
            false →
          ∀ policy ∈ USSDVoteService.policies, env.SamePolicy policy.id policyId →
            channels.ussd.sets USSDVoteService.nullifiersKey
              (env.ussdNullifier message.phone policy.id) = false
  | .ussd sessionId phone text =>
      ∀ policyId ∈ USSDVoteService.confirmedPolicy
          (channels.ussd.strings (USSDVoteService.sessionKey sessionId))
          (USSDVoteService.inputs text),
        channels.ussd.sets USSDVoteService.nullifiersKey (env.ussdNullifier phone policyId) =
            false →
          channels.sms.sets SMSVoteService.nullifiersKey
            (env.smsNullifier phone (env.table.toUpperCase policyId)) = false
  | .sessionExpires _ => True

instance decidableElsewhereUnspent (channels : Channels) :
    ∀ request, Decidable (env.ElsewhereUnspent channels request)
  | .sms _ => inferInstanceAs (Decidable (∀ _ ∈ _, _ → _))
  | .ussd _ _ _ => inferInstanceAs (Decidable (∀ _ ∈ _, _ → _))
  | .sessionExpires _ => isTrue trivial

/-! ## What is accounted for -/

/-- Two votes of one number on one policy. -/
def Same (vote other : Vote) : Prop :=
  vote.phone = other.phone ∧ env.SamePolicy vote.policyId other.policyId

/-- Sessions hold policies of the menu; every recorded vote has its nullifier
spent on its channel, and no two are of one number and policy. -/
structure Accounted (channels : Channels) (votes : List Vote) : Prop where
  sessions : ∀ key session, channels.ussd.strings key = some session → session.OnMenu
  sms : ∀ vote ∈ votes, vote.channel = .sms →
    env.table.toUpperCase vote.policyId = vote.policyId ∧
      channels.sms.sets SMSVoteService.nullifiersKey
        (env.smsNullifier vote.phone vote.policyId) = true
  ussd : ∀ vote ∈ votes, vote.channel = .ussd →
    vote.policyId ∈ USSDVoteService.policies.map USSDVoteService.Policy.id ∧
      channels.ussd.sets USSDVoteService.nullifiersKey
        (env.ussdNullifier vote.phone vote.policyId) = true
  single : votes.Pairwise fun vote other => ¬ env.Same vote other

variable {env : Environment} {channels : Channels} {votes : List Vote}

theorem eq_of_samePolicy_of_mem {id id' : String}
    (mem : id ∈ USSDVoteService.policies.map USSDVoteService.Policy.id)
    (mem' : id' ∈ USSDVoteService.policies.map USSDVoteService.Policy.id)
    (same : env.SamePolicy id id') : id = id' := by
  have ascii : ∀ id ∈ USSDVoteService.policies.map USSDVoteService.Policy.id,
      id.toList.all (·.toNat < 128) = true := by decide
  have distinct : ∀ id ∈ USSDVoteService.policies.map USSDVoteService.Policy.id,
      ∀ id' ∈ USSDVoteService.policies.map USSDVoteService.Policy.id,
        String.ofList (id.toList.map Char.toUpper) = String.ofList (id'.toList.map Char.toUpper) →
          id = id' := by decide
  refine distinct id mem id' mem' ?_
  rw [← CaseTable.toUpperCase_of_ascii (by simpa using ascii id mem),
    ← CaseTable.toUpperCase_of_ascii (by simpa using ascii id' mem')]
  exact same

/-- A further vote keeps the votes apart if none of them is of its number and
policy. -/
theorem single_concat {vote : Vote}
    (single : votes.Pairwise fun vote other => ¬ env.Same vote other)
    (fresh : ∀ earlier ∈ votes, ¬ env.Same earlier vote) :
    (votes ++ [vote]).Pairwise fun vote other => ¬ env.Same vote other := by
  refine List.pairwise_append.mpr ⟨single, List.pairwise_singleton _ _, ?_⟩
  intro earlier mem last same
  rw [List.mem_singleton.mp same]
  exact fresh earlier mem

theorem accounted_empty : env.Accounted Channels.empty [] where
  sessions _ _ stored := by cases stored
  sms _ mem := by cases mem
  ussd _ mem := by cases mem
  single := List.Pairwise.nil

/-! ## A text message -/

theorem next_sms (message : SMSVoteService.Message) :
    (env.machine.next channels (.sms message)).ussd = channels.ussd ∧
      (env.machine.next channels (.sms message)).sms =
        match SMSVoteService.votePolicy env.table.toUpperCase env.sms message with
        | some policyId => channels.sms.addMember SMSVoteService.nullifiersKey
            (env.smsNullifier message.phone policyId)
        | none => channels.sms :=
  ⟨rfl, (SMSVoteService.run_handleInbound_recorded channels.sms message).1⟩

theorem emitted_sms (message : SMSVoteService.Message) :
    env.machine.emitted channels (.sms message) =
      (((SMSVoteService.votePolicy env.table.toUpperCase env.sms message).filter fun policyId =>
        !channels.sms.sets SMSVoteService.nullifiersKey
          (env.smsNullifier message.phone policyId)).map (Vote.mk .sms message.phone)).toList :=
  congrArg (fun recorded => (Option.map (Vote.mk .sms message.phone) recorded).toList)
    (SMSVoteService.run_handleInbound_recorded channels.sms message).2

/-- A vote about to be recorded by text message is the first of its number and
policy. -/
theorem fresh_sms (accounted : env.Accounted channels votes)
    {message : SMSVoteService.Message} (unspent : env.ElsewhereUnspent channels (.sms message))
    {policyId : String}
    (cast : SMSVoteService.votePolicy env.table.toUpperCase env.sms message = some policyId)
    (own : channels.sms.sets SMSVoteService.nullifiersKey
      (env.smsNullifier message.phone policyId) = false) :
    ∀ earlier ∈ votes, ¬ env.Same earlier ⟨.sms, message.phone, policyId⟩ := by
  have upper := SMSVoteService.toUpperCase_of_votePolicy cast
  rintro ⟨channel, phone, policyId'⟩ mem ⟨samePhone, samePolicy⟩
  obtain rfl : phone = message.phone := samePhone
  cases channel with
  | sms =>
      obtain ⟨upper', spent⟩ := accounted.sms _ mem rfl
      obtain rfl : policyId' = policyId := upper'.symm.trans (samePolicy.trans upper)
      exact absurd (own.symm.trans spent) Bool.false_ne_true
  | ussd =>
      obtain ⟨onMenu, spent⟩ := accounted.ussd _ mem rfl
      obtain ⟨policy, offered, rfl⟩ := List.mem_map.mp onMenu
      have elsewhere := unspent policyId cast own policy offered samePolicy
      exact absurd (elsewhere.symm.trans spent) Bool.false_ne_true

theorem accounted_sms (accounted : env.Accounted channels votes)
    (message : SMSVoteService.Message) (unspent : env.ElsewhereUnspent channels (.sms message)) :
    env.Accounted (env.machine.next channels (.sms message))
      (votes ++ env.machine.emitted channels (.sms message)) := by
  obtain ⟨ussd, sms⟩ := @next_sms env channels message
  rw [emitted_sms]
  cases cast : SMSVoteService.votePolicy env.table.toUpperCase env.sms message with
  | none =>
      simp only [cast] at sms
      rw [show env.machine.next channels (.sms message) = channels by
        cases channels
        exact congrArg₂ Channels.mk sms ussd]
      simpa using accounted
  | some policyId =>
      simp only [cast] at sms
      have kept {nullifier : String}
          (spent : channels.sms.sets SMSVoteService.nullifiersKey nullifier = true) :
          (env.machine.next channels (.sms message)).sms.sets SMSVoteService.nullifiersKey
            nullifier = true := by
        rw [sms]
        exact (Database.sets_addMember_self ..).mpr (.inr spent)
      -- the votes of before stay accounted for, as no nullifier is taken back
      have earlier : env.Accounted (env.machine.next channels (.sms message)) votes :=
        ⟨ussd ▸ accounted.sessions, fun vote mem channel =>
          (accounted.sms vote mem channel).imp_right kept, ussd ▸ accounted.ussd,
          accounted.single⟩
      cases own : channels.sms.sets SMSVoteService.nullifiersKey
          (env.smsNullifier message.phone policyId) with
      | true => simpa [Option.filter_some, own] using earlier
      | false =>
          rw [Option.filter_some, own]
          refine ⟨earlier.sessions, ?_, ?_,
            single_concat accounted.single (fresh_sms accounted unspent cast own)⟩
          · refine List.forall_mem_append.mpr ⟨earlier.sms, ?_⟩
            refine List.forall_mem_singleton.mpr fun _ =>
              ⟨SMSVoteService.toUpperCase_of_votePolicy cast, ?_⟩
            rw [sms]
            exact (Database.sets_addMember_self ..).mpr (.inl rfl)
          · refine List.forall_mem_append.mpr ⟨earlier.ussd, ?_⟩
            exact List.forall_mem_singleton.mpr fun channel => by cases channel

/-! ## A USSD request -/

theorem next_ussd (sessionId phone text : String) :
    (env.machine.next channels (.ussd sessionId phone text)).sms = channels.sms ∧
      (env.machine.next channels (.ussd sessionId phone text)).ussd =
        USSDVoteService.storeSession sessionId
          (USSDVoteService.addNullifier channels.ussd
            ((USSDVoteService.confirmedPolicy
              (channels.ussd.strings (USSDVoteService.sessionKey sessionId))
              (USSDVoteService.inputs text)).map (env.ussdNullifier phone)))
          (USSDVoteService.sessionAfter
            (channels.ussd.strings (USSDVoteService.sessionKey sessionId))
            (USSDVoteService.inputs text)) := by
  refine ⟨rfl, (USSDVoteService.run_handle_snd channels.ussd text).trans ?_⟩
  rw [USSDVoteService.nullifierCast_eq_map]
  rfl

theorem emitted_ussd (sessionId phone text : String) :
    env.machine.emitted channels (.ussd sessionId phone text) =
      (((USSDVoteService.confirmedPolicy
          (channels.ussd.strings (USSDVoteService.sessionKey sessionId))
          (USSDVoteService.inputs text)).filter fun policyId =>
        !channels.ussd.sets USSDVoteService.nullifiersKey
          (env.ussdNullifier phone policyId)).map (Vote.mk .ussd phone)).toList :=
  congrArg (fun recorded => (Option.map (Vote.mk .ussd phone) recorded).toList)
    (USSDVoteService.recordedPolicy_run_handle channels.ussd text)

/-- A vote about to be recorded by USSD is the first of its number and policy. -/
theorem fresh_ussd (accounted : env.Accounted channels votes) {sessionId phone text : String}
    (unspent : env.ElsewhereUnspent channels (.ussd sessionId phone text)) {policyId : String}
    (confirmed : USSDVoteService.confirmedPolicy
      (channels.ussd.strings (USSDVoteService.sessionKey sessionId))
      (USSDVoteService.inputs text) = some policyId)
    (own : channels.ussd.sets USSDVoteService.nullifiersKey
      (env.ussdNullifier phone policyId) = false) :
    ∀ earlier ∈ votes, ¬ env.Same earlier ⟨.ussd, phone, policyId⟩ := by
  have onMenu := USSDVoteService.confirmedPolicy_mem (accounted.sessions _) confirmed
  rintro ⟨channel, phone', policyId'⟩ mem ⟨samePhone, samePolicy⟩
  obtain rfl : phone' = phone := samePhone
  cases channel with
  | sms =>
      obtain ⟨upper, spent⟩ := accounted.sms _ mem rfl
      have elsewhere := unspent policyId confirmed own
      obtain rfl : policyId' = env.table.toUpperCase policyId := upper.symm.trans samePolicy
      exact absurd (elsewhere.symm.trans spent) Bool.false_ne_true
  | ussd =>
      obtain ⟨onMenu', spent⟩ := accounted.ussd _ mem rfl
      obtain rfl : policyId' = policyId := eq_of_samePolicy_of_mem onMenu' onMenu samePolicy
      exact absurd (own.symm.trans spent) Bool.false_ne_true

theorem accounted_ussd (accounted : env.Accounted channels votes) (sessionId phone text : String)
    (unspent : env.ElsewhereUnspent channels (.ussd sessionId phone text)) :
    env.Accounted (env.machine.next channels (.ussd sessionId phone text))
      (votes ++ env.machine.emitted channels (.ussd sessionId phone text)) := by
  obtain ⟨sms, ussd⟩ := @next_ussd env channels sessionId phone text
  rw [emitted_ussd]
  have sessions : ∀ key session,
      (env.machine.next channels (.ussd sessionId phone text)).ussd.strings key = some session →
        session.OnMenu := by
    intro key session found
    rw [ussd] at found
    rcases USSDVoteService.strings_storeSession_cases found with after | before
    · exact USSDVoteService.onMenu_sessionAfter (accounted.sessions _) _ after
    · rw [USSDVoteService.strings_addNullifier] at before
      exact accounted.sessions key session before
  have spent : (env.machine.next channels (.ussd sessionId phone text)).ussd.sets
      USSDVoteService.nullifiersKey = _ :=
    (congrArg (fun redis => redis.sets USSDVoteService.nullifiersKey) ussd).trans
      (USSDVoteService.sets_storeSession _ _ _)
  -- without a confirmation nothing is spent and nothing recorded
  cases confirmed : USSDVoteService.confirmedPolicy
      (channels.ussd.strings (USSDVoteService.sessionKey sessionId))
      (USSDVoteService.inputs text) with
  | none =>
      rw [confirmed] at spent
      refine ⟨sessions, ?_, ?_, ?_⟩
      · simpa [sms] using accounted.sms
      · simpa [spent, USSDVoteService.addNullifier] using accounted.ussd
      · simpa using accounted.single
  | some policyId =>
      rw [confirmed] at spent
      have kept {nullifier : String}
          (before : channels.ussd.sets USSDVoteService.nullifiersKey nullifier = true) :
          (env.machine.next channels (.ussd sessionId phone text)).ussd.sets
            USSDVoteService.nullifiersKey nullifier = true := by
        rw [spent]
        exact (Database.sets_addMember_self ..).mpr (.inr before)
      -- the votes of before stay accounted for, as no nullifier is taken back
      have earlier : env.Accounted (env.machine.next channels (.ussd sessionId phone text)) votes :=
        ⟨sessions, sms ▸ accounted.sms, fun vote mem channel =>
          (accounted.ussd vote mem channel).imp_right kept, accounted.single⟩
      cases own : channels.ussd.sets USSDVoteService.nullifiersKey
          (env.ussdNullifier phone policyId) with
      | true => simpa [Option.filter_some, own] using earlier
      | false =>
          rw [Option.filter_some, own]
          refine ⟨sessions, ?_, ?_,
            single_concat accounted.single (fresh_ussd accounted unspent confirmed own)⟩
          · refine List.forall_mem_append.mpr ⟨earlier.sms, ?_⟩
            exact List.forall_mem_singleton.mpr fun channel => by cases channel
          · refine List.forall_mem_append.mpr ⟨earlier.ussd, ?_⟩
            refine List.forall_mem_singleton.mpr fun _ =>
              ⟨USSDVoteService.confirmedPolicy_mem (accounted.sessions _) confirmed, ?_⟩
            rw [spent]
            exact (Database.sets_addMember_self ..).mpr (.inl rfl)

/-! ## Runs of both services -/

/-- The end of a session spends and restores no nullifier. -/
theorem accounted_sessionExpires (accounted : env.Accounted channels votes) (sessionId : String) :
    env.Accounted (env.machine.next channels (.sessionExpires sessionId)) votes := by
  have spent := channels.ussd.sets_delete_of_ne
    (USSDVoteService.nullifiersKey_ne_sessionKey sessionId)
  refine ⟨fun key session found => ?_, accounted.sms, ?_, accounted.single⟩
  · rcases @USSDVoteService.strings_storeSession_cases sessionId channels.ussd none key session
      found with never | before
    · cases never
    · exact accounted.sessions key session before
  · intro vote mem channel
    exact (accounted.ussd vote mem channel).imp_right fun before =>
      (congrFun spent _).trans before

theorem accounted_run (requests : List Request)
    (unspent : env.machine.Along env.ElsewhereUnspent Channels.empty requests) :
    env.Accounted (env.machine.run Channels.empty requests)
      (env.machine.events Channels.empty requests) := by
  refine Machine.run_induction_along (I := fun channels votes _ => env.Accounted channels votes)
    accounted_empty ?_ requests unspent
  intro channels votes _ request channels' new accounted unspent success
  have next : env.machine.next channels request = channels' := Machine.next_of_ok success
  have emitted : env.machine.emitted channels request = new := Machine.emitted_of_ok success
  rw [← next, ← emitted]
  cases request with
  | sms message => exact accounted_sms accounted message unspent
  | ussd sessionId phone text => exact accounted_ussd accounted sessionId phone text unspent
  | sessionExpires sessionId =>
      have silent : env.machine.emitted channels (.sessionExpires sessionId) = [] := rfl
      rw [silent, List.append_nil]
      exact accounted_sessionExpires accounted sessionId

/-- **One vote per number and policy over both channels**, in every run whose
votes find the nullifier of the other channel unspent. -/
theorem votesOf_length_le_one (env : Environment) (requests : List Request)
    (unspent : env.machine.Along env.ElsewhereUnspent Channels.empty requests)
    (phone policyId : String) :
    (env.votesOf phone policyId (env.machine.events Channels.empty requests)).length ≤ 1 := by
  have single := (accounted_run requests unspent).single
  have apart := single.filter fun vote => vote.phone = phone ∧ env.SamePolicy vote.policyId policyId
  change (env.votesOf phone policyId _).Pairwise _ at apart
  have all : ∀ vote ∈ env.votesOf phone policyId (env.machine.events Channels.empty requests),
      vote.phone = phone ∧ env.SamePolicy vote.policyId policyId := fun vote mem => by
    simpa using (List.mem_filter.mp mem).2
  match votes : env.votesOf phone policyId (env.machine.events Channels.empty requests) with
  | [] => exact Nat.zero_le 1
  | [_] => exact le_rfl
  | first :: second :: rest =>
      rw [votes] at apart all
      have firstOf := all first List.mem_cons_self
      have secondOf := all second (List.mem_cons_of_mem _ List.mem_cons_self)
      exact absurd ⟨firstOf.1.trans secondOf.1.symm, firstOf.2.trans secondOf.2.symm⟩
        ((List.pairwise_cons.mp apart).1 second List.mem_cons_self)

/-! ## A number that votes by text message and by USSD -/

end Environment

/-- The digests of the texts that votes of one number hash. -/
def sampleSha256 (text : String) : String :=
  if text = "+254700000001POL-001default-salt-replace-in-prod" then
    "a70d6cb5fb9eaa323e3d87398eb4c1618d92a1f440786270885650358390d9c7"
  else if text =
      "0xa70d6cb5fb9eaa323e3d87398eb4c1618d92a1f440786270885650358390d9c7POL-001option-support" then
    "62fa9555782420663f6c799b444d92fcece8e7ca3d29d0b0bb75cc96d5a72fa9"
  else if text = "+254700000001pol-001ussd-salt-replace" then
    "387e419bf080601aac8a3e597f10b47a6fca66b39ecf33b95ca90d1660660b53"
  else if text = "+254700000001pol-002ussd-salt-replace" then
    "662f538a82aebddf35bab1c6762a08fa65a427221ee5df006e628b15a6c6d738"
  else ""

/-- The default configuration of both services. -/
def sampleEnvironment : Environment where
  sha256 := sampleSha256
  table := CaseTable.ofAscii
  sms := SMSVoteService.sampleConfig
  ussdSalt := "ussd-salt-replace"

/-- A vote by text message, and the USSD session that supports the policy of the
given number on the menu. -/
def mixedRequests (choice : String) : List Request :=
  .sms ⟨"+254700000001", "VOTE POL-001 SUPPORT"⟩ ::
    ["", choice, choice ++ "*1", choice ++ "*1*1"].map (.ussd "s1" "+254700000001")

/-- On two policies. -/
theorem votesOf_length_le_one_sample :
    (sampleEnvironment.votesOf "+254700000001" "pol-001"
      (sampleEnvironment.machine.events Channels.empty (mixedRequests "2"))).length ≤ 1 :=
  Environment.votesOf_length_le_one sampleEnvironment (mixedRequests "2") (by decide +kernel)
    "+254700000001" "pol-001"

/-- On one policy, by its two spellings. -/
theorem votesOf_counterexample :
    sampleEnvironment.votesOf "+254700000001" "pol-001"
        (sampleEnvironment.machine.events Channels.empty (mixedRequests "1")) =
      [⟨.sms, "+254700000001", "POL-001"⟩, ⟨.ussd, "+254700000001", "pol-001"⟩] := by
  decide +kernel

end TheVoteApp.PhoneVoting
