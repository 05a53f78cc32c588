import TheVoteApp.Fido2.Service
import TheVoteApp.Foundations.OpenPool

/-!
# Overlapping verifications

A verification reads the challenge with its first command and deletes it with
its last.  Between the two another verification can read the same challenge, and
both succeed.  The counter is read and written back by separate commands as
well, so a verification can overwrite a counter that was stored after it read.

A challenge is used once, and no counter decreases, in the runs where no
verification reads a challenge another one is still working with, and no command
writes a counter over a newer one.

## Main definitions

* `Stage`, `step` — a call between its commands, and its next command
* `machine` — any number of calls, and challenges that expire
* `SucceededOn` — a verification has accepted the response to a challenge
* `Undisturbed` — the condition on one command

## Main results

* `left_step` — the stages are the programs of the methods, one command at a time
* `oneTime_run`, `countersGrow_run` — the two guarantees, for the runs of
  undisturbed commands
-/

namespace TheVoteApp.FIDO2Service

open Foundations

variable {Registration Authentication : Type}

/-! ## Stages -/

/-- Where a call stands: the command that is next, with what the method knows by
then. -/
inductive Stage (Registration Authentication : Type) where
  | begins (call : Call Registration Authentication)
  | getsRecords (userId challenge : String) (ids : List String) (records : List StoredCredential)
  | setsCredential (userId expected : String) (credential : AttestedCredential)
  | addsCredential (userId expected : String) (credential : AttestedCredential)
  | getsCredential (userId : String) (response : Authentication) (expected : String)
  | readsCounter (userId : String) (response : Authentication) (expected : String)
      (record : StoredCredential) (newCounter : ℕ)
  | writesCounter (userId : String) (response : Authentication) (expected : String)
      (record : StoredCredential) (newCounter : ℕ) (stored : StoredCredential)
  | deletesChallenge (userId expected : String) (outcome : Outcome)
deriving DecidableEq

namespace Stage

variable (webAuthn : WebAuthn Registration Authentication)

/-- What is left of the method. -/
def program : Stage Registration Authentication → Program Outcome
  | .begins call => call.program webAuthn
  | .getsRecords userId challenge ids records => do
      let rest ← getCredentials ids
      issue (.setexChallenge userId challengeTTL challenge)
      return .options challenge ((records ++ rest).map StoredCredential.credentialID)
  | .setsCredential userId _ credential => do
      issue (.setCredential credential.id (credential.record userId))
      issue (.saddCredential userId credential.id)
      issue (.delChallenge userId)
      return .registered credential.id
  | .addsCredential userId _ credential => do
      issue (.saddCredential userId credential.id)
      issue (.delChallenge userId)
      return .registered credential.id
  | .getsCredential userId response expected => do
      let credential ← issue (.getCredential (webAuthn.credentialId response))
      match assert webAuthn userId response expected credential with
      | .error message => return .failed message
      | .ok newCounter => do
        updateCounter (webAuthn.credentialId response) newCounter
        issue (.delChallenge userId)
        return .authenticated
  | .readsCounter userId response _ _ newCounter => do
      updateCounter (webAuthn.credentialId response) newCounter
      issue (.delChallenge userId)
      return .authenticated
  | .writesCounter userId response _ _ newCounter stored => do
      issue (.setCredential (webAuthn.credentialId response) { stored with counter := newCounter })
      issue (.delChallenge userId)
      return .authenticated
  | .deletesChallenge userId _ outcome => do
      issue (.delChallenge userId)
      return outcome

end Stage

/-- The first command of a call. -/
def begin (webAuthn : WebAuthn Registration Authentication) (redis : Store) :
    Call Registration Authentication → Stage Registration Authentication ⊕ Outcome
  | .options userId challenge =>
      .inl (.getsRecords userId challenge (redis.userCredentials userId) [])
  | .registration userId response =>
    match pending (redis.challenges userId) with
    | none => .inr (.failed "No pending challenge for user")
    | some expected =>
      match attest webAuthn response expected with
      | .error message => .inr (.failed message)
      | .ok credential => .inl (.setsCredential userId expected credential)
  | .authentication userId response =>
    match pending (redis.challenges userId) with
    | none => .inr (.failed "No pending challenge for user")
    | some expected => .inl (.getsCredential userId response expected)

/-- The next command of a call. -/
def step (webAuthn : WebAuthn Registration Authentication) :
    Stage Registration Authentication → Store →
      (Stage Registration Authentication ⊕ Outcome) × Store
  | .begins call, redis => (begin webAuthn redis call, redis)
  | .getsRecords userId challenge (id :: ids) records, redis =>
      (.inl (.getsRecords userId challenge ids
        (records ++ (redis.credentials id).toList)), redis)
  | .getsRecords userId challenge [] records, redis =>
      (.inr (.options challenge (records.map StoredCredential.credentialID)),
        redis.setChallenge userId (some challenge))
  | .setsCredential userId expected credential, redis =>
      (.inl (.addsCredential userId expected credential),
        redis.setCredential credential.id (credential.record userId))
  | .addsCredential userId expected credential, redis =>
      (.inl (.deletesChallenge userId expected (.registered credential.id)),
        redis.addCredential userId credential.id)
  | .getsCredential userId response expected, redis =>
    match redis.credentials (webAuthn.credentialId response) with
    | none => (.inr (.failed "Credential not found for user"), redis)
    | some record =>
      match assert webAuthn userId response expected (some record) with
      | .error message => (.inr (.failed message), redis)
      | .ok newCounter => (.inl (.readsCounter userId response expected record newCounter), redis)
  | .readsCounter userId response expected record newCounter, redis =>
    match redis.credentials (webAuthn.credentialId response) with
    | none => (.inl (.deletesChallenge userId expected .authenticated), redis)
    | some stored =>
        (.inl (.writesCounter userId response expected record newCounter stored), redis)
  | .writesCounter userId response expected _ newCounter stored, redis =>
      (.inl (.deletesChallenge userId expected .authenticated),
        redis.setCredential (webAuthn.credentialId response)
          { stored with counter := newCounter })
  | .deletesChallenge userId _ outcome, redis => (.inr outcome, redis.setChallenge userId none)

/-- What is left of a call. -/
def leftProgram (webAuthn : WebAuthn Registration Authentication) :
    Stage Registration Authentication ⊕ Outcome → Program Outcome
  | .inl stage => stage.program webAuthn
  | .inr outcome => .done outcome

/-- **The stages are the methods**: a command of the program leads from what is
left at one stage to what is left at the next. -/
theorem left_step (webAuthn : WebAuthn Registration Authentication)
    (stage : Stage Registration Authentication) (redis : Store) :
    Program.left ((stage.program webAuthn).step exec redis).1 =
        leftProgram webAuthn (step webAuthn stage redis).1 ∧
      ((stage.program webAuthn).step exec redis).2 = (step webAuthn stage redis).2 := by
  -- the programs and the stages branch on the same replies of the store
  cases stage with
  | begins call =>
      cases call with
      | options userId challenge => exact ⟨rfl, rfl⟩
      | registration userId response =>
          simp only [Stage.program, Call.program, verifyRegistration, Program.command_bind,
            Program.done_bind, Program.step, Program.left, exec, step, begin]
          cases pending (redis.challenges userId) with
          | none => exact ⟨rfl, trivial⟩
          | some expected =>
              dsimp only
              cases attest webAuthn response expected <;> exact ⟨rfl, trivial⟩
      | authentication userId response =>
          simp only [Stage.program, Call.program, verifyAuthentication, Program.command_bind,
            Program.done_bind, Program.step, Program.left, exec, step, begin]
          cases pending (redis.challenges userId) <;> exact ⟨rfl, trivial⟩
  | getsRecords userId challenge ids records =>
      cases ids with
      | nil => exact ⟨by simp [Stage.program, getCredentials, Program.step, Program.left,
          leftProgram, step], rfl⟩
      | cons id ids =>
          simp [Stage.program, getCredentials, Program.step, Program.left, leftProgram, step, exec,
            Program.bind_assoc]
  | setsCredential userId expected credential => exact ⟨rfl, rfl⟩
  | addsCredential userId expected credential => exact ⟨rfl, rfl⟩
  | getsCredential userId response expected =>
      simp only [Stage.program, Program.command_bind, Program.done_bind, Program.step, Program.left,
        exec, step]
      cases redis.credentials (webAuthn.credentialId response) with
      | none => exact ⟨rfl, rfl⟩
      | some record =>
          dsimp only
          cases assert webAuthn userId response expected (some record) <;> exact ⟨rfl, rfl⟩
  | readsCounter userId response expected record newCounter =>
      simp only [Stage.program, updateCounter, Program.command_bind, Program.done_bind,
        Program.step, Program.left, exec, step]
      cases redis.credentials (webAuthn.credentialId response) <;> exact ⟨rfl, rfl⟩
  | writesCounter userId response expected record newCounter stored => exact ⟨rfl, rfl⟩
  | deletesChallenge userId expected outcome => exact ⟨rfl, rfl⟩

/-! ## Runs -/

section Runs

variable {ι : Type} [DecidableEq ι] (webAuthn : WebAuthn Registration Authentication)
  (calls : ι → Call Registration Authentication)

/-- Calls in progress on every instance of the backend. -/
abbrev Calls (ι Registration Authentication : Type) :=
  Pool ι (Stage Registration Authentication) Store Outcome

/-- The challenge of a user expires. -/
def expire (userId : String) (redis : Store) : Store := redis.setChallenge userId none

/-- Calls, and challenges that expire. -/
abbrev machine : Machine (Calls ι Registration Authentication) (Pool.Move ι String)
    (ι × Outcome) Unit :=
  Pool.openMachine (fun _ => step webAuthn) expire

/-- No call has begun. -/
abbrev start : Calls ι Registration Authentication :=
  Pool.launch (fun i => .begins (calls i)) Store.empty

/-- The challenge that the response of a call answers. -/
def Call.answers : Call Registration Authentication → Option String
  | .options _ _ => none
  | .registration _ response => some (webAuthn.registrationChallenge response)
  | .authentication _ response => some (webAuthn.authenticationChallenge response)

/-- The user a call is about. -/
def Call.userId : Call Registration Authentication → String
  | .options userId _ => userId
  | .registration userId _ => userId
  | .authentication userId _ => userId

/-- A verification that succeeded. -/
def Outcome.IsSuccess : Outcome → Prop
  | .registered _ => True
  | .authenticated => True
  | _ => False

/-- The call has returned successfully, on a response to the challenge. -/
def SucceededOn (s : Calls ι Registration Authentication) (i : ι) (challenge : String) : Prop :=
  ∃ outcome, s.calls i = .inr outcome ∧ outcome.IsSuccess ∧
    (calls i).answers webAuthn = some challenge

/-- The challenge a verification in progress has read. -/
def Stage.expected : Stage Registration Authentication → Option String
  | .begins _ => none
  | .getsRecords _ _ _ _ => none
  | .setsCredential _ expected _ => some expected
  | .addsCredential _ expected _ => some expected
  | .getsCredential _ _ expected => some expected
  | .readsCounter _ _ expected _ _ => some expected
  | .writesCounter _ _ expected _ _ _ => some expected
  | .deletesChallenge _ expected _ => some expected

/-- The challenge a call in progress is working with. -/
def expectedOf : Stage Registration Authentication ⊕ Outcome → Option String
  | .inl stage => stage.expected
  | .inr _ => none

/-- The challenge that the first command of a verification finds pending. -/
def Call.finds (redis : Store) : Call Registration Authentication → Option String
  | .options _ _ => none
  | .registration userId _ => pending (redis.challenges userId)
  | .authentication userId _ => pending (redis.challenges userId)

/-- A verification that reads a challenge is the only one working with it; a
registration stores no counter below the one stored for its id; a counter is
written where the one stored is still the one that was verified. -/
def StageUndisturbed (s : Calls ι Registration Authentication) :
    Stage Registration Authentication → Prop
  | .begins call => ∀ challenge ∈ call.finds s.shared, ∀ j, expectedOf (s.calls j) ≠ some challenge
  | .setsCredential _ _ credential =>
      ∀ stored ∈ s.shared.credentials credential.id, stored.counter ≤ credential.counter
  | .writesCounter _ response _ record _ _ =>
      ∀ stored ∈ s.shared.credentials (webAuthn.credentialId response),
        stored.counter = record.counter
  | _ => True

instance decidableStageUndisturbed [Fintype ι] (s : Calls ι Registration Authentication) :
    ∀ stage, Decidable (StageUndisturbed webAuthn s stage)
  | .begins _ => inferInstanceAs (Decidable (∀ _ ∈ _, ∀ _, _))
  | .setsCredential _ _ _ => inferInstanceAs (Decidable (∀ _ ∈ _, _))
  | .writesCounter _ _ _ _ _ _ => inferInstanceAs (Decidable (∀ _ ∈ _, _))
  | .getsRecords _ _ _ _ => isTrue trivial
  | .addsCredential _ _ _ => isTrue trivial
  | .getsCredential _ _ _ => isTrue trivial
  | .readsCounter _ _ _ _ _ => isTrue trivial
  | .deletesChallenge _ _ _ => isTrue trivial

/-- The next command finds no other verification in its way. -/
def Undisturbed (s : Calls ι Registration Authentication) : Pool.Move ι String → Prop
  | .call i => ∀ stage ∈ (s.calls i).getLeft?, StageUndisturbed webAuthn s stage
  | .act _ => True

instance decidableUndisturbed [Fintype ι] (s : Calls ι Registration Authentication) :
    ∀ move, Decidable (Undisturbed webAuthn s move)
  | .call _ => inferInstanceAs (Decidable (∀ _ ∈ _, _))
  | .act _ => isTrue trivial

/-- The challenge a call draws. -/
def Call.draws : Call Registration Authentication → Option String
  | .options _ challenge => some challenge
  | _ => none

/-- No challenge is drawn twice. -/
def FreshChallenges : Prop :=
  ∀ i j, (calls i).draws ≠ none → (calls i).draws = (calls j).draws → i = j

instance decidableFreshChallenges [Fintype ι] : Decidable (FreshChallenges calls) :=
  inferInstanceAs (Decidable (∀ _ _, _ → _ → _))

end Runs

/-! ## What a stage knows -/

/-- The stage belongs to the call, and the library has accepted the response
where the method is past that check. -/
def Stage.Of (webAuthn : WebAuthn Registration Authentication)
    (call : Call Registration Authentication) : Stage Registration Authentication → Prop
  | .begins call' => call' = call
  | .getsRecords userId challenge _ _ => call = .options userId challenge
  | .setsCredential userId expected _ => call.userId = userId ∧
      call.answers webAuthn = some expected
  | .addsCredential userId expected _ => call.userId = userId ∧
      call.answers webAuthn = some expected
  | .getsCredential userId response _ => call = .authentication userId response
  | .readsCounter userId response expected record newCounter =>
      call.userId = userId ∧ call.answers webAuthn = some expected ∧
        record.counter ≤ newCounter ∧ call = .authentication userId response
  | .writesCounter userId response expected record newCounter _ =>
      call.userId = userId ∧ call.answers webAuthn = some expected ∧
        record.counter ≤ newCounter ∧ call = .authentication userId response
  | .deletesChallenge userId expected _ => call.userId = userId ∧
      call.answers webAuthn = some expected

section Step

variable {webAuthn : WebAuthn Registration Authentication}
  {call : Call Registration Authentication} {stage stage' : Stage Registration Authentication}
  {redis : Store}

theorem answers_of_attest {response : Registration} {expected : String}
    {credential : AttestedCredential}
    (attested : attest webAuthn response expected = .ok credential) :
    webAuthn.registrationChallenge response = expected := by
  unfold attest at attested
  split at attested
  · cases attested
  · cases attested
  · rename_i verified
    exact webAuthn.registration_answers response expected _ verified

theorem answers_of_assert {userId expected : String} {response : Authentication}
    {record : StoredCredential} {newCounter : ℕ}
    (asserted : assert webAuthn userId response expected (some record) = .ok newCounter) :
    webAuthn.authenticationChallenge response = expected ∧ record.counter ≤ newCounter := by
  unfold assert at asserted
  split at asserted
  · cases asserted
  · rename_i found own
    obtain rfl : record = found := Option.some.inj (Option.filter_eq_some_iff.mp own).1
    split at asserted
    · cases asserted
    · cases asserted
    · rename_i newCounter' verified
      obtain rfl : newCounter' = newCounter := Except.ok.inj asserted
      refine ⟨webAuthn.authentication_answers _ _ _ _ verified, ?_⟩
      have grows := webAuthn.counter_grows _ _ _ _ verified
      rcases grows with more | ⟨zero, -⟩
      · exact more.le
      · exact (Nat.le_of_eq zero).trans (Nat.zero_le _)

/-- A stage leads to a stage of the same call. -/
theorem of_step (of : stage.Of webAuthn call) (next : (step webAuthn stage redis).1 = .inl stage') :
    stage'.Of webAuthn call := by
  cases stage with
  | begins call' =>
      obtain rfl : call' = call := of
      cases call' with
      | options userId challenge =>
          obtain rfl := Sum.inl.inj next
          exact rfl
      | registration userId response =>
          simp only [step, begin] at next
          split at next
          · cases next
          split at next
          · cases next
          · rename_i attested
            obtain rfl := Sum.inl.inj next
            exact ⟨rfl, congrArg some (answers_of_attest attested)⟩
      | authentication userId response =>
          simp only [step, begin] at next
          split at next
          · cases next
          · obtain rfl := Sum.inl.inj next
            exact rfl
  | getsRecords userId challenge ids records =>
      cases ids with
      | nil => cases next
      | cons id ids =>
          obtain rfl := Sum.inl.inj next
          exact of
  | setsCredential userId expected credential =>
      obtain rfl := Sum.inl.inj next
      exact of
  | addsCredential userId expected credential =>
      obtain rfl := Sum.inl.inj next
      exact of
  | getsCredential userId response expected =>
      simp only [step] at next
      split at next
      · cases next
      split at next
      · cases next
      · rename_i asserted
        obtain rfl := Sum.inl.inj next
        obtain ⟨answers, grows⟩ := answers_of_assert asserted
        obtain rfl : call = .authentication userId response := of
        exact ⟨rfl, congrArg some answers, grows, rfl⟩
  | readsCounter userId response expected record newCounter =>
      simp only [step] at next
      split at next <;> obtain rfl := Sum.inl.inj next
      · exact ⟨of.1, of.2.1⟩
      · exact of
  | writesCounter userId response expected record newCounter stored =>
      obtain rfl := Sum.inl.inj next
      exact ⟨of.1, of.2.1⟩
  | deletesChallenge userId expected outcome => cases next

/-- A call works with the challenge it worked with before, or has just read. -/
theorem expectedOf_step {challenge : String}
    (expects : expectedOf (step webAuthn stage redis).1 = some challenge) :
    stage.expected = some challenge ∨
      ∃ call, stage = .begins call ∧ call.finds redis = some challenge := by
  cases stage with
  | begins call =>
      -- only the first command reads the challenge
      refine .inr ⟨call, rfl, ?_⟩
      cases call with
      | options userId challenge' => cases expects
      | registration userId response =>
          simp only [step, begin] at expects
          split at expects
          · cases expects
          split at expects
          · cases expects
          · rename_i found _ _ _
            exact found.trans expects
      | authentication userId response =>
          simp only [step, begin] at expects
          split at expects
          · cases expects
          · rename_i found
            exact found.trans expects
  | getsRecords userId challenge' ids records => cases ids <;> cases expects
  | setsCredential userId expected credential => exact .inl expects
  | addsCredential userId expected credential => exact .inl expects
  | getsCredential userId response expected =>
      simp only [step] at expects
      split at expects
      · cases expects
      split at expects
      · cases expects
      · exact .inl expects
  | readsCounter userId response expected record newCounter =>
      simp only [step] at expects
      split at expects <;> exact .inl expects
  | writesCounter userId response expected record newCounter stored => exact .inl expects
  | deletesChallenge userId expected outcome => cases expects

/-- A call succeeds by deleting its challenge. -/
theorem isSuccess_step {outcome : Outcome} (returned : (step webAuthn stage redis).1 = .inr outcome)
    (success : outcome.IsSuccess) :
    ∃ userId expected, stage = .deletesChallenge userId expected outcome := by
  -- every other way to return is a failure or hands out options
  cases stage with
  | begins call =>
      cases call with
      | options userId challenge => cases returned
      | registration userId response =>
          simp only [step, begin] at returned
          split at returned
          · obtain rfl := Sum.inr.inj returned
            exact success.elim
          split at returned
          · obtain rfl := Sum.inr.inj returned
            exact success.elim
          · cases returned
      | authentication userId response =>
          simp only [step, begin] at returned
          split at returned
          · obtain rfl := Sum.inr.inj returned
            exact success.elim
          · cases returned
  | getsRecords userId challenge ids records =>
      cases ids with
      | nil =>
          obtain rfl := Sum.inr.inj returned
          exact success.elim
      | cons id ids => cases returned
  | getsCredential userId response expected =>
      simp only [step] at returned
      split at returned
      · obtain rfl := Sum.inr.inj returned
        exact success.elim
      split at returned
      · obtain rfl := Sum.inr.inj returned
        exact success.elim
      · cases returned
  | readsCounter userId response expected record newCounter =>
      simp only [step] at returned
      split at returned <;> cases returned
  | deletesChallenge userId expected outcome' =>
      obtain rfl := Sum.inr.inj returned
      exact ⟨userId, expected, rfl⟩
  | _ => cases returned

/-- What a command does to the store.  Five of the stages write. -/
theorem store_step (webAuthn : WebAuthn Registration Authentication)
    (stage : Stage Registration Authentication) (redis : Store) :
    (step webAuthn stage redis).2 = redis ∨
    (∃ userId challenge records, stage = .getsRecords userId challenge [] records ∧
      (step webAuthn stage redis).2 = redis.setChallenge userId (some challenge)) ∨
    (∃ userId expected credential, stage = .setsCredential userId expected credential ∧
      (step webAuthn stage redis).2 =
        redis.setCredential credential.id (credential.record userId)) ∨
    (∃ userId expected credential, stage = .addsCredential userId expected credential ∧
      (step webAuthn stage redis).2 = redis.addCredential userId credential.id) ∨
    (∃ userId response expected record newCounter stored,
      stage = .writesCounter userId response expected record newCounter stored ∧
      (step webAuthn stage redis).2 = redis.setCredential (webAuthn.credentialId response)
        { stored with counter := newCounter }) ∨
    ∃ userId expected outcome, stage = .deletesChallenge userId expected outcome ∧
      (step webAuthn stage redis).2 = redis.setChallenge userId none := by
  cases stage with
  | begins call => exact .inl rfl
  | getsRecords userId challenge ids records =>
      cases ids with
      | nil => exact .inr (.inl ⟨userId, challenge, records, rfl, rfl⟩)
      | cons id ids => exact .inl rfl
  | setsCredential userId expected credential =>
      exact .inr (.inr (.inl ⟨userId, expected, credential, rfl, rfl⟩))
  | addsCredential userId expected credential =>
      exact .inr (.inr (.inr (.inl ⟨userId, expected, credential, rfl, rfl⟩)))
  | getsCredential userId response expected =>
      refine .inl ?_
      simp only [step]
      split
      · rfl
      split
      · rfl
      · rfl
  | readsCounter userId response expected record newCounter =>
      refine .inl ?_
      simp only [step]
      split
      · rfl
      · rfl
  | writesCounter userId response expected record newCounter stored =>
      exact .inr (.inr (.inr (.inr (.inl
        ⟨userId, response, expected, record, newCounter, stored, rfl, rfl⟩))))
  | deletesChallenge userId expected outcome =>
      exact .inr (.inr (.inr (.inr (.inr ⟨userId, expected, outcome, rfl, rfl⟩))))

/-- The challenges a command leaves: those of before, with one stored by the last
command of an options call or deleted by the last command of a verification. -/
theorem challenges_step (webAuthn : WebAuthn Registration Authentication)
    (stage : Stage Registration Authentication) (redis : Store) :
    (step webAuthn stage redis).2.challenges = redis.challenges ∨
    (∃ userId challenge records, stage = .getsRecords userId challenge [] records ∧
      (step webAuthn stage redis).2.challenges =
        Function.update redis.challenges userId (some challenge)) ∨
    ∃ userId expected outcome, stage = .deletesChallenge userId expected outcome ∧
      (step webAuthn stage redis).2.challenges =
        Function.update redis.challenges userId none := by
  rcases store_step webAuthn stage redis with same | ⟨userId, challenge, records, isStage, same⟩ |
    ⟨userId, expected, credential, -, same⟩ | ⟨userId, expected, credential, -, same⟩ |
    ⟨userId, response, expected, record, newCounter, stored, -, same⟩ |
    ⟨userId, expected, outcome, isStage, same⟩
  · exact .inl (congrArg Store.challenges same)
  · exact .inr (.inl ⟨userId, challenge, records, isStage, congrArg Store.challenges same⟩)
  · exact .inl (by rw [same, Store.challenges_setCredential])
  · exact .inl (by rw [same, Store.challenges_addCredential])
  · exact .inl (by rw [same, Store.challenges_setCredential])
  · exact .inr (.inr ⟨userId, expected, outcome, isStage, congrArg Store.challenges same⟩)

/-- The records a command leaves: those of before, with one stored by a
registration or one whose counter an authentication has updated. -/
theorem credentials_step (webAuthn : WebAuthn Registration Authentication)
    (stage : Stage Registration Authentication) (redis : Store) :
    (step webAuthn stage redis).2.credentials = redis.credentials ∨
    (∃ userId expected credential, stage = .setsCredential userId expected credential ∧
      (step webAuthn stage redis).2.credentials =
        Function.update redis.credentials credential.id (some (credential.record userId))) ∨
    ∃ userId response expected record newCounter stored,
      stage = .writesCounter userId response expected record newCounter stored ∧
      (step webAuthn stage redis).2.credentials =
        Function.update redis.credentials (webAuthn.credentialId response)
          (some { stored with counter := newCounter }) := by
  rcases store_step webAuthn stage redis with same | ⟨userId, challenge, records, -, same⟩ |
    ⟨userId, expected, credential, isStage, same⟩ | ⟨userId, expected, credential, -, same⟩ |
    ⟨userId, response, expected, record, newCounter, stored, isStage, same⟩ |
    ⟨userId, expected, outcome, -, same⟩
  · exact .inl (congrArg Store.credentials same)
  · exact .inl (by rw [same, Store.credentials_setChallenge])
  · exact .inr (.inl ⟨userId, expected, credential, isStage, congrArg Store.credentials same⟩)
  · exact .inl (by rw [same, Store.credentials_addCredential])
  · exact .inr (.inr ⟨userId, response, expected, record, newCounter, stored, isStage,
      congrArg Store.credentials same⟩)
  · exact .inl (by rw [same, Store.credentials_setChallenge])

end Step

/-! ## One use of a challenge -/

section OneTime

variable {ι : Type} [DecidableEq ι] {webAuthn : WebAuthn Registration Authentication}
  {calls : ι → Call Registration Authentication} {s : Calls ι Registration Authentication}
  {i j : ι} {stage : Stage Registration Authentication} {challenge userId : String}

/-- The call works with the challenge, or has succeeded on it. -/
def Claims (webAuthn : WebAuthn Registration Authentication)
    (calls : ι → Call Registration Authentication) (s : Calls ι Registration Authentication)
    (i : ι) (challenge : String) : Prop :=
  expectedOf (s.calls i) = some challenge ∨ SucceededOn webAuthn calls s i challenge

/-- A call for options has drawn the challenge and stored it for the user. -/
def Issued (calls : ι → Call Registration Authentication) (s : Calls ι Registration Authentication)
    (userId challenge : String) : Prop :=
  ∃ k outcome, calls k = .options userId challenge ∧ s.calls k = .inr outcome

omit [DecidableEq ι] in
/-- Challenges in the store and challenges in use have been issued; no two calls
use one challenge, and one that has led to a success is not in the store. -/
structure OneTime (webAuthn : WebAuthn Registration Authentication)
    (calls : ι → Call Registration Authentication) (s : Calls ι Registration Authentication) :
    Prop where
  of : ∀ i stage, s.calls i = .inl stage → stage.Of webAuthn (calls i)
  stored : ∀ userId challenge, s.shared.challenges userId = some challenge →
    Issued calls s userId challenge
  claimed : ∀ i challenge, Claims webAuthn calls s i challenge →
    Issued calls s (calls i).userId challenge
  unique : ∀ i j challenge, Claims webAuthn calls s i challenge →
    Claims webAuthn calls s j challenge → i = j
  spent : ∀ i challenge userId, SucceededOn webAuthn calls s i challenge →
    s.shared.challenges userId ≠ some challenge

omit [DecidableEq ι] in
theorem oneTime_start : OneTime webAuthn calls (start calls) where
  of i stage left := (Sum.inl.inj left).symm ▸ rfl
  stored userId challenge found := by cases found
  claimed i challenge claims := by
    rcases claims with expects | ⟨outcome, returned, -⟩
    · cases expects
    · cases returned
  unique i j challenge claims := by
    rcases claims with expects | ⟨outcome, returned, -⟩
    · cases expects
    · cases returned
  spent i challenge userId succeeded := by
    obtain ⟨outcome, returned, -⟩ := succeeded
    cases returned

omit [DecidableEq ι] in
theorem FreshChallenges.eq (fresh : FreshChallenges calls) {userId' : String}
    (drawn : calls i = .options userId challenge) (drawn' : calls j = .options userId' challenge) :
    i = j :=
  fresh i j (by simp [drawn, Call.draws]) (by simp [drawn, drawn', Call.draws])

theorem Issued.advance (issued : Issued calls s userId challenge) (left : s.calls i = .inl stage) :
    Issued calls (Pool.advance (fun _ => step webAuthn) s i stage) userId challenge := by
  obtain ⟨k, outcome, drawn, returned⟩ := issued
  have other : k ≠ i := by
    rintro rfl
    rw [left] at returned
    cases returned
  exact ⟨k, outcome, drawn, (Pool.calls_advance_of_ne other).trans returned⟩

omit [DecidableEq ι] in
/-- Fresh challenges are issued to one user, by one call. -/
theorem Issued.unique (fresh : FreshChallenges calls) {userId' : String}
    (issued : Issued calls s userId challenge) (issued' : Issued calls s userId' challenge) :
    userId = userId' := by
  obtain ⟨k, -, drawn, -⟩ := issued
  obtain ⟨k', -, drawn', -⟩ := issued'
  obtain rfl := fresh.eq drawn drawn'
  rw [drawn] at drawn'
  cases drawn'
  rfl

/-- A command adds a success only by deleting the challenge. -/
theorem succeededOn_advance (one : OneTime webAuthn calls s) (left : s.calls i = .inl stage)
    (succeeded : SucceededOn webAuthn calls (Pool.advance (fun _ => step webAuthn) s i stage) j
      challenge) :
    SucceededOn webAuthn calls s j challenge ∨
      j = i ∧ ∃ outcome, stage = .deletesChallenge (calls i).userId challenge outcome := by
  obtain ⟨outcome, returned, success, answers⟩ := succeeded
  by_cases same : j = i
  · subst same
    rw [Pool.calls_advance_self] at returned
    obtain ⟨userId, expected, rfl⟩ := isSuccess_step returned success
    obtain ⟨rfl, answers'⟩ := one.of j _ left
    obtain rfl : expected = challenge := Option.some.inj (answers'.symm.trans answers)
    exact .inr ⟨rfl, outcome, rfl⟩
  · rw [Pool.calls_advance_of_ne same] at returned
    exact .inl ⟨outcome, returned, success, answers⟩

/-- A command claims a challenge only by reading it. -/
theorem claims_advance (one : OneTime webAuthn calls s) (left : s.calls i = .inl stage)
    (claims : Claims webAuthn calls (Pool.advance (fun _ => step webAuthn) s i stage) j
      challenge) :
    Claims webAuthn calls s j challenge ∨
      j = i ∧ stage = .begins (calls i) ∧ (calls i).finds s.shared = some challenge := by
  rcases claims with expects | succeeded
  · by_cases same : j = i
    · subst same
      rw [Pool.calls_advance_self] at expects
      rcases expectedOf_step expects with before | ⟨call, rfl, found⟩
      · refine .inl (.inl ?_)
        rw [left]
        exact before
      · obtain rfl : call = calls j := one.of j _ left
        exact .inr ⟨rfl, rfl, found⟩
    · rw [Pool.calls_advance_of_ne same] at expects
      exact .inl (.inl expects)
  · rcases succeededOn_advance one left succeeded with before | ⟨rfl, outcome, rfl⟩
    · exact .inl (.inr before)
    · refine .inl (.inl ?_)
      rw [left]
      rfl

/-- What a verification finds pending is stored for its user. -/
theorem challenges_of_finds {call : Call Registration Authentication} {redis : Store}
    (found : call.finds redis = some challenge) :
    redis.challenges call.userId = some challenge := by
  cases call with
  | options userId challenge => cases found
  | registration userId response => exact (Option.filter_eq_some_iff.mp found).1
  | authentication userId response => exact (Option.filter_eq_some_iff.mp found).1

omit [DecidableEq ι] in
/-- A verification that reads a challenge undisturbed is the first to claim it. -/
theorem unclaimed_of_finds (one : OneTime webAuthn calls s)
    (left : s.calls i = .inl (.begins (calls i)))
    (undisturbed : Undisturbed webAuthn s (.call i))
    (found : (calls i).finds s.shared = some challenge) :
    ¬ Claims webAuthn calls s j challenge := by
  rintro (expects | succeeded)
  · exact undisturbed _ (Sum.getLeft?_eq_some_iff.mpr left) challenge found j expects
  · exact one.spent j challenge _ succeeded (challenges_of_finds found)

theorem oneTime_stored_advance (one : OneTime webAuthn calls s) (left : s.calls i = .inl stage)
    (found : (step webAuthn stage s.shared).2.challenges userId = some challenge) :
    Issued calls (Pool.advance (fun _ => step webAuthn) s i stage) userId challenge := by
  rcases challenges_step webAuthn stage s.shared with same | ⟨userId', challenge', records, rfl,
    stores⟩ | ⟨userId', expected, outcome, rfl, deletes⟩
  · rw [same] at found
    exact (one.stored userId challenge found).advance left
  · rw [stores, Function.update_apply] at found
    split at found
    · rename_i own
      obtain rfl := Option.some.inj found
      exact ⟨i, _, own ▸ one.of i _ left, Pool.calls_advance_self⟩
    · exact (one.stored userId challenge found).advance left
  · rw [deletes, Function.update_apply] at found
    split at found
    · cases found
    · exact (one.stored userId challenge found).advance left

theorem oneTime_spent_advance (fresh : FreshChallenges calls) (one : OneTime webAuthn calls s)
    (left : s.calls i = .inl stage)
    (succeeded : SucceededOn webAuthn calls (Pool.advance (fun _ => step webAuthn) s i stage) j
      challenge) :
    (step webAuthn stage s.shared).2.challenges userId ≠ some challenge := by
  intro found
  rcases succeededOn_advance one left succeeded with before | ⟨rfl, outcome, rfl⟩
  · -- an earlier success: nobody stores its challenge again
    rcases challenges_step webAuthn stage s.shared with same | ⟨userId', challenge', records, rfl,
      stores⟩ | ⟨userId', expected, outcome, rfl, deletes⟩
    · exact one.spent j challenge userId before (same ▸ found)
    · rw [stores, Function.update_apply] at found
      split at found
      · obtain rfl := Option.some.inj found
        obtain ⟨k, outcome, drawn, returned⟩ := one.claimed j _ (.inr before)
        obtain rfl := fresh.eq drawn (one.of i _ left)
        rw [left] at returned
        cases returned
      · exact one.spent j challenge userId before found
    · rw [deletes, Function.update_apply] at found
      split at found
      · cases found
      · exact one.spent j challenge userId before found
  · -- the challenge is stored for one user at most, whose key has just been deleted
    change Function.update s.shared.challenges _ none userId = some challenge at found
    rw [Function.update_apply] at found
    split at found
    · cases found
    · rename_i other
      have claims : Claims webAuthn calls s j challenge := .inl (by rw [left]; rfl)
      exact other ((one.stored userId challenge found).unique fresh
        (one.claimed j challenge claims))

/-- **One command**, of a verification that is not disturbed. -/
theorem oneTime_advance (fresh : FreshChallenges calls) (one : OneTime webAuthn calls s)
    (left : s.calls i = .inl stage) (undisturbed : Undisturbed webAuthn s (.call i)) :
    OneTime webAuthn calls (Pool.advance (fun _ => step webAuthn) s i stage) where
  of j stage' left' := by
    by_cases same : j = i
    · subst same
      rw [Pool.calls_advance_self] at left'
      exact of_step (one.of j stage left) left'
    · rw [Pool.calls_advance_of_ne same] at left'
      exact one.of j stage' left'
  stored userId challenge found := oneTime_stored_advance one left found
  claimed j challenge claims := by
    rcases claims_advance one left claims with before | ⟨rfl, rfl, found⟩
    · exact (one.claimed j challenge before).advance left
    · exact (one.stored _ _ (challenges_of_finds found)).advance left
  unique j k challenge claims claims' := by
    rcases claims_advance one left claims with before | ⟨rfl, rfl, found⟩ <;>
      rcases claims_advance one left claims' with before' | ⟨rfl, first, found'⟩
    · exact one.unique j k challenge before before'
    · exact absurd before (unclaimed_of_finds one (first ▸ left) undisturbed found')
    · exact absurd before' (unclaimed_of_finds one left undisturbed found)
    · rfl
  spent j challenge userId succeeded := oneTime_spent_advance fresh one left succeeded

omit [DecidableEq ι] in
/-- A challenge that expires is not stored any more. -/
theorem oneTime_expire (one : OneTime webAuthn calls s) (userId : String) :
    OneTime webAuthn calls ⟨expire userId s.shared, s.calls⟩ := by
  have kept {userId' challenge : String}
      (found : (expire userId s.shared).challenges userId' = some challenge) :
      s.shared.challenges userId' = some challenge := by
    rw [expire, Store.challenges_setChallenge, Function.update_apply] at found
    split at found
    · cases found
    · exact found
  exact ⟨one.of, fun userId' challenge found => one.stored userId' challenge (kept found),
    one.claimed, one.unique, fun i challenge userId' succeeded found =>
      one.spent i challenge userId' succeeded (kept found)⟩

theorem oneTime_run (fresh : FreshChallenges calls) (moves : List (Pool.Move ι String))
    (undisturbed : (machine webAuthn).Along (Undisturbed webAuthn) (start calls) moves) :
    OneTime webAuthn calls ((machine webAuthn).run (start calls) moves) :=
  Pool.openMachine_invariant (I := OneTime webAuthn calls) oneTime_start
    (fun _ _ _ one undisturbed left => oneTime_advance fresh one left undisturbed)
    (fun _ userId one _ => oneTime_expire one userId) moves undisturbed

/-! ## Counters -/

/-- Every stored credential stays, with a counter at least as high. -/
def CountersGrow (before after : Store) : Prop :=
  ∀ id old, before.credentials id = some old →
    ∃ new, after.credentials id = some new ∧ old.counter ≤ new.counter

theorem CountersGrow.refl (redis : Store) : CountersGrow redis redis :=
  fun _ old found => ⟨old, found, le_rfl⟩

theorem CountersGrow.trans {redis redis' redis'' : Store} (first : CountersGrow redis redis')
    (second : CountersGrow redis' redis'') : CountersGrow redis redis'' := by
  intro id old found
  obtain ⟨middle, found', grows⟩ := first id old found
  obtain ⟨new, found'', grows'⟩ := second id middle found'
  exact ⟨new, found'', grows.trans grows'⟩

/-- Writing one record over a counter that is not higher. -/
theorem countersGrow_of_update {redis redis' : Store} {id : String} {record : StoredCredential}
    (written : redis'.credentials = Function.update redis.credentials id (some record))
    (below : ∀ old, redis.credentials id = some old → old.counter ≤ record.counter) :
    CountersGrow redis redis' := by
  intro id' old found
  rw [written]
  by_cases same : id' = id
  · subst same
    exact ⟨record, Function.update_self .., below old found⟩
  · exact ⟨old, (Function.update_of_ne same _ _).trans found, le_rfl⟩

omit [DecidableEq ι] in
theorem countersGrow_advance (one : OneTime webAuthn calls s) (left : s.calls i = .inl stage)
    (undisturbed : Undisturbed webAuthn s (.call i)) :
    CountersGrow s.shared (step webAuthn stage s.shared).2 := by
  have meets := undisturbed stage (Sum.getLeft?_eq_some_iff.mpr left)
  rcases credentials_step webAuthn stage s.shared with same | ⟨userId, expected, credential, rfl,
    written⟩ | ⟨userId, response, expected, record, newCounter, stored, rfl, written⟩
  · intro id old found
    exact ⟨old, same ▸ found, le_rfl⟩
  · exact countersGrow_of_update written meets
  · refine countersGrow_of_update written fun old found => ?_
    have grows : record.counter ≤ newCounter := (one.of i _ left).2.2.1
    exact (Nat.le_of_eq (meets old found)).trans grows

theorem countersGrow_run (fresh : FreshChallenges calls) {done rest : List (Pool.Move ι String)}
    (undisturbed : (machine webAuthn).Along (Undisturbed webAuthn) (start calls) (done ++ rest)) :
    CountersGrow ((machine webAuthn).run (start calls) done).shared
      ((machine webAuthn).run (start calls) (done ++ rest)).shared := by
  obtain ⟨earlier, later⟩ := (Machine.along_append _ _ _).mp undisturbed
  rw [Machine.run_append]
  refine (Pool.openMachine_invariant
    (I := fun s => OneTime webAuthn calls s ∧
      CountersGrow ((machine webAuthn).run (start calls) done).shared s.shared)
    ⟨oneTime_run fresh done earlier, CountersGrow.refl _⟩ ?_ ?_ rest later).2
  · rintro s i stage ⟨one, grown⟩ undisturbed left
    exact ⟨oneTime_advance fresh one left undisturbed,
      grown.trans (countersGrow_advance one left undisturbed)⟩
  · rintro s userId ⟨one, grown⟩ -
    exact ⟨oneTime_expire one userId, grown⟩

end OneTime

/-- **One use of a challenge, and counters that grow**, in the runs whose
commands are undisturbed. -/
theorem oneTime_of_undisturbed {ι : Type} [DecidableEq ι]
    (webAuthn : WebAuthn Registration Authentication)
    (calls : ι → Call Registration Authentication) (fresh : FreshChallenges calls)
    (moves : List (Pool.Move ι String))
    (undisturbed : (machine webAuthn).Along (Undisturbed webAuthn) (start calls) moves) :
    (∀ challenge i j,
      SucceededOn webAuthn calls ((machine webAuthn).run (start calls) moves) i challenge →
      SucceededOn webAuthn calls ((machine webAuthn).run (start calls) moves) j challenge →
        i = j) ∧
    ∀ done rest, moves = done ++ rest →
      CountersGrow ((machine webAuthn).run (start calls) done).shared
        ((machine webAuthn).run (start calls) moves).shared := by
  refine ⟨fun challenge i j first second => ?_, ?_⟩
  · exact (oneTime_run fresh moves undisturbed).unique i j challenge (.inr first) (.inr second)
  · rintro done rest rfl
    exact countersGrow_run fresh undisturbed

/-! ## Responses that are sent twice, and late -/

/-- A registration, and authentications with the next challenges: the response to
the second one is sent twice, the one to the third carries a higher counter. -/
def sampleCalls : Fin 7 → Call SampleResponse SampleResponse
  | 0 => .options "voter" "c0"
  | 1 => .registration "voter" ⟨"c0", sampleKey 1⟩
  | 2 => .options "voter" "c1"
  | 3 => .authentication "voter" ⟨"c1", sampleKey 5⟩
  | 4 => .authentication "voter" ⟨"c1", sampleKey 5⟩
  | 5 => .options "voter" "c2"
  | 6 => .authentication "voter" ⟨"c2", sampleKey 6⟩

/-- Commands of the calls, in the order of the list. -/
def commands (order : List (Fin 7)) : List (Pool.Move (Fin 7) String) := order.map .call

/-- One call after the other. -/
def inTurn : List (Fin 7) :=
  [0, 0, 1, 1, 1, 1, 2, 2, 2, 3, 3, 3, 3, 3, 5, 5, 5, 6, 6, 6, 6, 6, 4]

/-- Both authentications of the second response read challenge and record before one of
them writes. -/
def twice : List (Fin 7) :=
  [0, 0, 1, 1, 1, 1, 2, 2, 2, 3, 4, 3, 4, 3, 3, 3, 4, 4, 4]

/-- The third response is verified while the second one's counter is still to be
written. -/
def late : List (Fin 7) :=
  [0, 0, 1, 1, 1, 1, 2, 2, 2, 3, 3, 3, 5, 5, 5, 6, 6, 6, 6, 6]

theorem oneTime_of_undisturbed_sample :
    (∀ challenge i j,
      SucceededOn sampleWebAuthn sampleCalls
        ((machine sampleWebAuthn).run (start sampleCalls) (commands inTurn)) i challenge →
      SucceededOn sampleWebAuthn sampleCalls
        ((machine sampleWebAuthn).run (start sampleCalls) (commands inTurn)) j challenge →
        i = j) ∧
    ∀ done rest, commands inTurn = done ++ rest →
      CountersGrow ((machine sampleWebAuthn).run (start sampleCalls) done).shared
        ((machine sampleWebAuthn).run (start sampleCalls) (commands inTurn)).shared :=
  oneTime_of_undisturbed sampleWebAuthn sampleCalls (by decide) (commands inTurn)
    (by decide)

/-- The second response is accepted twice, and a late write of its counter undoes
the one of the third. -/
theorem oneTime_counterexample :
    (SucceededOn sampleWebAuthn sampleCalls
        ((machine sampleWebAuthn).run (start sampleCalls) (commands twice)) 3 "c1" ∧
      SucceededOn sampleWebAuthn sampleCalls
        ((machine sampleWebAuthn).run (start sampleCalls) (commands twice)) 4 "c1") ∧
    ¬ CountersGrow ((machine sampleWebAuthn).run (start sampleCalls) (commands late)).shared
      ((machine sampleWebAuthn).run (start sampleCalls) (commands (late ++ [3]))).shared := by
  refine ⟨⟨⟨.authenticated, ?_, trivial, rfl⟩, .authenticated, ?_, trivial, rfl⟩, fun grow => ?_⟩
  · decide
  · decide
  · have before : ((machine sampleWebAuthn).run (start sampleCalls)
        (commands late)).shared.credentials "key" = some ⟨"key", [], 6, "voter"⟩ := by
      decide
    have after : ((machine sampleWebAuthn).run (start sampleCalls)
        (commands (late ++ [3]))).shared.credentials "key" = some ⟨"key", [], 5, "voter"⟩ := by
      decide
    obtain ⟨new, found, grows⟩ := grow "key" _ before
    obtain rfl := Option.some.inj (found.symm.trans after)
    exact absurd grows (by decide)

end TheVoteApp.FIDO2Service
