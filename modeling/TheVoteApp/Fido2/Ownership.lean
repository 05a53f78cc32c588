import TheVoteApp.Fido2.Service
import TheVoteApp.Foundations.Machine

/-!
# Whose credential it is

The record of a credential is stored under its id, the ids of a user in a set.
The id is what the authenticator of the client says it is, and a registration
overwrites whatever is stored under it.  A second user who registers the id takes
the record over; the first user keeps the id and loses the credential.

Calls one after the other keep the credentials of different users apart exactly
when no registration succeeds with an id that is stored for another user.

## Main definitions

* `sequential` — one call after the other, and challenges that expire
* `Resolves` — the ids of a user lead to records of that user
* `KeepsOthers` — a registration changes nothing for the other users
* `NotAnothers` — the id registered is not stored for another user
-/

namespace TheVoteApp.FIDO2Service

open Foundations

variable {Registration Authentication : Type}

/-! ## What the methods do -/

section Methods

variable (webAuthn : WebAuthn Registration Authentication) (redis : Store)

/-- What a registration attests to, if it is verified. -/
def attested (userId : String) (response : Registration) : Option AttestedCredential :=
  (pending (redis.challenges userId)).bind fun expected =>
    (attest webAuthn response expected).toOption

/-- The database after a credential has been registered. -/
def Store.register (userId : String) (credential : AttestedCredential) : Store :=
  ((redis.setCredential credential.id (credential.record userId)).addCredential userId
    credential.id).setChallenge userId none

theorem run_verifyRegistration_snd (userId : String) (response : Registration) :
    ((verifyRegistration webAuthn userId response).run exec redis).2 =
      match attested webAuthn redis userId response with
      | some credential => redis.register userId credential
      | none => redis := by
  simp only [verifyRegistration, Program.command_bind, Program.done_bind, Program.run_command,
    exec, attested]
  cases pending (redis.challenges userId) with
  | none => rfl
  | some expected =>
      rw [Option.bind_some]
      dsimp only
      cases attest webAuthn response expected <;> rfl

theorem run_getCredentials_snd (ids : List String) :
    ((getCredentials ids).run exec redis).2 = redis := by
  induction ids with
  | nil => rfl
  | cons id ids ih =>
      simp only [getCredentials, Program.command_bind, Program.done_bind, Program.run_command,
        Program.run_bind, exec]
      exact ih

theorem run_generateOptions_snd (userId challenge : String) :
    ((generateOptions userId challenge).run exec redis).2 =
      redis.setChallenge userId (some challenge) := by
  simp only [generateOptions, getUserCredentials, Program.command_bind, Program.done_bind,
    Program.run_command, Program.run_bind, exec, run_getCredentials_snd]
  rfl

/-- What an authentication reads of the database. -/
def authenticationOutcome (userId : String) (response : Authentication) : Outcome :=
  match pending (redis.challenges userId) with
  | none => .failed "No pending challenge for user"
  | some expected =>
    match assert webAuthn userId response expected
        (redis.credentials (webAuthn.credentialId response)) with
    | .error message => .failed message
    | .ok _ => .authenticated

theorem run_updateCounter (credentialId : String) (newCounter : ℕ) :
    (updateCounter credentialId newCounter).run exec redis =
      ((), match redis.credentials credentialId with
        | none => redis
        | some record =>
            redis.setCredential credentialId { record with counter := newCounter }) := by
  simp only [updateCounter, Program.command_bind, Program.done_bind, Program.run_command, exec]
  cases redis.credentials credentialId <;> rfl

/-- **An authentication** changes at most the counter of the credential. -/
theorem run_verifyAuthentication (userId : String) (response : Authentication) :
    ((verifyAuthentication webAuthn userId response).run exec redis).1 =
        authenticationOutcome webAuthn redis userId response ∧
      (((verifyAuthentication webAuthn userId response).run exec redis).2 = redis ∨
        ∃ record newCounter,
          redis.credentials (webAuthn.credentialId response) = some record ∧
          ((verifyAuthentication webAuthn userId response).run exec redis).2 =
            (redis.setCredential (webAuthn.credentialId response)
              { record with counter := newCounter }).setChallenge userId none) := by
  simp only [verifyAuthentication, Program.command_bind, Program.done_bind, Program.run_command,
    exec, authenticationOutcome]
  cases pending (redis.challenges userId) with
  | none => exact ⟨rfl, .inl rfl⟩
  | some expected =>
      simp only [Program.run_command, exec]
      cases found : redis.credentials (webAuthn.credentialId response) with
      | none => exact ⟨rfl, .inl rfl⟩
      | some record =>
          cases assert webAuthn userId response expected (some record) with
          | error message => exact ⟨rfl, .inl rfl⟩
          | ok newCounter =>
              simp only [Program.run_bind, run_updateCounter, found]
              exact ⟨rfl, .inr ⟨record, newCounter, rfl, rfl⟩⟩

end Methods

/-! ## Calls one after the other -/

/-- A call, or the expiry of a user's challenge. -/
inductive Request (Registration Authentication : Type) where
  | call (call : Call Registration Authentication)
  | expires (userId : String)

section Runs

variable (webAuthn : WebAuthn Registration Authentication)

/-- Calls one after the other, each with its outcome. -/
def sequential : Machine Store (Request Registration Authentication) Outcome Unit where
  call redis
    | .call call =>
        let served := (call.program webAuthn).run exec redis
        .ok (served.2, [served.1])
    | .expires userId => .ok (redis.setChallenge userId none, [])

/-- Every id of a user leads to a record of that user. -/
def Resolves (redis : Store) : Prop :=
  ∀ userId, ∀ id ∈ redis.userCredentials userId,
    ∃ record, redis.credentials id = some record ∧ record.userId = userId

/-- A registration leaves the records of other users as they were, and their
authentications succeed or fail as they did. -/
def KeepsOthers (redis : Store) : Request Registration Authentication → Prop
  | .call (.registration userId response) =>
      let after := ((verifyRegistration webAuthn userId response).run exec redis).2
      (∀ id record, redis.credentials id = some record → record.userId ≠ userId →
        after.credentials id = some record) ∧
      ∀ other response', other ≠ userId →
        ((verifyAuthentication webAuthn other response').run exec after).1 =
          ((verifyAuthentication webAuthn other response').run exec redis).1
  | _ => True

/-- A credential that is registered is not stored for another user. -/
def NotAnothers (redis : Store) : Request Registration Authentication → Prop
  | .call (.registration userId response) =>
      ∀ credential ∈ attested webAuthn redis userId response,
        ∀ record ∈ redis.credentials credential.id, record.userId = userId
  | _ => True

instance decidableNotAnothers (redis : Store) :
    ∀ request, Decidable (NotAnothers webAuthn redis request)
  | .call (.registration _ _) => inferInstanceAs (Decidable (∀ _ ∈ _, ∀ _ ∈ _, _))
  | .call (.options _ _) => isTrue trivial
  | .call (.authentication _ _) => isTrue trivial
  | .expires _ => isTrue trivial

end Runs

variable {webAuthn : WebAuthn Registration Authentication} {redis : Store}

/-- Another user's authentication does not see the record of a credential that is
registered. -/
theorem assert_record_of_ne {userId other expected : String} {response : Authentication}
    {record : StoredCredential} (owner : record.userId = userId) (distinct : other ≠ userId) :
    assert webAuthn other response expected (some record) =
      .error "Credential not found for user" := by
  have foreign : (some record).filter (·.userId = other) = none := by
    simp [Option.filter_some, owner, Ne.symm distinct]
  rw [assert, foreign]

theorem authenticationOutcome_register {userId other : String} {credential : AttestedCredential}
    (mine : ∀ record ∈ redis.credentials credential.id, record.userId = userId)
    (distinct : other ≠ userId) (response : Authentication) :
    authenticationOutcome webAuthn (redis.register userId credential) other response =
      authenticationOutcome webAuthn redis other response := by
  have challenge : (redis.register userId credential).challenges other =
      redis.challenges other := Function.update_of_ne distinct _ _
  rw [authenticationOutcome, authenticationOutcome, challenge]
  cases pending (redis.challenges other) with
  | none => rfl
  | some expected =>
      dsimp only
      by_cases same : webAuthn.credentialId response = credential.id
      · have after : (redis.register userId credential).credentials credential.id =
            some (credential.record userId) := Function.update_self ..
        have owner : (credential.record userId).userId = userId := rfl
        rw [same, after, assert_record_of_ne owner distinct]
        cases found : redis.credentials credential.id with
        | none => rfl
        | some record => rw [assert_record_of_ne (mine record found) distinct]
      · have after : (redis.register userId credential).credentials
            (webAuthn.credentialId response) =
              redis.credentials (webAuthn.credentialId response) :=
          Function.update_of_ne same _ _
        rw [after]

/-- **A registration** keeps the other users' credentials exactly when its id is
not one of them. -/
theorem keepsOthers_iff_notAnothers (request : Request Registration Authentication) :
    KeepsOthers webAuthn redis request ↔ NotAnothers webAuthn redis request := by
  match request with
  | .call (.options _ _) => exact Iff.rfl
  | .call (.authentication _ _) => exact Iff.rfl
  | .expires _ => exact Iff.rfl
  | .call (.registration userId response) =>
      simp only [KeepsOthers, NotAnothers, run_verifyRegistration_snd, run_verifyAuthentication]
      cases attested webAuthn redis userId response with
      | none =>
          refine iff_of_true ⟨fun id record found _ => found, fun _ _ _ => rfl⟩ ?_
          intro credential verified
          cases verified
      | some credential =>
          have stored : (redis.register userId credential).credentials credential.id =
              some (credential.record userId) := Function.update_self ..
          constructor
          · rintro ⟨frame, -⟩ credential' verified record found
            obtain rfl := Option.some.inj verified
            by_contra foreign
            have kept := frame credential.id record found foreign
            obtain rfl := Option.some.inj (stored.symm.trans kept)
            exact foreign rfl
          · intro mine
            have own := mine credential rfl
            refine ⟨fun id record found foreign => ?_, fun other response' distinct =>
              authenticationOutcome_register own distinct response'⟩
            have other : id ≠ credential.id := by
              rintro rfl
              exact foreign (own record found)
            exact (Function.update_of_ne other _ _).trans found

/-- The ids still resolve after a call, if what it registers is not another
user's. -/
theorem resolves_next (resolves : Resolves redis) (request : Request Registration Authentication)
    (mine : NotAnothers webAuthn redis request) :
    Resolves ((sequential webAuthn).next redis request) := by
  match request with
  | .expires userId => exact resolves
  | .call (.options userId challenge) =>
      have next : (sequential webAuthn).next redis (.call (.options userId challenge)) =
          redis.setChallenge userId (some challenge) := run_generateOptions_snd redis _ _
      rw [next]
      exact resolves
  | .call (.authentication userId response) =>
      have next : (sequential webAuthn).next redis (.call (.authentication userId response)) =
          ((verifyAuthentication webAuthn userId response).run exec redis).2 := rfl
      rw [next]
      rcases (run_verifyAuthentication webAuthn redis userId response).2 with same |
        ⟨record, newCounter, found, written⟩
      · rw [same]
        exact resolves
      · rw [written]
        intro userId' id mem
        obtain ⟨record', found', owner⟩ := resolves userId' id mem
        -- the record that is written back has the same owner
        by_cases same : id = webAuthn.credentialId response
        · subst same
          obtain rfl := Option.some.inj (found.symm.trans found')
          exact ⟨_, Function.update_self .., owner⟩
        · exact ⟨record', (Function.update_of_ne same _ _).trans found', owner⟩
  | .call (.registration userId response) =>
      have next : (sequential webAuthn).next redis (.call (.registration userId response)) = _ :=
        run_verifyRegistration_snd webAuthn redis userId response
      rw [next]
      cases verified : attested webAuthn redis userId response with
      | none => exact resolves
      | some credential =>
          intro userId' id mem
          by_cases same : id = credential.id
          · subst same
            refine ⟨credential.record userId, Function.update_self .., ?_⟩
            -- whoever has the id in the set of before owns the record that is replaced
            rcases (Store.mem_userCredentials_addCredential _ _ _).mp mem with ⟨rfl, -⟩ | before
            · rfl
            · obtain ⟨record, found, owner⟩ := resolves userId' credential.id before
              exact (mine credential verified record found).symm.trans owner
          · rcases (Store.mem_userCredentials_addCredential _ _ _).mp mem with ⟨-, rfl⟩ | before
            · exact absurd rfl same
            · obtain ⟨record, found, owner⟩ := resolves userId' id before
              exact ⟨record, (Function.update_of_ne same _ _).trans found, owner⟩

/-- **Credentials belong to one user**: in a run of calls every id resolves in
every state, and every registration keeps the credentials of other users, if and
only if no registration is of a credential stored for another user. -/
theorem credentials_kept_iff (webAuthn : WebAuthn Registration Authentication)
    (requests : List (Request Registration Authentication)) :
    ((∀ done rest, requests = done ++ rest →
        Resolves ((sequential webAuthn).run Store.empty done)) ∧
      (sequential webAuthn).Along (KeepsOthers webAuthn) Store.empty requests) ↔
    (sequential webAuthn).Along (NotAnothers webAuthn) Store.empty requests := by
  have same : KeepsOthers webAuthn = NotAnothers webAuthn := by
    funext redis request
    exact propext (keepsOthers_iff_notAnothers request)
  rw [same]
  refine ⟨And.right, fun along => ⟨?_, along⟩⟩
  rintro done rest rfl
  refine Machine.run_invariant_along (I := Resolves) ?_ ?_ done
    ((Machine.along_append _ _ _).mp along).1
  · intro userId id mem
    cases mem
  · intro redis request redis' new resolves mine success
    have next : (sequential webAuthn).next redis request = redis' := Machine.next_of_ok success
    exact next ▸ resolves_next resolves request mine

/-! ## A key registered twice -/

/-- Two users who register the same key, of which the first then signs in. -/
def sampleRequests : List (Request SampleResponse SampleResponse) :=
  [.call (.options "alice" "c0"), .call (.registration "alice" ⟨"c0", sampleKey 1⟩),
    .call (.options "alice" "c1"), .call (.options "mallory" "c2"),
    .call (.registration "mallory" ⟨"c2", sampleKey 1⟩)]

/-- The registration of the second user takes the record over: the id of the
first one does not resolve, and her next authentication fails where it would have
succeeded. -/
theorem credentials_kept_counterexample :
    ¬ Resolves ((sequential sampleWebAuthn).run Store.empty sampleRequests) ∧
    ((verifyAuthentication sampleWebAuthn "alice" ⟨"c1", sampleKey 2⟩).run exec
      ((sequential sampleWebAuthn).run Store.empty (sampleRequests.take 4))).1 =
        .authenticated ∧
    ((verifyAuthentication sampleWebAuthn "alice" ⟨"c1", sampleKey 2⟩).run exec
      ((sequential sampleWebAuthn).run Store.empty sampleRequests)).1 =
        .failed "Credential not found for user" := by
  refine ⟨fun resolves => ?_, by decide, by decide⟩
  have hers : "key" ∈ ((sequential sampleWebAuthn).run Store.empty
      sampleRequests).userCredentials "alice" := by decide
  have stored : ((sequential sampleWebAuthn).run Store.empty sampleRequests).credentials "key" =
      some ⟨"key", [], 1, "mallory"⟩ := by decide
  obtain ⟨record, found, owner⟩ := resolves "alice" "key" hers
  obtain rfl := Option.some.inj (found.symm.trans stored)
  exact absurd owner (by decide)

end TheVoteApp.FIDO2Service
