import TheVoteApp.Foundations.Program

/-!
# Security keys

`FIDO2Service.ts`.  The server hands out a challenge, the user's authenticator
signs it, and a library verifies the response.  Redis keeps a challenge for each
user, a record for each credential, and for each user the set of its credential
ids.

Each method is a program of Redis commands.  The WebAuthn library is a parameter
with the two properties of it that the service relies on; the challenge it draws
for a set of options is an argument.

## Main definitions

* `WebAuthn` — the library
* `Store`, `exec` — the three kinds of keys and the commands on them
* `verifyRegistration`, `verifyAuthentication`, `generateOptions` — the methods

## Design notes

The keys `fido2:challenge:`, `fido2:cred:` and `fido2:user:` differ in their first
letters, so each kind has a field of its own.  A record is read back as it was
written.  Keys expire by an action of the environment.
-/

namespace TheVoteApp.FIDO2Service

open Foundations

/-- `StoredCredential`, the record under a credential's id. -/
structure StoredCredential where
  credentialID : String
  credentialPublicKey : List UInt8
  counter : ℕ
  userId : String
deriving DecidableEq

/-- `registrationInfo.credential`. -/
structure AttestedCredential where
  id : String
  publicKey : List UInt8
  counter : ℕ
deriving DecidableEq

/-- The library, at the origin and the relying party of the service.  A call
throws an error, or tells whether the response is verified and what it attests.
What it accepts answers the expected challenge, and carries a counter beyond the
stored one unless both are zero. -/
structure WebAuthn (Registration Authentication : Type) where
  verifyRegistrationResponse :
    Registration → String → Except String (Option AttestedCredential)
  verifyAuthenticationResponse :
    Authentication → String → AttestedCredential → Except String (Option ℕ)
  registrationChallenge : Registration → String
  authenticationChallenge : Authentication → String
  credentialId : Authentication → String
  registration_answers : ∀ response expected credential,
    verifyRegistrationResponse response expected = .ok (some credential) →
      registrationChallenge response = expected
  authentication_answers : ∀ response expected credential newCounter,
    verifyAuthenticationResponse response expected credential = .ok (some newCounter) →
      authenticationChallenge response = expected
  counter_grows : ∀ response expected credential newCounter,
    verifyAuthenticationResponse response expected credential = .ok (some newCounter) →
      credential.counter < newCounter ∨ (credential.counter = 0 ∧ newCounter = 0)

/-! ## Redis -/

/-- The commands on the keys `CK`, `CR` and `UC`. -/
inductive Command where
  | getChallenge (userId : String)
  | setexChallenge (userId : String) (seconds : ℕ) (challenge : String)
  | delChallenge (userId : String)
  | getCredential (credId : String)
  | setCredential (credId : String) (record : StoredCredential)
  | saddCredential (userId credId : String)
  | smembersCredentials (userId : String)

/-- What a command is answered with. -/
abbrev Command.Reply : Command → Type
  | .getChallenge _ => Option String
  | .setexChallenge _ _ _ => Unit
  | .delChallenge _ => Unit
  | .getCredential _ => Option StoredCredential
  | .setCredential _ _ => Unit
  | .saddCredential _ _ => Unit
  | .smembersCredentials _ => List String

/-- The challenge of a user, the record of a credential, the ids of a user. -/
@[ext]
structure Store where
  challenges : String → Option String
  credentials : String → Option StoredCredential
  userCredentials : String → List String

namespace Store

/-- No challenge and no credential. -/
def empty : Store := ⟨fun _ => none, fun _ => none, fun _ => []⟩

/-- The challenge of a user is set, or deleted. -/
def setChallenge (redis : Store) (userId : String) (challenge : Option String) : Store :=
  { redis with challenges := Function.update redis.challenges userId challenge }

/-- The record of a credential is written over. -/
def setCredential (redis : Store) (credId : String) (record : StoredCredential) : Store :=
  { redis with credentials := Function.update redis.credentials credId (some record) }

/-- A credential's id joins the set of a user. -/
def addCredential (redis : Store) (userId credId : String) : Store :=
  let ids := (redis.userCredentials userId).insert credId
  { redis with userCredentials := Function.update redis.userCredentials userId ids }

variable (redis : Store) (userId credId : String) (challenge : Option String)
  (record : StoredCredential)

@[simp] theorem challenges_setChallenge : (redis.setChallenge userId challenge).challenges =
    Function.update redis.challenges userId challenge := rfl

@[simp] theorem credentials_setChallenge :
    (redis.setChallenge userId challenge).credentials = redis.credentials := rfl

@[simp] theorem userCredentials_setChallenge :
    (redis.setChallenge userId challenge).userCredentials = redis.userCredentials := rfl

@[simp] theorem challenges_setCredential :
    (redis.setCredential credId record).challenges = redis.challenges := rfl

@[simp] theorem credentials_setCredential : (redis.setCredential credId record).credentials =
    Function.update redis.credentials credId (some record) := rfl

@[simp] theorem userCredentials_setCredential :
    (redis.setCredential credId record).userCredentials = redis.userCredentials := rfl

@[simp] theorem challenges_addCredential :
    (redis.addCredential userId credId).challenges = redis.challenges := rfl

@[simp] theorem credentials_addCredential :
    (redis.addCredential userId credId).credentials = redis.credentials := rfl

theorem mem_userCredentials_addCredential {userId' credId' : String} :
    credId' ∈ (redis.addCredential userId credId).userCredentials userId' ↔
      (userId' = userId ∧ credId' = credId) ∨ credId' ∈ redis.userCredentials userId' := by
  rw [addCredential]
  by_cases same : userId' = userId
  · subst same
    simp
  · simp [same]

end Store

/-- The reply to a command and its effect. -/
def exec : (command : Command) → Store → command.Reply × Store
  | .getChallenge userId, redis => (redis.challenges userId, redis)
  | .setexChallenge userId _ challenge, redis => ((), redis.setChallenge userId (some challenge))
  | .delChallenge userId, redis => ((), redis.setChallenge userId none)
  | .getCredential credId, redis => (redis.credentials credId, redis)
  | .setCredential credId record, redis => ((), redis.setCredential credId record)
  | .saddCredential userId credId, redis => ((), redis.addCredential userId credId)
  | .smembersCredentials userId, redis => (redis.userCredentials userId, redis)

/-- The methods are programs. -/
abbrev Program (α : Type) := Foundations.Program Command Command.Reply α

/-- Issuing a command. -/
abbrev issue (command : Command) : Program command.Reply := .command command .done

/-! ## The methods -/

/-- What a method returns, or the message of the error it throws. -/
inductive Outcome where
  | options (challenge : String) (credentialIds : List String)
  | registered (credentialId : String)
  | authenticated
  | failed (message : String)
deriving DecidableEq

/-- `CHALLENGE_TTL`, in seconds. -/
def challengeTTL : ℕ := 300

/-- The records of the ids, found ones only. -/
def getCredentials : List String → Program (List StoredCredential)
  | [] => return []
  | id :: ids => do
      let record ← issue (.getCredential id)
      let records ← getCredentials ids
      return record.toList ++ records

/-- `getUserCredentials`, one `GET` for each id of the user. -/
def getUserCredentials (userId : String) : Program (List StoredCredential) := do
  let credIds ← issue (.smembersCredentials userId)
  getCredentials credIds

/-- `generateRegistrationOptions` and `generateAuthenticationOptions`, which list
the user's credentials to exclude or to allow, and store the challenge. -/
def generateOptions (userId challenge : String) : Program Outcome := do
  let userCreds ← getUserCredentials userId
  issue (.setexChallenge userId challengeTTL challenge)
  return .options challenge (userCreds.map StoredCredential.credentialID)

/-- `generateRegistrationOptions`, for the challenge the library has drawn. -/
def generateRegistrationOptions : String → String → Program Outcome := generateOptions

/-- `generateAuthenticationOptions`, for the challenge the library has drawn. -/
def generateAuthenticationOptions : String → String → Program Outcome := generateOptions

/-- `updateCounter`. -/
def updateCounter (credentialId : String) (newCounter : ℕ) : Program Unit := do
  let stored ← issue (.getCredential credentialId)
  match stored with
  | none => return ()
  | some record => issue (.setCredential credentialId { record with counter := newCounter })

section Verification

variable {Registration Authentication : Type} (webAuthn : WebAuthn Registration Authentication)

/-- A challenge that is missing or empty is not pending. -/
def pending (stored : Option String) : Option String := stored.filter (· ≠ "")

/-- The record of a credential attested to a user. -/
def AttestedCredential.record (credential : AttestedCredential) (userId : String) :
    StoredCredential :=
  ⟨credential.id, credential.publicKey, credential.counter, userId⟩

/-- What the library is told of a stored credential. -/
def StoredCredential.attested (record : StoredCredential) : AttestedCredential :=
  ⟨record.credentialID, record.credentialPublicKey, record.counter⟩

/-- What the library attests to, or the message a registration fails with. -/
def attest (response : Registration) (expectedChallenge : String) :
    Except String AttestedCredential :=
  match webAuthn.verifyRegistrationResponse response expectedChallenge with
  | .error message => .error message
  | .ok none => .error "Registration verification failed"
  | .ok (some credential) => .ok credential

/-- The counter the library reads, or the message an authentication fails with. -/
def assert (userId : String) (response : Authentication) (expectedChallenge : String)
    (credential : Option StoredCredential) : Except String ℕ :=
  match credential.filter (·.userId = userId) with
  | none => .error "Credential not found for user"
  | some credential =>
    match webAuthn.verifyAuthenticationResponse response expectedChallenge
        credential.attested with
    | .error message => .error message
    | .ok none => .error "Authentication verification failed"
    | .ok (some newCounter) => .ok newCounter

/-- `verifyRegistration`. -/
def verifyRegistration (userId : String) (response : Registration) : Program Outcome := do
  let stored ← issue (.getChallenge userId)
  match pending stored with
  | none => return .failed "No pending challenge for user"
  | some expectedChallenge =>
    match attest webAuthn response expectedChallenge with
    | .error message => return .failed message
    | .ok credential => do
      -- `storeCredential` sends both commands at once
      issue (.setCredential credential.id (credential.record userId))
      issue (.saddCredential userId credential.id)
      issue (.delChallenge userId)
      return .registered credential.id

/-- `verifyAuthentication`. -/
def verifyAuthentication (userId : String) (response : Authentication) : Program Outcome := do
  let stored ← issue (.getChallenge userId)
  match pending stored with
  | none => return .failed "No pending challenge for user"
  | some expectedChallenge => do
    let credential ← issue (.getCredential (webAuthn.credentialId response))
    match assert webAuthn userId response expectedChallenge credential with
    | .error message => return .failed message
    | .ok newCounter => do
      updateCounter (webAuthn.credentialId response) newCounter
      issue (.delChallenge userId)
      return .authenticated

end Verification

/-- A call of one of the methods. -/
inductive Call (Registration Authentication : Type) where
  | options (userId challenge : String)
  | registration (userId : String) (response : Registration)
  | authentication (userId : String) (response : Authentication)
deriving DecidableEq

/-- The program of a call. -/
def Call.program {Registration Authentication : Type}
    (webAuthn : WebAuthn Registration Authentication) :
    Call Registration Authentication → Program Outcome
  | .options userId challenge => generateOptions userId challenge
  | .registration userId response => verifyRegistration webAuthn userId response
  | .authentication userId response => verifyAuthentication webAuthn userId response

/-! ## A library -/

/-- A response to a challenge, signed with a counter by a credential. -/
structure SampleResponse where
  challenge : String
  credential : AttestedCredential
deriving DecidableEq

/-- A library that checks the challenge, the credential and the counter. -/
def sampleWebAuthn : WebAuthn SampleResponse SampleResponse where
  verifyRegistrationResponse response expected :=
    if response.challenge = expected then .ok (some response.credential)
    else .error "Unexpected registration response challenge"
  verifyAuthenticationResponse response expected stored :=
    if response.challenge = expected then
      if stored.counter < response.credential.counter ∨
          (stored.counter = 0 ∧ response.credential.counter = 0) then
        .ok (some response.credential.counter)
      else .error "Response counter value was lower than expected"
    else .error "Unexpected authentication response challenge"
  registrationChallenge := SampleResponse.challenge
  authenticationChallenge := SampleResponse.challenge
  credentialId response := response.credential.id
  registration_answers response expected credential verified := by
    split at verified
    · assumption
    · cases verified
  authentication_answers response expected stored newCounter verified := by
    split at verified
    · assumption
    · cases verified
  counter_grows response expected stored newCounter verified := by
    split at verified
    · split at verified
      · rename_i grows
        obtain rfl := Option.some.inj (Except.ok.inj verified)
        exact grows
      · cases verified
    · cases verified

/-- The key of a user, at a signature counter. -/
def sampleKey (counter : ℕ) : AttestedCredential := ⟨"key", [], counter⟩

end TheVoteApp.FIDO2Service
