import TheVoteApp.Foundations.Program

/-!
# Push notifications

`NotificationService.ts`.  Redis keeps the device token of each user and, for each
country, the set of its users.  A user registers a token, unregisters it, and is
sent what is broadcast to the country; a broadcast deletes the tokens the
messaging service does not know any more.

Each method is a program of Redis commands.  What the messaging service answers a
broadcast is an argument of the broadcast: for each token whether it is reported
as not registered, or `none` where sending throws.

## Main definitions

* `Store`, `exec` — the tokens and the countries, and the commands on them
* `registerToken`, `unregisterToken`, `broadcast` — the methods

## Design notes

A stored record is tagged with the registration that stored it.  The source keeps
no such tag and the methods never look at it; it tells two registrations of equal
records apart.  The keys `notif:token:` and `notif:country:` differ in their first
letters, so each kind has a field of its own.
-/

namespace TheVoteApp.NotificationService

open Foundations

/-- The platform of a device. -/
inductive Platform where
  | android
  | ios
deriving DecidableEq

/-- The record under a user's key. -/
structure TokenRecord where
  token : String
  platform : Platform
  countryCode : String
deriving DecidableEq

/-- A record with the registration `T` that stored it. -/
structure Entry (T : Type) where
  record : TokenRecord
  registration : T
deriving DecidableEq

/-- What is sent. -/
structure Message where
  title : String
  body : String
  event : String
  policyId : String
deriving DecidableEq

/-- The message of `notifyPolicyOpened`. -/
def notifyPolicyOpened (policyId policyTitle : String) : Message :=
  ⟨"Voting is now open", policyTitle, "policy_opened", policyId⟩

/-- The message of `notifyDeadline24h`. -/
def notifyDeadline24h (policyId policyTitle : String) : Message :=
  ⟨"Last chance to vote", "Voting closes in 24 hours: " ++ policyTitle, "deadline_24h", policyId⟩

/-- The message of `notifyResultsPublished`. -/
def notifyResultsPublished (policyId policyTitle : String) : Message :=
  ⟨"Results are in", policyTitle, "results_published", policyId⟩

/-! ## Redis -/

/-- The commands on the keys `TK` and `CK`. -/
inductive Command (T : Type) where
  | getToken (userId : String)
  | setToken (userId : String) (entry : Entry T)
  | delToken (userId : String)
  | sremCountry (countryCode userId : String)
  | saddCountry (countryCode userId : String)
  | smembersCountry (countryCode : String)

variable {T : Type}

/-- What a command is answered with. -/
abbrev Command.Reply : Command T → Type
  | .getToken _ => Option (Entry T)
  | .setToken _ _ => Unit
  | .delToken _ => Unit
  | .sremCountry _ _ => Unit
  | .saddCountry _ _ => Unit
  | .smembersCountry _ => List String

/-- The token of each user and the users of each country. -/
@[ext]
structure Store (T : Type) where
  tokens : String → Option (Entry T)
  countries : String → List String

namespace Store

/-- No token and no country. -/
def empty : Store T := ⟨fun _ => none, fun _ => []⟩

/-- The token of a user is stored, or deleted. -/
def setToken (redis : Store T) (userId : String) (entry : Option (Entry T)) : Store T :=
  { redis with tokens := Function.update redis.tokens userId entry }

/-- A user joins the set of a country. -/
def addToCountry (redis : Store T) (countryCode userId : String) : Store T :=
  let users := (redis.countries countryCode).insert userId
  { redis with countries := Function.update redis.countries countryCode users }

/-- A user leaves the set of a country. -/
def removeFromCountry (redis : Store T) (countryCode userId : String) : Store T :=
  let users := (redis.countries countryCode).filter (· ≠ userId)
  { redis with countries := Function.update redis.countries countryCode users }

variable (redis : Store T) (countryCode userId : String)

@[simp] theorem tokens_setToken (entry : Option (Entry T)) :
    (redis.setToken userId entry).tokens = Function.update redis.tokens userId entry := rfl

@[simp] theorem countries_setToken (entry : Option (Entry T)) :
    (redis.setToken userId entry).countries = redis.countries := rfl

@[simp] theorem tokens_addToCountry :
    (redis.addToCountry countryCode userId).tokens = redis.tokens := rfl

@[simp] theorem tokens_removeFromCountry :
    (redis.removeFromCountry countryCode userId).tokens = redis.tokens := rfl

theorem mem_addToCountry {countryCode' userId' : String} :
    userId' ∈ (redis.addToCountry countryCode userId).countries countryCode' ↔
      (countryCode' = countryCode ∧ userId' = userId) ∨
        userId' ∈ redis.countries countryCode' := by
  rw [addToCountry]
  by_cases same : countryCode' = countryCode
  · subst same
    simp
  · simp [same]

theorem mem_removeFromCountry {countryCode' userId' : String} :
    userId' ∈ (redis.removeFromCountry countryCode userId).countries countryCode' ↔
      userId' ∈ redis.countries countryCode' ∧
        ¬ (countryCode' = countryCode ∧ userId' = userId) := by
  rw [removeFromCountry]
  by_cases same : countryCode' = countryCode
  · subst same
    simp
  · simp [same]

end Store

/-- The reply to a command and its effect. -/
def exec : (command : Command T) → Store T → command.Reply × Store T
  | .getToken userId, redis => (redis.tokens userId, redis)
  | .setToken userId entry, redis => ((), redis.setToken userId (some entry))
  | .delToken userId, redis => ((), redis.setToken userId none)
  | .sremCountry countryCode userId, redis => ((), redis.removeFromCountry countryCode userId)
  | .saddCountry countryCode userId, redis => ((), redis.addToCountry countryCode userId)
  | .smembersCountry countryCode, redis => (redis.countries countryCode, redis)

/-- The methods are programs. -/
abbrev Program (T α : Type) := Foundations.Program (Command T) Command.Reply α

/-- Issuing a command. -/
abbrev issue (command : Command T) : Program T command.Reply := .command command .done

/-! ## The methods -/

/-- The country a new registration moves its user away from. -/
def leaves (existing : Option (Entry T)) (countryCode : String) : Option String :=
  (existing.map (·.record.countryCode)).filter (· ≠ countryCode)

/-- Removing the user from a country, if there is one to remove from. -/
def removeFrom (userId : String) : Option String → Program T Unit
  | some countryCode => issue (.sremCountry countryCode userId)
  | none => return ()

/-- `registerToken`, which first leaves the country of an earlier record. -/
def registerToken (registration : T) (userId : String) (record : TokenRecord) :
    Program T Unit := do
  let existing ← issue (.getToken userId)
  removeFrom userId (leaves existing record.countryCode)
  -- both commands are sent at once
  issue (.setToken userId ⟨record, registration⟩)
  issue (.saddCountry record.countryCode userId)

/-- `unregisterToken`. -/
def unregisterToken (userId : String) : Program T Unit := do
  let raw ← issue (.getToken userId)
  removeFrom userId (raw.map (·.record.countryCode))
  issue (.delToken userId)

/-- A user a broadcast is sent to, with the record read. -/
structure Recipient (T : Type) where
  userId : String
  entry : Entry T
deriving DecidableEq

/-- The records of the ids, found ones only. -/
def getRecipients : List String → Program T (List (Recipient T))
  | [] => return []
  | userId :: userIds => do
      let entry ← issue (.getToken userId)
      let recipients ← getRecipients userIds
      return (entry.map (Recipient.mk userId)).toList ++ recipients

/-- The recipients whose token the messaging service reports as not registered. -/
def staleRecipients (send : List String → Option (List Bool)) (recipients : List (Recipient T)) :
    List (Recipient T) :=
  if recipients = [] then []
  else
    match send (recipients.map (·.entry.record.token)) with
    | none => []
    | some notRegistered => ((recipients.zip notRegistered).filter (·.2)).map Prod.fst

/-- `staleRemovals`. -/
def removeStale : List (Recipient T) → Program T Unit
  | [] => return ()
  | recipient :: recipients => do
      issue (.delToken recipient.userId)
      issue (.sremCountry recipient.entry.record.countryCode recipient.userId)
      removeStale recipients

/-- `broadcast`, whose message is part of `send`. -/
def broadcast (countryCode : String) (send : List String → Option (List Bool)) :
    Program T Unit := do
  let userIds ← issue (.smembersCountry countryCode)
  let recipients ← getRecipients userIds
  removeStale (staleRecipients send recipients)

/-- A call of one of the methods; what a broadcast sends is decided by its
message, what is done about stale tokens by the answer of the messaging service. -/
inductive Call where
  | register (userId : String) (record : TokenRecord)
  | unregister (userId : String)
  | broadcast (countryCode : String) (message : Message)
      (send : Message → List String → Option (List Bool))

/-- The program of a call, with the tag of its registration. -/
def Call.program (registration : T) : Call → Program T Unit
  | .register userId record => registerToken registration userId record
  | .unregister userId => unregisterToken userId
  | .broadcast countryCode message send =>
      NotificationService.broadcast countryCode (send message)

end TheVoteApp.NotificationService
