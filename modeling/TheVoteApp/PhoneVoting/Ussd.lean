import TheVoteApp.JavaScript.Builtins
import TheVoteApp.Redis.Database

/-!
# Voting by USSD

`USSDVoteService.ts`.  The gateway repeats all inputs of a session in every
request, joined by `*`; the handler reads the last one and a stored session that
says which question it answers.

`handle` is a program of Redis commands.  It returns a `Reply`, of which
`response` is the text on the screen.  The hash, `sha256`, is the hexadecimal
digest of a text; the salt comes from the environment.

What reads the list of policies is stated for any list (`pageAt`, `choice`,
`selectPolicyOn`, `handleOn`); the service is the instance at its own list.
-/

namespace TheVoteApp.USSDVoteService

open JavaScript Redis

/-- The stored session. -/
structure Session where
  step : ℕ
  policyIndex : ℕ
  policyId : Option String
deriving DecidableEq

/-- A session nothing has been stored for yet. -/
def Session.initial : Session := ⟨0, 0, none⟩

/-- An entry of the menu. -/
structure Policy where
  id : String
  title : String
deriving DecidableEq

/-- `POLICIES`. -/
def policies : List Policy :=
  [⟨"pol-001", "NHS Funding Increase"⟩, ⟨"pol-002", "Green Energy Transition"⟩,
    ⟨"pol-003", "Housing Reform Bill"⟩, ⟨"pol-004", "Education Voucher Scheme"⟩,
    ⟨"pol-005", "Transport Infrastructure"⟩]

/-- `SESSION_TTL`, in seconds. -/
def sessionTTL : ℕ := 90

/-- `SK`, the key of a session. -/
def sessionKey (id : String) : String := "ussd:session:" ++ id

/-- `NULLIFIERS_KEY`. -/
def nullifiersKey : String := "ussd:nullifiers"

theorem nullifiersKey_ne_sessionKey (id : String) : nullifiersKey ≠ sessionKey id := by
  intro same
  have letters := congrArg (fun key => key.toList.take 6) same
  simp [nullifiersKey, sessionKey] at letters

/-- `optionMap`. -/
def optionMap : List (String × String) :=
  [("1", "option-support"), ("2", "option-oppose"), ("3", "option-abstain")]

/-- `labelMap`. -/
def labelMap : List (String × String) :=
  [("option-support", "Support"), ("option-oppose", "Oppose"), ("option-abstain", "Abstain")]

/-- The policies of a page, each with the number in front of it. -/
def pageAt (policies : List Policy) (offset : ℕ) : List (Policy × ℕ) :=
  ((policies.drop offset).take 3).zipIdx 1

/-- `policyMenu`. -/
def policyMenu (offset : ℕ) : String :=
  "\n".intercalate ((pageAt policies offset).map fun entry =>
    toString entry.2 ++ ". " ++ slice 0 30 entry.1.title)

/-! ## Replies -/

/-- What the handler answers. -/
inductive Reply where
  | welcome
  | ended
  | page (policyIndex : ℕ)
  | invalidChoice (policyIndex : ℕ)
  | options (policy : Policy)
  | invalidOption
  | confirm (optionId policy : String)
  | cancelled
  | alreadyVoted
  | recorded (policyId : String) (optionId : Option String) (nullifier : String)
  | expired
deriving DecidableEq

/-- `USSDResponse`. -/
structure Response where
  text : String
  continues : Bool
deriving DecidableEq

/-- `con`. -/
def con (text : String) : Response := ⟨text, true⟩

/-- `end`. -/
def endSession (text : String) : Response := ⟨text, false⟩

/-- The text of a reply, and whether the session goes on. -/
def response : Reply → Response
  | .welcome => con ("Welcome to TheVoteApp\n\nActive policies:\n" ++ policyMenu 0 ++
      "\n0. Next page\n#. Exit")
  | .ended => endSession "Session ended. Thank you."
  | .page policyIndex => con ("Active policies:\n" ++ policyMenu policyIndex ++
      "\n0. Next page\n#. Exit")
  | .invalidChoice policyIndex =>
      con ("Invalid choice. Please try again.\n" ++ policyMenu policyIndex)
  | .options policy => con (policy.title ++ "\n\n1. Support\n2. Oppose\n3. Abstain\n#. Cancel")
  | .invalidOption => con "Invalid option.\n1. Support\n2. Oppose\n3. Abstain\n#. Cancel"
  | .confirm optionId policy =>
      con ("Confirm vote:\n" ++ (property labelMap optionId).getD "undefined" ++ " on " ++
        policy ++ "\n\n1. Confirm\n2. Cancel")
  | .cancelled => endSession "Vote cancelled. Thank you."
  | .alreadyVoted => endSession "You have already voted on this policy."
  | .recorded _ _ nullifier =>
      endSession ("Vote recorded!\nReceipt: " ++ (slice 2 10 nullifier).toUpper ++
        "\n\nThank you for participating.")
  | .expired => endSession "Session expired. Please dial again."

/-! ## The handler -/

section Handler

variable (sha256 : String → String) (salt : String)

/-- `deriveNullifier`, of the three texts in a row. -/
def deriveNullifier (phone policyId : String) : String :=
  "0x" ++ sha256 (phone ++ policyId ++ salt)

/-- `getSession`. -/
def getSession (sessionId : String) : Program Session (Option Session) :=
  get (sessionKey sessionId)

/-- `saveSession`, which starts the life of the session anew. -/
def saveSession (sessionId : String) (session : Session) : Program Session Unit :=
  setex (sessionKey sessionId) sessionTTL session

/-- The inputs of a cumulative text: `text.split("*").filter(Boolean)`. -/
def inputs (text : String) : List String := (split '*' text).filter (· ≠ "")

/-- `POLICIES[parseInt(last, 10) - 1 + policyIndex]`. -/
def choice (policies : List Policy) (policyIndex : ℕ) (last : String) : Option Policy :=
  match parseInt last with
  | none => none
  | some number =>
      let index := number - 1 + policyIndex
      if index < 0 then none else policies[index.toNat]?

/-- The policy selection of `handle`.  Without policies the remainder is `NaN`, which is
neither a page nor an index of anything; nothing can be chosen then. -/
def selectPolicyOn (policies : List Policy) (sessionId : String) (session : Session)
    (last : String) : Program Session Reply := do
  if last = "0" then
    let policyIndex := (session.policyIndex + 3) % policies.length
    saveSession sessionId { session with policyIndex := policyIndex }
    return .page policyIndex
  else
    match choice policies session.policyIndex last with
    | none => return .invalidChoice session.policyIndex
    | some policy => do
      saveSession sessionId { session with policyId := some policy.id, step := 1 }
      return .options policy

/-- `policyId.split(":")[0]`. -/
def policyBase (policyId : String) : String := (split ':' policyId).headD ""

/-- The vote option selection of `handle`. -/
def selectOption (sessionId : String) (session : Session) (policyId last : String) :
    Program Session Reply := do
  match property optionMap last with
  | none => return .invalidOption
  | some optionId => do
    saveSession sessionId
      { session with step := 2, policyId := some (policyBase policyId ++ ":" ++ optionId) }
    return .confirm optionId (policyBase policyId)

/-- The confirmation of `handle`. -/
def confirmVote (sessionId phone policyId last : String) : Program Session Reply := do
  if last ≠ "1" then
    del (sessionKey sessionId)
    return .cancelled
  else
    let optionId := (split ':' policyId)[1]?
    let nullifier := deriveNullifier sha256 salt phone (policyBase policyId)
    let alreadyVoted ← sismember nullifiersKey nullifier
    match alreadyVoted with
    | true => do
      del (sessionKey sessionId)
      return .alreadyVoted
    | false => do
      sadd nullifiersKey nullifier
      del (sessionKey sessionId)
      return .recorded (policyBase policyId) optionId nullifier

/-- A session's policy, unless it is missing or empty. -/
def Session.policy (session : Session) : Option String := session.policyId.filter (· ≠ "")

/-- `handle`, with any list of policies. -/
def handleOn (policies : List Policy) (sessionId phone text : String) :
    Program Session Reply := do
  let stored ← getSession sessionId
  let session := stored.getD .initial
  saveSession sessionId session
  match (inputs text).getLast? with
  | none => return .welcome
  | some last =>
    if last = "#" then
      del (sessionKey sessionId)
      return .ended
    else
      match session.policy with
      | none => selectPolicyOn policies sessionId session last
      | some policyId =>
        if session.step = 1 then selectOption sessionId session policyId last
        else if session.step = 2 then confirmVote sha256 salt sessionId phone policyId last
        else return .expired

/-- `handle`. -/
def handle (sessionId phone text : String) : Program Session Reply :=
  handleOn sha256 salt policies sessionId phone text

end Handler

/-- The digest of the text one vote hashes. -/
def sampleSha256 (text : String) : String :=
  if text = "+254700000001pol-001ussd-salt-replace" then
    "387e419bf080601aac8a3e597f10b47a6fca66b39ecf33b95ca90d1660660b53"
  else ""

end TheVoteApp.USSDVoteService
