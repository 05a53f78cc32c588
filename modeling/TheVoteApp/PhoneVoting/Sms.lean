import TheVoteApp.JavaScript.Builtins
import TheVoteApp.Redis.Database

/-!
# Voting by SMS

`SMSVoteService.ts`.  A message is a command with arguments; a `VOTE` is recorded
under a nullifier derived from the number and the policy.

`handleInbound` is a program of Redis commands.  It returns a `Reply`, of which
`text` is the message sent back.  `toUpperCase` and the hash are parameters, the
latter as the hexadecimal digest of a text.
-/

namespace TheVoteApp.SMSVoteService

open JavaScript Redis

/-- The configuration: the allowed countries in upper case, and the salt. -/
structure Config where
  allowedCountryCodes : List String
  salt : String

/-- An inbound text message. -/
structure Message where
  phone : String
  body : String
deriving DecidableEq

/-- `NULLIFIERS_KEY`. -/
def nullifiersKey : String := "sms:nullifiers"

/-- `optionMap`. -/
def optionMap : List (String × String) :=
  [("SUPPORT", "option-support"), ("OPPOSE", "option-oppose"), ("ABSTAIN", "option-abstain")]

/-- `extractCountryCode`.  The prefixes are tried in this order. -/
def extractCountryCode (e164 : String) : String :=
  if startsWith "+44" e164 then "GB"
  else if startsWith "+1" e164 then "US"
  else if startsWith "+91" e164 then "IN"
  else if startsWith "+234" e164 then "NG"
  else if startsWith "+254" e164 then "KE"
  else if startsWith "+27" e164 then "ZA"
  else "UNKNOWN"

/-! ## Replies -/

/-- What the handler answers. -/
inductive Reply where
  | unavailable
  | help
  | checking (txHash : String)
  | unrecognised
  | unknownOption (optionRaw : String)
  | alreadyVoted (policyId : String)
  | recorded (policyId optionId nullifier txHash : String)
deriving DecidableEq

/-- `helpText`. -/
def helpText : String :=
  "\n".intercalate ["TheVoteApp SMS Voting", "---------------------",
    "VOTE <policyId> SUPPORT|OPPOSE|ABSTAIN", "VERIFY <txHash>", "HELP — show this message", "",
    "Your number is never stored.", "One vote per policy per number."]

/-- The text of a reply. -/
def text : Reply → String
  | .unavailable => "Voting via SMS is not available in your region."
  | .help => helpText
  | .checking txHash => "Checking TX " ++ slice 0 12 txHash ++
      "... Visit the app for full verification details."
  | .unrecognised => "Unrecognised command. Text HELP for instructions."
  | .unknownOption optionRaw => "Unknown option \"" ++ optionRaw ++
      "\". Use SUPPORT, OPPOSE, or ABSTAIN."
  | .alreadyVoted policyId => "You have already voted on " ++ policyId ++
      ". Each number may vote once."
  | .recorded _ _ _ txHash => "Vote recorded! TX: " ++ slice 0 18 txHash ++ "... Reply VERIFY " ++
      txHash ++ " to confirm."

/-! ## The handler -/

section Handler

variable (sha256 toUpperCase : String → String) (config : Config)

/-- `SHA-256(phone || policyId || salt)`. -/
def deriveNullifier (phone policyId : String) : String :=
  "0x" ++ sha256 (phone ++ policyId ++ config.salt)

/-- `submitToChain`, a stub. -/
def submitToChain (nullifier policyId optionId : String) : String :=
  "0x" ++ sha256 (nullifier ++ policyId ++ optionId)

/-- `handleVote`: the check and the addition are separate commands. -/
def handleVote (phone policyId optionRaw : String) : Program Unit Reply := do
  match property optionMap optionRaw with
  | none => return .unknownOption optionRaw
  | some optionId => do
    let nullifier := deriveNullifier sha256 config phone policyId
    let alreadyVoted ← sismember nullifiersKey nullifier
    match alreadyVoted with
    | true => return .alreadyVoted policyId
    | false => do
      let txHash := submitToChain sha256 nullifier policyId optionId
      sadd nullifiersKey nullifier
      return .recorded policyId optionId nullifier txHash

/-- `body.trim().toUpperCase().split(/\s+/)`. -/
def words (body : String) : List String := splitSpaces (toUpperCase (trim body))

/-- The number is not barred by the list of countries. -/
def Permits (phone : String) : Prop :=
  config.allowedCountryCodes = [] ∨ extractCountryCode phone ∈ config.allowedCountryCodes

instance decidablePermits (phone : String) : Decidable (Permits config phone) :=
  inferInstanceAs (Decidable (_ ∨ _))

/-- `handleInbound`. -/
def handleInbound (phone body : String) : Program Unit Reply :=
  if ¬ Permits config phone then return .unavailable
  else
    match words toUpperCase body with
    | "HELP" :: _ => return .help
    | "VERIFY" :: txHash :: _ =>
      if txHash = "" then return .unrecognised else return .checking txHash
    | "VOTE" :: policyId :: optionRaw :: _ => handleVote sha256 config phone policyId optionRaw
    | _ => return .unrecognised

end Handler

/-- **What a vote for a known option does.**  It is refused where its nullifier is
spent; otherwise it is recorded, and the nullifier spent. -/
theorem run_handleVote {sha256 : String → String} {config : Config} {optionRaw optionId : String}
    (known : property optionMap optionRaw = some optionId) (redis : Database Unit)
    (phone policyId : String) :
    (handleVote sha256 config phone policyId optionRaw).run exec redis =
      if redis.sets nullifiersKey (deriveNullifier sha256 config phone policyId) = true then
        (.alreadyVoted policyId, redis)
      else
        (.recorded policyId optionId (deriveNullifier sha256 config phone policyId)
            (submitToChain sha256 (deriveNullifier sha256 config phone policyId) policyId optionId),
          redis.addMember nullifiersKey (deriveNullifier sha256 config phone policyId)) := by
  simp only [handleVote, known, sismember_bind, Foundations.Program.run_command, exec]
  cases redis.sets nullifiersKey (deriveNullifier sha256 config phone policyId) with
  | true => rfl
  | false => rfl

/-- The default configuration. -/
def sampleConfig : Config where
  allowedCountryCodes := ["GB", "US", "IN", "NG", "KE", "ZA"]
  salt := "default-salt-replace-in-prod"

/-- The digests of the texts one vote hashes. -/
def sampleSha256 (text : String) : String :=
  if text = "+447700900123POL-001default-salt-replace-in-prod" then
    "a5b762894907a7bcfba630c1d5959a9a669dd8b30dae98d6d8cdddb1b7bb511e"
  else if text =
      "0xa5b762894907a7bcfba630c1d5959a9a669dd8b30dae98d6d8cdddb1b7bb511ePOL-001option-support" then
    "411732ba637df908d38996495dce0643859b6ecc9e8d325aaeea97ddb74180eb"
  else ""

end TheVoteApp.SMSVoteService
