import TheVoteApp.JavaScript.Json
import TheVoteApp.Solidity.Basic

/-!
# The ZKPassport adapter

`verify` takes a token that a client wrote and answers with a registration, or throws.
The token says which country it is for, which commitment it is bound to and what has been
proven; the query it is checked against is rebuilt from the rules of the server.

Everything `verify` looks at is untyped JSON.  `verify_accepts_exactly` says what all its
checks come to: a result is returned exactly where the record `Acceptance` of them can
be given, and in every other case something is thrown.  `requires_serverQuery` says that
neither way of building the query leaves a rule out.

## Main definitions

* `TokenSchema.parse` — the shape of a token, with the messages of the schema
* `Sdk` — what is used of the ZKPassport SDK
* `Adapter`, `verify`
* `Acceptance` — what the checks come to, as one record
-/

namespace TheVoteApp.ZKPassportAdapter

open JavaScript

variable {format : NumberFormat}

/-! ## Tokens -/

/-- A token of the right shape. -/
structure Token (format : NumberFormat) where
  country : Text
  commitment : Text
  proofs : List (Value format.Number)
  queryResult : List (Text × Value format.Number)

/-- The name of a value's type in a message. -/
def receivedType : Value format.Number → String
  | .null => "null"
  | .bool _ => "boolean"
  | .number _ => "number"
  | .string _ => "string"
  | .array _ => "array"
  | .object _ => "object"

/-- The message for a member of another type, or none. -/
def invalidType (expected : String) : Option (Value format.Number) → String
  | none => "Required"
  | some v => "Expected " ++ expected ++ ", received " ++ receivedType v

/-- `[0-9a-fA-F]` -/
def isHexUnit (u : CodeUnit) : Bool :=
  (0x30 ≤ u ∧ u ≤ 0x39) ∨ (0x41 ≤ u ∧ u ≤ 0x46) ∨ (0x61 ≤ u ∧ u ≤ 0x66)

/-- `/^0x[0-9a-fA-F]{64}$/` -/
def isCommitment : Text → Bool
  | 0x30 :: 0x78 :: digits => digits.length = 64 ∧ digits.all isHexUnit
  | _ => false

namespace TokenSchema

/-- `z.string().length(2)` -/
def country : Option (Value format.Number) → Except String Text
  | some (.string text) =>
      if text.length = 2 then .ok text else .error "String must contain exactly 2 character(s)"
  | v => .error (invalidType "string" v)

/-- `z.string().regex(...)`, with the message given there. -/
def commitment : Option (Value format.Number) → Except String Text
  | some (.string text) =>
      if isCommitment text then .ok text else .error "commitment must be 32-byte hex"
  | v => .error (invalidType "string" v)

/-- `z.array(z.any()).min(1)` -/
def proofs : Option (Value format.Number) → Except String (List (Value format.Number))
  | some (.array items) =>
      if items.length < 1 then .error "Array must contain at least 1 element(s)" else .ok items
  | v => .error (invalidType "array" v)

/-- The key that a record cannot have. -/
def protoKey : Text := utf16 "__proto__"

/-- `z.record(z.any())`, which leaves a member `__proto__` out. -/
def queryResult : Option (Value format.Number) → Except String (List (Text × Value format.Number))
  | some (.object members) => .ok (members.filter fun member => member.1 ≠ protoKey)
  | v => .error (invalidType "object" v)

/-- The token, or the message of the first issue. -/
def parse : Value format.Number → Except String (Token format)
  | .object members => do
      let country ← country (members.lookup (utf16 "country"))
      let commitment ← commitment (members.lookup (utf16 "commitment"))
      let proofs ← proofs (members.lookup (utf16 "proofs"))
      let queryResult ← queryResult (members.lookup (utf16 "queryResult"))
      return ⟨country, commitment, proofs, queryResult⟩
  | v => .error (invalidType "object" (some v))

end TokenSchema

/-! ## Queries and the SDK -/

/-- A condition of a query. -/
inductive Requirement where
  | eq (key value : Text)
  | gte (key : Text) (value : ℕ)
  | bind (key value : Text)
  | facematch (mode : Text)
deriving DecidableEq

/-- Where a query states the condition. -/
def Requirement.path : Requirement → Text × Text
  | .eq key _ => (key, utf16 "eq")
  | .gte key _ => (key, utf16 "gte")
  | .bind key _ => (utf16 "bind", key)
  | .facematch _ => (utf16 "facematch", utf16 "mode")

/-- What a query states at the condition's place. -/
def Requirement.value (format : NumberFormat) : Requirement → Value format.Number
  | .eq _ value => .string value
  | .gte _ value => .number (format.ofNat value)
  | .bind _ value => .string value
  | .facematch mode => .string mode

/-- The query states the condition. -/
def Requires (query : Value format.Number) (requirement : Requirement) : Prop :=
  (query.get requirement.path.1).bind (Value.get requirement.path.2) =
    some (requirement.value format)

namespace NullifierType

/-- `SALTED` -/
def salted (format : NumberFormat) : format.Number := format.ofNat 1

/-- `SALTED_MOCK` -/
def saltedMock (format : NumberFormat) : format.Number := format.ofNat 3

end NullifierType

/-- What a verifier answers. -/
structure Verification (format : NumberFormat) where
  verified : Bool
  uniqueIdentifier : Option Text
  uniqueIdentifierType : Option format.Number
  queryResultErrors : Option (Value format.Number)

/-- What a verifier is called with. -/
structure VerifyInput (format : NumberFormat) where
  proofs : List (Value format.Number)
  originalQuery : Value format.Number
  queryResult : List (Text × Value format.Number)
  scope : Text
  devMode : Bool
  oprfKeyId : Option Text

/-- What `sdk.verify` is called with. -/
structure SdkVerifyInput (format : NumberFormat) extends VerifyInput format where
  uniqueIdentifierType : format.Number
  writingDirectory : Text

/-- An instance of the SDK.  A step of the builder states its condition and leaves those
stated elsewhere in the query alone.  `verify` rejects with `none`. -/
structure Sdk (format : NumberFormat) where
  Builder : Type
  createQuery : Builder
  step : Builder → Requirement → Builder
  query : Builder → Value format.Number
  verify : SdkVerifyInput format → Option (Verification format)
  requires_step : ∀ builder requirement, Requires (query (step builder requirement)) requirement
  requires_step_of : ∀ builder requirement other, other.path ≠ requirement.path →
    Requires (query builder) other → Requires (query (step builder requirement)) other

namespace Sdk

variable (sdk : Sdk format) (builder : sdk.Builder)

/-- `builder.eq(key, value)` -/
def eq (key value : Text) : sdk.Builder := sdk.step builder (.eq key value)

/-- `builder.gte(key, value)` -/
def gte (key : Text) (value : ℕ) : sdk.Builder := sdk.step builder (.gte key value)

/-- `builder.bind(key, value)` -/
def bind (key value : Text) : sdk.Builder := sdk.step builder (.bind key value)

/-- `builder.facematch(mode)` -/
def facematch (mode : Text) : sdk.Builder := sdk.step builder (.facematch mode)

end Sdk

/-! ## Case -/

/-- The lower case of an ASCII letter. -/
def asciiLower (u : CodeUnit) : CodeUnit := if 0x41 ≤ u ∧ u ≤ 0x5A then u + 0x20 else u

/-- `toUpperCase` and `toLowerCase`.  ASCII is mapped as usual. -/
structure CaseMapping where
  toUpperCase : Text → Text
  toLowerCase : Text → Text
  toLowerCase_ascii : ∀ text, (∀ u ∈ text, u < 0x80) → toLowerCase text = text.map asciiLower

/-! ## The adapter -/

/-- `MIN_VOTING_AGE` -/
def minVotingAge : ℕ := 18

/-- The environment variables of the adapter, and `os.tmpdir()`. -/
structure Environment where
  zkpassportDomain : Option Text
  zkpOprfKeyId : Option Text
  zkpassportDevMode : Option Text
  nodeEnv : Option Text
  tmpdir : Text

/-- The codes of a country file. -/
structure CountryConfig where
  code : Text
  alpha3 : Text

/-- What `verify` returns. -/
structure IdentityResult where
  sybilKey : Text
  commitment : Text
  countryCode : Text
  adapterName : Text
deriving DecidableEq

/-- What `verify` throws: an `Error` of its own, the `TypeError` of a call to something
that is no function, or what the verifier rejected with. -/
inductive Thrown where
  | error (message : Text)
  | typeError
  | rejected

/-- What an adapter has at hand: the country files in the order they are read, the
verifier it was made with, the SDK instance it keeps, if it has made one, and how one is
made for a domain. -/
structure Adapter (format : NumberFormat) where
  cases : CaseMapping
  countries : List CountryConfig
  verifyFn : Option (VerifyInput format → Option (Verification format))
  sdk : Option (Sdk format)
  newSdk : Text → Sdk format

/-- `process.env.ZKPASSPORT_DEV_MODE === "true"` -/
def Environment.isDev (env : Environment) : Bool := env.zkpassportDevMode = some (utf16 "true")

/-- `process.env.NODE_ENV === "production"` -/
def Environment.isProduction (env : Environment) : Bool := env.nodeEnv = some (utf16 "production")

/-- `this.devMode` -/
def Environment.devMode (env : Environment) : Except Thrown Bool :=
  if env.isDev ∧ env.isProduction then
    .error (.error (utf16 "ZKPassport dev mode (mock proofs) is not allowed in production"))
  else .ok env.isDev

/-- Whether a string that may be missing is truthy. -/
def isSet : Option Text → Bool
  | none => false
  | some text => text ≠ []

/-- `value === text` -/
def isText (text : Text) : Option (Value format.Number) → Bool
  | some (.string other) => other = text
  | _ => false

/-- `value === true` -/
def isTrue : Option (Value format.Number) → Bool
  | some (.bool b) => b
  | _ => false

/-- `value === n`, for a number other than zero. -/
def isNumber (n : ℕ) : Option (Value format.Number) → Bool
  | some (.number x) => x = format.ofNat n
  | _ => false

/-- `queryResult.first?.second` -/
def at2 (queryResult : List (Text × Value format.Number)) (first second : String) :
    Option (Value format.Number) :=
  (queryResult.lookup (utf16 first)).bind (Value.get (utf16 second))

/-- `queryResult.first?.second?.third` -/
def at3 (queryResult : List (Text × Value format.Number)) (first second third : String) :
    Option (Value format.Number) :=
  (at2 queryResult first second).bind (Value.get (utf16 third))

section Verify

variable (adapter : Adapter format) (env : Environment)

/-- `getCountry`.  Of two files for one code the later is kept. -/
def getCountry (code : Text) : Option CountryConfig :=
  adapter.countries.reverse.find? fun country =>
    adapter.cases.toUpperCase country.code = adapter.cases.toUpperCase code

/-- `getSdk`: the instance kept, or a new one. -/
def getSdk : Sdk format :=
  adapter.sdk.getD (adapter.newSdk (env.zkpassportDomain.getD (utf16 "thevoteapp.org")))

/-- `scopeFor` -/
def scopeFor (alpha3 : Text) : Text := utf16 "citizen-" ++ adapter.cases.toLowerCase alpha3

/-- `buildQuery`, with the SDK's builder. -/
def buildQuery (sdk : Sdk format) (alpha3 commitment : Text) : Value format.Number :=
  let builder := sdk.createQuery
  let builder := sdk.eq builder (utf16 "nationality") alpha3
  let builder := sdk.gte builder (utf16 "age") minVotingAge
  let builder := sdk.bind builder (utf16 "custom_data") (adapter.cases.toLowerCase commitment)
  let builder := sdk.facematch builder (utf16 "strict")
  sdk.query builder

/-- The query for a verifier of one's own. -/
def literalQuery (alpha3 commitment : Text) : Value format.Number :=
  .object
    [(utf16 "nationality", .object [(utf16 "eq", .string alpha3)]),
      (utf16 "age", .object [(utf16 "gte", .number (format.ofNat minVotingAge))]),
      (utf16 "bind", .object [(utf16 "custom_data", .string commitment)]),
      (utf16 "facematch", .object [(utf16 "mode", .string (utf16 "strict"))])]

/-- `originalQuery` -/
def serverQuery (alpha3 commitment : Text) : Value format.Number :=
  match adapter.verifyFn with
  | some _ => literalQuery alpha3 commitment
  | none => buildQuery adapter (getSdk adapter env) alpha3 commitment

/-- `defaultVerify`, by the SDK. -/
def defaultVerify (input : VerifyInput format) : Option (Verification format) :=
  (getSdk adapter env).verify
    { input with
      uniqueIdentifierType := NullifierType.salted format
      writingDirectory := env.tmpdir }

/-- `this.verifyFn ?? this.defaultVerify` -/
def verifier : VerifyInput format → Option (Verification format) :=
  adapter.verifyFn.getD (defaultVerify adapter env)

/-- What the verifier is called with. -/
def verifyInput (body : Token format) (alpha3 : Text) : VerifyInput format where
  proofs := body.proofs
  originalQuery := serverQuery adapter env alpha3 (adapter.cases.toLowerCase body.commitment)
  queryResult := body.queryResult
  scope := scopeFor adapter alpha3
  devMode := env.isDev
  oprfKeyId := env.zkpOprfKeyId

/-- `TokenSchema.parse(JSON.parse(token))` -/
def parseToken (token : Text) : Except Thrown (Token format) :=
  match parse format token with
  | none => .error (.error (utf16 "ZKPassport: malformed token (not JSON)"))
  | some v =>
      match TokenSchema.parse v with
      | .ok body => .ok body
      | .error issue => .error (.error (utf16 ("ZKPassport: malformed token (" ++ issue ++ ")")))

/-- The country and the mode, before anything is verified. -/
def checkRequest (body : Token format) : Except Thrown (CountryConfig × Bool) :=
  let countryCode := adapter.cases.toUpperCase body.country
  match getCountry adapter countryCode with
  | none =>
      .error (.error (utf16 "ZKPassport: unsupported country '" ++ countryCode ++ utf16 "'"))
  | some country => do
      let devMode ← env.devMode
      if ¬ devMode ∧ ¬ isSet env.zkpOprfKeyId then
        .error (.error (utf16 "ZKPassport adapter not configured — set ZKP_OPRF_KEY_ID"))
      else .ok (country, devMode)

/-- The checks of what the verifier reports; the unique identifier. -/
def checkVerification (devMode : Bool) (result : Verification format) : Except Thrown Text :=
  if ¬ result.verified ∨ result.queryResultErrors.any truthy then
    .error (.error (utf16 "ZKPassport: invalid proof"))
  else
    match result.uniqueIdentifier with
    | none | some [] => .error (.error (utf16 "ZKPassport: proof carried no unique identifier"))
    | some identifier =>
        if result.uniqueIdentifierType = some (NullifierType.salted format) ∨
            (devMode ∧ result.uniqueIdentifierType = some (NullifierType.saltedMock format)) then
          .ok identifier
        else .error (.error (utf16 "ZKPassport: salted unique identifier required"))

/-- `queryResult.bind?.custom_data?.toLowerCase()`; only strings have the method. -/
def boundText (queryResult : List (Text × Value format.Number)) : Except Thrown (Option Text) :=
  match at2 queryResult "bind" "custom_data" with
  | none | some .null => .ok none
  | some (.string text) => .ok (some (adapter.cases.toLowerCase text))
  | some _ => .error .typeError

/-- The checks of what has been proven. -/
def checkQueryResult (queryResult : List (Text × Value format.Number))
    (alpha3 commitment : Text) : Except Thrown Unit :=
  if ¬ isText alpha3 (at3 queryResult "nationality" "eq" "expected") ∨
      ¬ isTrue (at3 queryResult "nationality" "eq" "result") then
    .error (.error (utf16 "ZKPassport: nationality not proven"))
  else if ¬ isTrue (at3 queryResult "age" "gte" "result") ∨
      ¬ isNumber minVotingAge (at3 queryResult "age" "gte" "expected") then
    .error (.error (utf16 "ZKPassport: minimum age not proven"))
  else do
    let bound ← boundText adapter queryResult
    if bound ≠ some commitment then
      .error (.error (utf16 "ZKPassport: proof is not bound to this commitment"))
    else .ok ()

/-- `verify`. -/
def verify (token : Text) : Except Thrown IdentityResult := do
  let body ← parseToken token
  let (country, devMode) ← checkRequest adapter env body
  let commitment := adapter.cases.toLowerCase body.commitment
  match verifier adapter env (verifyInput adapter env body country.alpha3) with
  | none => .error .rejected
  | some result =>
      let sybilKey ← checkVerification devMode result
      checkQueryResult adapter body.queryResult country.alpha3 commitment
      return ⟨sybilKey, commitment, adapter.cases.toUpperCase body.country, utf16 "zkpassport"⟩

end Verify

/-! ## What is accepted -/

/-- The rules of the server. -/
def rules (alpha3 commitment : Text) : List Requirement :=
  [.eq (utf16 "nationality") alpha3, .gte (utf16 "age") minVotingAge,
    .bind (utf16 "custom_data") commitment, .facematch (utf16 "strict")]

/-- The token says this: an object with a country of two code units, a 32-byte
commitment, a proof at least and an object of results. -/
structure IsToken (token : Text) (body : Token format) : Prop where
  json : ∃ members, parse format token = some (.object members) ∧
    members.lookup (utf16 "country") = some (.string body.country) ∧
    members.lookup (utf16 "commitment") = some (.string body.commitment) ∧
    members.lookup (utf16 "proofs") = some (.array body.proofs) ∧
    ∃ results, members.lookup (utf16 "queryResult") = some (.object results) ∧
      body.queryResult = results.filter fun member => member.1 ≠ TokenSchema.protoKey
  country : body.country.length = 2
  commitment : isCommitment body.commitment = true
  proofs : body.proofs ≠ []

/-- What has to be the case for a result to be returned. -/
structure Acceptance (adapter : Adapter format) (env : Environment) (token : Text)
    (body : Token format) (country : CountryConfig) (result : Verification format)
    (r : IdentityResult) : Prop where
  isToken : IsToken token body
  supported : getCountry adapter (adapter.cases.toUpperCase body.country) = some country
  notProduction : env.isDev = true → env.isProduction = false
  configured : env.isDev = true ∨ isSet env.zkpOprfKeyId = true
  reported : verifier adapter env (verifyInput adapter env body country.alpha3) = some result
  requires : ∀ requirement ∈ rules country.alpha3 r.commitment,
    Requires (verifyInput adapter env body country.alpha3).originalQuery requirement
  scope : (verifyInput adapter env body country.alpha3).scope =
    utf16 "citizen-" ++ adapter.cases.toLowerCase country.alpha3
  verified : result.verified = true
  noErrors : ∀ errors ∈ result.queryResultErrors, truthy errors = false
  identifier : result.uniqueIdentifier = some r.sybilKey ∧ r.sybilKey ≠ []
  salted : result.uniqueIdentifierType = some (NullifierType.salted format) ∨
    (env.isDev = true ∧ env.isProduction = false ∧
      result.uniqueIdentifierType = some (NullifierType.saltedMock format))
  nationality : at3 body.queryResult "nationality" "eq" "expected" =
      some (.string country.alpha3) ∧
    at3 body.queryResult "nationality" "eq" "result" = some (.bool true)
  age : at3 body.queryResult "age" "gte" "expected" = some (.number (format.ofNat minVotingAge)) ∧
    at3 body.queryResult "age" "gte" "result" = some (.bool true)
  bound : ∃ text, at2 body.queryResult "bind" "custom_data" = some (.string text) ∧
    adapter.cases.toLowerCase text = r.commitment
  commitment : r.commitment = body.commitment.map asciiLower
  countryCode : r.countryCode = adapter.cases.toUpperCase body.country
  adapterName : r.adapterName = utf16 "zkpassport"

/-! ## Checks -/

theorem ite_ok_eq_ok_iff {ρ α : Type} {c : Prop} [Decidable c] {a b : α} {e : ρ} :
    (if c then .ok a else .error e) = (.ok b : Except ρ α) ↔ c ∧ a = b := by
  by_cases holds : c
  · rw [if_pos holds, Except.ok.injEq]
    exact (and_iff_right holds).symm
  · rw [if_neg holds]
    constructor
    · intro wrong
      cases wrong
    · rintro ⟨other, -⟩
      exact absurd other holds

theorem ite_error_eq_ok_iff {ρ α : Type} {c : Prop} [Decidable c] {x : Except ρ α} {b : α} {e : ρ} :
    (if c then .error e else x) = .ok b ↔ ¬ c ∧ x = .ok b := by
  by_cases holds : c
  · rw [if_pos holds]
    constructor
    · intro wrong
      cases wrong
    · rintro ⟨other, -⟩
      exact absurd holds other
  · rw [if_neg holds]
    exact (and_iff_right holds).symm

/-- What passes a check is returned, and nothing else is. -/
theorem ite_ok_eq_ok_iff_of_injective {ρ α β : Type} {f : α → β} (inj : Function.Injective f)
    (p : α → Prop) [DecidablePred p] {a b : α} {e : ρ} :
    (if p a then .ok a else .error e) = (.ok b : Except ρ α) ↔ f a = f b ∧ p b := by
  rw [ite_ok_eq_ok_iff, inj.eq_iff]
  constructor
  · rintro ⟨passes, rfl⟩
    exact ⟨rfl, passes⟩
  · rintro ⟨rfl, passes⟩
    exact ⟨passes, rfl⟩

theorem error_ne_ok {ρ α : Type} {a : α} {e : ρ} : (.error e : Except ρ α) ≠ .ok a := by
  intro wrong
  cases wrong

/-! ## The shape of the token -/

section Schema

variable {v : Option (Value format.Number)} {text : Text}

theorem some_string_injective (format : NumberFormat) :
    Function.Injective fun text => some (Value.string text : Value format.Number) :=
  fun _ _ same => Value.string.inj (Option.some.inj same)

theorem some_array_injective (format : NumberFormat) :
    Function.Injective fun items => some (Value.array items : Value format.Number) :=
  fun _ _ same => Value.array.inj (Option.some.inj same)

theorem country_eq_ok_iff :
    TokenSchema.country v = .ok text ↔ v = some (.string text) ∧ text.length = 2 := by
  unfold TokenSchema.country
  split
  · exact ite_ok_eq_ok_iff_of_injective (some_string_injective format) fun text => text.length = 2
  · rename_i other
    exact iff_of_false error_ne_ok fun isText => other text isText.1

theorem commitment_eq_ok_iff :
    TokenSchema.commitment v = .ok text ↔ v = some (.string text) ∧ isCommitment text = true := by
  unfold TokenSchema.commitment
  split
  · exact ite_ok_eq_ok_iff_of_injective (some_string_injective format) (isCommitment · = true)
  · rename_i other
    exact iff_of_false error_ne_ok fun isText => other text isText.1

theorem proofs_eq_ok_iff {items : List (Value format.Number)} :
    TokenSchema.proofs v = .ok items ↔ v = some (.array items) ∧ items ≠ [] := by
  have nonempty : items ≠ [] ↔ ¬ items.length < 1 := by
    rw [Nat.lt_one_iff, List.length_eq_zero_iff]
  unfold TokenSchema.proofs
  split
  · rw [← ite_not, nonempty]
    exact ite_ok_eq_ok_iff_of_injective (some_array_injective format) (¬ ·.length < 1)
  · rename_i other
    exact iff_of_false error_ne_ok fun isArray => other items isArray.1

theorem queryResult_eq_ok_iff {results : List (Text × Value format.Number)} :
    TokenSchema.queryResult v = .ok results ↔ ∃ members, v = some (.object members) ∧
      results = members.filter fun member => member.1 ≠ TokenSchema.protoKey := by
  unfold TokenSchema.queryResult
  split
  · rename_i members
    rw [Except.ok.injEq]
    constructor
    · rintro rfl
      exact ⟨members, rfl, rfl⟩
    · rintro ⟨_, ⟨rfl⟩, rfl⟩
      rfl
  · rename_i other
    exact iff_of_false error_ne_ok fun ⟨members, isObject, _⟩ => other members isObject

end Schema

/-- The fields are read one by one. -/
theorem schema_eq_ok_iff {v : Value format.Number} {body : Token format} :
    TokenSchema.parse v = .ok body ↔ ∃ members, v = .object members ∧
      TokenSchema.country (members.lookup (utf16 "country")) = .ok body.country ∧
      TokenSchema.commitment (members.lookup (utf16 "commitment")) = .ok body.commitment ∧
      TokenSchema.proofs (members.lookup (utf16 "proofs")) = .ok body.proofs ∧
      TokenSchema.queryResult (members.lookup (utf16 "queryResult")) = .ok body.queryResult := by
  unfold TokenSchema.parse
  split
  · rename_i members
    simp only [Solidity.bind_eq_ok_iff, Value.object.injEq]
    constructor
    · rintro ⟨country, isCountry, commitment, isCommitment, proofs, isProofs, results, isResults,
        same⟩
      obtain rfl := Except.ok.inj same
      exact ⟨members, rfl, isCountry, isCommitment, isProofs, isResults⟩
    · rintro ⟨_, rfl, isCountry, isCommitment, isProofs, isResults⟩
      exact ⟨_, isCountry, _, isCommitment, _, isProofs, _, isResults, rfl⟩
  · rename_i other
    exact iff_of_false error_ne_ok fun ⟨members, isObject, _⟩ => other members isObject

theorem parseToken_eq_ok {token : Text} {body : Token format} :
    parseToken token = .ok body ↔
      ∃ v, parse format token = some v ∧ TokenSchema.parse v = .ok body := by
  unfold parseToken
  cases parse format token with
  | none => exact iff_of_false error_ne_ok fun ⟨_, isValue, _⟩ => nomatch isValue
  | some v =>
      simp only [Option.some.injEq, exists_eq_left']
      cases TokenSchema.parse v with
      | ok other =>
          show (.ok other : Except Thrown (Token format)) = .ok body ↔ _
          rw [Except.ok.injEq, Except.ok.injEq]
      | error issue => exact iff_of_false error_ne_ok error_ne_ok

/-- Which tokens the adapter reads. -/
theorem parseToken_eq_ok_iff {token : Text} {body : Token format} :
    parseToken token = .ok body ↔ IsToken token body := by
  rw [parseToken_eq_ok]
  constructor
  · rintro ⟨v, read, schema⟩
    obtain ⟨members, rfl, country, commitment, proofs, queryResult⟩ := schema_eq_ok_iff.mp schema
    obtain ⟨isCountry, two⟩ := country_eq_ok_iff.mp country
    obtain ⟨isCommitment, hex⟩ := commitment_eq_ok_iff.mp commitment
    obtain ⟨isProofs, nonempty⟩ := proofs_eq_ok_iff.mp proofs
    exact ⟨⟨members, read, isCountry, isCommitment, isProofs, queryResult_eq_ok_iff.mp queryResult⟩,
      two, hex, nonempty⟩
  · rintro ⟨⟨members, read, isCountry, isCommitment, isProofs, isResults⟩, two, hex, nonempty⟩
    exact ⟨.object members, read, schema_eq_ok_iff.mpr ⟨members, rfl,
      country_eq_ok_iff.mpr ⟨isCountry, two⟩, commitment_eq_ok_iff.mpr ⟨isCommitment, hex⟩,
      proofs_eq_ok_iff.mpr ⟨isProofs, nonempty⟩, queryResult_eq_ok_iff.mpr isResults⟩⟩

/-! ## The query -/

theorem requires_literalQuery {alpha3 commitment : Text} {requirement : Requirement}
    (isRule : requirement ∈ rules alpha3 commitment) :
    Requires (literalQuery alpha3 commitment : Value format.Number) requirement := by
  simp only [rules, List.mem_cons, List.not_mem_nil, or_false] at isRule
  rcases isRule with rfl | rfl | rfl | rfl
  · rfl
  · rfl
  · rfl
  · rfl

/-- Steps in different places of a query do not disturb each other, nor what was stated
in other places before. -/
theorem requires_foldl (sdk : Sdk format) {requirements : List Requirement}
    (apart : (requirements.map Requirement.path).Nodup) (builder : sdk.Builder)
    (requirement : Requirement)
    (stated : requirement ∈ requirements ∨ Requires (sdk.query builder) requirement ∧
      requirement.path ∉ requirements.map Requirement.path) :
    Requires (sdk.query (requirements.foldl sdk.step builder)) requirement := by
  induction requirements generalizing builder with
  | nil =>
      rcases stated with mem | ⟨before, -⟩
      · cases mem
      · exact before
  | cons first rest ih =>
      rw [List.map_cons, List.nodup_cons] at apart
      apply ih apart.2
      rcases stated with mem | ⟨before, elsewhere⟩
      · rcases List.mem_cons.mp mem with rfl | mem
        · exact .inr ⟨sdk.requires_step builder requirement, apart.1⟩
        · exact .inl mem
      · rw [List.map_cons, List.mem_cons, not_or] at elsewhere
        exact .inr ⟨sdk.requires_step_of builder first requirement elsewhere.1 before, elsewhere.2⟩

/-- The four rules stand in four places. -/
theorem nodup_paths (alpha3 commitment : Text) :
    ((rules alpha3 commitment).map Requirement.path).Nodup := by
  show [(utf16 "nationality", utf16 "eq"), (utf16 "age", utf16 "gte"),
    (utf16 "bind", utf16 "custom_data"), (utf16 "facematch", utf16 "mode")].Nodup
  decide

section Case

theorem lt_of_isHexUnit {u : CodeUnit} (isHex : isHexUnit u = true) : u < 0x80 := by
  simp only [isHexUnit, UInt16.le_iff_toNat_le, decide_eq_true_eq] at isHex
  rw [UInt16.lt_iff_toNat_lt]
  rcases isHex with range | range | range
  · exact lt_of_le_of_lt range.2 (by decide)
  · exact lt_of_le_of_lt range.2 (by decide)
  · exact lt_of_le_of_lt range.2 (by decide)

theorem lt_of_isCommitment {commitment : Text} (hex : isCommitment commitment = true) :
    ∀ u ∈ commitment, u < 0x80 := by
  unfold isCommitment at hex
  split at hex
  · rename_i digits
    rw [decide_eq_true_eq, List.all_eq_true] at hex
    intro u mem
    rcases List.mem_cons.mp mem with rfl | mem
    · decide
    · rcases List.mem_cons.mp mem with rfl | mem
      · decide
      · exact lt_of_isHexUnit (hex.2 u mem)
  · cases hex

theorem asciiLower_asciiLower (u : CodeUnit) (ascii : u < 0x80) :
    asciiLower (asciiLower u) = asciiLower u ∧ asciiLower u < 0x80 := by
  have all : ∀ u : Fin 128, asciiLower (asciiLower (UInt16.ofNat u)) = asciiLower (UInt16.ofNat u) ∧
      asciiLower (UInt16.ofNat u) < 0x80 := by
    decide
  have small : u.toNat < 128 := UInt16.lt_iff_toNat_lt.mp ascii
  have one := all ⟨u.toNat, small⟩
  rwa [UInt16.ofNat_toNat] at one

variable (cases : CaseMapping) {commitment : Text} (hex : isCommitment commitment = true)
include hex

theorem toLowerCase_commitment : cases.toLowerCase commitment = commitment.map asciiLower :=
  cases.toLowerCase_ascii commitment (lt_of_isCommitment hex)

/-- A lower-case commitment is its own lower case. -/
theorem toLowerCase_toLowerCase_commitment :
    cases.toLowerCase (cases.toLowerCase commitment) = cases.toLowerCase commitment := by
  have ascii := lt_of_isCommitment hex
  have ascii' : ∀ u ∈ commitment.map asciiLower, u < 0x80 := by
    intro u mem
    obtain ⟨v, inside, rfl⟩ := List.mem_map.mp mem
    exact (asciiLower_asciiLower v (ascii v inside)).2
  rw [toLowerCase_commitment cases hex, cases.toLowerCase_ascii _ ascii', List.map_map]
  refine List.map_congr_left fun u mem => ?_
  exact (asciiLower_asciiLower u (ascii u mem)).1

end Case

section Query

variable (adapter : Adapter format) (env : Environment)

theorem requires_buildQuery (sdk : Sdk format) {alpha3 commitment : Text}
    {requirement : Requirement}
    (isRule : requirement ∈ rules alpha3 (adapter.cases.toLowerCase commitment)) :
    Requires (buildQuery adapter sdk alpha3 commitment) requirement := by
  show Requires (sdk.query ((rules alpha3 (adapter.cases.toLowerCase commitment)).foldl sdk.step
    sdk.createQuery)) requirement
  exact requires_foldl sdk (nodup_paths _ _) _ _ (.inl isRule)

/-- **The rules of the server.**  Whatever the token asks for, the query states all
rules, for the country and the commitment that are returned. -/
theorem requires_serverQuery {alpha3 commitment : Text} (hex : isCommitment commitment = true)
    {requirement : Requirement}
    (isRule : requirement ∈ rules alpha3 (adapter.cases.toLowerCase commitment)) :
    Requires (serverQuery adapter env alpha3 (adapter.cases.toLowerCase commitment))
      requirement := by
  unfold serverQuery
  split
  · exact requires_literalQuery isRule
  · apply requires_buildQuery
    rwa [toLowerCase_toLowerCase_commitment _ hex]

end Query

/-! ## The checks -/

section Checks

theorem isText_iff {text : Text} {v : Option (Value format.Number)} :
    isText text v = true ↔ v = some (.string text) := by
  unfold isText
  split
  · rw [decide_eq_true_eq, Option.some.injEq, Value.string.injEq]
  · rename_i other
    exact iff_of_false Bool.false_ne_true fun isString => other text isString

theorem isTrue_iff {v : Option (Value format.Number)} :
    isTrue v = true ↔ v = some (.bool true) := by
  unfold isTrue
  split
  · rw [Option.some.injEq, Value.bool.injEq]
  · rename_i other
    exact iff_of_false Bool.false_ne_true fun isBool => other true isBool

theorem isNumber_iff {n : ℕ} {v : Option (Value format.Number)} :
    isNumber n v = true ↔ v = some (.number (format.ofNat n)) := by
  unfold isNumber
  split
  · rw [decide_eq_true_eq, Option.some.injEq, Value.number.injEq]
  · rename_i other
    exact iff_of_false Bool.false_ne_true fun isNumber => other _ isNumber

variable {adapter : Adapter format} {env : Environment}

theorem devMode_eq_ok_iff {devMode : Bool} :
    env.devMode = .ok devMode ↔
      env.isDev = devMode ∧ (env.isDev = true → env.isProduction = false) := by
  rw [Environment.devMode, ite_error_eq_ok_iff, Except.ok.injEq, not_and, Bool.not_eq_true]
  exact and_comm

/-- The request is let through to the verifier. -/
theorem checkRequest_eq_ok_iff {body : Token format} {country : CountryConfig} {devMode : Bool} :
    checkRequest adapter env body = .ok (country, devMode) ↔
      getCountry adapter (adapter.cases.toUpperCase body.country) = some country ∧
        env.isDev = devMode ∧ (env.isDev = true → env.isProduction = false) ∧
        (env.isDev = true ∨ isSet env.zkpOprfKeyId = true) := by
  unfold checkRequest
  dsimp only
  cases found : getCountry adapter (adapter.cases.toUpperCase body.country) with
  | none => exact iff_of_false error_ne_ok fun isCountry => nomatch isCountry.1
  | some other =>
      simp only [Solidity.bind_eq_ok_iff, devMode_eq_ok_iff, ite_error_eq_ok_iff, Except.ok.injEq,
        Prod.mk.injEq, Option.some.injEq, not_and_or, not_not]
      constructor
      · rintro ⟨_, ⟨rfl, allowed⟩, configured, rfl, rfl⟩
        exact ⟨rfl, rfl, allowed, configured⟩
      · rintro ⟨rfl, rfl, allowed, configured⟩
        exact ⟨_, ⟨rfl, allowed⟩, configured, rfl, rfl⟩

/-- What the verifier has to report. -/
theorem checkVerification_eq_ok_iff {devMode : Bool} {result : Verification format}
    {sybilKey : Text} :
    checkVerification devMode result = .ok sybilKey ↔
      result.verified = true ∧ (∀ errors ∈ result.queryResultErrors, truthy errors = false) ∧
        (result.uniqueIdentifier = some sybilKey ∧ sybilKey ≠ []) ∧
        (result.uniqueIdentifierType = some (NullifierType.salted format) ∨
          devMode = true ∧
            result.uniqueIdentifierType = some (NullifierType.saltedMock format)) := by
  have noErrors : ¬ result.queryResultErrors.any truthy = true ↔
      ∀ errors ∈ result.queryResultErrors, truthy errors = false := by
    cases result.queryResultErrors with
    | none => simp
    | some errors => simp
  rw [checkVerification, ite_error_eq_ok_iff, not_or, not_not, noErrors, and_assoc]
  refine and_congr_right fun _ => and_congr_right fun _ => ?_
  split
  · rename_i missing
    exact iff_of_false error_ne_ok fun isKey => nomatch missing.symm.trans isKey.1.1
  · rename_i empty
    refine iff_of_false error_ne_ok fun isKey => isKey.1.2 ?_
    exact (Option.some.inj (empty.symm.trans isKey.1.1)).symm
  · rename_i identifier nonempty isIdentifier
    rw [ite_ok_eq_ok_iff, isIdentifier, Option.some.injEq]
    constructor
    · rintro ⟨isSalted, rfl⟩
      exact ⟨⟨rfl, nonempty⟩, isSalted⟩
    · rintro ⟨⟨rfl, -⟩, isSalted⟩
      exact ⟨isSalted, rfl⟩

theorem boundText_eq_ok_iff {queryResult : List (Text × Value format.Number)} {bound : Text} :
    boundText adapter queryResult = .ok (some bound) ↔
      ∃ text, at2 queryResult "bind" "custom_data" = some (.string text) ∧
        adapter.cases.toLowerCase text = bound := by
  have none_ne : (.ok none : Except Thrown (Option Text)) ≠ .ok (some bound) := by
    intro same
    cases Except.ok.inj same
  unfold boundText
  split
  · rename_i missing
    exact iff_of_false none_ne fun ⟨_, isString, _⟩ => nomatch missing.symm.trans isString
  · rename_i isNull
    exact iff_of_false none_ne fun ⟨_, isString, _⟩ => nomatch isNull.symm.trans isString
  · rename_i text isString
    rw [isString, Except.ok.injEq, Option.some.injEq]
    constructor
    · rintro rfl
      exact ⟨text, rfl, rfl⟩
    · rintro ⟨_, ⟨rfl⟩, rfl⟩
      rfl
  · rename_i v _ noString isValue
    -- a value that is no string has no `toLowerCase`, and the call throws
    refine iff_of_false error_ne_ok fun ⟨text, isString, _⟩ => ?_
    exact noString text (Option.some.inj (isValue.symm.trans isString))

/-- What has to be proven. -/
theorem checkQueryResult_eq_ok_iff {queryResult : List (Text × Value format.Number)}
    {alpha3 commitment : Text} {u : Unit} :
    checkQueryResult adapter queryResult alpha3 commitment = .ok u ↔
      (at3 queryResult "nationality" "eq" "expected" = some (.string alpha3) ∧
          at3 queryResult "nationality" "eq" "result" = some (.bool true)) ∧
        (at3 queryResult "age" "gte" "expected" = some (.number (format.ofNat minVotingAge)) ∧
          at3 queryResult "age" "gte" "result" = some (.bool true)) ∧
        ∃ text, at2 queryResult "bind" "custom_data" = some (.string text) ∧
          adapter.cases.toLowerCase text = commitment := by
  rw [checkQueryResult, ite_error_eq_ok_iff, ite_error_eq_ok_iff, Solidity.bind_eq_ok_iff]
  simp only [not_or, not_not, isText_iff, isTrue_iff, isNumber_iff, ite_error_eq_ok_iff,
    ← boundText_eq_ok_iff]
  refine and_congr_right fun _ => and_congr and_comm ?_
  constructor
  · rintro ⟨bound, isBound, same, -⟩
    rwa [same] at isBound
  · intro isBound
    exact ⟨some commitment, isBound, rfl, trivial⟩

end Checks

/-! ## Acceptance -/

/-- All checks together. -/
theorem verify_eq_ok_iff (adapter : Adapter format) (env : Environment) (token : Text)
    (r : IdentityResult) :
    verify adapter env token = .ok r ↔
      ∃ body country result, Acceptance adapter env token body country result r := by
  unfold verify
  rw [Solidity.bind_eq_ok_iff]
  constructor
  · rintro ⟨body, isBody, checked⟩
    obtain ⟨⟨country, devMode⟩, isRequest, checked⟩ := Solidity.bind_eq_ok_iff.mp checked
    obtain ⟨supported, rfl, notProduction, configured⟩ := checkRequest_eq_ok_iff.mp isRequest
    have isToken := parseToken_eq_ok_iff.mp isBody
    dsimp only at checked
    split at checked
    · cases checked
    · rename_i result reported
      obtain ⟨sybilKey, isReport, checked⟩ := Solidity.bind_eq_ok_iff.mp checked
      obtain ⟨u, isProven, same⟩ := Solidity.bind_eq_ok_iff.mp checked
      obtain rfl := Except.ok.inj same
      obtain ⟨verified, noErrors, identifier, salted⟩ := checkVerification_eq_ok_iff.mp isReport
      obtain ⟨nationality, age, bound⟩ := checkQueryResult_eq_ok_iff.mp isProven
      refine ⟨body, country, result, ?_⟩
      exact
        { isToken, supported, notProduction, configured, reported, verified, noErrors, identifier,
          nationality, age, bound
          requires := fun _ isRule => requires_serverQuery adapter env isToken.commitment isRule
          scope := rfl
          salted := salted.imp_right fun mock => ⟨mock.1, notProduction mock.1, mock.2⟩
          commitment := toLowerCase_commitment adapter.cases isToken.commitment
          countryCode := rfl
          adapterName := rfl }
  · rintro ⟨body, country, result, accepted⟩
    -- the returned commitment is the one the checks compare with
    have lower := toLowerCase_commitment adapter.cases accepted.isToken.commitment
    have sameCommitment := accepted.commitment.trans lower.symm
    have isReport : checkVerification env.isDev result = .ok r.sybilKey :=
      checkVerification_eq_ok_iff.mpr ⟨accepted.verified, accepted.noErrors, accepted.identifier,
        accepted.salted.imp_right fun mock => ⟨mock.1, mock.2.2⟩⟩
    have bound := accepted.bound
    rw [sameCommitment] at bound
    have isProven : checkQueryResult adapter body.queryResult country.alpha3
        (adapter.cases.toLowerCase body.commitment) = .ok () :=
      checkQueryResult_eq_ok_iff.mpr ⟨accepted.nationality, accepted.age, bound⟩
    refine ⟨body, parseToken_eq_ok_iff.mpr accepted.isToken, ?_⟩
    refine Solidity.bind_eq_ok_iff.mpr ⟨(country, env.isDev), checkRequest_eq_ok_iff.mpr
      ⟨accepted.supported, rfl, accepted.notProduction, accepted.configured⟩, ?_⟩
    dsimp only
    rw [accepted.reported]
    dsimp only
    rw [isReport, Solidity.bind_eq_ok_iff]
    refine ⟨r.sybilKey, rfl, ?_⟩
    rw [isProven, Solidity.bind_eq_ok_iff]
    refine ⟨(), rfl, ?_⟩
    rw [← sameCommitment, ← accepted.countryCode, ← accepted.adapterName]
    rfl

/-- **When a result is returned.**  All of `Acceptance` is the case, for a token, a
country and a report of the verifier.  In every other case something is thrown. -/
theorem verify_accepts_exactly (adapter : Adapter format) (env : Environment) (token : Text) :
    (∀ r, verify adapter env token = .ok r ↔
      ∃ body country result, Acceptance adapter env token body country result r) ∧
      ((∃ thrown, verify adapter env token = .error thrown) ↔
        ¬ ∃ r body country result, Acceptance adapter env token body country result r) := by
  refine ⟨verify_eq_ok_iff adapter env token, ?_⟩
  simp only [← verify_eq_ok_iff]
  cases verify adapter env token with
  | ok r => simp
  | error thrown => simp

/-! ## A citizen who is accepted -/

theorem lookup_map {α β : Type} (f : α → Text) (g : Text → β) (list : List α) (key : Text) :
    (list.map fun a => (f a, g (f a))).lookup key =
      if key ∈ list.map f then some (g key) else none := by
  induction list with
  | nil => rfl
  | cons a list ih =>
      rw [List.map_cons, List.map_cons, List.lookup_cons, ih]
      by_cases same : key = f a
      · simp [same]
      · have other : (key == f a) = false := by simpa using same
        simp [same, other]

/-- The conditions stated below a key of a query, the last one first. -/
def statedAt (format : NumberFormat) (steps : List Requirement) (key : Text) :
    Value format.Number :=
  .object ((steps.filter fun step => step.path.1 = key).map fun step =>
    (step.path.2, step.value format))

/-- An SDK that writes down the steps of its builder. -/
def recorder (format : NumberFormat)
    (verify : SdkVerifyInput format → Option (Verification format)) : Sdk format where
  Builder := List Requirement
  createQuery := []
  step steps requirement := requirement :: steps
  query steps := .object (steps.map fun step => (step.path.1, statedAt format steps step.path.1))
  verify := verify
  requires_step steps requirement := by
    rw [Requires, Value.get, lookup_map _ (statedAt format (requirement :: steps)), List.map_cons,
      if_pos List.mem_cons_self, Option.bind_some]
    simp [statedAt, Value.get]
  requires_step_of steps requirement other apart stated := by
    rw [Requires, Value.get, lookup_map _ (statedAt format steps)] at stated
    rw [Requires, Value.get, lookup_map _ (statedAt format (requirement :: steps)), List.map_cons]
    by_cases mem : other.path.1 ∈ steps.map fun step => step.path.1
    · rw [if_pos mem] at stated
      rw [if_pos (List.mem_cons_of_mem _ mem), ← stated, Option.bind_some, Option.bind_some]
      by_cases here : requirement.path.1 = other.path.1
      · have elsewhere : (other.path.2 == requirement.path.2) = false := by
          rw [beq_eq_false_iff_ne]
          exact fun same => apart (Prod.ext here.symm same)
        simp [statedAt, Value.get, here, List.lookup_cons, elsewhere]
      · simp [statedAt, Value.get, here]
    · rw [if_neg mem] at stated
      cases stated

/-- Case in ASCII alone. -/
def asciiCases : CaseMapping where
  toUpperCase text := text.map fun u => if 0x61 ≤ u ∧ u ≤ 0x7A then u - 0x20 else u
  toLowerCase text := text.map asciiLower
  toLowerCase_ascii _ _ := rfl

/-- A verifier that finds nothing to complain of. -/
def content : VerifyInput NumberFormat.naturals → Option (Verification NumberFormat.naturals) :=
  fun _ => some
    { verified := true
      uniqueIdentifier := some (utf16 "uid-1")
      uniqueIdentifierType := some (NullifierType.salted NumberFormat.naturals)
      queryResultErrors := none }

/-- An adapter for British citizens, with the SDK's verifier. -/
def sampleAdapter : Adapter NumberFormat.naturals where
  cases := asciiCases
  countries := [⟨utf16 "GB", utf16 "GBR"⟩]
  verifyFn := none
  sdk := none
  newSdk _ := recorder NumberFormat.naturals fun input => content input.toVerifyInput

/-- A server in production. -/
def sampleEnvironment : Environment where
  zkpassportDomain := none
  zkpOprfKeyId := some (utf16 "oprf-1")
  zkpassportDevMode := none
  nodeEnv := some (utf16 "production")
  tmpdir := utf16 "/tmp"

/-- A commitment with one digit throughout. -/
def sampleCommitment (digit : CodeUnit) : Text := utf16 "0x" ++ List.replicate 64 digit

/-- What is proven for a British citizen. -/
def sampleResult : Value NumberFormat.naturals.Number :=
  .object
    [(utf16 "nationality", .object [(utf16 "eq",
        .object [(utf16 "expected", .string (utf16 "GBR")), (utf16 "result", .bool true)])]),
      (utf16 "age", .object [(utf16 "gte",
        .object [(utf16 "expected", .number (some 18)), (utf16 "result", .bool true)])]),
      (utf16 "bind", .object [(utf16 "custom_data", .string (sampleCommitment 0x61))])]

/-- The token of one, with the commitment in capitals. -/
def sampleToken : Text :=
  stringify NumberFormat.naturals 0
    (.object
      [(utf16 "country", .string (utf16 "gb")),
        (utf16 "commitment", .string (sampleCommitment 0x41)),
        (utf16 "proofs", .array [.null]),
        (utf16 "queryResult", sampleResult)])

/-- The citizen is registered under the commitment in lower case. -/
theorem verify_accepts_exactly_sample :
    ∃ body country result, Acceptance sampleAdapter sampleEnvironment sampleToken body country
      result ⟨utf16 "uid-1", sampleCommitment 0x61, utf16 "GB", utf16 "zkpassport"⟩ := by
  apply ((verify_accepts_exactly sampleAdapter sampleEnvironment sampleToken).1 _).mp
  have returned : (verify sampleAdapter sampleEnvironment sampleToken).toOption =
      some ⟨utf16 "uid-1", sampleCommitment 0x61, utf16 "GB", utf16 "zkpassport"⟩ := by
    decide +kernel
  exact Solidity.toOption_eq_some_iff.mp returned

end TheVoteApp.ZKPassportAdapter
