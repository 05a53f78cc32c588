import TheVoteApp.Foundations.Machine
import TheVoteApp.Gateway.Manifest
import TheVoteApp.Gateway.TextCall
import TheVoteApp.Gateway.TextRecord

/-!
# The gateway resolver

`GatewayResolver.kt`: where the Android app takes the URL of the backend from.  A cached
URL comes first.  Without one, the text record of the name leads to a manifest at the
public gateways, and its URL is cached.  The last resort is a URL in the app.

Calls interleave, the cache is set and cleared in between, and the network answers
every call as it likes.  A URL the app is given comes from one of four places
(`answer_source`), and once the cache is set it stays until it is cleared (`cache_stays`).
Of a document nothing is read but the URL: the signature that `publish` adds is looked
at nowhere (`signature_ignored`).

The call that asks for the CID asks for another record than `gateway`, where `publish`
has it stored: what is pinned is never found (`published_answer`), and at a node that runs
the resolver contract the record `gateway` never matters (`gateway_record_unused`).

## Main definitions

* `OrgJson`, `Web` — what the app calls
* `tryResolveViaENS` — one lookup
* `machine` — the calls, and the cache between them
-/

namespace TheVoteApp.GatewayResolver.Android

open Solidity JavaScript Foundations BlockchainVoteService GatewayManifestService

variable {format : NumberFormat}

/-! ## One lookup -/

/-- What the app uses of `org.json`.  `read` makes an object of a text, or throws
(`none`), and `coerce` is `JSON.toString`. -/
structure OrgJson (format : NumberFormat) where
  read : JavaScript.Text → Option (List (JavaScript.Text × Value format.Number))
  coerce : Value format.Number → Text
  read_stringify : ∀ spaces members, (Value.object members).Ordered →
    Plain format (.object members) → read (stringify format spaces (.object members)) = some members
  coerce_string : ∀ text : Text, coerce (.string text.units) = text

/-- The network during one lookup: what the node responds to the arguments of the call,
and the text that is found at an address.  `none` is an exception. -/
structure Web where
  call : List Char → Option JavaScript.Text
  readText : JavaScript.Text → Option JavaScript.Text

/-- `IPFS_GATEWAYS` -/
def ipfsGateways : List String :=
  ["https://ipfs.io/ipfs/", "https://cloudflare-ipfs.com/ipfs/",
    "https://gateway.pinata.cloud/ipfs/"]

/-- `getFallbackUrl` -/
def getFallbackUrl : JavaScript.Text := utf16 "https://api.thevoteapp.org"

/-- `Char.isWhitespace` -/
def isWhitespace (u : CodeUnit) : Bool :=
  (0x09 ≤ u && u ≤ 0x0D) || (0x1C ≤ u && u ≤ 0x20) || u == 0xA0 || u == 0x1680 ||
    (0x2000 ≤ u && u ≤ 0x200A) || u == 0x2028 || u == 0x2029 || u == 0x202F || u == 0x205F ||
    u == 0x3000

/-- `isBlank` -/
def isBlank (text : JavaScript.Text) : Bool := text.all isWhitespace

/-- `url.startsWith("https://")` -/
def isHttps (url : JavaScript.Text) : Bool := (utf16 "https://").isPrefixOf url

/-- The empty string. -/
def emptyText : Text := ⟨[], by decide⟩

section Lookup

variable (json : OrgJson format) (table : DigitTable) (sha256 : Bytes → Bytes32)

/-- `optString(key)`, the empty string where the member is missing. -/
def optString (object : List (JavaScript.Text × Value format.Number)) (key : String) : Text :=
  match object.lookup (utf16 key) with
  | some value => json.coerce value
  | none => emptyText

/-- `nameHash`: the labels are hashed from the last to the first. -/
def nameHash (name : String) : Bytes32 :=
  (name.splitOn ".").reverse.foldl
    (fun node label =>
      sha256 (digestBytes node ++ digestBytes (sha256 (toUtf8Bytes label)))) 0

/-- `fetchENSTextRecord`.  Every exception is caught, with `null` for a result. -/
def fetchENSTextRecord (web : Web) (name key : String) : Option JavaScript.Text := do
  let response ← web.call (arguments (nameHash sha256 name) key)
  let object ← json.read response
  let result := optString json object "result"
  if 2 < result.units.length then
    match decodeABIString table result with
    | .ok text => text
    | .error _ => none
  else none

/-- `manifest.getJSONObject("endpoints").getString("api")` -/
def endpointOf (document : JavaScript.Text) : Option JavaScript.Text := do
  let manifest ← json.read document
  match manifest.lookup (utf16 "endpoints") with
  | some (.object endpoints) =>
      (endpoints.lookup (utf16 "api")).map fun value => (json.coerce value).units
  | _ => none

/-- The pass of the loop at one gateway. -/
def fetchFrom (web : Web) (cid : JavaScript.Text) (gateway : String) : Option JavaScript.Text :=
  ((web.readText (utf16 gateway ++ cid)).bind (endpointOf json)).filter isHttps

/-- `fetchManifestFromCID`: the first gateway that serves an `https` endpoint. -/
def fetchManifestFromCID (web : Web) (cid : JavaScript.Text) : Option JavaScript.Text :=
  ipfsGateways.findSome? (fetchFrom json web cid)

/-- `tryResolveViaENS` -/
def tryResolveViaENS (web : Web) : Option JavaScript.Text := do
  let cid ← fetchENSTextRecord json table sha256 web "thevoteapp.eth" "gateway"
  fetchManifestFromCID json web cid

end Lookup

/-! ## The calls -/

/-- Where a call of `resolveApiUrl` stands. -/
inductive Phase where
  | unused
  | lookingUp
  /-- about to cache what it has found -/
  | found (url : JavaScript.Text)
  | answered (url : JavaScript.Text)
  /-- The store of the preferences has thrown. -/
  | failed
deriving DecidableEq

/-- The preference `cached_api_url`, and the calls. -/
structure Resolver where
  cached : Option JavaScript.Text
  phase : ℕ → Phase

/-- Before the first call. -/
def Resolver.start (cached : Option JavaScript.Text) : Resolver := ⟨cached, fun _ => .unused⟩

/-- Call `i` moves on. -/
def Resolver.goto (r : Resolver) (i : ℕ) (phase : Phase) : Resolver :=
  { r with phase := Function.update r.phase i phase }

/-- A step of call `i`, or a call that sets or clears the cache. -/
inductive Occurrence where
  /-- A call begins and reads the cache. -/
  | resolve (i : ℕ) (fails : Bool)
  | lookup (i : ℕ) (web : Web)
  /-- A call writes the cache and returns. -/
  | store (i : ℕ) (fails : Bool)
  | cacheUrl (url : JavaScript.Text)
  | clearCache

/-- The cache, unless it is null or blank. -/
def Resolver.usable (r : Resolver) : Option JavaScript.Text :=
  r.cached.filter fun url => !isBlank url

section Machine

variable (json : OrgJson format) (table : DigitTable) (sha256 : Bytes → Bytes32)

/-- An occurrence; `none` where it is impossible. -/
def occur (r : Resolver) : Occurrence → Option Resolver
  | .resolve i fails =>
      match r.phase i with
      | .unused =>
          if fails then some (r.goto i .failed)
          else
            match r.usable with
            | some url => some (r.goto i (.answered url))
            | none => some (r.goto i .lookingUp)
      | _ => none
  | .lookup i web =>
      match r.phase i with
      | .lookingUp =>
          match tryResolveViaENS json table sha256 web with
          | some url => some (r.goto i (.found url))
          | none => some (r.goto i (.answered getFallbackUrl))
      | _ => none
  | .store i fails =>
      match r.phase i with
      | .found url =>
          if fails then some (r.goto i .failed)
          else some { r.goto i (.answered url) with cached := some url }
      | _ => none
  | .cacheUrl url => some { r with cached := some url }
  | .clearCache => some { r with cached := none }

/-- The resolver as the machine its occurrences drive. -/
def machine : Machine Resolver Occurrence Empty Unit where
  call r o :=
    match occur json table sha256 r o with
    | some r' => .ok (r', [])
    | none => .error ()

/-- What an occurrence does. -/
inductive Step (r : Resolver) : Occurrence → Resolver → Prop where
  | failed {i : ℕ} {fails : Bool} (fresh : r.phase i = .unused) :
      Step r (.resolve i fails) (r.goto i .failed)
  | cached {i : ℕ} {fails : Bool} {url : JavaScript.Text} (fresh : r.phase i = .unused)
      (usable : r.usable = some url) : Step r (.resolve i fails) (r.goto i (.answered url))
  | begins {i : ℕ} {fails : Bool} (fresh : r.phase i = .unused) (unusable : r.usable = none) :
      Step r (.resolve i fails) (r.goto i .lookingUp)
  | found {i : ℕ} {web : Web} {url : JavaScript.Text} (waiting : r.phase i = .lookingUp)
      (resolved : tryResolveViaENS json table sha256 web = some url) :
      Step r (.lookup i web) (r.goto i (.found url))
  | fallback {i : ℕ} {web : Web} (waiting : r.phase i = .lookingUp)
      (unresolved : tryResolveViaENS json table sha256 web = none) :
      Step r (.lookup i web) (r.goto i (.answered getFallbackUrl))
  | lost {i : ℕ} {fails : Bool} {url : JavaScript.Text} (holds : r.phase i = .found url) :
      Step r (.store i fails) (r.goto i .failed)
  | stored {i : ℕ} {fails : Bool} {url : JavaScript.Text} (holds : r.phase i = .found url) :
      Step r (.store i fails) { r.goto i (.answered url) with cached := some url }
  | cacheUrl (url : JavaScript.Text) : Step r (.cacheUrl url) { r with cached := some url }
  | clearCache : Step r .clearCache { r with cached := none }

end Machine

section Steps

variable {json : OrgJson format} {table : DigitTable} {sha256 : Bytes → Bytes32}
variable {r r' : Resolver} {o : Occurrence}

theorem Step.of_occur (done : occur json table sha256 r o = some r') :
    Step json table sha256 r o r' := by
  cases o with
  | resolve i fails =>
      simp only [occur] at done
      split at done
      · rename_i fresh
        split at done
        · cases done
          exact .failed fresh
        · split at done
          · cases done
            exact .cached fresh ‹_›
          · cases done
            exact .begins fresh ‹_›
      · cases done
  | lookup i web =>
      simp only [occur] at done
      split at done
      · rename_i waiting
        split at done
        · cases done
          exact .found waiting ‹_›
        · cases done
          exact .fallback waiting ‹_›
      · cases done
  | store i fails =>
      simp only [occur] at done
      split at done
      · rename_i holds
        split at done
        · cases done
          exact .lost holds
        · cases done
          exact .stored holds
      · cases done
  | cacheUrl url =>
      cases done
      exact .cacheUrl url
  | clearCache =>
      cases done
      exact .clearCache

theorem Step.of_call {new : List Empty}
    (done : (machine json table sha256).call r o = .ok (r', new)) :
    Step json table sha256 r o r' := by
  simp only [machine] at done
  split at done
  · cases done
    exact .of_occur ‹_›
  · cases done

/-- A call is where it has been sent, and the others where they were. -/
theorem Resolver.phase_goto (i j : ℕ) (phase : Phase) :
    (r.goto i phase).phase j = if j = i then phase else r.phase j :=
  Function.update_apply _ _ _ _

end Steps

/-! ## What holds of the URLs -/

/-- The URLs in the cache, those that have been found and those that have been answered
are as they should be. -/
structure Resolver.Holds (Cache Found Answer : JavaScript.Text → Prop) (r : Resolver) : Prop where
  cache : ∀ url, r.cached = some url → Cache url
  found : ∀ i url, r.phase i = .found url → Found url
  answered : ∀ i url, r.phase i = .answered url → Answer url

section Holds

variable {Cache Found Answer : JavaScript.Text → Prop} {r r' : Resolver}

theorem Resolver.usable_eq_some {url : JavaScript.Text} :
    r.usable = some url ↔ r.cached = some url ∧ isBlank url = false := by
  rw [Resolver.usable, Option.filter_eq_some_iff, Bool.not_eq_true']

theorem Resolver.Holds.mono {Cache' Found' Answer' : JavaScript.Text → Prop}
    (holds : r.Holds Cache Found Answer) (cache : ∀ url, Cache url → Cache' url)
    (found : ∀ url, Found url → Found' url) (answer : ∀ url, Answer url → Answer' url) :
    r.Holds Cache' Found' Answer' where
  cache url isCached := cache url (holds.cache url isCached)
  found i url isFound := found url (holds.found i url isFound)
  answered i url isAnswer := answer url (holds.answered i url isAnswer)

/-- A call moves on, with a URL that is as it should be. -/
theorem Resolver.Holds.goto (holds : r.Holds Cache Found Answer) (i : ℕ) {phase : Phase}
    (found : ∀ url, phase = .found url → Found url)
    (answered : ∀ url, phase = .answered url → Answer url) :
    (r.goto i phase).Holds Cache Found Answer where
  cache := holds.cache
  found j url isFound := by
    rw [Resolver.phase_goto] at isFound
    split at isFound
    · exact found url isFound
    · exact holds.found j url isFound
  answered j url isAnswer := by
    rw [Resolver.phase_goto] at isAnswer
    split at isAnswer
    · exact answered url isAnswer
    · exact holds.answered j url isAnswer

theorem Resolver.Holds.setCached (holds : r.Holds Cache Found Answer)
    {value : Option JavaScript.Text} (cache : ∀ url, value = some url → Cache url) :
    ({ r with cached := value } : Resolver).Holds Cache Found Answer :=
  ⟨cache, holds.found, holds.answered⟩

variable {json : OrgJson format} {table : DigitTable} {sha256 : Bytes → Bytes32}

/-- What a step has to bring along: a URL that may be in the cache for the app's own, one
that may be found for the lookup's, and the rest follows. -/
theorem Resolver.Holds.step {o : Occurrence} (holds : r.Holds Cache Found Answer)
    (step : Step json table sha256 r o r')
    (answer : ∀ url, Cache url → isBlank url = false → Answer url)
    (store : ∀ url, Found url → Cache url ∧ Answer url)
    (finds : ∀ i web url, o = .lookup i web → tryResolveViaENS json table sha256 web = some url →
      Found url)
    (fallback : ∀ i web, o = .lookup i web → tryResolveViaENS json table sha256 web = none →
      Answer getFallbackUrl)
    (set : ∀ url, o = .cacheUrl url → Cache url) : r'.Holds Cache Found Answer := by
  cases step with
  | failed fresh =>
      exact holds.goto _ (fun url same => by cases same) (fun url same => by cases same)
  | cached fresh usable =>
      obtain ⟨isCached, proper⟩ := Resolver.usable_eq_some.mp usable
      refine holds.goto _ (fun url same => by cases same) fun url same => ?_
      obtain rfl := Phase.answered.inj same
      exact answer _ (holds.cache _ isCached) proper
  | begins fresh unusable =>
      exact holds.goto _ (fun url same => by cases same) (fun url same => by cases same)
  | found waiting resolved =>
      refine holds.goto _ (fun url same => ?_) fun url same => by cases same
      obtain rfl := Phase.found.inj same
      exact finds _ _ _ rfl resolved
  | fallback waiting unresolved =>
      refine holds.goto _ (fun url same => by cases same) fun url same => ?_
      obtain rfl := Phase.answered.inj same
      exact fallback _ _ rfl unresolved
  | lost isFound =>
      exact holds.goto _ (fun url same => by cases same) (fun url same => by cases same)
  | stored isFound =>
      obtain ⟨cache, answered⟩ := store _ (holds.found _ _ isFound)
      refine (holds.goto _ (fun url same => by cases same) fun url same => ?_).setCached
        fun url same => ?_
      · obtain rfl := Phase.answered.inj same
        exact answered
      · obtain rfl := Option.some.inj same
        exact cache
  | cacheUrl url =>
      refine holds.setCached fun url' same => ?_
      obtain rfl := Option.some.inj same
      exact set url rfl
  | clearCache => exact holds.setCached fun url same => by cases same

/-- Before the first call. -/
theorem Resolver.holds_start {cached : Option JavaScript.Text}
    (cache : ∀ url, cached = some url → Cache url) :
    (Resolver.start cached).Holds Cache Found Answer where
  cache := cache
  found _ _ isFound := by cases isFound
  answered _ _ isAnswer := by cases isAnswer

end Holds

section Alone

variable {json : OrgJson format} {table : DigitTable} {sha256 : Bytes → Bytes32}

/-- A call on its own, in which nothing is thrown. -/
def alone (i : ℕ) (web : Web) : List Occurrence :=
  [.resolve i false, .lookup i web, .store i false]

/-- What a call on its own finds is answered and cached. -/
theorem run_alone {r : Resolver} {i : ℕ} {web : Web} {url : JavaScript.Text}
    (fresh : r.phase i = .unused) (unusable : r.usable = none)
    (resolved : tryResolveViaENS json table sha256 web = some url) :
    (machine json table sha256).run r (alone i web) =
      { r.goto i (.answered url) with cached := some url } := by
  simp [alone, Machine.run, Machine.next, machine, occur, fresh, unusable, resolved,
    Resolver.goto]

end Alone

/-! ## Where an answer comes from -/

section Sources

variable (json : OrgJson format) (table : DigitTable) (sha256 : Bytes → Bytes32)

/-- A gateway has a document with the URL, at the CID the node gives. -/
def Served (web : Web) (url : JavaScript.Text) : Prop :=
  isHttps url ∧
    ∃ cid, fetchENSTextRecord json table sha256 web "thevoteapp.eth" "gateway" = some cid ∧
      ∃ gateway ∈ ipfsGateways, ∃ document,
        web.readText (utf16 gateway ++ cid) = some document ∧ endpointOf json document = some url

/-- A lookup has found the URL. -/
def Discovered (taken : List Occurrence) (url : JavaScript.Text) : Prop :=
  ∃ i web, .lookup i web ∈ taken ∧ Served json table sha256 web url

/-- How a URL gets into the cache. -/
def Cachable (cached : Option JavaScript.Text) (taken : List Occurrence)
    (url : JavaScript.Text) : Prop :=
  cached = some url ∨ .cacheUrl url ∈ taken ∨ Discovered json table sha256 taken url

variable {json table sha256}

theorem served_of_tryResolveViaENS {web : Web} {url : JavaScript.Text}
    (resolved : tryResolveViaENS json table sha256 web = some url) :
    Served json table sha256 web url := by
  obtain ⟨cid, isCid, resolved⟩ := Option.bind_eq_some_iff.mp resolved
  obtain ⟨gateway, mem, fetched⟩ := List.exists_of_findSome?_eq_some resolved
  obtain ⟨read, https⟩ := Option.filter_eq_some_iff.mp fetched
  obtain ⟨document, isDocument, isUrl⟩ := Option.bind_eq_some_iff.mp read
  exact ⟨https, cid, isCid, gateway, mem, document, isDocument, isUrl⟩

theorem not_isBlank_of_isHttps {url : JavaScript.Text} (https : isHttps url = true) :
    isBlank url = false := by
  obtain ⟨rest, rfl⟩ := List.isPrefixOf_iff_prefix.mp https
  have start : isBlank (utf16 "https://") = false := by decide
  rw [isBlank, List.all_append]
  rw [isBlank] at start
  rw [start, Bool.false_and]

section Mono

variable {cached : Option JavaScript.Text} {taken : List Occurrence} {url : JavaScript.Text}

theorem Discovered.concat (o : Occurrence) (discovered : Discovered json table sha256 taken url) :
    Discovered json table sha256 (taken ++ [o]) url := by
  obtain ⟨i, web, mem, served⟩ := discovered
  exact ⟨i, web, List.mem_append_left _ mem, served⟩

theorem Cachable.concat (o : Occurrence) (cachable : Cachable json table sha256 cached taken url) :
    Cachable json table sha256 cached (taken ++ [o]) url := by
  rcases cachable with before | given | discovered
  · exact .inl before
  · exact .inr (.inl (List.mem_append_left _ given))
  · exact .inr (.inr (discovered.concat o))

theorem Discovered.not_isBlank (discovered : Discovered json table sha256 taken url) :
    isBlank url = false := by
  obtain ⟨-, -, -, https, -⟩ := discovered
  exact not_isBlank_of_isHttps https

end Mono

end Sources

/-- **Where an answer comes from.**  After every run, a call has been answered with the
URL in the app, or with a URL that is not blank and was in the cache at the start, has
been cached by the app, or begins with `https://` and has been in a document of a
gateway during some lookup. -/
theorem answer_source (json : OrgJson format) (table : DigitTable) (sha256 : Bytes → Bytes32)
    (cached : Option JavaScript.Text) (occurrences : List Occurrence) (i : ℕ)
    (url : JavaScript.Text)
    (answered : ((machine json table sha256).run (.start cached) occurrences).phase i =
      .answered url) :
    let taken := (machine json table sha256).accepted (.start cached) occurrences
    url = getFallbackUrl ∨ isBlank url = false ∧
      (cached = some url ∨ .cacheUrl url ∈ taken ∨
        ∃ j web, .lookup j web ∈ taken ∧ Served json table sha256 web url) := by
  let Sourced (taken : List Occurrence) (r : Resolver) : Prop :=
    r.Holds (Cachable json table sha256 cached taken) (Discovered json table sha256 taken)
      fun url => url = getFallbackUrl ∨
        isBlank url = false ∧ Cachable json table sha256 cached taken url
  have sourced : Sourced ((machine json table sha256).accepted (.start cached) occurrences)
      ((machine json table sha256).run (.start cached) occurrences) := by
    refine Machine.run_induction (I := fun r _ taken => Sourced taken r) ?_ ?_ occurrences
    · exact Resolver.holds_start fun url same => .inl same
    · intro r log taken o r' new before done
      have later : Sourced (taken ++ [o]) r :=
        before.mono (fun _ cachable => cachable.concat o) (fun _ found => found.concat o)
          fun _ known => known.imp_right fun both => ⟨both.1, both.2.concat o⟩
      have last : o ∈ taken ++ [o] := List.mem_append_right _ (List.mem_singleton_self o)
      refine later.step (.of_call done) ?_ ?_ ?_ ?_ ?_
      · exact fun url cachable proper => .inr ⟨proper, cachable⟩
      · exact fun url found =>
          ⟨.inr (.inr found), .inr ⟨found.not_isBlank, .inr (.inr found)⟩⟩
      · rintro i web url rfl resolved
        exact ⟨i, web, last, served_of_tryResolveViaENS resolved⟩
      · exact fun _ _ _ _ => .inl rfl
      · rintro url rfl
        exact .inr (.inl last)
  exact sourced.answered i url answered

/-! ## A cache that is set -/

/-- The occurrence leaves the cache to the calls. -/
def Occurrence.keeps : Occurrence → Bool
  | .cacheUrl _ | .clearCache => false
  | _ => true

/-- No call is between its beginning and its answer. -/
def Resolver.Idle (r : Resolver) : Prop :=
  ∀ i, r.phase i ≠ .lookingUp ∧ ∀ url, r.phase i ≠ .found url

section Settled

variable {json : OrgJson format} {table : DigitTable} {sha256 : Bytes → Bytes32}

/-- **The first URL stays.**  While the cache is set, no call is in flight and the app
neither sets nor clears it, the cache stays as it is and all calls that begin are
answered with it, whatever the network would say. -/
theorem cache_stays (r : Resolver) (url : JavaScript.Text) (usable : r.usable = some url)
    (idle : r.Idle) (occurrences : List Occurrence)
    (kept : ∀ o ∈ occurrences, o.keeps = true) :
    let s := (machine json table sha256).run r occurrences
    s.cached = some url ∧ ∀ i, s.phase i = r.phase i ∨
      r.phase i = .unused ∧ (s.phase i = .answered url ∨ s.phase i = .failed) := by
  refine Machine.run_invariant_along (M := machine json table sha256)
    (P := fun _ o => o.keeps = true)
    (I := fun s => s.cached = some url ∧ ∀ i, s.phase i = r.phase i ∨
      r.phase i = .unused ∧ (s.phase i = .answered url ∨ s.phase i = .failed))
    ⟨(Resolver.usable_eq_some.mp usable).1, fun i => .inl rfl⟩ ?_ occurrences
    (Machine.along_of_forall_mem kept r)
  rintro s o s' new ⟨isCached, phases⟩ keeps done
  have proper : s.usable = some url :=
    Resolver.usable_eq_some.mpr ⟨isCached, (Resolver.usable_eq_some.mp usable).2⟩
  -- a call in flight would have been so from the start
  have calm : s.Idle := by
    intro i
    rcases phases i with same | ⟨-, same | same⟩
    · rw [same]
      exact idle i
    · rw [same]
      exact ⟨fun wrong => (by cases wrong), fun _ wrong => (by cases wrong)⟩
    · rw [same]
      exact ⟨fun wrong => (by cases wrong), fun _ wrong => (by cases wrong)⟩
  have fresh : ∀ i, s.phase i = .unused → r.phase i = .unused := by
    intro i unused
    rcases phases i with same | ⟨before, -⟩
    · rw [← same, unused]
    · exact before
  have moved : ∀ i phase, s.phase i = .unused → (phase = .answered url ∨ phase = .failed) →
      ∀ j, (s.goto i phase).phase j = r.phase j ∨
        r.phase j = .unused ∧
          ((s.goto i phase).phase j = .answered url ∨ (s.goto i phase).phase j = .failed) := by
    intro i phase unused ends j
    rw [Resolver.phase_goto]
    split
    · subst j
      exact .inr ⟨fresh i unused, ends⟩
    · exact phases j
  cases Step.of_call done with
  | failed unused => exact ⟨isCached, moved _ _ unused (.inr rfl)⟩
  | cached unused usable' =>
      obtain rfl := Option.some.inj (proper.symm.trans usable')
      exact ⟨isCached, moved _ _ unused (.inl rfl)⟩
  | begins unused unusable => cases proper.symm.trans unusable
  | found waiting resolved => exact absurd waiting (calm _).1
  | fallback waiting unresolved => exact absurd waiting (calm _).1
  | lost holds => exact absurd holds ((calm _).2 _)
  | stored holds => exact absurd holds ((calm _).2 _)
  | cacheUrl url' => cases keeps
  | clearCache => cases keeps

end Settled

/-! ## What is read in a document -/

section Documents

variable {json : OrgJson format} {table : DigitTable} {sha256 : Bytes → Bytes32}

/-- The member `endpoints` of a document; `none` when there is no document. -/
def endpointsIn (json : OrgJson format) (document : JavaScript.Text) :
    Option (Value format.Number) :=
  (json.read document).bind fun manifest => manifest.lookup (utf16 "endpoints")

/-- The gateways hand out other documents. -/
def Web.tampered (web : Web) (forge : JavaScript.Text → JavaScript.Text) : Web :=
  { web with readText := fun address => (web.readText address).map forge }

/-- The same occurrence in a network with other documents. -/
def Occurrence.tampered (forge : JavaScript.Text → JavaScript.Text) : Occurrence → Occurrence
  | .lookup i web => .lookup i (web.tampered forge)
  | o => o

theorem endpointOf_eq (document : JavaScript.Text) :
    endpointOf json document =
      match endpointsIn json document with
      | some (.object endpoints) =>
          (endpoints.lookup (utf16 "api")).map fun value => (json.coerce value).units
      | _ => none := by
  rw [endpointOf, endpointsIn]
  cases json.read document with
  | none => rfl
  | some manifest => rfl

theorem endpointsIn_payload {members : List (JavaScript.Text × Value format.Number)}
    (ordered : (Value.object members).Ordered) (plain : Plain format (.object members)) :
    endpointsIn json (payload members) = members.lookup (utf16 "endpoints") := by
  rw [endpointsIn, payload, json.read_stringify 2 members ordered plain, Option.bind_some]

theorem tryResolveViaENS_tampered {forge : JavaScript.Text → JavaScript.Text}
    (same : ∀ document, endpointsIn json (forge document) = endpointsIn json document)
    (web : Web) :
    tryResolveViaENS json table sha256 (web.tampered forge) =
      tryResolveViaENS json table sha256 web := by
  have fetch : ∀ cid gateway, fetchFrom json (web.tampered forge) cid gateway =
      fetchFrom json web cid gateway := by
    intro cid gateway
    have endpoint : endpointOf json ∘ forge = endpointOf json := by
      funext document
      rw [Function.comp_apply, endpointOf_eq, endpointOf_eq, same]
    rw [fetchFrom, fetchFrom, Web.tampered, Option.bind_map, endpoint]
  have manifest : ∀ cid, fetchManifestFromCID json (web.tampered forge) cid =
      fetchManifestFromCID json web cid := by
    intro cid
    rw [fetchManifestFromCID, fetchManifestFromCID, funext (fetch cid)]
  rw [tryResolveViaENS, tryResolveViaENS, funext manifest]
  rfl

/-- **The signature is looked at nowhere.**  If the gateways hand out documents of which
nothing but the endpoints is left, signed by anyone or by no one, every run goes as
it would have gone. -/
theorem signature_ignored (forge : JavaScript.Text → JavaScript.Text)
    (same : ∀ document, endpointsIn json (forge document) = endpointsIn json document)
    (r : Resolver) (occurrences : List Occurrence) :
    (machine json table sha256).run r (occurrences.map (Occurrence.tampered forge)) =
      (machine json table sha256).run r occurrences := by
  refine Machine.run_congr (List.forall₂_map_left_iff.mpr (List.forall₂_same.mpr ?_)) r
  intro o mem s
  cases o with
  | lookup i web =>
      simp only [Machine.next, machine, Occurrence.tampered, occur,
        tryResolveViaENS_tampered same web]
  | _ => rfl

end Documents

/-! ## What the node says -/

/-- The bytes of a string as characters. -/
def latin1 (s : String) : JavaScript.Text :=
  (toUtf8Bytes s).map fun byte => UInt16.ofNat byte.toNat

/-- The node responds with a string, as it is encoded. -/
def Responds (json : OrgJson format) (web : Web) (digits : List Char) (s : String) : Prop :=
  ∃ response members, ∃ hex : Text, web.call digits = some response ∧
    json.read response = some members ∧
    members.lookup (utf16 "result") = some (.string hex.units) ∧
    hex.units = (encoded true s).map unit

section Published

variable {json : OrgJson format} {table : DigitTable} {sha256 : Bytes → Bytes32}

theorem fetchENSTextRecord_of_responds {web : Web} {name key s : String}
    (responds : Responds json web (arguments (nameHash sha256 name) key) s) :
    fetchENSTextRecord json table sha256 web name key = some (latin1 s) := by
  obtain ⟨response, members, hex, isResponse, isObject, isResult, isEncoded⟩ := responds
  have result : optString json members "result" = hex := by
    rw [optString, isResult]
    exact json.coerce_string hex
  have long : 2 < hex.units.length := by
    rw [isEncoded, encoded, List.length_map, List.length_append, encode_string]
    simp only [List.length_append, Hex.length_encode, bigEndian_length]
    omega
  simp only [fetchENSTextRecord, isResponse, isObject, result, if_pos long,
    decodeABIString_encoded table s isEncoded, Option.bind_eq_bind, Option.bind_some]
  rfl

variable {ethers : Ethers format} {signerKey : ethers.Key} {manifest : Manifest}

theorem plain_signedMembers : Plain format (.object (signedMembers ethers signerKey manifest)) := by
  refine .object fun member mem => ?_
  rw [signedMembers_eq] at mem
  rcases List.mem_append.mp mem with before | last
  · cases @plain_members format manifest with
    | object all => exact all member before
  · rw [List.mem_singleton.mp last]
    exact .string _

theorem lookup_members : (manifest.members format).lookup (utf16 "endpoints") =
    some (.object [(utf16 "api", .string manifest.apiUrl),
      (utf16 "ws", .string manifest.wsUrl)]) := by
  have other : (utf16 "endpoints" == utf16 "version") = false := by decide
  rw [Manifest.members, List.lookup_cons, other, List.lookup_cons_self]

/-- The endpoints in what has been pinned. -/
theorem endpointsIn_publish : endpointsIn json (publish ethers signerKey manifest) =
    (manifest.members format).lookup (utf16 "endpoints") := by
  have apart : utf16 "endpoints" ≠ signatureKey := by decide
  rw [publish, endpointsIn_payload (ordered_of_parse (parse_publish))
    plain_signedMembers, ← lookup_rest apart, rest_signedMembers]

/-- The URL in what has been pinned. -/
theorem endpointOf_publish (short : (manifest.apiUrl.length : ℤ) < limit) :
    endpointOf json (publish ethers signerKey manifest) = some manifest.apiUrl := by
  have url := json.coerce_string ⟨manifest.apiUrl, short⟩
  rw [endpointOf_eq, endpointsIn_publish, lookup_members]
  simp only [List.lookup_cons_self, Option.map_some, url]

end Published

/-! ## What is asked for -/

/-- The text records: by node and by key. -/
abbrev Records := Bytes32 → String → String

/-- The node runs the resolver contract, which reverts at arguments it cannot read. -/
structure Honest (json : OrgJson format) (records : Records) (web : Web) : Prop where
  reads : ∀ digits node key, decodeArguments digits = some (node, key) →
    Responds json web digits (records node key)
  reverts : ∀ digits, decodeArguments digits = none → ∀ response members,
    web.call digits = some response → json.read response = some members →
      members.lookup (utf16 "result") = none

/-- The word of the length of `gateway`, which is read for the key. -/
def lengthKey : String := String.ofList (List.replicate 31 (Char.ofNat 0) ++ [Char.ofNat 7])

section Asked

variable {json : OrgJson format} {table : DigitTable} {sha256 : Bytes → Bytes32}

/-- The contract reads another key. -/
theorem decodeArguments_gateway (node : Bytes32) :
    decodeArguments (arguments node "gateway") = some (node, lengthKey) := by
  have key : ((Hex.decode (rest "gateway")).bind fun data =>
      if 32 ≤ data.length then fromUtf8Bytes (data.take 32) else none) = some lengthKey := by
    decide +kernel
  obtain ⟨data, isData, isKey⟩ := Option.bind_eq_some_iff.mp key
  rw [decodeArguments_eq, isData, Option.bind_some]
  split at isKey
  · rename_i long
    rw [if_pos long, isKey, Option.map_some]
  · cases isKey

theorem tryResolveViaENS_of_honest {records : Records} {web : Web}
    (honest : Honest json records web) :
    tryResolveViaENS json table sha256 web =
      fetchManifestFromCID json web
        (latin1 (records (nameHash sha256 "thevoteapp.eth") lengthKey)) := by
  have responds := honest.reads _ _ _ (decodeArguments_gateway (nameHash sha256 "thevoteapp.eth"))
  rw [tryResolveViaENS, fetchENSTextRecord_of_responds responds]
  rfl

end Asked

/-! ## What is published -/

/-- One text record is set, and no other. -/
def oneRecord (node : Bytes32) (key value : String) : Records := fun node' key' =>
  if node' = node ∧ key' = key then value else ""

/-- The network after a publication: the node holds the records, the gateways that have
something under the CID, of which there are some, have the manifest, and none has
anything without a CID. -/
structure Serves (json : OrgJson format) (records : Records) (ethers : Ethers format)
    (signerKey : ethers.Key) (manifest : Manifest) (cid : String) (web : Web) : Prop where
  honest : Honest json records web
  pinned : ∀ gateway ∈ ipfsGateways, ∀ document,
    web.readText (utf16 gateway ++ utf16 cid) = some document →
      document = publish ethers signerKey manifest
  reachable : ∃ gateway ∈ ipfsGateways, web.readText (utf16 gateway ++ utf16 cid) ≠ none
  nameless : ∀ gateway ∈ ipfsGateways, web.readText (utf16 gateway) = none

section Serving

variable {json : OrgJson format} {table : DigitTable} {sha256 : Bytes → Bytes32}
variable {ethers : Ethers format} {signerKey : ethers.Key} {manifest : Manifest}
variable {cid : String} {records : Records} {web : Web}

/-- The CID leads to the URL of the manifest. -/
theorem fetchManifestFromCID_of_serves (short : (manifest.apiUrl.length : ℤ) < limit)
    (serves : Serves json records ethers signerKey manifest cid web) :
    fetchManifestFromCID json web (utf16 cid) =
      if isHttps manifest.apiUrl then some manifest.apiUrl else none := by
  have each : ∀ gateway ∈ ipfsGateways, fetchFrom json web (utf16 cid) gateway =
      if web.readText (utf16 gateway ++ utf16 cid) ≠ none ∧ isHttps manifest.apiUrl then
        some manifest.apiUrl
      else none := by
    intro gateway mem
    rw [fetchFrom]
    cases read : web.readText (utf16 gateway ++ utf16 cid) with
    | none => simp
    | some document =>
        rw [serves.pinned gateway mem document read, Option.bind_some,
          endpointOf_publish short]
        by_cases https : isHttps manifest.apiUrl = true
        · simp [https]
        · simp [https]
  by_cases https : isHttps manifest.apiUrl = true
  · rw [if_pos https]
    obtain ⟨gateway, mem, read⟩ := serves.reachable
    have isSome : (fetchManifestFromCID json web (utf16 cid)).isSome := by
      rw [fetchManifestFromCID, List.findSome?_isSome_iff]
      exact ⟨gateway, mem, by rw [each gateway mem, if_pos ⟨read, https⟩]; rfl⟩
    obtain ⟨url, isUrl⟩ := Option.isSome_iff_exists.mp isSome
    obtain ⟨gateway', mem', fetched⟩ := List.exists_of_findSome?_eq_some isUrl
    rw [each gateway' mem'] at fetched
    split at fetched
    · rw [isUrl, fetched]
    · cases fetched
  · rw [if_neg https, fetchManifestFromCID, List.findSome?_eq_none_iff]
    intro gateway mem
    rw [each gateway mem, if_neg fun both => https both.2]

/-- No CID leads nowhere. -/
theorem fetchManifestFromCID_nil (serves : Serves json records ethers signerKey manifest cid web) :
    fetchManifestFromCID json web [] = none := by
  rw [fetchManifestFromCID, List.findSome?_eq_none_iff]
  intro gateway mem
  rw [fetchFrom, List.append_nil, serves.nameless gateway mem]
  rfl

/-- A lookup finds the manifest if the CID is in the record it asks for. -/
theorem tryResolveViaENS_of_serves {node : Bytes32} {key : String} (ascii : IsAscii cid)
    (short : (manifest.apiUrl.length : ℤ) < limit)
    (serves : Serves json (oneRecord node key cid) ethers signerKey manifest cid web) :
    tryResolveViaENS json table sha256 web =
      if (nameHash sha256 "thevoteapp.eth" = node ∧ lengthKey = key) ∧ isHttps manifest.apiUrl then
        some manifest.apiUrl
      else none := by
  have text : latin1 cid = utf16 cid := (latin1_eq_utf16_iff cid).mpr ascii
  rw [tryResolveViaENS_of_honest serves.honest, oneRecord]
  by_cases asked : nameHash sha256 "thevoteapp.eth" = node ∧ lengthKey = key
  · rw [if_pos asked, text, fetchManifestFromCID_of_serves short serves]
    simp only [asked, and_self, true_and]
  · rw [if_neg asked, if_neg fun both => asked both.1]
    exact fetchManifestFromCID_nil serves

end Serving

/-- One occurrence, with one value of the records and with another. -/
inductive Alike (json : OrgJson format) (records records' : Records) :
    Occurrence → Occurrence → Prop where
  | lookup (i : ℕ) {web web' : Web} (honest : Honest json records web)
      (honest' : Honest json records' web') (readText : web.readText = web'.readText) :
      Alike json records records' (.lookup i web) (.lookup i web')
  | same (o : Occurrence) (noLookup : ∀ i web, o ≠ .lookup i web) : Alike json records records' o o

section Unused

variable {json : OrgJson format} {table : DigitTable} {sha256 : Bytes → Bytes32}

/-- **The record `gateway` is never asked for.**  At a node that runs the resolver
contract, every run goes the same way whatever the text records are under the key
`gateway`. -/
theorem gateway_record_unused {records records' : Records}
    (agree : ∀ node key, key ≠ "gateway" → records node key = records' node key)
    {occurrences occurrences' : List Occurrence}
    (alike : List.Forall₂ (Alike json records records') occurrences occurrences') (r : Resolver) :
    (machine json table sha256).run r occurrences =
      (machine json table sha256).run r occurrences' := by
  refine Machine.run_congr (alike.imp fun o o' pair s => ?_) r
  cases pair with
  | lookup i honest honest' readText =>
      rename_i web web'
      have other : lengthKey ≠ "gateway" := by decide
      have fetch : ∀ cid,
          fetchManifestFromCID json web cid = fetchManifestFromCID json web' cid := by
        intro cid
        have each : fetchFrom json web cid = fetchFrom json web' cid := by
          funext gateway
          rw [fetchFrom, fetchFrom, readText]
        rw [fetchManifestFromCID, fetchManifestFromCID, each]
      have same : tryResolveViaENS json table sha256 web =
          tryResolveViaENS json table sha256 web' := by
        rw [tryResolveViaENS_of_honest honest, tryResolveViaENS_of_honest honest',
          agree _ _ other, fetch]
      simp only [Machine.next, machine, occur, same]
  | same o noLookup => rfl

end Unused

/-! ## One publication -/

section Sample

/-- The JSON of the backend, read by the rules of `JSON.parse`. -/
def sampleJson : OrgJson .naturals where
  read text :=
    match parse .naturals text with
    | some (.object members) => some members
    | _ => none
  coerce
    | .string units => if short : (units.length : ℤ) < limit then ⟨units, short⟩ else emptyText
    | _ => emptyText
  read_stringify spaces members ordered plain := by
    rw [parse_stringify .naturals spaces ordered, plain.printedValue_eq]
  coerce_string text := dif_pos text.length_lt

/-- SHA-256 at the labels of the name, and at what comes of them. -/
def sampleSha256 (bytes : Bytes) : Bytes32 :=
  if bytes = toUtf8Bytes "eth" then
    0xc69ea13227bace6e1f8a06364d93f4a6f04632432b64ca9b1fc4036baea4d34c
  else if bytes = toUtf8Bytes "thevoteapp" then
    0x9c534dd7f5987625d61c7e0822e3854e8b86b9fce2e1ce3a63824ffdf1cee086
  else if bytes.take 32 = digestBytes 0 then
    0x183b1631ab6da9a4e05e1facd66a3ae96e2e20c3ca143a877d7e529bb851e315
  else 0x7e219d939ef6b86b27486c3802f8a863933ce6c61c055dda5bfe84ea50868664

/-- The CID of the sample manifest. -/
def sampleCid : String := "bafkreigh2akiscaildcqabsyg3dfr6chu3fgpregiymsck7e7aqa4s52zy"

/-- A response of the node, up to its result or error. -/
def sampleResponse (last : JavaScript.Text × Value NumberFormat.naturals.Number) :
    List (JavaScript.Text × Value NumberFormat.naturals.Number) :=
  [(utf16 "jsonrpc", .string (utf16 "2.0")),
    (utf16 "id", .number (NumberFormat.naturals.ofNat 1)), last]

/-- The member `result` of a response. -/
def sampleResult (s : String) : JavaScript.Text × Value NumberFormat.naturals.Number :=
  (utf16 "result", .string ((encoded true s).map unit))

/-- The member `error` of a response. -/
def sampleError : JavaScript.Text × Value NumberFormat.naturals.Number :=
  (utf16 "error", .object [(utf16 "message", .string (utf16 "execution reverted"))])

/-- A node that runs the resolver contract. -/
def sampleNode (records : Records) (digits : List Char) : JavaScript.Text :=
  stringify .naturals 0 (.object (sampleResponse
    (match decodeArguments digits with
    | some (node, key) => sampleResult (records node key)
    | none => sampleError)))

/-- One of the gateways can be reached. -/
def sampleWeb (records : Records) (document : JavaScript.Text) : Web where
  call digits := some (sampleNode records digits)
  readText address :=
    if address = utf16 "https://cloudflare-ipfs.com/ipfs/" ++ utf16 sampleCid then some document
    else none

theorem read_sampleResponse {last : JavaScript.Text × Value NumberFormat.naturals.Number}
    (name : last.1 = utf16 "result" ∨ last.1 = utf16 "error") (ordered : last.2.Ordered)
    (plain : Plain .naturals last.2) :
    sampleJson.read (stringify .naturals 0 (.object (sampleResponse last))) =
      some (sampleResponse last) := by
  refine sampleJson.read_stringify 0 _ (.object ?_ fun member mem => ?_)
    (.object fun member mem => ?_)
  · rw [inOrder_iff_keys]
    show [utf16 "jsonrpc", utf16 "id", last.1].Pairwise _
    have inOrder : ∀ name ∈ ["result", "error"],
        [utf16 "jsonrpc", utf16 "id", utf16 name].Pairwise fun key key' =>
          key ≠ key' ∧ ¬ Precedes key' key := by
      decide
    rcases name with same | same
    · rw [same]
      exact inOrder "result" (by simp)
    · rw [same]
      exact inOrder "error" (by simp)
  · simp only [sampleResponse, List.mem_cons, List.not_mem_nil, or_false] at mem
    rcases mem with rfl | rfl | rfl
    · exact .string _
    · exact .number _
    · exact ordered
  · simp only [sampleResponse, List.mem_cons, List.not_mem_nil, or_false] at mem
    rcases mem with rfl | rfl | rfl
    · exact .string _
    · exact .ofNat (by decide) (by decide)
    · exact plain

theorem honest_sample {records : Records}
    (short : ∀ node key, ((encoded true (records node key)).length : ℤ) < limit)
    (document : JavaScript.Text) : Honest sampleJson records (sampleWeb records document) where
  reads digits node key read := by
    refine ⟨_, sampleResponse (sampleResult (records node key)),
      ⟨(encoded true (records node key)).map unit, ?_⟩, rfl, ?_, ?_, rfl⟩
    · rw [List.length_map]
      exact short node key
    · rw [sampleNode, read]
      exact read_sampleResponse (.inl rfl) (.string _) (.string _)
    · have first : (utf16 "result" == utf16 "jsonrpc") = false :=
        beq_eq_false_iff_ne.mpr (utf16_injective.ne (by simp))
      have second : (utf16 "result" == utf16 "id") = false :=
        beq_eq_false_iff_ne.mpr (utf16_injective.ne (by simp))
      rw [sampleResponse, List.lookup_cons, first, List.lookup_cons, second, sampleResult,
        List.lookup_cons_self]
  reverts digits unread response members isResponse isObject := by
    have fixed : (sampleResponse sampleError).lookup (utf16 "result") = none := by
      rw [List.lookup_eq_none_iff]
      intro member mem
      simp only [sampleResponse, sampleError, List.mem_cons, List.not_mem_nil, or_false] at mem
      rcases mem with rfl | rfl | rfl
      · exact bne_iff_ne.mpr (utf16_injective.ne (by simp))
      · exact bne_iff_ne.mpr (utf16_injective.ne (by simp))
      · exact bne_iff_ne.mpr (utf16_injective.ne (by simp))
    have single : ∀ member ∈ [(utf16 "message",
        (Value.string (utf16 "execution reverted") : Value NumberFormat.naturals.Number))],
        member.2.Ordered ∧ Plain .naturals member.2 := by
      intro member mem
      rw [List.mem_singleton.mp mem]
      exact ⟨.string _, .string _⟩
    obtain rfl := Option.some.inj isResponse
    rw [sampleNode, unread, read_sampleResponse (.inr rfl)
      (.object (List.pairwise_singleton _ _) fun member mem => (single member mem).1)
      (.object fun member mem => (single member mem).2)] at isObject
    rw [← Option.some.inj isObject]
    exact fixed

/-- What the runs below use of the CID, and of a record without a value. -/
theorem cid_sample : IsAscii sampleCid ∧
    ∀ value ∈ [sampleCid, ""], ((encoded true value).length : ℤ) < limit := by
  decide +kernel

/-- What they use of the manifest that the CID names. -/
theorem apiUrl_sample : isHttps sampleManifest.apiUrl = true ∧
    isBlank sampleManifest.apiUrl = false ∧ sampleManifest.apiUrl ≠ getFallbackUrl ∧
    (sampleManifest.apiUrl.length : ℤ) < limit := by
  decide

theorem short_oneRecord (asked node : Bytes32) (key name : String) :
    ((encoded true (oneRecord asked key sampleCid node name)).length : ℤ) < limit := by
  rw [oneRecord]
  split
  · exact cid_sample.2 sampleCid (by simp)
  · exact cid_sample.2 "" (by simp)

/-- The sample manifest as it is published. -/
def sampleDocument : JavaScript.Text := publish sampleEthers sampleKey sampleManifest

theorem serves_sample (node : Bytes32) (key : String) :
    Serves sampleJson (oneRecord node key sampleCid) sampleEthers sampleKey sampleManifest sampleCid
      (sampleWeb (oneRecord node key sampleCid) sampleDocument) where
  honest := honest_sample (fun asked name => short_oneRecord node asked key name) sampleDocument
  pinned gateway _ document read := by
    simp only [sampleWeb] at read
    split at read
    · exact (Option.some.inj read).symm
    · cases read
  reachable := by
    refine ⟨"https://cloudflare-ipfs.com/ipfs/", by decide, ?_⟩
    simp [sampleWeb]
  nameless gateway mem := by
    have apart : ∀ gateway ∈ ipfsGateways,
        gateway ≠ "https://cloudflare-ipfs.com/ipfs/" ++ sampleCid := by
      simp [ipfsGateways, sampleCid]
    refine if_neg fun same => apart gateway mem (utf16_injective ?_)
    rw [utf16_append]
    exact same

/-- The CID stands in the record that the app asks for. -/
def sampleRecords : Records :=
  oneRecord (nameHash sampleSha256 "thevoteapp.eth") lengthKey sampleCid

/-- The resolver with the sample libraries. -/
def sampleMachine : Machine Resolver Occurrence Empty Unit :=
  machine sampleJson asciiDigits sampleSha256

/-- One call that finds the sample manifest. -/
def sampleRun : List Occurrence := alone 0 (sampleWeb sampleRecords sampleDocument)

theorem resolved_sample :
    tryResolveViaENS sampleJson asciiDigits sampleSha256 (sampleWeb sampleRecords sampleDocument) =
      some sampleManifest.apiUrl := by
  obtain ⟨https, -, -, short⟩ := apiUrl_sample
  rw [sampleRecords, tryResolveViaENS_of_serves cid_sample.1 short (serves_sample _ _),
    if_pos ⟨⟨rfl, rfl⟩, https⟩]

theorem run_sample : sampleMachine.run (.start none) sampleRun =
    { (Resolver.start none).goto 0 (.answered sampleManifest.apiUrl) with
      cached := some sampleManifest.apiUrl } := by
  unfold sampleMachine sampleRun
  exact run_alone rfl rfl resolved_sample

theorem answered_sample : (sampleMachine.run (.start none) sampleRun).phase 0 =
    .answered sampleManifest.apiUrl := by
  rw [run_sample]
  rfl

theorem answer_source_sample : ∃ j web, .lookup j web ∈ sampleRun ∧
    Served sampleJson asciiDigits sampleSha256 web sampleManifest.apiUrl := by
  obtain ⟨-, -, other, -⟩ := apiUrl_sample
  have answered := answered_sample
  unfold sampleMachine at answered
  have source := answer_source sampleJson asciiDigits sampleSha256 none sampleRun 0 _ answered
  rcases source with same | ⟨-, same | set | ⟨j, web, mem, served⟩⟩
  · exact absurd same other
  · cases same
  · have listed := (Machine.accepted_sublist _ _).subset set
    simp [sampleRun, alone] at listed
  · exact ⟨j, web, (Machine.accepted_sublist _ _).subset mem, served⟩

/-- The node of the name in the registry of the chain. -/
def ensNode : Bytes32 := 0x359892dc477b7e71e97e3af56ee0443e89bea99f16d5aae957f169e292a3b2c6

/-- The record of the name, as `publish` has it stored. -/
def gatewayRecords (gateway : String) : Records := oneRecord ensNode "gateway" gateway

/-- A second call, and one whose preferences cannot be read. -/
theorem cache_stays_sample :
    let r := sampleMachine.run (.start none) sampleRun
    (sampleMachine.run r [.resolve 1 false, .resolve 2 true]).cached =
      some sampleManifest.apiUrl := by
  intro r
  obtain ⟨-, proper, -, -⟩ := apiUrl_sample
  have ran : r = _ := run_sample
  refine (cache_stays r sampleManifest.apiUrl (Resolver.usable_eq_some.mpr ⟨?_, proper⟩) ?_
    [.resolve 1 false, .resolve 2 true] (by decide)).1
  · rw [ran]
  · intro i
    rw [ran]
    by_cases same : i = 0
    · subst same
      exact ⟨fun wrong => (by cases wrong), fun _ wrong => (by cases wrong)⟩
    · have fresh : ((Resolver.start none).goto 0 (.answered sampleManifest.apiUrl)).phase i =
          .unused := by
        rw [Resolver.phase_goto, if_neg same]
        rfl
      exact ⟨fun wrong => (by cases fresh.symm.trans wrong),
        fun _ wrong => (by cases fresh.symm.trans wrong)⟩

/-- The document without the signature. -/
def sampleForge (document : JavaScript.Text) : JavaScript.Text :=
  if document = sampleDocument then payload (sampleManifest.members .naturals) else document

/-- The call is answered as before, and the document does not verify. -/
theorem signature_ignored_sample :
    (sampleMachine.run (.start none) (sampleRun.map (Occurrence.tampered sampleForge))).phase 0 =
        .answered sampleManifest.apiUrl ∧
      verify sampleEthers asciiLowerCase (.object (sampleManifest.members .naturals))
        (sampleEthers.address sampleKey) = some false := by
  refine ⟨?_, ?_⟩
  · rw [← answered_sample]
    refine congrArg (fun r => Resolver.phase r 0) ?_
    refine signature_ignored sampleForge (fun document => ?_) (.start none) sampleRun
    rw [sampleForge]
    split
    · rename_i same
      rw [same, sampleDocument, endpointsIn_publish,
        endpointsIn_payload ordered_members plain_members]
    · rfl
  · have absent : (sampleManifest.members .naturals).lookup signatureKey = none := by
      rw [List.lookup_eq_none_iff]
      intro member mem
      exact bne_iff_ne.mpr (keys_members member mem).1.symm
    rw [verify, absent]

theorem gateway_record_unused_sample :
    sampleMachine.run (.start none)
        (alone 0 (sampleWeb (gatewayRecords sampleCid) sampleDocument)) =
      sampleMachine.run (.start none)
        (alone 0 (sampleWeb (gatewayRecords "") sampleDocument)) := by
  have short : ∀ node key, ((encoded true (gatewayRecords "" node key)).length : ℤ) < limit := by
    intro node key
    rw [gatewayRecords, oneRecord, ite_self]
    exact cid_sample.2 "" (by simp)
  have agree : ∀ node key, key ≠ "gateway" →
      gatewayRecords sampleCid node key = gatewayRecords "" node key := by
    intro node key other
    rw [gatewayRecords, gatewayRecords, oneRecord, oneRecord, if_neg fun both => other both.2,
      ite_self]
  refine gateway_record_unused agree ?_ (.start none)
  refine .cons (.same _ fun i web wrong => (by cases wrong)) (.cons ?_
    (.cons (.same _ fun i web wrong => (by cases wrong)) .nil))
  exact .lookup 0 (honest_sample (fun asked name => short_oneRecord ensNode asked "gateway" name) _)
    (honest_sample short _) rfl

end Sample

end TheVoteApp.GatewayResolver.Android
