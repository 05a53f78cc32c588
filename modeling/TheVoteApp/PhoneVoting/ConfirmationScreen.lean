import TheVoteApp.PhoneVoting.Screens

/-!
# Recording what was confirmed

The option of a vote is looked up in an object literal, appended to the stored policy
behind a colon, and split off again when the vote is confirmed.  The split is safe: no
option holds a colon, and what is in front of the first colon stays in front of it.  The
lookup is not.  An object literal also answers for `toString` and the other names that
every object inherits; the confirmation then shows `undefined`, and the text of a function
is recorded as the option.

In a run that never answers the question for the option with such a name, every vote is
recorded as the last confirmation of its session shows it (`records_confirmed`).

## Main definitions

* `RecordsConfirmed` — a recorded vote is the one on the last confirmation
* `OwnOption` — the option is not looked up under an inherited name
-/

namespace TheVoteApp.USSDVoteService

open Foundations JavaScript Redis

/-! ## The option table -/

/-- What is found under a name that is not inherited is one of the three options, and has
a label. -/
theorem label_of_property {last optionId : String} (own : inherited last = none)
    (found : property optionMap last = some optionId) :
    ∃ label, labelMap.lookup optionId = some label ∧ ':' ∉ optionId.toList := by
  rw [property, own, Option.or_none] at found
  have options : ∀ entry ∈ optionMap, (labelMap.lookup entry.2).isSome ∧ ':' ∉ entry.2.toList := by
    decide
  obtain ⟨before, after, table, -⟩ := List.lookup_eq_some_iff.mp found
  obtain ⟨label, plain⟩ := options (last, optionId) (by simp [table])
  obtain ⟨label, listed⟩ := Option.isSome_iff_exists.mp label
  exact ⟨label, listed, plain⟩

/-- What is found under an inherited name is no option. -/
theorem lookup_labelMap_of_inherited {last optionId : String} (foreign : inherited last ≠ none)
    (found : property optionMap last = some optionId) : labelMap.lookup optionId = none := by
  have unlisted : ∀ name ∈ inheritedNames,
      ((property optionMap name).bind fun optionId => labelMap.lookup optionId) = none := by
    decide
  have unknown := unlisted last (mem_inheritedNames foreign)
  rwa [found, Option.bind_some] at unknown

/-- The option found has a label exactly where the name is not inherited. -/
theorem isSome_lookup_labelMap_iff {last optionId : String}
    (found : property optionMap last = some optionId) :
    (labelMap.lookup optionId).isSome = true ↔ inherited last = none := by
  constructor
  · intro listed
    by_contra foreign
    rw [lookup_labelMap_of_inherited foreign found] at listed
    cases listed
  · intro own
    obtain ⟨label, listed, -⟩ := label_of_property own found
    rw [listed]
    rfl

theorem property_labelMap {optionId label : String}
    (listed : labelMap.lookup optionId = some label) : property labelMap optionId = some label := by
  rw [property, listed, Option.some_or]

/-! ## Packing -/

/-- The policy and the option, once packed, are split apart again. -/
theorem split_packed (policyId optionId : String) (plain : ':' ∉ optionId.toList) :
    split ':' (policyBase policyId ++ ":" ++ optionId) = [policyBase policyId, optionId] := by
  have base : ':' ∉ (policyBase policyId).toList := by
    rw [policyBase_eq, String.toList_ofList]
    intro mem
    simpa using List.mem_takeWhile_imp mem
  have letters : (policyBase policyId ++ ":" ++ optionId).toList =
      (policyBase policyId).toList ++ ':' :: optionId.toList := by
    rw [String.toList_append, String.toList_append, List.append_assoc]
    rfl
  rw [split, letters, List.splitOn_append_cons_self_of_not_mem base,
    List.splitOn_eq_singleton plain]
  simp

section Confirmation

variable (policies : List Policy) (sha256 : String → String) (salt : String)

/-- A vote that the request records has one of the three options, and is the vote on the
confirmation shown to the session last: its policy, and the label of its option. -/
def RecordsConfirmed (gateway : Gateway) : Request → Prop
  | .expires _ => True
  | .visit sessionId phone text =>
      ∀ policyId optionId nullifier,
        (answer policies sha256 salt gateway sessionId phone text).1 =
          .recorded policyId optionId nullifier →
        ∃ option label, optionId = some option ∧ labelMap.lookup option = some label ∧
          (gateway.screens sessionId).confirmation = some (label, policyId)

/-- An option is not looked up under an inherited name. -/
def OwnOption (gateway : Gateway) : Request → Prop
  | .expires _ => True
  | .visit sessionId _ text =>
      ((gateway.stored sessionId).getD .initial).policy ≠ none →
        ((gateway.stored sessionId).getD .initial).step = 1 →
          (inputs text).getLast?.bind inherited = none

instance (gateway : Gateway) : ∀ request, Decidable (OwnOption gateway request)
  | .expires _ => isTrue trivial
  | .visit _ _ _ => inferInstanceAs (Decidable (_ → _ → _))

/-! ## Sessions that agree with their confirmation -/

/-- A session that waits for the confirmation holds the policy and the option that it has
been shown. -/
def Session.Shows (session : Session) (screen : Screen) : Prop :=
  ∀ policyId, session.policy = some policyId → session.step = 2 →
    ∃ option label, (split ':' policyId)[1]? = some option ∧
      labelMap.lookup option = some label ∧
      screen.confirmation = some (label, policyBase policyId)

/-- Every stored session holds what its screen shows. -/
def Agreed (gateway : Gateway) : Prop :=
  ∀ sessionId session, gateway.stored sessionId = some session →
    session.Shows (gateway.screens sessionId)

theorem shows_initial (screen : Screen) : Session.initial.Shows screen := by
  intro policyId selected
  cases selected

theorem agreed_initial : Agreed Gateway.initial := by
  intro sessionId session stored
  cases stored

theorem Agreed.shows {gateway : Gateway} (agreed : Agreed gateway) (sessionId : String) :
    ((gateway.stored sessionId).getD .initial).Shows (gateway.screens sessionId) := by
  cases stored : gateway.stored sessionId with
  | none => exact shows_initial _
  | some session => exact agreed sessionId session stored

variable {policies sha256 salt}

/-- What one request leaves, where the option is the session's own. -/
theorem Outcome.shows {session after : Session} {screen : Screen} {entry : Option String}
    {reply : Reply} (outcome : Outcome policies session entry reply (some after))
    (before : session.Shows screen)
    (own : session.policy ≠ none → session.step = 1 → entry.bind inherited = none) :
    after.Shows (screen.after reply) := by
  cases outcome with
  | welcome => exact before
  | page fresh => exact before
  | invalidChoice => exact before
  | options =>
      intro policyId selected waits
      cases waits
  | invalidOption => exact before
  | @confirm last policyId optionId selected waits chosen =>
      intro packed selected' _
      obtain rfl : policyBase policyId ++ ":" ++ optionId = packed :=
        Option.some.inj (Option.filter_eq_some_iff.mp selected').1
      obtain ⟨label, listed, plain⟩ :=
        label_of_property (own (by rw [selected]; simp) waits) chosen
      refine ⟨optionId, label, ?_, listed, ?_⟩
      · rw [split_packed policyId optionId plain]
        rfl
      · rw [policyBase_policyBase_append]
        show some ((property labelMap optionId).getD "undefined", _) = _
        rw [property_labelMap listed]
        rfl
  | expired => exact before

theorem agreed_next {gateway : Gateway} (agreed : Agreed gateway) {request : Request}
    (own : OwnOption gateway request) :
    Agreed ((dialogue policies sha256 salt).next gateway request) := by
  refine stored_next agreed ?_
  rintro sessionId phone text reply session rfl outcome
  exact outcome.shows (agreed.shows sessionId) own

/-! ## Recorded votes -/

theorem Outcome.records {session : Session} {entry : Option String} {reply : Reply}
    {after : Option Session} (outcome : Outcome policies session entry reply after)
    {policyId nullifier : String} {optionId : Option String}
    (answered : reply = .recorded policyId optionId nullifier) :
    ∃ packed, session.policy = some packed ∧ session.step = 2 ∧ policyBase packed = policyId ∧
      (split ':' packed)[1]? = optionId := by
  cases outcome with
  | @recorded last packed _ selected waits =>
      obtain ⟨policy, option, -⟩ := Reply.recorded.inj answered
      exact ⟨packed, selected, waits, policy, option⟩
  | refused selected waits answer => rcases answer with rfl | rfl <;> cases answered
  | _ => cases answered

theorem recordsConfirmed_of_agreed {gateway : Gateway} (agreed : Agreed gateway)
    (request : Request) : RecordsConfirmed policies sha256 salt gateway request := by
  cases request with
  | expires sessionId => trivial
  | visit sessionId phone text =>
      intro policyId optionId nullifier answered
      obtain ⟨after, outcome, -, -⟩ :=
        @next_visit policies sha256 salt gateway sessionId phone text
      obtain ⟨packed, selected, waits, rfl, rfl⟩ := outcome.records answered
      obtain ⟨option, label, unpacked, listed, shown⟩ :=
        agreed.shows sessionId packed selected waits
      exact ⟨option, label, unpacked, listed, shown⟩

/-- **What is recorded has been confirmed**, in every run that looks no option up under an
inherited name. -/
theorem records_confirmed (policies : List Policy) (sha256 : String → String) (salt : String)
    (requests : List Request)
    (own : (dialogue policies sha256 salt).Along OwnOption Gateway.initial requests) :
    (dialogue policies sha256 salt).Along (RecordsConfirmed policies sha256 salt)
      Gateway.initial requests :=
  Machine.along_of_invariant agreed_initial (fun _ _ agreed own => agreed_next agreed own)
    (fun _ request agreed _ => recordsConfirmed_of_agreed agreed request) requests own

end Confirmation

/-- A session that answers the three questions with the given option. -/
def optionRequests (option : String) : List Request :=
  ["", "1", "1*" ++ option, "1*" ++ option ++ "*1"].map (.visit "s1" "+254700000001")

theorem records_confirmed_sample :
    (dialogue policies sampleSha256 "ussd-salt-replace").Along
      (RecordsConfirmed policies sampleSha256 "ussd-salt-replace") Gateway.initial
      (optionRequests "1") :=
  records_confirmed policies sampleSha256 "ussd-salt-replace" (optionRequests "1")
    (by decide)

/-- The option `toString` is confirmed as `undefined` and recorded as the text of a
function. -/
theorem records_confirmed_counterexample :
    let gateway := (dialogue policies sampleSha256 "ussd-salt-replace").run Gateway.initial
      ((optionRequests "toString").dropLast)
    (gateway.screens "s1").confirmation = some ("undefined", "pol-001") ∧
      (answer policies sampleSha256 "ussd-salt-replace" gateway "s1" "+254700000001"
          "1*toString*1").1 =
        .recorded "pol-001" (some "function toString() \x7b [native code] \x7d")
          "0x387e419bf080601aac8a3e597f10b47a6fca66b39ecf33b95ca90d1660660b53" ∧
      ¬ RecordsConfirmed policies sampleSha256 "ussd-salt-replace" gateway
        (.visit "s1" "+254700000001" "1*toString*1") := by
  intro gateway
  have shown : (gateway.screens "s1").confirmation = some ("undefined", "pol-001") := by
    decide
  have answered : (answer policies sampleSha256 "ussd-salt-replace" gateway "s1" "+254700000001"
      "1*toString*1").1 = .recorded "pol-001" (some "function toString() \x7b [native code] \x7d")
        "0x387e419bf080601aac8a3e597f10b47a6fca66b39ecf33b95ca90d1660660b53" := by
    decide
  refine ⟨shown, answered, fun confirmed => ?_⟩
  obtain ⟨option, label, rfl', listed, -⟩ := confirmed _ _ _ answered
  obtain rfl := Option.some.inj rfl'
  have unlisted :
      labelMap.lookup "function toString() \x7b [native code] \x7d" = none := by decide
  exact absurd (listed.symm.trans unlisted) (by simp)

end TheVoteApp.USSDVoteService
