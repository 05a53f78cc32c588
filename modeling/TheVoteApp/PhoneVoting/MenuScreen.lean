import TheVoteApp.PhoneVoting.Screens

/-!
# Choosing from the page on the screen

A number typed at a page of policies is read against the page the stored session stands
on.  That is the page on the screen, except where the welcome screen shows the first page
and leaves the session on another, and where the session was lost or closed and starts
again at the first page.  A page shows three policies, and a number is not compared with
three: it reaches on into the list, and below one it reaches back.

Where a run does none of this, whatever a request selects stands on the page last shown,
at the number typed (`selects_shown`).

## Main definitions

* `SelectsShown` — a selected policy is on the page, at the number of the entry
* `InStep` — the request does not move the session and the screen apart, and a number
  that selects is one of the page's
-/

namespace TheVoteApp.USSDVoteService

open Foundations JavaScript Redis

section Selection

variable (policies : List Policy) (sha256 : String → String) (salt : String)

/-- A policy that the request selects stands on the page shown to the session last, at the
number of the last input. -/
def SelectsShown (gateway : Gateway) : Request → Prop
  | .expires _ => True
  | .visit sessionId phone text =>
      ∀ policy, (answer policies sha256 salt gateway sessionId phone text).1 = .options policy →
        ∃ last page, ∃ number : ℕ, (inputs text).getLast? = some last ∧
          parseInt last = some (number : ℤ) ∧ (gateway.screens sessionId).page = some page ∧
          (policy, number) ∈ pageAt policies page

/-- What the last input of a session without a policy must be.  An empty text finds the
session on the first page.  A number that selects is between one and three, and finds a
stored session or the first page on the screen. -/
def EntryInStep (stored : Option Session) (screen : Screen) : Option String → Prop
  | none => (stored.getD .initial).policyIndex = 0
  | some last =>
      last = "#" ∨ last = "0" ∨ choice policies (stored.getD .initial).policyIndex last = none ∨
        ((parseInt last).all fun number => 1 ≤ number ∧ number ≤ 3) = true ∧
          (stored = none → screen.page = some 0)

instance (stored : Option Session) (screen : Screen) :
    ∀ entry, Decidable (EntryInStep policies stored screen entry)
  | none => inferInstanceAs (Decidable (_ = _))
  | some _ => inferInstanceAs (Decidable (_ ∨ _ ∨ _ ∨ _ ∧ (_ → _)))

/-- A request that keeps its session in step with its screen. -/
def InStep (gateway : Gateway) : Request → Prop
  | .expires _ => True
  | .visit sessionId _ text =>
      ((gateway.stored sessionId).getD .initial).policy = none →
        EntryInStep policies (gateway.stored sessionId) (gateway.screens sessionId)
          (inputs text).getLast?

instance (gateway : Gateway) : ∀ request, Decidable (InStep policies gateway request)
  | .expires _ => isTrue trivial
  | .visit _ _ _ => inferInstanceAs (Decidable (_ → _))

/-! ## Sessions in step with their screens -/

/-- A stored session without a policy stands on the page shown last. -/
def Synced (gateway : Gateway) : Prop :=
  ∀ sessionId session, gateway.stored sessionId = some session → session.policy = none →
    (gateway.screens sessionId).page = some session.policyIndex

theorem synced_initial : Synced Gateway.initial := by
  intro sessionId session stored
  cases stored

variable {policies sha256 salt}

/-- A request in step that selects finds the page of its session on the screen, and its
number is one of that page. -/
theorem page_of_selects {gateway : Gateway} (synced : Synced gateway)
    {sessionId phone text : String} (inStep : InStep policies gateway (.visit sessionId phone text))
    {last : String} (input : (inputs text).getLast? = some last) (goesOn : last ≠ "#")
    (selects : last ≠ "0") (fresh : ((gateway.stored sessionId).getD .initial).policy = none)
    {policy : Policy}
    (chosen : choice policies ((gateway.stored sessionId).getD .initial).policyIndex last =
      some policy) :
    ((parseInt last).all fun number => 1 ≤ number ∧ number ≤ 3) = true ∧
      (gateway.screens sessionId).page =
        some ((gateway.stored sessionId).getD .initial).policyIndex := by
  have met := inStep fresh
  rw [input] at met
  simp only [EntryInStep, goesOn, selects, chosen, false_or, reduceCtorEq] at met
  refine ⟨met.1, ?_⟩
  cases stored : gateway.stored sessionId with
  | none => exact met.2 stored
  | some session =>
      rw [stored] at fresh
      exact synced sessionId session stored fresh

/-- A request in step leaves its own session on the page that is shown last. -/
theorem page_eq_of_outcome {gateway : Gateway} (synced : Synced gateway)
    {sessionId phone text : String} (inStep : InStep policies gateway (.visit sessionId phone text))
    {reply : Reply} {session : Session}
    (outcome : Outcome policies ((gateway.stored sessionId).getD .initial)
      (inputs text).getLast? reply (some session)) (fresh : session.policy = none) :
    ((gateway.screens sessionId).after reply).page = some session.policyIndex := by
  generalize input : (inputs text).getLast? = entry at outcome
  cases outcome with
  | welcome =>
      have first : _ = 0 := input ▸ inStep fresh
      rw [first]
      rfl
  | page => rfl
  | invalidChoice => rfl
  | options goesOn selects before chosen =>
      exact (page_of_selects synced inStep input goesOn selects before chosen).2
  | invalidOption selected =>
      rw [fresh] at selected
      cases selected
  | confirm =>
      simp [Session.policy] at fresh
  | expired selected =>
      rw [fresh] at selected
      cases selected

theorem synced_next {gateway : Gateway} (synced : Synced gateway) {request : Request}
    (inStep : InStep policies gateway request) :
    Synced ((dialogue policies sha256 salt).next gateway request) := by
  refine @stored_next policies sha256 salt
    (fun session screen => session.policy = none → screen.page = some session.policyIndex)
    gateway request synced ?_
  rintro sessionId phone text reply session rfl outcome fresh
  exact page_eq_of_outcome synced inStep outcome fresh

/-! ## Selections -/

/-- The reply with the options comes from a selection. -/
theorem Outcome.selects {session : Session} {entry : Option String} {reply : Reply}
    {after : Option Session} (outcome : Outcome policies session entry reply after)
    {policy : Policy} (answered : reply = .options policy) :
    ∃ last, entry = some last ∧ last ≠ "#" ∧ last ≠ "0" ∧ session.policy = none ∧
      choice policies session.policyIndex last = some policy ∧
      after = some { session with policyId := some policy.id, step := 1 } := by
  cases outcome with
  | @options last chosen goesOn selects fresh choice =>
      obtain rfl : chosen = policy := Reply.options.inj answered
      exact ⟨last, rfl, goesOn, selects, fresh, choice, rfl⟩
  | refused selected waits answer => rcases answer with rfl | rfl <;> cases answered
  | _ => cases answered

/-- A request selects exactly where it moves a session without a policy to the first
step, with the policy's id. -/
theorem stored_of_selects {gateway : Gateway} {sessionId phone text : String} {policy : Policy}
    (answered : (answer policies sha256 salt gateway sessionId phone text).1 = .options policy) :
    ((dialogue policies sha256 salt).next gateway (.visit sessionId phone text)).stored sessionId =
      some { (gateway.stored sessionId).getD .initial with
        policyId := some policy.id, step := 1 } := by
  obtain ⟨after, outcome, sessions, -⟩ :=
    @next_visit policies sha256 salt gateway sessionId phone text
  obtain ⟨last, -, -, -, -, -, moved⟩ := outcome.selects answered
  rw [sessions, Function.update_self, moved]

/-- The number of a selection, read from the page that the session stands on. -/
theorem pageAt_of_choice {last : String} {policyIndex : ℕ} {policy : Policy}
    (chosen : choice policies policyIndex last = some policy)
    (inRange : ((parseInt last).all fun number => 1 ≤ number ∧ number ≤ 3) = true) :
    ∃ number : ℕ, parseInt last = some (number : ℤ) ∧
      (policy, number) ∈ pageAt policies policyIndex := by
  obtain ⟨number, read, -, listed⟩ := choice_eq_some_iff.mp chosen
  rw [read] at inRange ⊢
  obtain ⟨first, last⟩ : 1 ≤ number ∧ number ≤ 3 := by simpa using inRange
  have index : (number - 1 + policyIndex).toNat = policyIndex + (number.toNat - 1) := by omega
  rw [index] at listed
  refine ⟨number.toNat, ?_, mem_pageAt_iff.mpr ⟨by omega, by omega, listed⟩⟩
  rw [Int.toNat_of_nonneg (by omega)]

theorem selectsShown_of_inStep {gateway : Gateway} (synced : Synced gateway) {request : Request}
    (inStep : InStep policies gateway request) :
    SelectsShown policies sha256 salt gateway request := by
  cases request with
  | expires sessionId => trivial
  | visit sessionId phone text =>
      intro policy answered
      obtain ⟨after, outcome, -, -⟩ :=
        @next_visit policies sha256 salt gateway sessionId phone text
      obtain ⟨last, input, goesOn, selects, fresh, chosen, -⟩ := outcome.selects answered
      obtain ⟨inRange, page⟩ := page_of_selects synced inStep input goesOn selects fresh chosen
      obtain ⟨number, read, listed⟩ := pageAt_of_choice chosen inRange
      exact ⟨last, _, number, input, read, page, listed⟩

/-- **What a request selects stands on the screen**, in every run whose requests keep
their sessions in step. -/
theorem selects_shown (policies : List Policy) (sha256 : String → String) (salt : String)
    (requests : List Request)
    (inStep : (dialogue policies sha256 salt).Along (InStep policies) Gateway.initial requests) :
    (dialogue policies sha256 salt).Along (SelectsShown policies sha256 salt) Gateway.initial
      requests :=
  Machine.along_of_invariant (synced_initial) (fun _ _ synced inStep => synced_next synced inStep)
    (fun _ _ synced inStep => selectsShown_of_inStep synced inStep) requests inStep

/-- The condition is exact where no policy is listed twice: what a request selects stands
on the screen only if the session is on that page and the number is one of its three. -/
theorem selectsShown_iff (distinct : policies.Nodup) {gateway : Gateway}
    {sessionId phone text : String} {policy : Policy}
    (answered : (answer policies sha256 salt gateway sessionId phone text).1 = .options policy) :
    SelectsShown policies sha256 salt gateway (.visit sessionId phone text) ↔
      (((inputs text).getLast?.bind parseInt).all fun number => 1 ≤ number ∧ number ≤ 3) = true ∧
        (gateway.screens sessionId).page =
          some ((gateway.stored sessionId).getD .initial).policyIndex := by
  obtain ⟨after, outcome, -, -⟩ := @next_visit policies sha256 salt gateway sessionId phone text
  obtain ⟨last, input, -, -, -, chosen, -⟩ := outcome.selects answered
  rw [input, Option.bind_some]
  constructor
  · intro shown
    obtain ⟨last', page, number, input', read, onScreen, listed⟩ := shown policy answered
    obtain rfl : last = last' := Option.some.inj (input.symm.trans input')
    obtain ⟨first, bound, there⟩ := mem_pageAt_iff.mp listed
    obtain ⟨number', read', nonneg, here⟩ := choice_eq_some_iff.mp chosen
    obtain rfl : (number : ℤ) = number' := Option.some.inj (read.symm.trans read')
    -- the same policy, so the same place in the list
    have place := (List.getElem?_inj (List.getElem?_eq_some_iff.mp there).1 distinct).mp
      (there.trans here.symm)
    have page : page = ((gateway.stored sessionId).getD .initial).policyIndex := by omega
    rw [read, onScreen, page]
    exact ⟨by simp; omega, rfl⟩
  · rintro ⟨inRange, page⟩ policy' answered'
    obtain rfl : policy = policy' := Reply.options.inj (answered.symm.trans answered')
    obtain ⟨number, read, listed⟩ := pageAt_of_choice chosen inRange
    exact ⟨last, _, number, input, read, page, listed⟩

end Selection

/-- A session that turns the page once and picks the second policy there. -/
def pagedRequests : List Request :=
  ["", "0", "0*2"].map (.visit "s1" "+254700000001")

theorem selects_shown_sample :
    (dialogue policies sampleSha256 "ussd-salt-replace").Along
      (SelectsShown policies sampleSha256 "ussd-salt-replace") Gateway.initial pagedRequests :=
  selects_shown policies sampleSha256 "ussd-salt-replace" pagedRequests (by decide)

/-- A session that turns the page, returns to the welcome screen and picks the first policy
there. -/
def returningRequests : List Request :=
  ["", "0", ""].map (.visit "s1" "+254700000001")

/-- The welcome screen shows the first page, and its first number selects the fourth
policy. -/
theorem selects_shown_counterexample :
    let gateway := (dialogue policies sampleSha256 "ussd-salt-replace").run Gateway.initial
      returningRequests
    (gateway.screens "s1").page = some 0 ∧
      (answer policies sampleSha256 "ussd-salt-replace" gateway "s1" "+254700000001" "1").1 =
        .options ⟨"pol-004", "Education Voucher Scheme"⟩ ∧
      ¬ SelectsShown policies sampleSha256 "ussd-salt-replace" gateway
        (.visit "s1" "+254700000001" "1") := by
  intro gateway
  have page : (gateway.screens "s1").page = some 0 := by decide
  have answered : (answer policies sampleSha256 "ussd-salt-replace" gateway "s1"
      "+254700000001" "1").1 = .options ⟨"pol-004", "Education Voucher Scheme"⟩ := by
    decide
  refine ⟨page, answered, fun shown => ?_⟩
  obtain ⟨-, stands⟩ := (selectsShown_iff (by decide) answered).mp shown
  have index : ((gateway.stored "s1").getD .initial).policyIndex = 3 := by decide
  rw [page, index] at stands
  cases stands

end TheVoteApp.USSDVoteService
