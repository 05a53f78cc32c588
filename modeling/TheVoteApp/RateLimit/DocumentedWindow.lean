import TheVoteApp.RateLimit.Sequential

/-!
# The documented window

The header of `rateLimitRedis.ts` adds a request to the window only if it is not
rejected.  The middleware adds every request: the pipeline records it before the
count is compared with the limit.  A client that keeps asking while it is over its
limit thus fills its own window with rejected requests, and stays out for as long
as it keeps asking.

The two agree on the runs in which a rejection is always due to requests that
were under their limit themselves.

## Main definitions

* `decision` — whether a request goes on to the handler
* `documented` — the decision by the requests that were let through

## Main results

* `decision_eq_documented_iff` — when the decisions are the documented ones
* `decision_eq_documented_counterexample` — three requests that are let through,
  three that are rejected, and one that should not be
-/

namespace TheVoteApp.RateLimitRedis

open Foundations JavaScript Redis

/-- Whether a request that has counted goes on to the handler. -/
def decision {ι : Type} (table : CaseTable) (opts : Options) (req : ι → Request)
    (s : Requests ι) (i : ι) : Option Bool :=
  (responseTo table opts req s i).map Response.next

section Documented

variable (table : CaseTable) (opts : Options) (req : ℕ → Request) (clock : ℤ) (gap : ℕ → ℕ)

/-- The documented algorithm: a request is rejected if its limit of requests of
the key were let through less than a window ago. -/
def documented (k : ℕ) : Bool := (arrivals table opts req clock gap).Admits k

theorem decision_run_oneByOne {n k : ℕ} (small : k < n) :
    decision table opts req ((machine opts req).run (start clock) (oneByOne gap n)) k =
      some (decide ((arrivals table opts req clock gap).UnderLimit k)) := by
  rw [decision, ← run_machineWith_true, responseTo_run_oneByOne table opts req clock true _ small,
    Option.map_some]
  simp only [respond, ge_iff_le, not_le]
  rfl

/-- **When the decisions are the documented ones**: whenever a request has its
limit of recent requests, it has its limit of recent requests that were under
their own limit. -/
theorem decision_eq_documented_iff (n : ℕ) :
    let arrivals := arrivals table opts req clock gap
    (∀ k < n,
      decision table opts req ((machine opts req).run (start clock) (oneByOne gap n)) k =
        some (documented table opts req clock gap k)) ↔
      ∀ k < n, arrivals.limit k ≤ (arrivals.recent k).card →
        arrivals.limit k ≤ {j ∈ arrivals.recent k |
          (arrivals.recent j).card < arrivals.limit j}.card := by
  intro arrivals
  refine Iff.trans ?_ (arrivals.underLimit_iff_admits_iff n)
  refine forall_congr' fun k => forall_congr' fun small => ?_
  rw [decision_run_oneByOne table opts req clock gap small, documented, Option.some.injEq,
    decide_eq_decide]

end Documented

/-! ## Votes that keep coming -/

/-- Votes of one client, from a country with a limit of three. -/
def impatient (_ : ℕ) : Request where
  headers := [("x-country-code", "NG")]
  ip := some "197.210.0.1"

/-- Three at once, three a millisecond later, and one a minute after the first. -/
def impatientGaps (k : ℕ) : ℕ := [0, 0, 0, 1, 0, 0, 59999].getD k 0

/-- The seventh is rejected for the three that were rejected before it. -/
theorem decision_eq_documented_counterexample :
    decision CaseTable.ofAscii (voteLimiter CaseTable.ofAscii) impatient
        ((machine (voteLimiter CaseTable.ofAscii) impatient).run (start 0)
          (oneByOne impatientGaps 7)) 6 = some false ∧
      documented CaseTable.ofAscii (voteLimiter CaseTable.ofAscii) impatient 0 impatientGaps 6 =
        true := by
  decide +kernel

end TheVoteApp.RateLimitRedis
