import TheVoteApp.Foundations.Locality
import TheVoteApp.RateLimit.DocumentedWindow

/-!
# One admin's requests beside another's

The admin limiter is meant to count per bearer token.  Its key is a slice of the
`Authorization` header, `slice(7, 39)`: the first 32 characters of the token.

Requests with different keys never meet in Redis, so tokens that differ within
their first 32 characters do not interfere, in whatever order the commands of
their requests are executed.  Tokens that agree on them share one key, and ten
requests of one shut the other out.  A JSON Web Token begins with its header,
which the tokens of an issuer share, and which is longer than that.

## Main definitions

* `Bears` — a request carries a token
* `without` — a run less the commands of the requests that carry a token

## Main results

* `isolated_iff` — two tokens do not interfere if and only if their first 32
  characters differ

## Design notes

`slice` counts code units.  A header value has one for each character, and there
`slice 0 32` is the first 32 characters (`slice_of_lt`).
-/

namespace TheVoteApp.RateLimitRedis

open Foundations JavaScript Redis

/-! ## Requests work at their keys -/

section Keys

variable {ι : Type} [DecidableEq ι]

/-- What Redis holds at a key, and the clock. -/
def Store.at (key : String) (redis : Store ι) : ℤ × Key ι := (redis.clock, redis.keys key)

omit [DecidableEq ι] in
theorem Store.at_store_of_ne (redis : Store ι) {key other : String} (value : Key ι)
    (ne : other ≠ key) : (redis.store key value).at other = redis.at other :=
  Prod.ext rfl (redis.keys_store_of_ne value ne)

omit [DecidableEq ι] in
theorem Store.at_store_self {redis redis' : Store ι} (key : String) (value : Key ι)
    (same : redis.at key = redis'.at key) :
    (redis.store key value).at key = (redis'.store key value).at key := by
  refine Prod.ext (Prod.ext_iff.mp same).1 ?_
  show (redis.store key value).keys key = (redis'.store key value).keys key
  rw [Store.keys_store_self, Store.keys_store_self]

omit [DecidableEq ι] in
theorem Store.found_eq_of_at {redis redis' : Store ι} {key : String}
    (same : redis.at key = redis'.at key) : redis.found key = redis'.found key := by
  obtain ⟨clock, keys⟩ := Prod.ext_iff.mp same
  change redis.clock = redis'.clock at clock
  change redis.keys key = redis'.keys key at keys
  rw [Store.found, Store.found, clock, keys]

/-- Every command of a request works at the key of the request. -/
theorem local_step (opts : Options) (req : ι → Request) :
    Pool.Local (fun i => redisKey opts (req i)) Store.at (step opts req) Store.tick where
  frame i stage redis key other := by
    cases stage with
    | arrives => rfl
    | evicts now => exact redis.at_store_of_ne _ other
    | counts now => rfl
    | records now count => exact redis.at_store_of_ne _ other
    | renews now count => exact redis.at_store_of_ne _ other
  own i stage redis redis' same := by
    have clock : redis.clock = redis'.clock := (Prod.ext_iff.mp same).1
    have found := Store.found_eq_of_at same
    cases stage with
    | arrives => exact ⟨by simp only [step, clock], same⟩
    | evicts now =>
        refine ⟨rfl, ?_⟩
        simp only [step, Store.zremrangebyscore, found]
        exact Store.at_store_self _ _ same
    | counts now => exact ⟨by simp only [step, Store.zcard, found], same⟩
    | records now count =>
        refine ⟨rfl, ?_⟩
        simp only [step, Store.zadd, found]
        exact Store.at_store_self _ _ same
    | renews now count =>
        refine ⟨rfl, ?_⟩
        simp only [step, Store.pexpire, found, clock]
        exact Store.at_store_self _ _ same
  acts ms key redis redis' same := by
    obtain ⟨clock, keys⟩ := Prod.ext_iff.mp same
    exact Prod.ext (congrArg (· + (ms : ℤ)) clock) keys

end Keys

/-! ## Tokens -/

/-- The request carries the token. -/
def Bears (token : String) (request : Request) : Prop :=
  request.headers.lookup "authorization" = some ("Bearer " ++ token)

instance decidableBears (token : String) : DecidablePred (Bears token) := fun _ =>
  inferInstanceAs (Decidable (_ = _))

/-- The move is no command of a request that carries the token. -/
def keeps {ι : Type} (token : String) (req : ι → Request) : Pool.Move ι ℕ → Bool
  | .call i => ¬ Bears token (req i)
  | .act _ => true

/-- The moves of a run, less the commands of the requests that carry the token. -/
def without {ι : Type} (token : String) (req : ι → Request) (moves : List (Pool.Move ι ℕ)) :
    List (Pool.Move ι ℕ) :=
  moves.filter (keeps token req)

section Tokens

variable (table : CaseTable)

/-- **The key of a token** is made of its first 32 characters. -/
theorem redisKey_of_bears {token : String} {request : Request} (bears : Bears token request) :
    redisKey (adminLimiter table) request =
      "rl:admin:" ++ slice 0 32 token := by
  have starts : startsWith "Bearer " ("Bearer " ++ token) = true := by
    rw [startsWith, String.toList_append]
    exact List.isPrefixOf_iff_prefix.mpr (List.prefix_append ..)
  have sliced : slice 7 39 ("Bearer " ++ token) = slice 0 32 token :=
    slice_append "Bearer " token 32
  show "rl:" ++ "admin" ++ ":" ++ adminKey table request = _
  rw [adminKey, bears, Option.getD_some, if_pos starts, sliced]
  rfl

variable {table} {A B : String}

theorem redisKey_eq_iff {a b : Request} (bearsA : Bears A a) (bearsB : Bears B b) :
    redisKey (adminLimiter table) a = redisKey (adminLimiter table) b ↔
      slice 0 32 A = slice 0 32 B := by
  rw [redisKey_of_bears table bearsA, redisKey_of_bears table bearsB, String.append_right_inj]

/-- Tokens with keys of their own do not interfere. -/
theorem decision_without {req : ℕ → Request} {i : ℕ} (bears : Bears B (req i))
    (differ : slice 0 32 A ≠ slice 0 32 B) (clock : ℤ) (moves : List (Pool.Move ℕ ℕ)) :
    decision table (adminLimiter table) req
        ((machine (adminLimiter table) req).run (start clock) (without A req moves)) i =
      decision table (adminLimiter table) req
        ((machine (adminLimiter table) req).run (start clock) moves) i := by
  have keepsHere (j : ℕ)
      (here : redisKey (adminLimiter table) (req j) = redisKey (adminLimiter table) (req i)) :
      keeps A req (.call j) = true :=
    decide_eq_true fun bearsA => differ ((redisKey_eq_iff bearsA bears).mp here)
  have alike := (local_step (adminLimiter table) req).alike_run_filter (fun _ => rfl) keepsHere
    moves (Pool.Alike.refl (start clock))
  rw [decision, decision, responseTo, responseTo, alike.calls i rfl]
  rfl

/-- An action that lets no time pass. -/
theorem run_rest {opts : Options} {req : ℕ → Request} (s : Requests ℕ) (m : ℕ) :
    (machine opts req).run s (List.replicate m (.act 0)) = s := by
  induction m with
  | zero => rfl
  | succ m ih =>
      have rested : (machine opts req).next s (.act 0) = s := by
        show (⟨⟨s.shared.clock + (0 : ℕ), s.shared.keys⟩, s.calls⟩ : Requests ℕ) = s
        rw [Nat.cast_zero, add_zero]
      rw [List.replicate_succ, Machine.run_cons, rested, ih]

/-! ## Ten requests before one -/

/-- A request with a token and nothing else. -/
def bearing (token : String) : Request := ⟨[("authorization", "Bearer " ++ token)], none⟩

/-- Ten requests of `A` before those of `B`. -/
def crowd (A B : String) (k : ℕ) : Request := if k < 10 then bearing A else bearing B

theorem bears_bearing (token : String) : Bears token (bearing token) := rfl

theorem bears_crowd_iff (distinct : A ≠ B) (k : ℕ) : Bears A (crowd A B k) ↔ k < 10 := by
  rw [crowd]
  split
  · exact iff_of_true (bears_bearing A) ‹_›
  · refine iff_of_false (fun bears => distinct ?_) ‹_›
    exact ((String.append_right_inj "Bearer ").mp (Option.some.inj bears)).symm

/-- With one key, the request of `B` finds its limit reached. -/
theorem decision_crowd (agree : slice 0 32 A = slice 0 32 B) :
    decision table (adminLimiter table) (crowd A B)
      ((machine (adminLimiter table) (crowd A B)).run (start 0) (oneByOne (fun _ => 0) 11)) 10 =
        some false := by
  rw [decision_run_oneByOne _ _ _ _ _ (Nat.lt_succ_self 10)]
  have all : (arrivals table (adminLimiter table) (crowd A B) 0 fun _ => 0).recent 10 =
      Finset.range 10 := by
    refine Finset.filter_true_of_mem fun j mem => ⟨?_, ?_⟩
    · have first : crowd A B j = bearing A := if_pos (Finset.mem_range.mp mem)
      show redisKey _ (crowd A B j) = redisKey _ (bearing B)
      rw [first, redisKey_eq_iff (bears_bearing A) (bears_bearing B)]
      exact agree
    · simp [arrivals, adminLimiter]
  have full : ¬ (arrivals table (adminLimiter table) (crowd A B) 0 fun _ => 0).UnderLimit 10 := by
    rw [Arrivals.UnderLimit, all]
    exact Nat.lt_irrefl 10
  rw [decide_eq_false full]

/-- Without `A` the request of `B` is the first one. -/
theorem decision_crowd_without (distinct : A ≠ B) :
    decision table (adminLimiter table) (crowd A B)
      ((machine (adminLimiter table) (crowd A B)).run (start 0)
        (without A (crowd A B) (oneByOne (fun _ => 0) 11))) 10 = some true := by
  have kept (move : Pool.Move ℕ ℕ) : keeps A (crowd A B) move =
      match move with
      | .call k => decide (10 ≤ k)
      | .act _ => true := by
    cases move with
    | call k => exact decide_eq_decide.mpr ((not_congr (bears_crowd_iff distinct k)).trans not_lt)
    | act _ => rfl
  have remaining : without A (crowd A B) (oneByOne (fun _ => 0) 11) =
      List.replicate 11 (.act 0) ++ List.replicate 5 (.call 10) := by
    rw [without, List.filter_congr fun move _ => kept move]
    rfl
  have nobody : (evicted (adminLimiter table) (crowd A B) 10 (Store.empty 0)).zcard
      (redisKey (adminLimiter table) (crowd A B 10)) = 0 := by
    rw [Store.zcard, SortedSet.card, entries_evicted]
    rfl
  rw [remaining, Machine.run_append, run_rest, ← run_calls_eq, run_alone rfl, decision, responseTo]
  simp only [Function.update_self, Pool.shared_launch, nobody]
  rfl

end Tokens

/-- **Two tokens do not interfere if and only if their first 32 characters
differ.**  Then, whatever other requests there are and in whatever order the
commands are executed, the decisions for one token are the same as in the run less
the other's requests. -/
theorem isolated_iff (table : CaseTable) {A B : String} (distinct : A ≠ B) :
    (∀ (req : ℕ → Request) (clock : ℤ) (moves : List (Pool.Move ℕ ℕ)) (i : ℕ), Bears B (req i) →
      decision table (adminLimiter table) req
          ((machine (adminLimiter table) req).run (start clock) (without A req moves)) i =
        decision table (adminLimiter table) req
          ((machine (adminLimiter table) req).run (start clock) moves) i) ↔
      slice 0 32 A ≠ slice 0 32 B := by
  constructor
  · intro isolated agree
    have same := isolated (crowd A B) 0 (oneByOne (fun _ => 0) 11) 10 (bears_bearing B)
    rw [decision_crowd agree, decision_crowd_without distinct] at same
    cases same
  · intro differ req clock moves i bears
    exact decision_without bears differ clock moves

/-! ## Two tokens of one issuer -/

/-- A JSON Web Token that is signed with HS256: the encoded header, and the rest. -/
def sampleToken (rest : String) : String :=
  "eyJhbGciOiJIUzI1NiIsInR5cCI6IkpXVCJ9." ++ rest

theorem isolated_iff_sample :
    (∀ (req : ℕ → Request) (clock : ℤ) (moves : List (Pool.Move ℕ ℕ)) (i : ℕ),
      Bears "b7e151628aed2a6abf7158809cf4f3c7" (req i) →
      decision CaseTable.ofAscii (adminLimiter CaseTable.ofAscii) req
          ((machine (adminLimiter CaseTable.ofAscii) req).run (start clock)
            (without "9e3779b97f4a7c15f39cc0605cedc834" req moves)) i =
        decision CaseTable.ofAscii (adminLimiter CaseTable.ofAscii) req
          ((machine (adminLimiter CaseTable.ofAscii) req).run (start clock) moves) i) ↔
      slice 0 32 "9e3779b97f4a7c15f39cc0605cedc834" ≠
        slice 0 32 "b7e151628aed2a6abf7158809cf4f3c7" :=
  isolated_iff CaseTable.ofAscii (by decide)

/-- Ten requests of one admin, and the first of the other is rejected. -/
theorem isolated_counterexample :
    let A := sampleToken "eyJzdWIiOiJhbGljZSJ9.c2lnbmVk"
    let B := sampleToken "eyJzdWIiOiJib2IifQ.c2VhbGVk"
    A ≠ B ∧
      decision CaseTable.ofAscii (adminLimiter CaseTable.ofAscii) (crowd A B)
        ((machine (adminLimiter CaseTable.ofAscii) (crowd A B)).run (start 0)
          (oneByOne (fun _ => 0) 11)) 10 = some false ∧
      decision CaseTable.ofAscii (adminLimiter CaseTable.ofAscii) (crowd A B)
        ((machine (adminLimiter CaseTable.ofAscii) (crowd A B)).run (start 0)
          (without A (crowd A B) (oneByOne (fun _ => 0) 11))) 10 = some true :=
  ⟨by decide, decision_crowd (by decide +kernel), decision_crowd_without (by decide)⟩

end TheVoteApp.RateLimitRedis
