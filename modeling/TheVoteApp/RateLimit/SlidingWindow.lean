import TheVoteApp.Foundations.OpenPool
import TheVoteApp.JavaScript.Builtins
import TheVoteApp.Redis.SortedSet

/-!
# The sliding window of a rate limiter

`rateLimitRedis.ts`.  A request reads the clock and sends four commands: evict
the entries that left the window, count the rest, record itself, and renew the
life of the key.  It is let through if the count is below its limit.

The commands of one request are executed in order, but a pipeline is no
transaction: commands of other requests run in between.  What a request counts is
what the set holds at that moment, and a request of its window that was let
through may not be there.  If a count finds all of them (`CountsAll`), it keeps the
windows within the limit (`bounded_advance_counts`); which schedules of commands see
to that is the subject of `RateLimit.InOrder`.

## Main definitions

* `Options`, `effectiveLimit`, `redisKey` — a limiter and what it reads of a
  request
* `step` — the next command of a request
* `letThrough` — the requests of a window that are let through
* `CountsAll` — a count finds all requests of its window that are let through

## Design notes

The member a request adds is its own id, which the random part of the source's
member stands for.  An instance that fails open on an error of Redis is not part
of the runs.
-/

namespace TheVoteApp.RateLimitRedis

open Foundations JavaScript Redis

/-! ## The limiter -/

/-- What the limiter reads of a request. -/
structure Request where
  headers : List (String × String)
  ip : Option String

/-- `RateLimitOptions`. -/
structure Options where
  scope : String
  windowMs : ℕ
  limit : ℕ
  keyFn : Request → String
  countryOverrides : List (String × ℕ)
  countryHeader : String

section Reading

variable (table : CaseTable)

/-- `defaultKey`: the address and the country the request names. -/
def defaultKey (req : Request) : String :=
  let ip := match (req.headers.lookup "x-forwarded-for").filter (· ≠ "") with
    | some forwarded => trim ((split ',' forwarded).headD "")
    | none => req.ip.getD "unknown"
  ip ++ ":" ++ table.toUpperCase ((req.headers.lookup "x-country-code").getD "XX")

/-- `adminKey`: the first 32 code units of the bearer token. -/
def adminKey (req : Request) : String :=
  let auth := (req.headers.lookup "authorization").getD ""
  if startsWith "Bearer " auth then slice 7 39 auth else defaultKey table req

/-- `voteLimiter`. -/
def voteLimiter : Options where
  scope := "vote"
  windowMs := 60000
  limit := 5
  keyFn := defaultKey table
  countryOverrides := [("NG", 3), ("IN", 3)]
  countryHeader := "x-country-code"

/-- `auditLimiter`. -/
def auditLimiter : Options where
  scope := "audit"
  windowMs := 60000
  limit := 60
  keyFn := defaultKey table
  countryOverrides := []
  countryHeader := "x-country-code"

/-- `adminLimiter`. -/
def adminLimiter : Options where
  scope := "admin"
  windowMs := 60000
  limit := 10
  keyFn := adminKey table
  countryOverrides := []
  countryHeader := "x-country-code"

/-- `fido2Limiter`. -/
def fido2Limiter : Options where
  scope := "fido2"
  windowMs := 60000
  limit := 30
  keyFn := defaultKey table
  countryOverrides := []
  countryHeader := "x-country-code"

variable (opts : Options)

/-- `effectiveLimit`, which may depend on the country the request names. -/
def effectiveLimit (req : Request) : ℕ :=
  let country := table.toUpperCase ((req.headers.lookup opts.countryHeader).getD "")
  (opts.countryOverrides.lookup country).getD opts.limit

/-- The key of the sorted set. -/
def redisKey (req : Request) : String := "rl:" ++ opts.scope ++ ":" ++ opts.keyFn req

end Reading

/-! ## The store -/

/-- A sorted set and the time after which it is gone. -/
structure Key (ι : Type) where
  set : SortedSet ι
  deadline : Option ℤ

/-- The clock and the keys. -/
structure Store (ι : Type) where
  clock : ℤ
  keys : String → Key ι

namespace Store

variable {ι : Type} [DecidableEq ι] (redis : Store ι) (key : String)

/-- No keys, at some time. -/
def empty (clock : ℤ) : Store ι := ⟨clock, fun _ => ⟨SortedSet.empty, none⟩⟩

/-- A key as a command finds it: past its deadline it does not exist. -/
def found : Key ι :=
  if (redis.keys key).deadline.any (· < redis.clock) then ⟨SortedSet.empty, none⟩
  else redis.keys key

/-- Storing a key; one without members does not exist. -/
def store (value : Key ι) : Store ι :=
  let kept := if value.set.entries = [] then ⟨SortedSet.empty, none⟩ else value
  { redis with keys := Function.update redis.keys key kept }

/-- `ZREMRANGEBYSCORE key -inf max`. -/
def zremrangebyscore (max : ℤ) : Store ι :=
  redis.store key { redis.found key with set := (redis.found key).set.removeUpTo max }

/-- `ZCARD`. -/
def zcard : ℕ := (redis.found key).set.card

/-- `ZADD`. -/
def zadd (score : ℤ) (member : ι) : Store ι :=
  redis.store key { redis.found key with set := (redis.found key).set.add score member }

/-- `PEXPIRE`, which deletes the key at once when `ms` is zero. -/
def pexpire (ms : ℕ) : Store ι :=
  redis.store key
    (if ms = 0 then ⟨SortedSet.empty, none⟩
    else { redis.found key with deadline := some (redis.clock + ms) })

/-- Time passes. -/
def tick (ms : ℕ) (redis : Store ι) : Store ι := { redis with clock := redis.clock + ms }

omit [DecidableEq ι]

theorem found_eq_or :
    redis.found key = redis.keys key ∨
      redis.found key = ⟨SortedSet.empty, none⟩ ∧
        ∃ deadline ∈ (redis.keys key).deadline, deadline < redis.clock := by
  rw [found]
  split
  · rename_i past
    obtain ⟨deadline, set, lt⟩ := (Option.any_eq_true _ _).mp past
    exact Or.inr ⟨rfl, deadline, set, of_decide_eq_true lt⟩
  · exact Or.inl rfl

/-- What a command finds is not past its deadline. -/
theorem deadline_found :
    (redis.found key).deadline.any (· < redis.clock) = false := by
  rw [found]
  split
  · rfl
  · rename_i alive
    exact Bool.eq_false_iff.mpr alive

@[simp] theorem clock_store (value : Key ι) :
    (redis.store key value).clock = redis.clock := rfl

theorem keys_store_of_ne {key other : String} (value : Key ι)
    (ne : other ≠ key) : (redis.store key value).keys other = redis.keys other :=
  Function.update_of_ne ne ..

theorem keys_store_self (value : Key ι) :
    (redis.store key value).keys key =
      if value.set.entries = [] then ⟨SortedSet.empty, none⟩ else value := Function.update_self ..

/-- What is stored with a deadline to come is found again. -/
theorem found_store {value : Key ι}
    (alive : value.deadline.any (· < redis.clock) = false) :
    (redis.store key value).found key = (redis.store key value).keys key := by
  rw [found, if_neg]
  rw [keys_store_self, clock_store]
  split
  · exact Bool.false_ne_true
  · rw [alive]
    exact Bool.false_ne_true

theorem entries_store (value : Key ι) :
    ((redis.store key value).keys key).set.entries = value.set.entries := by
  rw [keys_store_self]
  split
  · rename_i none
    exact none.symm
  · rfl

theorem mem_deadline_store (value : Key ι) {deadline : ℤ}
    (set : deadline ∈ ((redis.store key value).keys key).deadline) :
    deadline ∈ value.deadline := by
  rw [keys_store_self] at set
  split at set
  · cases set
  · exact set

end Store

/-! ## The middleware -/

/-- Where a request stands: the command that is next, with the timestamp and the
count that are known. -/
inductive Stage where
  | arrives
  | evicts (now : ℤ)
  | counts (now : ℤ)
  | records (now : ℤ) (count : ℕ)
  | renews (now : ℤ) (count : ℕ)
deriving DecidableEq

/-- The timestamp and the count a request is answered by. -/
structure Counted where
  now : ℤ
  count : ℕ
deriving DecidableEq

/-- The headers, and whether the request goes on to the handler. -/
structure Response where
  limit : ℕ
  remaining : ℕ
  reset : ℕ
  next : Bool
deriving DecidableEq

section Middleware

variable {ι : Type} [DecidableEq ι] (table : CaseTable) (opts : Options) (req : ι → Request)

/-- The response after `pipeline.exec`. -/
def respond (i : ι) (counted : Counted) : Response where
  limit := effectiveLimit table opts (req i)
  remaining := effectiveLimit table opts (req i) - counted.count - 1
  reset := (opts.windowMs + 999) / 1000
  next := ¬ counted.count ≥ effectiveLimit table opts (req i)

/-- The next command of request `i`. -/
def step (i : ι) : Stage → Store ι → (Stage ⊕ Counted) × Store ι
  | .arrives, redis => (.inl (.evicts redis.clock), redis)
  | .evicts now, redis =>
      let windowStart := now - opts.windowMs
      (.inl (.counts now), redis.zremrangebyscore (redisKey opts (req i)) windowStart)
  | .counts now, redis => (.inl (.records now (redis.zcard (redisKey opts (req i)))), redis)
  | .records now count, redis =>
      (.inl (.renews now count), redis.zadd (redisKey opts (req i)) now i)
  | .renews now count, redis =>
      (.inr ⟨now, count⟩, redis.pexpire (redisKey opts (req i)) opts.windowMs)

/-- What a request is answered by, once it has counted. -/
def counted : Stage ⊕ Counted → Option Counted
  | .inl (.records now count) => some ⟨now, count⟩
  | .inl (.renews now count) => some ⟨now, count⟩
  | .inl _ => none
  | .inr counted => some counted

/-- The timestamp of a request that counts next. -/
def awaitsCount : Stage ⊕ Counted → Option ℤ
  | .inl (.counts now) => some now
  | _ => none

/-- Requests in progress on every instance of the backend. -/
abbrev Requests (ι : Type) := Pool ι Stage (Store ι) Counted

/-- Requests and the clock. -/
abbrev machine : Machine (Requests ι) (Pool.Move ι ℕ) (ι × Counted) Unit :=
  Pool.openMachine (step opts req) Store.tick

/-- No request has arrived yet. -/
abbrev start (clock : ℤ) : Requests ι := Pool.launch (fun _ => .arrives) (Store.empty clock)

/-! ## Windows -/

/-- The request is let through with a timestamp that meets `within`. -/
def LetThrough (within : ℤ → Prop) (s : Requests ι) (i : ι) : Prop :=
  ∃ answer ∈ counted (s.calls i),
    answer.count < effectiveLimit table opts (req i) ∧ within answer.now

instance decidableLetThrough (within : ℤ → Prop) [DecidablePred within] (s : Requests ι) (i : ι) :
    Decidable (LetThrough table opts req within s i) :=
  inferInstanceAs (Decidable (∃ answer ∈ counted (s.calls i), _ ∧ _))

variable [Fintype ι]

/-- The requests of a key, held to a limit of at most `limit`, that are let
through with a timestamp after `t - windowMs` and up to `t`. -/
def letThrough (key : String) (limit : ℕ) (t : ℤ) (s : Requests ι) : Finset ι :=
  {i | redisKey opts (req i) = key ∧ effectiveLimit table opts (req i) ≤ limit ∧
    LetThrough table opts req (fun now => t - opts.windowMs < now ∧ now ≤ t) s i}

/-- The requests of the same key that are let through less than a window away
from `now` are in the set. -/
def CountsAll (s : Requests ι) (i : ι) (now : ℤ) : Prop :=
  ∀ j, redisKey opts (req j) = redisKey opts (req i) →
    LetThrough table opts req (fun now' => |now' - now| < opts.windowMs) s j →
      j ∈ (s.shared.found (redisKey opts (req i))).set.members

end Middleware

/-! ## What one command does to the windows -/

section Windows

variable {ι : Type} [DecidableEq ι] {table : CaseTable} {opts : Options} {req : ι → Request}
  {s : Requests ι} {i : ι} {stage : Stage}

/-- Only a count decides. -/
theorem counted_step (undecided : ∀ now, stage ≠ .counts now) :
    counted (step opts req i stage s.shared).1 = counted (.inl stage) := by
  cases stage with
  | counts now => exact absurd rfl (undecided now)
  | _ => rfl

/-- Who else is let through does not depend on the command of a request. -/
theorem letThrough_advance_iff_of_ne {within : ℤ → Prop} {j : ι} (other : j ≠ i) :
    LetThrough table opts req within (Pool.advance (step opts req) s i stage) j ↔
      LetThrough table opts req within s j := by
  rw [LetThrough, Pool.calls_advance_of_ne other, LetThrough]

theorem letThrough_advance_iff {within : ℤ → Prop} (left : s.calls i = .inl stage)
    (undecided : ∀ now, stage ≠ .counts now) (j : ι) :
    LetThrough table opts req within (Pool.advance (step opts req) s i stage) j ↔
      LetThrough table opts req within s j := by
  by_cases same : j = i
  · subst same
    rw [LetThrough, Pool.calls_advance_self, counted_step undecided, ← left, LetThrough]
  · exact letThrough_advance_iff_of_ne same

theorem letThrough_advance_counts_iff {within : ℤ → Prop} {now : ℤ} :
    LetThrough table opts req within (Pool.advance (step opts req) s i (.counts now)) i ↔
      s.shared.zcard (redisKey opts (req i)) < effectiveLimit table opts (req i) ∧ within now := by
  rw [LetThrough, Pool.calls_advance_self]
  simp [step, counted]

variable [Fintype ι]

/-- **A count.**  The others of its windows are in the set. -/
theorem letThrough_advance_counts_subset {key : String} {limit : ℕ} {t now : ℤ}
    (all : CountsAll table opts req s i now)
    (mem : i ∈ letThrough table opts req key limit t
      (Pool.advance (step opts req) s i (.counts now))) :
    letThrough table opts req key limit t (Pool.advance (step opts req) s i (.counts now)) ⊆
      insert i (s.shared.found (redisKey opts (req i))).set.members := by
  rw [letThrough, Finset.mem_filter_univ, letThrough_advance_counts_iff] at mem
  obtain ⟨ownKey, -, -, after, upTo⟩ := mem
  intro j memJ
  rw [letThrough, Finset.mem_filter_univ] at memJ
  obtain ⟨sameKey, -, through⟩ := memJ
  by_cases same : j = i
  · exact same ▸ Finset.mem_insert_self _ _
  · obtain ⟨answer, known, below, after', upTo'⟩ :=
      (letThrough_advance_iff_of_ne same).mp through
    exact Finset.mem_insert_of_mem (all j (sameKey.trans ownKey.symm)
      ⟨answer, known, below, abs_lt.mpr ⟨by omega, by omega⟩⟩)

/-- Every window holds at most its limit. -/
def Bounded (table : CaseTable) (opts : Options) (req : ι → Request) (s : Requests ι) : Prop :=
  ∀ key limit t, (letThrough table opts req key limit t s).card ≤ limit

/-- A count that finds all keeps the windows bounded. -/
theorem bounded_advance_counts (bounded : Bounded table opts req s) {now : ℤ}
    (all : CountsAll table opts req s i now) :
    Bounded table opts req (Pool.advance (step opts req) s i (.counts now)) := by
  intro key limit t
  by_cases mem : i ∈ letThrough table opts req key limit t
      (Pool.advance (step opts req) s i (.counts now))
  · have covered := Finset.card_le_card (letThrough_advance_counts_subset all mem)
    have inserted := Finset.card_insert_le i
      (s.shared.found (redisKey opts (req i))).set.members
    rw [SortedSet.card_members] at inserted
    rw [letThrough, Finset.mem_filter_univ, letThrough_advance_counts_iff] at mem
    obtain ⟨-, held, below, -⟩ := mem
    rw [Store.zcard] at below
    omega
  · refine (Finset.card_le_card fun j memJ => ?_).trans (bounded key limit t)
    have other : j ≠ i := fun same => mem (same ▸ memJ)
    rw [letThrough, Finset.mem_filter_univ] at memJ ⊢
    exact memJ.imp_right fun rest => rest.imp_right (letThrough_advance_iff_of_ne other).mp

theorem bounded_advance (bounded : Bounded table opts req s) (left : s.calls i = .inl stage)
    (undecided : ∀ now, stage ≠ .counts now) :
    Bounded table opts req (Pool.advance (step opts req) s i stage) := by
  intro key limit t
  have same : letThrough table opts req key limit t (Pool.advance (step opts req) s i stage) =
      letThrough table opts req key limit t s := by
    ext j
    simp only [letThrough, Finset.mem_filter_univ, letThrough_advance_iff left undecided j]
  rw [same]
  exact bounded key limit t

omit [DecidableEq ι] in
theorem bounded_start (clock : ℤ) : Bounded table opts req (start clock) := by
  intro key limit t
  have none : letThrough table opts req key limit t (start clock) = ∅ := by
    refine Finset.filter_eq_empty_iff.mpr ?_
    rintro i - ⟨-, -, answer, known, -⟩
    cases known
  simp [none]

end Windows

end TheVoteApp.RateLimitRedis
