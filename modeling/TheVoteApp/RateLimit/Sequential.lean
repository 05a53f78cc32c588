import TheVoteApp.Foundations.Arrivals
import TheVoteApp.RateLimit.SlidingWindow

/-!
# Requests executed one at a time

Between the requests time passes; the commands of one request follow each other
at the instant its timestamp is read.  Such a request counts the earlier requests
of its key with a timestamp less than a window before its own, rejected ones
included: the middleware records a request before it decides.

`PEXPIRE` makes no difference to that.  A deadline lies a window after the last
request of the key, so by the time the key is gone every member of it has left
the window.

## Main definitions

* `Store.pass` — time passes, and a key goes with its deadline or after it
* `stepWith` — a command, where `PEXPIRE` may be without effect
* `oneByOne` — the moves of requests executed one at a time
* `arrivals` — the requests with their timestamps, keys and limits

## Main results

* `calls_run_oneByOne` — the timestamp and the count of every request
* `expiry_unobservable` — the responses do not depend on `PEXPIRE`, and no window
  exceeds the largest limit

## Design notes

The requests are numbered in the order they are executed, and `gap k` is the time
between request `k` and the one before it.
-/

namespace TheVoteApp.RateLimitRedis

open Foundations JavaScript Redis

/-! ## Keys that expire -/

section Gone

variable {ι : Type} {key key' : Key ι} {reason : Prop}

theorem Key.mem_of_gone_or (fate : key' = key ∨ key' = ⟨SortedSet.empty, none⟩ ∧ reason)
    {entry : ι × ℤ} (mem : entry ∈ key'.set.entries) : entry ∈ key.set.entries := by
  rcases fate with same | ⟨gone, -⟩
  · exact same ▸ mem
  · rw [gone] at mem
    cases mem

theorem Key.deadline_of_gone_or (fate : key' = key ∨ key' = ⟨SortedSet.empty, none⟩ ∧ reason)
    {deadline : ℤ} (set : deadline ∈ key'.deadline) : deadline ∈ key.deadline := by
  rcases fate with same | ⟨gone, -⟩
  · exact same ▸ set
  · rw [gone] at set
    cases set

end Gone

namespace Store

variable {ι : Type}

/-- The keys whose deadline has come are gone. -/
def lapse (redis : Store ι) : Store ι :=
  { redis with
    keys := fun key =>
      if (redis.keys key).deadline.any (· ≤ redis.clock) then ⟨SortedSet.empty, none⟩
      else redis.keys key }

/-- Time passes.  A key is found gone after its deadline, and with its deadline if
the spell ends in a deletion. -/
def pass (spell : ℕ × Bool) (redis : Store ι) : Store ι :=
  if spell.2 then (redis.tick spell.1).lapse else redis.tick spell.1

theorem clock_pass (spell : ℕ × Bool) (redis : Store ι) :
    (redis.pass spell).clock = redis.clock + spell.1 := by
  rw [pass]
  split <;> rfl

/-- A key is as it was, or its deadline has come. -/
theorem keys_pass (spell : ℕ × Bool) (redis : Store ι) (key : String) :
    (redis.pass spell).keys key = redis.keys key ∨
      (redis.pass spell).keys key = ⟨SortedSet.empty, none⟩ ∧
        ∃ deadline ∈ (redis.keys key).deadline, deadline ≤ redis.clock + spell.1 := by
  rw [pass]
  split
  · show (if _ then _ else _) = _ ∨ (if _ then _ else _) = _ ∧ _
    split
    · rename_i come
      obtain ⟨deadline, set, le⟩ := (Option.any_eq_true _ _).mp come
      exact Or.inr ⟨rfl, deadline, set, of_decide_eq_true le⟩
    · exact Or.inl rfl
  · exact Or.inl rfl

end Store

/-! ## One request alone -/

section Alone

variable {ι : Type} [DecidableEq ι] (opts : Options) (req : ι → Request) (expires : Bool)

/-- The next command of request `i`, where `PEXPIRE` may be without effect. -/
def stepWith (i : ι) : Stage → Store ι → (Stage ⊕ Counted) × Store ι
  | .renews now count, redis =>
      (.inr ⟨now, count⟩,
        if expires then redis.pexpire (redisKey opts (req i)) opts.windowMs else redis)
  | stage, redis => step opts req i stage redis

/-- Requests, and time that passes. -/
abbrev machineWith : Machine (Requests ι) (Pool.Move ι (ℕ × Bool)) (ι × Counted) Unit :=
  Pool.openMachine (stepWith opts req expires) Store.pass

theorem stepWith_true : stepWith opts req true = step opts req := by
  funext i stage redis
  cases stage <;> rfl

/-- The store after the entries out of the window are evicted. -/
def evicted (i : ι) (redis : Store ι) : Store ι :=
  redis.zremrangebyscore (redisKey opts (req i)) (redis.clock - opts.windowMs)

/-- The store after the request is recorded. -/
def recorded (i : ι) (redis : Store ι) : Store ι :=
  (evicted opts req i redis).zadd (redisKey opts (req i)) redis.clock i

/-- The store after all the commands of a request. -/
def served (i : ι) (redis : Store ι) : Store ι :=
  if expires then (recorded opts req i redis).pexpire (redisKey opts (req i)) opts.windowMs
  else recorded opts req i redis

variable {opts req expires}

/-- **A request alone** is answered by the count after the eviction. -/
theorem run_alone {s : Requests ι} {i : ι} (arrived : s.calls i = .inl .arrives) :
    (machineWith opts req expires).run s (List.replicate 5 (.call i)) =
      ⟨served opts req expires i s.shared, Function.update s.calls i
        (.inr ⟨s.shared.clock, (evicted opts req i s.shared).zcard (redisKey opts (req i))⟩)⟩ := by
  show (machineWith opts req expires).run s [.call i, .call i, .call i, .call i, .call i] = _
  -- every command finds the stage that the one before it left
  rw [Machine.run_cons, Pool.next_call arrived, Machine.run_cons,
    Pool.next_call Pool.calls_advance_self, Machine.run_cons,
    Pool.next_call Pool.calls_advance_self, Machine.run_cons,
    Pool.next_call Pool.calls_advance_self, Machine.run_cons,
    Pool.next_call Pool.calls_advance_self]
  simp only [Machine.run_nil, Pool.advance, Function.update_idem]
  rfl

/-! ### What its commands leave -/

variable (opts req) (i : ι) (redis : Store ι)

omit [DecidableEq ι] in
theorem entries_evicted :
    ((evicted opts req i redis).found (redisKey opts (req i))).set.entries =
      (redis.found (redisKey opts (req i))).set.entries.filter fun entry =>
        redis.clock - opts.windowMs < entry.2 := by
  rw [evicted, Store.zremrangebyscore, Store.found_store, Store.entries_store]
  · rfl
  · exact redis.deadline_found _

theorem mem_recorded_iff (entry : ι × ℤ) :
    entry ∈ ((recorded opts req i redis).keys (redisKey opts (req i))).set.entries ↔
      entry = (i, redis.clock) ∨
        (entry ∈ (redis.found (redisKey opts (req i))).set.entries ∧
          redis.clock - opts.windowMs < entry.2) ∧ entry.1 ≠ i := by
  rw [recorded, Store.zadd, Store.entries_store]
  show entry ∈ (i, redis.clock) :: List.filter _ (Key.set _).entries ↔ _
  rw [List.mem_cons, List.mem_filter, entries_evicted, List.mem_filter, decide_eq_true_eq,
    decide_eq_true_eq]

theorem found_recorded :
    (recorded opts req i redis).found (redisKey opts (req i)) =
      (recorded opts req i redis).keys (redisKey opts (req i)) := by
  rw [recorded, Store.zadd, Store.found_store]
  exact (evicted opts req i redis).deadline_found _

/-- Recording a request sets no deadline. -/
theorem mem_deadline_recorded {deadline : ℤ}
    (set : deadline ∈ ((recorded opts req i redis).keys (redisKey opts (req i))).deadline) :
    deadline ∈ (redis.keys (redisKey opts (req i))).deadline := by
  rw [recorded, Store.zadd] at set
  have recorded := Store.mem_deadline_store _ _ _ set
  have stored := Key.deadline_of_gone_or (Store.found_eq_or _ _) recorded
  have evicted := Store.mem_deadline_store _ _ _ stored
  exact Key.deadline_of_gone_or (redis.found_eq_or _) evicted

theorem keys_recorded_of_ne {key : String} (other : key ≠ redisKey opts (req i)) :
    (recorded opts req i redis).keys key = redis.keys key := by
  rw [recorded, Store.zadd, Store.keys_store_of_ne _ _ other, evicted, Store.zremrangebyscore,
    Store.keys_store_of_ne _ _ other]

/-- An entry of the key after a request is the request's own or stayed. -/
theorem of_mem_served {entry : ι × ℤ}
    (mem : entry ∈ ((served opts req expires i redis).keys (redisKey opts (req i))).set.entries) :
    entry = (i, redis.clock) ∨ entry ∈ (redis.found (redisKey opts (req i))).set.entries := by
  suffices entry ∈ ((recorded opts req i redis).keys (redisKey opts (req i))).set.entries from
    ((mem_recorded_iff opts req i redis entry).mp this).imp_right fun stayed => stayed.1.1
  cases expires with
  | false => exact mem
  | true =>
      change entry ∈ (((recorded opts req i redis).pexpire _ _).keys _).set.entries at mem
      rw [Store.pexpire, Store.entries_store] at mem
      split at mem
      · cases mem
      · rwa [found_recorded] at mem

/-- What is less than a window ago stays, and the request is there. -/
theorem mem_served {entry : ι × ℤ} (after : redis.clock - opts.windowMs < entry.2)
    (upTo : entry.2 ≤ redis.clock)
    (mem : entry = (i, redis.clock) ∨
      entry ∈ (redis.found (redisKey opts (req i))).set.entries ∧ entry.1 ≠ i) :
    entry ∈ ((served opts req expires i redis).keys (redisKey opts (req i))).set.entries := by
  have inRecorded :
      entry ∈ ((recorded opts req i redis).keys (redisKey opts (req i))).set.entries :=
    (mem_recorded_iff opts req i redis entry).mpr
      (mem.imp_right fun stays => ⟨⟨stays.1, after⟩, stays.2⟩)
  cases expires with
  | false => exact inRecorded
  | true =>
      show entry ∈ (((recorded opts req i redis).pexpire _ _).keys _).set.entries
      -- a window without length holds no entry
      rw [Store.pexpire, Store.entries_store, if_neg (by omega), found_recorded]
      exact inRecorded

theorem deadline_served {deadline : ℤ}
    (set : deadline ∈
      ((served opts req true i redis).keys (redisKey opts (req i))).deadline) :
    deadline = redis.clock + opts.windowMs := by
  have renewed := Store.mem_deadline_store _ _ _ set
  split at renewed
  · cases renewed
  · exact (Option.some.inj renewed).symm

theorem keys_served_of_ne {key : String} (other : key ≠ redisKey opts (req i)) :
    (served opts req expires i redis).keys key = redis.keys key := by
  rw [← keys_recorded_of_ne opts req i redis other]
  cases expires with
  | false => rfl
  | true => exact Store.keys_store_of_ne _ _ other

theorem clock_served : (served opts req expires i redis).clock = redis.clock := by
  cases expires <;> rfl

end Alone

/-! ## What the store holds between requests -/

/-- The store between requests `n - 1` and `n`: of every key, earlier requests
only, all of those less than a window ago, and no deadline that comes before they
leave the window. -/
structure Holds (arrivals : Arrivals String) (expires : Bool) (n : ℕ) (redis : Store ℕ) : Prop where
  sound : ∀ key, ∀ entry ∈ (redis.keys key).set.entries,
    entry.1 < n ∧ arrivals.key entry.1 = key ∧ entry.2 = arrivals.time entry.1
  complete : ∀ j < n, redis.clock - arrivals.width < arrivals.time j →
    (j, arrivals.time j) ∈ (redis.keys (arrivals.key j)).set.entries
  outlasts : ∀ j < n, ∀ deadline ∈ (redis.keys (arrivals.key j)).deadline,
    arrivals.time j + arrivals.width ≤ deadline
  persists : expires = false → ∀ key, (redis.keys key).deadline = none

namespace Holds

variable {arrivals : Arrivals String} {expires : Bool} {n : ℕ} {redis : Store ℕ}

theorem pass (holds : Holds arrivals expires n redis) (spell : ℕ × Bool) :
    Holds arrivals expires n (redis.pass spell) := by
  refine ⟨fun key entry mem => ?_, fun j small after => ?_, fun j small deadline set => ?_,
    fun kept key => ?_⟩
  · exact holds.sound key entry (Key.mem_of_gone_or (redis.keys_pass spell key) mem)
  · rw [Store.clock_pass] at after
    rcases redis.keys_pass spell (arrivals.key j) with same | ⟨-, deadline, set, come⟩
    · rw [same]
      exact holds.complete j small (by omega)
    · have := holds.outlasts j small deadline set
      omega
  · exact holds.outlasts j small deadline (Key.deadline_of_gone_or (redis.keys_pass spell _) set)
  · refine Option.eq_none_iff_forall_not_mem.mpr fun deadline set => ?_
    have before := Key.deadline_of_gone_or (redis.keys_pass spell key) set
    rw [holds.persists kept key] at before
    cases before

/-- Of the key a command finds, the entries less than a window ago are the recent
arrivals. -/
theorem mem_found_iff (holds : Holds arrivals expires n redis)
    (clock : redis.clock = arrivals.time n) (entry : ℕ × ℤ) :
    entry ∈ (redis.found (arrivals.key n)).set.entries ∧
        redis.clock - arrivals.width < entry.2 ↔
      entry.1 ∈ arrivals.recent n ∧ entry.2 = arrivals.time entry.1 := by
  rw [Arrivals.mem_recent]
  constructor
  · rintro ⟨mem, after⟩
    obtain ⟨small, own, score⟩ :=
      holds.sound _ entry (Key.mem_of_gone_or (redis.found_eq_or _) mem)
    exact ⟨⟨small, own, by omega⟩, score⟩
  · rintro ⟨⟨small, own, after⟩, score⟩
    have still : (entry.1, arrivals.time entry.1) ∈ (redis.keys (arrivals.key n)).set.entries :=
      own ▸ holds.complete entry.1 small (by omega)
    rcases redis.found_eq_or (arrivals.key n) with same | ⟨-, deadline, set, past⟩
    · rw [same]
      exact ⟨by rw [← score] at still; exact still, by omega⟩
    · -- the deadline is a window after every member
      have := holds.outlasts entry.1 small deadline (own ▸ set)
      omega

end Holds

/-! ## Many requests, one at a time -/

section OneByOne

/-- `n` requests, each executed alone after an action of the environment. -/
def oneByOne {A : Type} (act : ℕ → A) (n : ℕ) : List (Pool.Move ℕ A) :=
  (List.range n).flatMap fun k => .act (act k) :: List.replicate 5 (.call k)

theorem oneByOne_succ {A : Type} (act : ℕ → A) (n : ℕ) :
    oneByOne act (n + 1) = oneByOne act n ++ .act (act n) :: List.replicate 5 (.call n) := by
  rw [oneByOne, List.range_succ, List.flatMap_append, List.flatMap_singleton, oneByOne]

variable (table : CaseTable) (opts : Options) (req : ℕ → Request) (clock : ℤ) (gap : ℕ → ℕ)

/-- The requests with their timestamps. -/
def arrivals : Arrivals String where
  time k := clock + (∑ j ∈ Finset.range (k + 1), gap j : ℕ)
  monotone j k before := by
    have sums : ∑ j ∈ Finset.range (j + 1), gap j ≤ ∑ j ∈ Finset.range (k + 1), gap j :=
      Finset.sum_le_sum_of_subset (Finset.range_mono (Nat.succ_le_succ before))
    show clock + _ ≤ clock + _
    omega
  key k := redisKey opts (req k)
  limit k := effectiveLimit table opts (req k)
  width := opts.windowMs

variable {table opts req clock gap} {expires : Bool} {n : ℕ} {redis : Store ℕ}

/-- The count of a request alone is the number of recent arrivals. -/
theorem zcard_evicted (holds : Holds (arrivals table opts req clock gap) expires n redis)
    (now : redis.clock = (arrivals table opts req clock gap).time n) :
    (evicted opts req n redis).zcard (redisKey opts (req n)) =
      ((arrivals table opts req clock gap).recent n).card := by
  rw [Store.zcard, ← SortedSet.card_members]
  congr 1
  ext j
  rw [SortedSet.members, List.mem_toFinset, List.mem_map, entries_evicted]
  simp only [List.mem_filter, decide_eq_true_eq]
  constructor
  · rintro ⟨entry, mem, rfl⟩
    exact ((holds.mem_found_iff now entry).mp mem).1
  · intro recent
    let entry := (j, (arrivals table opts req clock gap).time j)
    exact ⟨entry, (holds.mem_found_iff now entry).mpr ⟨recent, rfl⟩, rfl⟩

/-- **One request more.** -/
theorem Holds.served (holds : Holds (arrivals table opts req clock gap) expires n redis)
    (now : redis.clock = (arrivals table opts req clock gap).time n) :
    Holds (arrivals table opts req clock gap) expires (n + 1)
      (served opts req expires n redis) where
  sound key entry mem := by
    by_cases own : key = redisKey opts (req n)
    · subst own
      rcases of_mem_served opts req n redis mem with rfl | stayed
      · exact ⟨n.lt_succ_self, rfl, now⟩
      · obtain ⟨small, rest⟩ :=
          holds.sound _ entry (Key.mem_of_gone_or (redis.found_eq_or _) stayed)
        exact ⟨small.trans n.lt_succ_self, rest⟩
    · rw [keys_served_of_ne opts req n redis own] at mem
      obtain ⟨small, rest⟩ := holds.sound key entry mem
      exact ⟨small.trans n.lt_succ_self, rest⟩
  complete j small after := by
    rw [clock_served] at after
    by_cases own : (arrivals table opts req clock gap).key j = redisKey opts (req n)
    · rw [own]
      have before : j ≤ n := Nat.le_of_lt_succ small
      refine mem_served opts req n redis after
        (now ▸ (arrivals table opts req clock gap).monotone before) ?_
      rcases before.eq_or_lt with rfl | earlier
      · exact Or.inl (by rw [now])
      · have recent : j ∈ (arrivals table opts req clock gap).recent n :=
          Arrivals.mem_recent.mpr ⟨earlier, own, now ▸ after⟩
        exact Or.inr ⟨((holds.mem_found_iff now (j, _)).mpr ⟨recent, rfl⟩).1, earlier.ne⟩
    · rw [keys_served_of_ne opts req n redis own]
      rcases (Nat.le_of_lt_succ small).eq_or_lt with rfl | earlier
      · exact absurd rfl own
      · exact holds.complete j earlier after
  outlasts j small deadline set := by
    by_cases own : (arrivals table opts req clock gap).key j = redisKey opts (req n)
    · rw [own] at set
      cases expires with
      | false =>
          -- without `PEXPIRE` there is no deadline
          have stayed := mem_deadline_recorded opts req n redis set
          rw [holds.persists rfl] at stayed
          cases stayed
      | true =>
          have := (arrivals table opts req clock gap).monotone (Nat.le_of_lt_succ small)
          rw [deadline_served opts req n redis set, now]
          show _ ≤ _ + ((arrivals table opts req clock gap).width : ℤ)
          omega
    · rw [keys_served_of_ne opts req n redis own] at set
      rcases (Nat.le_of_lt_succ small).eq_or_lt with rfl | earlier
      · exact absurd rfl own
      · exact holds.outlasts j earlier deadline set
  persists kept key := by
    subst kept
    by_cases own : key = redisKey opts (req n)
    · subst own
      refine Option.eq_none_iff_forall_not_mem.mpr fun deadline set => ?_
      have stayed := mem_deadline_recorded opts req n redis set
      rw [holds.persists rfl] at stayed
      cases stayed
    · rw [keys_served_of_ne opts req n redis own]
      exact holds.persists rfl key

theorem holds_start :
    Holds (arrivals table opts req clock gap) expires 0 (Store.empty clock) where
  sound _ _ mem := by cases mem
  complete j small := absurd small j.not_lt_zero
  outlasts j small := absurd small j.not_lt_zero
  persists _ _ := rfl

/-- The clock when request `k` arrives. -/
theorem time_succ (k : ℕ) :
    (arrivals table opts req clock gap).time (k + 1) =
      (arrivals table opts req clock gap).time k + gap (k + 1) := by
  show clock + ((∑ j ∈ Finset.range (k + 2), gap j : ℕ) : ℤ) = _
  rw [Finset.sum_range_succ, Nat.cast_add, ← add_assoc]
  rfl

variable (table opts req clock expires)

/-- **A run of requests executed one at a time.**  The first `n` requests are
answered by their timestamps and recent arrivals, the others have not arrived. -/
theorem run_oneByOne (spell : ℕ → ℕ × Bool) (n : ℕ) :
    let arrivals := arrivals table opts req clock fun k => (spell k).1
    let after := (machineWith opts req expires).run (start clock) (oneByOne spell n)
    Holds arrivals expires n after.shared ∧
      after.shared.clock + (spell n).1 = arrivals.time n ∧
      (∀ k < n, after.calls k = .inr ⟨arrivals.time k, (arrivals.recent k).card⟩) ∧
      ∀ k, n ≤ k → after.calls k = .inl .arrives := by
  intro arrivals after
  induction n with
  | zero =>
      refine ⟨holds_start, ?_, fun k small => absurd small k.not_lt_zero, fun k _ => rfl⟩
      show clock + ((spell 0).1 : ℤ) = clock + ((∑ j ∈ Finset.range 1, (spell j).1 : ℕ) : ℤ)
      rw [Finset.sum_range_one]
  | succ n ih =>
      obtain ⟨holds, now, answered, waiting⟩ := ih
      set s := (machineWith opts req expires).run (start clock) (oneByOne spell n) with run
      have clockNow : (s.shared.pass (spell n)).clock = arrivals.time n :=
        (Store.clock_pass _ _).trans now
      have passed : (machineWith opts req expires).next s (.act (spell n)) =
          ⟨s.shared.pass (spell n), s.calls⟩ := rfl
      -- a request that is served alone finds what the earlier ones have left
      have alone := @run_alone _ _ opts req expires ⟨s.shared.pass (spell n), s.calls⟩ n
        (waiting n le_rfl)
      have grown : after = ⟨served opts req expires n (s.shared.pass (spell n)),
          Function.update s.calls n (.inr ⟨arrivals.time n, (arrivals.recent n).card⟩)⟩ := by
        show (machineWith opts req expires).run (start clock) (oneByOne spell (n + 1)) = _
        rw [oneByOne_succ, Machine.run_append, ← run, Machine.run_cons, passed, alone, clockNow,
          zcard_evicted (holds.pass (spell n)) clockNow]
      rw [grown]
      refine ⟨(holds.pass (spell n)).served clockNow, ?_, fun k small => ?_, fun k large => ?_⟩
      · show (served opts req expires n (s.shared.pass (spell n))).clock + _ = _
        rw [clock_served, clockNow]
        exact (time_succ n).symm
      · rcases (Nat.le_of_lt_succ small).eq_or_lt with rfl | earlier
        · exact Function.update_self ..
        · exact (Function.update_of_ne earlier.ne ..).trans (answered k earlier)
      · exact (Function.update_of_ne (Nat.lt_of_succ_le large).ne' ..).trans
          (waiting k (Nat.le_of_succ_le large))

end OneByOne

/-! ## Responses -/

section Responses

/-- The response to a request that has counted. -/
def responseTo {ι : Type} (table : CaseTable) (opts : Options) (req : ι → Request)
    (s : Requests ι) (i : ι) : Option Response :=
  (counted (s.calls i)).map (respond table opts req i)

variable (table : CaseTable) (opts : Options) (req : ℕ → Request) (clock : ℤ)

theorem calls_run_oneByOne (expires : Bool) (spell : ℕ → ℕ × Bool) {n k : ℕ} (small : k < n) :
    let arrivals := arrivals table opts req clock fun k => (spell k).1
    ((machineWith opts req expires).run (start clock) (oneByOne spell n)).calls k =
      .inr ⟨arrivals.time k, (arrivals.recent k).card⟩ :=
  (run_oneByOne table opts req clock expires spell n).2.2.1 k small

theorem responseTo_run_oneByOne (expires : Bool) (spell : ℕ → ℕ × Bool) {n k : ℕ}
    (small : k < n) :
    let arrivals := arrivals table opts req clock fun k => (spell k).1
    responseTo table opts req
        ((machineWith opts req expires).run (start clock) (oneByOne spell n)) k =
      some (respond table opts req k ⟨arrivals.time k, (arrivals.recent k).card⟩) := by
  rw [responseTo, calls_run_oneByOne table opts req clock expires spell small]
  rfl

theorem run_calls_eq (s : Requests ℕ) (k m : ℕ) :
    (machineWith opts req true).run s (List.replicate m (.call k)) =
      (machine opts req).run s (List.replicate m (.call k)) := by
  have sameCall (s : Requests ℕ) :
      (machineWith opts req true).next s (.call k) = (machine opts req).next s (.call k) := by
    rw [machineWith, stepWith_true]
    rfl
  induction m generalizing s with
  | zero => rfl
  | succ m ih =>
      rw [List.replicate_succ, List.replicate_succ, Machine.run_cons, Machine.run_cons, ih,
        sameCall]

/-- With `PEXPIRE`, and keys that go after their deadline, these are the runs of
the middleware. -/
theorem run_machineWith_true (gap : ℕ → ℕ) (n : ℕ) (s : Requests ℕ) :
    (machineWith opts req true).run s (oneByOne (fun k => (gap k, false)) n) =
      (machine opts req).run s (oneByOne gap n) := by
  induction n with
  | zero => rfl
  | succ n ih =>
      rw [oneByOne_succ, oneByOne_succ, Machine.run_append, Machine.run_append, ih,
        Machine.run_cons, Machine.run_cons, run_calls_eq]
      rfl

/-- **Expiry is unobservable.**  Requests executed one at a time get the same
responses whether or not `PEXPIRE` deletes their keys, and in no window are more
requests of a key let through than the largest of their limits. -/
theorem expiry_unobservable (spell : ℕ → ℕ × Bool) (n : ℕ) :
    let expiring := (machineWith opts req true).run (start clock) (oneByOne spell n)
    let keeping := (machineWith opts req false).run (start clock) (oneByOne spell n)
    (∀ k < n, ∃ response,
      responseTo table opts req expiring k = some response ∧
      responseTo table opts req keeping k = some response) ∧
    ∀ key t,
      {k ∈ Finset.range n | redisKey opts (req k) = key ∧
        LetThrough table opts req (fun now => t - opts.windowMs < now ∧ now ≤ t) expiring k}.card ≤
      {k ∈ Finset.range n | redisKey opts (req k) = key}.sup
        fun k => effectiveLimit table opts (req k) := by
  intro expiring keeping
  constructor
  · intro k small
    exact ⟨_, responseTo_run_oneByOne table opts req clock true spell small,
      responseTo_run_oneByOne table opts req clock false spell small⟩
  · intro key t
    refine le_trans (Finset.card_le_card fun k mem => ?_)
      ((arrivals table opts req clock fun k => (spell k).1).card_underLimit_le key t n)
    obtain ⟨small, own, answer, known, under, within⟩ := Finset.mem_filter.mp mem
    rw [calls_run_oneByOne table opts req clock true spell (Finset.mem_range.mp small)] at known
    obtain rfl := Option.some.inj known
    exact Finset.mem_filter.mpr ⟨small, own, under, within⟩

end Responses

end TheVoteApp.RateLimitRedis
