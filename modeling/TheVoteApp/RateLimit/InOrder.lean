import TheVoteApp.RateLimit.SlidingWindow

/-!
# Requests in order

When a request counts, three kinds of requests that were let through may be missing
from the set: one that has counted and not recorded itself yet, one that a request with
a later timestamp has evicted, and all of them if the key has expired while the request
was on its way.

A schedule is in order if it avoids the three (`InOrder`).  Then a recorded request is
in the set for as long as it matters (`Kept`), every count finds all requests of its
window, and no window holds more than its limit (`card_letThrough_le`).

## Main definitions

* `commands`, `timestamp` — how far a request is
* `InOrder` — the condition on the schedule
* `Present`, `Outdated` — a recorded request is in the set, or in no window to come
* `Kept` — what holds of all recorded requests
-/

namespace TheVoteApp.RateLimitRedis

open Foundations JavaScript Redis

/-! ## Schedules -/

/-- How many of the four commands a request has executed. -/
def commands : Stage ⊕ Counted → ℕ
  | .inl .arrives => 0
  | .inl (.evicts _) => 0
  | .inl (.counts _) => 1
  | .inl (.records _ _) => 2
  | .inl (.renews _ _) => 3
  | .inr _ => 4

/-- The timestamp of a request that has read the clock. -/
def timestamp : Stage ⊕ Counted → Option ℤ
  | .inl .arrives => none
  | .inl (.evicts now) => some now
  | .inl (.counts now) => some now
  | .inl (.records now _) => some now
  | .inl (.renews now _) => some now
  | .inr counted => some counted.now

section InOrder

variable {ι : Type} [DecidableEq ι] (opts : Options) (req : ι → Request)

/-- No request of a key counts between the count and the record of another one, or after
one with a later timestamp has evicted; and no key expires while a request of it is on
its way. -/
def InOrder (s : Requests ι) : Pool.Move ι ℕ → Prop
  | .call i =>
      ∀ now ∈ awaitsCount (s.calls i), ∀ j, redisKey opts (req j) = redisKey opts (req i) →
        commands (s.calls j) ≠ 2 ∧
          (1 ≤ commands (s.calls j) → ∀ now' ∈ timestamp (s.calls j), now' ≤ now)
  | .act ms =>
      ∀ i, (timestamp (s.calls i)).isSome = true → commands (s.calls i) < 4 →
        ∀ deadline ∈ (s.shared.keys (redisKey opts (req i))).deadline,
          s.shared.clock ≤ deadline → s.shared.clock + ms ≤ deadline

instance decidableInOrder [Fintype ι] (s : Requests ι) : ∀ move, Decidable (InOrder opts req s move)
  | .call _ => inferInstanceAs (Decidable (∀ _ ∈ _, ∀ _, _))
  | .act _ => inferInstanceAs (Decidable (∀ _, _))

end InOrder

/-! ## Progress -/

section Progress

variable {ι : Type} [DecidableEq ι] {opts : Options} {req : ι → Request} {i : ι} {stage : Stage}
  {redis : Store ι}

theorem commands_step (arrived : stage ≠ .arrives) :
    commands (step opts req i stage redis).1 = commands (.inl stage) + 1 := by
  cases stage with
  | arrives => exact absurd rfl arrived
  | _ => rfl

theorem timestamp_step (arrived : stage ≠ .arrives) :
    timestamp (step opts req i stage redis).1 = timestamp (.inl stage) := by
  cases stage with
  | arrives => exact absurd rfl arrived
  | _ => rfl

theorem commands_le (call : Stage ⊕ Counted) : commands call ≤ 4 := by
  rcases call with (_ | _ | _ | _ | _) | _ <;> simp [commands]

/-- A recorded request has a timestamp. -/
theorem isSome_timestamp {call : Stage ⊕ Counted} (recorded : 3 ≤ commands call) :
    (timestamp call).isSome = true := by
  rcases call with (_ | _ | _ | _ | _) | _
  all_goals first
    | rfl
    | simp [commands] at recorded

theorem commands_of_counted {call : Stage ⊕ Counted} {answer : Counted}
    (known : answer ∈ counted call) : 2 ≤ commands call ∧ answer.now ∈ timestamp call := by
  rcases call with (_ | _ | _ | ⟨now, count⟩ | ⟨now, count⟩) | result
  · cases known
  · cases known
  · cases known
  · obtain rfl := Option.some.inj known
    exact ⟨le_rfl, rfl⟩
  · obtain rfl := Option.some.inj known
    exact ⟨by simp [commands], rfl⟩
  · obtain rfl := Option.some.inj known
    exact ⟨by simp [commands], rfl⟩

end Progress

/-! ## What becomes of a recorded request -/

section Kept

variable {ι : Type} [DecidableEq ι] (opts : Options) (req : ι → Request) (s : Requests ι)

/-- The entry of the request is in the set, which lasts for as long as the entry counts. -/
structure Present (j : ι) (now : ℤ) : Prop where
  mem : (j, now) ∈ (s.shared.keys (redisKey opts (req j))).set.entries
  alive : ∀ deadline ∈ (s.shared.keys (redisKey opts (req j))).deadline,
    s.shared.clock ≤ deadline
  lasting : commands (s.calls j) = 4 →
    ∀ deadline ∈ (s.shared.keys (redisKey opts (req j))).deadline, now + opts.windowMs ≤ deadline

/-- A request of the key has evicted what is as old as `now`. -/
def Evicted (j : ι) (now : ℤ) : Prop :=
  ∃ e, redisKey opts (req e) = redisKey opts (req j) ∧ 1 ≤ commands (s.calls e) ∧
    ∃ now' ∈ timestamp (s.calls e), now + opts.windowMs ≤ now'

/-- Every request of the key that is yet to count is a window later than `now`. -/
def Stale (j : ι) (now : ℤ) : Prop :=
  now + opts.windowMs ≤ s.shared.clock ∧
    ∀ i, redisKey opts (req i) = redisKey opts (req j) → commands (s.calls i) < 2 →
      ∀ now' ∈ timestamp (s.calls i), now + opts.windowMs ≤ now'

/-- The entry is in no window that is yet to be counted. -/
def Outdated (j : ι) (now : ℤ) : Prop := Evicted opts req s j now ∨ Stale opts req s j now

/-- No timestamp is ahead of the clock, and every recorded request is in the set or in no
window to come. -/
structure Kept : Prop where
  past : ∀ j, ∀ now ∈ timestamp (s.calls j), now ≤ s.shared.clock
  recorded : ∀ j, 3 ≤ commands (s.calls j) → ∀ now ∈ timestamp (s.calls j),
    Present opts req s j now ∨ Outdated opts req s j now

variable {opts req s} {i j : ι} {now : ℤ} {stage : Stage}

/-! ## What a command does -/

omit [DecidableEq ι] in
theorem Present.found (present : Present opts req s j now) :
    s.shared.found (redisKey opts (req j)) = s.shared.keys (redisKey opts (req j)) := by
  rcases s.shared.found_eq_or (redisKey opts (req j)) with same | ⟨-, deadline, set, gone⟩
  · exact same
  · exact absurd (present.alive deadline set) (by omega)

theorem clock_step : (step opts req i stage s.shared).2.clock = s.shared.clock := by
  cases stage <;> rfl

/-- Timestamps stay behind the clock. -/
theorem Kept.past_advance (kept : Kept opts req s) (left : s.calls i = .inl stage) :
    ∀ j, ∀ now ∈ timestamp ((Pool.advance (step opts req) s i stage).calls j),
      now ≤ (Pool.advance (step opts req) s i stage).shared.clock := by
  intro j now read
  rw [Pool.shared_advance, clock_step]
  by_cases same : j = i
  · subst same
    rw [Pool.calls_advance_self] at read
    by_cases arrives : stage = .arrives
    · subst arrives
      obtain rfl := Option.some.inj read
      exact le_rfl
    · rw [timestamp_step arrives, ← left] at read
      exact kept.past j now read
  · rw [Pool.calls_advance_of_ne same] at read
    exact kept.past j now read

/-- What is outdated stays so. -/
theorem Outdated.advance (outdated : Outdated opts req s j now) (left : s.calls i = .inl stage) :
    Outdated opts req (Pool.advance (step opts req) s i stage) j now := by
  rcases outdated with ⟨e, sameKey, evicted, now', read, later⟩ | ⟨past, others⟩
  · left
    refine ⟨e, sameKey, ?_⟩
    by_cases same : e = i
    · subst same
      rw [left] at evicted read
      have arrived : stage ≠ .arrives := by
        rintro rfl
        cases read
      rw [Pool.calls_advance_self, commands_step arrived, timestamp_step arrived]
      exact ⟨by omega, now', read, later⟩
    · rw [Pool.calls_advance_of_ne same]
      exact ⟨evicted, now', read, later⟩
  · right
    refine ⟨?_, fun e sameKey uncounted now' read => ?_⟩
    · rw [Pool.shared_advance, clock_step]
      exact past
    by_cases same : e = i
    · subst same
      rw [Pool.calls_advance_self] at uncounted read
      by_cases arrives : stage = .arrives
      -- whoever arrives now reads a clock that is a window ahead
      · subst arrives
        obtain rfl := Option.some.inj read
        exact past
      · rw [commands_step arrives] at uncounted
        rw [timestamp_step arrives, ← left] at read
        exact others e sameKey (by rw [left]; omega) now' read
    · rw [Pool.calls_advance_of_ne same] at uncounted read
      exact others e sameKey uncounted now' read

omit [DecidableEq ι] in
/-- What leaves a key and the call alone leaves the entry there. -/
theorem Present.of_keys {s' : Requests ι} (present : Present opts req s j now)
    (clock : s'.shared.clock = s.shared.clock)
    (keys : s'.shared.keys (redisKey opts (req j)) = s.shared.keys (redisKey opts (req j)))
    (call : s'.calls j = s.calls j) : Present opts req s' j now where
  mem := by
    rw [keys]
    exact present.mem
  alive := by
    rw [keys, clock]
    exact present.alive
  lasting := by
    rw [keys, call]
    exact present.lasting

omit [DecidableEq ι] in
/-- An entry that is stored in a key to come. -/
theorem Present.of_store {s' : Requests ι} {value : Key ι}
    (stored : s'.shared = s.shared.store (redisKey opts (req j)) value)
    (mem : (j, now) ∈ value.set.entries)
    (alive : ∀ deadline ∈ value.deadline, s.shared.clock ≤ deadline)
    (lasting : commands (s'.calls j) = 4 →
      ∀ deadline ∈ value.deadline, now + opts.windowMs ≤ deadline) :
    Present opts req s' j now := by
  have keys : s'.shared.keys (redisKey opts (req j)) = value := by
    rw [stored, Store.keys_store_self, if_neg (List.ne_nil_of_mem mem)]
  refine ⟨?_, ?_, ?_⟩
  · rw [keys]
    exact mem
  · rw [keys, stored]
    exact alive
  · rw [keys]
    exact lasting

/-- A present entry stays, or is evicted. -/
theorem Present.advance (present : Present opts req s j now) (kept : Kept opts req s)
    (window : opts.windowMs ≠ 0) (recorded : 3 ≤ commands (s.calls j))
    (read : now ∈ timestamp (s.calls j)) (left : s.calls i = .inl stage) :
    Present opts req (Pool.advance (step opts req) s i stage) j now ∨
      Outdated opts req (Pool.advance (step opts req) s i stage) j now := by
  have other (early : commands (.inl stage) < 3) : j ≠ i := by
    rintro rfl
    rw [left] at recorded
    omega
  by_cases sameKey : redisKey opts (req i) = redisKey opts (req j)
  · cases stage with
    | arrives =>
        exact .inl (present.of_keys rfl rfl (Pool.calls_advance_of_ne (other (by decide))))
    | counts t =>
        exact .inl (present.of_keys rfl rfl
          (Pool.calls_advance_of_ne (other (by simp [commands]))))
    | evicts t =>
        have apart := other (by simp [commands])
        by_cases late : now + opts.windowMs ≤ t
        · refine .inr (.inl ⟨i, sameKey, ?_⟩)
          rw [Pool.calls_advance_self]
          exact ⟨le_rfl, t, rfl, late⟩
        · refine .inl (.of_store (congrArg (s.shared.store · _) sameKey) ?_ ?_ ?_)
          · rw [sameKey, present.found]
            exact List.mem_filter.mpr ⟨present.mem, decide_eq_true (by omega)⟩
          · rw [sameKey, present.found]
            exact present.alive
          · rw [sameKey, present.found, Pool.calls_advance_of_ne apart]
            exact present.lasting
    | records t count =>
        have apart := other (by simp [commands])
        refine .inl (.of_store (congrArg (s.shared.store · _) sameKey) ?_ ?_ ?_)
        · rw [sameKey, present.found]
          exact List.mem_cons_of_mem _
            (List.mem_filter.mpr ⟨present.mem, decide_eq_true apart⟩)
        · rw [sameKey, present.found]
          exact present.alive
        · rw [sameKey, present.found, Pool.calls_advance_of_ne apart]
          exact present.lasting
    | renews t count =>
        have behind := kept.past j now read
        refine .inl (.of_store (congrArg (s.shared.store · _) sameKey) ?_ ?_ ?_)
        · rw [if_neg window, sameKey, present.found]
          exact present.mem
        · rw [if_neg window]
          rintro deadline set
          obtain rfl := Option.some.inj set
          omega
        · rw [if_neg window]
          rintro - deadline set
          obtain rfl := Option.some.inj set
          omega
  · have apart : j ≠ i := fun same => sameKey (same ▸ rfl)
    refine .inl (present.of_keys clock_step ?_ (Pool.calls_advance_of_ne apart))
    cases stage with
    | arrives => rfl
    | counts t => rfl
    | _ => exact Store.keys_store_of_ne _ _ (Ne.symm sameKey)

/-- The entry that is recorded is there. -/
theorem present_advance_records {count : ℕ} :
    Present opts req (Pool.advance (step opts req) s i (.records now count)) i now := by
  refine .of_store rfl List.mem_cons_self ?_ ?_
  · intro deadline set
    have alive := s.shared.deadline_found (redisKey opts (req i))
    by_contra gone
    rw [Option.any_eq_false] at alive
    exact absurd (alive deadline set) (by simpa using Int.not_le.mp gone)
  · rw [Pool.calls_advance_self]
    exact nofun

/-- **A command** keeps what holds of the recorded requests. -/
theorem Kept.advance (kept : Kept opts req s) (window : opts.windowMs ≠ 0)
    (left : s.calls i = .inl stage) :
    Kept opts req (Pool.advance (step opts req) s i stage) := by
  refine ⟨kept.past_advance left, ?_⟩
  intro j recorded now read
  by_cases before : 3 ≤ commands (s.calls j)
  · have same : timestamp ((Pool.advance (step opts req) s i stage).calls j) =
        timestamp (s.calls j) := by
      by_cases self : j = i
      · subst self
        rw [left] at before ⊢
        rw [Pool.calls_advance_self, timestamp_step]
        rintro rfl
        exact absurd before (by decide)
      · rw [Pool.calls_advance_of_ne self]
    rw [same] at read
    rcases kept.recorded j before now read with present | outdated
    · exact present.advance kept window before read left
    · exact .inr (outdated.advance left)
  -- only the command that records a request makes it a recorded one
  · obtain rfl : j = i := by
      by_contra other
      rw [Pool.calls_advance_of_ne other] at recorded
      exact before recorded
    rw [Pool.calls_advance_self] at recorded read
    rw [left] at before
    cases stage with
    | records t count =>
        obtain rfl := Option.some.inj read
        exact .inl present_advance_records
    | renews t count => exact absurd le_rfl before
    | _ => exact absurd recorded (by simp [step, commands])

omit [DecidableEq ι] in
/-- **Time** takes a key only when nobody of it is on its way; what it held is stale then. -/
theorem Kept.tick (kept : Kept opts req s) {ms : ℕ} (inOrder : InOrder opts req s (.act ms)) :
    Kept opts req ⟨s.shared.tick ms, s.calls⟩ := by
  refine ⟨fun j now read => ?_, fun j recorded now read => ?_⟩
  · have := kept.past j now read
    show now ≤ s.shared.clock + ms
    omega
  rcases kept.recorded j recorded now read with present | evicted | ⟨past, others⟩
  · by_cases expires : ∃ deadline ∈ (s.shared.keys (redisKey opts (req j))).deadline,
        deadline < s.shared.clock + ms
    · obtain ⟨deadline, set, gone⟩ := expires
      have none (i : ι) (sameKey : redisKey opts (req i) = redisKey opts (req j))
          (started : (timestamp (s.calls i)).isSome = true) : 4 ≤ commands (s.calls i) := by
        by_contra inProgress
        have := inOrder i started (Nat.not_le.mp inProgress) deadline (sameKey ▸ set)
          (present.alive deadline set)
        omega
      have returned : commands (s.calls j) = 4 :=
        le_antisymm (commands_le _) (none j rfl (isSome_timestamp recorded))
      have old := present.lasting returned deadline set
      refine .inr (.inr ⟨?_, fun i sameKey uncounted now' read' => ?_⟩)
      · show now + opts.windowMs ≤ s.shared.clock + ms
        omega
      · have := none i sameKey (Option.isSome_of_mem read')
        have uncounted' : commands (s.calls i) < 2 := uncounted
        omega
    · refine .inl ⟨present.mem, fun deadline set => ?_, present.lasting⟩
      by_contra gone
      exact expires ⟨deadline, set, Int.not_le.mp gone⟩
  · exact .inr (.inl evicted)
  · refine .inr (.inr ⟨?_, others⟩)
    show now + opts.windowMs ≤ s.shared.clock + ms
    omega

/-- **A count in order** finds all requests of its window. -/
theorem Kept.countsAll (kept : Kept opts req s) (table : CaseTable)
    (inOrder : InOrder opts req s (.call i)) (left : s.calls i = .inl (.counts now)) :
    CountsAll table opts req s i now := by
  rintro j sameKey ⟨answer, known, -, near⟩
  obtain ⟨counted, read⟩ := commands_of_counted known
  have order := inOrder now (by rw [left]; rfl)
  have recorded : 3 ≤ commands (s.calls j) := by
    have := (order j sameKey).1
    omega
  have earlier := (order j sameKey).2 (by omega) answer.now read
  rw [abs_lt] at near
  rcases kept.recorded j recorded answer.now read with
    present | ⟨e, sameKey', evicted, now', read', later⟩ | ⟨-, others⟩
  · rw [← sameKey, present.found, SortedSet.members, List.mem_toFinset]
    exact List.mem_map_of_mem present.mem
  · have := (order e (sameKey'.trans sameKey)).2 evicted now' read'
    omega
  · have := others i sameKey.symm (by rw [left]; simp [commands]) now (by rw [left]; rfl)
    omega

end Kept

/-! ## Windows -/

section Windows

variable {ι : Type} [DecidableEq ι] [Fintype ι] {opts : Options} {req : ι → Request}

omit [DecidableEq ι] [Fintype ι] in
theorem kept_start (clock : ℤ) : Kept opts req (start clock) where
  past := nofun
  recorded j recorded := absurd recorded (by simp [commands])

omit [DecidableEq ι] in
/-- A window of no length is empty. -/
theorem letThrough_eq_empty (table : CaseTable) (window : opts.windowMs = 0) (key : String)
    (limit : ℕ) (t : ℤ) (s : Requests ι) : letThrough table opts req key limit t s = ∅ := by
  refine Finset.filter_eq_empty_iff.mpr ?_
  rintro i - ⟨-, -, answer, -, -, after, upTo⟩
  omega

end Windows

/-- **No window exceeds its limit** in the runs whose schedule is in order. -/
theorem card_letThrough_le {ι : Type} [DecidableEq ι] [Fintype ι] (table : CaseTable)
    (opts : Options) (req : ι → Request) (clock : ℤ) (moves : List (Pool.Move ι ℕ))
    (inOrder : (machine opts req).Along (InOrder opts req) (start clock) moves)
    (key : String) (limit : ℕ) (t : ℤ) :
    (letThrough table opts req key limit t
      ((machine opts req).run (start clock) moves)).card ≤ limit := by
  by_cases window : opts.windowMs = 0
  · rw [letThrough_eq_empty table window]
    exact Nat.zero_le _
  have whole := Pool.openMachine_invariant
    (I := fun s => Kept opts req s ∧ Bounded table opts req s)
    ⟨kept_start clock, bounded_start clock⟩ ?command ?action moves inOrder
  · exact whole.2 key limit t
  case command =>
    rintro s i stage ⟨kept, bounded⟩ ordered left
    refine ⟨kept.advance window left, ?_⟩
    by_cases counts : ∃ now, stage = .counts now
    · obtain ⟨now, rfl⟩ := counts
      exact bounded_advance_counts bounded (kept.countsAll table ordered left)
    · exact bounded_advance bounded left (not_exists.mp counts)
  case action =>
    rintro s ms ⟨kept, bounded⟩ ordered
    exact ⟨kept.tick ordered, bounded⟩

/-! ## Votes from a country with a limit of three -/

/-- Requests of one client. -/
def sampleRequests (_ : Fin 4) : Request where
  headers := [("x-country-code", "NG")]
  ip := some "197.210.0.1"

/-- The requests read the clock and evict, then each counts and records itself before the
next one does, and a second later they renew the key. -/
def inTurn : List (Pool.Move (Fin 4) ℕ) :=
  (List.finRange 4).flatMap (fun i => List.replicate 2 (.call i)) ++
    (List.finRange 4).flatMap (fun i => List.replicate 2 (.call i)) ++
    .act 1000 :: (List.finRange 4).map .call

/-- Every request counts before the first one records itself. -/
def overlapping : List (Pool.Move (Fin 4) ℕ) :=
  (List.finRange 4).flatMap (fun i => List.replicate 3 (.call i)) ++
    (List.finRange 4).flatMap (fun i => List.replicate 2 (.call i))

theorem card_letThrough_le_sample :
    (letThrough CaseTable.ofAscii (voteLimiter CaseTable.ofAscii) sampleRequests
      "rl:vote:197.210.0.1:NG" 3 4000
      ((machine (voteLimiter CaseTable.ofAscii) sampleRequests).run (start 0) inTurn)).card ≤ 3 :=
  card_letThrough_le CaseTable.ofAscii (voteLimiter CaseTable.ofAscii) sampleRequests 0 inTurn
    (by decide) _ _ _

/-- All four count nobody and are let through at once. -/
theorem card_letThrough_counterexample :
    (∀ i, ((machine (voteLimiter CaseTable.ofAscii) sampleRequests).run (start 0)
      overlapping).calls i = .inr ⟨0, 0⟩) ∧
    (letThrough CaseTable.ofAscii (voteLimiter CaseTable.ofAscii) sampleRequests
      "rl:vote:197.210.0.1:NG" 3 0
      ((machine (voteLimiter CaseTable.ofAscii) sampleRequests).run (start 0) overlapping)).card =
        4 := by
  decide

end TheVoteApp.RateLimitRedis
