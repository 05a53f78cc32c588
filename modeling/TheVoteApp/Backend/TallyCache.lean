import TheVoteApp.Backend.LiveVersusBatch

/-!
# The cache of the batch tally

`TallyService.getTally` with its cache, while the chain grows.  A call asks the node
twice, for the votes and for the finalisation, and other calls run in between.  A
tally is cached for half a minute, by the clock of the server.

A tally that is answered has been computed by the call itself, or by one that wrote it
into the cache less than 30 seconds before; it counts the votes of one moment and is
marked as finalised at a later one (`tally_source`).

A call that takes long writes over what a later call has written, so that tallies may
go backwards.  They never do for a policy whose calls do not overlap
(`tally_never_decreases`).

## Main definitions

* `Service`, `machine` — the cache, the calls and the chain
* `Computed` — the call that has computed a tally
* `Apart` — calls for a policy do not overlap
-/

namespace TheVoteApp.TallyCache

open Solidity VoteLedger TallyService Foundations

/-- A tally and the time it was cached at. -/
structure CacheEntry where
  tally : PolicyTally
  cachedAt : ℤ

/-- `CACHE_TTL_MS` -/
def cacheTtlMs : ℤ := 30000

/-- Where a call of `getTally` stands. -/
inductive Phase where
  | unused
  /-- The votes have been asked for. -/
  | querying (policyId : String)
  /-- The votes are counted, and the finalisation has been asked for. -/
  | counted (policyId : String) (tally : PolicyTally)
  | answered (policyId : String) (tally : PolicyTally)
  | failed
deriving DecidableEq

/-- The chain, as the node gives it, and the service. -/
structure Service where
  chain : List Log
  cache : String → Option CacheEntry
  phase : ℕ → Phase

/-- No call has begun, and the cache is empty. -/
def Service.start : Service := ⟨[], fun _ => none, fun _ => .unused⟩

/-- Call `i` moves on. -/
def Service.goto (s : Service) (i : ℕ) (phase : Phase) : Service :=
  { s with phase := Function.update s.phase i phase }

/-- The time is `Date.now()`, at the beginning and at the end of a call. -/
inductive Occurrence where
  | block (entries : List Log)
  | getTally (i : ℕ) (policyId : String) (now : ℤ)
  | votes (i : ℕ) (fails : Bool)
  | finals (i : ℕ) (fails : Bool) (now : ℤ)

/-- The node responds. -/
def Occurrence.reads : Occurrence → Bool
  | .votes _ _ | .finals _ _ _ => true
  | _ => false

section Machine

variable (keccak256 : Bytes → Bytes32)

/-- What the loop makes of the votes; `none` is the exception of an unreadable entry. -/
def countVotes (policyId : String) (entries : List Log) : Option PolicyTally :=
  (voteCastEvents keccak256 entries policyId).map fun events =>
    (events.foldl countEvent (.empty policyId, [])).1

/-- A finalisation of the policy is in the log. -/
def isFinalized (policyId : String) (entries : List Log) : Bool :=
  decide (0 < (queryFilter entries
    [signatureTopic keccak256 "PolicyFinalized(bytes32)", keccak256 (toUtf8Bytes policyId)]).length)

/-- The cached tally, while it is fresh. -/
def Service.fresh (s : Service) (policyId : String) (now : ℤ) : Option PolicyTally :=
  match s.cache policyId with
  | some cached => if now - cached.cachedAt < cacheTtlMs then some cached.tally else none
  | none => none

/-- An occurrence; `none` where it is impossible. -/
def occur (s : Service) : Occurrence → Option Service
  | .block entries => some { s with chain := s.chain ++ entries }
  | .getTally i policyId now =>
      match s.phase i with
      | .unused =>
          match s.fresh policyId now with
          | some tally => some (s.goto i (.answered policyId tally))
          | none => some (s.goto i (.querying policyId))
      | _ => none
  | .votes i fails =>
      match s.phase i with
      | .querying policyId =>
          if fails then some (s.goto i .failed)
          else
            match countVotes keccak256 policyId s.chain with
            | some tally => some (s.goto i (.counted policyId tally))
            | none => some (s.goto i .failed)
      | _ => none
  | .finals i fails now =>
      match s.phase i with
      | .counted policyId counts =>
          if fails then some (s.goto i .failed)
          else
            let tally := { counts with finalized := isFinalized keccak256 policyId s.chain }
            some { s.goto i (.answered policyId tally) with
              cache := Function.update s.cache policyId (some ⟨tally, now⟩) }
      | _ => none

/-- The service as the machine its occurrences drive. -/
def machine : Machine Service Occurrence Empty Unit where
  call s o :=
    match occur keccak256 s o with
    | some s' => .ok (s', [])
    | none => .error ()

/-- What an occurrence does. -/
inductive Step (s : Service) : Occurrence → Service → Prop where
  | block (entries : List Log) : Step s (.block entries) { s with chain := s.chain ++ entries }
  | hit {i : ℕ} {policyId : String} {now : ℤ} {cached : CacheEntry} (unused : s.phase i = .unused)
      (present : s.cache policyId = some cached) (fresh : now - cached.cachedAt < cacheTtlMs) :
      Step s (.getTally i policyId now) (s.goto i (.answered policyId cached.tally))
  | miss {i : ℕ} {policyId : String} {now : ℤ} (unused : s.phase i = .unused)
      (stale : s.fresh policyId now = none) :
      Step s (.getTally i policyId now) (s.goto i (.querying policyId))
  | failed {i : ℕ} {o : Occurrence} (begun : s.phase i ≠ .unused) (reads : o.reads = true) :
      Step s o (s.goto i .failed)
  | counted {i : ℕ} {policyId : String} {tally : PolicyTally}
      (waiting : s.phase i = .querying policyId)
      (counts : countVotes keccak256 policyId s.chain = some tally) :
      Step s (.votes i false) (s.goto i (.counted policyId tally))
  | finished {i : ℕ} {policyId : String} {counts : PolicyTally} {now : ℤ}
      (waiting : s.phase i = .counted policyId counts) :
      Step s (.finals i false now)
        { s.goto i (.answered policyId
            { counts with finalized := isFinalized keccak256 policyId s.chain }) with
          cache := Function.update s.cache policyId
            (some ⟨{ counts with finalized := isFinalized keccak256 policyId s.chain }, now⟩) }

end Machine

section Steps

variable {keccak256 : Bytes → Bytes32} {s s' : Service} {o : Occurrence}

theorem Service.fresh_eq_some {policyId : String} {now : ℤ} {tally : PolicyTally} :
    s.fresh policyId now = some tally ↔
      ∃ cached, s.cache policyId = some cached ∧ now - cached.cachedAt < cacheTtlMs ∧
        cached.tally = tally := by
  rw [Service.fresh]
  cases s.cache policyId with
  | none => simp
  | some cached => simp

theorem Step.of_occur (done : occur keccak256 s o = some s') : Step keccak256 s o s' := by
  cases o with
  | block entries =>
      cases done
      exact .block entries
  | getTally i policyId now =>
      simp only [occur] at done
      split at done
      · rename_i unused
        split at done
        · rename_i tally fresh
          obtain ⟨cached, present, young, rfl⟩ := Service.fresh_eq_some.mp fresh
          cases done
          exact .hit unused present young
        · cases done
          exact .miss unused ‹_›
      · cases done
  | votes i fails =>
      simp only [occur] at done
      split at done
      · rename_i waiting
        have begun : s.phase i ≠ .unused := fun unused => by cases waiting.symm.trans unused
        split at done
        · cases done
          exact .failed begun rfl
        · rename_i succeeds
          obtain rfl := Bool.eq_false_of_not_eq_true succeeds
          split at done
          · cases done
            exact .counted waiting ‹_›
          · cases done
            exact .failed begun rfl
      · cases done
  | finals i fails now =>
      simp only [occur] at done
      split at done
      · rename_i waiting
        split at done
        · cases done
          exact .failed (fun unused => by cases waiting.symm.trans unused) rfl
        · rename_i succeeds
          obtain rfl := Bool.eq_false_of_not_eq_true succeeds
          cases done
          exact .finished waiting
      · cases done

theorem Step.of_call {new : List Empty} (done : (machine keccak256).call s o = .ok (s', new)) :
    Step keccak256 s o s' := by
  simp only [machine] at done
  split at done
  · cases done
    exact .of_occur ‹_›
  · cases done

theorem Service.phase_goto (i j : ℕ) (phase : Phase) :
    (s.goto i phase).phase j = if j = i then phase else s.phase j :=
  Function.update_apply _ _ _ _

/-- How an answer arises. -/
theorem Step.answered (step : Step keccak256 s o s') {i : ℕ} {policyId : String}
    {tally : PolicyTally} (answered : s'.phase i = .answered policyId tally) :
    s.phase i = .answered policyId tally ∨
      (∃ cached, s.cache policyId = some cached ∧ tally = cached.tally ∧ s'.cache = s.cache) ∨
      ∃ counts now, s.phase i = .counted policyId counts ∧
        tally = { counts with finalized := isFinalized keccak256 policyId s.chain } ∧
        s'.cache policyId = some ⟨tally, now⟩ := by
  -- the call that moves has come to another place than before
  have moved : ∀ (s : Service) (j : ℕ) (phase : Phase),
      (s.goto j phase).phase i = .answered policyId tally →
        s.phase i = .answered policyId tally ∨ j = i ∧ phase = .answered policyId tally := by
    intro s j phase there
    rw [Service.phase_goto] at there
    split at there
    · exact .inr ⟨‹i = j›.symm, there⟩
    · exact .inl there
  cases step with
  | block entries => exact .inl answered
  | hit unused present fresh =>
      rcases moved _ _ _ answered with before | ⟨rfl, same⟩
      · exact .inl before
      · obtain ⟨rfl, rfl⟩ := Phase.answered.inj same
        exact .inr (.inl ⟨_, present, rfl, rfl⟩)
  | miss unused stale =>
      exact (moved _ _ _ answered).imp_right fun both => (by cases both.2)
  | failed begun reads =>
      exact (moved _ _ _ answered).imp_right fun both => (by cases both.2)
  | counted waiting counts =>
      exact (moved _ _ _ answered).imp_right fun both => (by cases both.2)
  | finished waiting =>
      rcases moved _ _ _ answered with before | ⟨rfl, same⟩
      · exact .inl before
      · obtain ⟨rfl, rfl⟩ := Phase.answered.inj same
        exact .inr (.inr ⟨_, _, waiting, rfl, Function.update_self _ _ _⟩)

/-- How the cache changes. -/
theorem Step.cache_eq (step : Step keccak256 s o s') (policyId : String) :
    s'.cache policyId = s.cache policyId ∨
      ∃ i counts now, s.phase i = .counted policyId counts ∧
        s'.cache policyId =
          some ⟨{ counts with finalized := isFinalized keccak256 policyId s.chain }, now⟩ := by
  cases step with
  | finished waiting =>
      rename_i i p counts now
      by_cases same : policyId = p
      · subst p
        exact .inr ⟨i, counts, now, waiting, Function.update_self _ _ _⟩
      · exact .inl (Function.update_of_ne same _ _)
  | _ => exact .inl rfl

end Steps

/-! ## Where a tally comes from -/

/-- The entries the occurrences add to the chain. -/
def mined : List Occurrence → List Log
  | [] => []
  | .block entries :: rest => entries ++ mined rest
  | _ :: rest => mined rest

theorem mined_append (before after : List Occurrence) :
    mined (before ++ after) = mined before ++ mined after := by
  induction before with
  | nil => rfl
  | cons o before ih =>
      cases o with
      | block entries => rw [List.cons_append, mined, mined, ih, List.append_assoc]
      | _ => exact ih

section Source

variable (keccak256 : Bytes → Bytes32)

/-- The call has begun and counted the votes. -/
def Counted (taken : List Occurrence) (i : ℕ) (policyId : String) (counts : PolicyTally) : Prop :=
  ∃ before between after now,
    taken = before ++ .getTally i policyId now :: (between ++ .votes i false :: after) ∧
      countVotes keccak256 policyId (mined (before ++ between)) = some counts

/-- The call has begun, counted the votes, and looked for the finalisation at the time
`cachedAt`. -/
def Computed (taken : List Occurrence) (i : ℕ) (policyId : String) (tally : PolicyTally)
    (cachedAt : ℤ) : Prop :=
  ∃ before between meanwhile after now counts,
    taken = before ++ .getTally i policyId now ::
      (between ++ .votes i false :: (meanwhile ++ .finals i false cachedAt :: after)) ∧
      countVotes keccak256 policyId (mined (before ++ between)) = some counts ∧
      tally = { counts with
        finalized := isFinalized keccak256 policyId (mined (before ++ between ++ meanwhile)) }

/-- The call has computed the tally, or found it in the cache. -/
def Answers (taken : List Occurrence) (i : ℕ) (policyId : String) (tally : PolicyTally) : Prop :=
  (∃ cachedAt, Computed keccak256 taken i policyId tally cachedAt) ∨
    ∃ before after now, taken = before ++ .getTally i policyId now :: after ∧
      ∃ j cachedAt, Computed keccak256 before j policyId tally cachedAt ∧
        now - cachedAt < cacheTtlMs

/-- What a call stands for, where it is. -/
def PhaseSourced (taken : List Occurrence) (i : ℕ) : Phase → Prop
  | .unused | .failed => True
  | .querying policyId => ∃ before after now, taken = before ++ .getTally i policyId now :: after
  | .counted policyId counts => Counted keccak256 taken i policyId counts
  | .answered policyId tally => Answers keccak256 taken i policyId tally

/-- The chain, the cache and every call come from what has occurred. -/
structure Sourced (s : Service) (taken : List Occurrence) : Prop where
  chain : s.chain = mined taken
  cache : ∀ policyId cached, s.cache policyId = some cached →
    ∃ i, Computed keccak256 taken i policyId cached.tally cached.cachedAt
  phase : ∀ i, PhaseSourced keccak256 taken i (s.phase i)

variable {keccak256} {taken : List Occurrence} {i : ℕ} {policyId : String} {tally : PolicyTally}

theorem Counted.concat (counted : Counted keccak256 taken i policyId tally) (o : Occurrence) :
    Counted keccak256 (taken ++ [o]) i policyId tally := by
  obtain ⟨before, between, after, now, rfl, counts⟩ := counted
  exact ⟨before, between, after ++ [o], now, by simp, counts⟩

theorem Computed.concat {cachedAt : ℤ}
    (computed : Computed keccak256 taken i policyId tally cachedAt) (o : Occurrence) :
    Computed keccak256 (taken ++ [o]) i policyId tally cachedAt := by
  obtain ⟨before, between, meanwhile, after, now, counts, rfl, counted, same⟩ := computed
  exact ⟨before, between, meanwhile, after ++ [o], now, counts, by simp, counted, same⟩

theorem Answers.concat (answers : Answers keccak256 taken i policyId tally) (o : Occurrence) :
    Answers keccak256 (taken ++ [o]) i policyId tally := by
  rcases answers with ⟨cachedAt, computed⟩ | ⟨before, after, now, rfl, found⟩
  · exact .inl ⟨cachedAt, computed.concat o⟩
  · exact .inr ⟨before, after ++ [o], now, by simp, found⟩

theorem mined_begun (before after : List Occurrence) (now : ℤ) :
    mined (before ++ .getTally i policyId now :: after) = mined (before ++ after) := by
  rw [mined_append, mined_append]
  rfl

theorem Counted.computed (counted : Counted keccak256 taken i policyId tally) (now : ℤ) :
    Computed keccak256 (taken ++ [.finals i false now]) i policyId
      { tally with finalized := isFinalized keccak256 policyId (mined taken) } now := by
  obtain ⟨before, between, after, began, rfl, counts⟩ := counted
  refine ⟨before, between, after, [], began, tally, by simp, counts, ?_⟩
  simp only [mined_append, mined, List.append_assoc]

theorem PhaseSourced.concat {phase : Phase} (sourced : PhaseSourced keccak256 taken i phase)
    (o : Occurrence) : PhaseSourced keccak256 (taken ++ [o]) i phase := by
  cases phase with
  | unused => trivial
  | querying policyId =>
      obtain ⟨before, after, now, rfl⟩ := sourced
      exact ⟨before, after ++ [o], now, by simp⟩
  | counted policyId counts => exact Counted.concat sourced o
  | answered policyId tally => exact Answers.concat sourced o
  | failed => trivial

variable {s s' : Service} {o : Occurrence}

theorem Sourced.goto (sourced : Sourced keccak256 s taken) (i : ℕ) {phase : Phase}
    (here : PhaseSourced keccak256 taken i phase) : Sourced keccak256 (s.goto i phase) taken where
  chain := sourced.chain
  cache := sourced.cache
  phase j := by
    rw [Service.phase_goto]
    split
    · subst j
      exact here
    · exact sourced.phase j

theorem Sourced.step (sourced : Sourced keccak256 s taken) (step : Step keccak256 s o s') :
    Sourced keccak256 s' (taken ++ [o]) := by
  have cache : ∀ policyId cached, s.cache policyId = some cached →
      ∃ i, Computed keccak256 (taken ++ [o]) i policyId cached.tally cached.cachedAt := by
    intro policyId cached present
    obtain ⟨i, computed⟩ := sourced.cache policyId cached present
    exact ⟨i, computed.concat o⟩
  have phase : ∀ i, PhaseSourced keccak256 (taken ++ [o]) i (s.phase i) :=
    fun i => (sourced.phase i).concat o
  -- no other occurrence mines anything
  have idle : mined [o] = [] → Sourced keccak256 s (taken ++ [o]) := by
    intro nothing
    refine ⟨?_, cache, phase⟩
    rw [mined_append, nothing, List.append_nil, sourced.chain]
  cases step with
  | block entries =>
      refine ⟨?_, cache, phase⟩
      rw [mined_append, sourced.chain, mined, mined, List.append_nil]
  | hit unused present fresh =>
      obtain ⟨j, computed⟩ := sourced.cache _ _ present
      exact (idle rfl).goto _ (.inr ⟨taken, [], _, rfl, j, _, computed, fresh⟩)
  | miss unused stale => exact (idle rfl).goto _ ⟨taken, [], _, rfl⟩
  | failed begun reads =>
      refine (idle ?_).goto _ trivial
      cases o with
      | block entries => cases reads
      | _ => rfl
  | counted waiting counts =>
      rename_i i policyId tally
      have begun := sourced.phase i
      rw [waiting] at begun
      obtain ⟨before, after, now, rfl⟩ := begun
      refine (idle rfl).goto _ ⟨before, after, [], now, by simp, ?_⟩
      rw [← mined_begun, ← sourced.chain, counts]
  | finished waiting =>
      rename_i i policyId counts now
      have counted := sourced.phase i
      rw [waiting] at counted
      have computed := Counted.computed counted now
      rw [← sourced.chain] at computed
      have moved := (idle rfl).goto i
        (show PhaseSourced keccak256 _ i (.answered policyId _) from .inl ⟨now, computed⟩)
      refine ⟨moved.chain, ?_, moved.phase⟩
      intro policyId' cached present
      dsimp only at present
      rw [Function.update_apply] at present
      split at present
      · subst policyId'
        obtain rfl := Option.some.inj present
        exact ⟨i, computed⟩
      · exact cache policyId' cached present

end Source

/-- **Where a tally comes from.**  After every run, a call has been answered with a tally
it has computed itself, or with one that a call had computed less than 30 seconds before
it began, by the clock of the server.  The votes are those of one moment, after the
computing call had begun, and the finalisation is that of a later one. -/
theorem tally_source (keccak256 : Bytes → Bytes32) (occurrences : List Occurrence) (i : ℕ)
    (policyId : String) (tally : PolicyTally)
    (answered : ((machine keccak256).run .start occurrences).phase i = .answered policyId tally) :
    let taken := (machine keccak256).accepted .start occurrences
    (∃ cachedAt, Computed keccak256 taken i policyId tally cachedAt) ∨
      ∃ before after now, taken = before ++ .getTally i policyId now :: after ∧
        ∃ j cachedAt, Computed keccak256 before j policyId tally cachedAt ∧
          now - cachedAt < cacheTtlMs := by
  have sourced : Sourced keccak256 ((machine keccak256).run .start occurrences)
      ((machine keccak256).accepted .start occurrences) := by
    refine Machine.run_induction (I := fun s _ taken => Sourced keccak256 s taken) ?_ ?_
      occurrences
    · refine ⟨rfl, ?_, fun i => trivial⟩
      rintro policyId cached ⟨⟩
    · intro s log taken o s' new sourced done
      exact sourced.step (.of_call done)
  have source := sourced.phase i
  rw [answered] at source
  exact source

/-! ## Tallies that do not go backwards -/

/-- No number of the first tally is the larger one. -/
structure CountsLE (tally later : PolicyTally) : Prop where
  support : tally.support ≤ later.support
  oppose : tally.oppose ≤ later.oppose
  abstain : tally.abstain ≤ later.abstain
  total : tally.total ≤ later.total
  lastBlock : tally.lastBlock ≤ later.lastBlock

/-- Nor is a finalisation taken back. -/
structure AtMost (tally later : PolicyTally) : Prop where
  counts : CountsLE tally later
  finalized : tally.finalized = true → later.finalized = true

theorem CountsLE.refl (tally : PolicyTally) : CountsLE tally tally :=
  ⟨le_rfl, le_rfl, le_rfl, le_rfl, le_rfl⟩

theorem CountsLE.trans {a b c : PolicyTally} (first : CountsLE a b) (second : CountsLE b c) :
    CountsLE a c where
  support := first.support.trans second.support
  oppose := first.oppose.trans second.oppose
  abstain := first.abstain.trans second.abstain
  total := first.total.trans second.total
  lastBlock := first.lastBlock.trans second.lastBlock

/-- The mark is no count. -/
theorem CountsLE.markLeft {a b : PolicyTally} (le : CountsLE a b) (finalized : Bool) :
    CountsLE { a with finalized } b :=
  ⟨le.support, le.oppose, le.abstain, le.total, le.lastBlock⟩

theorem CountsLE.markRight {a b : PolicyTally} (le : CountsLE a b) (finalized : Bool) :
    CountsLE a { b with finalized } :=
  ⟨le.support, le.oppose, le.abstain, le.total, le.lastBlock⟩

theorem AtMost.refl (tally : PolicyTally) : AtMost tally tally := ⟨.refl tally, id⟩

theorem AtMost.trans {a b c : PolicyTally} (first : AtMost a b) (second : AtMost b c) :
    AtMost a c :=
  ⟨first.counts.trans second.counts, second.finalized ∘ first.finalized⟩

theorem countsLE_countEvent (acc : PolicyTally × List Bytes32) (event : VoteCastArgs) :
    CountsLE acc.1 (countEvent acc event).1 := by
  unfold countEvent
  split
  · exact .refl _
  · cases optionMap event.optionId with
    | none => exact ⟨le_rfl, le_rfl, le_rfl, Nat.le_succ _, le_max_left _ _⟩
    | some field =>
        cases field with
        | support => exact ⟨Nat.le_succ _, le_rfl, le_rfl, Nat.le_succ _, le_max_left _ _⟩
        | oppose => exact ⟨le_rfl, Nat.le_succ _, le_rfl, Nat.le_succ _, le_max_left _ _⟩
        | abstain => exact ⟨le_rfl, le_rfl, Nat.le_succ _, Nat.le_succ _, le_max_left _ _⟩

theorem countsLE_foldl (acc : PolicyTally × List Bytes32) (events : List VoteCastArgs) :
    CountsLE acc.1 (events.foldl countEvent acc).1 := by
  induction events generalizing acc with
  | nil => exact .refl _
  | cons event events ih => exact (countsLE_countEvent acc event).trans (ih _)

section Growth

variable {keccak256 : Bytes → Bytes32} {policyId : String} {entries : List Log}

/-- A longer chain has been counted before. -/
theorem countVotes_append {more : List Log} {later : PolicyTally}
    (counts : countVotes keccak256 policyId (entries ++ more) = some later) :
    ∃ earlier, countVotes keccak256 policyId entries = some earlier ∧ CountsLE earlier later := by
  obtain ⟨events, isEvents, rfl⟩ := Option.map_eq_some_iff.mp counts
  rw [voteCastEvents, queryFilter, List.filter_append, List.mapM_append] at isEvents
  obtain ⟨first, isFirst, isEvents⟩ := Option.bind_eq_some_iff.mp isEvents
  obtain ⟨second, -, same⟩ := Option.bind_eq_some_iff.mp isEvents
  obtain rfl := Option.some.inj same
  refine ⟨_, Option.map_eq_some_iff.mpr ⟨first, isFirst, rfl⟩, ?_⟩
  rw [List.foldl_append]
  exact countsLE_foldl _ _

theorem isFinalized_append {more : List Log}
    (finalized : isFinalized keccak256 policyId entries = true) :
    isFinalized keccak256 policyId (entries ++ more) = true := by
  rw [isFinalized, decide_eq_true_eq] at finalized ⊢
  rw [queryFilter, List.filter_append, List.length_append]
  exact Nat.lt_of_lt_of_le finalized (Nat.le_add_right _ _)

end Growth

/-- The call is between its beginning and its answer, for the policy. -/
def Phase.Concerns (policyId : String) : Phase → Prop
  | .querying p | .counted p _ => p = policyId
  | _ => False

/-- A call that misses the cache begins when no other is in flight for the policy. -/
def Apart (policyId : String) (s : Service) : Occurrence → Prop
  | .getTally _ p now => p = policyId → s.fresh p now = none → ∀ j, ¬ (s.phase j).Concerns policyId
  | _ => True

/-- What is cached has been counted before what is being counted, and that before what
is on the chain now. -/
structure Orderly (keccak256 : Bytes → Bytes32) (policyId : String) (s : Service) : Prop where
  cache : ∀ cached, s.cache policyId = some cached →
    (∀ now, countVotes keccak256 policyId s.chain = some now → CountsLE cached.tally now) ∧
      (cached.tally.finalized = true → isFinalized keccak256 policyId s.chain = true)
  counted : ∀ i counts, s.phase i = .counted policyId counts →
    (∀ cached, s.cache policyId = some cached → CountsLE cached.tally counts) ∧
      ∀ now, countVotes keccak256 policyId s.chain = some now → CountsLE counts now
  single : ∀ i j, (s.phase i).Concerns policyId → (s.phase j).Concerns policyId → i = j

section Orderly

variable {keccak256 : Bytes → Bytes32} {policyId : String} {s s' : Service} {o : Occurrence}

/-- A call that is not in flight any more, or for another policy. -/
theorem Orderly.goto (orderly : Orderly keccak256 policyId s) (i : ℕ) {phase : Phase}
    (counted : ∀ counts, phase = .counted policyId counts →
      (∀ cached, s.cache policyId = some cached → CountsLE cached.tally counts) ∧
        ∀ now, countVotes keccak256 policyId s.chain = some now → CountsLE counts now)
    (concerns : phase.Concerns policyId → ∀ j, (s.phase j).Concerns policyId → j = i) :
    Orderly keccak256 policyId (s.goto i phase) where
  cache := orderly.cache
  counted j counts waiting := by
    rw [Service.phase_goto] at waiting
    split at waiting
    · exact counted counts waiting
    · exact orderly.counted j counts waiting
  single j k concernsJ concernsK := by
    rw [Service.phase_goto] at concernsJ concernsK
    split at concernsJ
    · split at concernsK
      · exact ‹j = i›.trans ‹k = i›.symm
      · exact ‹j = i›.trans (concerns concernsJ k concernsK).symm
    · split at concernsK
      · exact (concerns concernsK j concernsJ).trans ‹k = i›.symm
      · exact orderly.single j k concernsJ concernsK

theorem Orderly.step (orderly : Orderly keccak256 policyId s) (apart : Apart policyId s o)
    (step : Step keccak256 s o s') : Orderly keccak256 policyId s' := by
  cases step with
  | block entries =>
      refine ⟨fun cached present => ⟨fun now counts => ?_, fun finalized => ?_⟩,
        fun i counts waiting => ⟨(orderly.counted i counts waiting).1, fun now counts' => ?_⟩,
        orderly.single⟩
      · obtain ⟨earlier, counts', le⟩ := countVotes_append counts
        exact ((orderly.cache cached present).1 earlier counts').trans le
      · exact isFinalized_append ((orderly.cache cached present).2 finalized)
      · obtain ⟨earlier, before, le⟩ := countVotes_append counts'
        exact ((orderly.counted i counts waiting).2 earlier before).trans le
  | hit unused present fresh =>
      exact orderly.goto _ (fun counts same => by cases same) fun concerns => concerns.elim
  | miss unused stale =>
      rename_i i p now
      refine orderly.goto _ (fun counts same => by cases same) fun concerns j busy => ?_
      exact absurd busy (apart concerns stale j)
  | failed begun reads =>
      exact orderly.goto _ (fun counts same => by cases same) fun concerns => concerns.elim
  | counted waiting counts =>
      rename_i i p tally
      refine orderly.goto _ (fun counts' same => ?_) fun concerns j busy => ?_
      · obtain ⟨rfl, rfl⟩ := Phase.counted.inj same
        refine ⟨fun cached present => (orderly.cache cached present).1 _ counts, ?_⟩
        intro now again
        obtain rfl := Option.some.inj (counts.symm.trans again)
        exact .refl _
      · refine orderly.single j i busy ?_
        rw [waiting]
        exact concerns
  | finished waiting =>
      rename_i i p counts now
      have moved : Orderly keccak256 policyId (s.goto i (.answered p
          { counts with finalized := isFinalized keccak256 p s.chain })) :=
        orderly.goto _ (fun counts same => by cases same) fun concerns => concerns.elim
      by_cases same : policyId = p
      · subst p
        have here := orderly.counted i counts waiting
        have concerned : (s.phase i).Concerns policyId := by
          rw [waiting]
          rfl
        refine ⟨fun cached present => ?_, fun j counts' waiting' => ?_, moved.single⟩
        · dsimp only at present
          rw [Function.update_self] at present
          obtain rfl := Option.some.inj present
          exact ⟨fun now counted => (here.2 now counted).markLeft _, id⟩
        · -- no other call is in flight
          have there : (s.goto i (.answered policyId
              { counts with finalized := isFinalized keccak256 policyId s.chain })).phase j =
              .counted policyId counts' := waiting'
          rw [Service.phase_goto] at there
          split at there
          · cases there
          · have busy : (s.phase j).Concerns policyId := by
              rw [there]
              rfl
            exact absurd (orderly.single j i busy concerned) ‹_›
      · have kept : ∀ value, Function.update s.cache p value policyId = s.cache policyId :=
          fun value => Function.update_of_ne same _ _
        refine ⟨fun cached present => ?_, fun j counts' waiting' => ⟨fun cached present => ?_, ?_⟩,
          moved.single⟩
        · exact moved.cache cached ((kept _).symm.trans present)
        · exact (moved.counted j counts' waiting').1 cached ((kept _).symm.trans present)
        · exact (moved.counted j counts' waiting').2

/-- A tally that is being counted is no less than the cached one. -/
theorem Orderly.cached_le (orderly : Orderly keccak256 policyId s) {i : ℕ} {counts : PolicyTally}
    (waiting : s.phase i = .counted policyId counts) {cached : CacheEntry}
    (present : s.cache policyId = some cached) :
    AtMost cached.tally
      { counts with finalized := isFinalized keccak256 policyId s.chain } where
  counts := ((orderly.counted i counts waiting).1 cached present).markRight _
  finalized := (orderly.cache cached present).2

/-- The cache only grows. -/
theorem Orderly.cache_grows (orderly : Orderly keccak256 policyId s)
    (step : Step keccak256 s o s') {cached : CacheEntry}
    (present : s.cache policyId = some cached) :
    ∃ later, s'.cache policyId = some later ∧ AtMost cached.tally later.tally := by
  rcases step.cache_eq policyId with same | ⟨i, counts, now, waiting, written⟩
  · exact ⟨cached, same.trans present, .refl _⟩
  · exact ⟨_, written, orderly.cached_le waiting present⟩

/-- What has been answered is in the cache, or something newer. -/
theorem Orderly.answered_le_cached (orderly : Orderly keccak256 policyId s)
    (below : ∀ i tally, s.phase i = .answered policyId tally →
      ∃ cached, s.cache policyId = some cached ∧ AtMost tally cached.tally)
    (step : Step keccak256 s o s') (i : ℕ) (tally : PolicyTally)
    (answered : s'.phase i = .answered policyId tally) :
    ∃ cached, s'.cache policyId = some cached ∧ AtMost tally cached.tally := by
  rcases step.answered answered with before | ⟨cached, present, rfl, kept⟩ | ⟨_, _, _, rfl, written⟩
  · obtain ⟨cached, present, le⟩ := below i tally before
    obtain ⟨later, present', grown⟩ := orderly.cache_grows step present
    exact ⟨later, present', le.trans grown⟩
  · exact ⟨cached, kept ▸ present, .refl _⟩
  · exact ⟨_, written, .refl _⟩

/-- A new answer is at least what has been cached. -/
theorem Orderly.cached_le_answered (orderly : Orderly keccak256 policyId s)
    (step : Step keccak256 s o s') {cached : CacheEntry}
    (present : s.cache policyId = some cached) {i : ℕ} {tally : PolicyTally}
    (answered : s'.phase i = .answered policyId tally) :
    s.phase i = .answered policyId tally ∨ AtMost cached.tally tally := by
  rcases step.answered answered with before | ⟨same, present', rfl, -⟩ | ⟨_, _, waiting, rfl, -⟩
  · exact .inl before
  · obtain rfl := Option.some.inj (present.symm.trans present')
    exact .inr (.refl _)
  · exact .inr (orderly.cached_le waiting present)

end Orderly

/-- **Tallies do not go backwards** for a policy whose calls do not overlap: a call that
begins after another has been answered is answered with no smaller number, and not
without the finalisation if the other had it. -/
theorem tally_never_decreases (keccak256 : Bytes → Bytes32) (policyId : String)
    (before after : List Occurrence)
    (apart : (machine keccak256).Along (Apart policyId) .start (before ++ after))
    (i j : ℕ) (tally later : PolicyTally)
    (answered : ((machine keccak256).run .start before).phase i = .answered policyId tally)
    (unused : ((machine keccak256).run .start before).phase j = .unused)
    (next : ((machine keccak256).run .start (before ++ after)).phase j =
      .answered policyId later) : AtMost tally later := by
  obtain ⟨apartBefore, apartAfter⟩ := (Machine.along_append _ _ _).mp apart
  have first : Orderly keccak256 policyId ((machine keccak256).run .start before) ∧
      ∀ i tally, ((machine keccak256).run .start before).phase i = .answered policyId tally →
        ∃ cached, ((machine keccak256).run .start before).cache policyId = some cached ∧
          AtMost tally cached.tally := by
    refine Machine.run_invariant_along (P := Apart policyId)
      (I := fun s => Orderly keccak256 policyId s ∧
        ∀ i tally, s.phase i = .answered policyId tally →
          ∃ cached, s.cache policyId = some cached ∧ AtMost tally cached.tally)
      ⟨⟨?_, ?_, ?_⟩, ?_⟩ ?_ before apartBefore
    · rintro cached ⟨⟩
    · rintro i counts ⟨⟩
    · rintro i j ⟨⟩
    · rintro i tally ⟨⟩
    · intro s o s' new held apart done
      have step := Step.of_call done
      exact ⟨held.1.step apart step, held.1.answered_le_cached held.2 step⟩
  rw [Machine.run_append] at next
  generalize (machine keccak256).run .start before = middle at *
  obtain ⟨cached, present, le⟩ := first.2 i tally answered
  have second : Orderly keccak256 policyId ((machine keccak256).run middle after) ∧
      (∃ cached, ((machine keccak256).run middle after).cache policyId = some cached ∧
        AtMost tally cached.tally) ∧
      ∀ later, ((machine keccak256).run middle after).phase j = .answered policyId later →
        AtMost tally later := by
    refine Machine.run_invariant_along (P := Apart policyId)
      (I := fun s => Orderly keccak256 policyId s ∧
        (∃ cached, s.cache policyId = some cached ∧ AtMost tally cached.tally) ∧
        ∀ later, s.phase j = .answered policyId later → AtMost tally later)
      ⟨first.1, ⟨cached, present, le⟩, fun later wrong => (by cases unused.symm.trans wrong)⟩ ?_
      after apartAfter
    rintro s o s' new ⟨orderly, ⟨cached, present, le⟩, above⟩ apart done
    have step := Step.of_call done
    obtain ⟨newer, present', grown⟩ := orderly.cache_grows step present
    refine ⟨orderly.step apart step, ⟨newer, present', le.trans grown⟩, fun later isAnswer => ?_⟩
    rcases orderly.cached_le_answered step present isAnswer with known | new
    · exact above later known
    · exact le.trans new
  exact second.2.2 later next

/-! ## Two votes -/

section Sample

/-- The policy of the sample calls. -/
def samplePolicy : String := "healthcare-reform-2026"

/-- The second vote comes between the two questions of the first call. -/
def sampleFirst : List Occurrence :=
  [.getTally 0 samplePolicy 0, .block [LiveTallyService.sampleEntry 8 "option-support" 5],
    .votes 0 false, .block [LiveTallyService.sampleEntry 9 "option-oppose" 6], .finals 0 false 1000]

/-- The second call is answered from the cache, and the third is not. -/
def sampleAfter : List Occurrence :=
  [.getTally 1 samplePolicy 30500, .getTally 2 samplePolicy 31000, .votes 2 false,
    .finals 2 false 31200]

/-- One vote in support. -/
def sampleTally : PolicyTally := ⟨samplePolicy, 1, 0, 0, 1, 5, false⟩

/-- Another vote, opposed, a block later. -/
def sampleLater : PolicyTally := ⟨samplePolicy, 1, 1, 0, 2, 6, false⟩

theorem tally_source_sample :
    ∃ before after now, (machine sampleKeccak256).accepted .start (sampleFirst ++ sampleAfter) =
        before ++ .getTally 1 samplePolicy now :: after ∧
      ∃ j cachedAt, Computed sampleKeccak256 before j samplePolicy sampleTally cachedAt ∧
        now - cachedAt < cacheTtlMs := by
  have answered : ((machine sampleKeccak256).run .start (sampleFirst ++ sampleAfter)).phase 1 =
      .answered samplePolicy sampleTally := by decide +kernel
  rcases tally_source sampleKeccak256 _ 1 samplePolicy sampleTally answered with
    ⟨cachedAt, before, between, meanwhile, after, now, counts, split, -⟩ | found
  · -- the call asks for no votes
    have asked : Occurrence.votes 1 false ∈
        (machine sampleKeccak256).accepted .start (sampleFirst ++ sampleAfter) := by
      rw [split]
      simp
    have listed := (Machine.accepted_sublist _ _).subset asked
    simp [sampleFirst, sampleAfter] at listed
  · exact found

/-- The first two calls are answered when the third begins. -/
theorem idle_sample (j : ℕ) :
    ¬ (((machine sampleKeccak256).run .start
      (sampleFirst ++ [.getTally 1 samplePolicy 30500])).phase j).Concerns samplePolicy := by
  have counts : countVotes sampleKeccak256 samplePolicy
      [LiveTallyService.sampleEntry 8 "option-support" 5] = some sampleTally := by decide +kernel
  simp only [sampleFirst, List.cons_append, List.nil_append, Machine.run, List.foldl_cons,
    List.foldl_nil, Machine.next, machine, occur, Service.start, Service.fresh, Service.goto,
    Function.update_apply, counts, if_true]
  by_cases first : j = 0
  · subst first
    simp [Phase.Concerns, cacheTtlMs]
  · by_cases second : j = 1
    · subst second
      simp [Phase.Concerns, cacheTtlMs]
    · simp [first, second, Phase.Concerns, cacheTtlMs]

theorem tally_never_decreases_sample : AtMost sampleTally sampleLater := by
  refine tally_never_decreases sampleKeccak256 samplePolicy sampleFirst sampleAfter ?_ 0 2
    sampleTally sampleLater (by decide +kernel) (by decide +kernel) (by decide +kernel)
  have fresh : ((machine sampleKeccak256).run .start sampleFirst).fresh samplePolicy 30500 =
      some sampleTally := by decide +kernel
  refine (Machine.along_append _ _ _).mpr ⟨⟨fun _ _ j => id, trivial, trivial, trivial, trivial,
    trivial⟩, fun _ stale => (by cases fresh.symm.trans stale), fun _ _ j => ?_, trivial, trivial,
    trivial⟩
  rw [← Machine.run_concat]
  exact idle_sample j

end Sample

end TheVoteApp.TallyCache
