import TheVoteApp.BabyJubjub.OffChain
import TheVoteApp.JavaScript.Double

/-!
# Baby-step giant-step

`bsgs` of `HomomorphicTallyService.ts` searches the number `k ≤ maxK` with
`k • G = T`.  It tabulates the multiples of `G` below `m` under their printed
coordinates and then subtracts `m • G` from `T` until a tabulated point shows
up.

The points are `bigint`s, but the counters of the loops and the sum `i * m + j`
are numbers, rounded from `2 ^ 53` on.  While `m` is at most `2 ^ 53` the loops
end: two points have the same key only if they are equal, and below the order of
`G` multiples determine their scalars, so the table holds exactly the small
multiples (`babySteps_spec`), and a point `n • G` with `n < m * m` is met once, in
round `n / m`, as the number `rounded m n` (`giantSteps_eq_rounded`).  With a larger
`m` the counter of the first loop stops at `2 ^ 53` and the loop never ends
(`babySteps_eq_none`).

## Main definitions

* `babySteps`, `giantSteps` — the two loops, for a number of rounds
* `bsgsWithin` — the search as far as a number of rounds goes
* `bsgs` — the search; `none` if it never ends (`bsgs_eq_some_iff_exists`)
* `rounded` — a scalar as `bsgs` adds it up
-/

namespace TheVoteApp.HomomorphicTallyService

open Foundations BabyJubjub JavaScript

/-! ## The search -/

/-- The key `${x},${y}` of a point. -/
def pointKey (P : BigPoint) : String := toString P.1 ++ "," ++ toString P.2

/-- The table, and the multiple to be tabulated next. -/
abbrev BabyState := (String → Option ℕ) × BigPoint

/-- One round of the first loop: tabulate the current multiple, add `G`. -/
def babyStep (state : BabyState) (j : ℕ) : BabyState :=
  (Function.update state.1 (pointKey state.2) (some j),
    bjjAdd state.2.1 state.2.2 bjjG.1 bjjG.2)

/-- `for (let j = …; j < m; j++)`, the first loop from `j` on; `none` if it has not
ended after `fuel` tests of its condition. -/
def babySteps (m : ℕ) : ℕ → ℕ → BabyState → Option BabyState
  | 0, _, _ => none
  | fuel + 1, j, state =>
    if j < m then babySteps m fuel (toNumber (j + 1)) (babyStep state j) else some state

/-- `const k = i * m + j`; the product is rounded, then the sum. -/
def scalarAt (m i j : ℕ) : ℕ := toNumber (toNumber (i * m) + j)

/-- `for (let i = …; i < m; i++)`, the second loop from `i` on; what `bsgs` returns, or
`none` if nothing has been returned after `fuel` tests of the condition. -/
def giantSteps (table : String → Option ℕ) (step : BigPoint) (m maxK : ℕ) :
    ℕ → ℕ → BigPoint → Option (Option ℕ)
  | 0, _, _ => none
  | fuel + 1, i, g =>
    if i < m then
      match ((table (pointKey g)).map (scalarAt m i)).filter fun k => decide (k ≤ maxK) with
      | some k => some (some k)
      | none =>
        giantSteps table step m maxK fuel (toNumber (i + 1)) (bjjAdd g.1 g.2 step.1 step.2)
    else some none

/-- `const m = Math.ceil(Math.sqrt(maxK)) + 1` -/
def stepCount (maxK : ℕ) : ℕ := toNumber (ceilSqrt maxK + 1)

/-- `bsgs`, when each loop may test its condition `fuel` times. -/
def bsgsWithin (fuel : ℕ) (Tx Ty : ℤ) (maxK : ℕ) : Option (Option ℕ) := do
  let m := stepCount maxK
  let (table, _) ← babySteps m fuel 0 (fun _ => none, bjjNeutral)
  let mg := bjjScalarMul m bjjG.1 bjjG.2
  giantSteps table (bjjNeg mg.1 mg.2) m maxK fuel 0 (Tx, Ty)

/-- `bsgs`: `some none` is `null`, and `none` a loop that never ends.  A loop that ends
tests its condition at most once more than it has rounds. -/
def bsgs (Tx Ty : ℤ) (maxK : ℕ) : Option (Option ℕ) :=
  bsgsWithin (stepCount maxK + 1) Tx Ty maxK

/-! ## Keys -/

theorem toString_natCast (n : ℕ) : toString (n : ℤ) = n.repr := rfl

theorem comma_notMem_toList_repr (n : ℕ) : ',' ∉ n.repr.toList := by
  intro mem
  rw [Nat.toList_repr] at mem
  have digit := Nat.isDigit_of_mem_toDigits (by decide) (by decide) mem
  exact absurd digit (by decide)

/-- Points with the same key are equal. -/
theorem pointKey_injective {P Q : curve.Point}
    (same : pointKey (bigCoords P) = pointKey (bigCoords Q)) : P = Q := by
  have lists := congrArg String.toList same
  simp only [pointKey, bigCoords, toString_natCast, String.toList_append, List.append_assoc]
    at lists
  obtain ⟨x, -, y⟩ := (List.append_cons_inj_of_notMem (comma_notMem_toList_repr _)
    (comma_notMem_toList_repr _)).mp lists
  apply coords_injective
  apply Prod.ext
  · exact Nat.repr_injective (String.toList_inj.mp x)
  · exact Nat.repr_injective (String.toList_inj.mp y)

/-! ## The table -/

/-- The loop of the first `m` rounds, as a fold. -/
def tabulated (m : ℕ) : BabyState := (List.range m).foldl babyStep (fun _ => none, bjjNeutral)

/-- While the counter is exact, the loop is the fold over its rounds. -/
theorem babySteps_eq_foldl {m : ℕ} (small : m ≤ 2 ^ 53) {fuel j : ℕ} (before : j ≤ m)
    (enough : m < j + fuel) (state : BabyState) :
    babySteps m fuel j state = some ((List.range' j (m - j)).foldl babyStep state) := by
  induction fuel generalizing j state with
  | zero => omega
  | succ fuel ih =>
      rw [babySteps]
      split
      · rename_i round
        have exact : toNumber (j + 1) = j + 1 := toNumber_of_le_two_pow (by omega)
        rw [exact, ih (by omega) (by omega), show m - j = m - (j + 1) + 1 by omega,
          List.range'_succ, List.foldl_cons]
      · rename_i last
        obtain rfl : j = m := by omega
        rw [Nat.sub_self]
        rfl

/-- **The first loop of a search that is too wide never ends**: its counter stays at
`2 ^ 53`. -/
theorem babySteps_eq_none {m : ℕ} (large : 2 ^ 53 < m) (fuel : ℕ) {j : ℕ} (stuck : j ≤ 2 ^ 53)
    (state : BabyState) : babySteps m fuel j state = none := by
  induction fuel generalizing j state with
  | zero => rfl
  | succ fuel ih =>
      rw [babySteps, if_pos (stuck.trans_lt large)]
      refine ih ?_ _
      rcases stuck.lt_or_eq with below | rfl
      · rw [toNumber_of_le_two_pow below]
        exact below
      · exact toNumber_two_pow_succ.le

/-- **The first loop.**  After `m` rounds the table holds the multiples of `G`
below `m`, each with its scalar. -/
theorem babySteps_spec (m : ℕ) (small : m ≤ subgroupOrder) :
    (tabulated m).2 = bigCoords (m • base) ∧
      ∀ P j, (tabulated m).1 (pointKey (bigCoords P)) = some j ↔ j < m ∧ j • base = P := by
  induction m with
  | zero =>
      refine ⟨?_, ?_⟩
      · rw [zero_nsmul, bigCoords_zero]
        rfl
      · intro P j
        simp [tabulated]
  | succ m ih =>
      obtain ⟨current, table⟩ := ih (by omega)
      have round : tabulated (m + 1) = babyStep (tabulated m) m := by
        simp only [tabulated, List.range_succ, List.foldl_append, List.foldl_cons, List.foldl_nil]
      rw [round, babyStep, current]
      refine ⟨?_, ?_⟩
      · rw [← bigCoords_base, bjjAdd_coords, succ_nsmul]
      · intro P j
        dsimp only
        by_cases same : m • base = P
        · subst same
          rw [Function.update_self, Option.some.injEq]
          constructor
          · rintro rfl
            exact ⟨by omega, rfl⟩
          -- below the order of the group no multiple occurs twice
          · rintro ⟨bound, multiple⟩
            exact (nsmul_base_injOn (by omega) (by omega) multiple).symm
        · have otherKey : pointKey (bigCoords P) ≠ pointKey (bigCoords (m • base)) := by
            intro key
            exact same (pointKey_injective key).symm
          rw [Function.update_of_ne otherKey, table]
          constructor
          · rintro ⟨bound, multiple⟩
            exact ⟨by omega, multiple⟩
          · rintro ⟨bound, multiple⟩
            refine ⟨?_, multiple⟩
            by_contra last
            obtain rfl : j = m := by omega
            exact same multiple

/-! ## The second loop -/

/-- The target of round `i`. -/
def giantTarget (T : curve.Point) (m i : ℕ) : curve.Point := T - (i * m) • base

theorem giantTarget_succ (T : curve.Point) (m i : ℕ) :
    giantTarget T m i + -(m • base) = giantTarget T m (i + 1) := by
  rw [giantTarget, giantTarget, Nat.succ_mul, add_nsmul]
  abel

/-- The scalar `n` as the loop adds it up in round `n / m`. -/
def rounded (m n : ℕ) : ℕ := scalarAt m (n / m) (n % m)

section GiantSteps

variable {table : String → Option ℕ} {m maxK : ℕ} {T : curve.Point}
  (onTable : ∀ P j, table (pointKey (bigCoords P)) = some j ↔ j < m ∧ j • base = P)

/-- One round that returns nothing. -/
theorem giantSteps_succ (small : m ≤ 2 ^ 53) {fuel i : ℕ} (round : i < m)
    (pass : ∀ j, table (pointKey (bigCoords (giantTarget T m i))) = some j →
      maxK < scalarAt m i j) :
    giantSteps table (bigCoords (-(m • base))) m maxK (fuel + 1) i
        (bigCoords (giantTarget T m i)) =
      giantSteps table (bigCoords (-(m • base))) m maxK fuel (i + 1)
        (bigCoords (giantTarget T m (i + 1))) := by
  have exact : toNumber (i + 1) = i + 1 := toNumber_of_le_two_pow (by omega)
  have nothing : ((table (pointKey (bigCoords (giantTarget T m i)))).map (scalarAt m i)).filter
      (fun k => decide (k ≤ maxK)) = none := by
    rw [Option.filter_eq_none_iff]
    intro k found
    obtain ⟨j, listed, rfl⟩ := Option.map_eq_some_iff.mp found
    rw [decide_eq_true_eq, Nat.not_le]
    exact pass j listed
  rw [giantSteps, if_pos round, nothing, exact, bjjAdd_coords, giantTarget_succ]

include onTable

/-- What the table says about the target of a round. -/
theorem add_nsmul_of_listed {i j : ℕ}
    (listed : table (pointKey (bigCoords (giantTarget T m i))) = some j) :
    j < m ∧ (i * m + j) • base = T := by
  obtain ⟨below, multiple⟩ := (onTable _ j).mp listed
  exact ⟨below, by rw [add_nsmul, multiple, giantTarget, add_sub_cancel]⟩

/-- Rounds whose targets are not in the table pass. -/
theorem giantSteps_pass (small : m ≤ 2 ^ 53) {fuel i rounds : ℕ} (within : i + rounds ≤ m)
    (miss : ∀ i' j, i ≤ i' → i' < i + rounds → j < m → (i' * m + j) • base ≠ T) :
    giantSteps table (bigCoords (-(m • base))) m maxK (fuel + rounds) i
        (bigCoords (giantTarget T m i)) =
      giantSteps table (bigCoords (-(m • base))) m maxK fuel (i + rounds)
        (bigCoords (giantTarget T m (i + rounds))) := by
  induction rounds generalizing i with
  | zero => rfl
  | succ rounds ih =>
      have pass : ∀ j, table (pointKey (bigCoords (giantTarget T m i))) = some j →
          maxK < scalarAt m i j := by
        intro j listed
        obtain ⟨below, multiple⟩ := add_nsmul_of_listed onTable listed
        exact absurd multiple (miss i j le_rfl (by omega) below)
      rw [← Nat.add_assoc, giantSteps_succ small (by omega) pass,
        ih (by omega) fun i' j after upTo => miss i' j (by omega) (by omega),
        show i + 1 + rounds = i + (rounds + 1) by omega]

/-- The round after the last. -/
theorem giantSteps_end (small : m ≤ 2 ^ 53) {fuel i : ℕ} (before : i ≤ m) (enough : m < i + fuel)
    (miss : ∀ i' j, i ≤ i' → i' < m → j < m → (i' * m + j) • base ≠ T) :
    giantSteps table (bigCoords (-(m • base))) m maxK fuel i (bigCoords (giantTarget T m i)) =
      some none := by
  obtain ⟨spare, rfl⟩ : ∃ spare, fuel = spare + 1 + (m - i) := ⟨fuel - 1 - (m - i), by omega⟩
  rw [giantSteps_pass onTable small (by omega) fun i' j after upTo =>
    miss i' j after (by omega), giantSteps, if_neg (by omega)]

/-- **The second loop.**  A point `n • G` is met in round `n / m` only, and is returned
as the rounded scalar if that is within the bound. -/
theorem giantSteps_eq_rounded (small : m ≤ 2 ^ 53) (order : m * m ≤ subgroupOrder) {fuel n : ℕ}
    (enough : m < fuel) (below : n < m * m) (multiple : n • base = T) :
    giantSteps table (bigCoords (-(m • base))) m maxK fuel 0 (bigCoords (giantTarget T m 0)) =
      some (if rounded m n ≤ maxK then some (rounded m n) else none) := by
  have positive : 0 < m := Nat.pos_of_mul_pos_right (Nat.zero_lt_of_lt below)
  have round : n / m < m := Nat.div_lt_of_lt_mul below
  have rest : n % m < m := Nat.mod_lt n positive
  have split : n / m * m + n % m = n := Nat.div_add_mod' n m
  -- another round or another entry would be another scalar of the same point
  have only : ∀ i j, i < m → j < m → (i * m + j) • base = T → i = n / m ∧ j = n % m := by
    intro i j roundI belowJ same
    have inside : i * m + j < m * m := by nlinarith
    have scalar : i * m + j = n :=
      nsmul_base_injOn (by omega) (by omega) (same.trans multiple.symm)
    subst scalar
    rw [Nat.add_comm, Nat.add_mul_div_right _ _ positive, Nat.div_eq_of_lt belowJ,
      Nat.add_mul_mod_self_right, Nat.mod_eq_of_lt belowJ]
    omega
  obtain ⟨spare, rfl⟩ : ∃ spare, fuel = spare + 1 + n / m := ⟨fuel - 1 - n / m, by omega⟩
  have passed : giantSteps table (bigCoords (-(m • base))) m maxK (spare + 1 + n / m) 0
      (bigCoords (giantTarget T m 0)) =
        giantSteps table (bigCoords (-(m • base))) m maxK (spare + 1) (0 + n / m)
          (bigCoords (giantTarget T m (0 + n / m))) := by
    refine giantSteps_pass onTable small (by omega) fun i j _ upTo belowJ same => ?_
    have := (only i j (by omega) belowJ same).1
    omega
  rw [passed, Nat.zero_add]
  have listed : table (pointKey (bigCoords (giantTarget T m (n / m)))) = some (n % m) := by
    refine (onTable _ _).mpr ⟨rest, ?_⟩
    rw [giantTarget, ← multiple, eq_sub_iff_add_eq, ← add_nsmul, Nat.add_comm, split]
  by_cases bound : rounded m n ≤ maxK
  · have hit : (some (scalarAt m (n / m) (n % m))).filter (fun k => decide (k ≤ maxK)) =
        some (rounded m n) := by
      rw [Option.filter_some]
      exact if_pos (decide_eq_true bound)
    rw [giantSteps, if_pos round, listed, Option.map_some, hit, if_pos bound]
  · have pass : ∀ j, table (pointKey (bigCoords (giantTarget T m (n / m)))) = some j →
        maxK < scalarAt m (n / m) j := by
      intro j found
      obtain rfl := Option.some.inj (listed.symm.trans found)
      exact Nat.not_le.mp bound
    rw [giantSteps_succ small round pass, if_neg bound]
    refine giantSteps_end onTable small round (by omega) fun i j after upTo belowJ same => ?_
    have := (only i j upTo belowJ same).1
    omega

end GiantSteps

/-! ## The search as a whole -/

section Search

variable {Tx Ty : ℤ} {maxK : ℕ}

theorem babySteps_add {m fuel j : ℕ} {state result : BabyState} (spare : ℕ)
    (ended : babySteps m fuel j state = some result) :
    babySteps m (fuel + spare) j state = some result := by
  induction fuel generalizing j state with
  | zero => cases ended
  | succ fuel ih =>
      rw [Nat.succ_add, babySteps]
      rw [babySteps] at ended
      split
      · rename_i round
        rw [if_pos round] at ended
        exact ih ended
      · rename_i last
        rwa [if_neg last] at ended

theorem giantSteps_add {table : String → Option ℕ} {step g : BigPoint} {m fuel i : ℕ}
    {result : Option ℕ} (spare : ℕ)
    (ended : giantSteps table step m maxK fuel i g = some result) :
    giantSteps table step m maxK (fuel + spare) i g = some result := by
  induction fuel generalizing i g with
  | zero => cases ended
  | succ fuel ih =>
      rw [Nat.succ_add, giantSteps]
      rw [giantSteps] at ended
      split
      · rename_i round
        rw [if_pos round] at ended
        split
        · rename_i k found
          rw [found] at ended
          exact ended
        · rename_i nothing
          rw [nothing] at ended
          exact ih ended
      · rename_i last
        rwa [if_neg last] at ended

/-- Tests to spare change nothing. -/
theorem bsgsWithin_add {fuel : ℕ} {result : Option ℕ} (spare : ℕ)
    (ended : bsgsWithin fuel Tx Ty maxK = some result) :
    bsgsWithin (fuel + spare) Tx Ty maxK = some result := by
  obtain ⟨⟨table, last⟩, first, second⟩ := Option.bind_eq_some_iff.mp ended
  exact Option.bind_eq_some_iff.mpr
    ⟨(table, last), babySteps_add spare first, giantSteps_add spare second⟩

/-- A search that is too wide never ends. -/
theorem bsgsWithin_eq_none (large : 2 ^ 53 < stepCount maxK) (fuel : ℕ) :
    bsgsWithin fuel Tx Ty maxK = none := by
  rw [bsgsWithin, babySteps_eq_none large fuel (Nat.zero_le _)]
  rfl

/-- The two loops after each other. -/
theorem bsgsWithin_eq_giantSteps (small : stepCount maxK ≤ 2 ^ 53) {fuel : ℕ}
    (enough : stepCount maxK < fuel) :
    bsgsWithin fuel Tx Ty maxK =
      giantSteps (tabulated (stepCount maxK)).1 (bigCoords (-(stepCount maxK • base)))
        (stepCount maxK) maxK fuel 0 (Tx, Ty) := by
  have step : bjjNeg (bjjScalarMul (stepCount maxK : ℤ) bjjG.1 bjjG.2).1
      (bjjScalarMul (stepCount maxK : ℤ) bjjG.1 bjjG.2).2 =
        bigCoords (-(stepCount maxK • base)) := by
    rw [← bigCoords_base, bjjScalarMul_coords, bjjNeg_coords]
  have table : babySteps (stepCount maxK) fuel 0 (fun _ => none, bjjNeutral) =
      some (tabulated (stepCount maxK)) := by
    rw [babySteps_eq_foldl small (Nat.zero_le _) (by omega), Nat.sub_zero, ← List.range_eq_range']
    rfl
  rw [bsgsWithin, table]
  show giantSteps _ (bjjNeg _ _) _ _ _ _ _ = _
  rw [step]
  rfl

theorem giantSteps_isSome {table : String → Option ℕ} {step : BigPoint} {m : ℕ}
    (small : m ≤ 2 ^ 53) {fuel i : ℕ} (before : i ≤ m) (enough : m < i + fuel) (g : BigPoint) :
    (giantSteps table step m maxK fuel i g).isSome = true := by
  induction fuel generalizing i g with
  | zero => omega
  | succ fuel ih =>
      rw [giantSteps]
      split
      · split
        · rfl
        · rw [toNumber_of_le_two_pow (by omega)]
          exact ih (by omega) (by omega) _
      · rfl

/-- **`bsgs` is what the search comes to**, however often its loops test their
condition. -/
theorem bsgs_eq_some_iff_exists {result : Option ℕ} :
    bsgs Tx Ty maxK = some result ↔ ∃ fuel, bsgsWithin fuel Tx Ty maxK = some result := by
  constructor
  · intro ended
    exact ⟨_, ended⟩
  · rintro ⟨fuel, ended⟩
    rcases Nat.lt_or_ge (2 ^ 53) (stepCount maxK) with large | small
    · rw [bsgsWithin_eq_none large] at ended
      cases ended
    · have ends : (bsgs Tx Ty maxK).isSome = true := by
        rw [bsgs, bsgsWithin_eq_giantSteps small (Nat.lt_succ_self _)]
        exact giantSteps_isSome small (Nat.zero_le _) (by omega) (Tx, Ty)
      obtain ⟨result', whole⟩ := Option.isSome_iff_exists.mp ends
      have first := bsgsWithin_add (stepCount maxK + 1) ended
      have second := bsgsWithin_add fuel whole
      rw [Nat.add_comm, first] at second
      rw [whole, ← second]

/-- The search has at most `2 ^ 106` scalars in reach, and the order of `G` is larger. -/
theorem stepCount_sq_le (small : stepCount maxK ≤ 2 ^ 53) :
    stepCount maxK * stepCount maxK ≤ subgroupOrder :=
  (Nat.mul_le_mul small small).trans (by norm_num [subgroupOrder])

/-- The loops start at the point itself. -/
theorem giantTarget_zero (T : curve.Point) (m : ℕ) : giantTarget T m 0 = T := by
  rw [giantTarget, Nat.zero_mul, zero_nsmul, sub_zero]

/-- **A point in reach** is found under its rounded scalar. -/
theorem bsgs_eq_rounded (small : stepCount maxK ≤ 2 ^ 53) {T : curve.Point} {n : ℕ}
    (below : n < stepCount maxK * stepCount maxK) (multiple : n • base = T) :
    bsgs (bigCoords T).1 (bigCoords T).2 maxK =
      some (if rounded (stepCount maxK) n ≤ maxK then some (rounded (stepCount maxK) n)
        else none) := by
  have order := stepCount_sq_le small
  have onTable := (babySteps_spec (stepCount maxK) (by nlinarith)).2
  rw [bsgs, bsgsWithin_eq_giantSteps small (Nat.lt_succ_self _), Prod.mk.eta,
    ← giantTarget_zero T (stepCount maxK)]
  exact giantSteps_eq_rounded onTable small order (Nat.lt_succ_self _) below multiple

/-- A point out of reach is not found. -/
theorem bsgs_eq_null (small : stepCount maxK ≤ 2 ^ 53) {T : curve.Point}
    (miss : ∀ n < stepCount maxK * stepCount maxK, n • base ≠ T) :
    bsgs (bigCoords T).1 (bigCoords T).2 maxK = some none := by
  have order := stepCount_sq_le small
  have onTable := (babySteps_spec (stepCount maxK) (by nlinarith)).2
  rw [bsgs, bsgsWithin_eq_giantSteps small (Nat.lt_succ_self _), Prod.mk.eta,
    ← giantTarget_zero T (stepCount maxK)]
  refine giantSteps_end onTable small (Nat.zero_le _) (by omega) fun i j _ round below => ?_
  exact miss (i * stepCount maxK + j) (by nlinarith)

end Search

/-! ## Scalars that are exact -/

theorem rounded_of_le {m n : ℕ} (small : n ≤ 2 ^ 53) : rounded m n = n := by
  have split : n / m * m + n % m = n := Nat.div_add_mod' n m
  have product : n / m * m ≤ 2 ^ 53 := by omega
  rw [rounded, scalarAt, toNumber_of_le_two_pow product, split, toNumber_of_le_two_pow small]

theorem two_pow_le_rounded {m n : ℕ} (large : 2 ^ 53 ≤ n) : 2 ^ 53 ≤ rounded m n := by
  have split : n / m * m + n % m = n := Nat.div_add_mod' n m
  have sum : 2 ^ 53 ≤ toNumber (n / m * m) + n % m := by
    rcases Nat.lt_or_ge (n / m * m) (2 ^ 53) with less | more
    · rw [toNumber_of_lt less]
      omega
    · have := toNumber_mono more
      rw [toNumber_two_pow] at this
      omega
  have := toNumber_mono sum
  rwa [toNumber_two_pow] at this

section SmallBounds

variable {maxK : ℕ} (small : maxK < 2 ^ 53)
include small

/-- The root of a bound below `2 ^ 53` is far below. -/
theorem sqrt_lt_two_pow : maxK.sqrt < 2 ^ 27 :=
  Nat.sqrt_lt.mpr (small.trans (by norm_num))

theorem log2_sqrt_le : maxK.sqrt.log2 ≤ 52 := by
  rcases Nat.eq_zero_or_pos maxK.sqrt with zero | positive
  · rw [zero]
    decide
  · have := (Nat.log2_lt (by omega)).mpr (sqrt_lt_two_pow small)
    omega

theorem stepCount_of_lt : stepCount maxK = ceilSqrt maxK + 1 := by
  have root := ceilSqrt_le (log2_sqrt_le small)
  have := sqrt_lt_two_pow small
  exact toNumber_of_lt (by omega)

theorem stepCount_le : stepCount maxK ≤ 2 ^ 53 := by
  have root := ceilSqrt_le (log2_sqrt_le small)
  have := sqrt_lt_two_pow small
  rw [stepCount_of_lt small]
  omega

/-- The bound is in reach, also where the root is rounded down. -/
theorem lt_stepCount_sq : maxK < stepCount maxK * stepCount maxK := by
  have root := sqrt_le_ceilSqrt (log2_sqrt_le small)
  rw [stepCount_of_lt small]
  exact (Nat.lt_succ_sqrt maxK).trans_le (Nat.mul_le_mul (by omega) (by omega))

/-- **`bsgs`** returns exactly the bounded discrete logarithm, as long as the bound is
below `2 ^ 53`. -/
theorem bsgs_eq_some_iff {T : curve.Point} {k : ℕ} :
    bsgs (bigCoords T).1 (bigCoords T).2 maxK = some (some k) ↔ k ≤ maxK ∧ k • base = T := by
  have steps := stepCount_le small
  have reach := lt_stepCount_sq small
  constructor
  · intro found
    by_cases inReach : ∃ n < stepCount maxK * stepCount maxK, n • base = T
    · obtain ⟨n, below, multiple⟩ := inReach
      rw [bsgs_eq_rounded steps below multiple, Option.some.injEq] at found
      split at found
      · rename_i bound
        obtain rfl := Option.some.inj found
        -- a scalar that is rounded is above the bound
        have exact : rounded (stepCount maxK) n = n := by
          apply rounded_of_le
          by_contra large
          have := @two_pow_le_rounded (stepCount maxK) n (Nat.not_le.mp large).le
          omega
        rw [exact] at bound ⊢
        exact ⟨bound, multiple⟩
      · cases found
    · rw [bsgs_eq_null steps fun n below multiple => inReach ⟨n, below, multiple⟩] at found
      cases found
  · rintro ⟨bound, multiple⟩
    have exact : rounded (stepCount maxK) k = k := rounded_of_le (by omega)
    rw [bsgs_eq_rounded steps (by omega) multiple, exact, if_pos bound]

/-- Below `2 ^ 53` the search ends. -/
theorem bsgs_isSome (Tx Ty : ℤ) : (bsgs Tx Ty maxK).isSome = true := by
  have steps := stepCount_le small
  rw [bsgs, bsgsWithin_eq_giantSteps steps (Nat.lt_succ_self _)]
  exact giantSteps_isSome steps (Nat.zero_le _) (by omega) _

end SmallBounds

end TheVoteApp.HomomorphicTallyService
