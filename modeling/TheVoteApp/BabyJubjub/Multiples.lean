import TheVoteApp.BabyJubjub.Bsgs
import TheVoteApp.BabyJubjub.GroupLaw

/-!
# Multiples of canonical points

`bjjScalarMul` reads a scalar bit by bit, `bsgs` searches the scalar of a multiple.  Both
are compared here with the plain sum of copies of a point, which starts at `(0, 1)` and
applies `bjjAdd` once for each copy.

The loop of `bjjScalarMul` ends because the scalar is halved in every round, and it ends
in the right place because `bjjAdd` is the addition of a group on canonical points
(`bjjAdd_group_law`): the intermediate points are canonical, so its shortcuts, doublings
of points of low order and the neutral element among them are sums like all others.

## Main definitions

* `repeatedAdd` — a point added to itself
* `scalarMulRound`, `LeavesAfter` — the loop of `bjjScalarMul`, round by round
* `generator` — `G` as a canonical point
* `Returns`, `FindsLogarithm` — what a search comes to, and what it should
-/

namespace TheVoteApp.HomomorphicTallyService

open Foundations BabyJubjub JavaScript

/-! ## Repeated addition -/

/-- `P` added to itself `n` times, from `(0, 1)` on. -/
def repeatedAdd : ℕ → BigPoint → BigPoint
  | 0, _ => bjjNeutral
  | n + 1, P => bjjAdd (repeatedAdd n P).1 (repeatedAdd n P).2 P.1 P.2

@[simp] theorem repeatedAdd_zero (P : BigPoint) : repeatedAdd 0 P = (0, 1) := rfl

theorem repeatedAdd_succ (n : ℕ) (P : BigPoint) :
    repeatedAdd (n + 1) P = bjjAdd (repeatedAdd n P).1 (repeatedAdd n P).2 P.1 P.2 := rfl

namespace CanonicalPoint

/-- The members of a pair are the coordinates. -/
theorem bjjAdd_pair (P Q : CanonicalPoint) :
    bjjAdd P.pair.1 P.pair.2 Q.pair.1 Q.pair.2 = (P + Q).pair := (P.pair_add Q).symm

theorem repeatedAdd_pair (n : ℕ) (P : CanonicalPoint) : repeatedAdd n P.pair = (n • P).pair := by
  induction n with
  | zero =>
      rw [zero_nsmul, pair_zero]
      rfl
  | succ n ih => rw [repeatedAdd_succ, ih, bjjAdd_pair, succ_nsmul]

theorem toPoint_nsmul (n : ℕ) (P : CanonicalPoint) : (n • P).toPoint = n • P.toPoint :=
  map_nsmul (⟨⟨toPoint, rfl⟩, fun _ _ => pointEquiv.apply_symm_apply _⟩ :
    CanonicalPoint →+ curve.Point) n P

/-- The scalar multiple of the service is the multiple of the group. -/
theorem bjjScalarMul_pair (n : ℕ) (P : CanonicalPoint) :
    bjjScalarMul n P.x P.y = (n • P).pair := by
  have multiple := bjjScalarMul_coords n P.toPoint
  rw [bigCoords_toPoint, ← toPoint_nsmul, bigCoords_toPoint] at multiple
  exact multiple

end CanonicalPoint

/-! ## The loop of `bjjScalarMul` -/

/-- The variables `[rx, ry]`, `[cx, cy]` and `s`. -/
abbrev LoopState := BigPoint × BigPoint × ℤ

/-- The body of the loop. -/
def scalarMulRound (state : LoopState) : LoopState :=
  let (r, c, s) := state
  (if s % 2 = 1 then bjjAdd r.1 r.2 c.1 c.2 else r, bjjAdd c.1 c.2 c.1 c.2, s / 2)

/-- From `state` on, `while (s > 0n)` runs the body `rounds` times and leaves with
`result` in `[rx, ry]`. -/
def LeavesAfter (state : LoopState) (rounds : ℕ) (result : BigPoint) : Prop :=
  (∀ k < rounds, 0 < (scalarMulRound^[k] state).2.2) ∧
    ¬ 0 < (scalarMulRound^[rounds] state).2.2 ∧ (scalarMulRound^[rounds] state).1 = result

theorem LeavesAfter.succ {state : LoopState} {rounds : ℕ} {result : BigPoint}
    (guard : 0 < state.2.2) (rest : LeavesAfter (scalarMulRound state) rounds result) :
    LeavesAfter state (rounds + 1) result := by
  obtain ⟨before, left, value⟩ := rest
  refine ⟨?_, left, value⟩
  intro k bound
  cases k with
  | zero => exact guard
  | succ k => exact before k (by omega)

/-- The loop ends, with what `bjjScalarMul` returns. -/
theorem leavesAfter_doubleAndAdd (n : ℕ) (r c : BigPoint) :
    ∃ rounds, LeavesAfter (r, c, n) rounds
      (doubleAndAdd (fun r c => bjjAdd r.1 r.2 c.1 c.2) r c n) := by
  induction n using Nat.strong_induction_on generalizing r c with
  | _ n ih =>
      rw [doubleAndAdd]
      split
      · rename_i zero
        subst zero
        exact ⟨0, by simp, by simp, rfl⟩
      · rename_i nonzero
        -- the guard holds, and the body halves the scalar
        obtain ⟨rounds, rest⟩ := ih (n / 2) (by omega)
          (if n % 2 = 1 then bjjAdd r.1 r.2 c.1 c.2 else r) (bjjAdd c.1 c.2 c.1 c.2)
        refine ⟨rounds + 1, LeavesAfter.succ (by simpa using Nat.pos_of_ne_zero nonzero) ?_⟩
        have body : scalarMulRound (r, c, n) =
            (if n % 2 = 1 then bjjAdd r.1 r.2 c.1 c.2 else r, bjjAdd c.1 c.2 c.1 c.2,
              ((n / 2 : ℕ) : ℤ)) := by
          show (if (n : ℤ) % 2 = 1 then _ else r, _, (n : ℤ) / 2) = _
          norm_cast
        rw [body]
        exact rest

/-- **Scalar multiplication.**  For every scalar and every canonical point the loop ends
with the sum of that many copies of the point, and scalars add. -/
theorem bjjScalarMul_eq_repeatedAdd :
    (∀ (s : ℕ) (P : CanonicalPoint),
      (∃ rounds, LeavesAfter (bjjNeutral, P.pair, s) rounds (bjjScalarMul s P.x P.y)) ∧
        bjjScalarMul s P.x P.y = repeatedAdd s (P.x, P.y)) ∧
    ∀ (s t : ℕ) (P : CanonicalPoint),
      bjjScalarMul (s + t) P.x P.y =
        bjjAdd (bjjScalarMul s P.x P.y).1 (bjjScalarMul s P.x P.y).2
          (bjjScalarMul t P.x P.y).1 (bjjScalarMul t P.x P.y).2 := by
  refine ⟨fun s P => ⟨?_, ?_⟩, fun s t P => ?_⟩
  · exact leavesAfter_doubleAndAdd s bjjNeutral P.pair
  · exact (P.bjjScalarMul_pair s).trans (P.repeatedAdd_pair s).symm
  · have sum := P.bjjScalarMul_pair (s + t)
    rw [Nat.cast_add] at sum
    rw [sum, P.bjjScalarMul_pair, P.bjjScalarMul_pair, CanonicalPoint.bjjAdd_pair, add_nsmul]

/-! ## The discrete logarithm -/

/-- `G`. -/
def generator : CanonicalPoint := CanonicalPoint.ofPoint base

/-- `bsgs(T, maxK)` comes to the result. -/
def Returns (T : CanonicalPoint) (maxK : ℕ) (result : Option ℕ) : Prop :=
  ∃ fuel, bsgsWithin fuel T.x T.y maxK = some result

theorem returns_iff {T : CanonicalPoint} {maxK : ℕ} {result : Option ℕ} :
    Returns T maxK result ↔
      bsgs (bigCoords T.toPoint).1 (bigCoords T.toPoint).2 maxK = some result := by
  rw [bigCoords_toPoint]
  exact bsgs_eq_some_iff_exists.symm

/-- Nothing else is returned. -/
theorem Returns.unique {T : CanonicalPoint} {maxK : ℕ} {result result' : Option ℕ}
    (returns : Returns T maxK result) (returns' : Returns T maxK result') : result = result' :=
  Option.some.inj ((returns_iff.mp returns).symm.trans (returns_iff.mp returns'))

end TheVoteApp.HomomorphicTallyService
