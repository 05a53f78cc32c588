import Mathlib

/-!
# Double and add

The loop that adds an element `n` times to an accumulator by reading `n` bit by
bit.  Its operation is a parameter: with point addition it multiplies by a
scalar, with modular multiplication it computes powers.

What the loop computes is stated once, for an operation that *simulates* the
addition of a monoid (`doubleAndAdd_simulates`).  Its instance for modular
multiplication gives a primality test that evaluates in the kernel
(`prime_of_checkTable`).

## Main definitions

* `doubleAndAdd` — the loop
* `powMod` — modular powers
* `LucasEntry`, `checkTable` — tables of Lucas certificates
-/

namespace TheVoteApp.Foundations

universe u v

/-- Read `n` from its low end: add `cur` where a bit is set, double `cur` after
every bit. -/
def doubleAndAdd {α : Type u} (op : α → α → α) (acc cur : α) (n : ℕ) : α :=
  if n = 0 then acc
  else doubleAndAdd op (if n % 2 = 1 then op acc cur else acc) (op cur cur) (n / 2)
termination_by n
decreasing_by omega

section Simulation

variable {α : Type u} {A : Type v} [AddMonoid A]

/-- Twice half a number, and its last bit. -/
theorem nsmul_half (y : A) (n : ℕ) : n • y = (n % 2) • y + (n / 2) • (y + y) := by
  rw [← two_nsmul, ← mul_nsmul, ← add_nsmul]
  congr 1
  omega

/-- **The loop adds `n` copies.**  If `op` simulates addition along `R`, the loop
started at representatives of `x` and `y` ends at one of `x + n • y`. -/
theorem doubleAndAdd_simulates {op : α → α → α} {R : α → A → Prop}
    (simulates : ∀ a b x y, R a x → R b y → R (op a b) (x + y)) {acc cur : α} {x y : A}
    (onAcc : R acc x) (onCur : R cur y) (n : ℕ) : R (doubleAndAdd op acc cur n) (x + n • y) := by
  induction n using Nat.strong_induction_on generalizing acc cur x y with
  | _ n ih =>
      rw [doubleAndAdd]
      split
      · rename_i zero
        rw [zero, zero_nsmul, add_zero]
        exact onAcc
      · rename_i nonzero
        have doubled := simulates _ _ _ _ onCur onCur
        rw [nsmul_half y n, ← add_assoc]
        refine ih (n / 2) (by omega) ?_ doubled
        split
        · rename_i odd
          rw [odd, one_nsmul]
          exact simulates _ _ _ _ onAcc onCur
        · rename_i even
          have last : n % 2 = 0 := by omega
          rw [last, zero_nsmul, add_zero]
          exact onAcc

end Simulation

/-! ## Modular powers -/

/-- `base ^ exponent` modulo `m`. -/
def powMod (base exponent m : ℕ) : ℕ :=
  doubleAndAdd (fun x y => x * y % m) 1 base exponent

theorem powMod_cast (base exponent m : ℕ) :
    (powMod base exponent m : ZMod m) = (base : ZMod m) ^ exponent := by
  have mulMod : ∀ (a b : ℕ) (x y : Additive (ZMod m)), (a : ZMod m) = x.toMul →
      (b : ZMod m) = y.toMul →
      (↑(a * b % m) : ZMod m) = (x + y).toMul := by
    intro a b x y onA onB
    rw [ZMod.natCast_mod, Nat.cast_mul, onA, onB, toMul_add]
  have power : (powMod base exponent m : ZMod m) =
      (0 + exponent • Additive.ofMul (base : ZMod m)).toMul :=
    doubleAndAdd_simulates mulMod Nat.cast_one rfl exponent
  rw [power, zero_add, toMul_nsmul, toMul_ofMul]

/-! ## Lucas certificates -/

/-- A number with a witness and the factors of its predecessor, each with its
exponent. -/
structure LucasEntry where
  number : ℕ
  witness : ℕ
  factors : List (ℕ × ℕ)

/-- The conditions of Lucas' test, with every factor among the numbers `known`. -/
def LucasEntry.check (known : List ℕ) (e : LucasEntry) : Bool :=
  decide (1 < e.number) &&
    e.factors.all (fun f => known.contains f.1) &&
    decide ((e.factors.map fun f => f.1 ^ f.2).prod = e.number - 1) &&
    decide (powMod e.witness (e.number - 1) e.number % e.number = 1) &&
    e.factors.all fun f =>
      decide (powMod e.witness ((e.number - 1) / f.1) e.number % e.number ≠ 1)

/-- Check the entries in order, each with the numbers before it known. -/
def checkTable : List ℕ → List LucasEntry → Bool
  | _, [] => true
  | known, e :: rest => e.check known && checkTable (e.number :: known) rest

/-- **Lucas' test.** -/
theorem LucasEntry.prime {known : List ℕ} {e : LucasEntry}
    (primes : ∀ q ∈ known, q.Prime) (check : e.check known = true) : e.number.Prime := by
  simp only [LucasEntry.check, Bool.and_eq_true, decide_eq_true_eq, List.all_eq_true] at check
  obtain ⟨⟨⟨⟨above, factorPrimes⟩, split⟩, fermat⟩, orders⟩ := check
  have eq_one_iff : ∀ k : ℕ, (k : ZMod e.number) = 1 ↔ k % e.number = 1 := by
    intro k
    rw [← Nat.cast_one, ZMod.natCast_eq_natCast_iff', Nat.mod_eq_of_lt above]
  refine lucas_primality e.number e.witness ?_ ?_
  · rw [← powMod_cast, eq_one_iff]
    exact fermat
  · intro q prime divides
    rw [← powMod_cast, ne_eq, eq_one_iff]
    -- a prime that divides the predecessor divides one of the listed powers, so it is listed
    rw [← split] at divides
    obtain ⟨power, mem, divides⟩ := (Prime.dvd_prod_iff prime.prime).mp divides
    obtain ⟨factor, listed, rfl⟩ := List.mem_map.mp mem
    have factorPrime : factor.1.Prime := primes _ (by simpa using factorPrimes factor listed)
    have same := (Nat.prime_dvd_prime_iff_eq prime factorPrime).mp
      (prime.dvd_of_dvd_pow divides)
    rw [same]
    exact orders factor listed

theorem prime_of_checkTable {known : List ℕ} {table : List LucasEntry}
    (primes : ∀ q ∈ known, q.Prime) (check : checkTable known table = true) :
    ∀ e ∈ table, e.number.Prime := by
  induction table generalizing known with
  | nil => simp
  | cons e rest ih =>
      obtain ⟨first, others⟩ := Bool.and_eq_true_iff.mp check
      have prime := e.prime primes first
      intro f mem
      rcases List.mem_cons.mp mem with rfl | later
      · exact prime
      · refine ih ?_ others f later
        intro q listed
        rcases List.mem_cons.mp listed with rfl | earlier
        · exact prime
        · exact primes q earlier

end TheVoteApp.Foundations
