import TheVoteApp.JavaScript.Double

/-!
# Numbers that are integers

What a JavaScript `number` comes to when it starts as an integer and is added,
subtracted and multiplied: an integer that a double represents, an infinity, or
`NaN`.  Results are rounded to the closest double, so integers are exact up to
`2 ^ 53` (`ofInt_of_small`); beyond that rounding is used through its
monotonicity (`ofInt_mono`).

## Main definitions

* `Number`, `Number.ofInt` — the values, and the closest one to an integer
* `Number.add`, `sub`, `mul`, `max`, `min`, `toLength` — the operations
* `Number.le` — the order, which `NaN` is not part of
-/

namespace TheVoteApp.JavaScript

/-- A `number` that is an integer, infinite or `NaN`. -/
inductive Number where
  | nan
  | negInfinity
  | int (n : ℤ)
  | infinity

namespace Number

deriving instance DecidableEq for Number

/-- The closest double of an integer, however large. -/
def roundInt (n : ℤ) : ℤ := n.sign * toNumber n.natAbs

/-- The closest double, with infinity from `2 ^ 1024` on. -/
def ofInt (n : ℤ) : Number :=
  if (roundInt n).natAbs.log2 < 1024 then int (roundInt n)
  else if 0 < n then infinity
  else negInfinity

/-- Unary minus. -/
def neg : Number → Number
  | nan => nan
  | negInfinity => infinity
  | int n => int (-n)
  | infinity => negInfinity

/-- The sum, rounded. -/
def add : Number → Number → Number
  | nan, _ => nan
  | _, nan => nan
  | int a, int b => ofInt (a + b)
  | int _, b => b
  | a, int _ => a
  | infinity, infinity => infinity
  | negInfinity, negInfinity => negInfinity
  | infinity, negInfinity => nan
  | negInfinity, infinity => nan

/-- The difference, rounded. -/
def sub (a b : Number) : Number := add a b.neg

/-- An infinity of the given sign. -/
def infinite (sign : ℤ) : Number :=
  if sign = 0 then nan else if 0 < sign then infinity else negInfinity

/-- The product, rounded. -/
def mul : Number → Number → Number
  | nan, _ => nan
  | _, nan => nan
  | int a, int b => ofInt (a * b)
  | int a, infinity => infinite a
  | int a, negInfinity => infinite (-a)
  | infinity, int b => infinite b
  | negInfinity, int b => infinite (-b)
  | infinity, b => b
  | negInfinity, b => b.neg

/-- The order.  `NaN` is comparable to nothing. -/
def le : Number → Number → Bool
  | nan, _ => false
  | _, nan => false
  | negInfinity, _ => true
  | _, infinity => true
  | int a, int b => decide (a ≤ b)
  | _, _ => false

/-- The strict order. -/
def lt (a b : Number) : Bool := le a b && a != b

/-- `Math.max`. -/
def max (a b : Number) : Number :=
  if a = nan ∨ b = nan then nan else if le a b then b else a

/-- `Math.min`. -/
def min (a b : Number) : Number :=
  if a = nan ∨ b = nan then nan else if le a b then a else b

/-- The length of an array-like, which no `NaN` and no negative number is. -/
def toLength : Number → ℕ
  | nan => 0
  | negInfinity => 0
  | int n => n.toNat
  | infinity => 2 ^ 53 - 1

/-! ## Rounding -/

theorem roundInt_of_small {n : ℤ} (small : n.natAbs ≤ 2 ^ 53) : roundInt n = n := by
  rw [roundInt, toNumber_of_le_two_pow small, Int.sign_mul_natAbs]

theorem roundInt_nonneg {n : ℤ} (nonneg : 0 ≤ n) : roundInt n = toNumber n.toNat := by
  rcases nonneg.eq_or_lt with rfl | positive
  · exact roundInt_of_small (by decide)
  · rw [roundInt, Int.sign_eq_one_of_pos positive, one_mul]
    congr 2
    omega

theorem roundInt_neg (n : ℤ) : roundInt (-n) = -roundInt n := by
  rw [roundInt, roundInt, Int.sign_neg, Int.natAbs_neg, neg_mul]

theorem roundInt_mono {a b : ℤ} (le : a ≤ b) : roundInt a ≤ roundInt b := by
  rcases le_total 0 a with nonneg | nonpos
  · rw [roundInt_nonneg nonneg, roundInt_nonneg (nonneg.trans le)]
    exact_mod_cast toNumber_mono (Int.toNat_le_toNat le)
  · rcases le_total 0 b with nonneg' | nonpos'
    · have low : roundInt a ≤ 0 := by
        rw [← neg_neg a, roundInt_neg, roundInt_nonneg (neg_nonneg.mpr nonpos)]
        omega
      rw [roundInt_nonneg nonneg']
      omega
    · rw [← neg_neg a, ← neg_neg b, roundInt_neg, roundInt_neg (-b),
        roundInt_nonneg (neg_nonneg.mpr nonpos), roundInt_nonneg (neg_nonneg.mpr nonpos')]
      have bound := toNumber_mono (Int.toNat_le_toNat (neg_le_neg le))
      omega

theorem roundInt_roundInt (n : ℤ) : roundInt (roundInt n) = roundInt n := by
  have natural : ∀ m : ℕ, roundInt (roundInt m) = roundInt m := by
    intro m
    rw [roundInt_nonneg (Int.natCast_nonneg m), Int.toNat_natCast,
      roundInt_nonneg (Int.natCast_nonneg _), Int.toNat_natCast, toNumber_toNumber]
  rcases Int.eq_nat_or_neg n with ⟨m, rfl | rfl⟩
  · exact natural m
  · rw [roundInt_neg, roundInt_neg, natural]

theorem ofInt_of_small {n : ℤ} (small : n.natAbs ≤ 2 ^ 53) : ofInt n = int n := by
  have finite : n.natAbs.log2 < 1024 := (log2_mono small).trans_lt (by decide)
  rw [ofInt, roundInt_of_small small, if_pos finite]

/-- Rounding keeps the order.  An integer between zero and a finite one is finite. -/
theorem ofInt_mono {a b : ℤ} (order : a ≤ b) : le (ofInt a) (ofInt b) = true := by
  have rounded := roundInt_mono order
  have zero : roundInt 0 = 0 := roundInt_of_small (by decide)
  unfold ofInt
  by_cases finiteA : (roundInt a).natAbs.log2 < 1024
  · rw [if_pos finiteA]
    by_cases finiteB : (roundInt b).natAbs.log2 < 1024
    · rw [if_pos finiteB]
      exact decide_eq_true rounded
    · have positive : 0 < b := by
        by_contra nonpos
        have below := roundInt_mono (Int.not_lt.mp nonpos)
        rw [zero] at below
        have closer : (roundInt b).natAbs ≤ (roundInt a).natAbs := by omega
        exact finiteB ((log2_mono closer).trans_lt finiteA)
      rw [if_neg finiteB, if_pos positive]
      rfl
  · rw [if_neg finiteA]
    by_cases positive : 0 < a
    · have above := roundInt_mono positive.le
      rw [zero] at above
      have closer : (roundInt a).natAbs ≤ (roundInt b).natAbs := by omega
      rw [if_pos positive, if_neg fun finiteB => finiteA ((log2_mono closer).trans_lt finiteB),
        if_pos (positive.trans_le order)]
      rfl
    · rw [if_neg positive]
      split_ifs <;> rfl

/-- What has been rounded is rounded to itself. -/
theorem ofInt_of_ofInt {n m : ℤ} (rounded : ofInt n = int m) : ofInt m = int m := by
  unfold ofInt at rounded
  split_ifs at rounded with finite positive
  obtain rfl := int.inj rounded
  rw [ofInt, roundInt_roundInt, if_pos finite]

theorem ofInt_ne_nan (n : ℤ) : ofInt n ≠ nan := by
  unfold ofInt
  split_ifs <;> exact nofun

/-- What rounds to a non-positive number has no length. -/
theorem toLength_ofInt_of_nonpos {n : ℤ} (nonpos : n ≤ 0) : toLength (ofInt n) = 0 := by
  have rounded := roundInt_mono nonpos
  rw [show roundInt 0 = 0 from roundInt_of_small (by decide)] at rounded
  unfold ofInt
  rw [if_neg (Int.not_lt.mpr nonpos)]
  split
  · exact Int.toNat_of_nonpos rounded
  · rfl

/-! ## The order -/

theorem le_int {a b : ℤ} : le (int a) (int b) = true ↔ a ≤ b := decide_eq_true_iff

theorem lt_int {a b : ℤ} : lt (int a) (int b) = true ↔ a < b := by
  rw [lt, Bool.and_eq_true, le_int, bne_iff_ne, Ne, int.injEq]
  omega

theorem le_trans {a b c : Number} (first : le a b = true) (second : le b c = true) :
    le a c = true := by
  cases a <;> cases b <;> cases c <;> simp only [le, decide_eq_true_eq] at * <;> first
    | contradiction
    | omega

theorem le_max_left {a b : Number} (first : a ≠ nan) (second : b ≠ nan) :
    le a (max a b) = true := by
  unfold max
  rw [if_neg (not_or.mpr ⟨first, second⟩)]
  split
  · assumption
  · cases a with
    | nan => exact absurd rfl first
    | negInfinity => rfl
    | int n => exact decide_eq_true le_rfl
    | infinity => rfl

theorem ne_nan_of_le {a b : Number} (order : le a b = true) : a ≠ nan ∧ b ≠ nan := by
  refine ⟨?_, ?_⟩
  · rintro rfl
    cases order
  · rintro rfl
    cases a <;> cases order

theorem le_antisymm {a b : Number} (first : le a b = true) (second : le b a = true) : a = b := by
  cases a <;> cases b <;> simp only [le, decide_eq_true_eq, int.injEq] at * <;> first
    | contradiction
    | omega

theorem lt_of_lt_of_le {a b : ℤ} {c : Number} (first : a < b) (second : le (int b) c = true) :
    lt (int a) c = true := by
  rw [lt, Bool.and_eq_true, bne_iff_ne]
  refine ⟨le_trans (le_int.mpr first.le) second, ?_⟩
  rintro rfl
  have := le_int.mp second
  omega

theorem max_eq_right {a b : Number} (order : le a b = true) : max a b = b := by
  obtain ⟨notA, notB⟩ := ne_nan_of_le order
  rw [max, if_neg (not_or.mpr ⟨notA, notB⟩), if_pos order]

theorem max_eq_left {a b : Number} (order : le b a = true) : max a b = a := by
  obtain ⟨notB, notA⟩ := ne_nan_of_le order
  rw [max, if_neg (not_or.mpr ⟨notA, notB⟩)]
  split
  · rename_i other
    exact le_antisymm order other
  · rfl

theorem min_eq_left {a b : Number} (order : le a b = true) : min a b = a := by
  obtain ⟨notA, notB⟩ := ne_nan_of_le order
  rw [min, if_neg (not_or.mpr ⟨notA, notB⟩), if_pos order]

theorem min_eq_right {a b : Number} (order : le b a = true) : min a b = b := by
  obtain ⟨notB, notA⟩ := ne_nan_of_le order
  rw [min, if_neg (not_or.mpr ⟨notA, notB⟩)]
  split
  · rename_i other
    exact le_antisymm other order
  · rfl

theorem max_mono {a b c : Number} (comparable : a ≠ nan) (order : le b c = true) :
    le (max a b) (max a c) = true := by
  obtain ⟨notB, notC⟩ := ne_nan_of_le order
  by_cases below : le a b = true
  · rw [max_eq_right below, max_eq_right (le_trans below order)]
    exact order
  · have left : max a b = a := by
      rw [max, if_neg (not_or.mpr ⟨comparable, notB⟩), if_neg below]
    rw [left]
    exact le_max_left comparable notC

theorem le_infinity {a : Number} (number : a ≠ nan) : le a infinity = true := by
  cases a with
  | nan => exact absurd rfl number
  | _ => rfl

theorem le_add_int {a : ℤ} {b : Number} (order : le (int a) b = true) (n : ℤ) :
    le (ofInt (a + n)) (add b (int n)) = true := by
  cases b with
  | nan => cases order
  | negInfinity => cases order
  | int m => exact ofInt_mono (by have := le_int.mp order; omega)
  | infinity => exact le_infinity (ofInt_ne_nan _)

theorem le_sub_int {a : ℤ} {b : Number} (order : le (int a) b = true) (n : ℤ) :
    le (ofInt (a - n)) (sub b (int n)) = true :=
  le_add_int order (-n)

theorem le_mul_int {a : ℤ} {b : Number} (order : le (int a) b = true) {n : ℤ} (positive : 0 < n) :
    le (ofInt (a * n)) (mul b (int n)) = true := by
  cases b with
  | nan => cases order
  | negInfinity => cases order
  | int m => exact ofInt_mono (mul_le_mul_of_nonneg_right (le_int.mp order) positive.le)
  | infinity =>
      have sign : infinite n = infinity := by
        rw [infinite, if_neg positive.ne', if_pos positive]
      show le (ofInt (a * n)) (infinite n) = true
      rw [sign]
      exact le_infinity (ofInt_ne_nan _)

/-- Less a number that is no smaller, nothing is left. -/
theorem toLength_sub_of_le {a b : Number} (order : le a b = true) : toLength (sub a b) = 0 := by
  cases a with
  | nan => cases order
  | negInfinity => cases b <;> rfl
  | int n =>
      cases b with
      | nan => rfl
      | negInfinity => cases order
      | int m =>
          have less : n ≤ m := of_decide_eq_true order
          exact toLength_ofInt_of_nonpos (by omega)
      | infinity => rfl
  | infinity =>
      cases b with
      | infinity => rfl
      | _ => cases order

/-- Less itself nothing is left, of `NaN` and the infinities neither. -/
theorem toLength_sub_self (a : Number) : toLength (sub a a) = 0 := by
  cases a with
  | int n => exact toLength_sub_of_le (le_int.mpr le_rfl)
  | _ => rfl

theorem toLength_sub_infinity (a : Number) : toLength (sub a infinity) = 0 := by
  cases a <;> rfl

theorem toLength_sub_nan (a : Number) : toLength (sub a nan) = 0 := by
  cases a <;> rfl

end Number

end TheVoteApp.JavaScript
