import Mathlib

/-!
# Arrivals under a limit

Arrivals in the order of time, each with a key and a limit of its own.  What
counts against an arrival is the earlier arrivals of its key less than a window
ago.  There are two ways to count: every such arrival, or those alone that were
admitted themselves.  Counting all is the stricter way, and the two agree exactly
as long as whoever is over the limit has admitted arrivals to blame for it.

## Main definitions

* `Arrivals` — times, keys, limits and the width of the window
* `Arrivals.recent` — what counts against an arrival
* `Arrivals.UnderLimit` — admission by a count of everything
* `Arrivals.Admits` — admission by a count of the admitted

## Main results

* `Arrivals.underLimit_iff_admits_iff` — where the two agree
* `Arrivals.card_underLimit_le` — no window has more arrivals under their limit
  than the largest limit
-/

namespace TheVoteApp.Foundations

universe u

/-- Arrivals, numbered in the order of time. -/
structure Arrivals (κ : Type u) where
  time : ℕ → ℤ
  monotone : Monotone time
  key : ℕ → κ
  limit : ℕ → ℕ
  width : ℕ

namespace Arrivals

variable {κ : Type u} [DecidableEq κ] (arrivals : Arrivals κ)

/-- The earlier arrivals of the same key, less than a window ago. -/
def recent (k : ℕ) : Finset ℕ :=
  {j ∈ Finset.range k | arrivals.key j = arrivals.key k ∧
    arrivals.time k - arrivals.width < arrivals.time j}

/-- Fewer recent arrivals than the limit. -/
def UnderLimit (k : ℕ) : Prop := (arrivals.recent k).card < arrivals.limit k

instance decidableUnderLimit : DecidablePred arrivals.UnderLimit := fun _ =>
  inferInstanceAs (Decidable (_ < _))

/-- The arrivals before `k` that are admitted: fewer recent ones than the limit
were admitted before them. -/
def admitted : ℕ → Finset ℕ
  | 0 => ∅
  | k + 1 =>
      if (arrivals.recent k ∩ admitted k).card < arrivals.limit k then insert k (admitted k)
      else admitted k

/-- Fewer recent arrivals were admitted than the limit. -/
def Admits (k : ℕ) : Prop := (arrivals.recent k ∩ arrivals.admitted k).card < arrivals.limit k

instance decidableAdmits : DecidablePred arrivals.Admits := fun _ =>
  inferInstanceAs (Decidable (_ < _))

variable {arrivals} {j k : ℕ}

theorem mem_recent : j ∈ arrivals.recent k ↔
    j < k ∧ arrivals.key j = arrivals.key k ∧
      arrivals.time k - arrivals.width < arrivals.time j := by
  rw [recent, Finset.mem_filter, Finset.mem_range]

theorem mem_admitted : j ∈ arrivals.admitted k ↔ j < k ∧ arrivals.Admits j := by
  induction k with
  | zero => simp [admitted]
  | succ k ih =>
      rw [Nat.lt_succ_iff_lt_or_eq, or_and_right, ← ih, admitted]
      by_cases admits : arrivals.Admits k
      · rw [if_pos (show _ < _ from admits), Finset.mem_insert, or_comm]
        exact or_congr_right ⟨fun same => ⟨same, same ▸ admits⟩, And.left⟩
      · rw [if_neg (show ¬ _ < _ from admits)]
        refine (or_iff_left ?_).symm
        rintro ⟨rfl, admits'⟩
        exact admits admits'

/-- Counting all is the stricter way. -/
theorem UnderLimit.admits (under : arrivals.UnderLimit k) : arrivals.Admits k :=
  (Finset.card_le_card Finset.inter_subset_left).trans_lt under

/-- **Where the two agree.**  Up to an arrival they admit the same if and only if
whoever has a limit's worth of recent arrivals has a limit's worth of recent
arrivals under their limit. -/
theorem underLimit_iff_admits_iff (arrivals : Arrivals κ) (n : ℕ) :
    (∀ k < n, (arrivals.UnderLimit k ↔ arrivals.Admits k)) ↔
      ∀ k < n, arrivals.limit k ≤ (arrivals.recent k).card →
        arrivals.limit k ≤ {j ∈ arrivals.recent k | arrivals.UnderLimit j}.card := by
  -- where they agree so far, the admitted among the recent are those under their limit
  have counted {k : ℕ} (agree : ∀ j < k, (arrivals.UnderLimit j ↔ arrivals.Admits j)) :
      arrivals.recent k ∩ arrivals.admitted k =
        {j ∈ arrivals.recent k | arrivals.UnderLimit j} := by
    ext j
    rw [Finset.mem_inter, Finset.mem_filter, mem_admitted]
    refine and_congr_right fun mem => ?_
    have before : j < k := (mem_recent.mp mem).1
    rw [agree j before]
    exact and_iff_right before
  constructor
  · intro agree k small full
    rw [← counted fun j earlier => agree j (earlier.trans small)]
    by_contra fewer
    have under : arrivals.UnderLimit k := (agree k small).mpr (Nat.lt_of_not_le fewer)
    exact (Nat.not_lt.mpr full) under
  · intro blamed k small
    induction k using Nat.strong_induction_on with
    | _ k ih =>
        refine ⟨UnderLimit.admits, fun admits => ?_⟩
        by_contra refused
        have blame := blamed k small (Nat.le_of_not_lt refused)
        rw [← counted fun j earlier => ih j earlier (earlier.trans small)] at blame
        exact (Nat.not_lt.mpr blame) admits

/-- The arrivals of a key before `n` that are under their limit and within a
window up to `t`. -/
def underLimitWithin (arrivals : Arrivals κ) (key : κ) (t : ℤ) (n : ℕ) : Finset ℕ :=
  {k ∈ Finset.range n | arrivals.key k = key ∧ arrivals.UnderLimit k ∧
    t - arrivals.width < arrivals.time k ∧ arrivals.time k ≤ t}

/-- **No window has more than the largest limit.**  The last one of a window
counted all the others. -/
theorem card_underLimit_le (arrivals : Arrivals κ) (key : κ) (t : ℤ) (n : ℕ) :
    (arrivals.underLimitWithin key t n).card ≤
      {k ∈ Finset.range n | arrivals.key k = key}.sup arrivals.limit := by
  rcases (arrivals.underLimitWithin key t n).eq_empty_or_nonempty with none | some
  · simp [none]
  set last := (arrivals.underLimitWithin key t n).max' some
  have mem : last ∈ arrivals.underLimitWithin key t n := Finset.max'_mem _ some
  rw [underLimitWithin, Finset.mem_filter] at mem
  obtain ⟨small, own, under, -, upTo⟩ := mem
  have others : (arrivals.underLimitWithin key t n).erase last ⊆ arrivals.recent last := by
    intro j memJ
    obtain ⟨other, within⟩ := Finset.mem_erase.mp memJ
    have earlier : j < last := lt_of_le_of_ne (Finset.le_max' _ j within) other
    rw [underLimitWithin, Finset.mem_filter] at within
    obtain ⟨-, ownJ, -, after, -⟩ := within
    exact mem_recent.mpr ⟨earlier, ownJ.trans own.symm, by omega⟩
  calc (arrivals.underLimitWithin key t n).card
      = ((arrivals.underLimitWithin key t n).erase last).card + 1 :=
        (Finset.card_erase_add_one (Finset.max'_mem _ some)).symm
    _ ≤ (arrivals.recent last).card + 1 := Nat.succ_le_succ (Finset.card_le_card others)
    _ ≤ arrivals.limit last := under
    _ ≤ {k ∈ Finset.range n | arrivals.key k = key}.sup arrivals.limit :=
        Finset.le_sup (Finset.mem_filter.mpr ⟨small, own⟩)

end Arrivals

end TheVoteApp.Foundations
