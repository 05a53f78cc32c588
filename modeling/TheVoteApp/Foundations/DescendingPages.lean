import Mathlib

/-!
# Pages of a growing list, newest first

A list whose elements are numbered from zero is shown in pages, from the highest
number down.  Each page is cut from the total at the time it is shown, so a list
that grows in between moves the cuts upwards: an element may be shown twice, but
none is passed over (`mem_page_of_growing`).

## Main definitions

* `page` — the numbers on a page

## Main results

* `mem_page_of_growing` — nothing is passed over while the total grows
* `flatMap_page` — with a constant total the pages are the whole list
-/

namespace TheVoteApp.Foundations.DescendingPages

/-- The numbers on page `k`, counted from zero. -/
def page (size total k : ℕ) : List ℕ :=
  let start := total - (k + 1) * size
  let stop := total - k * size
  ((List.range (stop - start)).map fun i => start + i).reverse

variable {size total k id : ℕ}

theorem mem_page :
    id ∈ page size total k ↔ total - (k + 1) * size ≤ id ∧ id < total - k * size := by
  have cuts : total - (k + 1) * size ≤ total - k * size := by
    rw [Nat.succ_mul]
    omega
  simp only [page, List.mem_reverse, List.mem_map, List.mem_range]
  constructor
  · rintro ⟨i, small, rfl⟩
    omega
  · rintro ⟨above, below⟩
    exact ⟨id - (total - (k + 1) * size), by omega, by omega⟩

/-- Only numbers below the total are shown. -/
theorem lt_of_mem_page (mem : id ∈ page size total k) : id < total :=
  (mem_page.mp mem).2.trans_le (Nat.sub_le _ _)

theorem pairwise_page : (page size total k).Pairwise (· > ·) := by
  rw [page, List.pairwise_reverse, List.pairwise_map]
  exact List.pairwise_lt_range.imp fun less => Nat.add_lt_add_left less _

theorem page_eq_nil_iff (positive : 0 < size) : page size total k = [] ↔ total ≤ k * size := by
  rw [page, List.reverse_eq_nil_iff, List.map_eq_nil_iff, List.range_eq_nil, Nat.succ_mul]
  omega

/-- **Nothing is passed over.**  When page `n` is empty, every number below the
first total has been on a page before it. -/
theorem mem_page_of_growing {totals : ℕ → ℕ} (grows : Monotone totals) (positive : 0 < size)
    {n : ℕ} (empty : page size (totals n) n = []) (old : id < totals 0) :
    ∃ k < n, id ∈ page size (totals k) k := by
  have reached : ∃ k, totals k - (k + 1) * size ≤ id := by
    have done := (page_eq_nil_iff positive).mp empty
    refine ⟨n, ?_⟩
    rw [Nat.succ_mul]
    omega
  -- the first page whose lower cut is at or below the number
  obtain ⟨k, below, first⟩ : ∃ k, totals k - (k + 1) * size ≤ id ∧
      ∀ j < k, ¬ totals j - (j + 1) * size ≤ id :=
    ⟨Nat.find reached, Nat.find_spec reached, fun j => Nat.find_min reached⟩
  have above : id < totals k - k * size := by
    cases k with
    | zero => omega
    | succ j =>
        have earlier := first j (Nat.lt_succ_self j)
        have more : totals j ≤ totals (j + 1) := grows (Nat.le_succ j)
        omega
  refine ⟨k, ?_, mem_page.mpr ⟨below, above⟩⟩
  -- from page `n` on the total is at most what the pages before could hold
  have done := (page_eq_nil_iff positive).mp empty
  by_contra late
  have bound : totals n - n * size ≤ id := by omega
  rcases Nat.lt_or_eq_of_le (Nat.le_of_not_lt late) with later | rfl
  · refine first n later ?_
    rw [Nat.succ_mul]
    omega
  · omega

/-- The first pages together, for a total that stays the same. -/
theorem flatMap_page (n : ℕ) :
    (List.range n).flatMap (page size total) =
      ((List.range total).drop (total - n * size)).reverse := by
  induction n with
  | zero => simp
  | succ n ih =>
      have pieces : (List.range total).drop (total - (n + 1) * size) =
          (page size total n).reverse ++ (List.range total).drop (total - n * size) := by
        have cuts : total - (n + 1) * size ≤ total - n * size := by
          rw [Nat.succ_mul]
          omega
        rw [page, List.reverse_reverse]
        apply List.ext_getElem
        · simp only [List.length_drop, List.length_range, List.length_append, List.length_map]
          omega
        · intro i inLeft inRight
          simp only [List.getElem_drop, List.getElem_range, List.getElem_append,
            List.length_map, List.length_range, List.getElem_map]
          split
          · rfl
          · omega
      rw [List.range_succ, List.flatMap_append, ih, List.flatMap_singleton, pieces,
        List.reverse_append, List.reverse_reverse]

/-- **The whole list.**  Once a page is empty, the pages before it are all numbers
below the total, in descending order. -/
theorem flatMap_page_of_empty (positive : 0 < size) {n : ℕ} (empty : page size total n = []) :
    (List.range n).flatMap (page size total) = (List.range total).reverse := by
  have done := (page_eq_nil_iff positive).mp empty
  rw [flatMap_page, Nat.sub_eq_zero_of_le done, List.drop_zero]

/-- Some page is empty. -/
theorem exists_page_eq_nil (positive : 0 < size) (total : ℕ) : ∃ n, page size total n = [] :=
  ⟨total, (page_eq_nil_iff positive).mpr (Nat.le_mul_of_pos_right total positive)⟩

end TheVoteApp.Foundations.DescendingPages
