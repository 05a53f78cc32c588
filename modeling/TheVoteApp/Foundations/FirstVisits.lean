import Mathlib

/-!
# Folds that visit every key once

A loop over a list that remembers the keys it has seen and passes over an element
whose key it knows.  When elements with the same key are equal, and what the loop
computes can be told from the set of the elements (`summary`, which grows by a
step for each new element), then order and repetitions make no difference.

## Main definitions

* `visitFirst` — one round of the loop
* `CopiesBy` — elements with the same key are equal

## Main results

* `foldl_visitFirst` — the loop computes the summary of the set of elements
-/

namespace TheVoteApp.Foundations

universe u v w

variable {α : Type u} {κ : Type v} {β : Type w}

/-- One round: the value so far and the keys seen. -/
def visitFirst [DecidableEq κ] (key : α → κ) (step : β → α → β) (acc : β × List κ) (x : α) :
    β × List κ :=
  if key x ∈ acc.2 then acc else (step acc.1 x, key x :: acc.2)

/-- Elements with the same key are equal. -/
def CopiesBy (key : α → κ) (xs : List α) : Prop := Set.InjOn key {x | x ∈ xs}

theorem CopiesBy.congr {key : α → κ} {xs ys : List α} (copies : CopiesBy key xs)
    (same : ∀ x, x ∈ ys ↔ x ∈ xs) : CopiesBy key ys :=
  copies.mono fun x mem => (same x).mp mem

variable [DecidableEq α] [DecidableEq κ] {key : α → κ} {step : β → α → β}
variable {summary : Finset α → β}

/-- What the loop knows after the elements of a list: their summary and their
keys. -/
structure Visited (key : α → κ) (summary : Finset α → β) (before : List α)
    (acc : β × List κ) : Prop where
  value : acc.1 = summary before.toFinset
  seen : ∀ k, k ∈ acc.2 ↔ k ∈ before.map key

omit [DecidableEq κ] in
theorem Visited.nil : Visited key summary [] (summary ∅, []) where
  value := rfl
  seen _ := Iff.rfl

/-- One round.  A key that has been seen belongs to a copy of the element. -/
theorem Visited.visitFirst (grows : ∀ x s, x ∉ s → summary (insert x s) = step (summary s) x)
    {before : List α} {x : α} {acc : β × List κ} (copies : CopiesBy key (before ++ [x]))
    (held : Visited key summary before acc) :
    Visited key summary (before ++ [x]) (visitFirst key step acc x) := by
  have elements : (before ++ [x]).toFinset = insert x before.toFinset := by
    rw [List.toFinset_append, List.toFinset_cons, List.toFinset_nil, insert_empty_eq,
      Finset.union_comm, ← Finset.insert_eq]
  unfold Foundations.visitFirst
  split
  · rename_i known
    obtain ⟨copy, mem, sameKey⟩ := List.mem_map.mp ((held.seen _).mp known)
    obtain rfl : copy = x := copies (List.mem_append_left _ mem) (by simp) sameKey
    refine ⟨?_, ?_⟩
    · rw [elements, Finset.insert_eq_of_mem (List.mem_toFinset.mpr mem)]
      exact held.value
    · intro k
      rw [held.seen, List.map_append, List.mem_append]
      refine ⟨Or.inl, ?_⟩
      rintro (earlier | same)
      · exact earlier
      · obtain rfl := List.mem_singleton.mp same
        exact (held.seen _).mp known
  · rename_i unknown
    have new : x ∉ before.toFinset := by
      intro mem
      exact unknown ((held.seen _).mpr (List.mem_map_of_mem (List.mem_toFinset.mp mem)))
    refine ⟨?_, ?_⟩
    · rw [elements, grows x _ new, ← held.value]
    · intro k
      rw [List.mem_cons, held.seen, List.map_append, List.mem_append, or_comm]
      apply or_congr_right
      rw [List.map_singleton, List.mem_singleton]

/-- **The loop computes the summary of the set.** -/
theorem foldl_visitFirst (grows : ∀ x s, x ∉ s → summary (insert x s) = step (summary s) x)
    {xs : List α} (copies : CopiesBy key xs) :
    (xs.foldl (visitFirst key step) (summary ∅, [])).1 = summary xs.toFinset := by
  have run : ∀ (after before : List α) (acc : β × List κ), CopiesBy key (before ++ after) →
      Visited key summary before acc →
      Visited key summary (before ++ after) (after.foldl (visitFirst key step) acc) := by
    intro after
    induction after with
    | nil =>
        intro before acc _ held
        rwa [List.append_nil]
    | cons x after ih =>
        intro before acc copies held
        rw [List.append_cons] at copies ⊢
        apply ih _ _ copies
        apply held.visitFirst grows
        exact copies.mono fun _ mem => List.mem_append_left after mem
  exact (run xs [] _ copies Visited.nil).value

end TheVoteApp.Foundations
