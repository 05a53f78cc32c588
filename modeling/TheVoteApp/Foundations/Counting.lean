import Mathlib

/-!
# Counting along lists

Two facts about histories: the counts of a list split by a key add up to the
count of the whole list, and a list whose keys are pairwise distinct and all
named by a finite set is no longer than that set.
-/

namespace TheVoteApp.Foundations

universe u v w

variable {α : Type u} {κ : Type v}

/-- Counting the entries `keep` selects key by key counts each of them once. -/
theorem sum_countP_key [DecidableEq κ] (keep : α → Bool) (key : α → κ) (keys : Finset κ) :
    ∀ l : List α, (∀ a ∈ l, keep a = true → key a ∈ keys) →
      ∑ k ∈ keys, l.countP (fun a => keep a && decide (key a = k)) = l.countP keep
  | [], _ => by simp
  | a :: l, covered => by
      have rest := sum_countP_key keep key keys l
        fun b mem kept => covered b (List.mem_cons_of_mem a mem) kept
      cases kept : keep a with
      | false => simpa [List.countP_cons, kept] using rest
      | true =>
          have mem : key a ∈ keys := covered a List.mem_cons_self kept
          simp [List.countP_cons, kept, Finset.sum_add_distrib, rest, mem]

/-- A list whose keys are pairwise distinct and all of the form `name r` for
`r` in a finite set is no longer than the set. -/
theorem length_le_card_of_named {ι : Type w} [DecidableEq κ] {l : List α} (key : α → κ)
    {names : Finset ι} (name : ι → κ) (distinct : (l.map key).Nodup)
    (named : ∀ a ∈ l, ∃ r ∈ names, key a = name r) : l.length ≤ names.card := by
  have image : (l.map key).toFinset ⊆ names.image name := by
    intro k mem
    obtain ⟨a, inList, rfl⟩ := by simpa using mem
    obtain ⟨r, inNames, keyed⟩ := named a inList
    exact Finset.mem_image.mpr ⟨r, inNames, keyed.symm⟩
  calc l.length = (l.map key).length := (List.length_map key).symm
    _ = (l.map key).toFinset.card := (List.toFinset_card_of_nodup distinct).symm
    _ ≤ (names.image name).card := Finset.card_le_card image
    _ ≤ names.card := Finset.card_image_le

end TheVoteApp.Foundations
