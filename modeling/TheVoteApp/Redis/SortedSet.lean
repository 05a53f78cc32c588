import Mathlib

/-!
# Sorted sets

A sorted set holds members, each with one score.  The order of the entries is
not observed by the commands here.

## Main definitions

* `SortedSet` — members with their scores
* `SortedSet.add`, `SortedSet.removeUpTo`, `SortedSet.card` — `ZADD`,
  `ZREMRANGEBYSCORE key -inf bound` and `ZCARD`
-/

namespace TheVoteApp.Redis

/-- Members `μ`, each with one score. -/
@[ext]
structure SortedSet (μ : Type) where
  entries : List (μ × ℤ)
  distinct : (entries.map Prod.fst).Nodup

namespace SortedSet

variable {μ : Type}

/-- The set without entries. -/
def empty : SortedSet μ := ⟨[], List.nodup_nil⟩

/-- `ZCARD`. -/
def card (set : SortedSet μ) : ℕ := set.entries.length

/-- `ZREMRANGEBYSCORE key -inf bound`. -/
def removeUpTo (set : SortedSet μ) (bound : ℤ) : SortedSet μ where
  entries := set.entries.filter fun entry => bound < entry.2
  distinct := set.distinct.sublist (List.filter_sublist.map _)

variable [DecidableEq μ]

/-- `ZADD`: the member gets the score, whether or not it was there. -/
def add (set : SortedSet μ) (score : ℤ) (member : μ) : SortedSet μ where
  entries := (member, score) :: set.entries.filter fun entry => entry.1 ≠ member
  distinct := by
    rw [List.map_cons, List.nodup_cons]
    refine ⟨?_, set.distinct.sublist (List.filter_sublist.map _)⟩
    simp

/-- The members. -/
def members (set : SortedSet μ) : Finset μ := (set.entries.map Prod.fst).toFinset

theorem card_members (set : SortedSet μ) : set.members.card = set.card := by
  rw [members, List.toFinset_card_of_nodup set.distinct, List.length_map, card]

end SortedSet

end TheVoteApp.Redis
