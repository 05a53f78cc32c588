import Mathlib

/-!
# Merkle paths

A path is climbed from a leaf to a root: each step hashes the running node with
a sibling, on one side or the other.  Where the hash does not collide on the
pairs hashed along two climbs, the root and the sides determine the leaf and
the siblings (`climb_injective`).

A climb may also be given by the sequence of its nodes, as a circuit lays it
out; `climb_eq_last` reads the root off such a sequence and `nodeAt` produces
one.

## Main definitions

* `PathStep` — the sibling, and the side of the running node
* `climb` — the root a leaf reaches
* `hashedPairs` — what the climb hashes on its way
-/

namespace TheVoteApp.Foundations

universe u

/-- A step of a Merkle path. -/
@[ext]
structure PathStep (α : Type u) where
  /-- Whether the running node is the right child. -/
  isRight : Bool
  sibling : α

variable {α : Type u}

namespace PathStep

/-- The left and the right child of the next node. -/
def children (step : PathStep α) (node : α) : α × α :=
  if step.isRight then (step.sibling, node) else (node, step.sibling)

/-- The next node. -/
def parent (hash : α → α → α) (step : PathStep α) (node : α) : α :=
  hash (step.children node).1 (step.children node).2

/-- On a known side the children determine the node and the sibling. -/
theorem children_injective {step₁ step₂ : PathStep α} {node₁ node₂ : α}
    (sameSide : step₁.isRight = step₂.isRight)
    (same : step₁.children node₁ = step₂.children node₂) : node₁ = node₂ ∧ step₁ = step₂ := by
  obtain ⟨side₁, sibling₁⟩ := step₁
  obtain ⟨side₂, sibling₂⟩ := step₂
  obtain rfl : side₁ = side₂ := sameSide
  cases side₁ with
  | false =>
      obtain ⟨rfl, rfl⟩ := Prod.mk.inj same
      exact ⟨rfl, rfl⟩
  | true =>
      obtain ⟨rfl, rfl⟩ := Prod.mk.inj same
      exact ⟨rfl, rfl⟩

end PathStep

/-- The root reached from a leaf. -/
def climb (hash : α → α → α) (path : List (PathStep α)) (leaf : α) : α :=
  path.foldl (fun node step => step.parent hash node) leaf

variable {hash : α → α → α}

@[simp] theorem climb_nil (leaf : α) : climb hash [] leaf = leaf := rfl

@[simp] theorem climb_cons (step : PathStep α) (path : List (PathStep α)) (leaf : α) :
    climb hash (step :: path) leaf = climb hash path (step.parent hash leaf) := rfl

theorem climb_concat (path : List (PathStep α)) (step : PathStep α) (leaf : α) :
    climb hash (path ++ [step]) leaf = step.parent hash (climb hash path leaf) := by
  simp [climb]

/-- The pairs hashed along a climb. -/
def hashedPairs (hash : α → α → α) : List (PathStep α) → α → List (α × α)
  | [], _ => []
  | step :: path, node => step.children node :: hashedPairs hash path (step.parent hash node)

/-- **A root pins its leaf.**  Two climbs on the same sides to the same root
start at the same leaf and pass the same siblings. -/
theorem climb_injective {path₁ path₂ : List (PathStep α)} {leaf₁ leaf₂ : α}
    {pairs : Set (α × α)} (collisionFree : Set.InjOn (Function.uncurry hash) pairs)
    (hashed₁ : ∀ pair ∈ hashedPairs hash path₁ leaf₁, pair ∈ pairs)
    (hashed₂ : ∀ pair ∈ hashedPairs hash path₂ leaf₂, pair ∈ pairs)
    (sameSides : path₁.map PathStep.isRight = path₂.map PathStep.isRight)
    (sameRoot : climb hash path₁ leaf₁ = climb hash path₂ leaf₂) :
    leaf₁ = leaf₂ ∧ path₁ = path₂ := by
  induction path₁ generalizing path₂ leaf₁ leaf₂ with
  | nil =>
      obtain rfl : path₂ = [] := List.map_eq_nil_iff.mp sameSides.symm
      exact ⟨sameRoot, rfl⟩
  | cons step₁ path₁ ih =>
      obtain ⟨step₂, path₂, rfl, sameSide, sameTail⟩ := List.map_eq_cons_iff.mp sameSides.symm
      simp only [hashedPairs, List.forall_mem_cons] at hashed₁ hashed₂
      -- above this step the nodes agree, so this step hashed the same pair
      obtain ⟨sameNode, rfl⟩ := ih hashed₁.2 hashed₂.2 sameTail.symm sameRoot
      have sameChildren := collisionFree hashed₁.1 hashed₂.1 sameNode
      obtain ⟨rfl, rfl⟩ := PathStep.children_injective sameSide.symm sameChildren
      exact ⟨rfl, rfl⟩

/-! ## Climbs given by their nodes -/

/-- The last of a sequence of nodes, each the parent of the one before, is the
root. -/
theorem climb_eq_last {n : ℕ} (steps : Fin n → PathStep α) (nodes : Fin (n + 1) → α)
    (climbs : ∀ i : Fin n, nodes i.succ = (steps i).parent hash (nodes i.castSucc)) :
    nodes (Fin.last n) = climb hash (List.ofFn steps) (nodes 0) := by
  induction n with
  | zero => rfl
  | succ n ih =>
      have first : nodes (Fin.succ 0) = (steps 0).parent hash (nodes 0) := climbs 0
      have upper := ih (fun i => steps i.succ) (fun i => nodes i.succ) fun i => climbs i.succ
      rw [List.ofFn_succ, climb_cons, ← first, ← upper, Fin.succ_last]

/-- What such a climb hashes. -/
theorem exists_of_mem_hashedPairs {n : ℕ} {steps : Fin n → PathStep α} (nodes : Fin (n + 1) → α)
    (climbs : ∀ i : Fin n, nodes i.succ = (steps i).parent hash (nodes i.castSucc))
    {pair : α × α} (hashed : pair ∈ hashedPairs hash (List.ofFn steps) (nodes 0)) :
    ∃ i : Fin n, pair = (steps i).children (nodes i.castSucc) := by
  induction n with
  | zero => exact absurd hashed List.not_mem_nil
  | succ n ih =>
      have first : nodes (Fin.succ 0) = (steps 0).parent hash (nodes 0) := climbs 0
      rw [List.ofFn_succ, hashedPairs, ← first, List.mem_cons] at hashed
      rcases hashed with here | above
      · exact ⟨0, here⟩
      · obtain ⟨i, at_i⟩ := ih (fun i => nodes i.succ) (fun i => climbs i.succ) above
        exact ⟨i.succ, at_i⟩

/-- The running node after `i` steps. -/
def nodeAt (hash : α → α → α) {n : ℕ} (steps : Fin n → PathStep α) (leaf : α)
    (i : Fin (n + 1)) : α :=
  climb hash ((List.ofFn steps).take i) leaf

@[simp] theorem nodeAt_zero {n : ℕ} (steps : Fin n → PathStep α) (leaf : α) :
    nodeAt hash steps leaf 0 = leaf := rfl

theorem nodeAt_last {n : ℕ} (steps : Fin n → PathStep α) (leaf : α) :
    nodeAt hash steps leaf (Fin.last n) = climb hash (List.ofFn steps) leaf := by
  rw [nodeAt, Fin.val_last, List.take_of_length_le (List.length_ofFn).le]

theorem nodeAt_succ {n : ℕ} (steps : Fin n → PathStep α) (leaf : α) (i : Fin n) :
    nodeAt hash steps leaf i.succ = (steps i).parent hash (nodeAt hash steps leaf i.castSucc) := by
  have next : (List.ofFn steps).take (i + 1) = (List.ofFn steps).take i ++ [steps i] := by
    rw [List.take_add_one, List.getElem?_ofFn, dif_pos i.isLt]
    rfl
  rw [nodeAt, Fin.val_succ, next, climb_concat]
  rfl

end TheVoteApp.Foundations
