import TheVoteApp.Foundations.Machine

/-!
# Solidity values

The value types and the arithmetic the contracts share.  Storage mappings are
total functions with the type's default outside the written keys, updated with
`Function.update`; `uint256` values are naturals, and the operations that can
leave the range say so (`checkedIncrement`).

Hash functions are parameters of the development.  `CollisionFreeOn` is the
assumption results about hashed identifiers make: no collision among the byte
strings the result mentions, which a function into 256 bits can satisfy.
-/

namespace TheVoteApp.Solidity

/-- `bytes` -/
abbrev Bytes := List UInt8

/-- `bytes2` -/
abbrev Bytes2 := BitVec 16

/-- `bytes32` -/
abbrev Bytes32 := BitVec 256

/-- `address` -/
abbrev Address := BitVec 160

/-- The part of a transaction's environment the contracts read. -/
structure Env where
  /-- `msg.sender` -/
  sender : Address
  /-- `block.timestamp` -/
  timestamp : ℕ
  /-- `block.number` -/
  blockNumber : ℕ
deriving DecidableEq, Repr

/-- Solidity 0.8 `x++` on a `uint256`; `none` is the arithmetic panic. -/
def checkedIncrement (n : ℕ) : Option ℕ :=
  if n + 1 < 2 ^ 256 then some (n + 1) else none

theorem checkedIncrement_eq_some_iff {n m : ℕ} :
    checkedIncrement n = some m ↔ n + 1 < 2 ^ 256 ∧ m = n + 1 := by
  unfold checkedIncrement
  split <;> simp_all [eq_comm]

/-- A sequence of two calls succeeds exactly when both do. -/
theorem bind_eq_ok_iff {ρ α β : Type} {x : Except ρ α} {f : α → Except ρ β} {r : β} :
    (x >>= f) = .ok r ↔ ∃ a, x = .ok a ∧ f a = .ok r := by
  cases x <;> simp [bind, Except.bind]

theorem toOption_eq_some_iff {ρ α : Type} {x : Except ρ α} {a : α} :
    x.toOption = some a ↔ x = .ok a := by
  cases x <;> simp [Except.toOption]

/-- The EVM opcode `MULMOD`: the product is not truncated before reduction. -/
def mulmod (x y m : ℕ) : ℕ := x * y % m

/-- The EVM opcode `ADDMOD`: the sum is not truncated before reduction. -/
def addmod (x y m : ℕ) : ℕ := (x + y) % m

/-- `hash` has no collision among the inputs `inputs`. -/
def CollisionFreeOn (hash : Bytes → Bytes32) (inputs : Set Bytes) : Prop :=
  Set.InjOn hash inputs

/-- Without collisions, byte strings of different lengths have different
digests. -/
theorem CollisionFreeOn.ne_of_length_ne {hash : Bytes → Bytes32} {inputs : Set Bytes}
    (free : CollisionFreeOn hash inputs) {a b : Bytes} (memA : a ∈ inputs) (memB : b ∈ inputs)
    (lengths : a.length ≠ b.length) : hash a ≠ hash b := by
  intro collision
  exact lengths (congrArg List.length (free memA memB collision))

instance instFintypeBitVec (n : ℕ) : Fintype (BitVec n) :=
  Fintype.ofEquiv (Fin (2 ^ n)) ⟨BitVec.ofFin, BitVec.toFin, fun _ => rfl, fun _ => rfl⟩

theorem card_bitVec (n : ℕ) : Fintype.card (BitVec n) = 2 ^ n := by
  have sizes : Fintype.card (BitVec n) = Fintype.card (Fin (2 ^ n)) :=
    Fintype.card_congr ⟨BitVec.toFin, BitVec.ofFin, fun _ => rfl, fun _ => rfl⟩
  rw [sizes, Fintype.card_fin]

end TheVoteApp.Solidity
