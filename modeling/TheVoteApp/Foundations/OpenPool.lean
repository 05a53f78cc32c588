import TheVoteApp.Foundations.Interleaving

/-!
# Calls in an environment

A pool whose shared store also moves by itself: time passes, an entry expires,
another system writes.  A move is either the next command of one call or an
action of the environment; actions and commands interleave freely.  A call knows
which call it is, so the calls may run one program on different arguments.

## Main definitions

* `Pool.Move` — a command of a call, or an action
* `Pool.openMachine` — the pool driven by moves
* `Pool.launch` — every call before its first command

## Main results

* `Pool.openMachine_invariant` — what commands and actions preserve holds
  throughout a run
-/

namespace TheVoteApp.Foundations.Pool

universe u v w z y

variable {ι : Type u} {κ : Type v} {σ : Type w} {ρ : Type z} {A : Type y} [DecidableEq ι]

/-- The next command of a call, or an action of the environment. -/
inductive Move (ι : Type u) (A : Type y) where
  | call (i : ι)
  | act (action : A)
deriving DecidableEq

/-- The pool driven by moves. -/
def openMachine (step : ι → κ → σ → (κ ⊕ ρ) × σ) (act : A → σ → σ) :
    Machine (Pool ι κ σ ρ) (Move ι A) (ι × ρ) Unit where
  call s
    | .call i => (machine (step i)).call s i
    | .act action => .ok (⟨act action s.shared, s.calls⟩, [])

/-- Every call before its first command. -/
def launch (begin : ι → κ) (store : σ) : Pool ι κ σ ρ := ⟨store, fun i => .inl (begin i)⟩

/-- The pool after a command of call `i`, which has `work` left. -/
def advance (step : ι → κ → σ → (κ ⊕ ρ) × σ) (s : Pool ι κ σ ρ) (i : ι) (work : κ) :
    Pool ι κ σ ρ :=
  ⟨(step i work s.shared).2, Function.update s.calls i (step i work s.shared).1⟩

variable {step : ι → κ → σ → (κ ⊕ ρ) × σ} {act : A → σ → σ} {s : Pool ι κ σ ρ} {i j : ι} {work : κ}

@[simp] theorem calls_advance_self :
    (advance step s i work).calls i = (step i work s.shared).1 := Function.update_self ..

theorem calls_advance_of_ne (other : j ≠ i) :
    (advance step s i work).calls j = s.calls j := Function.update_of_ne other ..

@[simp] theorem shared_advance : (advance step s i work).shared = (step i work s.shared).2 := rfl

omit [DecidableEq ι] in
@[simp] theorem calls_launch (begin : ι → κ) (store : σ) :
    (launch begin store : Pool ι κ σ ρ).calls i = .inl (begin i) := rfl

omit [DecidableEq ι] in
@[simp] theorem shared_launch (begin : ι → κ) (store : σ) :
    (launch begin store : Pool ι κ σ ρ).shared = store := rfl

/-- A command of a call that has work left. -/
theorem next_call (left : s.calls i = .inl work) :
    (openMachine step act).next s (.call i) = advance step s i work := by
  have moved : (openMachine step act).call s (.call i) =
      .ok (advance step s i work, returned i (step i work s.shared).1) := by
    simp only [openMachine, machine, left]
    rfl
  rw [Machine.next_of_ok moved]

/-- A call that has returned is not scheduled any more. -/
theorem next_call_of_returned {result : ρ} (done : s.calls i = .inr result) :
    (openMachine step act).next s (.call i) = s := by
  simp only [Machine.next, openMachine, machine, done]

/-- **Invariants of an open pool**, along the runs whose moves meet `P`: what
every command and every action preserves. -/
theorem openMachine_invariant {P : Pool ι κ σ ρ → Move ι A → Prop} {I : Pool ι κ σ ρ → Prop}
    {s₀ : Pool ι κ σ ρ} (init : I s₀)
    (command : ∀ s i work, I s → P s (.call i) → s.calls i = .inl work →
      I (advance step s i work))
    (action : ∀ s a, I s → P s (.act a) → I ⟨act a s.shared, s.calls⟩)
    (moves : List (Move ι A)) (along : (openMachine step act).Along P s₀ moves) :
    I ((openMachine step act).run s₀ moves) := by
  refine Machine.run_invariant_along init ?_ moves along
  intro s move s' new held met moved
  cases move with
  | call i =>
      obtain ⟨work, left, rfl, -⟩ := call_eq_ok moved
      exact command s i work held met left
  | act a =>
      obtain ⟨rfl, -⟩ := Prod.mk.inj (Except.ok.inj moved)
      exact action s a held met

end TheVoteApp.Foundations.Pool
