import TheVoteApp.Foundations.Machine

/-!
# Event sourcing

An observer who sees the event log of a machine, and nothing of its state, can keep a copy
of the part of the state that the events tell about.  `Machine.Sourced` says of one
transaction that its events say what it does to a view of the state; `Sourced.view_run`
says of every run that the view is then what its log makes of the view in the beginning.

A machine may be sourced through one view and not through another.  The log is a complete
record of the state when it is sourced through the identity (`Sourced.run_eq`).
-/

namespace TheVoteApp.Foundations.Machine

universe u v w z x

variable {σ : Type u} {τ : Type v} {ε : Type w} {ρ : Type z} {β : Type x}

/-- The events of a successful transaction say what it does to the view. -/
def Sourced (M : Machine σ τ ε ρ) (view : σ → β) (apply : β → ε → β) : Prop :=
  ∀ s tx s' new, M.call s tx = .ok (s', new) → view s' = new.foldl apply (view s)

variable {M : Machine σ τ ε ρ} {view : σ → β} {apply : β → ε → β}

/-- **The view is what the log makes of it.** -/
theorem Sourced.view_run (sourced : M.Sourced view apply) (s : σ) (txs : List τ) :
    view (M.run s txs) = (M.events s txs).foldl apply (view s) := by
  refine run_induction (I := fun s' log _ => view s' = log.foldl apply (view s)) rfl ?_ txs
  intro s' log _ tx s'' new held success
  rw [sourced s' tx s'' new success, held, List.foldl_append]

/-- A machine that is sourced in full is told by its log. -/
theorem Sourced.run_eq {apply : σ → ε → σ} (sourced : M.Sourced id apply) (s : σ)
    (txs : List τ) : M.run s txs = (M.events s txs).foldl apply s :=
  sourced.view_run s txs

end TheVoteApp.Foundations.Machine
