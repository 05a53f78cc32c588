import TheVoteApp.Foundations.Interleaving

/-!
# Programs that issue commands

The body of an asynchronous function, as seen by the store it talks to: it
issues a command, waits for the reply, goes on depending on the reply, and
returns in the end.  One program can be run alone, each command following the
one before (`Program.run`), or as one call of many, command by command
(`Program.step`, driven by a `Pool`).

## Main definitions

* `Program` — commands `C` with replies, returning `α`
* `Program.run` — the program alone
* `Program.step` — its next command
-/

namespace TheVoteApp.Foundations

universe u v w z

/-- A program that returns `α`. -/
inductive Program (C : Type u) (Reply : C → Type v) (α : Type w) where
  | done (result : α)
  | command (c : C) (next : Reply c → Program C Reply α)

namespace Program

variable {C : Type u} {Reply : C → Type v} {α β : Type w} {σ : Type z}

/-- One program after another. -/
def bind : Program C Reply α → (α → Program C Reply β) → Program C Reply β
  | .done result, f => f result
  | .command c next, f => .command c fun reply => (next reply).bind f

instance : Monad (Program C Reply) where
  pure := .done
  bind := .bind

@[simp] theorem pure_eq (result : α) : (pure result : Program C Reply α) = .done result := rfl

@[simp] theorem done_bind (result : α) (f : α → Program C Reply β) :
    (Program.done result >>= f) = f result := rfl

@[simp] theorem command_bind (c : C) (next : Reply c → Program C Reply α)
    (f : α → Program C Reply β) :
    (Program.command c next >>= f) = .command c fun reply => next reply >>= f := rfl

theorem bind_assoc {γ : Type w} (program : Program C Reply α) (f : α → Program C Reply β)
    (g : β → Program C Reply γ) :
    (program >>= f) >>= g = program >>= fun result => f result >>= g := by
  induction program with
  | done result => rfl
  | command c next ih =>
      simp only [command_bind]
      exact congrArg _ (funext ih)

/-! ## Alone -/

/-- The result of the program run alone, and the store it leaves. -/
def run (exec : (c : C) → σ → Reply c × σ) : Program C Reply α → σ → α × σ
  | .done result, store => (result, store)
  | .command c next, store => (next (exec c store).1).run exec (exec c store).2

variable {exec : (c : C) → σ → Reply c × σ}

@[simp] theorem run_done (result : α) (store : σ) :
    (Program.done result : Program C Reply α).run exec store = (result, store) := rfl

@[simp] theorem run_command (c : C) (next : Reply c → Program C Reply α) (store : σ) :
    (Program.command c next).run exec store =
      (next (exec c store).1).run exec (exec c store).2 := rfl

theorem run_bind (program : Program C Reply α) (f : α → Program C Reply β) (store : σ) :
    (program >>= f).run exec store =
      (f (program.run exec store).1).run exec (program.run exec store).2 := by
  induction program generalizing store with
  | done result => rfl
  | command c next ih =>
      simp only [command_bind, run_command]
      exact ih _ _

/-! ## Command by command -/

/-- The next command, or the return. -/
def step (exec : (c : C) → σ → Reply c × σ) :
    Program C Reply α → σ → (Program C Reply α ⊕ α) × σ
  | .done result, store => (.inr result, store)
  | .command c next, store => (.inl (next (exec c store).1), (exec c store).2)

/-- The command that comes next. -/
def nextCommand : Program C Reply α → Option C
  | .done _ => none
  | .command c _ => some c

/-- What is left of a call: its program, or the return of its result. -/
def left : Program C Reply α ⊕ α → Program C Reply α
  | .inl program => program
  | .inr result => .done result

end Program

end TheVoteApp.Foundations
