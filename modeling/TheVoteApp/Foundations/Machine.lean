import Mathlib

/-!
# Reverting machines and their runs

A contract, seen from outside, is a state driven by transactions.  A
transaction either *reverts*, leaving no trace at all, or succeeds, replacing
the state and emitting events.  This module fixes that shape once and derives
the two induction rules every invariant proof of the development goes through.

## Main definitions

* `Machine` — one transaction, as a partial function with events
* `Machine.run`, `Machine.events`, `Machine.accepted` — the state, the event log
  and the list of successful transactions after a sequence of transactions
* `Machine.Along` — a condition met by every step of a run, each judged in the
  state the step starts from
* `Machine.Sometime` — a condition met by some step of a run, judged likewise
* `Machine.IsComponent` — one machine as a part of another

## Design notes

A run is an arbitrary list of transactions, reverting ones included, so a
statement about `run s₀ txs` for every `txs` is a statement about every
reachable state.  The three observations grow at the end of the list
(`run_concat`, `events_concat`, `accepted_concat`), and `run_induction` is the
only place where that induction is carried out.
-/

namespace TheVoteApp.Foundations

universe u v w z

/-- A machine whose transactions `τ` revert with an error of type `ρ` or move
the state `σ` and emit events `ε`. -/
structure Machine (σ : Type u) (τ : Type v) (ε : Type w) (ρ : Type z) where
  call : σ → τ → Except ρ (σ × List ε)

namespace Machine

variable {σ : Type u} {τ : Type v} {ε : Type w} {ρ : Type z}

section Runs

variable (M : Machine σ τ ε ρ)

/-- The transaction does not revert. -/
def Succeeds (s : σ) (tx : τ) : Prop := ∃ r, M.call s tx = .ok r

instance decidableSucceeds (s : σ) (tx : τ) : Decidable (M.Succeeds s tx) :=
  match outcome : M.call s tx with
  | .ok r => isTrue ⟨r, outcome⟩
  | .error e => isFalse (by rintro ⟨r, success⟩; simp [success] at outcome)

/-- The state after one transaction; a revert leaves it unchanged. -/
def next (s : σ) (tx : τ) : σ :=
  match M.call s tx with
  | .ok r => r.1
  | .error _ => s

/-- The events one transaction emits; a revert discards them. -/
def emitted (s : σ) (tx : τ) : List ε :=
  match M.call s tx with
  | .ok r => r.2
  | .error _ => []

/-- The state after a sequence of transactions. -/
def run (s : σ) (txs : List τ) : σ := txs.foldl M.next s

/-- The event log of a sequence of transactions, oldest first. -/
def events : σ → List τ → List ε
  | _, [] => []
  | s, tx :: txs => M.emitted s tx ++ events (M.next s tx) txs

/-- The transactions of a run that did not revert, in order. -/
def accepted : σ → List τ → List τ
  | _, [] => []
  | s, tx :: txs =>
      if M.Succeeds s tx then tx :: accepted (M.next s tx) txs
      else accepted (M.next s tx) txs

/-- Every step of the run meets `P` in the state it starts from. -/
def Along (P : σ → τ → Prop) : σ → List τ → Prop
  | _, [] => True
  | s, tx :: txs => P s tx ∧ Along P (M.next s tx) txs

instance decidableAlong (P : σ → τ → Prop) [∀ s tx, Decidable (P s tx)] :
    ∀ s txs, Decidable (M.Along P s txs)
  | _, [] => isTrue trivial
  | s, tx :: txs =>
      have := decidableAlong P (M.next s tx) txs
      inferInstanceAs (Decidable (P s tx ∧ M.Along P (M.next s tx) txs))

/-- Some step of the run meets `P` in the state it starts from. -/
def Sometime (P : σ → τ → Prop) : σ → List τ → Prop
  | _, [] => False
  | s, tx :: txs => P s tx ∨ Sometime P (M.next s tx) txs

end Runs

variable {M : Machine σ τ ε ρ}

theorem next_of_ok {s : σ} {tx : τ} {r : σ × List ε} (success : M.call s tx = .ok r) :
    M.next s tx = r.1 := by
  simp [next, success]

theorem emitted_of_ok {s : σ} {tx : τ} {r : σ × List ε}
    (success : M.call s tx = .ok r) : M.emitted s tx = r.2 := by
  simp [emitted, success]

theorem next_of_not_succeeds {s : σ} {tx : τ} (reverted : ¬ M.Succeeds s tx) :
    M.next s tx = s := by
  cases outcome : M.call s tx with
  | ok r => exact absurd ⟨r, outcome⟩ reverted
  | error e => simp [next, outcome]

theorem emitted_of_not_succeeds {s : σ} {tx : τ} (reverted : ¬ M.Succeeds s tx) :
    M.emitted s tx = [] := by
  cases outcome : M.call s tx with
  | ok r => exact absurd ⟨r, outcome⟩ reverted
  | error e => simp [emitted, outcome]

/-! ## Runs grow at the end -/

@[simp] theorem run_nil (s : σ) : M.run s [] = s := rfl

theorem run_cons (s : σ) (tx : τ) (txs : List τ) :
    M.run s (tx :: txs) = M.run (M.next s tx) txs := rfl

theorem run_append (s : σ) (before after : List τ) :
    M.run s (before ++ after) = M.run (M.run s before) after := by
  simp [run, List.foldl_append]

theorem run_concat (s : σ) (txs : List τ) (tx : τ) :
    M.run s (txs ++ [tx]) = M.next (M.run s txs) tx := by
  rw [run_append]
  rfl

theorem events_append (s : σ) (before after : List τ) :
    M.events s (before ++ after) =
      M.events s before ++ M.events (M.run s before) after := by
  induction before generalizing s with
  | nil => rfl
  | cons tx before ih => simp only [List.cons_append, events, run_cons, ih, List.append_assoc]

theorem events_concat (s : σ) (txs : List τ) (tx : τ) :
    M.events s (txs ++ [tx]) = M.events s txs ++ M.emitted (M.run s txs) tx := by
  rw [events_append]
  simp [events]

theorem accepted_append (s : σ) (before after : List τ) :
    M.accepted s (before ++ after) =
      M.accepted s before ++ M.accepted (M.run s before) after := by
  induction before generalizing s with
  | nil => rfl
  | cons tx before ih =>
      simp only [List.cons_append, accepted, run_cons, ih]
      split <;> rfl

theorem accepted_concat (s : σ) (txs : List τ) (tx : τ) :
    M.accepted s (txs ++ [tx]) =
      M.accepted s txs ++ if M.Succeeds (M.run s txs) tx then [tx] else [] := by
  rw [accepted_append]
  simp only [accepted]

theorem accepted_sublist (s : σ) (txs : List τ) : (M.accepted s txs).Sublist txs := by
  induction txs generalizing s with
  | nil => exact List.Sublist.refl _
  | cons tx txs ih =>
      rw [accepted]
      split
      · exact (ih _).cons_cons tx
      · exact (ih _).cons tx

/-- Transactions that move every state alike may take each other's place in a run. -/
theorem run_congr {txs txs' : List τ}
    (alike : List.Forall₂ (fun tx tx' => ∀ s, M.next s tx = M.next s tx') txs txs') (s : σ) :
    M.run s txs = M.run s txs' := by
  induction alike generalizing s with
  | nil => rfl
  | cons same _ ih => rw [run_cons, run_cons, same s, ih]

theorem along_append {P : σ → τ → Prop} (s : σ) (before after : List τ) :
    M.Along P s (before ++ after) ↔
      M.Along P s before ∧ M.Along P (M.run s before) after := by
  induction before generalizing s with
  | nil => simp [Along]
  | cons tx before ih => simp only [List.cons_append, Along, run_cons, ih, and_assoc]

theorem along_concat {P : σ → τ → Prop} (s : σ) (txs : List τ) (tx : τ) :
    M.Along P s (txs ++ [tx]) ↔ M.Along P s txs ∧ P (M.run s txs) tx := by
  rw [along_append]
  simp [Along]

/-- A run meets `P` step by step exactly when every transaction of it meets `P`
in the state its predecessors leave. -/
theorem along_iff_forall_split {P : σ → τ → Prop} (s : σ) (txs : List τ) :
    M.Along P s txs ↔ ∀ done tx rest, txs = done ++ tx :: rest → P (M.run s done) tx := by
  constructor
  · rintro along done tx rest rfl
    exact ((along_append s done (tx :: rest)).mp along).2.1
  · induction txs generalizing s with
    | nil => intro _; trivial
    | cons tx txs ih =>
        intro steps
        refine ⟨steps [] tx txs rfl, ih (M.next s tx) fun done later rest split => ?_⟩
        exact steps (tx :: done) later rest (by rw [split, List.cons_append])

theorem along_and {P Q : σ → τ → Prop} (s : σ) (txs : List τ) :
    M.Along (fun s tx => P s tx ∧ Q s tx) s txs ↔ M.Along P s txs ∧ M.Along Q s txs := by
  induction txs generalizing s with
  | nil => simp [Along]
  | cons tx txs ih =>
      simp only [Along, ih]
      exact and_and_and_comm

/-- A condition on the transactions alone. -/
theorem along_of_forall_mem {P : τ → Prop} {txs : List τ} (all : ∀ tx ∈ txs, P tx) (s : σ) :
    M.Along (fun _ tx => P tx) s txs := by
  induction txs generalizing s with
  | nil => trivial
  | cons tx txs ih =>
      obtain ⟨first, rest⟩ := List.forall_mem_cons.mp all
      exact ⟨first, ih rest _⟩

/-! ## Steps in the past -/

theorem sometime_append {P : σ → τ → Prop} (s : σ) (before after : List τ) :
    M.Sometime P s (before ++ after) ↔
      M.Sometime P s before ∨ M.Sometime P (M.run s before) after := by
  induction before generalizing s with
  | nil => simp [Sometime]
  | cons tx before ih => simp only [List.cons_append, Sometime, run_cons, ih, or_assoc]

theorem sometime_concat {P : σ → τ → Prop} (s : σ) (txs : List τ) (tx : τ) :
    M.Sometime P s (txs ++ [tx]) ↔ M.Sometime P s txs ∨ P (M.run s txs) tx := by
  rw [sometime_append]
  simp [Sometime]

/-- A step that met `P` splits the run at the transaction it was. -/
theorem sometime_iff_exists_split {P : σ → τ → Prop} (s : σ) (txs : List τ) :
    M.Sometime P s txs ↔ ∃ done tx rest, txs = done ++ tx :: rest ∧ P (M.run s done) tx := by
  constructor
  · induction txs generalizing s with
    | nil => intro never; exact never.elim
    | cons tx txs ih =>
        rintro (now | later)
        · exact ⟨[], tx, txs, rfl, now⟩
        · obtain ⟨done, tx', rest, split, met⟩ := ih (M.next s tx) later
          exact ⟨tx :: done, tx', rest, by rw [split, List.cons_append], met⟩
  · rintro ⟨done, tx, rest, rfl, met⟩
    exact (sometime_append s done (tx :: rest)).mpr (.inr (.inl met))

theorem sometime_exists {α : Type*} {P : α → σ → τ → Prop} (s : σ) (txs : List τ) :
    M.Sometime (fun s tx => ∃ a, P a s tx) s txs ↔ ∃ a, M.Sometime (P a) s txs := by
  induction txs generalizing s with
  | nil => simp [Sometime]
  | cons tx txs ih => simp only [Sometime, ih, exists_or]

/-- Either some step of a run meets `P` or every step fails it. -/
theorem not_sometime_iff {P : σ → τ → Prop} (s : σ) (txs : List τ) :
    ¬ M.Sometime P s txs ↔ M.Along (fun s tx => ¬ P s tx) s txs := by
  induction txs generalizing s with
  | nil => simp [Sometime, Along]
  | cons tx txs ih => simp only [Sometime, Along, not_or, ih]

/-! ## The induction rules -/

/-- **Invariants with history.**  A property of the state together with the
event log and the accepted transactions holds after every run whose steps meet
`P`, once it holds initially and every *successful* step meeting `P` preserves
it. -/
theorem run_induction_along {P : σ → τ → Prop} {I : σ → List ε → List τ → Prop}
    {s₀ : σ} (init : I s₀ [] [])
    (step : ∀ s log done tx s' new, I s log done → P s tx →
      M.call s tx = .ok (s', new) → I s' (log ++ new) (done ++ [tx]))
    (txs : List τ) (along : M.Along P s₀ txs) :
    I (M.run s₀ txs) (M.events s₀ txs) (M.accepted s₀ txs) := by
  induction txs using List.reverseRecOn with
  | nil => exact init
  | append_singleton txs tx ih =>
      obtain ⟨earlier, last⟩ := (along_concat s₀ txs tx).mp along
      have held := ih earlier
      rw [run_concat, events_concat, accepted_concat]
      by_cases success : M.Succeeds (M.run s₀ txs) tx
      · obtain ⟨⟨s', new⟩, outcome⟩ := success
        rw [next_of_ok outcome, emitted_of_ok outcome, if_pos ⟨_, outcome⟩]
        exact step _ _ _ _ _ _ held last outcome
      · rw [next_of_not_succeeds success, emitted_of_not_succeeds success, if_neg success]
        simpa using held

/-- Invariants with history, over all runs. -/
theorem run_induction {I : σ → List ε → List τ → Prop} {s₀ : σ} (init : I s₀ [] [])
    (step : ∀ s log done tx s' new, I s log done →
      M.call s tx = .ok (s', new) → I s' (log ++ new) (done ++ [tx]))
    (txs : List τ) : I (M.run s₀ txs) (M.events s₀ txs) (M.accepted s₀ txs) :=
  run_induction_along (P := fun _ _ => True) init
    (fun s log done tx s' new held _ => step s log done tx s' new held) txs
    (along_of_forall_mem (fun _ _ => trivial) s₀)

/-- Invariants of the state alone, over the runs whose steps meet `P`. -/
theorem run_invariant_along {P : σ → τ → Prop} {I : σ → Prop} {s₀ : σ} (init : I s₀)
    (step : ∀ s tx s' new, I s → P s tx → M.call s tx = .ok (s', new) → I s')
    (txs : List τ) (along : M.Along P s₀ txs) : I (M.run s₀ txs) :=
  run_induction_along (I := fun s _ _ => I s) init
    (fun s _ _ tx s' new held met => step s tx s' new held met) txs along

/-- Invariants of the state alone, over all runs. -/
theorem run_invariant {I : σ → Prop} {s₀ : σ} (init : I s₀)
    (step : ∀ s tx s' new, I s → M.call s tx = .ok (s', new) → I s') (txs : List τ) :
    I (M.run s₀ txs) :=
  run_induction (I := fun s _ _ => I s) init
    (fun s _ _ tx s' new held => step s tx s' new held) txs

/-- **Conditions along a run.**  Suppose that under `I` every step that meets `C` meets `P`
and keeps `I`.  Then a run whose steps all meet `C` meets `P` in all its steps. -/
theorem along_of_invariant {C P : σ → τ → Prop} {I : σ → Prop} {s₀ : σ} (init : I s₀)
    (keeps : ∀ s tx, I s → C s tx → I (M.next s tx))
    (gives : ∀ s tx, I s → C s tx → P s tx) (txs : List τ) (along : M.Along C s₀ txs) :
    M.Along P s₀ txs := by
  induction txs generalizing s₀ with
  | nil => trivial
  | cons tx txs ih =>
      obtain ⟨met, later⟩ := along
      exact ⟨gives s₀ tx init met, ih (keeps s₀ tx init met) later⟩

/-- What a run has established: a property `I` of the state holds exactly when
some earlier step met `P`, once it fails initially and each successful step
adds to it just the case that the step met `P`. -/
theorem run_iff_sometime {P : σ → τ → Prop} {I : σ → Prop} {s₀ : σ} (init : ¬ I s₀)
    (success : ∀ s tx, P s tx → M.Succeeds s tx)
    (step : ∀ s tx s' new, M.call s tx = .ok (s', new) → (I s' ↔ I s ∨ P s tx))
    (txs : List τ) : I (M.run s₀ txs) ↔ M.Sometime P s₀ txs := by
  induction txs using List.reverseRecOn with
  | nil => exact iff_of_false init id
  | append_singleton txs tx ih =>
      rw [run_concat, sometime_concat, ← ih]
      by_cases succeeds : M.Succeeds (M.run s₀ txs) tx
      · obtain ⟨⟨s', new⟩, outcome⟩ := succeeds
        rw [next_of_ok outcome]
        exact step _ tx s' new outcome
      · rw [next_of_not_succeeds succeeds]
        exact (or_iff_left fun met => succeeds (success _ tx met)).symm

/-- **Good as long as the steps are.**  Suppose that under `I` a well-formed step
from a good state leads to a good one if and only if it meets `C`, and then keeps
`I`.  Then every state of a run is good exactly when the first is and all its
steps meet `C`. -/
theorem forall_run_iff_along {V C : σ → τ → Prop} {I G : σ → Prop} {s₀ : σ} (init : I s₀)
    (decides : ∀ s tx, I s → V s tx → G s → (G (M.next s tx) ↔ C s tx))
    (keeps : ∀ s tx, I s → V s tx → C s tx → I (M.next s tx)) (txs : List τ)
    (valid : M.Along V s₀ txs) :
    (∀ done rest, txs = done ++ rest → G (M.run s₀ done)) ↔ G s₀ ∧ M.Along C s₀ txs := by
  induction txs generalizing s₀ with
  | nil =>
      constructor
      · intro all
        exact ⟨all [] [] rfl, trivial⟩
      · rintro ⟨good, -⟩ done rest split
        obtain ⟨rfl, -⟩ := List.append_eq_nil_iff.mp split.symm
        exact good
  | cons tx txs ih =>
      obtain ⟨now, later⟩ := valid
      constructor
      · intro all
        have good : G s₀ := all [] (tx :: txs) rfl
        have met : C s₀ tx := (decides s₀ tx init now good).mp (all [tx] txs rfl)
        have after := (ih (keeps s₀ tx init now met) later).mp fun done rest split =>
          all (tx :: done) rest (by rw [split, List.cons_append])
        exact ⟨good, met, after.2⟩
      · rintro ⟨good, met, along⟩ done rest split
        have reached := (decides s₀ tx init now good).mpr met
        cases done with
        | nil => exact good
        | cons tx' done =>
            obtain ⟨rfl, rest'⟩ := List.cons.inj split
            exact (ih (keeps s₀ tx init now met) later).mpr ⟨reached, along⟩ done rest rest'

/-! ## Components and simulations -/

section Components

universe u' v' w' z'

variable {σ' : Type u'} {τ' : Type v'} {ε' : Type w'} {ρ' : Type z'}

/-- `N` is a component of `M`: seen through `view`, every transaction of the whole
is a transaction of the part or leaves the part alone. -/
structure IsComponent (M : Machine σ τ ε ρ) (N : Machine σ' τ' ε' ρ') (view : σ → σ')
    (part : τ → Option τ') (seen : ε → Option ε') : Prop where
  next : ∀ s tx, view (M.next s tx) = (part tx).elim (view s) (N.next (view s))
  emitted : ∀ s tx, (M.emitted s tx).filterMap seen = (part tx).elim [] (N.emitted (view s))

variable {N : Machine σ' τ' ε' ρ'} {view : σ → σ'} {part : τ → Option τ'} {seen : ε → Option ε'}

/-- A run of the whole is a run of the component. -/
theorem IsComponent.run (component : IsComponent M N view part seen) (s : σ) (txs : List τ) :
    view (M.run s txs) = N.run (view s) (txs.filterMap part) := by
  induction txs generalizing s with
  | nil => rfl
  | cons tx txs ih =>
      rw [run_cons, ih, component.next]
      cases own : part tx with
      | none => rw [List.filterMap_cons_none own, Option.elim]
      | some t => rw [List.filterMap_cons_some own, Option.elim, run_cons]

/-- The component's event log is its share of the whole log. -/
theorem IsComponent.events (component : IsComponent M N view part seen) (s : σ) (txs : List τ) :
    (M.events s txs).filterMap seen = N.events (view s) (txs.filterMap part) := by
  induction txs generalizing s with
  | nil => rfl
  | cons tx txs ih =>
      rw [Machine.events, List.filterMap_append, ih, component.next, component.emitted]
      cases own : part tx with
      | none => rw [List.filterMap_cons_none own, Option.elim, Option.elim, List.nil_append]
      | some t => rw [List.filterMap_cons_some own, Option.elim, Option.elim, Machine.events]

/-- **Simulation.**  When every step of `M` from a related state is matched by a run of
`N`, so is every run of `M`. -/
theorem exists_run_of_simulates {R : σ → σ' → Prop}
    (step : ∀ s s' tx, R s s' → ∃ txs', R (M.next s tx) (N.run s' txs')) {s : σ} {s' : σ'}
    (related : R s s') (txs : List τ) : ∃ txs', R (M.run s txs) (N.run s' txs') := by
  induction txs generalizing s s' with
  | nil => exact ⟨[], related⟩
  | cons tx txs ih =>
      obtain ⟨first, reached⟩ := step s s' tx related
      obtain ⟨rest, matched⟩ := ih reached
      refine ⟨first ++ rest, ?_⟩
      rwa [run_append]

end Components

end Machine

end TheVoteApp.Foundations
