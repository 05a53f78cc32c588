import TheVoteApp.Foundations.OpenPool

/-!
# Calls at locations

Each call of a pool works at one location of the shared store.  If a command
writes there alone, and depends on nothing else of the store, calls at different
locations do not interfere: a location and the calls that work at it end up the
same whether or not the commands of calls elsewhere are executed.

## Main definitions

* `Pool.Local` — every command works at the location of its call
* `Pool.Alike` — two pools that differ at other locations only

## Main results

* `Pool.Local.alike_run_filter` — dropping moves of calls elsewhere
-/

namespace TheVoteApp.Foundations.Pool

universe u v w z y l

variable {ι : Type u} {κ : Type v} {σ : Type w} {ρ : Type z} {A : Type y} {L V : Type l}
  [DecidableEq ι]

/-- Call `i` works at `loc i`, and `view` is what the store holds at a location. -/
structure Local (loc : ι → L) (view : L → σ → V) (step : ι → κ → σ → (κ ⊕ ρ) × σ)
    (act : A → σ → σ) : Prop where
  frame : ∀ i work s place, place ≠ loc i → view place (step i work s).2 = view place s
  own : ∀ i work s s', view (loc i) s = view (loc i) s' →
    (step i work s).1 = (step i work s').1 ∧
      view (loc i) (step i work s).2 = view (loc i) (step i work s').2
  acts : ∀ a place s s', view place s = view place s' → view place (act a s) = view place (act a s')

/-- Two pools with the same contents at a place, and the same calls there. -/
structure Alike (loc : ι → L) (view : L → σ → V) (place : L) (s s' : Pool ι κ σ ρ) : Prop where
  contents : view place s.shared = view place s'.shared
  calls : ∀ i, loc i = place → s.calls i = s'.calls i

variable {loc : ι → L} {view : L → σ → V} {step : ι → κ → σ → (κ ⊕ ρ) × σ} {act : A → σ → σ}
  {place : L} {s s' s'' : Pool ι κ σ ρ} {i : ι}

namespace Alike

omit [DecidableEq ι]

theorem refl (s : Pool ι κ σ ρ) : Alike loc view place s s := ⟨rfl, fun _ _ => rfl⟩

theorem symm (alike : Alike loc view place s s') : Alike loc view place s' s :=
  ⟨alike.contents.symm, fun i there => (alike.calls i there).symm⟩

theorem trans (alike : Alike loc view place s s') (alike' : Alike loc view place s' s'') :
    Alike loc view place s s'' :=
  ⟨alike.contents.trans alike'.contents,
    fun i there => (alike.calls i there).trans (alike'.calls i there)⟩

end Alike

namespace Local

/-- A command of a call elsewhere goes unnoticed. -/
theorem alike_next_of_ne (localSteps : Local loc view step act) (elsewhere : loc i ≠ place) :
    Alike loc view place ((openMachine step act).next s (.call i)) s := by
  cases state : s.calls i with
  | inr result =>
      rw [next_call_of_returned state]
      exact Alike.refl s
  | inl work =>
      rw [next_call state]
      refine ⟨localSteps.frame i work s.shared place elsewhere.symm, fun j there => ?_⟩
      refine calls_advance_of_ne ?_
      rintro rfl
      exact elsewhere there

/-- A command of a call at the place does the same in both pools. -/
theorem alike_next_of_eq (localSteps : Local loc view step act) (here : loc i = place)
    (alike : Alike loc view place s s') :
    Alike loc view place ((openMachine step act).next s (.call i))
      ((openMachine step act).next s' (.call i)) := by
  have sameCall := alike.calls i here
  cases state : s.calls i with
  | inr result =>
      rw [next_call_of_returned state, next_call_of_returned (sameCall ▸ state)]
      exact alike
  | inl work =>
      rw [next_call state, next_call (sameCall ▸ state)]
      subst here
      obtain ⟨sameResult, sameContents⟩ := localSteps.own i work _ _ alike.contents
      refine ⟨sameContents, fun j there => ?_⟩
      by_cases same : j = i
      · subst same
        rw [calls_advance_self, calls_advance_self, sameResult]
      · rw [calls_advance_of_ne same, calls_advance_of_ne same, alike.calls j there]

theorem alike_next_act (localSteps : Local loc view step act) (a : A)
    (alike : Alike loc view place s s') :
    Alike loc view place ((openMachine step act).next s (.act a))
      ((openMachine step act).next s' (.act a)) :=
  ⟨localSteps.acts a place _ _ alike.contents, alike.calls⟩

/-- **Calls elsewhere do not interfere.**  If the actions and the moves of the
calls at a place are kept, dropping other moves leaves the place alike. -/
theorem alike_run_filter (localSteps : Local loc view step act) {keep : Move ι A → Bool}
    (keepsActs : ∀ a, keep (.act a) = true) (keepsHere : ∀ i, loc i = place → keep (.call i) = true)
    (moves : List (Move ι A)) (alike : Alike loc view place s s') :
    Alike loc view place ((openMachine step act).run s moves)
      ((openMachine step act).run s' (moves.filter keep)) := by
  induction moves generalizing s s' with
  | nil => exact alike
  | cons move moves ih =>
      rw [Machine.run_cons]
      cases move with
      | act a =>
          rw [List.filter_cons_of_pos (keepsActs a), Machine.run_cons]
          exact ih (localSteps.alike_next_act a alike)
      | call i =>
          by_cases here : loc i = place
          · rw [List.filter_cons_of_pos (keepsHere i here), Machine.run_cons]
            exact ih (localSteps.alike_next_of_eq here alike)
          · have moved : Alike loc view place ((openMachine step act).next s (.call i)) s :=
              localSteps.alike_next_of_ne here
            by_cases kept : keep (.call i) = true
            · have moved' : Alike loc view place ((openMachine step act).next s' (.call i)) s' :=
                localSteps.alike_next_of_ne here
              rw [List.filter_cons_of_pos kept, Machine.run_cons]
              exact ih ((moved.trans alike).trans moved'.symm)
            · rw [List.filter_cons_of_neg kept]
              exact ih (moved.trans alike)

end Local

end TheVoteApp.Foundations.Pool
