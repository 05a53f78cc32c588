import TheVoteApp.Foundations.Machine

/-!
# Interleaved calls on a shared store

Any number of calls work on one shared store.  Each issues its commands one
after the other, waits for every reply, and returns in the end; a command is
atomic, and between two commands of one call any commands of the others may
run.  A schedule lists the calls in the order their commands are executed.

A store is *linearizable* along a schedule when the calls that returned can be
put in one order that agrees with real time, in which a sequential store would
have given the same results and reached the same contents.

## Main definitions

* `Pool` — the shared store, and for each call the work left or its result
* `Pool.machine` — the pool, driven by a schedule
* `Pool.Linearizable` — the concurrent run has a sequential counterpart

## Main results

* `Pool.linearizable_of_final_command` — the rule for calls that take effect
  with their last command
-/

namespace TheVoteApp.Foundations

universe u v w z

/-- Calls `ι` with work `κ` left or a result `ρ`, on a shared store `σ`. -/
structure Pool (ι : Type u) (κ : Type v) (σ : Type w) (ρ : Type z) where
  shared : σ
  calls : ι → κ ⊕ ρ

namespace Pool

variable {ι : Type u} {κ : Type v} {σ : Type w} {ρ : Type z} [DecidableEq ι]

/-- The result a command leads to, if the call returns after it. -/
def returned (i : ι) : κ ⊕ ρ → List (ι × ρ)
  | .inl _ => []
  | .inr result => [(i, result)]

/-- The pool driven by a schedule: `step` executes the next command of some
work.  Calls that have returned are not scheduled any more. -/
def machine (step : κ → σ → (κ ⊕ ρ) × σ) : Machine (Pool ι κ σ ρ) ι (ι × ρ) Unit where
  call s i :=
    match s.calls i with
    | .inr _ => .error ()
    | .inl work =>
      let next := step work s.shared
      .ok (⟨next.2, Function.update s.calls i next.1⟩, returned i next.1)

variable {step : κ → σ → (κ ⊕ ρ) × σ}

/-- **One command**: the call had work left, and `step` executed it. -/
theorem call_eq_ok {s s' : Pool ι κ σ ρ} {i : ι} {new : List (ι × ρ)}
    (moved : (machine step).call s i = .ok (s', new)) :
    ∃ work, s.calls i = .inl work ∧
      s' = ⟨(step work s.shared).2, Function.update s.calls i (step work s.shared).1⟩ ∧
      new = returned i (step work s.shared).1 := by
  cases left : s.calls i with
  | inr result => simp [machine, left] at moved
  | inl work =>
      simp only [machine, left, Except.ok.injEq, Prod.mk.injEq] at moved
      exact ⟨work, rfl, moved.1.symm, moved.2.symm⟩

theorem succeeds_of_left {s : Pool ι κ σ ρ} {i : ι} {work : κ} (left : s.calls i = .inl work) :
    (machine step).Succeeds s i := by
  simp only [Machine.Succeeds, machine, left]
  exact ⟨_, rfl⟩

/-! ## Linearizability -/

/-- Calls executed one at a time, each as a single operation: the results, and
the final contents. -/
def replay {A : Type w} (operation : ι → A → ρ × A) : A → List ι → List (ι × ρ) × A
  | contents, [] => ([], contents)
  | contents, i :: order =>
      let done := operation i contents
      let rest := replay operation done.2 order
      ((i, done.1) :: rest.1, rest.2)

omit [DecidableEq ι] in
theorem replay_concat {A : Type w} (operation : ι → A → ρ × A) (contents : A) (order : List ι)
    (i : ι) :
    replay operation contents (order ++ [i]) =
      ((replay operation contents order).1 ++
          [(i, (operation i (replay operation contents order).2).1)],
        (operation i (replay operation contents order).2).2) := by
  induction order generalizing contents with
  | nil => rfl
  | cons j order ih => simp only [List.cons_append, replay, ih]

/-- `order` lists the calls that returned, each with an instant between its first
command and its last; the sequential store, given the calls in that order,
returns the same results and ends with the same contents.  Instants count the
commands executed before. -/
structure Linearizes {A : Type w} (step : κ → σ → (κ ⊕ ρ) × σ) (operation : ι → A → ρ × A)
    (view : σ → A) (start : Pool ι κ σ ρ) (schedule order : List ι) (instant : ι → ℕ) : Prop where
  returned_iff : ∀ i, i ∈ order ↔ ∃ r, ((machine step).run start schedule).calls i = .inr r
  increasing : order.Pairwise fun i j => instant i < instant j
  within : ∀ i ∈ order, instant i < schedule.length
  started : ∀ i ∈ order, i ∈ schedule.take (instant i + 1)
  unreturned : ∀ i ∈ order, ∀ r,
    ((machine step).run start (schedule.take (instant i))).calls i ≠ .inr r
  results : ∀ entry ∈ (replay operation (view start.shared) order).1,
    ((machine step).run start schedule).calls entry.1 = .inr entry.2
  contents : (replay operation (view start.shared) order).2 =
    view ((machine step).run start schedule).shared

/-- Every call that returned took effect at one instant between its first and
its last command. -/
def Linearizable {A : Type w} (step : κ → σ → (κ ⊕ ρ) × σ) (operation : ι → A → ρ × A)
    (view : σ → A) (start : Pool ι κ σ ρ) (schedule : List ι) : Prop :=
  ∃ order instant, Linearizes step operation view start schedule order instant

section FinalCommand

variable {A : Type w} {operation : ι → A → ρ × A} {view : σ → A} {start : Pool ι κ σ ρ}
  {schedule order : List ι} {instant : ι → ℕ}

omit [DecidableEq ι] in
theorem take_concat_of_lt {n : ℕ} (small : n < schedule.length) (i : ι) :
    (schedule ++ [i]).take n = schedule.take n ∧
      (schedule ++ [i]).take (n + 1) = schedule.take (n + 1) :=
  ⟨List.take_append_of_le_length small.le, List.take_append_of_le_length small⟩

/-- A command that does not return from its call changes nothing the sequential
store sees. -/
theorem Linearizes.concat_silent
    (held : Linearizes step operation view start schedule order instant) {i : ι}
    (sameReturns : ∀ j r,
      ((machine step).run start (schedule ++ [i])).calls j = .inr r ↔
        ((machine step).run start schedule).calls j = .inr r)
    (sameView : view ((machine step).run start (schedule ++ [i])).shared =
      view ((machine step).run start schedule).shared) :
    Linearizes step operation view start (schedule ++ [i]) order instant where
  returned_iff j := by
    simp only [sameReturns]
    exact held.returned_iff j
  increasing := held.increasing
  within j mem := (held.within j mem).trans (by simp)
  started j mem := by
    rw [(take_concat_of_lt (held.within j mem) i).2]
    exact held.started j mem
  unreturned j mem := by
    rw [(take_concat_of_lt (held.within j mem) i).1]
    exact held.unreturned j mem
  results entry mem := (sameReturns entry.1 entry.2).mpr (held.results entry mem)
  contents := held.contents.trans sameView.symm

/-- A command that returns from its call, and acts on the contents as the call's
operation does, puts the call at the end of the order. -/
theorem Linearizes.concat_final
    (held : Linearizes step operation view start schedule order instant) {i : ι} {work : κ}
    {result : ρ} (left : ((machine step).run start schedule).calls i = .inl work)
    (calls : ((machine step).run start (schedule ++ [i])).calls =
      Function.update ((machine step).run start schedule).calls i (.inr result))
    (acts : operation i (view ((machine step).run start schedule).shared) =
      (result, view ((machine step).run start (schedule ++ [i])).shared)) :
    Linearizes step operation view start (schedule ++ [i]) (order ++ [i])
      (Function.update instant i schedule.length) := by
  -- a call in the order has returned, and this one has work left
  have fresh : i ∉ order := by
    intro mem
    obtain ⟨r, done⟩ := (held.returned_iff i).mp mem
    rw [left] at done
    exact Sum.inl_ne_inr done
  have instant_of_mem : ∀ j ∈ order,
      Function.update instant i schedule.length j = instant j := fun j mem =>
    Function.update_of_ne (ne_of_mem_of_not_mem mem fresh) _ _
  have instant_self : Function.update instant i schedule.length i = schedule.length :=
    Function.update_self ..
  have replayed : replay operation (view start.shared) (order ++ [i]) =
      ((replay operation (view start.shared) order).1 ++ [(i, result)],
        view ((machine step).run start (schedule ++ [i])).shared) := by
    rw [replay_concat, held.contents, acts]
  -- the calls of before keep their instants; the new one is the last
  refine ⟨?returned_iff, ?increasing, ?within, ?started, ?unreturned, ?results, ?agrees⟩
  case returned_iff =>
    intro j
    rw [calls, List.mem_append, List.mem_singleton, held.returned_iff j]
    by_cases same : j = i
    · subst same
      simp
    · rw [Function.update_of_ne same]
      simp [same]
  case increasing =>
    rw [List.pairwise_append]
    refine ⟨?_, List.pairwise_singleton _ _, ?_⟩
    · refine held.increasing.imp_of_mem ?_
      intro j k memJ memK earlier
      rwa [instant_of_mem j memJ, instant_of_mem k memK]
    · intro j mem k last
      rw [List.mem_singleton.mp last, instant_of_mem j mem, instant_self]
      exact held.within j mem
  case within =>
    intro j mem
    rw [List.length_append]
    rcases List.mem_append.mp mem with old | last
    · rw [instant_of_mem j old]
      exact (held.within j old).trans (by simp)
    · rw [List.mem_singleton.mp last, instant_self]
      simp
  case started =>
    intro j mem
    rcases List.mem_append.mp mem with old | last
    · rw [instant_of_mem j old, (take_concat_of_lt (held.within j old) i).2]
      exact held.started j old
    · rw [List.mem_singleton.mp last, instant_self, List.take_of_length_le (by simp)]
      simp
  case unreturned =>
    intro j mem r
    rcases List.mem_append.mp mem with old | last
    · rw [instant_of_mem j old, (take_concat_of_lt (held.within j old) i).1]
      exact held.unreturned j old r
    · rw [List.mem_singleton.mp last, instant_self, List.take_left, left]
      exact Sum.inl_ne_inr
  case results =>
    intro entry mem
    rw [replayed, List.mem_append] at mem
    rw [calls]
    rcases mem with old | last
    · have done := held.results entry old
      have other : entry.1 ≠ i := by
        intro same
        rw [same, left] at done
        exact Sum.inl_ne_inr done
      rw [Function.update_of_ne other]
      exact done
    · rw [List.mem_singleton.mp last, Function.update_self]
  case agrees => rw [replayed]

/-- **Calls that take effect with their last command.**  `J i` describes the work
left of call `i`.  If a command that leaves work changes nothing the sequential
store sees, and a command that returns acts as the whole operation, every
schedule is linearizable. -/
theorem linearizable_of_final_command {J : ι → κ → Prop} {begin : ι → κ} (store : σ)
    (init : ∀ i, J i (begin i))
    (silent : ∀ i work s work', J i work → (step work s).1 = .inl work' →
      J i work' ∧ view (step work s).2 = view s)
    (final : ∀ i work s r, J i work → (step work s).1 = .inr r →
      operation i (view s) = (r, view (step work s).2))
    (schedule : List ι) :
    Linearizable step operation view ⟨store, fun i => .inl (begin i)⟩ schedule := by
  suffices invariant : (∀ i work,
      ((machine step).run ⟨store, fun i => .inl (begin i)⟩ schedule).calls i = .inl work →
        J i work) ∧
      Linearizable step operation view ⟨store, fun i => .inl (begin i)⟩ schedule from invariant.2
  induction schedule using List.reverseRecOn with
  | nil =>
      refine ⟨?_, [], fun _ => 0, ?_⟩
      · intro i work left
        exact Sum.inl.inj left ▸ init i
      · exact ⟨by simp, .nil, by simp, by simp, by simp, by simp [replay], rfl⟩
  | append_singleton schedule i ih =>
      obtain ⟨described, order, instant, held⟩ := ih
      have grown := Machine.run_concat (M := machine step)
        (⟨store, fun i => .inl (begin i)⟩ : Pool ι κ σ ρ) schedule i
      by_cases succeeds :
          (machine step).Succeeds ((machine step).run ⟨store, fun i => .inl (begin i)⟩ schedule) i
      · obtain ⟨⟨s', new⟩, moved⟩ := succeeds
        obtain ⟨work, left, rfl, -⟩ := call_eq_ok moved
        rw [Machine.next_of_ok moved] at grown
        have ofWork := described i work left
        cases outcome : (step work
            ((machine step).run ⟨store, fun i => .inl (begin i)⟩ schedule).shared).1 with
        | inl work' =>
            -- a silent command leaves the order as it is
            obtain ⟨ofWork', sameView⟩ := silent i work _ work' ofWork outcome
            rw [outcome] at grown
            refine ⟨?_, order, instant, held.concat_silent ?_ (by rw [grown]; exact sameView)⟩
            · intro j other leftJ
              rw [grown] at leftJ
              by_cases same : j = i
              · subst same
                simp only [Function.update_self, Sum.inl.injEq] at leftJ
                exact leftJ ▸ ofWork'
              · simp only [Function.update_of_ne same] at leftJ
                exact described j other leftJ
            · intro j r
              rw [grown]
              by_cases same : j = i
              · subst same
                simp [left]
              · simp [Function.update_of_ne same]
        | inr result =>
            -- the last command puts the call at the end of the order
            have acts := final i work _ result ofWork outcome
            rw [outcome] at grown
            refine ⟨?_, order ++ [i], _,
              held.concat_final left (by rw [grown]) (by rw [grown]; exact acts)⟩
            intro j other leftJ
            rw [grown] at leftJ
            by_cases same : j = i
            · subst same
              simp at leftJ
            · simp only [Function.update_of_ne same] at leftJ
              exact described j other leftJ
      · -- a call that has returned is not scheduled, and nothing changes
        rw [Machine.next_of_not_succeeds succeeds] at grown
        refine ⟨by rw [grown]; exact described, order, instant, held.concat_silent ?_ ?_⟩
        · intro j r
          rw [grown]
        · rw [grown]

end FinalCommand

end Pool

end TheVoteApp.Foundations
