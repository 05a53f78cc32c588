import TheVoteApp.Foundations.Machine

/-!
# Redelivery

A channel that delivers at least once may hand a machine the same transaction
several times in a row.  The machine cannot tell the difference exactly when
every transaction, in the state it first arrives in, leads to a state that it
leaves unchanged (`run_redeliver_iff`).
-/

namespace TheVoteApp.Foundations

universe u v w z

namespace Machine

variable {σ : Type u} {τ : Type v} {ε : Type w} {ρ : Type z}

/-- Each transaction delivered once and as often again as `extras` tells, once
where it tells nothing. -/
def redeliver : List ℕ → List τ → List τ
  | extra :: extras, tx :: txs => List.replicate (extra + 1) tx ++ redeliver extras txs
  | _, txs => txs

@[simp] theorem redeliver_nil (txs : List τ) : redeliver [] txs = txs := by
  cases txs <;> rfl

/-- All but the last delivered once, the last twice. -/
theorem redeliver_last (done : List τ) (tx : τ) :
    redeliver (List.replicate done.length 0 ++ [1]) (done ++ [tx]) = done ++ [tx, tx] := by
  induction done with
  | nil => rfl
  | cons first done ih =>
      simp only [List.length_cons, List.replicate_succ, List.cons_append, redeliver, ih, zero_add,
        List.replicate_zero, List.nil_append]

/-- A second delivery changes nothing. -/
def Idempotent (M : Machine σ τ ε ρ) (s : σ) (tx : τ) : Prop :=
  M.next (M.next s tx) tx = M.next s tx

variable {M : Machine σ τ ε ρ}

theorem Idempotent.next {s : σ} {tx : τ} (idempotent : M.Idempotent s tx) :
    M.Idempotent (M.next s tx) tx := congrArg (fun s => M.next s tx) idempotent

theorem Idempotent.run_replicate {s : σ} {tx : τ} (idempotent : M.Idempotent s tx) (extra : ℕ) :
    M.run s (List.replicate (extra + 1) tx) = M.next s tx := by
  induction extra generalizing s with
  | zero => rfl
  | succ extra ih =>
      rw [List.replicate_succ, run_cons, ih idempotent.next]
      exact idempotent

theorem Idempotent.along_replicate {s : σ} {tx : τ} (idempotent : M.Idempotent s tx) (n : ℕ) :
    M.Along M.Idempotent s (List.replicate n tx) := by
  induction n generalizing s with
  | zero => trivial
  | succ n ih => exact ⟨idempotent, ih idempotent.next⟩

/-- If every transaction is idempotent where it first arrives, redelivery leads
to the same state, and every delivery is idempotent. -/
theorem run_redeliver {s : σ} {txs : List τ} (idempotent : M.Along M.Idempotent s txs)
    (extras : List ℕ) :
    M.run s (redeliver extras txs) = M.run s txs ∧
      M.Along M.Idempotent s (redeliver extras txs) := by
  induction txs generalizing s extras with
  | nil => cases extras <;> exact ⟨rfl, trivial⟩
  | cons tx txs ih =>
      cases extras with
      | nil => exact ⟨rfl, idempotent⟩
      | cons extra extras =>
          obtain ⟨now, later⟩ := idempotent
          obtain ⟨sameState, along⟩ := ih later extras
          rw [redeliver, run_append, along_append, now.run_replicate, run_cons]
          exact ⟨sameState, now.along_replicate _, along⟩

/-- **Redelivery.**  No redelivery changes the state after any of the
transactions if and only if each is idempotent in the state it arrives in. -/
theorem run_redeliver_iff (s : σ) (txs : List τ) :
    (∀ extras done rest, txs = done ++ rest → M.run s (redeliver extras done) = M.run s done) ↔
      M.Along M.Idempotent s txs := by
  constructor
  · intro safe
    rw [along_iff_forall_split]
    intro done tx rest split
    have twice := safe (List.replicate done.length 0 ++ [1]) (done ++ [tx]) rest
      (by rw [split, List.append_assoc, List.singleton_append])
    rw [redeliver_last, run_append, run_concat] at twice
    exact twice
  · intro idempotent extras done rest split
    rw [split, along_append] at idempotent
    exact (run_redeliver idempotent.1 extras).1

end Machine

end TheVoteApp.Foundations
