import TheVoteApp.Backend.BlockchainService
import TheVoteApp.VoteLedger.Bookkeeping

/-!
# The vote relay

`POST /api/v1/vote` as it runs: requests whose steps interleave with each other,
with the transactions of everybody else and with failures of the node.  A
request waits for the check of its proof, for the submission of its transaction
and for the receipt; a transaction may be mined although its submission or the
wait for it failed.

`alone_eq` connects the steps to `VoteService.submitVote`, which is one request
that runs alone and without failures.

## Main definitions

* `Phase`, `Relay` — where the requests stand, and the ledger
* `machine` — the requests, the chain and the other callers
* `Sound` — what holds after every run

## Main results

* `created_once` — a 201 stands for one recorded vote, and no other vote has its
  nullifier
* `unacknowledged` — a vote behind an error response is never acknowledged later
* `created_needs_encoded_poll` — which polls a relayed vote can be recorded in
-/

namespace TheVoteApp.VoteRelay

open Solidity VoteLedger VoteService BlockchainService Foundations

/-- Where a request fails. -/
inductive Stage where
  | signature
  | proof
  | timestamp
  | submission
  | receipt
deriving DecidableEq

/-- How a request ends. -/
inductive Response where
  /-- 201, with the receipt -/
  | created
  /-- the error of the stage -/
  | failed (stage : Stage)
deriving DecidableEq

/-- Where a request stands. -/
inductive Phase where
  /-- `verifySignature` comes next. -/
  | received
  /-- Waiting for the check of the proof. -/
  | proving
  /-- Waiting for the submission of the transaction. -/
  | submitting
  /-- Waiting for the receipt. -/
  | submitted
  | answered (response : Response)
deriving DecidableEq

/-- The transaction of the request may have been sent. -/
def Phase.sent : Phase → Bool
  | .received | .proving | .submitting => false
  | .submitted | .answered .created => true
  | .answered (.failed stage) => stage = .submission ∨ stage = .receipt

/-- The transaction of a request. -/
inductive Transaction where
  | unsent
  | pending
  | mined
  | reverted
deriving DecidableEq

/-- The ledger, the transactions and the phase of every request. -/
structure Relay where
  ledger : VoteLedger
  transaction : ℕ → Transaction
  phase : ℕ → Phase

namespace Relay

/-- Request `i` moves on. -/
def goto (s : Relay) (i : ℕ) (phase : Phase) : Relay :=
  { s with phase := Function.update s.phase i phase }

/-- The transaction of request `i` has been sent, or was about to be. -/
def send (s : Relay) (i : ℕ) : Relay :=
  { s with transaction := Function.update s.transaction i .pending }

end Relay

/-- No request has been looked at. -/
def start (ledger : VoteLedger) : Relay where
  ledger := ledger
  transaction := fun _ => .unsent
  phase := fun _ => .received

/-- What happens next: a step of a request at the time `now`, whose remote call
may fail, the chain executes the transaction of a request, or any other
transaction. -/
inductive Action where
  | request (i : ℕ) (now : ℤ) (fails : Bool)
  | mine (i : ℕ) (env : Env)
  | other (tx : Tx)

/-- The request is at most five minutes old. -/
def Fresh (now : ℤ) (request : VoteRequest) : Prop :=
  0 ≤ now - request.timestamp ∧ now - request.timestamp ≤ 5 * 60 * 1000

instance (now : ℤ) (request : VoteRequest) : Decidable (Fresh now request) :=
  inferInstanceAs (Decidable (_ ∧ _))

section Steps

variable (keccak256 : Bytes → Bytes32) (recoverAddress : Bytes32 → Bytes → Option Address)
variable (zkVerify : ZKProofData → Bool) (verifyProof : Address → ZKProofData → Option Bool)
variable (requests : ℕ → VoteRequest)

/-- What `submitVote` hands to `castVote`. -/
def params (request : VoteRequest) : CastVoteParams where
  policyId := request.policyId
  optionHash := keccak256 (toUtf8Bytes request.optionId)
  nullifier := request.voterNullifier
  proof := request.zkProof

/-- The vote a request asks for, as the ledger records it. -/
def ballotOf (request : VoteRequest) : Ballot where
  pollId := castVotePollId keccak256 request.policyId
  nullifier := request.voterNullifier
  optionHash := keccak256 (toUtf8Bytes request.optionId)

/-- The address `verifySignature` recovers. -/
def signer (request : VoteRequest) : Option Address :=
  recoverAddress (keccak256 (toUtf8Bytes (voteMessage request))) request.signature

/-- The next step of request `i`; `none` when it has been answered, or waits for a
transaction that is not mined. -/
def advance (s : Relay) (i : ℕ) (now : ℤ) (fails : Bool) : Option Relay :=
  let request := requests i
  match s.phase i with
  | .received =>
    match signer keccak256 recoverAddress request with
    | none => some (s.goto i (.answered (.failed .signature)))
    | some _ => some (s.goto i .proving)
  | .proving =>
    -- without a verification key the check of the proof throws
    if fails ∨ zkVerify request.zkProof = false then some (s.goto i (.answered (.failed .proof)))
    else if ¬ Fresh now request then some (s.goto i (.answered (.failed .timestamp)))
    else some (s.goto i .submitting)
  | .submitting =>
    some ((s.send i).goto i (if fails then .answered (.failed .submission) else .submitted))
  | .submitted =>
    if fails ∨ s.transaction i = .reverted then some (s.goto i (.answered (.failed .receipt)))
    else if s.transaction i = .mined then some (s.goto i (.answered .created))
    else none
  | .answered _ => none

/-- The chain executes the transaction of request `i`. -/
def mine (s : Relay) (i : ℕ) (env : Env) : Option (Relay × List Event) :=
  match s.transaction i with
  | .pending =>
    match BlockchainService.castVote keccak256 verifyProof s.ledger env
        (params keccak256 (requests i)) with
    | .ok (ledger, new) =>
        some ({ s with
          ledger := ledger
          transaction := Function.update s.transaction i .mined }, new)
    | .error _ => some ({ s with transaction := Function.update s.transaction i .reverted }, [])
  | _ => none

/-- All requests, the chain and the other callers of the contract. -/
def machine : Machine Relay Action Event Unit where
  call s action :=
    match action with
    | .request i now fails =>
      match advance keccak256 recoverAddress zkVerify requests s i now fails with
      | some s' => .ok (s', [])
      | none => .error ()
    | .mine i env =>
      match mine keccak256 verifyProof requests s i env with
      | some r => .ok r
      | none => .error ()
    | .other tx =>
      match (VoteLedger.machine keccak256 verifyProof).call s.ledger tx with
      | .ok (ledger, new) => .ok ({ s with ledger := ledger }, new)
      | .error _ => .error ()

end Steps

/-! ## What a step does -/

section Inversion

variable (keccak256 : Bytes → Bytes32) (recoverAddress : Bytes32 → Bytes → Option Address)
variable (zkVerify : ZKProofData → Bool) (verifyProof : Address → ZKProofData → Option Bool)
variable (requests : ℕ → VoteRequest)

/-- **One step.** -/
inductive Step (s : Relay) : Action → Relay → List Event → Prop where
  | refused {i : ℕ} {now : ℤ} {fails : Bool} (stage : Stage) (early : (s.phase i).sent = false)
      (unsent : (Phase.answered (.failed stage)).sent = false) :
      Step s (.request i now fails) (s.goto i (.answered (.failed stage))) []
  | signed {i : ℕ} {now : ℤ} {fails : Bool} (here : s.phase i = .received)
      (recovered : (signer keccak256 recoverAddress (requests i)).isSome) :
      Step s (.request i now fails) (s.goto i .proving) []
  | proven {i : ℕ} {now : ℤ} {fails : Bool} (here : s.phase i = .proving)
      (verified : zkVerify (requests i).zkProof = true) (fresh : Fresh now (requests i)) :
      Step s (.request i now fails) (s.goto i .submitting) []
  | sends {i : ℕ} {now : ℤ} {fails : Bool} (phase : Phase) (here : s.phase i = .submitting)
      (sent : phase.sent = true) (waits : phase ≠ .answered .created) :
      Step s (.request i now fails) ((s.send i).goto i phase) []
  | received {i : ℕ} {now : ℤ} {fails : Bool} (response : Response)
      (here : s.phase i = .submitted) (sent : (Phase.answered response).sent = true)
      (mined : response = .created → s.transaction i = .mined) :
      Step s (.request i now fails) (s.goto i (.answered response)) []
  | mines {i : ℕ} {env : Env} (pending : s.transaction i = .pending)
      (checks : Admits verifyProof s.ledger env (castVotePollId keccak256 (requests i).policyId)
        (requests i).voterNullifier (requests i).zkProof) :
      Step s (.mine i env)
        { s with
          ledger := recordVote s.ledger (castVotePollId keccak256 (requests i).policyId)
            (keccak256 (toUtf8Bytes (requests i).optionId)) (requests i).voterNullifier
          transaction := Function.update s.transaction i .mined }
        [.voteCast (castVotePollId keccak256 (requests i).policyId)
          (requests i).voterNullifier (keccak256 (toUtf8Bytes (requests i).optionId))]
  | reverts {i : ℕ} {env : Env} (pending : s.transaction i = .pending) :
      Step s (.mine i env) { s with transaction := Function.update s.transaction i .reverted } []
  | other {tx : Tx} {ledger : VoteLedger} {new : List Event}
      (done : VoteLedger.Step keccak256 verifyProof s.ledger tx ledger new) :
      Step s (.other tx) { s with ledger := ledger } new

variable {keccak256 recoverAddress zkVerify verifyProof requests}
variable {s s' : Relay} {action : Action} {new : List Event}

theorem Step.of_advance {i : ℕ} {now : ℤ} {fails : Bool}
    (moved : advance keccak256 recoverAddress zkVerify requests s i now fails = some s') :
    Step keccak256 recoverAddress zkVerify verifyProof requests s (.request i now fails) s' [] := by
  unfold advance at moved
  dsimp only at moved
  split at moved
  · rename_i here
    split at moved
    · cases moved
      exact .refused .signature (by rw [here]; rfl) rfl
    · rename_i address recovered
      cases moved
      exact .signed here (by rw [recovered]; rfl)
  · rename_i here
    split at moved
    · cases moved
      exact .refused .proof (by rw [here]; rfl) rfl
    · rename_i passes
      split at moved
      · cases moved
        exact .refused .timestamp (by rw [here]; rfl) rfl
      · rename_i fresh
        cases moved
        exact .proven here (by simpa using (not_or.mp passes).2) (not_not.mp fresh)
  · rename_i here
    cases moved
    cases fails with
    | false => exact .sends .submitted here rfl (by simp)
    | true => exact .sends _ here rfl (by simp)
  · rename_i here
    split at moved
    · cases moved
      exact .received (.failed .receipt) here rfl (by simp)
    · split at moved
      · rename_i mined
        cases moved
        exact .received .created here rfl fun _ => mined
      · cases moved
  · cases moved

theorem Step.of_mine {i : ℕ} {env : Env}
    (moved : mine keccak256 verifyProof requests s i env = some (s', new)) :
    Step keccak256 recoverAddress zkVerify verifyProof requests s (.mine i env) s' new := by
  unfold mine at moved
  split at moved
  · rename_i pending
    split at moved
    · rename_i outcome
      obtain ⟨rfl, rfl⟩ := Prod.mk.inj (Option.some.inj moved)
      obtain ⟨checks, -, rfl, rfl⟩ := castVote_eq_ok_iff.mp outcome
      exact .mines pending checks
    · obtain ⟨rfl, rfl⟩ := Prod.mk.inj (Option.some.inj moved)
      exact .reverts pending
  · cases moved

theorem Step.of_call
    (done : (machine keccak256 recoverAddress zkVerify verifyProof requests).call s action =
      .ok (s', new)) :
    Step keccak256 recoverAddress zkVerify verifyProof requests s action s' new := by
  cases action with
  | request i now fails =>
      simp only [machine] at done
      split at done
      · rename_i moved
        cases done
        exact .of_advance moved
      · cases done
  | mine i env =>
      simp only [machine] at done
      split at done
      · rename_i moved
        cases done
        exact .of_mine moved
      · cases done
  | other tx =>
      simp only [machine] at done
      split at done
      · rename_i outcome
        cases done
        exact .other (VoteLedger.call_eq_ok_iff.mp outcome)
      · cases done

/-! ## What holds after every run -/

variable (keccak256 recoverAddress zkVerify verifyProof requests)

/-- A poll with this identifier has been created. -/
def CreatedIn (pollId : Bytes32) (actions : List Action) : Prop :=
  ∃ env policyId countryCode deadline,
    .other ⟨env, .createPoll policyId countryCode deadline⟩ ∈ actions ∧
      pollIdOf keccak256 policyId countryCode = pollId

/-- Request `i` has passed the checks of `submitVote`. -/
structure Vetted (i : ℕ) (actions : List Action) : Prop where
  signed : (signer keccak256 recoverAddress (requests i)).isSome
  verified : zkVerify (requests i).zkProof = true
  fresh : ∃ now fails, .request i now fails ∈ actions ∧ Fresh now (requests i)

/-- **What holds after every run.** -/
structure Sound (s : Relay) (log : List Event) (actions : List Action) : Prop where
  records : Records s.ledger (ballots log)
  polls : ∀ p, (s.ledger.polls p).deadline ≠ 0 → CreatedIn keccak256 p actions
  created : ∀ i, s.phase i = .answered .created → s.transaction i = .mined
  unsent : ∀ i, (s.phase i).sent = false → s.transaction i = .unsent
  signed : ∀ i, s.phase i = .proving → (signer keccak256 recoverAddress (requests i)).isSome
  vetted : ∀ i, s.phase i = .submitting ∨ (s.phase i).sent = true →
    Vetted keccak256 recoverAddress zkVerify requests i actions
  mined : ∀ i, s.transaction i = .mined → ballotOf keccak256 (requests i) ∈ ballots log ∧
    CreatedIn keccak256 (castVotePollId keccak256 (requests i).policyId) actions
  once : ∀ i j, s.transaction i = .mined → s.transaction j = .mined →
    (requests i).voterNullifier = (requests j).voterNullifier → i = j

theorem sound_start (owner registry verifier : Address) :
    Sound keccak256 recoverAddress zkVerify requests (start (initialized owner registry verifier))
      [] [] where
  records := records_initialized owner registry verifier
  polls p created := absurd rfl created
  created i answered := by cases answered
  unsent _ _ := rfl
  signed i proving := by cases proving
  vetted i past := by rcases past with past | past <;> cases past
  mined i mined := by cases mined
  once i j mined := by cases mined

variable {keccak256 recoverAddress zkVerify verifyProof requests}
variable {log : List Event} {actions : List Action}

theorem CreatedIn.append {pollId : Bytes32} (created : CreatedIn keccak256 pollId actions)
    (later : List Action) : CreatedIn keccak256 pollId (actions ++ later) := by
  obtain ⟨env, policyId, countryCode, deadline, mem, same⟩ := created
  exact ⟨env, policyId, countryCode, deadline, List.mem_append_left _ mem, same⟩

theorem Vetted.append {i : ℕ} (vetted : Vetted keccak256 recoverAddress zkVerify requests i actions)
    (later : List Action) :
    Vetted keccak256 recoverAddress zkVerify requests i (actions ++ later) := by
  obtain ⟨signed, verified, now, fails, mem, fresh⟩ := vetted
  exact ⟨signed, verified, now, fails, List.mem_append_left _ mem, fresh⟩

namespace Sound

variable (sound : Sound keccak256 recoverAddress zkVerify requests s log actions)

include sound

/-- Request `i` moves to `phase` and its transaction to `transaction`. -/
theorem moves {i : ℕ} (phase : Phase) (transaction : Transaction)
    (created : phase = .answered .created → transaction = .mined)
    (unsent : phase.sent = false → transaction = .unsent)
    (signed : phase = .proving → (signer keccak256 recoverAddress (requests i)).isSome)
    (vetted : phase = .submitting ∨ phase.sent = true →
      Vetted keccak256 recoverAddress zkVerify requests i (actions ++ [action]))
    (mined : transaction = .mined → s.transaction i = .mined) :
    Sound keccak256 recoverAddress zkVerify requests
      { s with
        transaction := Function.update s.transaction i transaction
        phase := Function.update s.phase i phase } (log ++ []) (actions ++ [action]) := by
  have minedBefore : ∀ j, Function.update s.transaction i transaction j = .mined →
      s.transaction j = .mined := by
    intro j now
    by_cases same : j = i
    · subst same
      exact mined (by simpa using now)
    · simpa [same] using now
  rw [List.append_nil]
  refine ⟨sound.records, fun p live => (sound.polls p live).append _, ?_, ?_, ?_, ?_, ?_, ?_⟩
  · intro j answered
    by_cases same : j = i
    · subst same
      simpa using created (by simpa using answered)
    · simpa [same] using sound.created j (by simpa [same] using answered)
  · intro j early
    by_cases same : j = i
    · subst same
      simpa using unsent (by simpa using early)
    · simpa [same] using sound.unsent j (by simpa [same] using early)
  · intro j proving
    by_cases same : j = i
    · subst same
      exact signed (by simpa using proving)
    · exact sound.signed j (by simpa [same] using proving)
  · intro j past
    by_cases same : j = i
    · subst same
      exact vetted (by simpa using past)
    · exact (sound.vetted j (by simpa [same] using past)).append _
  · intro j now
    obtain ⟨cast, created⟩ := sound.mined j (minedBefore j now)
    exact ⟨cast, created.append _⟩
  · intro j k now now' same
    exact sound.once j k (minedBefore j now) (minedBefore k now') same

/-- Only the phase of request `i` changes. -/
theorem goto {i : ℕ} (phase : Phase)
    (created : phase = .answered .created → s.transaction i = .mined)
    (unsent : phase.sent = false → s.transaction i = .unsent)
    (signed : phase = .proving → (signer keccak256 recoverAddress (requests i)).isSome)
    (vetted : phase = .submitting ∨ phase.sent = true →
      Vetted keccak256 recoverAddress zkVerify requests i (actions ++ [action])) :
    Sound keccak256 recoverAddress zkVerify requests (s.goto i phase) (log ++ [])
      (actions ++ [action]) := by
  have moved := sound.moves phase (s.transaction i) created unsent signed vetted id
  rwa [Function.update_eq_self] at moved

/-- A nullifier behind a mined transaction is spent. -/
theorem spent {i : ℕ} (mined : s.transaction i = .mined) :
    s.ledger.nullifiers (requests i).voterNullifier = true := by
  rw [sound.records.spent, sound.records.order]
  exact List.mem_map.mpr ⟨_, (sound.mined i mined).1, rfl⟩

/-- The chain executes the transaction of request `i`. -/
theorem mines {i : ℕ} {env : Env} (pending : s.transaction i = .pending)
    (checks : Admits verifyProof s.ledger env (castVotePollId keccak256 (requests i).policyId)
      (requests i).voterNullifier (requests i).zkProof) :
    Sound keccak256 recoverAddress zkVerify requests
      { s with
        ledger := recordVote s.ledger (castVotePollId keccak256 (requests i).policyId)
          (keccak256 (toUtf8Bytes (requests i).optionId)) (requests i).voterNullifier
        transaction := Function.update s.transaction i .mined }
      (log ++ [.voteCast (castVotePollId keccak256 (requests i).policyId)
        (requests i).voterNullifier (keccak256 (toUtf8Bytes (requests i).optionId))])
      (actions ++ [action]) := by
  have other : ∀ j, Function.update s.transaction i .mined j = .mined →
      j = i ∨ s.transaction j = .mined := by
    intro j now
    by_cases same : j = i
    · exact Or.inl same
    · exact Or.inr (by simpa [same] using now)
  have fresh : ∀ j, s.transaction j = .mined →
      (requests j).voterNullifier ≠ (requests i).voterNullifier := by
    intro j mined same
    have spent := sound.spent mined
    rw [same, checks.unspent] at spent
    cases spent
  refine ⟨?_, ?_, ?_, ?_, sound.signed, ?_, ?_, ?_⟩
  · rw [ballots_append]
    exact sound.records.recordVote checks.unspent
  · intro p live
    rw [deadline_recordVote] at live
    exact (sound.polls p live).append _
  · intro j answered
    by_cases same : j = i
    · simp [same]
    · simpa [same] using sound.created j answered
  · intro j early
    have idle := sound.unsent j early
    have different : j ≠ i := by
      rintro rfl
      cases pending.symm.trans idle
    simpa [different] using idle
  · intro j past
    exact (sound.vetted j past).append _
  · intro j now
    rw [ballots_append]
    rcases other j now with rfl | mined
    · exact ⟨List.mem_append_right _ List.mem_cons_self, (sound.polls _ checks.created).append _⟩
    · obtain ⟨cast, created⟩ := sound.mined j mined
      exact ⟨List.mem_append_left _ cast, created.append _⟩
  · intro j k now now' same
    rcases other j now with rfl | mined
    · rcases other k now' with rfl | mined'
      · rfl
      · exact absurd same.symm (fresh k mined')
    · rcases other k now' with rfl | mined'
      · exact absurd same (fresh j mined)
      · exact sound.once j k mined mined' same

omit sound in
/-- A poll that a transaction creates. -/
theorem deadline_step {ledger : VoteLedger} {tx : Tx} {new : List Event}
    (done : VoteLedger.Step keccak256 verifyProof s.ledger tx ledger new) (p : Bytes32)
    (live : (ledger.polls p).deadline ≠ 0) :
    (s.ledger.polls p).deadline ≠ 0 ∨ CreatedIn keccak256 p [.other tx] := by
  cases done with
  | @createPoll env policyId countryCode deadline sender ahead =>
      by_cases same : p = pollIdOf keccak256 policyId countryCode
      · exact Or.inr ⟨env, policyId, countryCode, deadline, List.mem_cons_self, same.symm⟩
      · exact Or.inl (by simpa [writePoll, same] using live)
  | castVote checks room => exact Or.inl (by simpa using live)
  | finalisePoll sender created running => exact Or.inl (by simpa using live)
  | _ => exact Or.inl live

theorem step (done : Step keccak256 recoverAddress zkVerify verifyProof requests s action s' new) :
    Sound keccak256 recoverAddress zkVerify requests s' (log ++ new) (actions ++ [action]) := by
  cases done with
  | refused stage early unsent =>
      refine sound.goto _ (by simp) (fun _ => sound.unsent _ early) (by simp) ?_
      rintro (past | past)
      · cases past
      · rw [unsent] at past
        cases past
  | signed here recovered =>
      refine sound.goto _ (by simp) (fun _ => sound.unsent _ (by rw [here]; rfl))
        (fun _ => recovered) ?_
      rintro (past | past) <;> cases past
  | proven here verified fresh =>
      refine sound.goto _ (by simp) (fun _ => sound.unsent _ (by rw [here]; rfl)) (by simp) ?_
      intro _
      exact ⟨sound.signed _ here, verified, _, _,
        List.mem_append_right _ List.mem_cons_self, fresh⟩
  | sends phase here sent waits =>
      refine sound.moves phase .pending (fun created => absurd created waits) ?_ ?_ ?_ (by simp)
      · rw [sent]
        intro early
        cases early
      · rintro rfl
        cases sent
      · intro _
        exact (sound.vetted _ (Or.inl here)).append _
  | received response here sent mined =>
      refine sound.goto _ ?_ ?_ (by simp) ?_
      · intro created
        exact mined (Phase.answered.inj created)
      · rw [sent]
        intro early
        cases early
      · intro _
        exact (sound.vetted _ (Or.inr (by rw [here]; rfl))).append _
  | mines pending checks => exact sound.mines pending checks
  | reverts pending =>
      rename_i i env
      have vetted (past : s.phase i = .submitting ∨ (s.phase i).sent = true) :
          Vetted keccak256 recoverAddress zkVerify requests i (actions ++ [.mine i env]) :=
        (sound.vetted i past).append _
      have moved := sound.moves (s.phase i) .reverted ?_ ?_
        (fun proving => sound.signed i proving) vetted (by simp)
      · rwa [Function.update_eq_self] at moved
      · intro created
        cases pending.symm.trans (sound.created i created)
      · intro early
        cases pending.symm.trans (sound.unsent i early)
  | other done =>
      rename_i tx ledger
      refine ⟨?_, ?_, sound.created, sound.unsent, sound.signed,
        fun j past => (sound.vetted j past).append _, ?_, sound.once⟩
      · rw [ballots_append]
        exact sound.records.step done
      · intro p live
        rcases deadline_step done p live with before | now
        · exact (sound.polls p before).append _
        · obtain ⟨env, policyId, countryCode, deadline, mem, same⟩ := now
          exact ⟨env, policyId, countryCode, deadline, List.mem_append_right _ mem, same⟩
      · intro j mined
        obtain ⟨cast, created⟩ := sound.mined j mined
        rw [ballots_append]
        exact ⟨List.mem_append_left _ cast, created.append _⟩

end Sound

end Inversion

/-! ## The answers -/

section Answers

variable (keccak256 : Bytes → Bytes32) (recoverAddress : Bytes32 → Bytes → Option Address)
variable (zkVerify : ZKProofData → Bool) (verifyProof : Address → ZKProofData → Option Bool)
variable (requests : ℕ → VoteRequest) (owner registry verifier : Address)

theorem sound_run (actions : List Action) :
    let M := machine keccak256 recoverAddress zkVerify verifyProof requests
    let s₀ := start (initialized owner registry verifier)
    Sound keccak256 recoverAddress zkVerify requests (M.run s₀ actions) (M.events s₀ actions)
      (M.accepted s₀ actions) := by
  refine Machine.run_induction
    (I := fun s log actions => Sound keccak256 recoverAddress zkVerify requests s log actions)
    ?_ ?_ actions
  · exact sound_start keccak256 recoverAddress zkVerify requests owner registry verifier
  · intro s log actions action s' new sound done
    exact sound.step (Step.of_call done)

/-- **A 201 stands for one vote.**  After every run, a request that has been answered
with 201 has passed the checks of `submitVote`, its vote is on the ledger, no other
vote there has its nullifier, and no other request with that nullifier has been
answered so. -/
theorem created_once (actions : List Action) :
    let M := machine keccak256 recoverAddress zkVerify verifyProof requests
    let s₀ := start (initialized owner registry verifier)
    let s := M.run s₀ actions
    let cast := ballots (M.events s₀ actions)
    Records s.ledger cast ∧ ∀ i, s.phase i = .answered .created →
      Vetted keccak256 recoverAddress zkVerify requests i (M.accepted s₀ actions) ∧
        ballotOf keccak256 (requests i) ∈ cast ∧
        (∀ b ∈ cast, b.nullifier = (requests i).voterNullifier →
          b = ballotOf keccak256 (requests i)) ∧
        ∀ j, s.phase j = .answered .created →
          (requests j).voterNullifier = (requests i).voterNullifier → j = i := by
  intro M s₀ s cast
  have sound := sound_run keccak256 recoverAddress zkVerify verifyProof requests owner registry
    verifier actions
  refine ⟨sound.records, fun i created => ?_⟩
  have mined := sound.created i created
  obtain ⟨recorded, -⟩ := sound.mined i mined
  refine ⟨sound.vetted i (Or.inr (by rw [created]; rfl)), recorded, ?_, ?_⟩
  · intro b mem same
    have distinct : (cast.map Ballot.nullifier).Nodup :=
      sound.records.order ▸ sound.records.nodup
    exact List.inj_on_of_nodup_map distinct mem recorded same
  · intro j created' same
    exact sound.once j i (sound.created j created') mined same

/-- **A lost receipt stays lost.**  A request may have been answered with an error
although its vote is on the ledger, when the submission or the wait for the receipt
failed; no request with its nullifier is answered with 201 then, in any run. -/
theorem unacknowledged (actions : List Action) :
    let M := machine keccak256 recoverAddress zkVerify verifyProof requests
    let s₀ := start (initialized owner registry verifier)
    let s := M.run s₀ actions
    ∀ i stage, s.phase i = .answered (.failed stage) → s.transaction i = .mined →
      (stage = .submission ∨ stage = .receipt) ∧
        ballotOf keccak256 (requests i) ∈ ballots (M.events s₀ actions) ∧
        ∀ j, (requests j).voterNullifier = (requests i).voterNullifier →
          s.phase j ≠ .answered .created := by
  intro M s₀ s i stage failed mined
  have sound := sound_run keccak256 recoverAddress zkVerify verifyProof requests owner registry
    verifier actions
  refine ⟨?_, (sound.mined i mined).1, ?_⟩
  · by_contra early
    have idle := sound.unsent i (by rw [failed]; simpa [Phase.sent] using early)
    cases mined.symm.trans idle
  · intro j same created
    obtain rfl := sound.once j i (sound.created j created) mined same
    cases failed.symm.trans created

/-- The strings hashed for the polls of the run and for those of the requests. -/
def hashedFor (taken : List Action) : Set Bytes :=
  {bytes | (∃ env policyId countryCode deadline,
      .other ⟨env, .createPoll policyId countryCode deadline⟩ ∈ taken ∧
        bytes = policyId ++ bytes2Bytes countryCode) ∨
    ∃ i, bytes = Abi.encode [.dynamic (toUtf8Bytes (requests i).policyId),
      .fixedBytes (toUtf8Bytes (getCountryCode (requests i).policyId))]}

/-- **Where relayed votes end up.**  Without hash collisions, a request is answered
with 201 only if the owner has created a poll whose policy and country together are
the encoding that `castVote` hashes. -/
theorem created_needs_encoded_poll (actions : List Action) :
    let M := machine keccak256 recoverAddress zkVerify verifyProof requests
    let s₀ := start (initialized owner registry verifier)
    CollisionFreeOn keccak256 (hashedFor requests (M.accepted s₀ actions)) →
      ∀ i, (M.run s₀ actions).phase i = .answered .created →
        ∃ env policyId countryCode deadline,
          .other ⟨env, .createPoll policyId countryCode deadline⟩ ∈ M.accepted s₀ actions ∧
            policyId ++ bytes2Bytes countryCode =
              Abi.encode [.dynamic (toUtf8Bytes (requests i).policyId),
                .fixedBytes (toUtf8Bytes (getCountryCode (requests i).policyId))] := by
  intro M s₀ free i created
  have sound := sound_run keccak256 recoverAddress zkVerify verifyProof requests owner registry
    verifier actions
  obtain ⟨env, policyId, countryCode, deadline, mem, same⟩ :=
    (sound.mined i (sound.created i created)).2
  refine ⟨env, policyId, countryCode, deadline, mem, ?_⟩
  exact free (Or.inl ⟨env, policyId, countryCode, deadline, mem, rfl⟩) (Or.inr ⟨i, rfl⟩) same

end Answers

/-! ## A request on its own -/

section Alone

variable {keccak256 : Bytes → Bytes32} {recoverAddress : Bytes32 → Bytes → Option Address}
variable {zkVerify : ZKProofData → Bool} {verifyProof : Address → ZKProofData → Option Bool}
variable {requests : ℕ → VoteRequest} {s : Relay}

/-- A request runs from beginning to end at the time `now`, and nothing fails. -/
def alone (i : ℕ) (now : ℤ) (env : Env) : List Action :=
  [.request i now false, .request i now false, .request i now false, .mine i env,
    .request i now false]

theorem next_request (s : Relay) (i : ℕ) (now : ℤ) (fails : Bool) :
    (machine keccak256 recoverAddress zkVerify verifyProof requests).next s (.request i now fails) =
      (advance keccak256 recoverAddress zkVerify requests s i now fails).getD s := by
  rw [Machine.next]
  simp only [machine]
  cases advance keccak256 recoverAddress zkVerify requests s i now fails <;> rfl

theorem emitted_request (s : Relay) (i : ℕ) (now : ℤ) (fails : Bool) :
    (machine keccak256 recoverAddress zkVerify verifyProof requests).emitted s
      (.request i now fails) = [] := by
  rw [Machine.emitted]
  simp only [machine]
  cases advance keccak256 recoverAddress zkVerify requests s i now fails <;> rfl

theorem next_mine (s : Relay) (i : ℕ) (env : Env) :
    (machine keccak256 recoverAddress zkVerify verifyProof requests).next s (.mine i env) =
      ((mine keccak256 verifyProof requests s i env).map Prod.fst).getD s := by
  rw [Machine.next]
  simp only [machine]
  cases mine keccak256 verifyProof requests s i env <;> rfl

theorem emitted_mine (s : Relay) (i : ℕ) (env : Env) :
    (machine keccak256 recoverAddress zkVerify verifyProof requests).emitted s (.mine i env) =
      ((mine keccak256 verifyProof requests s i env).map Prod.snd).getD [] := by
  rw [Machine.emitted]
  simp only [machine]
  cases mine keccak256 verifyProof requests s i env <;> rfl

theorem submitVote_eq (ledger : VoteLedger) (env : Env) (now : ℤ) (request : VoteRequest) :
    submitVote keccak256 recoverAddress zkVerify verifyProof ledger env now request =
      match signer keccak256 recoverAddress request with
      | none => .error .invalidSignature
      | some _ =>
        if zkVerify request.zkProof = false then .error .proofVerificationFailed
        else if ¬ Fresh now request then .error .staleTimestamp
        else (BlockchainService.castVote keccak256 verifyProof ledger env
          (params keccak256 request)).mapError .reverted := by
  have stale : (now - request.timestamp < 0 ∨ 5 * 60 * 1000 < now - request.timestamp) ↔
      ¬ Fresh now request := by
    unfold Fresh
    omega
  have recovered : recoverAddress (keccak256 (toUtf8Bytes (voteMessage request)))
      request.signature = signer keccak256 recoverAddress request := rfl
  rw [submitVote, recovered]
  cases signer keccak256 recoverAddress request with
  | none => rfl
  | some address => simp only [stale, Bool.not_eq_true', params]

/-- **One request alone is `submitVote`.** -/
theorem alone_eq (i : ℕ) (now : ℤ) (env : Env) (here : s.phase i = .received)
    (unsent : s.transaction i = .unsent) :
    let M := machine keccak256 recoverAddress zkVerify verifyProof requests
    match submitVote keccak256 recoverAddress zkVerify verifyProof s.ledger env now
      (requests i) with
    | .ok (ledger, new) =>
        (M.run s (alone i now env)).phase i = .answered .created ∧
          (M.run s (alone i now env)).ledger = ledger ∧ M.events s (alone i now env) = new
    | .error _ =>
        (M.run s (alone i now env)).phase i ≠ .answered .created ∧
          (M.run s (alone i now env)).ledger = s.ledger ∧ M.events s (alone i now env) = [] := by
  intro M
  simp only [M, alone, Machine.run, List.foldl_cons, List.foldl_nil, Machine.events, next_request,
    emitted_request, next_mine, emitted_mine, submitVote_eq]
  cases recovered : signer keccak256 recoverAddress (requests i) with
  | none => simp [advance, mine, here, unsent, recovered, Relay.goto]
  | some address =>
      cases verified : zkVerify (requests i).zkProof with
      | false => simp [advance, mine, here, unsent, recovered, verified, Relay.goto]
      | true =>
          by_cases fresh : Fresh now (requests i)
          · cases outcome : BlockchainService.castVote keccak256 verifyProof s.ledger env
                (params keccak256 (requests i)) with
            | error e =>
                simp [advance, mine, here, recovered, verified, Relay.goto, Relay.send, fresh,
                  outcome, Except.mapError]
            | ok r =>
                simp [advance, mine, here, recovered, verified, Relay.goto, Relay.send, fresh,
                  outcome, Except.mapError]
          · simp [advance, mine, here, unsent, recovered, verified, Relay.goto, fresh]

end Alone

/-! ## One vote -/

section Sample

/-- A vote of the sample voter, as it is posted. -/
def sampleRequest : VoteRequest where
  policyId := "healthcare-reform-2026"
  optionId := "option-support"
  nullifierText := "0x0000000000000000000000000000000000000000000000000000000000000009"
  voterNullifier := 9
  zkProof := sampleProof
  signature := []
  timestamp := 0

/-- What `castVote` hashes for the policy. -/
def sampleEncoding : Bytes :=
  Abi.encode [.dynamic (toUtf8Bytes sampleRequest.policyId),
    .fixedBytes (toUtf8Bytes (getCountryCode sampleRequest.policyId))]

/-- The poll whose packed encoding this is: the last two bytes are its country. -/
def sampleOpening : Action :=
  .other ⟨⟨1, 100, 1⟩, .createPoll (sampleEncoding.take 126) 0 1000⟩

/-- The request runs alone, and the wait for its receipt fails. -/
def sampleLoss : List Action :=
  [.request 0 1000 false, .request 0 1000 false, .request 0 1000 false, .mine 0 ⟨2, 200, 2⟩,
    .request 0 1000 true]

/-- The relay of the sample requests. -/
def sampleMachine : Machine Relay Action Event Unit :=
  machine sampleKeccak256 (fun _ _ => some 7) (fun _ => true) sampleVerifyProof
    fun _ => sampleRequest

/-- The first request is created, and the second one loses its receipt. -/
theorem answered_sample :
    (sampleMachine.run (start (initialized 1 3 4))
        (sampleOpening :: alone 0 1000 ⟨2, 200, 2⟩)).phase 0 = .answered .created ∧
      (sampleMachine.run (start (initialized 1 3 4))
        (sampleOpening :: sampleLoss)).phase 0 = .answered (.failed .receipt) ∧
      (sampleMachine.run (start (initialized 1 3 4))
        (sampleOpening :: sampleLoss)).transaction 0 = .mined := by
  decide

theorem created_once_sample :
    ∀ b ∈ ballots (sampleMachine.events (start (initialized 1 3 4))
        (sampleOpening :: alone 0 1000 ⟨2, 200, 2⟩)),
      b.nullifier = 9 → b = ballotOf sampleKeccak256 sampleRequest := by
  obtain ⟨answered, -, -⟩ := answered_sample
  have once := created_once sampleKeccak256 (fun _ _ => some 7) (fun _ => true) sampleVerifyProof
    (fun _ => sampleRequest) 1 3 4 (sampleOpening :: alone 0 1000 ⟨2, 200, 2⟩)
  exact (once.2 0 answered).2.2.1

theorem unacknowledged_sample :
    ∀ j, (sampleMachine.run (start (initialized 1 3 4)) (sampleOpening :: sampleLoss)).phase j ≠
      .answered .created := by
  obtain ⟨-, failed, mined⟩ := answered_sample
  intro j
  exact (unacknowledged sampleKeccak256 (fun _ _ => some 7) (fun _ => true) sampleVerifyProof
    (fun _ => sampleRequest) 1 3 4 (sampleOpening :: sampleLoss) 0 .receipt failed mined).2.2 j rfl

theorem created_needs_encoded_poll_sample :
    ∃ env policyId countryCode deadline,
      .other ⟨env, .createPoll policyId countryCode deadline⟩ ∈
          sampleMachine.accepted (start (initialized 1 3 4))
            (sampleOpening :: alone 0 1000 ⟨2, 200, 2⟩) ∧
        policyId ++ bytes2Bytes countryCode = sampleEncoding := by
  obtain ⟨answered, -, -⟩ := answered_sample
  refine created_needs_encoded_poll sampleKeccak256 (fun _ _ => some 7) (fun _ => true)
    sampleVerifyProof (fun _ => sampleRequest) 1 3 4 _ ?_ 0 answered
  -- one string is hashed
  have encoded : sampleEncoding.take 126 ++ bytes2Bytes 0 = sampleEncoding := by decide
  have only : ∀ bytes ∈ hashedFor (fun _ => sampleRequest)
      (sampleMachine.accepted (start (initialized 1 3 4))
        (sampleOpening :: alone 0 1000 ⟨2, 200, 2⟩)), bytes = sampleEncoding := by
    rintro bytes (⟨env, policyId, countryCode, deadline, mem, same⟩ | ⟨i, same⟩)
    · have listed := (Machine.accepted_sublist _ _).subset mem
      rcases List.mem_cons.mp listed with opening | later
      · obtain ⟨-, rfl, rfl, -⟩ := by
          simpa only [sampleOpening, Action.other.injEq, Tx.mk.injEq, Call.createPoll.injEq]
            using opening
        rw [same, encoded]
      · simp [alone] at later
    · exact same
  intro a memA b memB _
  rw [only a memA, only b memB]

end Sample

end TheVoteApp.VoteRelay
