import TheVoteApp.Clients.VoteWireFormat
import TheVoteApp.Foundations.Machine

/-!
# The vote screen

`VoteViewModel.kt` and `SubmitVoteUseCase`: what the Android app does between the
selection of an option and a verified receipt.  Every biometric success launches a
coroutine, and the coroutines share one state of the screen.

No more payloads are handed to the repository than biometrics have succeeded, and each is
for the option that was selected at the moment of a success; its secret is the same on
every phone and its proof is empty, which the route refuses (`payloads_confirmed`).

If no coroutine is launched while another one runs, a screen that shows a verified vote
shows the receipt that has been verified (`verified_receipt`).  Two coroutines may
show the receipt of the one for the verification of the other.

## Main definitions

* `Screen`, `machine` — the state of the screen and the coroutines
* `chosen` — the option that is selected
* `Calm` — one coroutine at a time
-/

namespace TheVoteApp.VoteViewModel

open Solidity BlockchainVoteService Foundations

/-- What the screen is at. -/
inductive VotePhase where
  | selecting
  | confirming
  | signing
  | submitting
  | submitted
  | verifying
  | verified
  | error
deriving DecidableEq

/-- The receipt of the backend. -/
structure VoteReceipt where
  transactionHash : String
  blockNumber : ℤ
  nullifier : String
  timestamp : ℤ
deriving DecidableEq

/-- The local voter, as far as `SubmitVoteUseCase` looks at it. -/
structure Voter where
  isVerified : Bool

/-- What the screen shows. -/
structure VoteUiState where
  selectedOptionId : Option String
  phase : VotePhase
  receipt : Option VoteReceipt
  error : Option String

/-- A coroutine that `submitVote` has launched, at the call it waits for. -/
inductive Submission where
  | unused
  /-- `signVotePayload` -/
  | signing (ballot : Ballot)
  /-- `getLocalVoter` -/
  | submitting (payload : VotePayload)
  /-- the repository -/
  | sent
  /-- `verifyVoteUseCase` -/
  | verifying (receipt : VoteReceipt)
  | done

/-- The state of the screen and the coroutines launched so far.  An exception in a
coroutine is the end of the app. -/
structure Screen where
  ui : VoteUiState
  launched : ℕ
  submission : ℕ → Submission
  crashed : Bool

/-- The screen as it opens. -/
def Screen.start : Screen where
  ui := ⟨none, .selecting, none, none⟩
  launched := 0
  submission _ := .unused
  crashed := false

/-- Coroutine `n` moves on, and shows `ui`. -/
def Screen.goto (s : Screen) (n : ℕ) (submission : Submission) (ui : VoteUiState) : Screen :=
  { s with ui, submission := Function.update s.submission n submission }

/-- A new coroutine that is to sign the ballot. -/
def Screen.launch (s : Screen) (ballot : Ballot) (ui : VoteUiState) : Screen :=
  { s.goto s.launched (.signing ballot) ui with launched := s.launched + 1 }

/-- What the user does, and what the calls of coroutine `n` answer. -/
inductive Occurrence (SessionKey : Type) where
  | selectOption (optionId : String)
  | confirmVote
  | onBiometricSuccess (now : ℤ)
  | onBiometricFailure (reason : String)
  /-- The session key has been loaded, if there is one. -/
  | sign (n : ℕ) (key : Option SessionKey)
  | submit (n : ℕ) (voter : Option Voter)
  /-- The repository answers with a receipt, or with the message of an exception. -/
  | respond (n : ℕ) (result : Except (Option String) VoteReceipt)
  /-- Whether the vote is recorded; `none` is an exception. -/
  | verify (n : ℕ) (recorded : Option Bool)
  | clearError

/-- `ByteArray(32)`, where the voter's secret belongs. -/
def voterSecret : Bytes := List.replicate 32 0

/-- The proof in the place of one from the backend. -/
def placeholder : ZkProof := ⟨[], [], [], []⟩

/-- `SubmitVoteUseCase`, up to the call of the repository. -/
def refusal : Option Voter → Option String
  | none => some "Voter not registered"
  | some voter => if voter.isVerified then none else some "Identity not verified"

section Machine

variable (crypto : Cryptography) (policyId : String)

/-- An occurrence, and the payloads that are handed to the repository. -/
def occur (s : Screen) :
    Occurrence crypto.Secp256k1Key → Option (Screen × List (ℕ × VotePayload))
  | .selectOption optionId => some ({ s with ui.selectedOptionId := some optionId }, [])
  | .confirmVote => some ({ s with ui.phase := .confirming }, [])
  | .onBiometricSuccess now =>
      match s.ui.selectedOptionId with
      | none => some (s, [])
      | some optionId =>
          some (s.launch ⟨policyId, optionId, placeholder, now⟩
            { s.ui with phase := .signing }, [])
  | .onBiometricFailure reason =>
      some ({ s with ui := { s.ui with phase := .selecting, error := some reason } }, [])
  | .sign n key =>
      match s.submission n with
      | .signing ballot =>
          match key with
          | none => some ({ s with crashed := true }, [])
          | some key =>
              some (s.goto n (.submitting ((android crypto).signed voterSecret key ballot))
                { s.ui with phase := .submitting }, [])
      | _ => none
  | .submit n voter =>
      match s.submission n with
      | .submitting payload =>
          match refusal voter with
          | some message =>
              some (s.goto n .done { s.ui with phase := .error, error := some message }, [])
          | none => some (s.goto n .sent s.ui, [(n, payload)])
      | _ => none
  | .respond n result =>
      match s.submission n with
      | .sent =>
          match result with
          -- `SUBMITTED` is overwritten before anything else happens
          | .ok receipt =>
              some (s.goto n (.verifying receipt)
                { s.ui with phase := .verifying, receipt := some receipt }, [])
          | .error message =>
              some (s.goto n .done { s.ui with phase := .error, error := message }, [])
      | _ => none
  | .verify n recorded =>
      match s.submission n with
      | .verifying _ =>
          match recorded with
          | none => some ({ s with crashed := true }, [])
          | some verified =>
              some (s.goto n .done
                { s.ui with phase := if verified then .verified else .error }, [])
      | _ => none
  | .clearError => some ({ s with ui.error := none }, [])

/-- The screen as the machine its occurrences drive.  After an exception nothing occurs. -/
def machine : Machine Screen (Occurrence crypto.Secp256k1Key) (ℕ × VotePayload) Unit where
  call s o :=
    if s.crashed then .error ()
    else
      match occur crypto policyId s o with
      | some r => .ok r
      | none => .error ()

end Machine

/-! ## What a step does -/

section Steps

variable {crypto : Cryptography} {policyId : String}

/-- A step: what the user does, a coroutine that is launched, and one that moves on. -/
inductive Step (crypto : Cryptography) (policyId : String) (s : Screen) :
    Occurrence crypto.Secp256k1Key → Screen → List (ℕ × VotePayload) → Prop where
  | selectOption (optionId : String) :
      Step crypto policyId s (.selectOption optionId)
        { s with ui.selectedOptionId := some optionId } []
  | confirmVote : Step crypto policyId s .confirmVote { s with ui.phase := .confirming } []
  | ignored (now : ℤ) : Step crypto policyId s (.onBiometricSuccess now) s []
  | launched {now : ℤ} {optionId : String} (selected : s.ui.selectedOptionId = some optionId) :
      Step crypto policyId s (.onBiometricSuccess now)
        (s.launch ⟨policyId, optionId, placeholder, now⟩ { s.ui with phase := .signing }) []
  | onBiometricFailure (reason : String) :
      Step crypto policyId s (.onBiometricFailure reason)
        { s with ui := { s.ui with phase := .selecting, error := some reason } } []
  | signed {n : ℕ} {ballot : Ballot} {key : crypto.Secp256k1Key}
      (waiting : s.submission n = .signing ballot) :
      Step crypto policyId s (.sign n (some key))
        (s.goto n (.submitting ((android crypto).signed voterSecret key ballot))
          { s.ui with phase := .submitting }) []
  | refused {n : ℕ} {payload : VotePayload} {voter : Option Voter} {message : String}
      (waiting : s.submission n = .submitting payload) :
      Step crypto policyId s (.submit n voter)
        (s.goto n .done { s.ui with phase := .error, error := some message }) []
  | handed {n : ℕ} {payload : VotePayload} {voter : Option Voter}
      (waiting : s.submission n = .submitting payload) (accepted : refusal voter = none) :
      Step crypto policyId s (.submit n voter) (s.goto n .sent s.ui) [(n, payload)]
  | received {n : ℕ} {receipt : VoteReceipt} (waiting : s.submission n = .sent) :
      Step crypto policyId s (.respond n (.ok receipt))
        (s.goto n (.verifying receipt)
          { s.ui with phase := .verifying, receipt := some receipt }) []
  | failed {n : ℕ} {message : Option String} (waiting : s.submission n = .sent) :
      Step crypto policyId s (.respond n (.error message))
        (s.goto n .done { s.ui with phase := .error, error := message }) []
  | verified {n : ℕ} {receipt : VoteReceipt} {recorded : Bool}
      (waiting : s.submission n = .verifying receipt) :
      Step crypto policyId s (.verify n (some recorded))
        (s.goto n .done { s.ui with phase := if recorded then .verified else .error }) []
  | unsigned {n : ℕ} {ballot : Ballot} (waiting : s.submission n = .signing ballot) :
      Step crypto policyId s (.sign n none) { s with crashed := true } []
  | unverified {n : ℕ} {receipt : VoteReceipt} (waiting : s.submission n = .verifying receipt) :
      Step crypto policyId s (.verify n none) { s with crashed := true } []
  | clearError : Step crypto policyId s .clearError { s with ui.error := none } []

variable {s s' : Screen} {o : Occurrence crypto.Secp256k1Key} {new : List (ℕ × VotePayload)}

theorem Step.of_call (done : (machine crypto policyId).call s o = .ok (s', new)) :
    Step crypto policyId s o s' new := by
  simp only [machine] at done
  split at done
  · cases done
  · split at done
    · rename_i r moved
      cases done
      cases o with
      | selectOption optionId =>
          cases moved
          exact .selectOption optionId
      | confirmVote =>
          cases moved
          exact .confirmVote
      | onBiometricSuccess now =>
          simp only [occur] at moved
          split at moved
          · cases moved
            exact .ignored now
          · cases moved
            exact .launched ‹_›
      | onBiometricFailure reason =>
          cases moved
          exact .onBiometricFailure reason
      | sign n key =>
          simp only [occur] at moved
          split at moved
          · split at moved
            · cases moved
              exact .unsigned ‹_›
            · cases moved
              exact .signed ‹_›
          · cases moved
      | submit n voter =>
          simp only [occur] at moved
          split at moved
          · split at moved
            · cases moved
              exact .refused ‹_›
            · cases moved
              exact .handed ‹_› ‹_›
          · cases moved
      | respond n result =>
          simp only [occur] at moved
          split at moved
          · split at moved
            · cases moved
              exact .received ‹_›
            · cases moved
              exact .failed ‹_›
          · cases moved
      | verify n recorded =>
          simp only [occur] at moved
          split at moved
          · split at moved
            · cases moved
              exact .unverified ‹_›
            · cases moved
              exact .verified ‹_›
          · cases moved
      | clearError =>
          cases moved
          exact .clearError
    · cases done

theorem Screen.submission_goto (n m : ℕ) (submission : Submission) (ui : VoteUiState) :
    (s.goto n submission ui).submission m = if m = n then submission else s.submission m :=
  Function.update_apply _ _ _ _

theorem Screen.submission_launch (m : ℕ) (ballot : Ballot) (ui : VoteUiState) :
    (s.launch ballot ui).submission m =
      if m = s.launched then .signing ballot else s.submission m :=
  Screen.submission_goto _ _ _ ui

end Steps

/-! ## Where a payload comes from -/

section Payloads

variable {SessionKey : Type}

/-- The option selected last. -/
def chosen (taken : List (Occurrence SessionKey)) : Option String :=
  taken.foldl (fun before o =>
    match o with
    | .selectOption optionId => some optionId
    | _ => before) none

/-- The occurrence launches a coroutine, if an option is selected. -/
def Occurrence.isSuccess : Occurrence SessionKey → Bool
  | .onBiometricSuccess _ => true
  | _ => false

/-- The ballot is for the option that was selected when biometrics succeeded. -/
def Confirmed (policyId : String) (taken : List (Occurrence SessionKey)) (ballot : Ballot) : Prop :=
  ∃ before now after optionId, taken = before ++ .onBiometricSuccess now :: after ∧
    chosen before = some optionId ∧ ballot = ⟨policyId, optionId, placeholder, now⟩

/-- The coroutine has come to the repository. -/
def Submission.handed : Submission → Bool
  | .unused | .signing _ | .submitting _ => false
  | _ => true

theorem Confirmed.concat {policyId : String} {taken : List (Occurrence SessionKey)}
    {ballot : Ballot} (confirmed : Confirmed policyId taken ballot) (o : Occurrence SessionKey) :
    Confirmed policyId (taken ++ [o]) ballot := by
  obtain ⟨before, now, after, optionId, rfl, selected, same⟩ := confirmed
  exact ⟨before, now, after ++ [o], optionId, by simp, selected, same⟩

theorem chosen_concat (taken : List (Occurrence SessionKey)) (o : Occurrence SessionKey) :
    chosen (taken ++ [o]) =
      match o with
      | .selectOption optionId => some optionId
      | _ => chosen taken := by
  rw [chosen, List.foldl_append]
  rfl

end Payloads

section Sound

variable (crypto : Cryptography) (policyId : String)

/-- What a coroutine works on. -/
def SubmissionSound (taken : List (Occurrence crypto.Secp256k1Key)) : Submission → Prop
  | .signing ballot => Confirmed policyId taken ballot
  | .submitting payload => ∃ key ballot, Confirmed policyId taken ballot ∧
      payload = (android crypto).signed voterSecret key ballot
  | _ => True

/-- What the screen shows, works on and has handed over comes from what has occurred. -/
structure Sound (s : Screen) (log : List (ℕ × VotePayload))
    (taken : List (Occurrence crypto.Secp256k1Key)) : Prop where
  selected : s.ui.selectedOptionId = chosen taken
  launched : s.launched ≤ (taken.filter Occurrence.isSuccess).length
  unused : ∀ n, s.launched ≤ n → s.submission n = .unused
  submission : ∀ n, SubmissionSound crypto policyId taken (s.submission n)
  handed : ∀ entry ∈ log, (s.submission entry.1).handed = true ∧ ∃ key ballot,
    Confirmed policyId taken ballot ∧ entry.2 = (android crypto).signed voterSecret key ballot
  once : (log.map Prod.fst).Nodup

variable {crypto policyId} {s s' : Screen} {log new : List (ℕ × VotePayload)}
  {taken : List (Occurrence crypto.Secp256k1Key)} {o : Occurrence crypto.Secp256k1Key}

theorem SubmissionSound.concat {submission : Submission}
    (sound : SubmissionSound crypto policyId taken submission)
    (o : Occurrence crypto.Secp256k1Key) :
    SubmissionSound crypto policyId (taken ++ [o]) submission := by
  cases submission with
  | signing ballot => exact Confirmed.concat sound o
  | submitting payload =>
      obtain ⟨key, ballot, confirmed, same⟩ := sound
      exact ⟨key, ballot, confirmed.concat o, same⟩
  | _ => trivial

/-- An occurrence that launches no coroutine and moves none. -/
theorem Sound.concat (sound : Sound crypto policyId s log taken)
    (o : Occurrence crypto.Secp256k1Key) (ui : VoteUiState) (crashed : Bool)
    (selected : ui.selectedOptionId = chosen (taken ++ [o])) :
    Sound crypto policyId { s with ui, crashed } log (taken ++ [o]) where
  selected := selected
  launched := sound.launched.trans (by
    rw [List.filter_append, List.length_append]
    exact Nat.le_add_right _ _)
  unused := sound.unused
  submission n := (sound.submission n).concat o
  handed entry mem := by
    obtain ⟨past, key, ballot, confirmed, same⟩ := sound.handed entry mem
    exact ⟨past, key, ballot, confirmed.concat o, same⟩
  once := sound.once

/-- A coroutine moves on. -/
theorem Sound.goto (sound : Sound crypto policyId s log taken) {n : ℕ} {submission : Submission}
    (ui : VoteUiState) (selected : ui.selectedOptionId = chosen taken) (begun : n < s.launched)
    (here : SubmissionSound crypto policyId taken submission)
    (past : (s.submission n).handed = true → submission.handed = true) :
    Sound crypto policyId (s.goto n submission ui) log taken where
  selected := selected
  launched := sound.launched
  unused m beyond := by
    have later : s.launched ≤ m := beyond
    rw [Screen.submission_goto, if_neg (by omega)]
    exact sound.unused m later
  submission m := by
    rw [Screen.submission_goto]
    split
    · exact here
    · exact sound.submission m
  handed entry mem := by
    obtain ⟨gone, source⟩ := sound.handed entry mem
    refine ⟨?_, source⟩
    rw [Screen.submission_goto]
    split
    · rename_i same
      exact past (same ▸ gone)
    · exact gone
  once := sound.once

theorem Sound.begun (sound : Sound crypto policyId s log taken) {n : ℕ}
    (waiting : s.submission n ≠ .unused) : n < s.launched := by
  by_contra beyond
  exact waiting (sound.unused n (not_lt.mp beyond))

/-- A coroutine is launched, for the selected option. -/
theorem Sound.launch (sound : Sound crypto policyId s log taken) {now : ℤ} {optionId : String}
    (ui : VoteUiState) (same : ui.selectedOptionId = s.ui.selectedOptionId)
    (selected : s.ui.selectedOptionId = some optionId) :
    Sound crypto policyId (s.launch ⟨policyId, optionId, placeholder, now⟩ ui) log
      (taken ++ [.onBiometricSuccess now]) where
  selected := by
    rw [chosen_concat]
    exact same.trans sound.selected
  launched := by
    rw [List.filter_append, List.length_append]
    exact Nat.add_le_add_right sound.launched 1
  unused m beyond := by
    have later : s.launched + 1 ≤ m := beyond
    rw [Screen.submission_launch, if_neg (by omega)]
    exact sound.unused m (by omega)
  submission m := by
    rw [Screen.submission_launch]
    split
    · exact ⟨taken, now, [], optionId, rfl, sound.selected ▸ selected, rfl⟩
    · exact (sound.submission m).concat _
  handed entry mem := by
    obtain ⟨gone, key, ballot, confirmed, payload⟩ := sound.handed entry mem
    refine ⟨?_, key, ballot, confirmed.concat _, payload⟩
    rw [Screen.submission_launch]
    split
    · rename_i launching
      rw [launching, sound.unused s.launched le_rfl] at gone
      cases gone
    · exact gone
  once := sound.once

/-- A payload is handed over, by a coroutine that has handed over none. -/
theorem Sound.hand (sound : Sound crypto policyId s log taken) {n : ℕ} {payload : VotePayload}
    (waiting : (s.submission n).handed = false) (sent : (s'.submission n).handed = true)
    (moved : Sound crypto policyId s' log taken)
    (source : ∃ key ballot, Confirmed policyId taken ballot ∧
      payload = (android crypto).signed voterSecret key ballot) :
    Sound crypto policyId s' (log ++ [(n, payload)]) taken where
  selected := moved.selected
  launched := moved.launched
  unused := moved.unused
  submission := moved.submission
  handed entry mem := by
    rcases List.mem_append.mp mem with before | last
    · exact moved.handed entry before
    · rw [List.mem_singleton.mp last]
      exact ⟨sent, source⟩
  once := by
    have absent : n ∉ log.map Prod.fst := by
      intro mem
      obtain ⟨entry, inside, rfl⟩ := List.mem_map.mp mem
      cases waiting.symm.trans (sound.handed entry inside).1
    rw [List.map_append, List.map_singleton]
    refine List.nodup_append.mpr ⟨moved.once, List.nodup_singleton n, ?_⟩
    rintro a memA b memB rfl
    have same : a = n := List.mem_singleton.mp memB
    exact absent (same ▸ memA)

theorem Sound.step (sound : Sound crypto policyId s log taken)
    (step : Step crypto policyId s o s' new) :
    Sound crypto policyId s' (log ++ new) (taken ++ [o]) := by
  -- nothing is selected, launched or moved
  have quiet : (∀ optionId, o ≠ .selectOption optionId) → ∀ (ui : VoteUiState) (crashed : Bool),
      ui.selectedOptionId = s.ui.selectedOptionId →
        Sound crypto policyId { s with ui, crashed } (log ++ []) (taken ++ [o]) := by
    intro other ui crashed same
    rw [List.append_nil]
    refine sound.concat o ui crashed (same.trans (sound.selected.trans ?_))
    rw [chosen_concat]
    cases o with
    | selectOption optionId => exact absurd rfl (other optionId)
    | _ => rfl
  have begun : ∀ {n : ℕ} {submission : Submission}, s.submission n = submission →
      submission ≠ .unused → n < s.launched := by
    rintro n submission rfl waiting
    exact sound.begun waiting
  have works : ∀ {n : ℕ} {submission : Submission}, s.submission n = submission →
      SubmissionSound crypto policyId taken submission := by
    rintro n submission rfl
    exact sound.submission n
  cases step with
  | selectOption optionId =>
      rw [List.append_nil]
      refine sound.concat _ _ s.crashed ?_
      rw [chosen_concat]
  | confirmVote => exact quiet (fun _ => nofun) _ s.crashed rfl
  | ignored now => exact quiet (fun _ => nofun) s.ui s.crashed rfl
  | launched selected =>
      rw [List.append_nil]
      exact sound.launch _ rfl selected
  | onBiometricFailure reason => exact quiet (fun _ => nofun) _ s.crashed rfl
  | signed waiting =>
      have idle := quiet (fun _ => nofun) s.ui s.crashed rfl
      refine idle.goto _ idle.selected (begun waiting nofun)
        ⟨_, _, Confirmed.concat (works waiting) _, rfl⟩ fun past => ?_
      cases (congrArg Submission.handed waiting).symm.trans past
  | refused waiting =>
      have idle := quiet (fun _ => nofun) s.ui s.crashed rfl
      exact idle.goto _ idle.selected (begun waiting nofun) trivial fun _ => rfl
  | handed waiting accepted =>
      have idle := quiet (fun _ => nofun) s.ui s.crashed rfl
      rw [List.append_nil] at idle
      refine idle.hand (congrArg Submission.handed waiting) ?_
        (idle.goto s.ui idle.selected (begun waiting nofun) trivial fun _ => rfl)
        (SubmissionSound.concat (works waiting) _)
      rw [Screen.submission_goto, if_pos rfl]
      rfl
  | received waiting =>
      have idle := quiet (fun _ => nofun) s.ui s.crashed rfl
      exact idle.goto _ idle.selected (begun waiting nofun) trivial fun _ => rfl
  | failed waiting =>
      have idle := quiet (fun _ => nofun) s.ui s.crashed rfl
      exact idle.goto _ idle.selected (begun waiting nofun) trivial fun _ => rfl
  | verified waiting =>
      have idle := quiet (fun _ => nofun) s.ui s.crashed rfl
      exact idle.goto _ idle.selected (begun waiting nofun) trivial fun _ => rfl
  | unsigned waiting => exact quiet (fun _ => nofun) s.ui true rfl
  | unverified waiting => exact quiet (fun _ => nofun) s.ui true rfl
  | clearError => exact quiet (fun _ => nofun) _ s.crashed rfl

end Sound

/-- **No more payloads than confirmations.**  In every run no more payloads are handed
to the repository than biometrics have succeeded.  Each is for the option that was
selected at such a moment, and is signed with a session key; all phones use one secret,
and the route refuses the payload. -/
theorem payloads_confirmed (crypto : Cryptography) (policyId : String)
    (occurrences : List (Occurrence crypto.Secp256k1Key)) :
    let M := machine crypto policyId
    let taken := M.accepted .start occurrences
    let log := M.events .start occurrences
    log.length ≤ (taken.filter Occurrence.isSuccess).length ∧
      ∀ n payload, (n, payload) ∈ log → voteSchema payload = false ∧
        ∃ before now after optionId key, taken = before ++ .onBiometricSuccess now :: after ∧
          chosen before = some optionId ∧
          payload = (android crypto).signed voterSecret key
            ⟨policyId, optionId, placeholder, now⟩ := by
  intro M taken log
  have sound : Sound crypto policyId (M.run .start occurrences) log taken := by
    refine Machine.run_induction (I := fun s log taken => Sound crypto policyId s log taken) ?_ ?_
      occurrences
    · exact ⟨rfl, Nat.zero_le _, fun _ _ => rfl, fun _ => trivial, fun _ mem => (by cases mem),
        List.nodup_nil⟩
    · intro s log taken o s' new sound done
      exact sound.step (.of_call done)
  refine ⟨?_, ?_⟩
  · -- the coroutines are numbered from 0
    have within : ∀ n ∈ log.map Prod.fst, n ∈ List.range (M.run .start occurrences).launched := by
      intro n mem
      obtain ⟨entry, inside, rfl⟩ := List.mem_map.mp mem
      rw [List.mem_range]
      refine sound.begun fun unused => ?_
      have past := (sound.handed entry inside).1
      rw [unused] at past
      cases past
    have count := (List.subperm_of_subset sound.once within).length_le
    rw [List.length_map, List.length_range] at count
    exact count.trans sound.launched
  · intro n payload mem
    obtain ⟨-, key, ballot, ⟨before, now, after, optionId, split, selected, rfl⟩, same⟩ :=
      sound.handed _ mem
    refine ⟨?_, before, now, after, optionId, key, split, selected, same⟩
    have empty : isProof payload.zkProof = false := by
      rw [show payload = _ from same]
      rfl
    simp [voteSchema, empty]

/-! ## One coroutine at a time -/

/-- The coroutine has been launched and runs. -/
def Submission.runs : Submission → Bool
  | .unused | .done => false
  | _ => true

/-- No coroutine is launched while another one runs. -/
def Calm {SessionKey : Type} (s : Screen) : Occurrence SessionKey → Prop
  | .onBiometricSuccess _ => ∀ n, (s.submission n).runs = false
  | _ => True

/-- The screen shows the receipt that is being verified, or has been. -/
structure Faithful {SessionKey : Type} (s : Screen) (taken : List (Occurrence SessionKey)) :
    Prop where
  single : ∀ n m, (s.submission n).runs = true → (s.submission m).runs = true → n = m
  verifying : ∀ n receipt, s.submission n = .verifying receipt →
    s.ui.receipt = some receipt ∧ .respond n (.ok receipt) ∈ taken
  verified : s.ui.phase = .verified → ∃ n receipt, s.ui.receipt = some receipt ∧
    .respond n (.ok receipt) ∈ taken ∧ .verify n (some true) ∈ taken

section Faithful

variable {crypto : Cryptography} {policyId : String} {s s' : Screen}
  {taken : List (Occurrence crypto.Secp256k1Key)} {o : Occurrence crypto.Secp256k1Key}
  {new : List (ℕ × VotePayload)}

/-- The receipt stays, and the vote is not shown as verified where it was not. -/
theorem Faithful.quiet (faithful : Faithful s taken) (o : Occurrence crypto.Secp256k1Key)
    (ui : VoteUiState) (crashed : Bool) (receipt : ui.receipt = s.ui.receipt)
    (phase : ui.phase = .verified → s.ui.phase = .verified) :
    Faithful { s with ui, crashed } (taken ++ [o]) where
  single := faithful.single
  verifying n kept waiting := by
    obtain ⟨shown, responded⟩ := faithful.verifying n kept waiting
    exact ⟨receipt.trans shown, List.mem_append_left _ responded⟩
  verified shows := by
    obtain ⟨n, kept, shown, responded, verified⟩ := faithful.verified (phase shows)
    exact ⟨n, kept, receipt.trans shown, List.mem_append_left _ responded,
      List.mem_append_left _ verified⟩

/-- A coroutine that moves on is still the only one that runs. -/
theorem Faithful.single_goto (faithful : Faithful s taken) {n : ℕ} {submission : Submission}
    (ui : VoteUiState) (runs : submission.runs = true → (s.submission n).runs = true) (m k : ℕ)
    (runsM : ((s.goto n submission ui).submission m).runs = true)
    (runsK : ((s.goto n submission ui).submission k).runs = true) : m = k := by
  have before : ∀ j, ((s.goto n submission ui).submission j).runs = true →
      (s.submission j).runs = true := by
    intro j runsJ
    rw [Screen.submission_goto] at runsJ
    split at runsJ
    · subst j
      exact runs runsJ
    · exact runsJ
  exact faithful.single m k (before m runsM) (before k runsK)

/-- A running coroutine moves on, and does not begin to verify. -/
theorem Faithful.goto (faithful : Faithful s taken) {n : ℕ} {submission : Submission}
    (ui : VoteUiState) (receipt : ui.receipt = s.ui.receipt)
    (runs : submission.runs = true → (s.submission n).runs = true)
    (verifies : ∀ kept, submission ≠ .verifying kept)
    (verified : ui.phase = .verified → ∃ n receipt, s.ui.receipt = some receipt ∧
      .respond n (.ok receipt) ∈ taken ∧ .verify n (some true) ∈ taken) :
    Faithful (s.goto n submission ui) taken where
  single := faithful.single_goto ui runs
  verifying m kept waiting := by
    rw [Screen.submission_goto] at waiting
    split at waiting
    · exact absurd waiting (verifies kept)
    · obtain ⟨shown, responded⟩ := faithful.verifying m kept waiting
      exact ⟨receipt.trans shown, responded⟩
  verified shows := by
    obtain ⟨m, kept, shown, responded, verified⟩ := verified shows
    exact ⟨m, kept, receipt.trans shown, responded, verified⟩

theorem Faithful.step (faithful : Faithful s taken) (calm : Calm s o)
    (step : Step crypto policyId s o s' new) : Faithful s' (taken ++ [o]) := by
  have idle := faithful.quiet o s.ui s.crashed rfl id
  have busy : ∀ {n : ℕ} {submission : Submission}, s.submission n = submission →
      submission.runs = true → (s.submission n).runs = true := by
    rintro n submission rfl
    exact id
  cases step with
  | selectOption optionId => exact faithful.quiet _ _ s.crashed rfl id
  | confirmVote => exact faithful.quiet _ _ s.crashed rfl nofun
  | ignored now => exact idle
  | launched selected =>
      -- the new coroutine is the only one
      have alone : ∀ m ballot ui, ((s.launch ballot ui).submission m).runs = true →
          m = s.launched := by
        intro m ballot ui runs
        rw [Screen.submission_launch] at runs
        split at runs
        · assumption
        · cases runs.symm.trans (calm m)
      refine ⟨fun m k runsM runsK => (alone m _ _ runsM).trans (alone k _ _ runsK).symm,
        fun m kept waiting => ?_, nofun⟩
      obtain rfl := alone m _ _ (congrArg Submission.runs waiting)
      rw [Screen.submission_launch, if_pos rfl] at waiting
      cases waiting
  | onBiometricFailure reason => exact faithful.quiet _ _ s.crashed rfl nofun
  | signed waiting =>
      exact idle.goto _ rfl (fun _ => busy waiting rfl) (fun _ => nofun) nofun
  | refused waiting => exact idle.goto _ rfl nofun (fun _ => nofun) nofun
  | handed waiting accepted =>
      exact idle.goto _ rfl (fun _ => busy waiting rfl) (fun _ => nofun) idle.verified
  | received waiting =>
      rename_i n receipt
      have running := busy waiting rfl
      refine ⟨faithful.single_goto _ fun _ => running, fun m kept verifies => ?_, nofun⟩
      rw [Screen.submission_goto] at verifies
      split at verifies
      · rename_i same
        obtain rfl := Submission.verifying.inj verifies
        exact ⟨rfl, same ▸ List.mem_append_right _ (List.mem_singleton_self _)⟩
      · rename_i other
        exact absurd (faithful.single m n (busy verifies rfl) running) other
  | failed waiting => exact idle.goto _ rfl nofun (fun _ => nofun) nofun
  | verified waiting =>
      rename_i n receipt recorded
      refine idle.goto _ rfl nofun (fun _ => nofun) fun shows => ?_
      cases recorded with
      | false => cases shows
      | true =>
          obtain ⟨shown, responded⟩ := idle.verifying n receipt waiting
          exact ⟨n, receipt, shown, responded,
            List.mem_append_right _ (List.mem_singleton_self _)⟩
  | unsigned waiting => exact faithful.quiet _ s.ui true rfl id
  | unverified waiting => exact faithful.quiet _ s.ui true rfl id
  | clearError => exact faithful.quiet _ _ s.crashed rfl id

end Faithful

/-- **The verified receipt is the one that is shown**, in every run in which coroutines
do not overlap. -/
theorem verified_receipt (crypto : Cryptography) (policyId : String)
    (occurrences : List (Occurrence crypto.Secp256k1Key))
    (calm : (machine crypto policyId).Along Calm .start occurrences)
    (verified : ((machine crypto policyId).run .start occurrences).ui.phase = .verified) :
    let taken := (machine crypto policyId).accepted .start occurrences
    ∃ n receipt, ((machine crypto policyId).run .start occurrences).ui.receipt = some receipt ∧
      .respond n (.ok receipt) ∈ taken ∧ .verify n (some true) ∈ taken := by
  have faithful : Faithful ((machine crypto policyId).run .start occurrences)
      ((machine crypto policyId).accepted .start occurrences) := by
    refine Machine.run_induction_along (P := Calm) (I := fun s _ taken => Faithful s taken) ?_ ?_
      occurrences calm
    · refine ⟨?_, ?_, ?_⟩
      · rintro n m ⟨⟩
      · rintro n receipt ⟨⟩
      · rintro ⟨⟩
    · intro s log taken o s' new faithful calm done
      exact faithful.step calm (.of_call done)
  exact faithful.verified verified

/-! ## One vote -/

section Sample

/-- The receipt of the sample vote. -/
def sampleReceipt : VoteReceipt := ⟨"0x01", 5, "0x02", 1767225600⟩

/-- A vote from the selection to the verified receipt. -/
def sampleRun : List (Occurrence sampleCryptography.Secp256k1Key) :=
  [.selectOption "option-support", .confirmVote, .onBiometricSuccess 1767225600000,
    .selectOption "option-oppose", .sign 0 (some ()), .submit 0 (some ⟨true⟩),
    .respond 0 (.ok sampleReceipt), .verify 0 (some true)]

/-- The option is changed while the payload is being signed, which comes too late. -/
theorem payloads_confirmed_sample :
    ∃ payload, (0, payload) ∈ (machine sampleCryptography "pol-001").events .start sampleRun ∧
      voteSchema payload = false ∧ payload.optionId = "option-support" := by
  have handed : ∃ payload,
      (0, payload) ∈ (machine sampleCryptography "pol-001").events .start sampleRun :=
    ⟨_, List.mem_singleton_self _⟩
  obtain ⟨payload, mem⟩ := handed
  obtain ⟨refused, before, now, after, optionId, key, split, selected, rfl⟩ :=
    (payloads_confirmed sampleCryptography "pol-001" sampleRun).2 0 payload mem
  refine ⟨_, mem, refused, ?_⟩
  have listed : (machine sampleCryptography "pol-001").accepted .start sampleRun = sampleRun := rfl
  rw [listed] at split
  -- there is one success, and it comes third
  rcases before with _ | ⟨first, _ | ⟨second, _ | ⟨third, before⟩⟩⟩
  · simp [sampleRun] at split
  · simp [sampleRun] at split
  · obtain ⟨rfl, rfl, -⟩ := by simpa only [sampleRun, List.cons_append, List.nil_append,
      List.cons.injEq] using split
    exact (Option.some.inj selected).symm
  · have later := congrArg (List.drop 3) split
    have inside : Occurrence.onBiometricSuccess now ∈ List.drop 3 sampleRun := by
      rw [later]
      simp
    simp [sampleRun] at inside

theorem verified_receipt_sample : ∃ n receipt,
    ((machine sampleCryptography "pol-001").run .start sampleRun).ui.receipt = some receipt ∧
      .respond n (.ok receipt) ∈ sampleRun ∧ .verify n (some true) ∈ sampleRun := by
  have calm : (machine sampleCryptography "pol-001").Along Calm .start sampleRun :=
    ⟨trivial, trivial, fun _ => rfl, trivial, trivial, trivial, trivial, trivial, trivial⟩
  obtain ⟨n, receipt, shown, responded, verified⟩ :=
    verified_receipt sampleCryptography "pol-001" sampleRun calm rfl
  have listed := (Machine.accepted_sublist (M := machine sampleCryptography "pol-001") .start
    sampleRun).subset
  exact ⟨n, receipt, shown, listed responded, listed verified⟩

end Sample

end TheVoteApp.VoteViewModel
