import TheVoteApp.PhoneVoting.Sms
import TheVoteApp.Foundations.Machine

/-!
# Votes by text message that fail

`handleVote` when its calls fail: the look-up of the nullifier, the submission to the chain
and the addition of the nullifier.  A call that fails may have been carried out, and only
its answer lost.

The last two calls share one `try`.  If the submission succeeds and the addition fails, the
reply says that the submission failed, and where the nullifier is not in the set the next
attempt submits again.  A run is atomic exactly where no request ends in that way, nor with
a submission whose answer is lost (`atomic_iff`).

## Main definitions

* `Fate`, `Faults` — what becomes of a call, and of the calls of a request
* `World` — the set of nullifiers, and what the chain has been sent
* `Atomic` — the claims of the reply hold, and no vote is on the chain twice
* `Finishes` — a vote that reaches the chain is also recorded
-/

namespace TheVoteApp.SMSVoteService.Failures

open Foundations JavaScript

/-! ## Calls that fail -/

/-- What becomes of a call.  One that fails may have been carried out. -/
inductive Fate where
  | succeeds
  | fails (done : Bool)
deriving DecidableEq

/-- What becomes of the calls of one request. -/
structure Faults where
  sismember : Fate
  submitToChain : Fate
  sadd : Fate
deriving DecidableEq

/-- What the chain is sent. -/
structure Submission where
  nullifier : String
  policyId : String
  optionId : String
deriving DecidableEq

/-- The members of `sms:nullifiers`, and the submissions so far. -/
structure World where
  nullifiers : String → Bool
  chain : List Submission

/-- No vote has been recorded or submitted. -/
def World.initial : World := ⟨fun _ => false, []⟩

/-- A nullifier is recorded. -/
def World.add (world : World) (nullifier : String) : World :=
  { world with nullifiers := Function.update world.nullifiers nullifier true }

/-- A submission reaches the chain. -/
def World.submit (world : World) (submission : Submission) : World :=
  { world with chain := world.chain ++ [submission] }

@[simp] theorem World.chain_add (world : World) (nullifier : String) :
    (world.add nullifier).chain = world.chain := rfl

@[simp] theorem World.nullifiers_submit (world : World) (submission : Submission) :
    (world.submit submission).nullifiers = world.nullifiers := rfl

@[simp] theorem World.chain_submit (world : World) (submission : Submission) :
    (world.submit submission).chain = world.chain ++ [submission] := rfl

theorem World.nullifiers_add_self (world : World) (nullifier : String) :
    (world.add nullifier).nullifiers nullifier = true := Function.update_self ..

theorem World.nullifiers_add_of_mem {world : World} {nullifier other : String}
    (mem : world.nullifiers other = true) : (world.add nullifier).nullifiers other = true := by
  by_cases same : other = nullifier
  · rw [same, World.nullifiers_add_self]
  · exact (Function.update_of_ne same _ _).trans mem

/-- The calls of `handleVote`. -/
inductive Call where
  | sismember (nullifier : String)
  | submitToChain (submission : Submission)
  | sadd (nullifier : String)

/-- What a call answers; `none` when it throws. -/
abbrev Call.Answer : Call → Type
  | .sismember _ => Option Bool
  | .submitToChain _ => Option String
  | .sadd _ => Option Unit

/-- What a request ends with. -/
inductive Ending where
  | replied (reply : Reply)
  /-- "Vote submission failed. Please try again or visit the app." -/
  | submissionFailed
  /-- The look-up of the nullifier is outside the `try`. -/
  | exception
deriving DecidableEq

section Handler

variable (sha256 : String → String) (config : Config)

/-- `handleVote` -/
def handleVote (phone policyId optionRaw : String) : Program Call Call.Answer Ending :=
  match property optionMap optionRaw with
  | none => .done (.replied (.unknownOption optionRaw))
  | some optionId =>
      let nullifier := deriveNullifier sha256 config phone policyId
      .command (.sismember nullifier) fun
        | none => .done .exception
        | some true => .done (.replied (.alreadyVoted policyId))
        | some false =>
            .command (.submitToChain ⟨nullifier, policyId, optionId⟩) fun
              | none => .done .submissionFailed
              | some txHash =>
                  .command (.sadd nullifier) fun
                    | none => .done .submissionFailed
                    | some () => .done (.replied (.recorded policyId optionId nullifier txHash))

/-- A call and its effect, under the faults of the request. -/
def exec (faults : Faults) : (call : Call) → World → call.Answer × World
  | .sismember nullifier, world =>
      match faults.sismember with
      | .succeeds => (some (world.nullifiers nullifier), world)
      | .fails _ => (none, world)
  | .submitToChain submission, world =>
      match faults.submitToChain with
      | .succeeds =>
          (some (submitToChain sha256 submission.nullifier submission.policyId
            submission.optionId), world.submit submission)
      | .fails true => (none, world.submit submission)
      | .fails false => (none, world)
  | .sadd nullifier, world =>
      match faults.sadd with
      | .succeeds => (some (), world.add nullifier)
      | .fails true => (none, world.add nullifier)
      | .fails false => (none, world)

/-- A vote, and what becomes of its calls. -/
structure Request where
  phone : String
  policyId : String
  optionRaw : String
  faults : Faults
deriving DecidableEq

/-- How a request ends, and what it leaves. -/
def serve (world : World) (request : Request) : Ending × World :=
  (handleVote sha256 config request.phone request.policyId request.optionRaw).run
    (exec sha256 request.faults) world

/-- Requests one after the other, retries among them. -/
def machine : Machine World Request Ending Unit where
  call world request := .ok ((serve sha256 config world request).2,
    [(serve sha256 config world request).1])

/-! ## One request -/

/-- The nullifier of a request. -/
def Request.nullifier (request : Request) : String :=
  deriveNullifier sha256 config request.phone request.policyId

/-- The request reaches the chain: the option is known, and the look-up answers that the
nullifier is not in the set. -/
def Submits (world : World) (request : Request) : Prop :=
  (property optionMap request.optionRaw).isSome = true ∧ request.faults.sismember = .succeeds ∧
    world.nullifiers (request.nullifier sha256 config) = false

instance (world : World) (request : Request) : Decidable (Submits sha256 config world request) :=
  inferInstanceAs (Decidable (_ ∧ _ ∧ _))

/-- **How a request ends**, case by case. -/
inductive Outcome (world : World) (request : Request) : Ending → World → Prop
  | turnedAway {ending : Ending} (stops : ¬ Submits sha256 config world request)
      (silent : ∀ policyId optionId nullifier txHash,
        ending ≠ .replied (.recorded policyId optionId nullifier txHash)) :
      Outcome world request ending world
  | unsent (submits : Submits sha256 config world request)
      (fate : request.faults.submitToChain = .fails false) :
      Outcome world request .submissionFailed world
  | unanswered {optionId : String} (submits : Submits sha256 config world request)
      (fate : request.faults.submitToChain = .fails true) :
      Outcome world request .submissionFailed
        (world.submit ⟨request.nullifier sha256 config, request.policyId, optionId⟩)
  | unrecorded {optionId : String} {after : World}
      (submits : Submits sha256 config world request)
      (fate : request.faults.submitToChain = .succeeds) {done : Bool}
      (lost : request.faults.sadd = .fails done)
      (chain : after.chain =
        world.chain ++ [⟨request.nullifier sha256 config, request.policyId, optionId⟩]) :
      Outcome world request .submissionFailed after
  | recorded {optionId txHash : String} (submits : Submits sha256 config world request)
      (fate : request.faults.submitToChain = .succeeds) (added : request.faults.sadd = .succeeds) :
      Outcome world request
        (.replied (.recorded request.policyId optionId (request.nullifier sha256 config) txHash))
        ((world.submit ⟨request.nullifier sha256 config, request.policyId, optionId⟩).add
          (request.nullifier sha256 config))

variable {sha256 config}

theorem outcome_serve (world : World) (request : Request) :
    Outcome sha256 config world request (serve sha256 config world request).1
      (serve sha256 config world request).2 := by
  cases option : property optionMap request.optionRaw with
  | none =>
      have stops : ¬ Submits sha256 config world request := by
        rintro ⟨known, -⟩
        rw [option] at known
        cases known
      simp only [serve, handleVote, option, Program.run_done]
      exact .turnedAway stops (by simp)
  | some optionId =>
      simp only [serve, handleVote, option, Program.run_command, exec]
      cases read : request.faults.sismember with
      | fails done => exact .turnedAway (by simp [Submits, read]) (by simp)
      | succeeds =>
          cases spent : world.nullifiers (request.nullifier sha256 config) with
          | true =>
              have present : world.nullifiers
                  (deriveNullifier sha256 config request.phone request.policyId) = true := spent
              simp only [present]
              exact .turnedAway (by simp [Submits, spent]) (by simp)
          | false =>
              have absent : world.nullifiers
                  (deriveNullifier sha256 config request.phone request.policyId) = false := spent
              have submits : Submits sha256 config world request := ⟨by simp [option], read, spent⟩
              simp only [absent, Program.run_command, exec]
              cases fate : request.faults.submitToChain with
              | fails done =>
                  cases done with
                  | true => exact .unanswered submits fate
                  | false => exact .unsent submits fate
              | succeeds =>
                  simp only [Program.run_command, exec]
                  cases added : request.faults.sadd with
                  | fails done =>
                      cases done with
                      | true => exact .unrecorded submits fate added rfl
                      | false => exact .unrecorded submits fate added rfl
                  | succeeds => exact .recorded submits fate added

/-- Without faults this is the handler on the set of the database. -/
theorem serve_of_succeeds (redis : Redis.Database Unit) (chain : List Submission)
    (phone policyId optionRaw : String) :
    let served := serve sha256 config ⟨redis.sets nullifiersKey, chain⟩
      ⟨phone, policyId, optionRaw, ⟨.succeeds, .succeeds, .succeeds⟩⟩
    let visit := (SMSVoteService.handleVote sha256 config phone policyId optionRaw).run
      Redis.exec redis
    served.1 = .replied visit.1 ∧ served.2.nullifiers = visit.2.sets nullifiersKey := by
  dsimp only
  unfold serve handleVote SMSVoteService.handleVote
  cases property optionMap optionRaw with
  | none => exact ⟨rfl, rfl⟩
  | some optionId =>
      simp only [Redis.sismember_bind, Program.run_command, exec, Redis.exec]
      cases redis.sets nullifiersKey (deriveNullifier sha256 config phone policyId) with
      | true => exact ⟨rfl, rfl⟩
      | false =>
          refine ⟨rfl, ?_⟩
          show Function.update (redis.sets nullifiersKey)
              (deriveNullifier sha256 config phone policyId) true =
            (redis.addMember nullifiersKey
              (deriveNullifier sha256 config phone policyId)).sets nullifiersKey
          exact (Function.update_self nullifiersKey _ redis.sets).symm

/-! ## Atomic requests -/

section Atomicity

variable (sha256 : String → String) (config : Config)

/-- The submissions for the number and the policy, counted by their nullifier. -/
def World.submissions (world : World) (phone policyId : String) : List Submission :=
  world.chain.filter fun submission =>
    submission.nullifier = deriveNullifier sha256 config phone policyId

/-- What the reply says of the vote is so: where the submission failed, or the request with
it, nothing has been sent to the chain; where the vote is recorded, its nullifier is in the
set.  And no number has two votes on a policy. -/
def Atomic (world : World) (request : Request) : Prop :=
  let ending := (serve sha256 config world request).1
  let after := (serve sha256 config world request).2
  (ending = .submissionFailed ∨ ending = .exception → after.chain = world.chain) ∧
    (∀ policyId optionId nullifier txHash,
      ending = .replied (.recorded policyId optionId nullifier txHash) →
        after.nullifiers (request.nullifier sha256 config) = true) ∧
    ∀ phone policyId, (after.submissions sha256 config phone policyId).length ≤ 1

/-- A vote that reaches the chain is answered and recorded: a submission that fails has not
been carried out, and where it succeeds the nullifier is added. -/
def Finishes (world : World) (request : Request) : Prop :=
  Submits sha256 config world request →
    request.faults.submitToChain ≠ .fails true ∧
      (request.faults.submitToChain = .succeeds → request.faults.sadd = .succeeds)

instance (world : World) (request : Request) : Decidable (Finishes sha256 config world request) :=
  inferInstanceAs (Decidable (_ → _ ∧ (_ → _)))

/-- Every submission has its nullifier in the set, and a nullifier of its own. -/
structure Bookkept (world : World) : Prop where
  recorded : ∀ submission ∈ world.chain, world.nullifiers submission.nullifier = true
  distinct : (world.chain.map Submission.nullifier).Nodup

variable {sha256 config}

theorem bookkept_initial : Bookkept World.initial :=
  ⟨by simp [World.initial], by simp [World.initial]⟩

/-- Submissions with nullifiers of their own are at most one for each number and policy. -/
theorem Bookkept.length_submissions_le {world : World} (bookkept : Bookkept world)
    (phone policyId : String) : (world.submissions sha256 config phone policyId).length ≤ 1 := by
  have distinct : ((world.submissions sha256 config phone policyId).map
      Submission.nullifier).Nodup :=
    bookkept.distinct.sublist (List.filter_sublist.map _)
  have same : (world.submissions sha256 config phone policyId).map Submission.nullifier =
      List.replicate (world.submissions sha256 config phone policyId).length
        (deriveNullifier sha256 config phone policyId) := by
    rw [List.eq_replicate_iff, List.length_map]
    refine ⟨rfl, fun nullifier mem => ?_⟩
    obtain ⟨submission, listed, rfl⟩ := List.mem_map.mp mem
    simpa using (List.mem_filter.mp listed).2
  rw [same] at distinct
  exact List.nodup_replicate.mp distinct

/-- A vote whose nullifier is not in the set keeps the books when both are added. -/
theorem Bookkept.record {world : World} (bookkept : Bookkept world) {submission : Submission}
    (fresh : world.nullifiers submission.nullifier = false) :
    Bookkept ((world.submit submission).add submission.nullifier) := by
  refine ⟨?_, ?_⟩
  · intro earlier mem
    rw [World.chain_add, World.chain_submit] at mem
    rcases List.mem_append.mp mem with before | last
    · exact World.nullifiers_add_of_mem (bookkept.recorded earlier before)
    · obtain rfl := List.mem_singleton.mp last
      exact World.nullifiers_add_self _ _
  · rw [World.chain_add, World.chain_submit, List.map_append, List.nodup_append]
    refine ⟨bookkept.distinct, by simp, ?_⟩
    rintro nullifier before _ last rfl
    obtain ⟨earlier, mem, rfl⟩ := List.mem_map.mp before
    have same : earlier.nullifier = submission.nullifier := List.mem_singleton.mp last
    have spent := bookkept.recorded earlier mem
    rw [same, fresh] at spent
    cases spent

/-- A request that finishes leaves the world alone, or records its vote. -/
theorem Outcome.of_finishes {world after : World} {request : Request} {ending : Ending}
    (outcome : Outcome sha256 config world request ending after)
    (finishes : Finishes sha256 config world request) :
    (after = world ∧ ∀ policyId optionId nullifier txHash,
        ending ≠ .replied (.recorded policyId optionId nullifier txHash)) ∨
      ∃ optionId txHash, Submits sha256 config world request ∧
        ending = .replied
          (.recorded request.policyId optionId (request.nullifier sha256 config) txHash) ∧
        after = (world.submit
          ⟨request.nullifier sha256 config, request.policyId, optionId⟩).add
            (request.nullifier sha256 config) := by
  cases outcome with
  | turnedAway _ silent => exact Or.inl ⟨rfl, silent⟩
  | unsent => exact Or.inl ⟨rfl, by simp⟩
  | unanswered submits fate => exact absurd fate (finishes submits).1
  | unrecorded submits fate lost =>
      have added := (finishes submits).2 fate
      rw [added] at lost
      cases lost
  | recorded submits => exact Or.inr ⟨_, _, submits, rfl, rfl⟩

theorem bookkept_serve {world : World} (bookkept : Bookkept world) {request : Request}
    (finishes : Finishes sha256 config world request) :
    Bookkept (serve sha256 config world request).2 := by
  rcases (outcome_serve world request).of_finishes finishes with
    ⟨same, -⟩ | ⟨optionId, txHash, submits, -, recorded⟩
  · rw [same]
    exact bookkept
  · rw [recorded]
    exact bookkept.record submits.2.2

/-- The replies alone already decide: they hold exactly where the request finishes. -/
theorem finishes_of_atomic {world : World} {request : Request}
    (atomic : Atomic sha256 config world request) : Finishes sha256 config world request := by
  obtain ⟨failed, -, -⟩ := atomic
  have outcome := @outcome_serve sha256 config world request
  generalize (serve sha256 config world request).1 = ending at failed outcome
  generalize (serve sha256 config world request).2 = after at failed outcome
  intro submits
  cases outcome with
  | turnedAway stops => exact absurd submits stops
  | unsent _ fate =>
      rw [fate]
      exact ⟨by simp, by simp⟩
  | unanswered _ fate =>
      have grown := failed (.inl rfl)
      simp at grown
  | unrecorded _ fate lost chain =>
      have grown := failed (.inl rfl)
      rw [chain] at grown
      simp at grown
  | recorded _ fate added =>
      rw [fate]
      exact ⟨by simp, fun _ => added⟩

theorem atomic_of_finishes {world : World} (bookkept : Bookkept world) {request : Request}
    (finishes : Finishes sha256 config world request) : Atomic sha256 config world request := by
  have after := bookkept_serve bookkept finishes
  refine ⟨fun failed => ?_, fun policyId optionId nullifier txHash answered => ?_,
    fun phone policyId => after.length_submissions_le phone policyId⟩
  · rcases (outcome_serve world request).of_finishes finishes with
      ⟨same, -⟩ | ⟨optionId, txHash, -, replied, -⟩
    · rw [same]
    · rw [replied] at failed
      rcases failed with failed | failed <;> cases failed
  · rcases (outcome_serve world request).of_finishes finishes with
      ⟨-, silent⟩ | ⟨optionId, txHash, -, -, recorded⟩
    · exact absurd answered (silent _ _ _ _)
    · rw [recorded]
      exact World.nullifiers_add_self _ _

/-- **Failures are atomic exactly where votes finish.**  Over every run, all replies hold
and no number has two votes on a policy if and only if every vote that reaches the chain is
answered and recorded. -/
theorem atomic_iff (sha256 : String → String) (config : Config) (requests : List Request) :
    (machine sha256 config).Along (Atomic sha256 config) World.initial requests ↔
      (machine sha256 config).Along (Finishes sha256 config) World.initial requests := by
  constructor
  · exact Machine.along_of_invariant (I := fun _ => True) trivial (fun _ _ _ _ => trivial)
      (fun _ _ _ atomic => finishes_of_atomic atomic) requests
  · apply Machine.along_of_invariant bookkept_initial
    · intro world request bookkept finishes
      show Bookkept (serve sha256 config world request).2
      exact bookkept_serve bookkept finishes
    · intro world request bookkept finishes
      exact atomic_of_finishes bookkept finishes

end Atomicity

end Handler

/-! ### A lost addition, and the retry -/

/-- A vote, and what becomes of the addition of its nullifier. -/
def sampleRequest (sadd : Fate) : Request :=
  ⟨"+447700900123", "POL-001", "SUPPORT", ⟨.succeeds, .succeeds, sadd⟩⟩

/-- The addition fails, and the retry submits the vote again. -/
theorem atomic_counterexample :
    ¬ (machine sampleSha256 sampleConfig).Along (Atomic sampleSha256 sampleConfig) World.initial
        [sampleRequest (.fails false), sampleRequest .succeeds] ∧
      (machine sampleSha256 sampleConfig).events World.initial
          [sampleRequest (.fails false), sampleRequest .succeeds] =
        [.submissionFailed, .replied (.recorded "POL-001" "option-support"
          "0xa5b762894907a7bcfba630c1d5959a9a669dd8b30dae98d6d8cdddb1b7bb511e"
          "0x411732ba637df908d38996495dce0643859b6ecc9e8d325aaeea97ddb74180eb")] ∧
      (((machine sampleSha256 sampleConfig).run World.initial
          [sampleRequest (.fails false), sampleRequest .succeeds]).submissions sampleSha256
            sampleConfig "+447700900123" "POL-001").length = 2 := by
  refine ⟨?_, by decide, by decide⟩
  rintro ⟨⟨failed, -, -⟩, -⟩
  exact absurd (failed (.inl (by decide))) (by decide)

end TheVoteApp.SMSVoteService.Failures
