import TheVoteApp.HomomorphicTally.Service
import TheVoteApp.JavaScript.Double

/-!
# Reading a poll's configuration through its getter

The service learns how many options a poll has from `polls(pollId)`, the getter
the compiler generates for the public mapping.  Such a getter leaves out the
array members of a struct, so it returns three words: `optionCount`, `closeTime`
and `exists`.  The service's ABI declares the public key as well, five words in
all, and the decoder finds the data too short.

`polls_never_decodes` is the consequence: `getCiphertexts`, `getTallyResults` and
`_finaliseAll` throw for every poll in every state.  The loops behind the failing
read are right: given a configuration they visit every option
(`getCiphertexts_of_decodePolls`, `getTallyResults_of_decodePolls`).
-/

namespace TheVoteApp

open Solidity Foundations

/-- The return data of the getter of the public mapping `polls`. -/
def HomomorphicTally.pollsGetter (s : HomomorphicTally) (pollId : Bytes32) : Bytes :=
  let poll := s.polls pollId
  Abi.encode [.word poll.optionCount, .word poll.closeTime,
    .word (if poll.pollExists then 1 else 0)]

namespace HomomorphicTallyService

open BabyJubjub HomomorphicTally JavaScript

/-- What `HOMOMORPHIC_TALLY_ABI` says `polls` returns: `uint256[2]
tallyPublicKey, uint256 optionCount, uint256 closeTime, bool exists`. -/
structure PollData where
  tallyPublicKey : ℕ × ℕ
  optionCount : ℕ
  closeTime : ℕ
  pollExists : Bool
deriving DecidableEq

/-- Decoding the return data of `polls`; `none` is the exception of the decoder,
which insists on a word for every static value. -/
def decodePolls (data : Bytes) : Option PollData := do
  let x ← Abi.readWord data 0
  let y ← Abi.readWord data 32
  let optionCount ← Abi.readWord data 64
  let closeTime ← Abi.readWord data 96
  let pollExists ← Abi.readWord data 128
  return ⟨(x, y), optionCount, closeTime, pollExists != 0⟩

/-- A cached ciphertext; the coordinates are decimal strings in the source. -/
structure CiphertextSnapshot where
  pollId : Bytes32
  optionIndex : ℕ
  C1 : BabyJubPoint
  C2 : BabyJubPoint
  count : ℕ
  updatedAt : ℕ
deriving DecidableEq

/-- The result of an option, as the service reports it. -/
structure TallyResult where
  pollId : Bytes32
  optionIndex : ℕ
  tallyValue : ℕ
  finalised : Bool
deriving DecidableEq

/-- The snapshots in Redis, under `htally:ct:${pollId}:${i}`. -/
abbrev Cache := Bytes32 → ℕ → Option CiphertextSnapshot

/-- The snapshot of an accumulator at time `now`. -/
def snapshot (now : ℕ) (pollId : Bytes32) (optionIndex : ℕ) (acc : AccumulatedCiphertext) :
    CiphertextSnapshot :=
  ⟨pollId, optionIndex, acc.C1, acc.C2, toNumber acc.count, now⟩

/-- `_refreshCache`; a failed read is logged and answered with `null`. -/
def refreshCache (getAccumulated : ℕ → Option AccumulatedCiphertext) (now : ℕ) (pollId : Bytes32)
    (cache : Cache) (optionIndex : ℕ) : Option CiphertextSnapshot × Cache :=
  match getAccumulated optionIndex with
  | none => (none, cache)
  | some acc =>
    let snap := snapshot now pollId optionIndex acc
    (some snap, Function.update cache pollId
      (Function.update (cache pollId) optionIndex (some snap)))

/-- One round of the loop of `getCiphertexts`. -/
def ciphertextRound (getAccumulated : ℕ → Option AccumulatedCiphertext) (now : ℕ)
    (pollId : Bytes32) (state : List CiphertextSnapshot × Cache) (i : ℕ) :
    List CiphertextSnapshot × Cache :=
  match state.2 pollId i with
  | some cached => (state.1 ++ [cached], state.2)
  | none =>
    let (snap, cache) := refreshCache getAccumulated now pollId state.2 i
    (state.1 ++ snap.toList, cache)

/-- `getCiphertexts`, given the return data of `polls` and the answers of
`getAccumulated`; `none` is a rejected promise. -/
def getCiphertexts (polls : Bytes) (getAccumulated : ℕ → Option AccumulatedCiphertext) (now : ℕ)
    (pollId : Bytes32) (cache : Cache) : Option (List CiphertextSnapshot × Cache) := do
  let pollData ← decodePolls polls
  if !pollData.pollExists then return ([], cache)
  return (List.range (toNumber pollData.optionCount)).foldl
    (ciphertextRound getAccumulated now pollId) ([], cache)

/-- `getTallyResults`, given the return data of `polls` and the answers of
`getResult`. -/
def getTallyResults (polls : Bytes) (getResult : ℕ → ℕ × Bool) (pollId : Bytes32) :
    Option (List TallyResult) := do
  let pollData ← decodePolls polls
  if !pollData.pollExists then return []
  return (List.range (toNumber pollData.optionCount)).map fun i =>
    ⟨pollId, i, toNumber (getResult i).1, (getResult i).2⟩

/-- `_finaliseAll`: what each option's `_finaliseOption` comes to. -/
def finaliseAll (keccak256 : Bytes → Bytes32) (key : Option ℤ) (polls : Bytes) (now : ℕ)
    (pollId : Bytes32) (getResult : ℕ → ℕ × Bool) (getAccumulated : ℕ → AccumulatedCiphertext) :
    Option (List Outcome) := do
  let pollData ← decodePolls polls
  if !pollData.pollExists then return []
  if now < toNumber pollData.closeTime * 1000 then return []
  return (List.range (toNumber pollData.optionCount)).map fun i =>
    finaliseOption keccak256 key pollId i (getResult i) (getAccumulated i)

/-! ## The loops -/

section Loops

variable {getAccumulated : ℕ → Option AccumulatedCiphertext}
  {accumulated : ℕ → AccumulatedCiphertext}
variable {now : ℕ} {pollId : Bytes32} {cache : Cache}

variable (now) in
/-- On a cold cache the loop reads every option from the chain. -/
theorem ciphertextRounds_cold (reads : ∀ i, getAccumulated i = some (accumulated i))
    (cold : ∀ i, cache pollId i = none) (n : ℕ) :
    ((List.range n).foldl (ciphertextRound getAccumulated now pollId) ([], cache)).1 =
        (List.range n).map (fun i => snapshot now pollId i (accumulated i)) ∧
      ∀ i, n ≤ i →
        ((List.range n).foldl (ciphertextRound getAccumulated now pollId) ([], cache)).2 pollId i =
          none := by
  induction n with
  | zero => exact ⟨rfl, fun i _ => cold i⟩
  | succ n ih =>
      obtain ⟨visited, rest⟩ := ih
      rw [List.range_succ, List.foldl_append, List.foldl_cons, List.foldl_nil, List.map_append,
        ← visited]
      simp only [ciphertextRound, rest n le_rfl, refreshCache, reads]
      refine ⟨rfl, fun i later => ?_⟩
      have other : i ≠ n := Nat.ne_of_gt later
      rw [Function.update_self, Function.update_of_ne other]
      exact rest i (Nat.le_of_lt later)

/-- `getCiphertexts` behind a configuration that decodes: one entry per option,
in order, with the accumulator on chain. -/
theorem getCiphertexts_of_decodePolls {polls : Bytes} {pollData : PollData}
    (decoded : decodePolls polls = some pollData) (registered : pollData.pollExists = true)
    (small : pollData.optionCount < 2 ^ 53)
    (reads : ∀ i, getAccumulated i = some (accumulated i)) (cold : ∀ i, cache pollId i = none) :
    (getCiphertexts polls getAccumulated now pollId cache).map Prod.fst =
      some ((List.range pollData.optionCount).map fun i =>
        snapshot now pollId i (accumulated i)) := by
  have visited := (ciphertextRounds_cold now reads cold pollData.optionCount).1
  unfold getCiphertexts
  rw [decoded]
  simp only [Option.bind_eq_bind, Option.bind_some, registered, Bool.not_true, Bool.false_eq_true,
    if_false, toNumber_of_lt small]
  exact congrArg some visited

/-- `getTallyResults` behind a configuration that decodes. -/
theorem getTallyResults_of_decodePolls {polls : Bytes} {pollData : PollData}
    (decoded : decodePolls polls = some pollData) (registered : pollData.pollExists = true)
    (small : pollData.optionCount < 2 ^ 53) (getResult : ℕ → ℕ × Bool) :
    getTallyResults polls getResult pollId =
      some ((List.range pollData.optionCount).map fun i =>
        ⟨pollId, i, toNumber (getResult i).1, (getResult i).2⟩) := by
  unfold getTallyResults
  rw [decoded]
  simp only [Option.bind_eq_bind, Option.bind_some, registered, Bool.not_true, Bool.false_eq_true,
    if_false, toNumber_of_lt small]
  rfl

end Loops

/-! ## The configuration never decodes -/

theorem readWord_eq_none {data : Bytes} {offset : ℕ} (short : data.length < offset + 32) :
    Abi.readWord data offset = none := if_neg (Nat.not_le.mpr short)

/-- The decoder asks for five words. -/
theorem decodePolls_eq_none {data : Bytes} (short : data.length < 160) :
    decodePolls data = none := by
  unfold decodePolls
  have beyond : Abi.readWord data 128 = none := readWord_eq_none short
  rw [beyond]
  cases Abi.readWord data 0 with
  | none => rfl
  | some x =>
      cases Abi.readWord data 32 with
      | none => rfl
      | some y =>
          cases Abi.readWord data 64 with
          | none => rfl
          | some optionCount => cases Abi.readWord data 96 <;> rfl

/-- The getter returns three. -/
theorem pollsGetter_length (s : HomomorphicTally) (pollId : Bytes32) :
    (s.pollsGetter pollId).length = 96 := by
  simp [pollsGetter, Abi.encode, Abi.encodeFrom]

theorem decodePolls_pollsGetter (s : HomomorphicTally) (pollId : Bytes32) :
    decodePolls (s.pollsGetter pollId) = none :=
  decodePolls_eq_none (by rw [pollsGetter_length]; omega)

/-- **The service cannot read a poll.**  In every state of the contract and for
every poll, registered or not, decoding the return data of `polls` fails, and so
`getCiphertexts`, `getTallyResults` and `_finaliseAll` throw. -/
theorem polls_never_decodes (keccak256 : Bytes → Bytes32) (s : HomomorphicTally)
    (pollId : Bytes32) (now : ℕ) (cache : Cache) (key : Option ℤ) :
    decodePolls (s.pollsGetter pollId) = none ∧
      getCiphertexts (s.pollsGetter pollId) (fun i => some (s.getAccumulated pollId i)) now pollId
        cache = none ∧
      getTallyResults (s.pollsGetter pollId) (s.getResult pollId) pollId = none ∧
      finaliseAll keccak256 key (s.pollsGetter pollId) now pollId (s.getResult pollId)
        (s.getAccumulated pollId) = none := by
  have fails := decodePolls_pollsGetter s pollId
  refine ⟨fails, ?_, ?_, ?_⟩
  · rw [getCiphertexts, fails]
    rfl
  · rw [getTallyResults, fails]
    rfl
  · rw [finaliseAll, fails]
    rfl

/-- **The sample poll cannot be read.**  It is registered with two options, and
asking for its results throws. -/
theorem sample_poll_unreadable :
    let s := (machine (booleanVerifier sampleAccepts)).run (initialized 1 0) [sampleRegistration]
    (s.polls samplePollId).pollExists = true ∧ (s.polls samplePollId).optionCount = 2 ∧
      decodePolls (s.pollsGetter samplePollId) ≠
        some ⟨sampleC1, 2, 1000, true⟩ ∧
      getTallyResults (s.pollsGetter samplePollId) (s.getResult samplePollId) samplePollId =
        none := by
  intro s
  have fails := decodePolls_pollsGetter s samplePollId
  refine ⟨by decide, by decide, ?_, ?_⟩
  · rw [fails]
    exact (Option.some_ne_none _).symm
  · rw [getTallyResults, fails]
    rfl

end HomomorphicTallyService

end TheVoteApp
