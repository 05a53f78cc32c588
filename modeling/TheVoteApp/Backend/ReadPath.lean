import TheVoteApp.JavaScript.Builtins
import TheVoteApp.VoteLedger.Bookkeeping
import TheVoteApp.VoteLedger.Logs

/-!
# The read path: from the event log to a published tally

`TallyService.getTally` and the command `audit-policy` both rebuild a policy's
tally from the ledger's log.  They select `VoteCast` entries by a signature and
a policy hash of their own and count the option names in the entries' data.

The contract declares its events differently: another argument list for
`VoteCast`, another name for the finalisation event.  The first topics therefore
never match and the readers see an empty log, whatever was voted.  They agree
with the contract exactly on the polls that have no votes and are not finalised
(`read_path_agrees_iff`).
-/

namespace TheVoteApp

open Solidity VoteLedger

/-- The arguments of a decoded `VoteCast` entry, under the names of the readers'
declaration. -/
structure VoteCastArgs where
  policyIdHash : Bytes32
  nullifier : Bytes32
  optionId : String
  blockNumber : ℕ
deriving DecidableEq

/-- Decode an entry with the readers' declaration of `VoteCast`; `none` when the
arguments cannot be read, which makes the readers throw. -/
def decodeVoteCast (entry : Log) : Option VoteCastArgs :=
  match entry.topics with
  | _ :: policyIdHash :: nullifier :: _ => do
      let offset ← Abi.readWord entry.data 0
      let blockNumber ← Abi.readWord entry.data 32
      let text ← Abi.readDynamic entry.data offset
      let optionId ← fromUtf8Bytes text
      return { policyIdHash, nullifier, optionId, blockNumber }
  | _ => none

/-- `queryFilter(filters.VoteCast(policyIdHash))` with every argument read. -/
def voteCastEvents (keccak256 : Bytes → Bytes32) (entries : List Log) (policyId : String) :
    Option (List VoteCastArgs) :=
  (queryFilter entries [signatureTopic keccak256 "VoteCast(bytes32,bytes32,string,uint256)",
    keccak256 (toUtf8Bytes policyId)]).mapM decodeVoteCast

namespace TallyService

/-- The counters an option can be mapped to. -/
inductive Field where
  | support
  | oppose
  | abstain
deriving DecidableEq

/-- `PolicyTally`, in the order of its members. -/
structure PolicyTally where
  policyId : String
  support : ℕ
  oppose : ℕ
  abstain : ℕ
  total : ℕ
  lastBlock : ℕ
  finalized : Bool
deriving DecidableEq

/-- `OPTION_MAP`. -/
def optionTable : List (String × Field) :=
  [("option-support", .support), ("option-oppose", .oppose), ("option-abstain", .abstain)]

/-- The counter of an option.  Any other option changes none of the three. -/
def optionMap (optionId : String) : Option Field := optionTable.lookup optionId

/-- The tally `getTally` starts from. -/
def PolicyTally.empty (policyId : String) : PolicyTally where
  policyId := policyId
  support := 0
  oppose := 0
  abstain := 0
  total := 0
  lastBlock := 0
  finalized := false

/-- `tally[field]++`, when the option has a field. -/
def PolicyTally.bump (tally : PolicyTally) : Option Field → PolicyTally
  | some .support => { tally with support := tally.support + 1 }
  | some .oppose => { tally with oppose := tally.oppose + 1 }
  | some .abstain => { tally with abstain := tally.abstain + 1 }
  | none => tally

/-- One round of the loop over the events: the tally and the nullifiers seen. -/
def countEvent (acc : PolicyTally × List Bytes32) (event : VoteCastArgs) :
    PolicyTally × List Bytes32 :=
  if event.nullifier ∈ acc.2 then acc
  else
    let tally := acc.1.bump (optionMap event.optionId)
    ({ tally with
        total := tally.total + 1
        lastBlock := max tally.lastBlock event.blockNumber },
      event.nullifier :: acc.2)

/-- `getTally` on a cold cache; `none` is the exception of an unreadable entry.
`Number` is exact on the block numbers, which are below 2^53: the client refuses a
larger one in a log. -/
def getTally (keccak256 : Bytes → Bytes32) (entries : List Log) (policyId : String) :
    Option PolicyTally := do
  let events ← voteCastEvents keccak256 entries policyId
  let tally := (events.foldl countEvent (.empty policyId, [])).1
  let finalEvents := queryFilter entries
    [signatureTopic keccak256 "PolicyFinalized(bytes32)", keccak256 (toUtf8Bytes policyId)]
  return { tally with finalized := decide (0 < finalEvents.length) }

end TallyService

namespace Cli

/-- What `audit-policy` prints: the number of events and a count per option. -/
structure AuditReport where
  totalVotes : ℕ
  tally : String → ℕ

/-- One round of the loop over the events: the counts and the nullifiers seen.
`audit-policy` keeps its counts in a plain object, where the entry of an inherited
name is not a number. -/
def countEvent (acc : (String → ℕ) × List Bytes32) (event : VoteCastArgs) :
    (String → ℕ) × List Bytes32 :=
  if event.nullifier ∈ acc.2 then acc
  else if event.optionId ∈ JavaScript.inheritedNames then (acc.1, event.nullifier :: acc.2)
  else
    (Function.update acc.1 event.optionId (acc.1 event.optionId + 1), event.nullifier :: acc.2)

/-- `audit-policy`.  The total is the number of events, repeated nullifiers
included. -/
def auditPolicy (keccak256 : Bytes → Bytes32) (entries : List Log) (policyId : String) :
    Option AuditReport := do
  let events ← voteCastEvents keccak256 entries policyId
  return { totalVotes := events.length
           tally := (events.foldl countEvent (fun _ => 0, [])).1 }

end Cli

namespace ReadPath

/-- Both readers succeed on the log and report what the contract's storage holds
for the poll `createPoll` stored the policy under. -/
def Agrees (keccak256 : Bytes → Bytes32) (s : VoteLedger) (entries : List Log) (policyId : String)
    (countryCode : Bytes2) : Prop :=
  let pollId := pollIdOf keccak256 (toUtf8Bytes policyId) countryCode
  ∃ tally report, TallyService.getTally keccak256 entries policyId = some tally ∧
    Cli.auditPolicy keccak256 entries policyId = some report ∧
    tally.total = (s.getPollMeta pollId).totalVotes ∧
    tally.support = s.getTally pollId (keccak256 (toUtf8Bytes "option-support")) ∧
    tally.oppose = s.getTally pollId (keccak256 (toUtf8Bytes "option-oppose")) ∧
    tally.abstain = s.getTally pollId (keccak256 (toUtf8Bytes "option-abstain")) ∧
    tally.finalized = (s.getPollMeta pollId).finalised ∧
    report.totalVotes = tally.total ∧
    report.tally "option-support" = tally.support ∧
    report.tally "option-oppose" = tally.oppose ∧
    report.tally "option-abstain" = tally.abstain

section Readers

variable {keccak256 : Bytes → Bytes32}

/-- On anything the contract emits, `getTally` returns the tally it starts from. -/
theorem getTally_map_toLog (free : CollisionFreeOn keccak256 hashedSignatures)
    (events : List Event) (policyId : String) :
    TallyService.getTally keccak256 (events.map (Event.toLog keccak256)) policyId =
      some (.empty policyId) := by
  have votes := queryFilter_map_toLog free "VoteCast(bytes32,bytes32,string,uint256)"
    (by simp [readerSignatures]) events [keccak256 (toUtf8Bytes policyId)]
  have finals := queryFilter_map_toLog free "PolicyFinalized(bytes32)"
    (by simp [readerSignatures]) events [keccak256 (toUtf8Bytes policyId)]
  simp [TallyService.getTally, voteCastEvents, votes, finals, TallyService.PolicyTally.empty]

/-- On anything the contract emits, `audit-policy` reports no votes. -/
theorem auditPolicy_map_toLog (free : CollisionFreeOn keccak256 hashedSignatures)
    (events : List Event) (policyId : String) :
    Cli.auditPolicy keccak256 (events.map (Event.toLog keccak256)) policyId =
      some ⟨0, fun _ => 0⟩ := by
  have votes := queryFilter_map_toLog free "VoteCast(bytes32,bytes32,string,uint256)"
    (by simp [readerSignatures]) events [keccak256 (toUtf8Bytes policyId)]
  simp [Cli.auditPolicy, voteCastEvents, votes]

end Readers

/-! ## Agreement with the storage -/

section Runs

variable (keccak256 : Bytes → Bytes32) (verifyProof : Address → ZKProofData → Option Bool)
variable (owner registry verifier : Address)

/-- **The readers see nothing.**  After every run the readers agree with the
storage about a poll exactly when it has no votes and is not finalised. -/
theorem read_path_agrees_iff (free : CollisionFreeOn keccak256 hashedSignatures) (txs : List Tx)
    (policyId : String) (countryCode : Bytes2) :
    let s := (machine keccak256 verifyProof).run (initialized owner registry verifier) txs
    let pollId := pollIdOf keccak256 (toUtf8Bytes policyId) countryCode
    Agrees keccak256 s
        (logs keccak256 verifyProof (initialized owner registry verifier) txs) policyId
        countryCode ↔
      (s.getPollMeta pollId).totalVotes = 0 ∧ (s.getPollMeta pollId).finalised = false := by
  intro s pollId
  have held := run_records keccak256 verifyProof owner registry verifier txs
  have read := getTally_map_toLog free
    ((machine keccak256 verifyProof).events (initialized owner registry verifier) txs) policyId
  have audited := auditPolicy_map_toLog free
    ((machine keccak256 verifyProof).events (initialized owner registry verifier) txs) policyId
  constructor
  · rintro ⟨tally, report, reads, -, total, -, -, -, finalized, -⟩
    obtain rfl : TallyService.PolicyTally.empty policyId = tally :=
      Option.some.inj (read.symm.trans reads)
    exact ⟨total.symm, finalized.symm⟩
  · rintro ⟨noVotes, notFinalised⟩
    -- the option counters of a poll are at most its total
    have noTally : ∀ o, s.getTally pollId o = 0 := by
      intro o
      have bound := votesFor_le_votesIn (ballots ((machine keccak256 verifyProof).events
        (initialized owner registry verifier) txs)) pollId o
      rw [← held.tally, ← held.total] at bound
      exact Nat.le_zero.mp (bound.trans noVotes.le)
    refine ⟨_, _, read, audited, noVotes.symm, ?_, ?_, ?_, notFinalised.symm, rfl, rfl, rfl, rfl⟩
    · exact (noTally _).symm
    · exact (noTally _).symm
    · exact (noTally _).symm

end Runs

/-- The sample digests keep the signatures apart. -/
theorem sampleKeccak256_collisionFree_signatures :
    CollisionFreeOn sampleKeccak256 hashedSignatures := by
  have apart : ∀ a ∈ ledgerSignatures ++ readerSignatures,
      ∀ b ∈ ledgerSignatures ++ readerSignatures,
      signatureTopic sampleKeccak256 a = signatureTopic sampleKeccak256 b →
        toUtf8Bytes a = toUtf8Bytes b := by decide
  rintro _ ⟨a, memA, rfl⟩ _ ⟨b, memB, rfl⟩ collision
  exact apart a memA b memB collision

theorem read_path_agrees_iff_sample :
    Agrees sampleKeccak256
      ((machine sampleKeccak256 sampleVerifyProof).run (initialized 1 3 4) [sampleOpening])
      (logs sampleKeccak256 sampleVerifyProof (initialized 1 3 4) [sampleOpening])
      "healthcare-reform-2026" gb :=
  (read_path_agrees_iff sampleKeccak256 sampleVerifyProof 1 3 4
    sampleKeccak256_collisionFree_signatures [sampleOpening] "healthcare-reform-2026" gb).mpr
    ⟨by decide, by decide⟩

/-- **A silent zero.**  The sample poll holds one vote in support and is
finalised; the readers report no votes and no finalisation. -/
theorem silent_zero_tally :
    let txs := [sampleOpening, sampleVote (sampleKeccak256 (toUtf8Bytes "option-support")) 8,
      ⟨⟨1, 2000, 4⟩, .finalisePoll samplePollId⟩]
    let s := (machine sampleKeccak256 sampleVerifyProof).run (initialized 1 3 4) txs
    let entries := logs sampleKeccak256 sampleVerifyProof (initialized 1 3 4) txs
    CollisionFreeOn sampleKeccak256 hashedSignatures ∧
      (s.getPollMeta samplePollId).totalVotes = 1 ∧
      (s.getPollMeta samplePollId).finalised = true ∧
      s.getTally samplePollId (sampleKeccak256 (toUtf8Bytes "option-support")) = 1 ∧
      TallyService.getTally sampleKeccak256 entries "healthcare-reform-2026" =
        some ⟨"healthcare-reform-2026", 0, 0, 0, 0, 0, false⟩ ∧
      (Cli.auditPolicy sampleKeccak256 entries "healthcare-reform-2026").map
        Cli.AuditReport.totalVotes = some 0 ∧
      ¬ Agrees sampleKeccak256 s entries "healthcare-reform-2026" gb := by
  intro txs s entries
  have votes : (s.getPollMeta samplePollId).totalVotes = 1 := by decide
  have read := getTally_map_toLog sampleKeccak256_collisionFree_signatures
    ((machine sampleKeccak256 sampleVerifyProof).events (initialized 1 3 4) txs)
    "healthcare-reform-2026"
  have audited := auditPolicy_map_toLog sampleKeccak256_collisionFree_signatures
    ((machine sampleKeccak256 sampleVerifyProof).events (initialized 1 3 4) txs)
    "healthcare-reform-2026"
  refine ⟨sampleKeccak256_collisionFree_signatures, votes, by decide, by decide,
    read, congrArg (Option.map Cli.AuditReport.totalVotes) audited, ?_⟩
  rintro ⟨tally, report, reads, -, total, -⟩
  obtain rfl : TallyService.PolicyTally.empty "healthcare-reform-2026" = tally :=
    Option.some.inj (read.symm.trans reads)
  exact absurd (total.trans votes) (by decide)

end ReadPath

end TheVoteApp
