import TheVoteApp.VoteLedger.Contract

/-!
# The ledger's event log as off-chain readers see it

On the chain an event is a log entry: a list of topics, the hash of the event's
signature first and its indexed arguments after it, and the ABI encoding of the
other arguments.  A reader asks a node for the entries whose topics match a
pattern and decodes them with a signature of its own; nothing compares that
signature with the contract's.

## Main definitions

* `Log`, `Event.toLog` — what the contract emits
* `queryFilter` — the entries a topic pattern selects
* `readerSignatures`, `hashedSignatures` — the signatures the readers use, and
  all those whose hashes the two sides must keep apart
-/

namespace TheVoteApp.VoteLedger

open Solidity Foundations

/-- A log entry of the contract. -/
structure Log where
  topics : List Bytes32
  data : Bytes
deriving DecidableEq

/-- The signature whose hash is an event's first topic. -/
def Event.signature : Event → String
  | .pollCreated .. => "PollCreated(bytes32,bytes2,uint64)"
  | .voteCast .. => "VoteCast(bytes32,bytes32,bytes32)"
  | .pollFinalised .. => "PollFinalised(bytes32,uint256)"
  | .paused .. => "Paused(address)"
  | .unpaused .. => "Unpaused(address)"
  | .ownershipTransferred .. => "OwnershipTransferred(address,address)"

/-- The indexed arguments, each as the word of its topic. -/
def Event.indexed : Event → List Bytes32
  | .pollCreated pollId countryCode _ => [pollId, countryCode.setWidth 256 <<< 240]
  | .voteCast pollId nullifier _ => [pollId, nullifier]
  | .pollFinalised pollId _ => [pollId]
  | .paused _ => []
  | .unpaused _ => []
  | .ownershipTransferred previousOwner newOwner =>
      [previousOwner.setWidth 256, newOwner.setWidth 256]

/-- The other arguments. -/
def Event.unindexed : Event → List Abi.Value
  | .pollCreated _ _ deadline => [.word deadline]
  | .voteCast _ _ optionHash => [.word optionHash.toNat]
  | .pollFinalised _ totalVotes => [.word totalVotes]
  | .paused account => [.word account.toNat]
  | .unpaused account => [.word account.toNat]
  | .ownershipTransferred .. => []

/-- The first topic of the entries an event signature selects. -/
def signatureTopic (keccak256 : Bytes → Bytes32) (signature : String) : Bytes32 :=
  keccak256 (toUtf8Bytes signature)

/-- The log entry an event leaves. -/
def Event.toLog (keccak256 : Bytes → Bytes32) (event : Event) : Log where
  topics := signatureTopic keccak256 event.signature :: event.indexed
  data := Abi.encode event.unindexed

/-- The log of a run, oldest entry first. -/
def logs (keccak256 : Bytes → Bytes32) (verifyProof : Address → ZKProofData → Option Bool)
    (s : VoteLedger) (txs : List Tx) : List Log :=
  ((machine keccak256 verifyProof).events s txs).map (Event.toLog keccak256)

/-- The entries whose leading topics are `topics`. -/
def queryFilter (entries : List Log) (topics : List Bytes32) : List Log :=
  entries.filter fun entry => topics.isPrefixOf entry.topics

/-! ## The two sides' signatures -/

/-- The signatures of the contract's events. -/
def ledgerSignatures : List String :=
  ["PollCreated(bytes32,bytes2,uint64)", "VoteCast(bytes32,bytes32,bytes32)",
    "PollFinalised(bytes32,uint256)", "Paused(address)", "Unpaused(address)",
    "OwnershipTransferred(address,address)"]

/-- The signatures of the two events the off-chain readers declare. -/
def readerSignatures : List String :=
  ["VoteCast(bytes32,bytes32,string,uint256)", "PolicyFinalized(bytes32)"]

/-- The byte strings whose hashes become first topics on either side. -/
def hashedSignatures : Set Bytes :=
  {bs | ∃ signature ∈ ledgerSignatures ++ readerSignatures, toUtf8Bytes signature = bs}

theorem Event.signature_mem (event : Event) : event.signature ∈ ledgerSignatures := by
  cases event <;> simp [signature, ledgerSignatures]

/-- No event of the contract has a signature the readers declare. -/
theorem toUtf8Bytes_ne_of_mem {ours theirs : String} (memOurs : ours ∈ ledgerSignatures)
    (memTheirs : theirs ∈ readerSignatures) : toUtf8Bytes ours ≠ toUtf8Bytes theirs := by
  have apart : ∀ ours ∈ ledgerSignatures, ∀ theirs ∈ readerSignatures,
      toUtf8Bytes ours ≠ toUtf8Bytes theirs := by decide
  exact apart ours memOurs theirs memTheirs

/-- A signature the readers declare selects nothing the contract emits. -/
theorem queryFilter_map_toLog {keccak256 : Bytes → Bytes32}
    (free : CollisionFreeOn keccak256 hashedSignatures) (theirs : String)
    (memTheirs : theirs ∈ readerSignatures) (events : List Event) (rest : List Bytes32) :
    queryFilter (events.map (Event.toLog keccak256)) (signatureTopic keccak256 theirs :: rest) =
      [] := by
  apply List.filter_eq_nil_iff.mpr
  intro entry mem selected
  obtain ⟨event, -, rfl⟩ := List.mem_map.mp mem
  have topic : signatureTopic keccak256 theirs = signatureTopic keccak256 event.signature := by
    simp only [Event.toLog, List.isPrefixOf, Bool.and_eq_true, beq_iff_eq] at selected
    exact selected.1
  have same : toUtf8Bytes theirs = toUtf8Bytes event.signature :=
    free ⟨theirs, List.mem_append_right _ memTheirs, rfl⟩
      ⟨event.signature, List.mem_append_left _ event.signature_mem, rfl⟩ topic
  exact toUtf8Bytes_ne_of_mem event.signature_mem memTheirs same.symm

end TheVoteApp.VoteLedger
