import TheVoteApp.VoteLedger.Bookkeeping

/-!
# Voting from another chain

`L2VoteCaster.sol` takes votes on a second chain and sends each of them, as a
message of three words, to `CrossChainVoteRelay.sol` on the chain of the ledger.
The relay decodes the message and calls the ledger.

A call of a contract is a byte string: the four-byte selector of a function,
then the encoded arguments.  The called contract looks the selector up among its
own functions; the ledger has no fallback function, so a selector it does not
have makes the call revert.

## Main definitions

* `L2VoteCaster.castVote` — checks a vote and hands its message to the endpoint
* `CrossChainVoteRelay.lzReceive` — decodes a message and calls the ledger
* `VoteLedger.receive` — the ledger's dispatcher

## Design notes

The messaging endpoint is outside: `Endpoint` is what it answers a caster in one
transaction, and a run is about all such answers.  So is what a function of the
ledger does with encoded arguments (`run`): it is never reached here.
-/

namespace TheVoteApp

open Solidity

/-- `abi.encode(pollId, optionHash, nullifier)`. -/
def encodeMessage (ballot : VoteLedger.Ballot) : Bytes :=
  Abi.encode [.word ballot.pollId.toNat, .word ballot.optionHash.toNat,
    .word ballot.nullifier.toNat]

/-- `abi.decode(_message, (bytes32, bytes32, bytes32))`, after the check that the
message has 96 bytes. -/
def decodeMessage (message : Bytes) : Option VoteLedger.Ballot :=
  if message.length ≠ 96 then none
  else do
    let pollId ← Abi.readWord message 0
    let optionHash ← Abi.readWord message 32
    let nullifier ← Abi.readWord message 64
    return ⟨BitVec.ofNat 256 pollId, BitVec.ofNat 256 nullifier, BitVec.ofNat 256 optionHash⟩

/-- **The message codec.** -/
theorem decodeMessage_encodeMessage (ballot : VoteLedger.Ballot) :
    decodeMessage (encodeMessage ballot) = some ballot := by
  have words : encodeMessage ballot = bigEndian 32 ballot.pollId.toNat ++
      (bigEndian 32 ballot.optionHash.toNat ++ (bigEndian 32 ballot.nullifier.toNat ++ [])) := by
    simp only [encodeMessage, Abi.encode, Abi.encodeFrom, List.append_nil]
  have length : (encodeMessage ballot).length = 96 := by
    simp [words]
  have first : Abi.readWord (encodeMessage ballot) 0 = some ballot.pollId.toNat := by
    rw [words]
    simpa [Nat.mod_eq_of_lt ballot.pollId.isLt] using
      Abi.readWord_append [] _ ballot.pollId.toNat
  have second : Abi.readWord (encodeMessage ballot) 32 = some ballot.optionHash.toNat := by
    rw [words]
    simpa [Nat.mod_eq_of_lt ballot.optionHash.isLt] using
      Abi.readWord_append (bigEndian 32 ballot.pollId.toNat) _ ballot.optionHash.toNat
  have third : Abi.readWord (encodeMessage ballot) 64 = some ballot.nullifier.toNat := by
    rw [words, ← List.append_assoc]
    simpa [Nat.mod_eq_of_lt ballot.nullifier.isLt] using
      Abi.readWord_append (bigEndian 32 ballot.pollId.toNat ++
        bigEndian 32 ballot.optionHash.toNat) [] ballot.nullifier.toNat
  simp [decodeMessage, length, first, second, third]

/-! ## The caster -/

/-- The storage of `L2VoteCaster.sol`. -/
structure L2VoteCaster where
  zkVerifier : Address
  l1Eid : ℕ
  l2Nullifiers : Bytes32 → Bool

namespace L2VoteCaster

/-- The event of the caster. -/
inductive Event where
  | l2VoteSent (pollId nullifier guid : Bytes32)
deriving DecidableEq

/-- What a call of the caster reverts with. -/
inductive Error where
  | nullifierSpentL2
  | invalidZKProof
  | insufficientFee
  | verifierReverted
  | endpointReverted
deriving DecidableEq

/-- The messaging endpoint, as one transaction finds it; `none` is a revert. -/
structure Endpoint where
  /-- The native fee of a message with its options. -/
  quote : ℕ → Bytes → Bytes → Option ℕ
  /-- The identifier of the message sent, for the value paid. -/
  send : ℕ → Bytes → Bytes → ℕ → Option Bytes32

/-- `abi.encodePacked(uint16(1), uint128(200_000))`. -/
def options : Bytes := bigEndian 2 1 ++ bigEndian 16 200000

/-- `castVote`; `value` is `msg.value`.  The message is part of the result. -/
def castVote (verifyProof : Address → ZKProofData → Option Bool) (s : L2VoteCaster) (value : ℕ)
    (endpoint : Endpoint) (args : VoteLedger.VoteArgs) :
    Except Error (L2VoteCaster × Bytes × List Event) :=
  if s.l2Nullifiers args.nullifier then .error .nullifierSpentL2
  else match verifyProof s.zkVerifier args.proof with
    | none => .error .verifierReverted
    | some false => .error .invalidZKProof
    | some true =>
      let message := encodeMessage ⟨args.pollId, args.nullifier, args.optionHash⟩
      match endpoint.quote s.l1Eid message options with
      | none => .error .endpointReverted
      | some nativeFee =>
        if value < nativeFee then .error .insufficientFee
        else match endpoint.send s.l1Eid message options value with
          | none => .error .endpointReverted
          | some guid =>
            .ok ({ s with l2Nullifiers := Function.update s.l2Nullifiers args.nullifier true },
              message, [.l2VoteSent args.pollId args.nullifier guid])

/-- **What a vote on the second chain leaves.** -/
theorem castVote_ok {verifyProof : Address → ZKProofData → Option Bool} {s s' : L2VoteCaster}
    {value : ℕ} {endpoint : Endpoint} {args : VoteLedger.VoteArgs} {message : Bytes}
    {new : List Event} (success : castVote verifyProof s value endpoint args =
      .ok (s', message, new)) :
    s.l2Nullifiers args.nullifier = false ∧
      verifyProof s.zkVerifier args.proof = some true ∧
      s' = { s with l2Nullifiers := Function.update s.l2Nullifiers args.nullifier true } ∧
      message = encodeMessage ⟨args.pollId, args.nullifier, args.optionHash⟩ := by
  unfold castVote at success
  dsimp only at success
  split at success; · cases success
  rename_i unspent
  split at success
  · cases success
  · cases success
  · rename_i verified
    split at success; · cases success
    split at success; · cases success
    split at success; · cases success
    obtain ⟨rfl, rfl, -⟩ := by simpa only [Except.ok.injEq, Prod.mk.injEq] using success
    exact ⟨by simpa using unspent, verified, rfl, rfl⟩

end L2VoteCaster

/-! ## The ledger's dispatcher -/

/-- The selector of a function: the first four bytes of the hash of its signature. -/
def selector (keccak256 : Bytes → Bytes32) (signature : String) : Bytes :=
  (bigEndian 32 (keccak256 (toUtf8Bytes signature)).toNat).take 4

theorem length_selector (keccak256 : Bytes → Bytes32) (signature : String) :
    (selector keccak256 signature).length = 4 := by
  simp [selector]

namespace VoteLedger

/-- The external and public functions of `VoteLedger.sol`: its own, the getters of
its public variables and those of the contracts it inherits from. -/
def externalFunctions : List String :=
  ["initialize(address,address,address)", "createPoll(string,bytes2,uint64)",
    "castVote(bytes32,bytes32,bytes32,(uint256[2],uint256[2][2],uint256[2],uint256[]))",
    "finalisePoll(bytes32)", "getTally(bytes32,bytes32)", "getPollMeta(bytes32)",
    "isNullifierSpent(bytes32)", "pause()", "unpause()", "voterRegistry()", "zkVerifier()",
    "nullifierList(uint256)", "owner()", "transferOwnership(address)", "renounceOwnership()",
    "paused()", "UPGRADE_INTERFACE_VERSION()", "proxiableUUID()",
    "upgradeToAndCall(address,bytes)"]

/-- What a call of the ledger with raw data reverts with. -/
inductive CallError where
  /-- No function has the selector of the call. -/
  | unknownFunction
  | reverted (error : Error)
deriving DecidableEq

/-- What a function does with its encoded arguments. -/
abbrev Functions := String → VoteLedger → Env → Bytes → Except Error (VoteLedger × List Event)

/-- A call of the ledger with the data `calldata`. -/
def receive (keccak256 : Bytes → Bytes32) (run : Functions) (s : VoteLedger) (env : Env)
    (calldata : Bytes) : Except CallError (VoteLedger × List Event) :=
  match externalFunctions.find? fun f => decide (selector keccak256 f = calldata.take 4) with
  | none => .error .unknownFunction
  | some f => (run f s env (calldata.drop 4)).mapError .reverted

end VoteLedger

/-! ## The relay -/

/-- The storage of `CrossChainVoteRelay.sol`, and its address.  `voteLedger` is the
address of the ledger once it is set. -/
structure CrossChainVoteRelay where
  address : Address
  voteLedger : Address
  peers : ℕ → Bytes32

namespace CrossChainVoteRelay

/-- A message with its origin. -/
structure Packet where
  srcEid : ℕ
  sender : Bytes32
  message : Bytes
deriving DecidableEq

/-- The event of the relay. -/
inductive Event where
  | crossChainVoteReceived (pollId nullifier : Bytes32) (srcEid : ℕ)
deriving DecidableEq

/-- What the delivery of a message reverts with. -/
inductive Error where
  | noPeer (eid : ℕ)
  | onlyPeer (eid : ℕ) (sender : Bytes32)
  | invalidMessageLength
  | voteLedgerNotSet
  | ledgerReverted (error : VoteLedger.CallError)
deriving DecidableEq

/-- The function `IVoteLedgerRelay` declares. -/
def castVoteRelay : String := "castVoteRelay(bytes32,bytes32,bytes32,uint32)"

/-- The data of the relay's call. -/
def calldataOf (keccak256 : Bytes → Bytes32) (ballot : VoteLedger.Ballot) (srcEid : ℕ) : Bytes :=
  selector keccak256 castVoteRelay ++ Abi.encode [.word ballot.pollId.toNat,
    .word ballot.optionHash.toNat, .word ballot.nullifier.toNat, .word srcEid]

/-- `lzReceive`: the check of the peer, and `_lzReceive`.  The ledger is the
contract at `voteLedger`. -/
def lzReceive (keccak256 : Bytes → Bytes32) (run : VoteLedger.Functions)
    (relay : CrossChainVoteRelay) (ledger : VoteLedger) (env : Env) (packet : Packet) :
    Except Error (VoteLedger × List VoteLedger.Event × Event) :=
  if relay.peers packet.srcEid = 0 then .error (.noPeer packet.srcEid)
  else if relay.peers packet.srcEid ≠ packet.sender then
    .error (.onlyPeer packet.srcEid packet.sender)
  else match decodeMessage packet.message with
    | none => .error .invalidMessageLength
    | some ballot =>
      if relay.voteLedger = 0 then .error .voteLedgerNotSet
      else match ledger.receive keccak256 run { env with sender := relay.address }
          (calldataOf keccak256 ballot packet.srcEid) with
        | .error e => .error (.ledgerReverted e)
        | .ok (ledger', new) =>
          .ok (ledger', new, .crossChainVoteReceived ballot.pollId ballot.nullifier packet.srcEid)

/-- The ledger has no function with the selector of the relay's call.  Its
signature is none of theirs; the selectors are compared by four bytes of a hash. -/
def Unanswered (keccak256 : Bytes → Bytes32) : Prop :=
  ∀ f ∈ VoteLedger.externalFunctions, selector keccak256 f ≠ selector keccak256 castVoteRelay

variable {keccak256 : Bytes → Bytes32} {run : VoteLedger.Functions}

/-- **The ledger rejects the relay's call.** -/
theorem receive_calldataOf (absent : Unanswered keccak256) (ledger : VoteLedger) (env : Env)
    (ballot : VoteLedger.Ballot) (srcEid : ℕ) :
    ledger.receive keccak256 run env (calldataOf keccak256 ballot srcEid) =
      .error .unknownFunction := by
  have called : (calldataOf keccak256 ballot srcEid).take 4 = selector keccak256 castVoteRelay := by
    rw [calldataOf, List.take_append_of_le_length (length_selector ..).ge,
      List.take_of_length_le (length_selector ..).le]
  have notFound : (VoteLedger.externalFunctions.find? fun f =>
      decide (selector keccak256 f = (calldataOf keccak256 ballot srcEid).take 4)) = none := by
    refine List.find?_eq_none.mpr fun f mem found => absent f mem ?_
    rw [← called]
    exact of_decide_eq_true found
  rw [VoteLedger.receive, notFound]

/-- A well-formed message of a registered peer is rejected for that reason alone. -/
theorem lzReceive_eq_unknownFunction (absent : Unanswered keccak256)
    {relay : CrossChainVoteRelay} {packet : Packet} {ballot : VoteLedger.Ballot}
    (registered : relay.peers packet.srcEid = packet.sender) (nonzero : packet.sender ≠ 0)
    (decoded : decodeMessage packet.message = some ballot) (wired : relay.voteLedger ≠ 0)
    (ledger : VoteLedger) (env : Env) :
    lzReceive keccak256 run relay ledger env packet =
      .error (.ledgerReverted .unknownFunction) := by
  have peer : relay.peers packet.srcEid ≠ 0 := registered ▸ nonzero
  rw [lzReceive, if_neg peer, if_neg (not_not_intro registered), decoded]
  simp only [if_neg wired, receive_calldataOf absent]

/-- No message gets through. -/
theorem lzReceive_reverts (absent : Unanswered keccak256) (run : VoteLedger.Functions)
    (relay : CrossChainVoteRelay) (ledger : VoteLedger) (env : Env) (packet : Packet) :
    ∃ e, lzReceive keccak256 run relay ledger env packet = .error e := by
  unfold lzReceive
  split
  · exact ⟨_, rfl⟩
  split
  · exact ⟨_, rfl⟩
  split
  · exact ⟨_, rfl⟩
  split
  · exact ⟨_, rfl⟩
  · rw [receive_calldataOf absent]
    exact ⟨_, rfl⟩

end CrossChainVoteRelay

end TheVoteApp
