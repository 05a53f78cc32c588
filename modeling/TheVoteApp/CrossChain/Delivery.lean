import TheVoteApp.CrossChain.Contracts

/-!
# Votes in flight

Any number of casters on other chains, the messages they have sent, and the
ledger: `machine` takes votes on the casters, delivers messages to the relay in
any order, and takes the ledger's own transactions.  A message is delivered once,
whatever the relay makes of it.

A delivered message is `Eligible` when it comes from the registered peer and its
vote could be counted: the poll is open and the nullifier unspent on the ledger.
No eligible vote is ever counted, for the function the relay calls is missing
from the ledger; and since the ledger's storage only moves by its own
transactions, no nullifier is recorded twice.

## Main definitions

* `CrossChain`, `machine` — the chains, their messages and the transactions
* `Eligible`, `Recorded` — a vote that could be counted, and one that was

## Main results

* `ledger_isComponent` — the ledger, alone, has the same runs
* `sent_run` — what is in flight is a vote whose nullifier is spent at its caster
* `delivered_votes_recorded_iff` — votes are counted only while none is eligible
-/

namespace TheVoteApp

open Solidity Foundations VoteLedger

/-- The ledger, the casters by chain and address, and the messages in flight. -/
structure CrossChain where
  ledger : VoteLedger
  casters : ℕ × Bytes32 → L2VoteCaster
  inFlight : List CrossChainVoteRelay.Packet

namespace CrossChain

open CrossChainVoteRelay (Packet)

/-- A vote on a second layer, the delivery of a message, or a transaction of the ledger. -/
inductive Action where
  | castVote (origin : ℕ × Bytes32) (value : ℕ) (endpoint : L2VoteCaster.Endpoint)
      (args : VoteArgs)
  | deliver (env : Env) (packet : Packet)
  | ledger (tx : Tx)

/-- An event of one of the three contracts. -/
inductive Event where
  | caster (event : L2VoteCaster.Event)
  | relay (event : CrossChainVoteRelay.Event)
  | ledger (event : VoteLedger.Event)
deriving DecidableEq

/-- What an action reverts with. -/
inductive Error where
  | caster (error : L2VoteCaster.Error)
  | ledger (error : VoteLedger.Error)
  | notInFlight
deriving DecidableEq

/-- The ledger's transaction an action is. -/
def Action.ledger? : Action → Option Tx
  | .ledger tx => some tx
  | _ => none

/-- The ledger's event an event is. -/
def Event.ledger? : Event → Option VoteLedger.Event
  | .ledger event => some event
  | _ => none

section System

variable (keccak256 : Bytes → Bytes32) (verifyProof : Address → ZKProofData → Option Bool)
variable (l2VerifyProof : ℕ → Address → ZKProofData → Option Bool) (run : Functions)
variable (relay : CrossChainVoteRelay)

/-- The delivery of a message. -/
def deliver (s : CrossChain) (env : Env) (packet : Packet) : CrossChain × List Event :=
  let s := { s with inFlight := s.inFlight.erase packet }
  match relay.lzReceive keccak256 run s.ledger env packet with
  | .ok (ledger, new, received) =>
      ({ s with ledger := ledger }, new.map .ledger ++ [.relay received])
  | .error _ => (s, [])

/-- The chains, as one machine. -/
def machine : Machine CrossChain Action Event Error where
  call s action :=
    match action with
    | .castVote origin value endpoint args =>
        match (s.casters origin).castVote (l2VerifyProof origin.1) value endpoint args with
        | .error e => .error (.caster e)
        | .ok (caster, message, new) =>
            .ok ({ s with
                casters := Function.update s.casters origin caster
                inFlight := s.inFlight ++ [⟨origin.1, origin.2, message⟩] },
              new.map .caster)
    | .deliver env packet =>
        if packet ∈ s.inFlight then .ok (deliver keccak256 run relay s env packet)
        else .error .notInFlight
    | .ledger tx =>
        match (VoteLedger.machine keccak256 verifyProof).call s.ledger tx with
        | .error e => .error (.ledger e)
        | .ok (ledger, new) => .ok ({ s with ledger := ledger }, new.map .ledger)

/-- The casters as deployed, whatever they hold, and a new ledger. -/
def initialized (owner registry verifier : Address) (casters : ℕ × Bytes32 → L2VoteCaster) :
    CrossChain where
  ledger := VoteLedger.initialized owner registry verifier
  casters := casters
  inFlight := []

/-- The message in flight is the peer's, and the ledger could count its vote. -/
structure Eligible (s : CrossChain) (env : Env) (packet : Packet) (ballot : Ballot) : Prop where
  inFlight : packet ∈ s.inFlight
  registered : relay.peers packet.srcEid = packet.sender
  nonzero : packet.sender ≠ 0
  decoded : decodeMessage packet.message = some ballot
  created : (s.ledger.polls ballot.pollId).deadline ≠ 0
  beforeDeadline : env.timestamp ≤ (s.ledger.polls ballot.pollId).deadline
  notFinalised : (s.ledger.polls ballot.pollId).finalised = false
  unspent : s.ledger.isNullifierSpent ballot.nullifier = false

/-- From `s` to `s'` the vote was counted. -/
structure Recorded (s s' : CrossChain) (ballot : Ballot) : Prop where
  spent : s'.ledger.isNullifierSpent ballot.nullifier = true
  tally : s'.ledger.getTally ballot.pollId ballot.optionHash =
    s.ledger.getTally ballot.pollId ballot.optionHash + 1

/-- If the action delivers an eligible vote, it records it. -/
def RecordsDelivered (s : CrossChain) (action : Action) : Prop :=
  ∀ env packet ballot, action = .deliver env packet → Eligible relay s env packet ballot →
    Recorded s ((machine keccak256 verifyProof l2VerifyProof run relay).next s action) ballot

/-- The action delivers an eligible vote. -/
def DeliversEligible (s : CrossChain) (action : Action) : Prop :=
  ∃ env packet ballot, action = .deliver env packet ∧ Eligible relay s env packet ballot

/-- The nullifiers the ledger records, in the order of its events. -/
def recordedNullifiers (events : List Event) : List Bytes32 :=
  (ballots (events.filterMap Event.ledger?)).map Ballot.nullifier

end System

section Results

variable {keccak256 : Bytes → Bytes32} {verifyProof : Address → ZKProofData → Option Bool}
variable {l2VerifyProof : ℕ → Address → ZKProofData → Option Bool} {run : Functions}
variable {relay : CrossChainVoteRelay} {s : CrossChain}

/-! ## Deliveries -/

/-- A delivery only uses up its message. -/
theorem deliver_eq (absent : CrossChainVoteRelay.Unanswered keccak256) (env : Env)
    (packet : Packet) : deliver keccak256 run relay s env packet =
      ({ s with inFlight := s.inFlight.erase packet }, []) := by
  obtain ⟨e, reverts⟩ := CrossChainVoteRelay.lzReceive_reverts absent run relay s.ledger env packet
  simp only [deliver, reverts]

theorem next_deliver (absent : CrossChainVoteRelay.Unanswered keccak256) (env : Env)
    (packet : Packet) :
    (machine keccak256 verifyProof l2VerifyProof run relay).next s (.deliver env packet) =
      { s with inFlight := s.inFlight.erase packet } := by
  by_cases mem : packet ∈ s.inFlight
  · simp [Machine.next, machine, mem, deliver_eq absent]
  · simp [Machine.next, machine, mem, List.erase_of_not_mem mem]

/-- **The ledger alone.**  Its storage and its events are those of its own
transactions. -/
theorem ledger_isComponent (absent : CrossChainVoteRelay.Unanswered keccak256) :
    (machine keccak256 verifyProof l2VerifyProof run relay).IsComponent
      (VoteLedger.machine keccak256 verifyProof) CrossChain.ledger Action.ledger?
      Event.ledger? where
  next s action := by
    cases action with
    | castVote origin value endpoint args =>
        simp only [Machine.next, machine, Action.ledger?, Option.elim]
        cases (s.casters origin).castVote (l2VerifyProof origin.1) value endpoint args <;> rfl
    | deliver env packet => rw [next_deliver absent]; rfl
    | ledger tx =>
        simp only [Machine.next, machine, Action.ledger?, Option.elim]
        cases (VoteLedger.machine keccak256 verifyProof).call s.ledger tx <;> rfl
  emitted s action := by
    cases action with
    | castVote origin value endpoint args =>
        simp only [Machine.emitted, machine, Action.ledger?, Option.elim]
        cases (s.casters origin).castVote (l2VerifyProof origin.1) value endpoint args with
        | error e => rfl
        | ok r => simp [List.filterMap_map, Function.comp_def, Event.ledger?]
    | deliver env packet =>
        by_cases mem : packet ∈ s.inFlight
        · simp [Machine.emitted, machine, mem, deliver_eq absent, Action.ledger?]
        · simp [Machine.emitted, machine, mem, Action.ledger?]
    | ledger tx =>
        simp only [Machine.emitted, machine, Action.ledger?, Option.elim]
        cases (VoteLedger.machine keccak256 verifyProof).call s.ledger tx with
        | error e => rfl
        | ok r => simp [List.filterMap_map, Function.comp_def, Event.ledger?]

/-- An eligible vote is not recorded. -/
theorem not_recorded (absent : CrossChainVoteRelay.Unanswered keccak256) {env : Env}
    {packet : Packet} {ballot : Ballot} (eligible : Eligible relay s env packet ballot) :
    ¬ Recorded s ((machine keccak256 verifyProof l2VerifyProof run relay).next s
      (.deliver env packet)) ballot := by
  intro recorded
  have spent := recorded.spent
  rw [next_deliver absent] at spent
  rw [eligible.unspent] at spent
  cases spent

/-! ## What is in flight -/

/-- The messages in flight are distinct votes, each spent at the caster it is from. -/
structure Sent (s : CrossChain) : Prop where
  encoded : ∀ packet ∈ s.inFlight, ∃ ballot, packet.message = encodeMessage ballot ∧
    (s.casters (packet.srcEid, packet.sender)).l2Nullifiers ballot.nullifier = true
  nodup : s.inFlight.Nodup

/-- A vote the caster takes adds a message that was not in flight. -/
theorem Sent.castVote (held : Sent s) {origin : ℕ × Bytes32} {nullifier : Bytes32}
    (unspent : (s.casters origin).l2Nullifiers nullifier = false) (pollId optionHash : Bytes32) :
    Sent { s with
      casters := Function.update s.casters origin { s.casters origin with
        l2Nullifiers := Function.update (s.casters origin).l2Nullifiers nullifier true }
      inFlight := s.inFlight ++
        [⟨origin.1, origin.2, encodeMessage ⟨pollId, nullifier, optionHash⟩⟩] } where
  encoded packet mem := by
    rcases List.mem_append.mp mem with earlier | last
    · obtain ⟨ballot, message, spent⟩ := held.encoded packet earlier
      refine ⟨ballot, message, ?_⟩
      by_cases same : (packet.srcEid, packet.sender) = origin
      · -- the caster that took the vote keeps its spent nullifiers
        rw [← same]
        by_cases again : ballot.nullifier = nullifier
        · simp only [again, Function.update_self]
        · simpa only [Function.update_self, Function.update_of_ne again] using spent
      · simpa only [Function.update_of_ne same] using spent
    · obtain rfl := List.mem_singleton.mp last
      exact ⟨⟨pollId, nullifier, optionHash⟩, rfl, by simp only [Function.update_self]⟩
  nodup := by
    refine List.nodup_append.mpr ⟨held.nodup, List.nodup_singleton _, ?_⟩
    rintro packet mem _ last rfl
    obtain rfl := List.mem_singleton.mp last
    obtain ⟨ballot, message, spent⟩ := held.encoded _ mem
    have same : some (⟨pollId, nullifier, optionHash⟩ : Ballot) = some ballot := by
      rw [← decodeMessage_encodeMessage, ← decodeMessage_encodeMessage ballot]
      exact congrArg decodeMessage message
    obtain rfl := Option.some.inj same
    rw [unspent] at spent
    cases spent

theorem Sent.deliver (held : Sent s) (packet : Packet) :
    Sent { s with inFlight := s.inFlight.erase packet } where
  encoded other mem := held.encoded other (List.mem_of_mem_erase mem)
  nodup := held.nodup.erase packet

/-- **What is in flight** is an encoded vote, and its nullifier is spent at its
caster. -/
theorem sent_run (absent : CrossChainVoteRelay.Unanswered keccak256)
    (owner registry verifier : Address) (casters : ℕ × Bytes32 → L2VoteCaster)
    (actions : List Action) :
    Sent ((machine keccak256 verifyProof l2VerifyProof run relay).run
      (initialized owner registry verifier casters) actions) := by
  refine Machine.run_invariant ⟨by simp [initialized], List.nodup_nil⟩ ?_ actions
  intro s action s' new held outcome
  cases action with
  | castVote origin value endpoint args =>
      simp only [machine] at outcome
      split at outcome
      · cases outcome
      · rename_i caster message emitted success
        obtain ⟨unspent, -, marked, written⟩ := L2VoteCaster.castVote_ok success
        obtain ⟨rfl, -⟩ := Prod.mk.inj (Except.ok.inj outcome)
        rw [marked, written]
        exact held.castVote unspent _ _
  | deliver env packet =>
      obtain rfl : { s with inFlight := s.inFlight.erase packet } = s' :=
        (next_deliver absent env packet).symm.trans (Machine.next_of_ok outcome)
      exact held.deliver packet
  | ledger tx =>
      simp only [machine] at outcome
      split at outcome
      · cases outcome
      · obtain ⟨rfl, -⟩ := Prod.mk.inj (Except.ok.inj outcome)
        exact ⟨held.encoded, held.nodup⟩

/-- **A delivered vote is lost.**  The ledger is as it was, the message is gone, and
its caster takes no second vote with the nullifier. -/
theorem delivered_vote_lost (absent : CrossChainVoteRelay.Unanswered keccak256)
    (sent : Sent s) {env : Env} {packet : Packet} {ballot : Ballot}
    (eligible : Eligible relay s env packet ballot) :
    let s' := (machine keccak256 verifyProof l2VerifyProof run relay).next s (.deliver env packet)
    s'.ledger = s.ledger ∧ packet ∉ s'.inFlight ∧
      ∀ value endpoint args, args.nullifier = ballot.nullifier →
        (s'.casters (packet.srcEid, packet.sender)).castVote (l2VerifyProof packet.srcEid) value
          endpoint args = .error .nullifierSpentL2 := by
  obtain ⟨encoded, message, spent⟩ := sent.encoded packet eligible.inFlight
  have same : some encoded = some ballot := by
    rw [← decodeMessage_encodeMessage, ← message]
    exact eligible.decoded
  obtain rfl := Option.some.inj same
  rw [next_deliver absent]
  refine ⟨rfl, sent.nodup.not_mem_erase, ?_⟩
  intro value endpoint args nullifier
  simp only [L2VoteCaster.castVote, nullifier, spent, if_true]

/-! ## The runs -/

/-- A step records what it delivers exactly when it delivers nothing eligible. -/
theorem recordsDelivered_iff (absent : CrossChainVoteRelay.Unanswered keccak256)
    (s : CrossChain) (action : Action) :
    RecordsDelivered keccak256 verifyProof l2VerifyProof run relay s action ↔
      ¬ DeliversEligible relay s action := by
  constructor
  · rintro records ⟨env, packet, ballot, rfl, eligible⟩
    exact not_recorded absent eligible (records env packet ballot rfl eligible)
  · intro none env packet ballot delivers eligible
    exact (none ⟨env, packet, ballot, delivers, eligible⟩).elim

/-- **Delivered votes are recorded only while none is eligible.**  No run records a
nullifier twice, whatever the casters send and in whatever order it arrives; and a
run records every eligible vote it delivers if and only if it delivers none. -/
theorem delivered_votes_recorded_iff (absent : CrossChainVoteRelay.Unanswered keccak256)
    (owner registry verifier : Address) (casters : ℕ × Bytes32 → L2VoteCaster)
    (actions : List Action) :
    (recordedNullifiers ((machine keccak256 verifyProof l2VerifyProof run relay).events
        (initialized owner registry verifier casters) actions)).Nodup ∧
      ((machine keccak256 verifyProof l2VerifyProof run relay).Along
          (RecordsDelivered keccak256 verifyProof l2VerifyProof run relay)
          (initialized owner registry verifier casters) actions ↔
        (machine keccak256 verifyProof l2VerifyProof run relay).Along
          (fun s action => ¬ DeliversEligible relay s action)
          (initialized owner registry verifier casters) actions) := by
  constructor
  · have held := run_records keccak256 verifyProof owner registry verifier
      (actions.filterMap Action.ledger?)
    rw [recordedNullifiers, (ledger_isComponent absent).events]
    exact held.order ▸ held.nodup
  · have same : RecordsDelivered keccak256 verifyProof l2VerifyProof run relay =
        fun s action => ¬ DeliversEligible relay s action := by
      funext s action
      exact propext (recordsDelivered_iff absent s action)
    rw [same]

end Results

/-! ## A vote from another chain -/

/-- The digests of the signatures of the ledger's functions and of the relay's call. -/
def functionDigests : List (Bytes × Bytes32) :=
  [(toUtf8Bytes "initialize(address,address,address)",
      0xc0c53b8b4a924c5886a7e134ca95780796bd5d620e625c88ec9717492727371e),
    (toUtf8Bytes "createPoll(string,bytes2,uint64)",
      0xb8076afedb4d586c82017a920e772cff013484d7ce07d0e6a65c0a39a884c6d4),
    (toUtf8Bytes
        "castVote(bytes32,bytes32,bytes32,(uint256[2],uint256[2][2],uint256[2],uint256[]))",
      0x4320b15b6477b50ddcbe9c1bf0bbed7d7ce4843dc76f218562a49675def020ca),
    (toUtf8Bytes "finalisePoll(bytes32)",
      0x56a999f174151c722043ecd6a132705acfd1611718ff107c369e691bae09da74),
    (toUtf8Bytes "getTally(bytes32,bytes32)",
      0xe0f56e520262e18c6ca08a5aa144537b29e3aa0b6e597102370829267ed9f862),
    (toUtf8Bytes "getPollMeta(bytes32)",
      0x59d69f6e10a794a2d80bdf829289929b46c97aa7a20accad782b2223782a5a99),
    (toUtf8Bytes "isNullifierSpent(bytes32)",
      0xd5a4e3252c2189dcd0bfcb142ceaba6a3d4df48c6f3ff6aca23f204ecae93209),
    (toUtf8Bytes "pause()", 0x8456cb591a934d53f6ccc6332123a165a1f3562907bf11330d847a29ca49eb89),
    (toUtf8Bytes "unpause()", 0x3f4ba83af89dc9793996d9e56b8abe6dc88cd97c9c2bb23027806e9c1ffd54dc),
    (toUtf8Bytes "voterRegistry()",
      0xbe60040ef9e7f503d70f452cba6e77d6c8580a1f770efc256dde2530a3589f9d),
    (toUtf8Bytes "zkVerifier()",
      0xd6df096da27fa4421100749d171ebcbb84b9defb95c3ba8404fd4a10cb12bba2),
    (toUtf8Bytes "nullifierList(uint256)",
      0x2da500d8f0db11bc09d8abf2cd74085f3239a42789d609c1921fb40f3bfb72c3),
    (toUtf8Bytes "owner()", 0x8da5cb5b36e7f68c1d2e56001220cdbdd3ba2616072f718acfda4a06441a807d),
    (toUtf8Bytes "transferOwnership(address)",
      0xf2fde38b092330466c661fc723d5289b90272a3e580e3187d1d7ef788506c557),
    (toUtf8Bytes "renounceOwnership()",
      0x715018a616b5f2044428f6fadb7deef4ce9ca76ef60ea57978964ad137bbe7ae),
    (toUtf8Bytes "paused()", 0x5c975abbf8c4d6efa68fc896e233763eb503f2318260b7bf59b19412913788b2),
    (toUtf8Bytes "UPGRADE_INTERFACE_VERSION()",
      0xad3cb1cc5c2df3b903ea43f30f77a80ecfeefbed7932a4a8e68c92af99e41dfd),
    (toUtf8Bytes "proxiableUUID()",
      0x52d1902ddf94a87b87c42e6ab3aff7da3c30beb57dc65dd86cb2543522a55a4c),
    (toUtf8Bytes "upgradeToAndCall(address,bytes)",
      0x4f1ef2866b98625bdfefae89411f7a82754ac4089eff8e78c8832329a538337f),
    (toUtf8Bytes "castVoteRelay(bytes32,bytes32,bytes32,uint32)",
      0x9889fbeba1b676a8d923708b3f4398f7b5c5e30ad3e0c4c04db2545cff245ad4)]

/-- `keccak256` on these signatures and the sample strings. -/
def sampleHash (bs : Bytes) : Bytes32 :=
  (((functionDigests ++ sampleDigests).find? fun entry => decide (entry.1 = bs)).map
    Prod.snd).getD 0

/-- The caster on the second chain. -/
def sampleOrigin : ℕ × Bytes32 := (30111, 0x70997970C51812dc3A010C7d01b50e0d17dc79C8)

/-- A relay at address 10 that knows one caster. -/
def sampleRelay : CrossChainVoteRelay where
  address := 10
  voteLedger := 11
  peers eid := if eid = 30111 then sampleOrigin.2 else 0

/-- The machine of the sample.  No function of the ledger is reached. -/
def sampleMachine : Machine CrossChain Action Event Error :=
  machine sampleHash sampleVerifyProof (fun _ => sampleVerifyProof) (fun _ s _ _ => .ok (s, []))
    sampleRelay

/-- The three contracts before the first vote. -/
def sampleStart : CrossChain := initialized 1 3 4 fun _ => ⟨4, 30101, fun _ => false⟩

/-- A vote for option `5` in the sample poll. -/
def sampleBallot : Ballot := ⟨samplePollId, samplePollId + 7, 5⟩

/-- The message of the sample vote. -/
def samplePacket : Packet := ⟨sampleOrigin.1, sampleOrigin.2, encodeMessage sampleBallot⟩

/-- The poll opens, and the vote is cast on the second chain. -/
def sampleSending : List Action :=
  [.ledger sampleOpening,
    .castVote sampleOrigin 0 ⟨fun _ _ _ => some 0, fun _ _ _ _ => some 1⟩
      ⟨samplePollId, 5, samplePollId + 7, sampleProof⟩]

/-- Its delivery. -/
def sampleDelivery : Action := .deliver ⟨9, 300, 3⟩ samplePacket

theorem unanswered_sample : CrossChainVoteRelay.Unanswered sampleHash := by
  unfold CrossChainVoteRelay.Unanswered
  decide

theorem delivered_votes_recorded_iff_sample :
    (recordedNullifiers (sampleMachine.events sampleStart
      (sampleSending ++ [sampleDelivery]))).Nodup :=
  (delivered_votes_recorded_iff unanswered_sample 1 3 4 _ (sampleSending ++ [sampleDelivery])).1

/-- The delivered vote is eligible, and it is not recorded. -/
theorem delivered_votes_recorded_counterexample :
    Eligible sampleRelay (sampleMachine.run sampleStart sampleSending) ⟨9, 300, 3⟩ samplePacket
        sampleBallot ∧
      ¬ Recorded (sampleMachine.run sampleStart sampleSending)
        (sampleMachine.run sampleStart (sampleSending ++ [sampleDelivery])) sampleBallot := by
  constructor
  · exact ⟨by decide, by decide, by decide,
      decodeMessage_encodeMessage sampleBallot, by decide, by decide,
      by decide, by decide⟩
  · rintro ⟨spent, -⟩
    have unspent : (sampleMachine.run sampleStart
        (sampleSending ++ [sampleDelivery])).ledger.isNullifierSpent sampleBallot.nullifier =
          false := by decide
    rw [unspent] at spent
    cases spent

end CrossChain

end TheVoteApp
