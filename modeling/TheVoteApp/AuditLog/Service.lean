import TheVoteApp.AuditLog.Contract

/-!
# Recording and verifying audit entries

`AuditLogService.ts`.  `record` signs the JSON text of an entry, pins the signed
entry and stores its content identifier on chain; `verify` reads the identifier
back, fetches the entry and checks the signature.

The service declares that `getEntry` returns four values, while the contract
returns one struct of four members.  Read as four values the return data are
shifted by a word: the first is the offset `0x20`, and the actor stands where the
offset of the first string is looked for.

## Main definitions

* `Externals` — JSON, hashing, signing and IPFS
* `Externals.Faithful` — they behave as the round trip of an entry needs
* `record`, `decodeEntry`, `verify` — the service
* `RoundTrip` — an entry is decoded and verified as it was recorded

## Main results

* `verifyWith_eq` — given the stored values, verification succeeds
* `recorded_entry_never_decodes` — the service never gets the stored values
-/

namespace TheVoteApp.AuditLogService

open Solidity Foundations

/-- `AuditEntry`; `J` is the type of JSON objects. -/
structure AuditEntry (J : Type) where
  action : String
  actor : String
  payload : J
  timestamp : String
  signature : Option String
deriving DecidableEq

/-- What the service calls. -/
structure Externals (J : Type) where
  /-- `JSON.stringify(entry, null, 2)` -/
  stringify : AuditEntry J → String
  /-- `JSON.parse` -/
  parse : String → Option (AuditEntry J)
  /-- `ethers.id` -/
  id : String → Bytes32
  /-- The address of the service's wallet. -/
  signer : Address
  /-- `signer.signMessage` -/
  signMessage : Bytes32 → String
  /-- `ethers.verifyMessage`, the address a signature recovers to -/
  verifyMessage : Bytes32 → String → Option Address
  /-- `Buffer.from(raw).toString("utf-8")` -/
  decodeUtf8 : Bytes → String
  /-- The identifier a document is pinned under. -/
  pinDocument : Bytes → String
  getDocument : String → Option Bytes

section Service

variable {J : Type} (ext : Externals J)

/-- The entry `record` pins: signed over its text without a signature. -/
def signedEntry (action actor : String) (payload : J) (now : String) : AuditEntry J :=
  let entry : AuditEntry J := ⟨action, actor, payload, now, none⟩
  { entry with signature := some (ext.signMessage (ext.id (ext.stringify entry))) }

/-- The identifier `record` pins an entry under. -/
def cidOf (entry : AuditEntry J) : String := ext.pinDocument (toUtf8Bytes (ext.stringify entry))

/-- Signatures recover to the signer, and the document of `entry` is fetched, read
and parsed as it was pinned. -/
structure Externals.Faithful (entry : AuditEntry J) : Prop where
  verify_sign : ∀ hash, ext.verifyMessage hash (ext.signMessage hash) = some ext.signer
  getDocument_pin : ext.getDocument (cidOf ext entry) = some (toUtf8Bytes (ext.stringify entry))
  decode_encode : ext.decodeUtf8 (toUtf8Bytes (ext.stringify entry)) = ext.stringify entry
  parse_stringify : ext.parse (ext.stringify entry) = some entry

/-- `record`, in a transaction with environment `env`; `none` when it reverts. -/
def record (s : AuditLog) (env : Env) (action actor : String) (payload : J) (now : String) :
    Option (String × AuditLog) :=
  let cid := cidOf ext (signedEntry ext action actor payload now)
  (s.addEntry { env with sender := ext.signer } (toUtf8Bytes action)
    (toUtf8Bytes cid)).toOption.map fun stored => (cid, stored.1)

/-- What `AUDIT_LOG_ABI` says `getEntry` returns: `address actor, string action,
string ipfsCid, uint256 timestamp`.  A value that is malformed by itself, such as
a string that is no UTF-8, is `none`: the decoder keeps the error and throws it
when the value is read. -/
structure Decoded where
  actor : Option Address
  action : Option String
  ipfsCid : Option String
  timestamp : ℕ
deriving DecidableEq

/-- Offsets and lengths are read as numbers, which have to be safe integers. -/
def isSafe (n : ℕ) : Bool := n < 2 ^ 53

/-- A string whose offset stands at `head`.  `none` is the exception for an
offset or data out of bounds; the inner `none` is an error kept as the value. -/
def decodeString (data : Bytes) (head : ℕ) : Option (Option String) := do
  let offset ← Abi.readWord data head
  if !isSafe offset then none
  else
    let length ← Abi.readWord data offset
    if !isSafe length then some none
    else
      let bytes ← Abi.readDynamic data offset
      return fromUtf8Bytes bytes

/-- Decoding the return data of `getEntry`. -/
def decodeEntry (data : Bytes) : Option Decoded := do
  let actor ← Abi.readWord data 0
  let action ← decodeString data 32
  let ipfsCid ← decodeString data 64
  let timestamp ← Abi.readWord data 96
  return ⟨if actor < 2 ^ 160 then some (BitVec.ofNat 160 actor) else none, action, ipfsCid,
    timestamp⟩

/-- What `verify` resolves to. -/
structure Verified (J : Type) where
  entry : AuditEntry J
  valid : Bool
  cid : String
deriving DecidableEq

/-- `verify`, with the decoding of the return data as an argument; `none` is a
rejected promise. -/
def verifyWith (decode : Bytes → Option Decoded) (s : AuditLog) (id : ℕ) :
    Option (Verified J) := do
  let data ← (s.getEntry id).toOption
  let onChain ← decode data
  let cid ← onChain.ipfsCid
  let raw ← ext.getDocument cid
  let entry ← ext.parse (ext.decodeUtf8 raw)
  let hash := ext.id (ext.stringify { entry with signature := none })
  let recovered := ext.verifyMessage hash (entry.signature.getD "")
  return ⟨entry, recovered.isSome && recovered == onChain.actor, cid⟩

/-- `verify`. -/
def verify (s : AuditLog) (id : ℕ) : Option (Verified J) := verifyWith ext decodeEntry s id

/-- The return data of entry `id` decode to the stored values, and verification
finds the entry valid and as it was recorded. -/
structure RoundTrip (s : AuditLog) (id : ℕ) (stored : AuditLog.Entry) (action cid : String)
    (entry : AuditEntry J) : Prop where
  decodes : ∃ data, s.getEntry id = .ok data ∧
    decodeEntry data = some ⟨some stored.actor, some action, some cid, stored.timestamp⟩
  verifies : verify ext s id = some ⟨entry, true, cid⟩

variable {ext}

/-- **`record`** appends an entry of the signer under the pinned identifier. -/
theorem record_eq_some {s s' : AuditLog} {env : Env} {action actor now cid : String} {payload : J}
    (recorded : record ext s env action actor payload now = some (cid, s')) :
    cid = cidOf ext (signedEntry ext action actor payload now) ∧
      s'.entries = s.entries ++ [⟨ext.signer, toUtf8Bytes action, toUtf8Bytes cid,
        env.timestamp⟩] := by
  obtain ⟨⟨stored, new⟩, success, pair⟩ := Option.map_eq_some_iff.mp recorded
  obtain ⟨rfl, rfl⟩ := Prod.mk.inj pair
  obtain ⟨-, rfl, -⟩ := AuditLog.addEntry_eq_ok_iff.mp (toOption_eq_some_iff.mp success)
  exact ⟨rfl, rfl⟩

/-- **The signature half.**  Where the stored values are decoded, verification
re-derives the signed text and finds the recorded entry valid. -/
theorem verifyWith_eq {decode : Bytes → Option Decoded} {s : AuditLog} {id : ℕ} {data : Bytes}
    {action actor now : String} {payload : J} {entry : AuditEntry J}
    (signed : entry = signedEntry ext action actor payload now) (ideal : ext.Faithful entry)
    (read : s.getEntry id = .ok data) {name : Option String} {timestamp : ℕ}
    (decodes : decode data = some ⟨some ext.signer, name, some (cidOf ext entry), timestamp⟩) :
    verifyWith ext decode s id = some ⟨entry, true, cidOf ext entry⟩ := by
  have unsigned : { entry with signature := none } = ⟨action, actor, payload, now, none⟩ := by
    rw [signed]
    rfl
  have signature : ext.verifyMessage (ext.id (ext.stringify { entry with signature := none }))
      (entry.signature.getD "") = some ext.signer := by
    rw [unsigned, signed]
    exact ideal.verify_sign _
  simp only [verifyWith, read, decodes, ideal.getDocument_pin, ideal.decode_encode,
    ideal.parse_stringify, signature, Except.toOption, bind, Option.bind]
  simp

/-! ## The return data, word by word -/

/-- The return data begin with the offset of the struct, its actor and the offset
of its first string. -/
theorem exists_words_encodeEntry (entry : AuditLog.Entry) : ∃ rest,
    AuditLog.encodeEntry entry =
      bigEndian 32 32 ++ (bigEndian 32 entry.actor.toNat ++ (bigEndian 32 128 ++ rest)) := by
  simp only [AuditLog.encodeEntry, Abi.encode, Abi.encodeFrom, List.length_cons, List.length_nil,
    List.append_assoc]
  exact ⟨_, rfl⟩

variable {entry : AuditLog.Entry}

/-- The first word is the offset of the struct, not the actor. -/
theorem readWord_encodeEntry_zero : Abi.readWord (AuditLog.encodeEntry entry) 0 = some 32 := by
  obtain ⟨rest, words⟩ := exists_words_encodeEntry entry
  rw [words]
  exact Abi.readWord_append [] _ 32

/-- The second word is the actor, not the offset of a string. -/
theorem readWord_encodeEntry_one :
    Abi.readWord (AuditLog.encodeEntry entry) 32 = some entry.actor.toNat := by
  obtain ⟨rest, words⟩ := exists_words_encodeEntry entry
  have word := Abi.readWord_append (bigEndian 32 32) (bigEndian 32 128 ++ rest)
    entry.actor.toNat
  have small : entry.actor.toNat < 2 ^ 256 := entry.actor.isLt.trans (by norm_num)
  rwa [← words, bigEndian_length, Nat.mod_eq_of_lt small] at word

/-- An actor that is no safe integer stops the decoder, which takes it for an
offset. -/
theorem decodeEntry_eq_none (large : 2 ^ 53 ≤ entry.actor.toNat) :
    decodeEntry (AuditLog.encodeEntry entry) = none := by
  have unsafeOffset : isSafe entry.actor.toNat = false := by
    simpa [isSafe] using large
  have noAction : decodeString (AuditLog.encodeEntry entry) 32 = none := by
    simp [decodeString, readWord_encodeEntry_one, unsafeOffset]
  simp [decodeEntry, readWord_encodeEntry_zero, noAction]

/-- Whatever the decoder returns, the actor it returns is the offset `0x20`. -/
theorem decodeEntry_eq_some {decoded : Decoded}
    (decodes : decodeEntry (AuditLog.encodeEntry entry) = some decoded) :
    decoded.actor = some 32#160 ∧
      decodeString (AuditLog.encodeEntry entry) 32 = some decoded.action := by
  simp only [decodeEntry, readWord_encodeEntry_zero, bind, Option.bind_some] at decodes
  obtain ⟨action, first, decodes⟩ := Option.bind_eq_some_iff.mp decodes
  obtain ⟨ipfsCid, -, decodes⟩ := Option.bind_eq_some_iff.mp decodes
  obtain ⟨timestamp, -, decodes⟩ := Option.bind_eq_some_iff.mp decodes
  obtain rfl := Option.some.inj decodes
  exact ⟨rfl, first⟩

/-- The string the decoder finds for the one actor that is also the offset `0x20`
is no UTF-8. -/
theorem decodeString_encodeEntry (actor : entry.actor = 32#160) :
    decodeString (AuditLog.encodeEntry entry) 32 = some none := by
  obtain ⟨rest, words⟩ := exists_words_encodeEntry entry
  have length : Abi.readWord (AuditLog.encodeEntry entry) 32 = some 32 := by
    rw [readWord_encodeEntry_one, actor]
    rfl
  have bytes : Abi.readDynamic (AuditLog.encodeEntry entry) 32 = some (bigEndian 32 128) := by
    have inBounds : 32 + 32 + 32 + paddingLength 32 ≤ (AuditLog.encodeEntry entry).length := by
      simp only [words, paddingLength, List.length_append, bigEndian_length]
      omega
    have heads : (bigEndian 32 32 ++ bigEndian 32 entry.actor.toNat).length = 32 + 32 := by
      simp only [List.length_append, bigEndian_length]
    have third : ((AuditLog.encodeEntry entry).drop (32 + 32)).take 32 = bigEndian 32 128 := by
      rw [words, ← List.append_assoc, ← heads, List.drop_left,
        List.take_append_of_le_length (by rw [bigEndian_length]),
        List.take_of_length_le (by rw [bigEndian_length])]
    rw [Abi.readDynamic, length, Option.bind_some, if_pos inBounds, third]
  have invalid : fromUtf8Bytes (bigEndian 32 128) = none := by decide
  simp [decodeString, length, bytes, invalid, isSafe]

/-! ## A recorded entry -/

/-- The wallet of the sample. -/
def sampleSigner : Address := 0x70997970C51812dc3A010C7d01b50e0d17dc79C8#160

/-- The sample entry, as pinned; its payload is the empty object. -/
def sampleEntry : AuditEntry Unit where
  action := "policy_created"
  actor := "0x70997970C51812dc3A010C7d01b50e0d17dc79C8"
  payload := ()
  timestamp := "2026-09-21T14:13:20.000Z"
  signature := some ("0xebea729ac12dd1eb133d429a578b3b2fdf87c60621b5bc19de4dbf3ec0308338" ++
    "390670a01584d1e6771af71e779125e33734b2520af5ea67cd154a7d6557dbd91c")

/-- A string member of a printed object. -/
def printMember (key value : String) : String := "  \"" ++ key ++ "\": \"" ++ value ++ "\""

/-- `JSON.stringify(entry, null, 2)`, for strings that need no escape. -/
def printEntry (entry : AuditEntry Unit) : String :=
  "\x7b\n" ++ printMember "action" entry.action ++ ",\n" ++ printMember "actor" entry.actor ++
    ",\n  \"payload\": \x7b\x7d,\n" ++ printMember "timestamp" entry.timestamp ++
    (entry.signature.elim "" fun signature => ",\n" ++ printMember "signature" signature) ++
    "\n\x7d"

/-- The services, on the texts of the sample. -/
def sampleExternals : Externals Unit where
  stringify := printEntry
  parse text := if text = printEntry sampleEntry then some sampleEntry else none
  id _ := 0x998cf575dc7b3c1f84a49bdfd88032523bde1fb39d3a5981e68cafbba7c99c44
  signer := sampleSigner
  signMessage _ := sampleEntry.signature.getD ""
  verifyMessage _ signature :=
    if some signature = sampleEntry.signature then some sampleSigner else none
  decodeUtf8 bytes := (fromUtf8Bytes bytes).getD ""
  pinDocument _ := "bafkreicodjrnv6j4t3jifbkfgcyn52gzo7gjin42zbks3hnbtyihi5ttha"
  getDocument _ := some (toUtf8Bytes (printEntry sampleEntry))

/-- The transaction that stores the sample. -/
def sampleEnv : Env := ⟨sampleSigner, 1790000000, 1⟩

/-- The contract once the sample is recorded. -/
def sampleStored : AuditLog where
  hasRole := (AuditLog.initialized sampleSigner).hasRole
  entries := [⟨sampleSigner, toUtf8Bytes "policy_created",
    toUtf8Bytes "bafkreicodjrnv6j4t3jifbkfgcyn52gzo7gjin42zbks3hnbtyihi5ttha", 1790000000⟩]

theorem record_sample : record sampleExternals (AuditLog.initialized sampleSigner) sampleEnv
    sampleEntry.action sampleEntry.actor () sampleEntry.timestamp =
      some ("bafkreicodjrnv6j4t3jifbkfgcyn52gzo7gjin42zbks3hnbtyihi5ttha", sampleStored) := by
  rfl

theorem signedEntry_sample : signedEntry sampleExternals sampleEntry.action sampleEntry.actor ()
    sampleEntry.timestamp = sampleEntry := by
  rfl

theorem faithful_sample : sampleExternals.Faithful sampleEntry where
  verify_sign _ := by
    have given : some (sampleEntry.signature.getD "") = sampleEntry.signature := rfl
    simp only [sampleExternals, given, if_true]
  getDocument_pin := by
    simp only [sampleExternals]
  decode_encode := by
    simp only [sampleExternals, fromUtf8Bytes_toUtf8Bytes, Option.getD_some]
  parse_stringify := by
    simp only [sampleExternals, if_true]

/-! ## The round trip fails -/

/-- Verification rejects every entry of a signer whose address is no safe integer. -/
theorem verify_eq_none {s : AuditLog} {id : ℕ} (stored : s.entries[id]? = some entry)
    (large : 2 ^ 53 ≤ entry.actor.toNat) : verify ext s id = none := by
  have read : s.getEntry id = .ok (AuditLog.encodeEntry entry) := by
    rw [AuditLog.getEntry, stored]
  simp [verify, verifyWith, read, Except.toOption, decodeEntry_eq_none large]

/-- **No entry comes back.**  Once `record` has stored an entry, the service never
decodes the return data of `getEntry` to the stored values: it reads them as four
values, and they are one struct. -/
theorem recorded_entry_never_decodes {s s' : AuditLog} {env : Env}
    {action actor now cid : String} {payload : J}
    (recorded : record ext s env action actor payload now = some (cid, s'))
    (later : List AuditLog.Tx) :
    ¬ RoundTrip ext (AuditLog.machine.run s' later) s.entries.length
      ⟨ext.signer, toUtf8Bytes action, toUtf8Bytes cid, env.timestamp⟩ action cid
      (signedEntry ext action actor payload now) := by
  rintro ⟨⟨data, read, decodes⟩, -⟩
  obtain ⟨-, entries⟩ := record_eq_some recorded
  have stored := AuditLog.getElem?_entries_run (s := s') later
    (by rw [entries]; exact List.getElem?_concat_length)
  rw [AuditLog.getEntry, stored] at read
  obtain rfl := Except.ok.inj read
  -- the decoded actor is `0x20`, so the stored one would have to be
  obtain ⟨decodedActor, decodedAction⟩ := decodeEntry_eq_some decodes
  have invalid := decodeString_encodeEntry (Option.some.inj decodedActor)
  rw [decodedAction] at invalid
  cases Option.some.inj invalid

end Service

/-- The sample is one such entry. -/
theorem recorded_entry_never_decodes_sample :
    ¬ RoundTrip sampleExternals (AuditLog.machine.run sampleStored []) 0
      ⟨sampleSigner, toUtf8Bytes "policy_created",
        toUtf8Bytes "bafkreicodjrnv6j4t3jifbkfgcyn52gzo7gjin42zbks3hnbtyihi5ttha", 1790000000⟩
      "policy_created" "bafkreicodjrnv6j4t3jifbkfgcyn52gzo7gjin42zbks3hnbtyihi5ttha"
      (signedEntry sampleExternals sampleEntry.action sampleEntry.actor () sampleEntry.timestamp) :=
  recorded_entry_never_decodes record_sample []

/-- With faithful services the sample is recorded, and verifying it fails: the
decoder takes the actor for an offset. -/
theorem recorded_entry_counterexample :
    record sampleExternals (AuditLog.initialized sampleSigner) sampleEnv sampleEntry.action
        sampleEntry.actor () sampleEntry.timestamp =
      some ("bafkreicodjrnv6j4t3jifbkfgcyn52gzo7gjin42zbks3hnbtyihi5ttha", sampleStored) ∧
    signedEntry sampleExternals sampleEntry.action sampleEntry.actor () sampleEntry.timestamp =
      sampleEntry ∧
    sampleExternals.Faithful sampleEntry ∧
    verify sampleExternals sampleStored 0 = none ∧
    ¬ RoundTrip sampleExternals sampleStored 0
      ⟨sampleSigner, toUtf8Bytes "policy_created",
        toUtf8Bytes "bafkreicodjrnv6j4t3jifbkfgcyn52gzo7gjin42zbks3hnbtyihi5ttha", 1790000000⟩
      "policy_created" "bafkreicodjrnv6j4t3jifbkfgcyn52gzo7gjin42zbks3hnbtyihi5ttha"
      sampleEntry := by
  have rejected : verify sampleExternals sampleStored 0 = none :=
    verify_eq_none rfl (by decide)
  refine ⟨record_sample, signedEntry_sample, faithful_sample, rejected, ?_⟩
  rintro ⟨-, verifies⟩
  rw [rejected] at verifies
  cases verifies

end TheVoteApp.AuditLogService
