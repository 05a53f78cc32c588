import TheVoteApp.JavaScript.JsonRoundTrip
import TheVoteApp.Solidity.Basic

/-!
# The gateway manifest

`publish` signs the printed manifest and pins it with the signature as a further
property; `verify` takes the signature out of a parsed manifest, prints the rest and
checks the signature against that text.

What is pinned verifies, whatever the URLs and the chains are: an object is printed
in the order of its properties and parsed back in the same order, and taking a
property out leaves the others where they are.  What verifies has been signed:
printing is injective at the manifests `publish` signs, so every property but the
signature is one of theirs (`manifest_sound`).

## Main definitions

* `Manifest` — what `publish` is called with, and the time
* `Ethers` — the functions of ethers.js that sign, hash and recover
* `publish`, `verify`
-/

namespace TheVoteApp.GatewayManifestService

open Solidity JavaScript

variable {format : NumberFormat}

/-- What a manifest says: the URLs, the contract addresses by chain id, in the order
of the object's properties, and the time of the publication. -/
structure Manifest where
  apiUrl : Text
  wsUrl : Text
  chainContracts : List (Text × Text)
  publishedAt : Text
  inOrder : InOrder chainContracts

/-- The member that the signature is stored under. -/
def signatureKey : Text := utf16 "signature"

/-- The members of the manifest before it is signed. -/
def Manifest.members (format : NumberFormat) (manifest : Manifest) :
    List (Text × Value format.Number) :=
  [(utf16 "version", .number (format.ofNat 1)),
    (utf16 "endpoints",
      .object [(utf16 "api", .string manifest.apiUrl), (utf16 "ws", .string manifest.wsUrl)]),
    (utf16 "chains",
      .object (manifest.chainContracts.map fun entry => (entry.1, .string entry.2))),
    (utf16 "publishedAt", .string manifest.publishedAt)]

/-- `JSON.stringify(object, null, 2)`, for the object with the given members. -/
def payload (members : List (Text × Value format.Number)) : Text :=
  stringify format 2 (.object members)

/-- What the service uses of ethers.js: `id`, the address of a key, and signatures of
32 bytes.  `verifyMessage` takes any JSON value for a signature, and throws (`none`)
at those it cannot read. -/
structure Ethers (format : NumberFormat) where
  Key : Type
  id : Text → Bytes32
  address : Key → Text
  signMessage : Key → Bytes32 → Text
  verifyMessage : Bytes32 → Value format.Number → Option Text
  verifyMessage_signMessage : ∀ key hash,
    verifyMessage hash (.string (signMessage key hash)) = some (address key)
  signMessage_ne_nil : ∀ key hash, signMessage key hash ≠ []

section Service

variable (ethers : Ethers format)

/-- The members of the manifest with its signature. -/
def signedMembers (signerKey : ethers.Key) (manifest : Manifest) :
    List (Text × Value format.Number) :=
  let members := manifest.members format
  let hash := ethers.id (payload members)
  setProperty members signatureKey (.string (ethers.signMessage signerKey hash))

/-- `publish`: the text it pins. -/
def publish (signerKey : ethers.Key) (manifest : Manifest) : Text :=
  payload (signedMembers ethers signerKey manifest)

/-- `const { signature, ...rest } = manifest` -/
def rest (members : List (Text × Value format.Number)) : List (Text × Value format.Number) :=
  members.filter fun member => member.1 ≠ signatureKey

variable (toLowerCase : Text → Text)

/-- `verify`; `none` is the `TypeError` for `null`.  A value that is no object has no
property `signature`. -/
def verify (manifest : Value format.Number) (expectedSigner : Text) : Option Bool :=
  match manifest with
  | .null => none
  | .object members =>
    match members.lookup signatureKey with
    | none => some false
    | some signature =>
        if ¬ truthy signature then some false
        else
          match ethers.verifyMessage (ethers.id (payload (rest members))) signature with
          | none => some false
          | some recovered => some (toLowerCase recovered = toLowerCase expectedSigner)
  | _ => some false

/-- The signature is no forgery: where it recovers to the address of the key, the key
has signed, for one of the manifests `published`. -/
def NotForged (signerKey : ethers.Key) (published : List Manifest)
    (signature : Value format.Number) : Prop :=
  ∀ hash recovered, ethers.verifyMessage hash signature = some recovered →
    toLowerCase recovered = toLowerCase (ethers.address signerKey) →
      ∃ manifest ∈ published, hash = ethers.id (payload (manifest.members format))

/-- The texts `verify` and the publications hash. -/
def hashedTexts (manifest : Value format.Number) (published : List Manifest) : Set Text :=
  {text | (∃ members, manifest = .object members ∧ text = payload (rest members)) ∨
    ∃ signed ∈ published, text = payload (signed.members format)}

end Service

/-! ## The manifests that are signed -/

section Signed

variable {manifest : Manifest}

theorem inOrder_members : InOrder (manifest.members format) := by
  rw [inOrder_iff_keys]
  show [utf16 "version", utf16 "endpoints", utf16 "chains", utf16 "publishedAt"].Pairwise _
  decide

theorem inOrder_chains :
    InOrder (manifest.chainContracts.map fun entry =>
      (entry.1, (.string entry.2 : Value format.Number))) :=
  List.pairwise_map.mpr manifest.inOrder

theorem ordered_members : (Value.object (manifest.members format)).Ordered := by
  refine .object inOrder_members fun member mem => ?_
  simp only [Manifest.members, List.mem_cons, List.not_mem_nil, or_false] at mem
  rcases mem with rfl | rfl | rfl | rfl
  · exact .number _
  · refine .object ?_ fun member mem => ?_
    · rw [inOrder_iff_keys]
      show [utf16 "api", utf16 "ws"].Pairwise _
      decide
    · simp only [List.mem_cons, List.not_mem_nil, or_false] at mem
      rcases mem with rfl | rfl
      · exact .string _
      · exact .string _
  · refine .object inOrder_chains fun member mem => ?_
    obtain ⟨entry, -, rfl⟩ := List.mem_map.mp mem
    exact .string _
  · exact .string _

theorem plain_members : Plain format (.object (manifest.members format)) := by
  refine .object fun member mem => ?_
  simp only [Manifest.members, List.mem_cons, List.not_mem_nil, or_false] at mem
  rcases mem with rfl | rfl | rfl | rfl
  · exact .ofNat (by decide) (by decide)
  · refine .object fun member mem => ?_
    simp only [List.mem_cons, List.not_mem_nil, or_false] at mem
    rcases mem with rfl | rfl
    · exact .string _
    · exact .string _
  · refine .object fun member mem => ?_
    obtain ⟨entry, -, rfl⟩ := List.mem_map.mp mem
    exact .string _
  · exact .string _

/-- No property of the manifest is named like the signature, and the signature comes
after all of them. -/
theorem keys_members : ∀ member ∈ manifest.members format,
    member.1 ≠ signatureKey ∧ ¬ Precedes signatureKey member.1 := by
  have keys : ∀ key ∈ [utf16 "version", utf16 "endpoints", utf16 "chains", utf16 "publishedAt"],
      key ≠ signatureKey ∧ ¬ Precedes signatureKey key := by decide
  intro member mem
  refine keys member.1 ?_
  have key : member.1 ∈ (manifest.members format).map Prod.fst := List.mem_map_of_mem mem
  exact key

end Signed

/-! ## What is pinned -/

section Pinned

variable {ethers : Ethers format} {toLowerCase : Text → Text} {signerKey : ethers.Key}
  {manifest : Manifest}

/-- The signature is the last property. -/
theorem signedMembers_eq : signedMembers ethers signerKey manifest =
    manifest.members format ++ [(signatureKey, .string (ethers.signMessage signerKey
      (ethers.id (payload (manifest.members format)))))] :=
  setProperty_concat keys_members _

theorem inOrder_signedMembers : InOrder (signedMembers ethers signerKey manifest) :=
  inOrder_setProperty inOrder_members _ _

/-- What is pinned is parsed as what has been printed. -/
theorem parse_publish : parse format (publish ethers signerKey manifest) =
    some (.object (signedMembers ethers signerKey manifest)) := by
  have ordered : (Value.object (signedMembers ethers signerKey manifest)).Ordered := by
    refine .object inOrder_signedMembers fun member mem => ?_
    rw [signedMembers_eq] at mem
    rcases List.mem_append.mp mem with before | last
    · cases @ordered_members format manifest with
      | object _ all => exact all member before
    · rw [List.mem_singleton.mp last]
      exact .string _
  have plain : Plain format (.object (signedMembers ethers signerKey manifest)) := by
    refine .object fun member mem => ?_
    rw [signedMembers_eq] at mem
    rcases List.mem_append.mp mem with before | last
    · cases @plain_members format manifest with
      | object all => exact all member before
    · rw [List.mem_singleton.mp last]
      exact .string _
  rw [publish, payload, parse_stringify format 2 ordered, plain.printedValue_eq]

theorem lookup_append_of_notMem {V : Type} {members : List (Text × V)} {key : Text} {value : V}
    (absent : ∀ member ∈ members, member.1 ≠ key) :
    (members ++ [(key, value)]).lookup key = some value := by
  induction members with
  | nil => simp
  | cons member members ih =>
      obtain ⟨first, others⟩ := List.forall_mem_cons.mp absent
      rw [List.cons_append, List.lookup_cons, beq_false_of_ne (Ne.symm first)]
      exact ih others

theorem rest_signedMembers :
    rest (signedMembers ethers signerKey manifest) = manifest.members format := by
  have kept : (manifest.members format).filter (fun member => member.1 ≠ signatureKey) =
      manifest.members format :=
    List.filter_eq_self.mpr fun member mem => decide_eq_true (keys_members member mem).1
  rw [signedMembers_eq, rest, List.filter_append, kept, List.filter_singleton]
  simp

/-- **What is pinned verifies.** -/
theorem verify_signedMembers :
    verify ethers toLowerCase (.object (signedMembers ethers signerKey manifest))
      (ethers.address signerKey) = some true := by
  have found : (signedMembers ethers signerKey manifest).lookup signatureKey =
      some (.string (ethers.signMessage signerKey
        (ethers.id (payload (manifest.members format))))) := by
    rw [signedMembers_eq]
    exact lookup_append_of_notMem fun member mem => (keys_members member mem).1
  have signed : truthy (.string (ethers.signMessage signerKey
      (ethers.id (payload (manifest.members format)))) : Value format.Number) = true :=
    decide_eq_true (ethers.signMessage_ne_nil _ _)
  simp only [verify, found, signed, not_true, if_false, rest_signedMembers,
    ethers.verifyMessage_signMessage, decide_true]

end Pinned

/-! ## What verifies -/

section Verified

variable {ethers : Ethers format} {toLowerCase : Text → Text} {signerKey : ethers.Key}
  {manifest : Value format.Number}

theorem verify_eq_true {expectedSigner : Text}
    (verified : verify ethers toLowerCase manifest expectedSigner = some true) :
    ∃ members signature recovered, manifest = .object members ∧
      members.lookup signatureKey = some signature ∧
      ethers.verifyMessage (ethers.id (payload (rest members))) signature = some recovered ∧
      toLowerCase recovered = toLowerCase expectedSigner := by
  cases manifest with
  | object members =>
      rw [verify] at verified
      cases found : members.lookup signatureKey with
      | none => simp [found] at verified
      | some signature =>
          simp only [found] at verified
          split at verified
          · cases verified
          · cases answer : ethers.verifyMessage (ethers.id (payload (rest members))) signature with
            | none => simp [answer] at verified
            | some recovered =>
                simp only [answer, Option.some.injEq, decide_eq_true_eq] at verified
                exact ⟨members, signature, recovered, rfl, found, answer, verified⟩
  | _ => cases verified

/-- Taking the signature out leaves the other properties as they are. -/
theorem lookup_rest {members : List (Text × Value format.Number)} {key : Text}
    (other : key ≠ signatureKey) : (rest members).lookup key = members.lookup key := by
  unfold rest
  induction members with
  | nil => rfl
  | cons member members ih =>
      obtain ⟨k, v⟩ := member
      by_cases same : k = signatureKey
      · rw [List.filter_cons_of_neg (by simp [same]), ih, List.lookup_cons,
          beq_false_of_ne (same ▸ other)]
      · rw [List.filter_cons_of_pos (by simp [same]), List.lookup_cons, List.lookup_cons, ih]

/-- **What verifies has been signed.** -/
theorem signed_of_verify {published : List Manifest} (ordered : manifest.Ordered)
    (notForged : ∀ signature ∈ manifest.get signatureKey,
      NotForged ethers toLowerCase signerKey published signature)
    (collisionFree : Set.InjOn ethers.id (hashedTexts manifest published))
    (verified : verify ethers toLowerCase manifest (ethers.address signerKey) = some true) :
    ∃ signed ∈ published, ∀ key ≠ signatureKey,
      manifest.get key = (Value.object (signed.members format)).get key := by
  obtain ⟨members, signature, recovered, rfl, found, answer, same⟩ := verify_eq_true verified
  obtain ⟨signed, mem, hash⟩ := notForged signature found _ _ answer same
  have printed : payload (rest members) = payload (signed.members format) :=
    collisionFree (.inl ⟨members, rfl, rfl⟩) (.inr ⟨signed, mem, rfl⟩) hash
  have orderedRest : (Value.object (rest members)).Ordered := by
    cases ordered with
    | object inOrder all =>
        exact .object (inOrder.sublist List.filter_sublist) fun member inside =>
          all member (List.mem_of_mem_filter inside)
  have equal : rest members = signed.members format :=
    Value.object.inj (eq_of_stringify_eq orderedRest ordered_members plain_members printed)
  refine ⟨signed, mem, fun key other => ?_⟩
  rw [← equal, Value.get, Value.get, lookup_rest other]

end Verified

/-- **The manifest is sound.**  What `publish` pins is parsed and verifies, for all
URLs, chains and times.  And if a JSON value verifies, with a signature that is no
forgery, then all its properties but the signature are those of a manifest that has
been signed. -/
theorem manifest_sound (ethers : Ethers format) (toLowerCase : Text → Text)
    (signerKey : ethers.Key) :
    (∀ manifest : Manifest, ∃ value,
      parse format (publish ethers signerKey manifest) = some value ∧
        verify ethers toLowerCase value (ethers.address signerKey) = some true) ∧
    ∀ (value : Value format.Number) (published : List Manifest), value.Ordered →
      (∀ signature ∈ value.get signatureKey,
        NotForged ethers toLowerCase signerKey published signature) →
      Set.InjOn ethers.id (hashedTexts value published) →
      verify ethers toLowerCase value (ethers.address signerKey) = some true →
        ∃ signed ∈ published, ∀ key ≠ signatureKey,
          value.get key = (Value.object (signed.members format)).get key :=
  ⟨fun _ => ⟨_, parse_publish, verify_signedMembers⟩,
    fun _ _ ordered notForged collisionFree verified =>
      signed_of_verify ordered notForged collisionFree verified⟩

/-! ## A manifest with two chains -/

/-- Chain ids are array indices, and come in increasing order. -/
def sampleManifest : Manifest where
  apiUrl := utf16 "https://api.thevoteapp.example"
  wsUrl := utf16 "wss://api.thevoteapp.example/ws/tally"
  chainContracts :=
    [(utf16 "1", utf16 "0x5FbDB2315678afecb367f032d93F642f64180aa3"),
      (utf16 "11155111", utf16 "0xe7f1725E7734CE288F8367e1Bb143E90bb3F0512")]
  publishedAt := utf16 "2026-01-01T00:00:00.000Z"
  inOrder := by decide

/-- The digest of the sample manifest's payload. -/
def sampleHash : Bytes32 := 0x3270b115caa1d1c085a718e750d64ce923d3cc05862abd9e2b1f7e5bfab1ce22

/-- The signature of that digest under the sample key. -/
def sampleSignature (hash : Bytes32) : Text :=
  if hash = sampleHash then
    utf16 ("0x7e9426ba52d6c3defc9df2ccc75bbc7196a1135ad6e3aa5c9695f6f11ae77fce" ++
      "27c49cab6d9712a3d923b2c37cc857b7206fd648fc5a6c3cfa4cba48aa5c7a031c")
  else utf16 "0x"

/-- One key, as it signs the sample manifest. -/
def sampleEthers : Ethers .naturals where
  Key := Unit
  id text := if text = payload (sampleManifest.members .naturals) then sampleHash else 0
  address _ := utf16 "0xf39Fd6e51aad88F6F4ce6aB8827279cffFb92266"
  signMessage _ := sampleSignature
  verifyMessage hash
    | .string text =>
        if text = sampleSignature hash then
          some (utf16 "0xf39Fd6e51aad88F6F4ce6aB8827279cffFb92266")
        else none
    | _ => none
  verifyMessage_signMessage _ _ := if_pos rfl
  signMessage_ne_nil _ hash := by
    unfold sampleSignature
    split
    · decide +kernel
    · decide

/-- The sample key, of which there is one. -/
def sampleKey : sampleEthers.Key := ()

theorem id_sampleManifest :
    sampleEthers.id (payload (sampleManifest.members .naturals)) = sampleHash := by
  simp only [sampleEthers, if_true]

theorem signMessage_sample : sampleEthers.signMessage sampleKey = sampleSignature := rfl

theorem sampleSignature_of_verifyMessage {hash : Bytes32} {text recovered : Text}
    (answer : sampleEthers.verifyMessage hash (.string text) = some recovered) :
    text = sampleSignature hash := by
  simp only [sampleEthers] at answer
  split at answer
  · assumption
  · cases answer

/-- `toLowerCase` on ASCII. -/
def asciiLowerCase (text : Text) : Text :=
  text.map fun u => if 0x41 ≤ u ∧ u ≤ 0x5A then u + 0x20 else u

/-- The signature of the sample is one of its hash only. -/
theorem notForged_sample : NotForged sampleEthers asciiLowerCase sampleKey [sampleManifest]
    (.string (sampleSignature sampleHash)) := by
  intro hash recovered answer _
  refine ⟨sampleManifest, List.mem_singleton_self _, ?_⟩
  have same := sampleSignature_of_verifyMessage answer
  rw [id_sampleManifest]
  by_contra other
  have short : sampleSignature hash = utf16 "0x" := if_neg other
  rw [short] at same
  exact absurd same (by decide +kernel)

theorem manifest_sound_sample : ∃ value,
    parse .naturals (publish sampleEthers sampleKey sampleManifest) = some value ∧
    verify sampleEthers asciiLowerCase value (sampleEthers.address sampleKey) = some true ∧
    ∃ signed ∈ [sampleManifest], ∀ key ≠ signatureKey,
      value.get key = (Value.object (signed.members .naturals)).get key := by
  obtain ⟨value, parsed, verified⟩ :=
    (manifest_sound sampleEthers asciiLowerCase sampleKey).1 sampleManifest
  obtain rfl := Option.some.inj (parse_publish.symm.trans parsed)
  refine ⟨_, parsed, verified,
    (manifest_sound sampleEthers asciiLowerCase sampleKey).2 _ [sampleManifest]
      (ordered_of_parse parsed) (fun signature mem => ?_) ?_ verified⟩
  · rw [Value.get, signedMembers_eq, id_sampleManifest, signMessage_sample,
      lookup_append_of_notMem fun member mem => (keys_members member mem).1] at mem
    rw [← Option.some.inj mem]
    exact notForged_sample
  · have single : ∀ text ∈ hashedTexts
        (.object (signedMembers sampleEthers sampleKey sampleManifest)) [sampleManifest],
        text = payload (sampleManifest.members .naturals) := by
      rintro text (⟨members, same, rfl⟩ | ⟨signed, mem, rfl⟩)
      · rw [← Value.object.inj same, rest_signedMembers]
      · rw [List.mem_singleton.mp mem]
    exact fun text mem text' mem' _ => (single text mem).trans (single text' mem').symm

end TheVoteApp.GatewayManifestService
