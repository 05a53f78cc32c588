import TheVoteApp.BabyJubjub.Bsgs
import TheVoteApp.HomomorphicTally.Accumulator

/-!
# Decrypting a tally

`_finaliseOption` of `HomomorphicTallyService.ts` reads an accumulator from the
contract, decrypts it with the tally authority's key and searches the number of
votes the result stands for.

The accumulator is a sum of ciphertexts, decryption is a group homomorphism, and
the search inverts multiples of `G` up to `MAX_VOTERS`; together the service
recovers the sum of the encrypted votes (`homomorphic_tally_correct`).
-/

namespace TheVoteApp.HomomorphicTallyService

open Solidity Foundations BabyJubjub HomomorphicTally

/-- `MAX_VOTERS`, the bound of the search. -/
def maxVoters : ℕ := 10_000_000

/-- How `_finaliseOption` ends. -/
inductive Outcome where
  /-- `getResult` says the option is final; nothing is sent. -/
  | alreadyFinalised
  /-- `TALLY_AUTHORITY_PRIVATE_KEY not set`, thrown. -/
  | keyNotSet
  /-- The search of `bsgs` goes on for ever; it does not (`finaliseOption_ne_searching`). -/
  | searching
  /-- `BSGS failed`, logged. -/
  | bsgsFailed
  /-- The transaction is sent. -/
  | submitted (call : Call)

section Service

variable (keccak256 : Bytes → Bytes32)

/-- `_buildDecryptionProof`, the placeholder for a proof of correct decryption. -/
def buildDecryptionProof (sk C1x C1y _C2x _C2y Tx Ty : ℤ) : Bytes :=
  let text := toString C1x ++ "," ++ toString C1y ++ "," ++ toString (sk.tmod 1000)
  Abi.encode [.word Tx.toNat, .word Ty.toNat, .word (keccak256 (toUtf8Bytes text)).toNat]

/-- `T = ΣC2 − sk·(ΣC1)`. -/
def tallyPoint (sk : ℤ) (acc : AccumulatedCiphertext) : BigPoint :=
  let skC1 := bjjScalarMul sk acc.C1.1 acc.C1.2
  let negSkC1 := bjjNeg skC1.1 skC1.2
  bjjAdd acc.C2.1 acc.C2.2 negSkC1.1 negSkC1.2

/-- `_finaliseOption`, given the environment's key and what the contract answers to
`getResult` and `getAccumulated`. -/
def finaliseOption (key : Option ℤ) (pollId : Bytes32) (optionIndex : ℕ) (result : ℕ × Bool)
    (acc : AccumulatedCiphertext) : Outcome :=
  if result.2 then .alreadyFinalised
  else match key with
    | none => .keyNotSet
    | some sk =>
      let T := tallyPoint sk acc
      match bsgs T.1 T.2 maxVoters with
      | none => .searching
      | some none => .bsgsFailed
      | some (some tallyValue) =>
        .submitted (.finaliseDecryption pollId optionIndex tallyValue (T.1.toNat, T.2.toNat)
          (buildDecryptionProof keccak256 sk acc.C1.1 acc.C1.2 acc.C2.1 acc.C2.2 T.1 T.2))

/-! ## Decryption -/

/-- On an accumulator of points, the service computes the decryption. -/
theorem tallyPoint_coords (sk : ℕ) (c : curve.Point × curve.Point) (count : ℕ) :
    tallyPoint sk ⟨coords c.1, coords c.2, count⟩ = bigCoords (ElGamal.decrypt sk c) := by
  unfold tallyPoint
  show bjjAdd (bigCoords c.2).1 (bigCoords c.2).2
      (bjjNeg (bjjScalarMul sk (bigCoords c.1).1 (bigCoords c.1).2).1
        (bjjScalarMul sk (bigCoords c.1).1 (bigCoords c.1).2).2).1
      (bjjNeg (bjjScalarMul sk (bigCoords c.1).1 (bigCoords c.1).2).1
        (bjjScalarMul sk (bigCoords c.1).1 (bigCoords c.1).2).2).2 = bigCoords (c.2 - sk • c.1)
  rw [bjjScalarMul_coords, bjjNeg_coords, bjjAdd_coords, sub_eq_add_neg]

theorem maxVoters_small : maxVoters < 2 ^ 53 := by norm_num [maxVoters]

/-- Within the bound, the search recovers the scalar of a multiple of `G`. -/
theorem bsgs_nsmul_base {v : ℕ} (bound : v ≤ maxVoters) :
    bsgs (bigCoords (v • base)).1 (bigCoords (v • base)).2 maxVoters = some (some v) :=
  (bsgs_eq_some_iff maxVoters_small).mpr ⟨bound, rfl⟩

/-- Whatever the contract answers, the search ends. -/
theorem finaliseOption_ne_searching (key : Option ℤ) (pollId : Bytes32) (optionIndex : ℕ)
    (result : ℕ × Bool) (acc : AccumulatedCiphertext) :
    finaliseOption keccak256 key pollId optionIndex result acc ≠ .searching := by
  unfold finaliseOption
  split
  · exact nofun
  · cases key with
    | none => exact nofun
    | some sk =>
        obtain ⟨found, ended⟩ := Option.isSome_iff_exists.mp
          (bsgs_isSome maxVoters_small (tallyPoint sk acc).1 (tallyPoint sk acc).2)
        simp only [ended]
        cases found <;> exact nofun

/-- The call that publishes the tally `v`. -/
def tallyCall (sk : ℤ) (pollId : Bytes32) (optionIndex v : ℕ) (acc : AccumulatedCiphertext) :
    Call :=
  .finaliseDecryption pollId optionIndex v (coords (v • base))
    (buildDecryptionProof keccak256 sk acc.C1.1 acc.C1.2 acc.C2.1 acc.C2.2
      (coords (v • base)).1 (coords (v • base)).2)

/-- An accumulator that decrypts to `v • G` is published as `v`. -/
theorem finaliseOption_eq_submitted {sk v : ℕ} {acc : AccumulatedCiphertext}
    (decrypted : tallyPoint sk acc = bigCoords (v • base)) (bound : v ≤ maxVoters)
    (pollId : Bytes32) (optionIndex : ℕ) {result : ℕ × Bool} (pending : result.2 = false) :
    finaliseOption keccak256 (some sk) pollId optionIndex result acc =
      .submitted (tallyCall keccak256 sk pollId optionIndex v acc) := by
  simp only [finaliseOption, pending, decrypted, bsgs_nsmul_base bound]
  rfl

/-! ## From the votes to the tally -/

variable (staticcall : Address → Bytes → List ℕ → Bool × Bytes) (admin verifier : Address)

/-- **The tally is correct, end to end.**  If the ciphertexts accepted for an option
of a registered poll are, in some order, encryptions of `openings` under the
public key of `sk`, the service decrypts their accumulator to the sum of the
plaintexts times `G`; if that sum is at most `MAX_VOTERS`, the search returns it
and the service publishes it unless the option is final. -/
theorem homomorphic_tally_correct (txs : List Tx) (pollId : Bytes32) (optionIndex : ℕ)
    (sk : ℕ) (openings : List Opening)
    (registered : (((machine staticcall).run (initialized admin verifier) txs).polls
      pollId).pollExists = true)
    (inRange : optionIndex < (((machine staticcall).run (initialized admin verifier) txs).polls
      pollId).optionCount)
    (accepted : ((acceptedFor staticcall admin verifier txs pollId optionIndex).map
      SubmitArgs.ciphertext).Perm
        (openings.map fun o => ciphertextCoords (ElGamal.encrypt base (sk • base) o))) :
    let s := (machine staticcall).run (initialized admin verifier) txs
    let T := tallyPoint sk (s.getAccumulated pollId optionIndex)
    let tally := (openings.map Opening.value).sum
    T = bigCoords (tally • base) ∧
      (tally ≤ maxVoters →
        bsgs T.1 T.2 maxVoters = some (some tally) ∧
        ∀ result : ℕ × Bool, result.2 = false →
          finaliseOption keccak256 (some sk) pollId optionIndex result
              (s.getAccumulated pollId optionIndex) =
            .submitted (tallyCall keccak256 sk pollId optionIndex tally
              (s.getAccumulated pollId optionIndex))) := by
  intro s T tally
  have stored : s.getAccumulated pollId optionIndex =
      accumulate (acceptedFor staticcall admin verifier txs pollId optionIndex) :=
    (run_accumulates staticcall admin verifier txs).accumulated pollId optionIndex registered
      inRange
  have points : ((acceptedFor staticcall admin verifier txs pollId optionIndex).map
      SubmitArgs.ciphertext).Perm
        ((openings.map (ElGamal.encrypt base (sk • base))).map ciphertextCoords) := by
    rw [List.map_map]
    exact accepted
  -- the sum of encryptions decrypts to the sum of votes
  have decrypted : T = bigCoords (tally • base) :=
    calc
      T = tallyPoint sk (accumulate (acceptedFor staticcall admin verifier txs pollId
            optionIndex)) := by rw [← stored]
      _ = bigCoords (ElGamal.decrypt sk (openings.map (ElGamal.encrypt base (sk • base))).sum) := by
        rw [accumulate_coords points, tallyPoint_coords]
      _ = bigCoords (tally • base) := by rw [ElGamal.decrypt_sum_encrypt]
  refine ⟨decrypted, ?_⟩
  intro bound
  refine ⟨?_, ?_⟩
  · rw [decrypted]
    exact bsgs_nsmul_base bound
  · intro result pending
    exact finaliseOption_eq_submitted keccak256 decrypted bound pollId optionIndex pending

end Service

/-- The sample votes are tallied as two. -/
theorem homomorphic_tally_correct_sample :
    let s := (machine (booleanVerifier twoAccepts)).run (initialized 1 2) sampleVotes
    let T := tallyPoint (1 : ℕ) (s.getAccumulated samplePollId 0)
    T = bigCoords (2 • base) ∧ bsgs T.1 T.2 maxVoters = some (some 2) := by
  have tallied := homomorphic_tally_correct (fun _ => 0) (booleanVerifier twoAccepts) 1 2
    sampleVotes samplePollId 0 1 [⟨1, 1⟩, ⟨1, 2⟩] (by decide)
    (by decide) (by
      rw [List.map_cons, List.map_singleton, one_nsmul, ciphertextCoords_encrypt_sample,
        ciphertextCoords_encrypt_second]
      exact List.Perm.of_eq (by decide))
  exact ⟨tallied.1, (tallied.2 (by decide)).1⟩

end TheVoteApp.HomomorphicTallyService
