import TheVoteApp.BabyJubjub.Curve
import TheVoteApp.Foundations.MerklePath

/-!
# The eligibility circuit

The constraint system of `eligibility_plonk.circom`.  An assignment gives a
value to every signal of `EligibilityPlonk(levels)`, the signals of its
components included; `Satisfies` is the list of its constraints.

The templates of circomlib are parameters.  `Poseidon(2)` is a function of its
two inputs, of which nothing is assumed except, for uniqueness, that it does not
collide on the pairs the two assignments hash.  `MultiMux1(2)` is a function of
its inputs that selects `c[i][s]` (`Selects`).

## Main results

* `Satisfies.merkleRoot_eq` — the root is the one reached up the path
* `Satisfies.unique` — a root and its directions pin the secret
* `satisfies_witness` — every path has a satisfying assignment
-/

namespace TheVoteApp.Circuits

open Foundations BabyJubjub

/-- The signals of a component `Poseidon(2)`. -/
structure Poseidon (F : Type) where
  inputs : Fin 2 → F
  out : F

/-- The signals of a component `MultiMux1(2)`. -/
structure MultiMux1 (F : Type) where
  c : Fin 2 → Fin 2 → F
  s : F
  out : Fin 2 → F

/-- An assignment of `EligibilityPlonk(levels)`. -/
structure EligibilityPlonk (F : Type) (levels : ℕ) where
  -- public signals
  merkleRoot : F
  nullifier : F
  pollId : F
  countryCode : F
  -- private signals
  voterSecret : F
  pathElements : Fin levels → F
  pathIndices : Fin levels → F
  -- intermediate signals
  commitHasher : Poseidon F
  commitment : F
  nullHasher : Poseidon F
  hashers : Fin levels → Poseidon F
  mux : Fin levels → MultiMux1 F
  levelHashes : Fin (levels + 1) → F

variable {F : Type} [Field F] {levels : ℕ}

/-- `MultiMux1` selects `c[i][s]`. -/
structure Selects (multiMux1 : (Fin 2 → Fin 2 → F) → F → Fin 2 → F) : Prop where
  zero : ∀ c i, multiMux1 c 0 i = c i 0
  one : ∀ c i, multiMux1 c 1 i = c i 1

namespace EligibilityPlonk

/-- The constraints. -/
structure Satisfies (poseidon : F → F → F) (multiMux1 : (Fin 2 → Fin 2 → F) → F → Fin 2 → F)
    (w : EligibilityPlonk F levels) : Prop where
  -- commitment = Poseidon(voterSecret, countryCode)
  commitHasher_inputs0 : w.commitHasher.inputs 0 = w.voterSecret
  commitHasher_inputs1 : w.commitHasher.inputs 1 = w.countryCode
  commitHasher_out : w.commitHasher.out =
    poseidon (w.commitHasher.inputs 0) (w.commitHasher.inputs 1)
  commitment : w.commitment = w.commitHasher.out
  -- nullifier = Poseidon(voterSecret, pollId)
  nullHasher_inputs0 : w.nullHasher.inputs 0 = w.voterSecret
  nullHasher_inputs1 : w.nullHasher.inputs 1 = w.pollId
  nullHasher_out : w.nullHasher.out = poseidon (w.nullHasher.inputs 0) (w.nullHasher.inputs 1)
  nullifier : w.nullHasher.out = w.nullifier
  -- the Merkle path
  levelHashes_zero : w.levelHashes 0 = w.commitment
  pathIndices_binary : ∀ i, w.pathIndices i * (w.pathIndices i - 1) = 0
  mux_c00 : ∀ i, (w.mux i).c 0 0 = w.levelHashes i.castSucc
  mux_c01 : ∀ i, (w.mux i).c 0 1 = w.pathElements i
  mux_c10 : ∀ i, (w.mux i).c 1 0 = w.pathElements i
  mux_c11 : ∀ i, (w.mux i).c 1 1 = w.levelHashes i.castSucc
  mux_s : ∀ i, (w.mux i).s = w.pathIndices i
  mux_out : ∀ i, (w.mux i).out = multiMux1 (w.mux i).c (w.mux i).s
  hashers_inputs0 : ∀ i, (w.hashers i).inputs 0 = (w.mux i).out 0
  hashers_inputs1 : ∀ i, (w.hashers i).inputs 1 = (w.mux i).out 1
  hashers_out : ∀ i, (w.hashers i).out =
    poseidon ((w.hashers i).inputs 0) ((w.hashers i).inputs 1)
  levelHashes_succ : ∀ i, w.levelHashes i.succ = (w.hashers i).out
  merkleRoot : w.levelHashes (Fin.last levels) = w.merkleRoot

/-- The pairs an assignment hashes on the way from the secret to the root. -/
def hashInputs (w : EligibilityPlonk F levels) : Set (F × F) :=
  insert (w.voterSecret, w.countryCode)
    (Set.range fun i => ((w.hashers i).inputs 0, (w.hashers i).inputs 1))

/-- A direction bit: `0` is a left child, `1` a right child. -/
def pathIndex (isRight : Bool) : F := if isRight then 1 else 0

/-- The path given by the directions and the siblings. -/
def path (isRight : Fin levels → Bool) (pathElements : Fin levels → F) (i : Fin levels) :
    PathStep F := ⟨isRight i, pathElements i⟩

/-- The root reached from the leaf of a voter. -/
def rootOf (poseidon : F → F → F) (isRight : Fin levels → Bool) (pathElements : Fin levels → F)
    (voterSecret countryCode : F) : F :=
  climb poseidon (List.ofFn (path isRight pathElements)) (poseidon voterSecret countryCode)

/-! ## Soundness -/

namespace Satisfies

variable {poseidon : F → F → F} {multiMux1 : (Fin 2 → Fin 2 → F) → F → Fin 2 → F}
  {w w₁ w₂ : EligibilityPlonk F levels}

theorem leaf_eq (sat : w.Satisfies poseidon multiMux1) :
    w.levelHashes 0 = poseidon w.voterSecret w.countryCode := by
  rw [sat.levelHashes_zero, sat.commitment, sat.commitHasher_out, sat.commitHasher_inputs0,
    sat.commitHasher_inputs1]

theorem nullifier_eq (sat : w.Satisfies poseidon multiMux1) :
    w.nullifier = poseidon w.voterSecret w.pollId := by
  rw [← sat.nullifier, sat.nullHasher_out, sat.nullHasher_inputs0, sat.nullHasher_inputs1]

/-- Every path index is a bit. -/
theorem exists_isRight (sat : w.Satisfies poseidon multiMux1) :
    ∃ isRight : Fin levels → Bool, ∀ i, w.pathIndices i = pathIndex (isRight i) := by
  have bit : ∀ i, ∃ side : Bool, w.pathIndices i = pathIndex side := by
    intro i
    rcases mul_eq_zero.mp (sat.pathIndices_binary i) with zero | one
    · exact ⟨false, zero⟩
    · exact ⟨true, sub_eq_zero.mp one⟩
  exact ⟨fun i => (bit i).choose, fun i => (bit i).choose_spec⟩

/-- The hasher of a level takes the children of the next node, in order. -/
theorem hashers_inputs (sat : w.Satisfies poseidon multiMux1) (selects : Selects multiMux1)
    {isRight : Fin levels → Bool} (bits : ∀ i, w.pathIndices i = pathIndex (isRight i))
    (i : Fin levels) :
    ((w.hashers i).inputs 0, (w.hashers i).inputs 1) =
      (path isRight w.pathElements i).children (w.levelHashes i.castSucc) := by
  rw [sat.hashers_inputs0, sat.hashers_inputs1, sat.mux_out, sat.mux_s, bits, path,
    PathStep.children]
  cases isRight i with
  | false =>
      simp only [pathIndex, Bool.false_eq_true, if_false]
      rw [selects.zero, selects.zero, sat.mux_c00, sat.mux_c10]
  | true =>
      simp only [pathIndex, if_true]
      rw [selects.one, selects.one, sat.mux_c01, sat.mux_c11]

theorem climbs (sat : w.Satisfies poseidon multiMux1) (selects : Selects multiMux1)
    {isRight : Fin levels → Bool} (bits : ∀ i, w.pathIndices i = pathIndex (isRight i))
    (i : Fin levels) :
    w.levelHashes i.succ =
      (path isRight w.pathElements i).parent poseidon (w.levelHashes i.castSucc) := by
  rw [sat.levelHashes_succ, sat.hashers_out, PathStep.parent, ← sat.hashers_inputs selects bits]

/-- **The root.**  It is reached from the leaf up the path. -/
theorem merkleRoot_eq (sat : w.Satisfies poseidon multiMux1) (selects : Selects multiMux1)
    {isRight : Fin levels → Bool} (bits : ∀ i, w.pathIndices i = pathIndex (isRight i)) :
    w.merkleRoot = rootOf poseidon isRight w.pathElements w.voterSecret w.countryCode := by
  rw [← sat.merkleRoot, climb_eq_last _ _ (sat.climbs selects bits), sat.leaf_eq, rootOf]

/-- What the climb hashes are inputs of the level hashers. -/
theorem mem_hashInputs (sat : w.Satisfies poseidon multiMux1) (selects : Selects multiMux1)
    {isRight : Fin levels → Bool} (bits : ∀ i, w.pathIndices i = pathIndex (isRight i))
    {pair : F × F} (hashed : pair ∈ hashedPairs poseidon
      (List.ofFn (path isRight w.pathElements)) (w.levelHashes 0)) :
    pair ∈ w.hashInputs := by
  obtain ⟨i, rfl⟩ := exists_of_mem_hashedPairs _ (sat.climbs selects bits) hashed
  exact Set.mem_insert_of_mem _ ⟨i, sat.hashers_inputs selects bits i⟩

/-- **Uniqueness.**  The root, the directions and the poll determine the secret,
the country and the nullifier. -/
theorem unique (sat₁ : w₁.Satisfies poseidon multiMux1) (sat₂ : w₂.Satisfies poseidon multiMux1)
    (selects : Selects multiMux1)
    (collisionFree : Set.InjOn (Function.uncurry poseidon) (w₁.hashInputs ∪ w₂.hashInputs))
    (sameRoot : w₁.merkleRoot = w₂.merkleRoot) (sameIndices : w₁.pathIndices = w₂.pathIndices)
    (samePoll : w₁.pollId = w₂.pollId) :
    w₁.voterSecret = w₂.voterSecret ∧ w₁.countryCode = w₂.countryCode ∧
      w₁.nullifier = w₂.nullifier := by
  obtain ⟨isRight, bits₁⟩ := sat₁.exists_isRight
  have bits₂ : ∀ i, w₂.pathIndices i = pathIndex (isRight i) := by
    rw [← sameIndices]
    exact bits₁
  have roots := sameRoot
  rw [sat₁.merkleRoot_eq selects bits₁, sat₂.merkleRoot_eq selects bits₂] at roots
  have sides : (List.ofFn (path isRight w₁.pathElements)).map PathStep.isRight =
      (List.ofFn (path isRight w₂.pathElements)).map PathStep.isRight := by
    simp only [List.map_ofFn]
    rfl
  obtain ⟨sameLeaf, -⟩ := climb_injective collisionFree
    (fun pair hashed => Or.inl (sat₁.mem_hashInputs selects bits₁ (sat₁.leaf_eq ▸ hashed)))
    (fun pair hashed => Or.inr (sat₂.mem_hashInputs selects bits₂ (sat₂.leaf_eq ▸ hashed)))
    sides roots
  obtain ⟨sameSecret, sameCountry⟩ := Prod.mk.inj (collisionFree
    (Or.inl (Set.mem_insert (w₁.voterSecret, w₁.countryCode) _))
    (Or.inr (Set.mem_insert (w₂.voterSecret, w₂.countryCode) _)) sameLeaf)
  refine ⟨sameSecret, sameCountry, ?_⟩
  rw [sat₁.nullifier_eq, sat₂.nullifier_eq, sameSecret, samePoll]

end Satisfies

/-! ## Completeness -/

/-- The assignment the witness generator computes from a path. -/
def witness (poseidon : F → F → F) (multiMux1 : (Fin 2 → Fin 2 → F) → F → Fin 2 → F)
    (isRight : Fin levels → Bool) (pathElements : Fin levels → F)
    (voterSecret countryCode pollId : F) : EligibilityPlonk F levels :=
  let commitment := poseidon voterSecret countryCode
  let steps := path isRight pathElements
  let levelHashes := nodeAt poseidon steps commitment
  let c (i : Fin levels) : Fin 2 → Fin 2 → F :=
    ![![levelHashes i.castSucc, pathElements i], ![pathElements i, levelHashes i.castSucc]]
  let selected (i : Fin levels) := multiMux1 (c i) (pathIndex (isRight i))
  { merkleRoot := rootOf poseidon isRight pathElements voterSecret countryCode
    nullifier := poseidon voterSecret pollId
    pollId := pollId
    countryCode := countryCode
    voterSecret := voterSecret
    pathElements := pathElements
    pathIndices := fun i => pathIndex (isRight i)
    commitHasher := ⟨![voterSecret, countryCode], commitment⟩
    commitment := commitment
    nullHasher := ⟨![voterSecret, pollId], poseidon voterSecret pollId⟩
    hashers := fun i => ⟨selected i, poseidon (selected i 0) (selected i 1)⟩
    mux := fun i => ⟨c i, pathIndex (isRight i), selected i⟩
    levelHashes := levelHashes }

/-- **Completeness.**  The generated assignment satisfies every constraint. -/
theorem satisfies_witness (poseidon : F → F → F)
    {multiMux1 : (Fin 2 → Fin 2 → F) → F → Fin 2 → F} (selects : Selects multiMux1)
    (isRight : Fin levels → Bool) (pathElements : Fin levels → F)
    (voterSecret countryCode pollId : F) :
    (witness poseidon multiMux1 isRight pathElements voterSecret countryCode pollId).Satisfies
      poseidon multiMux1 where
  commitHasher_inputs0 := rfl
  commitHasher_inputs1 := rfl
  commitHasher_out := rfl
  commitment := rfl
  nullHasher_inputs0 := rfl
  nullHasher_inputs1 := rfl
  nullHasher_out := rfl
  nullifier := rfl
  levelHashes_zero := rfl
  pathIndices_binary i := by
    simp only [witness, pathIndex]
    cases isRight i <;> simp
  mux_c00 _ := rfl
  mux_c01 _ := rfl
  mux_c10 _ := rfl
  mux_c11 _ := rfl
  mux_s _ := rfl
  mux_out _ := rfl
  hashers_inputs0 _ := rfl
  hashers_inputs1 _ := rfl
  hashers_out _ := rfl
  levelHashes_succ i := by
    simp only [witness]
    rw [nodeAt_succ, PathStep.parent, path, PathStep.children]
    -- the two children are swapped where the node is the right one
    cases isRight i with
    | false =>
        simp only [pathIndex, Bool.false_eq_true, if_false]
        rw [selects.zero, selects.zero]
        rfl
    | true =>
        simp only [pathIndex, if_true]
        rw [selects.one, selects.one]
        rfl
  merkleRoot := nodeAt_last _ _

/-! ## The circuit as a whole -/

/-- **The eligibility circuit.**  A satisfying assignment has the root of its
path; root, directions and poll determine secret, country and nullifier; and
every path is the path of a satisfying assignment. -/
theorem eligibilityPlonk_sound_and_complete {F : Type} [Field F] (poseidon : F → F → F)
    (multiMux1 : (Fin 2 → Fin 2 → F) → F → Fin 2 → F) (selects : Selects multiMux1)
    (levels : ℕ) :
    (∀ w : EligibilityPlonk F levels, w.Satisfies poseidon multiMux1 →
      ∃ isRight : Fin levels → Bool, (∀ i, w.pathIndices i = pathIndex (isRight i)) ∧
        w.merkleRoot = rootOf poseidon isRight w.pathElements w.voterSecret w.countryCode) ∧
    (∀ w₁ w₂ : EligibilityPlonk F levels,
      w₁.Satisfies poseidon multiMux1 → w₂.Satisfies poseidon multiMux1 →
      Set.InjOn (Function.uncurry poseidon) (w₁.hashInputs ∪ w₂.hashInputs) →
      w₁.merkleRoot = w₂.merkleRoot → w₁.pathIndices = w₂.pathIndices →
      w₁.pollId = w₂.pollId →
      w₁.voterSecret = w₂.voterSecret ∧ w₁.countryCode = w₂.countryCode ∧
        w₁.nullifier = w₂.nullifier) ∧
    ∀ (isRight : Fin levels → Bool) (pathElements : Fin levels → F)
      (voterSecret countryCode pollId : F),
      ∃ w : EligibilityPlonk F levels, w.Satisfies poseidon multiMux1 ∧
        w.voterSecret = voterSecret ∧ w.countryCode = countryCode ∧ w.pollId = pollId ∧
        w.pathElements = pathElements ∧ (∀ i, w.pathIndices i = pathIndex (isRight i)) ∧
        w.merkleRoot = rootOf poseidon isRight pathElements voterSecret countryCode ∧
        w.nullifier = poseidon voterSecret pollId := by
  refine ⟨?sound, ?unique, ?complete⟩
  case sound =>
    intro w sat
    obtain ⟨isRight, bits⟩ := sat.exists_isRight
    exact ⟨isRight, bits, sat.merkleRoot_eq selects bits⟩
  case unique =>
    intro w₁ w₂ sat₁ sat₂ collisionFree sameRoot sameIndices samePoll
    exact sat₁.unique sat₂ selects collisionFree sameRoot sameIndices samePoll
  case complete =>
    intro isRight pathElements voterSecret countryCode pollId
    exact ⟨_, satisfies_witness poseidon selects isRight pathElements voterSecret countryCode
      pollId, rfl, rfl, rfl, rfl, fun _ => rfl, rfl, rfl⟩

/-! ## A voter one level below the root -/

/-- Digests of the pairs hashed for the secret `1`, the country `GB`, the poll
`7` and the sibling `5` on the left. -/
def samplePoseidon (left right : Fp) : Fp :=
  if left = 1 ∧ right = 18242 then
    18012978794395589572924645301641309002223036117157057201021476977130850649136
  else if left = 1 ∧ right = 7 then
    2324422178138999802353597641701330110253732970029014650284828039388354214723
  else if left = 5 ∧
      right = 18012978794395589572924645301641309002223036117157057201021476977130850649136 then
    15276420892481442742472767594508775558335765960932328518194565122038400684435
  else 0

/-- The selection as circomlib computes it. -/
def sampleMultiMux1 (c : Fin 2 → Fin 2 → Fp) (s : Fp) (i : Fin 2) : Fp :=
  (c i 1 - c i 0) * s + c i 0

theorem selects_sampleMultiMux1 : Selects sampleMultiMux1 := by
  constructor <;> intro c i <;> simp [sampleMultiMux1]

/-- The assignment of that voter. -/
def sampleVoter : EligibilityPlonk Fp 1 :=
  witness samplePoseidon sampleMultiMux1 (fun _ => true) (fun _ => 5) 1 18242 7

theorem injOn_hashInputs_sampleVoter :
    Set.InjOn (Function.uncurry samplePoseidon)
      (sampleVoter.hashInputs ∪ sampleVoter.hashInputs) := by
  have hashed : ∀ pair ∈ sampleVoter.hashInputs ∪ sampleVoter.hashInputs,
      pair = (1, 18242) ∨ pair = (5, samplePoseidon 1 18242) := by
    rw [Set.union_self]
    rintro pair (leaf | ⟨i, rfl⟩)
    · exact Or.inl leaf
    · right
      fin_cases i
      decide
  intro pair₁ mem₁ pair₂ mem₂ same
  rcases hashed pair₁ mem₁ with rfl | rfl <;> rcases hashed pair₂ mem₂ with rfl | rfl
  · rfl
  · exact absurd same (by decide)
  · exact absurd same (by decide)
  · rfl

/-- The voter's assignment satisfies the circuit, and hashes no two pairs alike. -/
theorem eligibilityPlonk_sound_and_complete_sample :
    (∃ isRight : Fin 1 → Bool, (∀ i, sampleVoter.pathIndices i = pathIndex (isRight i)) ∧
      sampleVoter.merkleRoot = rootOf samplePoseidon isRight sampleVoter.pathElements 1 18242) ∧
    sampleVoter.merkleRoot =
      15276420892481442742472767594508775558335765960932328518194565122038400684435 ∧
    sampleVoter.nullifier =
      2324422178138999802353597641701330110253732970029014650284828039388354214723 ∧
    Set.InjOn (Function.uncurry samplePoseidon)
      (sampleVoter.hashInputs ∪ sampleVoter.hashInputs) :=
  ⟨(eligibilityPlonk_sound_and_complete samplePoseidon sampleMultiMux1
      selects_sampleMultiMux1 1).1 sampleVoter
      (satisfies_witness _ selects_sampleMultiMux1 _ _ _ _ _),
    by decide, by decide, injOn_hashInputs_sampleVoter⟩

end EligibilityPlonk

end TheVoteApp.Circuits
