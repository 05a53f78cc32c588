import TheVoteApp.BabyJubjub.Curve
import TheVoteApp.Foundations.ElGamal

/-!
# The encrypted vote circuit

The constraint system of `homomorphic_vote.circom`.  An assignment gives a value
to every signal of `HomomorphicVote()`, those of its components included;
`Satisfies` is the list of its constraints.

The templates of circomlib are parameters: `Circomlib` says which values of its
ports each of them admits, `Documented` what they are documented to compute.
The fixed-base template is taken with the finished table of the base point, of
which the source shows the first entry only.

## Main results

* `Satisfies.ciphertext_eq` — a satisfying assignment encrypts a bit
* `exists_satisfies_iff` — the satisfiable public signals are the encryptions of
  bits, for every poll
* `Satisfies.vote_unique` — a ciphertext has one vote, and one scalar up to the
  order of the base point

## Design notes

`Num2Bits_strict` yields 254 bits and the multiplications take 253 of them, so
the randomness of the ciphertext is `r % 2 ^ 253` and not `r`
(`HomomorphicVote.opening`).
-/

namespace TheVoteApp.Circuits

open Foundations BabyJubjub

/-- The coordinates of a point, as signals. -/
def signals (P : curve.Point) : Fp × Fp := (P.x, P.y)

theorem signals_injective : Function.Injective signals := by
  intro P Q same
  obtain ⟨x, y⟩ := Prod.mk.inj same
  exact TwistedEdwards.Point.ext x y

/-- The lowest `n` bits of a number, as signals. -/
def bitSignals (n k : ℕ) (i : Fin n) : Fp := if k.testBit i then 1 else 0

theorem bitSignals_injOn {n k k' : ℕ} (small : k < 2 ^ n) (small' : k' < 2 ^ n)
    (same : bitSignals n k = bitSignals n k') : k = k' := by
  apply Nat.eq_of_testBit_eq
  intro i
  by_cases inside : i < n
  · have bit := congrFun same ⟨i, inside⟩
    simp only [bitSignals] at bit
    split at bit <;> split at bit <;> simp_all
  · have high : 2 ^ n ≤ 2 ^ i := Nat.pow_le_pow_right (by omega) (by omega)
    rw [Nat.testBit_lt_two_pow (by omega), Nat.testBit_lt_two_pow (by omega)]

/-- Dropping the high bits. -/
theorem bitSignals_mod (n k : ℕ) : bitSignals n (k % 2 ^ n) = bitSignals n k := by
  funext i
  simp [bitSignals, Nat.testBit_mod_two_pow]

/-! ## The templates of circomlib -/

/-- Which values of their ports the templates admit. -/
structure Circomlib where
  num2BitsStrict : Fp → (Fin 254 → Fp) → Prop
  escalarMulFix : (n : ℕ) → (Fin n → Fp) → Fp × Fp → Prop
  escalarMulAny : (n : ℕ) → Fp × Fp → (Fin n → Fp) → Fp × Fp → Prop
  mux1 : (Fin 2 → Fp) → Fp → Fp → Prop
  babyAdd : Fp × Fp → Fp × Fp → Fp × Fp → Prop

/-- What the templates are documented to compute, for the inputs this circuit
has: bits of a number below `2 ^ 253`, points of the curve, multiples of the
base point. -/
structure Circomlib.Documented (lib : Circomlib) : Prop where
  num2BitsStrict : ∀ x out, lib.num2BitsStrict x out ↔ out = bitSignals 254 x.val
  escalarMulFix : ∀ (k : ℕ) out, k < 2 ^ 253 →
    (lib.escalarMulFix 253 (bitSignals 253 k) out ↔ out = signals (k • base))
  escalarMulAny : ∀ (sk k : ℕ) out, k < 2 ^ 253 →
    (lib.escalarMulAny 253 (signals (sk • base)) (bitSignals 253 k) out ↔
      out = signals (k • sk • base))
  mux1_zero : ∀ c out, lib.mux1 c 0 out ↔ out = c 0
  mux1_one : ∀ c out, lib.mux1 c 1 out ↔ out = c 1
  babyAdd : ∀ P Q out, lib.babyAdd (signals P) (signals Q) out ↔ out = signals (P + Q)

/-- The templates as the graphs of what they compute. -/
def Circomlib.graphs : Circomlib where
  num2BitsStrict x out := out = bitSignals 254 x.val
  escalarMulFix n e out := ∃ k < 2 ^ n, e = bitSignals n k ∧ out = signals (k • base)
  escalarMulAny n p e out :=
    ∃ P k, k < 2 ^ n ∧ p = signals P ∧ e = bitSignals n k ∧ out = signals (k • P)
  mux1 c s out := ∀ i, s = (i.val : Fp) → out = c i
  babyAdd p q out := out = (curve.addX p.1 p.2 q.1 q.2, curve.addY p.1 p.2 q.1 q.2)

theorem Circomlib.documented_graphs : Circomlib.graphs.Documented where
  num2BitsStrict _ _ := Iff.rfl
  escalarMulFix k out small := by
    constructor
    · rintro ⟨k', small', same, rfl⟩
      rw [bitSignals_injOn small small' same]
    · rintro rfl
      exact ⟨k, small, rfl, rfl⟩
  escalarMulAny sk k out small := by
    constructor
    · rintro ⟨P, k', small', point, same, rfl⟩
      rw [bitSignals_injOn small small' same, signals_injective point]
    · rintro rfl
      exact ⟨_, k, small, rfl, rfl, rfl⟩
  mux1_zero c out := by
    refine ⟨fun graph => graph 0 (by simp), ?_⟩
    rintro rfl i same
    rcases Fin.exists_fin_two.mp ⟨i, rfl⟩ with rfl | rfl
    · rfl
    · simp at same
  mux1_one c out := by
    refine ⟨fun graph => graph 1 (by simp), ?_⟩
    rintro rfl i same
    rcases Fin.exists_fin_two.mp ⟨i, rfl⟩ with rfl | rfl
    · simp at same
    · rfl
  babyAdd _ _ _ := Iff.rfl

/-! ## The circuit -/

/-- The signals of `BabyPbkBits(n)`. -/
structure BabyPbkBits (n : ℕ) where
  bits : Fin n → Fp
  out : Fp × Fp
  mulG_e : Fin n → Fp
  mulG_out : Fp × Fp

/-- The constraints of `BabyPbkBits(n)`. -/
structure BabyPbkBits.Satisfies {n : ℕ} (w : BabyPbkBits n) (lib : Circomlib) : Prop where
  mulG : lib.escalarMulFix n w.mulG_e w.mulG_out
  mulG_e : ∀ i, w.mulG_e i = w.bits i
  out0 : w.out.1 = w.mulG_out.1
  out1 : w.out.2 = w.mulG_out.2

/-- The signals of a component `Mux1`. -/
structure Mux1 where
  c : Fin 2 → Fp
  s : Fp
  out : Fp

/-- The signals of a component `BabyAdd`. -/
structure BabyAdd where
  x1 : Fp
  y1 : Fp
  x2 : Fp
  y2 : Fp
  xout : Fp
  yout : Fp

/-- An assignment of `HomomorphicVote()`. -/
structure HomomorphicVote where
  -- public signals
  pk : Fp × Fp
  C1 : Fp × Fp
  C2 : Fp × Fp
  pollId : Fp
  -- private signals
  v : Fp
  r : Fp
  -- intermediate signals
  vCheck : Fp
  rBits_in : Fp
  rBits_out : Fin 254 → Fp
  rG : BabyPbkBits 253
  rPK_p : Fp × Fp
  rPK_e : Fin 253 → Fp
  rPK_out : Fp × Fp
  selX : Mux1
  selY : Mux1
  addC2 : BabyAdd
  pollIdSquare : Fp

namespace HomomorphicVote

/-- The constraints. -/
structure Satisfies (w : HomomorphicVote) (lib : Circomlib) : Prop where
  -- v ∈ {0, 1}
  vCheck : w.vCheck = w.v * (1 - w.v)
  vCheck_zero : w.vCheck = 0
  -- the bits of r
  rBits : lib.num2BitsStrict w.rBits_in w.rBits_out
  rBits_in : w.rBits_in = w.r
  -- C1 = r * G
  rG : w.rG.Satisfies lib
  rG_bits : ∀ i : Fin 253, w.rG.bits i = w.rBits_out i.castSucc
  C1_x : w.C1.1 = w.rG.out.1
  C1_y : w.C1.2 = w.rG.out.2
  -- r * PK
  rPK : lib.escalarMulAny 253 w.rPK_p w.rPK_e w.rPK_out
  rPK_p0 : w.rPK_p.1 = w.pk.1
  rPK_p1 : w.rPK_p.2 = w.pk.2
  rPK_e : ∀ i : Fin 253, w.rPK_e i = w.rBits_out i.castSucc
  -- v * G
  selX : lib.mux1 w.selX.c w.selX.s w.selX.out
  selY : lib.mux1 w.selY.c w.selY.s w.selY.out
  selX_c0 : w.selX.c 0 = 0
  selX_c1 : w.selX.c 1 = (baseX : Fp)
  selX_s : w.selX.s = w.v
  selY_c0 : w.selY.c 0 = 1
  selY_c1 : w.selY.c 1 = (baseY : Fp)
  selY_s : w.selY.s = w.v
  -- C2 = v * G + r * PK
  addC2 : lib.babyAdd (w.addC2.x1, w.addC2.y1) (w.addC2.x2, w.addC2.y2)
    (w.addC2.xout, w.addC2.yout)
  addC2_x1 : w.addC2.x1 = w.selX.out
  addC2_y1 : w.addC2.y1 = w.selY.out
  addC2_x2 : w.addC2.x2 = w.rPK_out.1
  addC2_y2 : w.addC2.y2 = w.rPK_out.2
  C2_x : w.C2.1 = w.addC2.xout
  C2_y : w.C2.2 = w.addC2.yout
  -- the poll, which no other constraint mentions
  pollIdSquare : w.pollIdSquare = w.pollId * w.pollId

/-- The vote and the scalar an assignment encrypts: the highest of the 254 bits
of `r` is not used. -/
def opening (w : HomomorphicVote) : Opening := ⟨w.v.val, w.r.val % 2 ^ 253⟩

/-- The ciphertext of an opening, as signals. -/
def encryption (sk : ℕ) (o : Opening) : (Fp × Fp) × (Fp × Fp) :=
  ((ElGamal.encrypt base (sk • base) o).map signals signals)

/-! ## Soundness -/

namespace Satisfies

variable {lib : Circomlib} {w w₁ w₂ : HomomorphicVote} {sk : ℕ}

/-- The vote is a bit. -/
theorem vote_cases (sat : w.Satisfies lib) : w.v = 0 ∨ w.v = 1 := by
  have product : w.v * (1 - w.v) = 0 := by rw [← sat.vCheck, sat.vCheck_zero]
  rcases mul_eq_zero.mp product with zero | one
  · exact Or.inl zero
  · exact Or.inr (sub_eq_zero.mp one).symm

theorem opening_value_le (sat : w.Satisfies lib) : w.opening.value ≤ 1 := by
  have one : (1 : Fp).val = 1 := ZMod.val_one fieldModulus
  rcases sat.vote_cases with zero | vote
  · simp [opening, zero]
  · simp [opening, vote, one]

/-- Both multiplications take the low bits of `r`. -/
theorem lowBits (sat : w.Satisfies lib) (doc : lib.Documented) :
    (fun i : Fin 253 => w.rBits_out i.castSucc) = bitSignals 253 w.opening.randomness := by
  have bits := (doc.num2BitsStrict _ _).mp sat.rBits
  rw [opening, bitSignals_mod]
  funext i
  rw [bits, sat.rBits_in]
  rfl

theorem randomness_lt (w : HomomorphicVote) : w.opening.randomness < 2 ^ 253 :=
  Nat.mod_lt _ (Nat.two_pow_pos 253)

theorem C1_eq (sat : w.Satisfies lib) (doc : lib.Documented) :
    w.C1 = signals (w.opening.randomness • base) := by
  have bits : w.rG.mulG_e = bitSignals 253 w.opening.randomness := by
    rw [← sat.lowBits doc]
    funext i
    rw [sat.rG.mulG_e, sat.rG_bits]
  have product := sat.rG.mulG
  rw [bits, doc.escalarMulFix _ _ (randomness_lt w)] at product
  exact Prod.ext (by rw [sat.C1_x, sat.rG.out0, product]) (by rw [sat.C1_y, sat.rG.out1, product])

theorem rPK_out_eq (sat : w.Satisfies lib) (doc : lib.Documented)
    (key : w.pk = signals (sk • base)) :
    w.rPK_out = signals (w.opening.randomness • sk • base) := by
  have bits : w.rPK_e = bitSignals 253 w.opening.randomness := by
    rw [← sat.lowBits doc]
    exact funext sat.rPK_e
  have point : w.rPK_p = signals (sk • base) := by
    rw [← key]
    exact Prod.ext sat.rPK_p0 sat.rPK_p1
  have product := sat.rPK
  rwa [bits, point, doc.escalarMulAny _ _ _ (randomness_lt w)] at product

/-- The selectors choose the neutral element or the base point. -/
theorem sel_out (sat : w.Satisfies lib) (doc : lib.Documented) :
    (w.selX.out, w.selY.out) = signals (w.opening.value • base) := by
  have one : (1 : Fp).val = 1 := ZMod.val_one fieldModulus
  have selX := sat.selX
  have selY := sat.selY
  rw [sat.selX_s] at selX
  rw [sat.selY_s] at selY
  rcases sat.vote_cases with zero | vote
  · rw [zero, doc.mux1_zero] at selX selY
    rw [selX, selY, sat.selX_c0, sat.selY_c0, opening, zero, ZMod.val_zero, zero_nsmul]
    rfl
  · rw [vote, doc.mux1_one] at selX selY
    rw [selX, selY, sat.selX_c1, sat.selY_c1, opening, vote, one, one_nsmul]
    rfl

/-- **Soundness.**  Under the key of `sk`, the ciphertext of a satisfying
assignment encrypts its vote. -/
theorem ciphertext_eq (sat : w.Satisfies lib) (doc : lib.Documented)
    (key : w.pk = signals (sk • base)) : (w.C1, w.C2) = encryption sk w.opening := by
  have sum := sat.addC2
  rw [sat.addC2_x1, sat.addC2_y1, sat.addC2_x2, sat.addC2_y2, Prod.mk.eta,
    sat.sel_out doc, sat.rPK_out_eq doc key, doc.babyAdd] at sum
  have second : w.C2 = (w.addC2.xout, w.addC2.yout) := Prod.ext sat.C2_x sat.C2_y
  rw [sat.C1_eq doc, second, sum]
  rfl

/-- **The vote is determined by the ciphertext**, and the scalar up to the order of
the base point, whatever the polls. -/
theorem vote_unique (sat₁ : w₁.Satisfies lib) (sat₂ : w₂.Satisfies lib) (doc : lib.Documented)
    (key : w₁.pk = signals (sk • base)) (samePk : w₁.pk = w₂.pk) (sameC1 : w₁.C1 = w₂.C1)
    (sameC2 : w₁.C2 = w₂.C2) :
    w₁.v = w₂.v ∧
      w₁.opening.randomness % subgroupOrder = w₂.opening.randomness % subgroupOrder := by
  have first := sat₁.ciphertext_eq doc key
  have second := sat₂.ciphertext_eq doc (samePk ▸ key)
  rw [sameC1, sameC2, second] at first
  have cipher : ElGamal.encrypt base (sk • base) w₂.opening =
      ElGamal.encrypt base (sk • base) w₁.opening :=
    (signals_injective.prodMap signals_injective) first
  have one_lt : 1 < subgroupOrder := prime_subgroupOrder.one_lt
  constructor
  · have votes := congrArg (ElGamal.decrypt sk) cipher
    rw [ElGamal.decrypt_encrypt, ElGamal.decrypt_encrypt] at votes
    have bound₁ := sat₁.opening_value_le
    have bound₂ := sat₂.opening_value_le
    exact ZMod.val_injective _ (nsmul_base_injOn (by omega) (by omega) votes).symm
  · have scalars : w₂.opening.randomness • base = w₁.opening.randomness • base :=
      congrArg Prod.fst cipher
    rw [nsmul_eq_nsmul_iff_modEq, addOrderOf_base] at scalars
    exact scalars.symm

end Satisfies

/-! ## Completeness -/

/-- The assignment the witness generator computes from a vote and a scalar. -/
def witness (sk : ℕ) (o : Opening) (pollId : Fp) : HomomorphicVote :=
  let v : Fp := o.value
  let r : Fp := o.randomness
  let C1 := signals (o.randomness • base)
  let rPK := signals (o.randomness • sk • base)
  let vG := signals (o.value • base)
  let C2 := signals (o.value • base + o.randomness • sk • base)
  { pk := signals (sk • base)
    C1 := C1
    C2 := C2
    pollId := pollId
    v := v
    r := r
    vCheck := v * (1 - v)
    rBits_in := r
    rBits_out := bitSignals 254 o.randomness
    rG := ⟨bitSignals 253 o.randomness, C1, bitSignals 253 o.randomness, C1⟩
    rPK_p := signals (sk • base)
    rPK_e := bitSignals 253 o.randomness
    rPK_out := rPK
    selX := ⟨![0, baseX], v, vG.1⟩
    selY := ⟨![1, baseY], v, vG.2⟩
    addC2 := ⟨vG.1, vG.2, rPK.1, rPK.2, C2.1, C2.2⟩
    pollIdSquare := pollId * pollId }

theorem two_pow_lt_fieldModulus : 2 ^ 253 < fieldModulus := by decide

/-- **Completeness.**  The generated assignment of a bit satisfies every
constraint. -/
theorem satisfies_witness {lib : Circomlib} (doc : lib.Documented) (sk : ℕ) (o : Opening)
    (bit : o.value ≤ 1) (small : o.randomness < 2 ^ 253) (pollId : Fp) :
    (witness sk o pollId).Satisfies lib where
  vCheck := rfl
  vCheck_zero := by
    have cases : o.value = 0 ∨ o.value = 1 := by omega
    rcases cases with zero | one
    · simp [witness, zero]
    · simp [witness, one]
  rBits := by
    have reduced : ((o.randomness : ℕ) : Fp).val = o.randomness :=
      ZMod.val_natCast_of_lt (small.trans two_pow_lt_fieldModulus)
    rw [doc.num2BitsStrict]
    show bitSignals 254 o.randomness = bitSignals 254 ((o.randomness : ℕ) : Fp).val
    rw [reduced]
  rBits_in := rfl
  rG := ⟨(doc.escalarMulFix _ _ small).mpr rfl, fun _ => rfl, rfl, rfl⟩
  rG_bits _ := rfl
  C1_x := rfl
  C1_y := rfl
  rPK := (doc.escalarMulAny _ _ _ small).mpr rfl
  rPK_p0 := rfl
  rPK_p1 := rfl
  rPK_e _ := rfl
  selX := by
    have cases : o.value = 0 ∨ o.value = 1 := by omega
    rcases cases with zero | one
    · simp [witness, zero, doc.mux1_zero, signals]
    · simp [witness, one, doc.mux1_one, signals, base]
  selY := by
    have cases : o.value = 0 ∨ o.value = 1 := by omega
    rcases cases with zero | one
    · simp [witness, zero, doc.mux1_zero, signals]
    · simp [witness, one, doc.mux1_one, signals, base]
  selX_c0 := rfl
  selX_c1 := rfl
  selX_s := rfl
  selY_c0 := rfl
  selY_c1 := rfl
  selY_s := rfl
  addC2 := (doc.babyAdd _ _ _).mpr rfl
  addC2_x1 := rfl
  addC2_y1 := rfl
  addC2_x2 := rfl
  addC2_y2 := rfl
  C2_x := rfl
  C2_y := rfl
  pollIdSquare := rfl

/-- Scalars matter up to the order of the base point only. -/
theorem encrypt_mod (sk : ℕ) (o : Opening) :
    ElGamal.encrypt base (sk • base) ⟨o.value, o.randomness % subgroupOrder⟩ =
      ElGamal.encrypt base (sk • base) o := by
  have reduce : ∀ n : ℕ, (o.randomness % subgroupOrder) • n • base = o.randomness • n • base := by
    intro n
    rw [smul_comm _ n, smul_comm o.randomness n, ← addOrderOf_base, mod_addOrderOf_nsmul]
  have first := reduce 1
  rw [one_nsmul] at first
  rw [ElGamal.encrypt, ElGamal.encrypt, reduce sk, first]

/-- **The statement the circuit proves.**  For every poll, the satisfiable public
signals under the key of `sk` are the encryptions of `0` and of `1` with scalars of 253
bits; others give no other ciphertexts (`encrypt_mod`). -/
theorem exists_satisfies_iff {lib : Circomlib} (doc : lib.Documented) (sk : ℕ)
    (C1 C2 : Fp × Fp) (pollId : Fp) :
    (∃ w : HomomorphicVote, w.Satisfies lib ∧ w.pk = signals (sk • base) ∧ w.C1 = C1 ∧
        w.C2 = C2 ∧ w.pollId = pollId) ↔
      ∃ o : Opening, o.value ≤ 1 ∧ o.randomness < 2 ^ 253 ∧ (C1, C2) = encryption sk o := by
  constructor
  · rintro ⟨w, sat, key, rfl, rfl, -⟩
    have small : w.opening.randomness % subgroupOrder < 2 ^ 253 :=
      (Nat.mod_lt _ prime_subgroupOrder.pos).trans (by decide)
    refine ⟨⟨w.opening.value, w.opening.randomness % subgroupOrder⟩, sat.opening_value_le, small,
      ?_⟩
    rw [encryption, encrypt_mod]
    exact sat.ciphertext_eq doc key
  · rintro ⟨o, bit, small, cipher⟩
    obtain ⟨rfl, rfl⟩ := Prod.mk.inj cipher
    exact ⟨_, satisfies_witness doc sk o bit small pollId, rfl, rfl, rfl, rfl⟩

/-- The encryption of `1` with the scalar `1`, in two polls. -/
theorem exists_satisfies_iff_sample :
    (∃ w : HomomorphicVote, w.Satisfies Circomlib.graphs ∧ w.pk = signals (1 • base) ∧
        w.C1 = (encryption 1 ⟨1, 1⟩).1 ∧ w.C2 = (encryption 1 ⟨1, 1⟩).2 ∧ w.pollId = 7) ∧
      ∃ w : HomomorphicVote, w.Satisfies Circomlib.graphs ∧ w.pk = signals (1 • base) ∧
        w.C1 = (encryption 1 ⟨1, 1⟩).1 ∧ w.C2 = (encryption 1 ⟨1, 1⟩).2 ∧ w.pollId = 8 :=
  ⟨(exists_satisfies_iff Circomlib.documented_graphs 1 _ _ 7).mpr
      ⟨⟨1, 1⟩, le_rfl, Nat.one_lt_two_pow (by omega), rfl⟩,
    (exists_satisfies_iff Circomlib.documented_graphs 1 _ _ 8).mpr
      ⟨⟨1, 1⟩, le_rfl, Nat.one_lt_two_pow (by omega), rfl⟩⟩

/-- Two scalars that differ by the order of the base point give one ciphertext. -/
theorem vote_unique_sample :
    (witness 1 ⟨1, 1⟩ 7).v = (witness 1 ⟨1, 1 + subgroupOrder⟩ 8).v := by
  have small : 1 + subgroupOrder < 2 ^ 253 := by decide
  have period : ∀ P : curve.Point, subgroupOrder • P = 0 →
      (1 + subgroupOrder) • P = (1 : ℕ) • P := by
    intro P zero
    rw [add_nsmul, zero, add_zero]
  have first : signals ((1 : ℕ) • base) = signals ((1 + subgroupOrder) • base) := by
    rw [period base subgroupOrder_nsmul_base]
  have second : signals ((1 : ℕ) • base + (1 : ℕ) • (1 : ℕ) • base) =
      signals ((1 : ℕ) • base + (1 + subgroupOrder) • (1 : ℕ) • base) := by
    rw [period _ (by rw [one_nsmul, subgroupOrder_nsmul_base])]
  exact (Satisfies.vote_unique
    (satisfies_witness Circomlib.documented_graphs 1 ⟨1, 1⟩ le_rfl
      (Nat.one_lt_two_pow (by omega)) 7)
    (satisfies_witness Circomlib.documented_graphs 1 ⟨1, 1 + subgroupOrder⟩ le_rfl small 8)
    Circomlib.documented_graphs rfl rfl first second).1

end HomomorphicVote

end TheVoteApp.Circuits
