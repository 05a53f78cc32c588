import Mathlib

/-!
# Additively homomorphic ElGamal

Encryption of a number in the exponent, in an additive commutative group with a
base `g`: the ciphertext of `v` with randomness `r` under the key `k` is the
pair `(r • g, v • g + r • k)`.  Decryption with the secret key `sk` is a group
homomorphism, so the sum of the ciphertexts decrypts to the sum of the
plaintexts, whatever the randomness.
-/

namespace TheVoteApp.Foundations

universe u

/-- A plaintext and the randomness of its encryption. -/
structure Opening where
  value : ℕ
  randomness : ℕ
deriving DecidableEq

namespace ElGamal

variable {A : Type u} [AddCommGroup A]

/-- Encryption under the key `k`. -/
def encrypt (g k : A) (o : Opening) : A × A :=
  (o.randomness • g, o.value • g + o.randomness • k)

/-- Decryption up to the discrete logarithm. -/
def decrypt (sk : ℕ) : A × A →+ A where
  toFun c := c.2 - sk • c.1
  map_zero' := by rw [Prod.snd_zero, Prod.fst_zero, nsmul_zero, sub_zero]
  map_add' c c' := by
    rw [Prod.snd_add, Prod.fst_add, nsmul_add]
    abel

theorem decrypt_encrypt (sk : ℕ) (g : A) (o : Opening) :
    decrypt sk (encrypt g (sk • g) o) = o.value • g := by
  show o.value • g + o.randomness • sk • g - sk • o.randomness • g = o.value • g
  rw [smul_comm sk o.randomness g, add_sub_cancel_right]

/-- **The sum of encryptions decrypts to the sum of the plaintexts.** -/
theorem decrypt_sum_encrypt (sk : ℕ) (g : A) (openings : List Opening) :
    decrypt sk (openings.map (encrypt g (sk • g))).sum =
      (openings.map Opening.value).sum • g := by
  rw [map_list_sum, List.map_map]
  induction openings with
  | nil => rw [List.map_nil, List.map_nil, List.sum_nil, List.sum_nil, zero_nsmul]
  | cons o openings ih =>
      rw [List.map_cons, List.map_cons, List.sum_cons, List.sum_cons, add_nsmul, ih,
        Function.comp_apply, decrypt_encrypt]

end ElGamal

end TheVoteApp.Foundations
