import TheVoteApp.Foundations.DoubleAndAdd

/-!
# The two primes of Baby Jubjub

The curve lives over the scalar field of BN254, of `fieldModulus` elements; its
base point generates a subgroup of `subgroupOrder` elements.  Both numbers are
prime.  The proof is a table of Lucas certificates, in which the larger factors
of a number's predecessor have entries of their own.
-/

namespace TheVoteApp.BabyJubjub

open Foundations

/-- The modulus `p` of the coordinates. -/
def fieldModulus : ℕ :=
  21888242871839275222246405745257275088548364400416034343698204186575808495617

/-- The order of the base point. -/
def subgroupOrder : ℕ :=
  2736030358979909402780800718157159386076813972158567259200215660948447373041

/-- The prime factors below a million that occur. -/
def smallPrimes : List ℕ :=
  [2, 3, 5, 7, 11, 13, 17, 19, 23, 29, 37, 83, 107, 229, 349, 379, 521, 661, 823, 853, 967, 983,
    1061, 1637, 3691, 4139, 4999, 6323, 11003, 27743, 33409, 41927, 43189, 93001, 237073, 295049,
    336157, 513749]

/-- The entries for both numbers and for the larger factors they lead to. -/
def certificates : List LucasEntry :=
  [⟨1593227, 2, [(2, 1), (19, 1), (41927, 1)]⟩,
    ⟨639533339, 2, [(2, 1), (229, 1), (853, 1), (1637, 1)]⟩,
    ⟨65865678001877903, 5, [(2, 1), (83, 1), (379, 1), (1637, 1), (639533339, 1)]⟩,
    ⟨13818364434197438864469338081, 3, [(2, 5), (5, 1), (823, 1), (1593227, 1),
      (65865678001877903, 1)]⟩,
    ⟨12048837557, 2, [(2, 2), (7, 2), (661, 1), (93001, 1)]⟩,
    ⟨5156902474397, 2, [(2, 2), (107, 1), (12048837557, 1)]⟩,
    ⟨1670836401704629, 2, [(2, 2), (3, 4), (5156902474397, 1)]⟩,
    ⟨405928799, 22, [(2, 1), (11, 1), (3691, 1), (4999, 1)]⟩,
    ⟨fieldModulus, 5, [(2, 28), (3, 2), (13, 1), (29, 1), (983, 1), (11003, 1), (237073, 1),
      (405928799, 1), (1670836401704629, 1), (13818364434197438864469338081, 1)]⟩,
    ⟨25485742523, 2, [(2, 1), (43189, 1), (295049, 1)]⟩,
    ⟨202795150404015601, 7, [(2, 4), (3, 1), (5, 2), (19, 1), (349, 1), (25485742523, 1)]⟩,
    ⟨431548080059745198929, 3, [(2, 4), (7, 1), (19, 1), (202795150404015601, 1)]⟩,
    ⟨32151195060611136810608359, 3, [(2, 1), (3, 2), (4139, 1), (431548080059745198929, 1)]⟩,
    ⟨10206821, 2, [(2, 2), (5, 1), (13, 1), (37, 1), (1061, 1)]⟩,
    ⟨81654569, 3, [(2, 3), (10206821, 1)]⟩,
    ⟨27892051421815855583579, 2, [(2, 1), (23, 1), (521, 1), (27743, 1), (513749, 1),
      (81654569, 1)]⟩,
    ⟨1863691091902891838383581623, 5, [(2, 1), (33409, 1), (27892051421815855583579, 1)]⟩,
    ⟨178259130663561045147472537592047227885001, 14, [(2, 3), (3, 2), (5, 4), (6323, 1),
      (336157, 1), (1863691091902891838383581623, 1)]⟩,
    ⟨subgroupOrder, 31, [(2, 4), (3, 1), (5, 1), (11, 2), (17, 1), (967, 1),
      (32151195060611136810608359, 1), (178259130663561045147472537592047227885001, 1)]⟩]

theorem prime_of_mem_smallPrimes : ∀ q ∈ smallPrimes, q.Prime := by
  simp only [smallPrimes, List.forall_mem_cons, List.not_mem_nil, false_imp_iff, implies_true,
    and_true]
  norm_num

theorem checkTable_certificates : checkTable smallPrimes certificates = true := by
  decide +kernel

theorem prime_of_mem_certificates {n : ℕ} (mem : n ∈ certificates.map LucasEntry.number) :
    n.Prime := by
  obtain ⟨e, listed, rfl⟩ := List.mem_map.mp mem
  exact prime_of_checkTable prime_of_mem_smallPrimes checkTable_certificates e listed

theorem prime_fieldModulus : fieldModulus.Prime :=
  prime_of_mem_certificates (by decide)

theorem prime_subgroupOrder : subgroupOrder.Prime :=
  prime_of_mem_certificates (by decide)

end TheVoteApp.BabyJubjub
