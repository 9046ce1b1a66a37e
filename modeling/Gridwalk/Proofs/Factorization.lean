import Gridwalk.Number.Factor
import Mathlib.RingTheory.Radical.NatInt

/-! # Integers factor into primes

Trial division rests on one fact: no prime below the next trial divisor divides what is left. A
divisor that is found is therefore prime, and so is what is left below its square. The runs of equal
factors give the powers, and the bases of these runs the radical.
-/

namespace Gridwalk.Number
set_option autoImplicit false

/-- What is known before `d` is tried: no prime below `d` divides `rest`. After 2 only odd numbers
are tried. -/
structure Sifted (d rest : Nat) : Prop where
  trial : d = 2 ∨ d % 2 = 1
  le_of_prime : ∀ p : Nat, p.Prime → p ∣ rest → d ≤ p

namespace Sifted

variable {d rest : Nat}

theorem start (n : Nat) : Sifted 2 n where
  trial := .inl rfl
  le_of_prime := fun _ hp _ => hp.two_le

theorem divide (h : Sifted d rest) (hdvd : d ∣ rest) : Sifted d (rest / d) where
  trial := h.trial
  le_of_prime := fun p hp hpdvd => h.le_of_prime p hp (hpdvd.trans (Nat.div_dvd_of_dvd hdvd))

theorem next (h : Sifted d rest) (hd : 2 ≤ d) (hndvd : ¬ d ∣ rest) :
    Sifted (if d = 2 then 3 else d + 2) rest where
  trial := by
    right
    obtain rfl | hodd := h.trial
    · rfl
    · split <;> omega
  le_of_prime := by
    intro p hp hpdvd
    have hle := h.le_of_prime p hp hpdvd
    have hne : d ≠ p := by
      rintro rfl
      exact hndvd hpdvd
    split
    · omega
    -- The number that is skipped after an odd `d` is even, so that it is no prime.
    · have hodd := h.trial
      have hpodd := hp.eq_two_or_odd
      omega

theorem minFac_eq (h : Sifted d rest) (hd : 2 ≤ d) (hone : rest ≠ 1) (hdvd : d ∣ rest) :
    rest.minFac = d := by
  apply le_antisymm (Nat.minFac_le_of_dvd hd hdvd)
  exact h.le_of_prime _ (Nat.minFac_prime hone) (Nat.minFac_dvd rest)

theorem primeFactorsList_eq_cons (h : Sifted d rest) (hd : 2 ≤ d) (hrest : 2 ≤ rest)
    (hdvd : d ∣ rest) : rest.primeFactorsList = d :: (rest / d).primeFactorsList := by
  have hfac := h.minFac_eq hd (by omega) hdvd
  obtain ⟨m, rfl⟩ := Nat.exists_eq_add_of_le' hrest
  rw [Nat.primeFactorsList_add_two, hfac]

theorem prime_of_lt_sq (h : Sifted d rest) (hone : 1 < rest) (hlt : rest < d * d) : rest.Prime := by
  by_contra hcomposite
  have hle := h.le_of_prime _ (Nat.minFac_prime (by omega)) (Nat.minFac_dvd rest)
  have hsq : rest.minFac * rest.minFac ≤ rest := by
    simpa [pow_two] using Nat.minFac_sq_le_self (by omega) hcomposite
  have hsquares : d * d ≤ rest.minFac * rest.minFac := Nat.mul_le_mul hle hle
  omega

theorem factorsFrom_eq (h : Sifted d rest) (hd : 2 ≤ d) :
    factorsFrom d rest hd = rest.primeFactorsList := by
  fun_induction factorsFrom d rest hd with
  | case1 d rest hd hsq hmod ih =>
    have hdvd := Nat.dvd_of_mod_eq_zero hmod
    have hrest : 2 ≤ rest := hd.trans ((Nat.le_mul_self d).trans hsq)
    rw [ih (h.divide hdvd), h.primeFactorsList_eq_cons hd hrest hdvd]
  | case2 d rest hd hsq hmod ih =>
    apply ih
    exact h.next hd fun hdvd => hmod (Nat.mod_eq_zero_of_dvd hdvd)
  | case3 d rest hd hsq hone =>
    rw [Nat.primeFactorsList_prime (h.prime_of_lt_sq hone (by omega))]
  | case4 d rest hd hsq hone =>
    symm
    rw [Nat.primeFactorsList_eq_nil]
    omega

end Sifted

def expanded (pairs : List (Int × Nat)) : List Int :=
  pairs.flatMap fun pair => List.replicate pair.2 pair.1

structure Factorizes (n : Int) (factors : List Int) : Prop where
  signed_primes : ∃ primes : List Nat,
    factors = (if n < 0 then [-1] else []) ++ primes.map Int.ofNat ∧
      (∀ p ∈ primes, p.Prime) ∧ primes.Pairwise (· ≤ ·)
  prod_eq : factors.prod = n

structure Counts (pairs : List (Int × Nat)) (factors : List Int) : Prop where
  expanded_eq : expanded pairs = factors
  ascending : (pairs.map Prod.fst).Pairwise (· < ·)
  positive : ∀ pair ∈ pairs, 0 < pair.2

theorem expanded_cons (p : Int) (k : Nat) (pairs : List (Int × Nat)) :
    expanded ((p, k) :: pairs) = List.replicate k p ++ expanded pairs := rfl

theorem prod_expanded (pairs : List (Int × Nat)) :
    (expanded pairs).prod = (pairs.map fun pair => pair.1 ^ pair.2).prod := by
  induction pairs with
  | nil => rfl
  | cons pair pairs ih =>
    rw [expanded_cons, List.prod_append, List.prod_replicate, ih, List.map_cons, List.prod_cons]

namespace Counts

variable {p : Int} {k : Nat} {pairs : List (Int × Nat)} {factors : List Int}

theorem mem_bases_iff (h : Counts pairs factors) : p ∈ pairs.map Prod.fst ↔ p ∈ factors := by
  rw [← h.expanded_eq]
  simp only [List.mem_map, expanded, List.mem_flatMap, List.mem_replicate]
  constructor
  · rintro ⟨pair, hpair, rfl⟩
    exact ⟨pair, hpair, (h.positive pair hpair).ne', rfl⟩
  · rintro ⟨pair, hpair, -, rfl⟩
    exact ⟨pair, hpair, rfl⟩

theorem longerRun (h : Counts ((p, k) :: pairs) factors) :
    Counts ((p, k + 1) :: pairs) (p :: factors) where
  expanded_eq := by
    rw [← h.expanded_eq, expanded_cons, expanded_cons, List.replicate_succ, List.cons_append]
  ascending := h.ascending
  positive := by
    rintro pair (_ | ⟨_, hpair⟩)
    · exact Nat.succ_pos k
    · exact h.positive pair (List.mem_cons_of_mem _ hpair)

theorem newRun (h : Counts pairs factors)
    (hhead : ∀ q ∈ (pairs.map Prod.fst).head?, p < q) :
    Counts ((p, 1) :: pairs) (p :: factors) where
  expanded_eq := by
    rw [expanded_cons, h.expanded_eq]
    rfl
  ascending := by
    rw [List.map_cons, ← List.isChain_iff_pairwise, List.isChain_cons, List.isChain_iff_pairwise]
    exact ⟨hhead, h.ascending⟩
  positive := by
    rintro pair (_ | ⟨_, hpair⟩)
    · exact Nat.one_pos
    · exact h.positive pair hpair

end Counts

theorem runLengths_cons (p : Int) (ps : List Int) :
    (∃ k rest, runLengths ps = (p, k) :: rest ∧ runLengths (p :: ps) = (p, k + 1) :: rest) ∨
    ((∀ q ∈ ((runLengths ps).map Prod.fst).head?, p ≠ q) ∧
      runLengths (p :: ps) = (p, 1) :: runLengths ps) := by
  rw [runLengths]
  cases hrun : runLengths ps with
  | nil => simp
  | cons pair rest =>
    obtain ⟨q, k⟩ := pair
    by_cases hpq : p = q
    · subst hpq
      simp
    · simp [hpq]

theorem counts_runLengths {factors : List Int} (h : factors.Pairwise (· ≤ ·)) :
    Counts (runLengths factors) factors := by
  induction factors with
  | nil => exact ⟨rfl, .nil, List.forall_mem_nil _⟩
  | cons p ps ih =>
    obtain ⟨hle, hps⟩ := List.pairwise_cons.mp h
    have hcounts := ih hps
    obtain ⟨k, rest, hrun, hcons⟩ | ⟨hhead, hcons⟩ := runLengths_cons p ps
    · rw [hcons]
      rw [hrun] at hcounts
      exact hcounts.longerRun
    · rw [hcons]
      apply hcounts.newRun
      intro q hq
      have hmem := hcounts.mem_bases_iff.mp (List.mem_of_mem_head? hq)
      exact lt_of_le_of_ne (hle q hmem) (hhead q hq)

theorem Counts.prod_bases {pairs : List (Int × Nat)} {primes : List Nat}
    (h : Counts pairs (primes.map Int.ofNat)) :
    (pairs.map Prod.fst).prod = ∏ p ∈ primes.toFinset, (p : Int) := by
  have hnodup : (pairs.map Prod.fst).Nodup := h.ascending.imp fun hlt => hlt.ne
  have hset : (pairs.map Prod.fst).toFinset = primes.toFinset.map Nat.castEmbedding := by
    ext q
    rw [List.mem_toFinset, h.mem_bases_iff]
    simp
  calc
    (pairs.map Prod.fst).prod = ∏ q ∈ (pairs.map Prod.fst).toFinset, q := by
      rw [List.prod_toFinset _ hnodup, List.map_id']
    _ = ∏ p ∈ primes.toFinset, (p : Int) := by
      rw [hset, Finset.prod_map]
      rfl

theorem primeFactors_eq {n : Int} (hn : n ≠ 0) :
    primeFactors n =
      (if n < 0 then [-1] else []) ++ n.natAbs.primeFactorsList.map Int.ofNat := by
  rw [primeFactors, if_neg hn, (Sifted.start n.natAbs).factorsFrom_eq]

theorem primeFactors_natCast {m : Nat} (hm : m ≠ 0) :
    primeFactors m = m.primeFactorsList.map Int.ofNat := by
  rw [primeFactors_eq (Int.natCast_ne_zero.mpr hm), if_neg (Int.not_lt.mpr (Int.natCast_nonneg m))]
  rfl

theorem prod_primeFactors {n : Int} (hn : n ≠ 0) : (primeFactors n).prod = n := by
  have hprod : (n.natAbs.primeFactorsList.map Int.ofNat).prod = (n.natAbs : Int) := by
    conv_rhs => rw [← Nat.prod_primeFactorsList (Int.natAbs_ne_zero.mpr hn)]
    exact (Nat.cast_list_prod n.natAbs.primeFactorsList).symm
  rw [primeFactors_eq hn, List.prod_append, hprod]
  split
  · rw [List.prod_singleton]
    omega
  · rw [List.prod_nil]
    omega

theorem factorizes_primeFactors {n : Int} (hn : n ≠ 0) : Factorizes n (primeFactors n) where
  signed_primes := by
    refine ⟨n.natAbs.primeFactorsList, primeFactors_eq hn, ?_, ?_⟩
    · intro p hp
      exact Nat.prime_of_mem_primeFactorsList hp
    · exact (Nat.primeFactorsList_sorted n.natAbs).pairwise
  prod_eq := prod_primeFactors hn

theorem Factorizes.pairwise {n : Int} {factors : List Int} (h : Factorizes n factors) :
    factors.Pairwise (· ≤ ·) := by
  obtain ⟨primes, rfl, -, hsorted⟩ := h.signed_primes
  rw [List.pairwise_append]
  refine ⟨?_, ?_, ?_⟩
  · split <;> simp
  · simpa [List.pairwise_map] using hsorted
  · intro a ha b hb
    obtain ⟨p, hp, rfl⟩ := List.mem_map.mp hb
    split at ha
    · obtain rfl := List.mem_singleton.mp ha
      simp
    · cases ha

theorem counts_factorPairs {n : Int} (hn : n ≠ 0) : Counts (factorPairs n) (primeFactors n) :=
  counts_runLengths (factorizes_primeFactors hn).pairwise

theorem radical_eq {n : Int} (hn : n ≠ 0) :
    radical n = n.sign * ∏ p ∈ n.natAbs.primeFactors, (p : Int) := by
  have hm := Int.natAbs_ne_zero.mpr hn
  have hcounts := counts_factorPairs (Int.natCast_ne_zero.mpr hm)
  rw [primeFactors_natCast hm] at hcounts
  rw [radical, ← List.prod_eq_foldr, hcounts.prod_bases]
  rfl

theorem associated_radical {n : Int} (hn : n ≠ 0) :
    Associated (radical n) (UniqueFactorizationMonoid.radical n) := by
  have hunit : IsUnit n.sign := Int.isUnit_iff_natAbs_eq.mpr (Int.natAbs_sign_of_ne_zero hn)
  rw [radical_eq hn, Int.radical_eq_prod_primeFactors, Nat.cast_prod]
  exact associated_unit_mul_left _ _ hunit

/-- The factors of an integer are -1 for its sign and then primes in ascending order. They multiply
back to the integer, one by one as well as in powers, and their distinct primes give the radical. -/
theorem prime_factorization_exact (n : Int) (hn : n ≠ 0) :
    Factorizes n (primeFactors n) ∧
    Counts (factorPairs n) (primeFactors n) ∧
    ((factorPairs n).map fun pair => pair.1 ^ pair.2).prod = n ∧
    radical n = n.sign * ∏ p ∈ n.natAbs.primeFactors, (p : Int) ∧
    radical n ∣ n ∧
    Squarefree (radical n) := by
  have hfactors := factorizes_primeFactors hn
  have hcounts := counts_factorPairs hn
  have hassociated := associated_radical hn
  refine ⟨hfactors, hcounts, ?_, radical_eq hn, ?_, ?_⟩
  · rw [← prod_expanded, hcounts.expanded_eq, hfactors.prod_eq]
  · exact hassociated.dvd.trans UniqueFactorizationMonoid.radical_dvd_self
  · exact hassociated.squarefree_iff.mpr UniqueFactorizationMonoid.squarefree_radical

theorem prime_factorization_exact_minus_360 :
    (-360 : Int) ≠ 0 ∧
    primeFactors (-360) = [-1, 2, 2, 2, 3, 3, 5] ∧
    Factorizes (-360) (primeFactors (-360)) ∧
    factorPairs (-360) = [(-1, 1), (2, 3), (3, 2), (5, 1)] ∧
    Counts (factorPairs (-360)) (primeFactors (-360)) ∧
    radical (-360) = -30 ∧ Squarefree (radical (-360)) := by
  have hfactors : primeFactors (-360) = [-1, 2, 2, 2, 3, 3, 5] := by decide +kernel
  have hpairs : factorPairs (-360) = [(-1, 1), (2, 3), (3, 2), (5, 1)] := by
    rw [factorPairs, hfactors]
    rfl
  have hradical : radical (-360) = -30 := by decide +kernel
  obtain ⟨hfactorizes, hcounts, -, -, -, hsquarefree⟩ :=
    prime_factorization_exact (-360) (by decide)
  exact ⟨by decide, hfactors, hfactorizes, hpairs, hcounts, hradical, hsquarefree⟩

end Gridwalk.Number
