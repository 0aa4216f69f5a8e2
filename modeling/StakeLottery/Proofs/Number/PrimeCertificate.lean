import Mathlib
import StakeLottery.Curve.Point
import StakeLottery.Number.Primality
import StakeLottery.Proofs.Number.DoubleAndAdd

/-!
The prime of the coordinate field and the order of the group are prime. Each has a base of maximal
order, which the prime factors of the number less one show; large factors are shown to be prime
in the same way.
-/

namespace StakeLottery.Primality

theorem power_eq (modulus base exponent : Nat) :
    power modulus base exponent = base ^ exponent % modulus := by
  unfold power
  refine doubleAndAdd_holds (fun count value => value = base ^ count % modulus)
    ?_ ?_ ?_ exponent
  · simp
  · rintro count value rfl
    rw [← Nat.mul_mod, ← pow_add, two_mul]
  · rintro count value rfl
    rw [← Nat.mul_mod, pow_succ]

/-- A number with a base whose order modulo it is the number less one, of which the prime factors
are listed. -/
structure Certificate where
  number : Nat
  base : Nat
  factors : List Nat

/-- The factors are among the known primes, their product is the number less one, and the base's
power by that product is one, but by no smaller part of it that lacks a factor. -/
def Certificate.isSound (certificate : Certificate) (known : List Nat) : Bool :=
  let order := certificate.number - 1
  certificate.factors.all known.contains && certificate.factors.prod = order &&
    power certificate.number certificate.base order = 1 &&
    certificate.factors.all fun factor =>
      power certificate.number certificate.base (order / factor) ≠ 1

def Certificate.extend (known : List Nat) (certificate : Certificate) : List Nat :=
  if certificate.isSound known then certificate.number :: known else known

theorem cast_pow_eq_one_iff {modulus : Nat} (large : 1 < modulus) (base exponent : Nat) :
    (base : ZMod modulus) ^ exponent = 1 ↔ power modulus base exponent = 1 := by
  rw [power_eq, ← Nat.cast_pow, ← Nat.cast_one, ZMod.natCast_eq_natCast_iff',
    Nat.mod_eq_of_lt large]

theorem Certificate.number_prime {certificate : Certificate} {known : List Nat}
    (primes : ∀ prime ∈ known, prime.Prime) (sound : certificate.isSound known = true) :
    certificate.number.Prime := by
  simp only [isSound, Bool.and_eq_true, List.all_eq_true, List.contains_iff_mem,
    decide_eq_true_eq] at sound
  obtain ⟨⟨⟨factorsKnown, product⟩, whole⟩, parts⟩ := sound
  have large : 1 < certificate.number := by
    by_contra small
    have modulus : certificate.number = 0 ∨ certificate.number = 1 := by omega
    rw [power_eq] at whole
    rcases modulus with zero | one
    · have positive : 0 < certificate.factors.prod :=
        List.prod_pos fun factor member => (primes factor (factorsKnown factor member)).pos
      omega
    · rw [one, Nat.mod_one] at whole
      omega
  apply lucas_primality certificate.number (certificate.base : ZMod certificate.number)
  · exact (cast_pow_eq_one_iff large _ _).mpr whole
  · intro factor factorPrime divides isOne
    rw [← product] at divides
    obtain ⟨listed, member, dividesListed⟩ := (Prime.dvd_prod_iff factorPrime.prime).mp divides
    have same : factor = listed :=
      (Nat.prime_dvd_prime_iff_eq factorPrime (primes listed (factorsKnown listed member))).mp
        dividesListed
    rw [same] at isOne
    exact parts listed member ((cast_pow_eq_one_iff large _ _).mp isOne)

theorem Certificate.extend_prime {certificate : Certificate} {known : List Nat}
    (primes : ∀ prime ∈ known, prime.Prime) :
    ∀ prime ∈ certificate.extend known, prime.Prime := by
  unfold extend
  split
  · rename_i sound
    exact List.forall_mem_cons.mpr ⟨number_prime primes sound, primes⟩
  · exact primes

theorem foldl_extend_prime (certificates : List Certificate) {known : List Nat}
    (primes : ∀ prime ∈ known, prime.Prime) :
    ∀ prime ∈ certificates.foldl Certificate.extend known, prime.Prime := by
  induction certificates generalizing known with
  | nil => exact primes
  | cons certificate rest ih => exact ih (Certificate.extend_prime primes)

def smallFactors : List Nat :=
  [2, 3, 5, 7, 11, 17, 19, 29, 31, 41, 53, 59, 97, 109, 113, 149, 293, 461, 631, 797, 971, 1373,
   1627, 1871, 2011, 2621, 2657, 2731, 4051, 4423, 5323, 7723, 9349, 13441, 16699, 20113, 24809,
   28181, 41201, 85831, 96557]

theorem smallFactors_prime : ∀ prime ∈ smallFactors, prime.Prime := by
  simp only [smallFactors, List.forall_mem_cons]
  norm_num

def certificates : List Certificate :=
  [⟨120233, 3, [2, 2, 2, 7, 19, 113]⟩,
   ⟨305873, 3, [2, 2, 2, 2, 7, 2731]⟩,
   ⟨1206781, 10, [2, 2, 3, 5, 20113]⟩,
   ⟨1627771, 3, [2, 3, 5, 29, 1871]⟩,
   ⟨4681609, 23, [2, 2, 2, 3, 97, 2011]⟩,
   ⟨7240687, 3, [2, 3, 1206781]⟩,
   ⟨13331831, 13, [2, 5, 971, 1373]⟩,
   ⟨44706919, 6, [2, 3, 797, 9349]⟩,
   ⟨107590001, 3, [2, 2, 2, 2, 5, 5, 5, 5, 7, 29, 53]⟩,
   ⟨545358713, 5, [2, 2, 2, 41, 59, 28181]⟩,
   ⟨297159362677, 2, [2, 2, 3, 3, 11, 461, 1627771]⟩,
   ⟨107361793816595537, 3, [2, 2, 2, 2, 16699, 85831, 4681609]⟩,
   ⟨173378833005251801, 6, [2, 2, 2, 5, 5, 2621, 24809, 13331831]⟩,
   ⟨174723607534414371449, 3, [2, 2, 2, 17, 59, 4051, 120233, 44706919]⟩,
   ⟨22149492674086928081353, 5, [2, 2, 2, 3, 5323, 173378833005251801]⟩,
   ⟨132896956044521568488119, 6, [2, 3, 22149492674086928081353]⟩,
   ⟨29047611873442575647497758179, 2, [2, 293, 305873, 545358713, 297159362677]⟩,
   ⟨341948486974166000522343609283189, 2,
     [2, 2, 3, 3, 3, 109, 29047611873442575647497758179]⟩,
   ⟨255515944373312847190720520512484175977, 3,
     [2, 2, 2, 7, 7, 11, 1627, 2657, 4423, 41201, 96557, 7240687, 107590001]⟩,
   ⟨205115282021455665897114700593932402728804164701536103180137503955397371, 10,
     [2, 3, 5, 29, 29, 31, 7723, 132896956044521568488119,
      255515944373312847190720520512484175977]⟩,
   ⟨Curve.groupOrder, 7,
     [2, 2, 2, 2, 2, 2, 3, 149, 631, 107361793816595537, 174723607534414371449,
      341948486974166000522343609283189]⟩,
   ⟨Curve.fieldPrime, 3,
     [2, 3, 7, 13441,
      205115282021455665897114700593932402728804164701536103180137503955397371]⟩]

theorem prime_of_certificates {number : Nat}
    (member : number ∈ certificates.foldl Certificate.extend smallFactors) : number.Prime :=
  foldl_extend_prime certificates smallFactors_prime number member

end StakeLottery.Primality

namespace StakeLottery.Curve

theorem fieldPrime_prime : fieldPrime.Prime :=
  Primality.prime_of_certificates (by decide +kernel)

theorem groupOrder_prime : groupOrder.Prime :=
  Primality.prime_of_certificates (by decide +kernel)

instance : Fact fieldPrime.Prime := ⟨fieldPrime_prime⟩

instance : Fact groupOrder.Prime := ⟨groupOrder_prime⟩

end StakeLottery.Curve
