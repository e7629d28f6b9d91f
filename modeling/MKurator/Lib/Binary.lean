import Mathlib.Algebra.Group.Nat.Defs
import Mathlib.Data.Nat.Log

/-! Binary floating-point numbers of `p` bits, rounded to nearest with ties to even. A power of two changes nothing about
how a number is rounded, so that rounding is studied on natural numbers; the exponent is not bounded. -/

namespace MKurator.Lib.Binary

/-- The integer nearest to `n / d`, and the even one of two that are equally near. -/
def nearest (n d : Nat) : Nat :=
  if 2 * (n % d) < d ∨ (2 * (n % d) = d ∧ n / d % 2 = 0) then n / d else n / d + 1

def excess (p n : Nat) : Nat := n.log2 + 1 - p

def rounded (p n : Nat) : Nat := nearest n (2 ^ excess p n) * 2 ^ excess p n

/-- A number of `p` bits, or the next power of two. -/
def Fits (p n : Nat) : Prop := ∃ m e, m ≤ 2 ^ p ∧ n = m * 2 ^ e

section Nearest

variable {d : Nat}

theorem div_le_nearest (n d : Nat) : n / d ≤ nearest n d := by
  unfold nearest
  split <;> omega

theorem nearest_le_succ (n d : Nat) : nearest n d ≤ n / d + 1 := by
  unfold nearest
  split <;> omega

theorem nearest_mul (c : Nat) (pos : 0 < d) : nearest (c * d) d = c := by
  rw [nearest, Nat.mul_mod_left, Nat.mul_div_cancel _ pos, if_pos (.inl (by omega))]

theorem nearest_of_small {n : Nat} (small : 2 * (n % d) < d) : nearest n d = n / d := if_pos (.inl small)

theorem nearest_mono {n m : Nat} (le : n ≤ m) : nearest n d ≤ nearest m d := by
  rcases Nat.lt_or_eq_of_le (Nat.div_le_div_right (c := d) le) with less | same
  · calc nearest n d ≤ n / d + 1 := nearest_le_succ n d
      _ ≤ m / d := less
      _ ≤ nearest m d := div_le_nearest m d
  · -- within one multiple of `d` the remainders decide
    have remainders : n % d ≤ m % d := by
      have first := Nat.div_add_mod n d
      have second := Nat.div_add_mod m d
      rw [← same] at second
      omega
    unfold nearest
    rw [same]
    split <;> split <;> omega

theorem nearest_mul_mul (n d : Nat) {c : Nat} (pos : 0 < c) : nearest (n * c) (d * c) = nearest n d := by
  simp only [nearest, Nat.mul_mod_mul_right, Nat.mul_div_mul_right _ _ pos, ← Nat.mul_assoc,
    Nat.mul_lt_mul_right pos, Nat.mul_left_inj pos.ne']

theorem nearest_error (n : Nat) : 2 * (nearest n d * d) ≤ 2 * n + d := by
  have split_ := Nat.div_add_mod n d
  rw [Nat.mul_comm] at split_
  unfold nearest
  split
  · omega
  · rw [Nat.add_mul]
    omega

end Nearest

section Bits

variable {p : Nat} (pos : 0 < p)
include pos

theorem excess_le_iff (n e : Nat) : excess p n ≤ e ↔ n < 2 ^ (p + e) := by
  unfold excess
  rcases Nat.eq_zero_or_pos n with rfl | nonzero
  · have zero : Nat.log2 0 = 0 := rfl
    simp only [zero, Nat.two_pow_pos, iff_true]
    omega
  · rw [← Nat.log2_lt (by omega)]
    omega

theorem lt_of_excess (n : Nat) : n < 2 ^ (p + excess p n) := (excess_le_iff pos n _).mp le_rfl

theorem le_of_lt_excess {n e : Nat} (less : e < excess p n) : 2 ^ (p + e) ≤ n :=
  Nat.le_of_not_lt fun small => absurd ((excess_le_iff pos n e).mpr small) (by omega)

theorem excess_eq {n e : Nat} (low : 2 ^ (p + e) ≤ n) (high : n < 2 ^ (p + e + 1)) : excess p n = e + 1 := by
  have above : excess p n ≤ e + 1 := (excess_le_iff pos n (e + 1)).mpr high
  have below : ¬excess p n ≤ e := fun le => absurd ((excess_le_iff pos n e).mp le) (by omega)
  omega

theorem excess_mono {n m : Nat} (le : n ≤ m) : excess p n ≤ excess p m :=
  (excess_le_iff pos n _).mpr (le.trans_lt (lt_of_excess pos m))

omit pos in
theorem rounded_of_dvd {n : Nat} (divides : 2 ^ excess p n ∣ n) : rounded p n = n := by
  obtain ⟨c, same⟩ := divides
  rw [Nat.mul_comm] at same
  calc rounded p n = nearest (c * 2 ^ excess p n) (2 ^ excess p n) * 2 ^ excess p n := by rw [← same, rounded]
    _ = c * 2 ^ excess p n := by rw [nearest_mul c (Nat.two_pow_pos _)]
    _ = n := same.symm

theorem rounded_of_fits {n : Nat} (fits : Fits p n) : rounded p n = n := by
  obtain ⟨m, e, bound, rfl⟩ := fits
  apply rounded_of_dvd
  rcases Nat.lt_or_eq_of_le bound with less | rfl
  · have enough : excess p (m * 2 ^ e) ≤ e := by
      rw [excess_le_iff pos, Nat.pow_add]
      exact Nat.mul_lt_mul_of_pos_right less (Nat.two_pow_pos e)
    exact Nat.dvd_mul_left_of_dvd (Nat.pow_dvd_pow 2 enough) m
  · have next : excess p (2 ^ p * 2 ^ e) = e + 1 := by
      apply excess_eq pos
      · rw [Nat.pow_add]
      · rw [← Nat.pow_add]
        exact Nat.pow_lt_pow_right (by decide) (by omega)
    rw [next, ← Nat.pow_add]
    exact Nat.pow_dvd_pow 2 (by omega)

theorem nearest_excess_le (n : Nat) : nearest n (2 ^ excess p n) ≤ 2 ^ p := by
  have bound := nearest_mono (d := 2 ^ excess p n) (lt_of_excess pos n).le
  rwa [Nat.pow_add, nearest_mul _ (Nat.two_pow_pos _)] at bound

theorem le_rounded {n : Nat} (large : 0 < excess p n) : 2 ^ (p + excess p n - 1) ≤ rounded p n := by
  have low : 2 ^ (p + (excess p n - 1)) ≤ n := le_of_lt_excess pos (by omega)
  have split_ : 2 ^ (p + excess p n - 1) = 2 ^ (p - 1) * 2 ^ excess p n := by
    rw [← Nat.pow_add]
    congr 1
    omega
  have kept : 2 ^ (p - 1) ≤ n / 2 ^ excess p n := by
    rw [Nat.le_div_iff_mul_le (Nat.two_pow_pos _), ← split_, Nat.add_sub_assoc large]
    exact low
  rw [split_]
  exact Nat.mul_le_mul_right _ (kept.trans (div_le_nearest n _))

theorem rounded_mono {n m : Nat} (le : n ≤ m) : rounded p n ≤ rounded p m := by
  rcases Nat.lt_or_eq_of_le (excess_mono pos le) with less | same
  · -- a power of two lies between the two
    calc rounded p n ≤ 2 ^ p * 2 ^ excess p n := Nat.mul_le_mul_right _ (nearest_excess_le pos n)
      _ = 2 ^ (p + excess p n) := (Nat.pow_add ..).symm
      _ ≤ 2 ^ (p + excess p m - 1) := Nat.pow_le_pow_right (by decide) (by omega)
      _ ≤ rounded p m := le_rounded pos (by omega)
  · unfold rounded
    rw [same]
    exact Nat.mul_le_mul_right _ (nearest_mono le)

theorem rounded_mul_two_pow (n e : Nat) : rounded p (n * 2 ^ e) = rounded p n * 2 ^ e := by
  rcases Nat.eq_zero_or_pos (excess p n) with small | large
  · have short : n < 2 ^ p := by simpa [small] using lt_of_excess pos n
    rw [rounded_of_fits pos ⟨n, e, short.le, rfl⟩, rounded_of_fits pos ⟨n, 0, short.le, by simp⟩]
  · have low : 2 ^ (p + (excess p n - 1)) ≤ n := le_of_lt_excess pos (by omega)
    have high := lt_of_excess pos n
    have shifted : excess p (n * 2 ^ e) = excess p n - 1 + e + 1 := by
      apply excess_eq pos
      · rw [show p + (excess p n - 1 + e) = p + (excess p n - 1) + e by omega, Nat.pow_add]
        exact Nat.mul_le_mul_right _ low
      · rw [show p + (excess p n - 1 + e) + 1 = p + excess p n + e by omega, Nat.pow_add]
        exact Nat.mul_lt_mul_of_pos_right high (Nat.two_pow_pos e)
    rw [rounded, shifted, show excess p n - 1 + e + 1 = excess p n + e by omega, Nat.pow_add,
      nearest_mul_mul _ _ (Nat.two_pow_pos e), rounded, Nat.mul_assoc]

/-- The product of a number of `p` bits with the largest fraction below one is rounded down. -/
theorem rounded_pred_mul_le {m : Nat} (short : m ≤ 2 ^ p) : rounded p ((2 ^ p - 1) * m) ≤ (2 ^ p - 1) * m := by
  by_cases power : ∃ t, m = 2 ^ t
  · obtain ⟨t, rfl⟩ := power
    exact (rounded_of_fits pos ⟨2 ^ p - 1, t, Nat.sub_le _ _, rfl⟩).le
  rcases Nat.eq_zero_or_pos m with rfl | nonzero
  · exact (rounded_of_fits pos ⟨0, 0, Nat.zero_le _, by simp⟩).le
  -- `m` lies strictly between two powers of two, so that the product misses a multiple of the larger one by less than half
  obtain ⟨t, low, high⟩ : ∃ t, 2 ^ t < m ∧ m < 2 ^ (t + 1) := by
    refine ⟨m.log2, lt_of_le_of_ne (Nat.log2_self_le nonzero.ne') fun same => ?_, Nat.lt_log2_self⟩
    exact power ⟨m.log2, same.symm⟩
  have inside : t < p := (Nat.pow_lt_pow_iff_right (by decide)).mp (low.trans_le short)
  have below : 2 ^ (t + 1) ≤ 2 ^ p := Nat.pow_le_pow_right (by decide) inside
  have product : (2 ^ p - 1) * m = 2 ^ p * m - m := by rw [Nat.sub_mul, Nat.one_mul]
  have bits : excess p ((2 ^ p - 1) * m) = t + 1 := by
    apply excess_eq pos
    · have more : 2 ^ p * (2 ^ t + 1) ≤ 2 ^ p * m := Nat.mul_le_mul_left _ low
      rw [Nat.mul_add, Nat.mul_one, ← Nat.pow_add] at more
      omega
    · have less : 2 ^ p * m < 2 ^ p * 2 ^ (t + 1) := Nat.mul_lt_mul_of_pos_left high (Nat.two_pow_pos p)
      rw [← Nat.pow_add] at less
      rw [Nat.add_assoc]
      omega
  have remainder : (2 ^ p - 1) * m % 2 ^ (t + 1) = 2 ^ (t + 1) - m := by
    have whole : 2 ^ p * m = 2 ^ (p - (t + 1)) * m * 2 ^ (t + 1) := by
      rw [Nat.mul_right_comm, Nat.pow_sub_mul_pow 2 inside]
    obtain ⟨c, multiple⟩ : ∃ c, 2 ^ (p - (t + 1)) * m = c + 1 :=
      Nat.exists_eq_add_one.mpr (Nat.mul_pos (Nat.two_pow_pos _) nonzero)
    have missed : (2 ^ p - 1) * m = 2 ^ (t + 1) - m + c * 2 ^ (t + 1) := by
      rw [product, whole, multiple, Nat.add_mul]
      omega
    rw [missed, Nat.add_mul_mod_self_right, Nat.mod_eq_of_lt (by omega)]
  rw [rounded, bits, nearest_of_small]
  · exact Nat.div_mul_le_self _ _
  · rw [remainder, Nat.pow_succ]
    omega

/-- A fraction of a number stays below the number, although both the number and the product are rounded. -/
theorem rounded_fraction_le {k : Nat} (fraction : k < 2 ^ p) (n : Nat) :
    rounded p (k * rounded p n) ≤ 2 ^ p * n := by
  have largest : rounded p (k * rounded p n) ≤ (2 ^ p - 1) * rounded p n := by
    calc rounded p (k * rounded p n) ≤ rounded p ((2 ^ p - 1) * rounded p n) :=
          rounded_mono pos (Nat.mul_le_mul_right _ (by omega))
      _ = rounded p ((2 ^ p - 1) * nearest n (2 ^ excess p n)) * 2 ^ excess p n := by
          rw [← rounded_mul_two_pow pos, Nat.mul_assoc]
          rfl
      _ ≤ (2 ^ p - 1) * nearest n (2 ^ excess p n) * 2 ^ excess p n :=
          Nat.mul_le_mul_right _ (rounded_pred_mul_le pos (nearest_excess_le pos n))
      _ = (2 ^ p - 1) * rounded p n := by rw [Nat.mul_assoc, rounded]
  refine largest.trans ?_
  rcases Nat.eq_zero_or_pos (excess p n) with small | large
  · have exact_ : rounded p n = n := rounded_of_dvd (by simp [small])
    rw [exact_]
    exact Nat.mul_le_mul_right _ (Nat.sub_le _ _)
  · -- what rounding up adds is made up for by the distance of the fraction from one
    have half : 2 ^ excess p n = 2 * 2 ^ (excess p n - 1) := by
      rw [← Nat.pow_succ', Nat.succ_eq_add_one, Nat.sub_add_cancel large]
    have error := nearest_error (d := 2 ^ excess p n) n
    have leading := le_rounded pos large
    rw [show p + excess p n - 1 = p + (excess p n - 1) by omega, Nat.pow_add] at leading
    have added : rounded p n ≤ n + 2 ^ (excess p n - 1) := by
      rw [rounded]
      omega
    have product := Nat.mul_le_mul_left (2 ^ p) added
    rw [Nat.mul_add] at product
    rw [Nat.sub_mul, Nat.one_mul]
    omega

end Bits

end MKurator.Lib.Binary
