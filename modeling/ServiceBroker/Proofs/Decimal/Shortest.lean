/-
The shortest decimal of a double that is not zero has a digit that is not zero (`digits_shortest_ne_zero`). On a
grid that is coarse a decimal of nothing but zeros is no candidate, as it does not round to the double; the finest
grid that is looked at is finer than the double is small.
-/
import ServiceBroker.Decimal.Shortest
import Mathlib.Tactic.Ring
import Mathlib.Tactic.NormNum

namespace ServiceBroker.Decimal

variable {x : Binary} {d : Scientific}

/-! ## Candidates -/

theorem Binary.lowerBound_pos (hm : x.mantissa ≠ 0) : 0 < x.lowerBound := by
  unfold lowerBound
  split_ifs <;> omega

/-- Zero does not round to a value that is not zero. -/
theorem Binary.digits_ne_zero_of_covers (hm : x.mantissa ≠ 0) (h : x.covers d = true) : d.digits ≠ 0 := by
  intro hd
  have hbelow : compareScaled d.digits d.exponent x.lowerBound (x.exponent - 2) = .lt := by
    unfold compareScaled
    simp only [Nat.pow_eq]
    rw [hd, Nat.zero_mul, Nat.zero_mul]
    refine Nat.compare_eq_lt.2 ?_
    have := lowerBound_pos hm
    positivity
  unfold covers at h
  simp only [hbelow] at h
  split_ifs at h <;> simp at h

theorem Binary.nearer_ne_zero {n : Nat} (hn : n ≠ 0) (p : Int) : x.nearer n p ≠ 0 := by
  unfold nearer
  split
  · exact hn
  · omega
  · split_ifs <;> omega

/-- A search that ends on a grid with a point below the value finds digits. -/
theorem Binary.digits_search_ne_zero (hm : x.mantissa ≠ 0) (fuel : Nat) (p : Int)
    (h : x.onGrid (p - fuel) ≠ 0) : (x.search fuel p).digits ≠ 0 := by
  induction fuel generalizing p with
  | zero => simpa [search] using h
  | succ fuel ih =>
    have hgrid : x.covers ⟨x.onGrid p, p⟩ = true → x.onGrid p ≠ 0 := digits_ne_zero_of_covers hm
    rw [search]
    split
    · next hn _ => exact nearer_ne_zero (hgrid hn) p
    · next hn _ => exact hgrid hn
    · exact Nat.succ_ne_zero _
    · refine ih (p - 1) ?_
      have hp : p - 1 - (fuel : Int) = p - ((fuel + 1 : Nat) : Int) := by omega
      rwa [hp]

theorem Scientific.digits_strip_ne_zero (fuel : Nat) (h : d.digits ≠ 0) : (d.strip fuel).digits ≠ 0 := by
  induction fuel generalizing d with
  | zero => exact h
  | succ fuel ih =>
    rw [strip]
    split_ifs with hzero
    · exact ih (by dsimp only; omega)
    · exact h

/-! ## The finest grid -/

theorem descend_le (x : Binary) (fuel : Nat) (p : Int) : descend x fuel p ≤ p := by
  induction fuel generalizing p with
  | zero => exact le_rfl
  | succ fuel ih =>
    rw [descend]
    split_ifs
    · exact (ih (p - 1)).trans (by omega)
    · exact le_rfl

/-- Three decimal digits are worth less than ten binary ones. -/
theorem ten_pow_le_two_pow {p n : Nat} (h : 10 * p ≤ 3 * n) : 10 ^ p ≤ 2 ^ n := by
  refine (Nat.pow_le_pow_iff_left (n := 10) (by decide)).1 ?_
  calc (10 ^ p) ^ 10 = 10 ^ (10 * p) := by rw [← Nat.pow_mul, Nat.mul_comm]
    _ ≤ 10 ^ (3 * n) := Nat.pow_le_pow_right (by decide) h
    _ = (10 ^ 3) ^ n := Nat.pow_mul ..
    _ ≤ (2 ^ 10) ^ n := Nat.pow_le_pow_left (by decide) n
    _ = (2 ^ n) ^ 10 := by rw [← Nat.pow_mul, Nat.mul_comm, Nat.pow_mul]

/-- A hundred binary digits are worth less than 31 decimal ones. -/
theorem two_pow_le_ten_pow {p n : Nat} (h : 31 * n ≤ 100 * p) : 2 ^ n ≤ 10 ^ p := by
  refine (Nat.pow_le_pow_iff_left (n := 100) (by decide)).1 ?_
  calc (2 ^ n) ^ 100 = (2 ^ 100) ^ n := by rw [← Nat.pow_mul, Nat.mul_comm, Nat.pow_mul]
    _ ≤ (10 ^ 31) ^ n := Nat.pow_le_pow_left (by norm_num) n
    _ = 10 ^ (31 * n) := (Nat.pow_mul ..).symm
    _ ≤ 10 ^ (100 * p) := Nat.pow_le_pow_right (by decide) h
    _ = (10 ^ p) ^ 100 := by rw [← Nat.pow_mul, Nat.mul_comm]

/-- The binary place of the first digit. -/
def Binary.place (x : Binary) : Int :=
  (Nat.log2 x.mantissa : Int) + x.exponent

theorem Binary.magnitude_le (x : Binary) : x.magnitude ≤ x.place * 30103 / 100000 + 2 :=
  descend_le x 4 _

/-- A grid well below the value has a point between zero and the value. -/
theorem Binary.onGrid_ne_zero (hm : x.mantissa ≠ 0) (hlow : -1600 ≤ x.place) (hhigh : x.place ≤ 10000) {p : Int}
    (hp : 100000 * (p + 15) ≤ 30103 * x.place) : x.onGrid p ≠ 0 := by
  have hlog : 2 ^ Nat.log2 x.mantissa ≤ x.mantissa := Nat.log2_self_le hm
  have hle : 2 ^ (-x.exponent).toNat * 10 ^ p.toNat ≤
      x.mantissa * 2 ^ x.exponent.toNat * 10 ^ (-p).toNat := by
    unfold place at *
    generalize Nat.log2 x.mantissa = l at *
    have hm2 : 2 ^ (l + x.exponent.toNat) ≤ x.mantissa * 2 ^ x.exponent.toNat := by
      rw [Nat.pow_add]
      exact Nat.mul_le_mul_right _ hlog
    rcases le_or_gt 0 p with h0 | h0
    · -- The value is above one, so its binary place tells how many decimal places it has at least.
      have hten : 10 ^ p.toNat ≤ 2 ^ (l + x.exponent).toNat := ten_pow_le_two_pow (by omega)
      calc 2 ^ (-x.exponent).toNat * 10 ^ p.toNat
          ≤ 2 ^ (-x.exponent).toNat * 2 ^ (l + x.exponent).toNat := Nat.mul_le_mul_left _ hten
        _ = 2 ^ (l + x.exponent.toNat) := by
          rw [← Nat.pow_add]
          congr 1
          omega
        _ ≤ x.mantissa * 2 ^ x.exponent.toNat := hm2
        _ ≤ x.mantissa * 2 ^ x.exponent.toNat * 10 ^ (-p).toNat := Nat.le_mul_of_pos_right _ (by positivity)
    · have htwo : 2 ^ ((-x.exponent).toNat - (l + x.exponent.toNat)) ≤ 10 ^ (-p).toNat :=
        two_pow_le_ten_pow (by omega)
      have hp0 : p.toNat = 0 := by omega
      calc 2 ^ (-x.exponent).toNat * 10 ^ p.toNat = 2 ^ (-x.exponent).toNat := by rw [hp0, Nat.pow_zero, Nat.mul_one]
        _ ≤ 2 ^ (l + x.exponent.toNat + ((-x.exponent).toNat - (l + x.exponent.toNat))) :=
          Nat.pow_le_pow_right (by decide) (by omega)
        _ = 2 ^ (l + x.exponent.toNat) * 2 ^ ((-x.exponent).toNat - (l + x.exponent.toNat)) := Nat.pow_add ..
        _ ≤ x.mantissa * 2 ^ x.exponent.toNat * 10 ^ (-p).toNat := Nat.mul_le_mul hm2 htwo
  exact (Nat.div_pos hle (by positivity)).ne'

/-! ## Doubles -/

theorem place_ofBits (bits : UInt64) (hm : (Binary.ofBits bits).mantissa ≠ 0) :
    -1600 ≤ (Binary.ofBits bits).place ∧ (Binary.ofBits bits).place ≤ 10000 := by
  have hmantissa : (Binary.ofBits bits).mantissa < 2 ^ 53 := by
    unfold Binary.ofBits
    dsimp only
    split_ifs <;> dsimp only <;> omega
  have hexponent : -1074 ≤ (Binary.ofBits bits).exponent ∧ (Binary.ofBits bits).exponent ≤ 972 := by
    unfold Binary.ofBits
    dsimp only
    split_ifs <;> dsimp only <;> omega
  have hlog : Nat.log2 (Binary.ofBits bits).mantissa < 53 := (Nat.log2_lt hm).2 hmantissa
  unfold Binary.place
  omega

/-- The shortest decimal of a double that is not zero is not zero. -/
theorem digits_shortest_ne_zero (bits : UInt64) (hm : (Binary.ofBits bits).mantissa ≠ 0) :
    (shortest (Binary.ofBits bits)).digits ≠ 0 := by
  obtain ⟨hlow, hhigh⟩ := place_ofBits bits hm
  have hmagnitude := (Binary.ofBits bits).magnitude_le
  refine Scientific.digits_strip_ne_zero 20 (Binary.digits_search_ne_zero hm 17 _ ?_)
  exact Binary.onGrid_ne_zero hm hlow hhigh (by omega)

end ServiceBroker.Decimal
