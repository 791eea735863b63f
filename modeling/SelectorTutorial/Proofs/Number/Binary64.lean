import SelectorTutorial.Number.Binary64
import Mathlib.Algebra.Order.Ring.Nat
import Mathlib.Tactic.Ring

/-! Which quotients are rounded to finite numbers, and how large these are. -/

namespace SelectorTutorial

namespace Binary64

/-- A magnitude below that of infinity is kept beside the sign. -/
theorem magnitude_ofMagnitude {m : Nat} (negative : Bool) (small : m ≤ infinite) :
    (ofMagnitude negative m).magnitude = m := by
  -- The sign takes the highest bit, and the magnitude stays below it.
  have bound : m < 2 ^ 63 := lt_of_le_of_lt small (by decide)
  have fits : (m + if negative then Nat.pow 2 63 else 0) < 2 ^ 64 := by
    cases negative <;> simp only [Nat.pow_eq, if_true, Bool.false_eq_true, if_false] <;> omega
  have bits : (ofMagnitude negative m).bits.toNat = m + if negative then Nat.pow 2 63 else 0 := by
    rw [ofMagnitude, UInt64.toNat_ofNat', Nat.mod_eq_of_lt fits]
  rw [magnitude, bits]
  cases negative <;> simp only [Nat.pow_eq, if_true, Bool.false_eq_true, if_false] <;> omega

/-- A number is finite when its magnitude is below that of infinity. -/
theorem isFinite_iff {x : Binary64} : x.isFinite ↔ x.magnitude < infinite := by
  -- The definition is this comparison.
  simp [isFinite]

/-- A rounded quotient is at most one more than the quotient without its rest. -/
theorem roundDiv_le (num den : Nat) : roundDiv num den ≤ num / den + 1 := by
  -- The quotient is kept or taken up by one.
  unfold roundDiv
  dsimp only
  split <;> omega

/-- A quotient scaled by a power of two, as two natural numbers. -/
def scaled (num den : Nat) (e : Int) : Nat × Nat :=
  if 0 ≤ e then (num, den * Nat.pow 2 e.toNat) else (num * Nat.pow 2 (-e).toNat, den)

/-- What has at most 53 binary digits before the point is below the 53rd power of two. -/
theorem scaled_lt {num den : Nat} (someDen : den ≠ 0) {e : Int}
    (far : (num.log2 : Int) - den.log2 - 52 ≤ e) :
    (scaled num den e).1 < 2 ^ 53 * (scaled num den e).2 := by
  -- Both numbers are put between powers of two, by their binary digits.
  have above : num < 2 ^ (num.log2 + 1) := Nat.lt_log2_self
  have below : 2 ^ den.log2 ≤ den := Nat.log2_self_le someDen
  unfold scaled
  split
  · next positive =>
    -- The power of two goes to the denominator.
    have enough : num.log2 + 1 ≤ 53 + (den.log2 + e.toNat) := by omega
    calc num < 2 ^ (num.log2 + 1) := above
      _ ≤ 2 ^ (53 + (den.log2 + e.toNat)) := Nat.pow_le_pow_right (by decide) enough
      _ = 2 ^ 53 * (2 ^ den.log2 * 2 ^ e.toNat) := by rw [Nat.pow_add, Nat.pow_add]
      _ ≤ 2 ^ 53 * (den * 2 ^ e.toNat) :=
        Nat.mul_le_mul_left _ (Nat.mul_le_mul_right _ below)
  · next negative =>
    -- The power of two goes to the numerator.
    have enough : num.log2 + 1 + (-e).toNat ≤ 53 + den.log2 := by omega
    calc num * 2 ^ (-e).toNat < 2 ^ (num.log2 + 1) * 2 ^ (-e).toNat :=
        Nat.mul_lt_mul_of_pos_right above (Nat.two_pow_pos _)
      _ = 2 ^ (num.log2 + 1 + (-e).toNat) := (Nat.pow_add ..).symm
      _ ≤ 2 ^ (53 + den.log2) := Nat.pow_le_pow_right (by decide) enough
      _ = 2 ^ 53 * 2 ^ den.log2 := Nat.pow_add ..
      _ ≤ 2 ^ 53 * den := Nat.mul_le_mul_left _ below

/-- One power of two less makes a quotient twice as large. -/
theorem scaled_pred_lt {num den : Nat} {e : Int}
    (small : (scaled num den e).1 < 2 ^ 52 * (scaled num den e).2) :
    (scaled num den (e - 1)).1 < 2 ^ 53 * (scaled num den (e - 1)).2 := by
  -- A positive power is in the denominator, any other in the numerator; at zero it changes sides.
  unfold scaled at small ⊢
  by_cases positive : 0 < e
  · rw [if_pos (by omega)] at small ⊢
    have exponent : e.toNat = (e - 1).toNat + 1 := by omega
    calc num < 2 ^ 52 * (den * 2 ^ e.toNat) := small
      _ = 2 ^ 53 * (den * 2 ^ (e - 1).toNat) := by rw [exponent]; ring
  · rw [if_neg (by omega : ¬ 0 ≤ e - 1)]
    have exponent : (-(e - 1)).toNat = (-e).toNat + 1 := by omega
    have doubled : num * 2 ^ (-(e - 1)).toNat = num * 2 ^ (-e).toNat * 2 := by
      rw [exponent, Nat.pow_succ, Nat.mul_assoc]
    change num * 2 ^ (-(e - 1)).toNat < 2 ^ 53 * den
    rw [doubled]
    by_cases zero : e = 0
    · subst zero
      simp at small ⊢
      omega
    · rw [if_neg (by omega)] at small
      change num * 2 ^ (-e).toNat < 2 ^ 52 * den at small
      omega

/-- The exponent with which a quotient is rounded. -/
def exponentOfRatio (num den : Nat) : Int :=
  let guess : Int := (num.log2 : Int) - den.log2 - 52
  max (-1074)
    (if (scaled num den guess).1 / (scaled num den guess).2 < 2 ^ 52 then guess - 1 else guess)

/-- The magnitude of a quotient is put together from its exponent and its rounded significand. -/
theorem magnitudeOfRatio_eq {num den : Nat} (someNum : num ≠ 0) (someDen : den ≠ 0) :
    magnitudeOfRatio num den =
      min infinite ((exponentOfRatio num den + 1074).toNat * 2 ^ 52 +
        roundDiv (scaled num den (exponentOfRatio num den)).1
          (scaled num den (exponentOfRatio num den)).2) := by
  -- Only a quotient with a zero in it is told apart.
  have neither : ¬ (num = 0 ∨ den = 0) := by simp [someNum, someDen]
  rw [magnitudeOfRatio, if_neg neither]
  rfl

/-- No exponent leaves more than 53 binary digits before the point. -/
theorem scaled_exponentOfRatio_lt (num : Nat) {den : Nat} (someDen : den ≠ 0) :
    (scaled num den (exponentOfRatio num den)).1 <
      2 ^ 53 * (scaled num den (exponentOfRatio num den)).2 := by
  -- The exponent is the first guess, or one less if that leaves too few digits.
  unfold exponentOfRatio
  dsimp only
  split
  · next short =>
    -- With a digit too few, the exponent is one less, unless that is too small.
    rcases Int.lt_or_le (-1074) ((num.log2 : Int) - den.log2 - 52) with above | below
    · rw [max_eq_right (by omega)]
      apply scaled_pred_lt
      have someScaled : 0 < (scaled num den ((num.log2 : Int) - den.log2 - 52)).2 := by
        unfold scaled
        have := Nat.pos_of_ne_zero someDen
        split <;> simpa using this
      rwa [Nat.div_lt_iff_lt_mul someScaled] at short
    · rw [max_eq_left (by omega)]
      exact scaled_lt someDen below
  · exact scaled_lt someDen (le_max_right _ _)

/-- A quotient below a power of two has a magnitude below that of the power, give or take a factor
of four. -/
theorem magnitudeOfRatio_le {num den k : Nat} (small : num < den * 2 ^ k) :
    magnitudeOfRatio num den ≤ (k + 1024) * 2 ^ 52 := by
  -- The magnitude is exponent and quotient side by side, and each has a bound.
  by_cases someNum : num = 0
  · simp [magnitudeOfRatio, someNum]
  have someDen : den ≠ 0 := by
    rintro rfl
    omega
  rw [magnitudeOfRatio_eq someNum someDen]
  refine (min_le_right _ _).trans ?_
  -- The numerator has at most `k` binary digits more than the denominator.
  have digits : num.log2 ≤ den.log2 + k := by
    have above : num < 2 ^ (den.log2 + 1 + k) := by
      calc num < den * 2 ^ k := small
        _ ≤ 2 ^ (den.log2 + 1) * 2 ^ k := Nat.mul_le_mul_right _ Nat.lt_log2_self.le
        _ = 2 ^ (den.log2 + 1 + k) := (Nat.pow_add ..).symm
    have := (Nat.log2_lt someNum).mpr above
    omega
  have exponent : (exponentOfRatio num den + 1074).toNat ≤ k + 1022 := by
    unfold exponentOfRatio
    dsimp only
    split <;> omega
  have quotient := Nat.div_lt_of_lt_mul (Nat.mul_comm .. ▸ scaled_exponentOfRatio_lt num someDen)
  have rounded := roundDiv_le (scaled num den (exponentOfRatio num den)).1
    (scaled num den (exponentOfRatio num den)).2
  calc (exponentOfRatio num den + 1074).toNat * 2 ^ 52 + _
      ≤ (k + 1022) * 2 ^ 52 + 2 ^ 53 :=
        Nat.add_le_add (Nat.mul_le_mul_right _ exponent) (by omega)
    _ = (k + 1024) * 2 ^ 52 := by ring

/-- A quotient that is not far beyond all finite numbers has a finite magnitude. -/
theorem magnitudeOfRatio_lt_infinite {num den k : Nat} (bounded : k ≤ 1000)
    (small : num < den * 2 ^ k) : magnitudeOfRatio num den < infinite := by
  -- The bound on the exponent stays well below that of infinity.
  have finite : 2024 * 2 ^ 52 < infinite := by decide
  calc magnitudeOfRatio num den ≤ (k + 1024) * 2 ^ 52 := magnitudeOfRatio_le small
    _ ≤ 2024 * 2 ^ 52 := Nat.mul_le_mul_right _ (by omega)
    _ < infinite := finite

/-- A quotient that is not far beyond all finite numbers is rounded to one of them. -/
theorem isFinite_ofRatio {num den k : Nat} (negative : Bool) (bounded : k ≤ 1000)
    (small : num < den * 2 ^ k) : (ofRatio negative num den).isFinite := by
  -- The sign is put beside a finite magnitude.
  have finite := magnitudeOfRatio_lt_infinite bounded small
  rw [isFinite_iff, ofRatio, magnitude_ofMagnitude negative finite.le]
  exact finite

/-- A number of either sign is as finite as it was. -/
theorem isFinite_withSign {x : Binary64} (negative : Bool) (finite : x.isFinite) :
    (x.withSign negative).isFinite := by
  -- The sign does not touch the magnitude.
  rw [isFinite_iff] at finite ⊢
  rw [withSign, magnitude_ofMagnitude negative finite.le]
  exact finite

/-- An integer is rounded to a finite number, if it is not far beyond all of these. -/
theorem isFinite_ofInt {i : Int} {k : Nat} (bounded : k ≤ 1000) (small : i.natAbs < 2 ^ k) :
    (ofInt i).isFinite := by
  -- An integer is its own quotient by one.
  apply isFinite_ofRatio _ bounded
  rw [Nat.one_mul]
  exact small

/-- The absolute value of a finite number is below a power of two. -/
def IsBelow (k : Nat) (x : Binary64) : Prop :=
  x.ratio.1 < x.ratio.2 * 2 ^ k

/-- A significand has 53 bits at most. -/
theorem significand_lt (x : Binary64) : x.significand < 2 ^ 53 := by
  -- The lower bits are 52, and a number that is not tiny has one more above them.
  unfold significand
  simp only [Nat.pow_eq]
  split <;> omega

/-- A number of small magnitude is below some power of two. -/
theorem isBelow_of_magnitude_le {x : Binary64} {k : Nat}
    (small : x.magnitude ≤ (k + 1024) * 2 ^ 52) : x.IsBelow (k + 2) := by
  -- The scale bounds the power, and the significand adds 53 bits to it; the power is in the
  -- numerator or in the denominator.
  have significand := x.significand_lt
  have scale : x.scale ≤ k + 1023 := by
    have := Nat.div_le_of_le_mul (Nat.mul_comm .. ▸ small)
    simp only [Binary64.scale, Nat.pow_eq]
    omega
  unfold IsBelow ratio
  split
  · next large =>
    have exponent : 53 + (x.scale - 1074) ≤ k + 2 := by omega
    calc x.significand * 2 ^ (x.scale - 1074) < 2 ^ 53 * 2 ^ (x.scale - 1074) :=
          Nat.mul_lt_mul_of_pos_right significand (Nat.two_pow_pos _)
      _ = 2 ^ (53 + (x.scale - 1074)) := (Nat.pow_add ..).symm
      _ ≤ 2 ^ (k + 2) := Nat.pow_le_pow_right (by decide) exponent
      _ = 1 * 2 ^ (k + 2) := (Nat.one_mul _).symm
  · next small =>
    have exponent : 53 ≤ 1074 - x.scale + (k + 2) := by omega
    calc x.significand < 2 ^ 53 := significand
      _ ≤ 2 ^ (1074 - x.scale + (k + 2)) := Nat.pow_le_pow_right (by decide) exponent
      _ = 2 ^ (1074 - x.scale) * 2 ^ (k + 2) := Nat.pow_add ..

/-- Rounding makes a quotient at most four times as large. -/
theorem isBelow_ofRatio {num den k : Nat} (negative : Bool) (bounded : k ≤ 1000)
    (small : num < den * 2 ^ k) : (ofRatio negative num den).IsBelow (k + 2) := by
  -- The bound on the magnitude of a quotient is the one that tells how large the number is.
  apply isBelow_of_magnitude_le
  rw [ofRatio, magnitude_ofMagnitude negative (magnitudeOfRatio_lt_infinite bounded small).le]
  exact magnitudeOfRatio_le small

/-- No number has a denominator of zero. -/
theorem ratio_den_pos (x : Binary64) : 0 < x.ratio.2 := by
  -- It is one, or a power of two.
  unfold ratio
  split
  · exact Nat.one_pos
  · exact Nat.two_pow_pos _

/-- A number is divided by another one as their quotients are, and rounded once. -/
theorem div_eq (x y : Binary64) :
    x.div y =
      ofRatio (x.isNegative != y.isNegative) (x.ratio.1 * y.ratio.2) (x.ratio.2 * y.ratio.1) :=
  rfl

/-- What is divided by a power of two or more is smaller by that power. -/
theorem ratio_div_lt {x y : Binary64} {k j : Nat} (small : x.IsBelow (k + j))
    (large : y.ratio.2 * 2 ^ j ≤ y.ratio.1) :
    x.ratio.1 * y.ratio.2 < x.ratio.2 * y.ratio.1 * 2 ^ k := by
  -- What the divisor is larger by is taken out of the bound.
  calc x.ratio.1 * y.ratio.2 < x.ratio.2 * 2 ^ (k + j) * y.ratio.2 :=
        Nat.mul_lt_mul_of_pos_right small y.ratio_den_pos
    _ = x.ratio.2 * (y.ratio.2 * 2 ^ j) * 2 ^ k := by ring
    _ ≤ x.ratio.2 * y.ratio.1 * 2 ^ k :=
        Nat.mul_le_mul_right _ (Nat.mul_le_mul_left _ large)

/-- A power of ten within the range of the format is at least one, and at least four if it is not
one itself. -/
theorem powerOfTen_ge {n : Nat} (within : n ≤ 308) :
    (powerOfTen n).ratio.2 * 2 ^ 0 ≤ (powerOfTen n).ratio.1 ∧
      (0 < n → (powerOfTen n).ratio.2 * 2 ^ 2 ≤ (powerOfTen n).ratio.1) := by
  -- There are 309 of them.
  have all : ∀ n < 309, (powerOfTen n).ratio.2 * 2 ^ 0 ≤ (powerOfTen n).ratio.1 ∧
      (0 < n → (powerOfTen n).ratio.2 * 2 ^ 2 ≤ (powerOfTen n).ratio.1) := by
    decide +kernel
  exact all n (by omega)

/-- Dividing by a power of ten within the range of the format leaves a finite number finite. -/
theorem isFinite_div_powerOfTen {x : Binary64} {k n : Nat} (bounded : k ≤ 1000)
    (small : x.IsBelow k) (within : n ≤ 308) : (x.div (powerOfTen n)).isFinite := by
  -- A power of ten is at least one.
  rw [div_eq]
  apply isFinite_ofRatio _ bounded
  exact ratio_div_lt (Nat.add_zero k ▸ small) (powerOfTen_ge within).1

/-- Dividing by a power of ten makes up for what rounding adds. -/
theorem isBelow_div_powerOfTen {x : Binary64} {k n : Nat} (bounded : k ≤ 1000)
    (small : x.IsBelow (k + 2)) (positive : 0 < n) (within : n ≤ 308) :
    (x.div (powerOfTen n)).IsBelow (k + 2) := by
  -- A positive power of ten is at least four, by which rounding makes it larger at most.
  rw [div_eq]
  apply isBelow_ofRatio _ bounded
  exact ratio_div_lt small ((powerOfTen_ge within).2 positive)

end Binary64

end SelectorTutorial
