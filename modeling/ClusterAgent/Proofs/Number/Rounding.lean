import ClusterAgent.Number.Decimal
import Mathlib.Data.Nat.Log
import Mathlib.Tactic.Ring

/-!
Contract: numbers that are rounded to themselves.

A whole number of units of some finite magnitude is not changed by rounding, so
a decimal of exactly that value denotes the magnitude. The shortest decimal is
searched for among nearby ones with the exact expansion in reserve, and so it
denotes the magnitude too.

Owns: rounding exact values, which decimals denote a magnitude.
Does not own: how a decimal is spelled.
-/

namespace ClusterAgent

/-! ## Rounding exact values -/

theorem divideToEven_mul (quotient : Nat) {divisor : Nat} (positive : 0 < divisor) :
    divideToEven (quotient * divisor) divisor = quotient := by
  unfold divideToEven
  rw [Nat.mul_div_cancel _ positive, Nat.mul_mod_left]
  exact if_pos positive

theorem log2_mul_two_pow {n : Nat} (nonzero : n ≠ 0) (k : Nat) :
    (n * 2 ^ k).log2 = n.log2 + k := by
  have powerPositive := Nat.two_pow_pos k
  rw [Nat.log2_eq_iff (Nat.mul_ne_zero nonzero powerPositive.ne'), Nat.pow_add, Nat.add_right_comm,
    Nat.pow_add]
  exact ⟨Nat.mul_le_mul_right _ (Nat.log2_self_le nonzero),
    Nat.mul_lt_mul_of_pos_right Nat.lt_log2_self powerPositive⟩

/-- A whole number times a power of two, rounded at that power. -/
theorem nearestRank_of_scale {dividend divisor significand scale : Nat} (positive : 0 < divisor)
    (whole : dividend = significand * 2 ^ scale * divisor)
    (scaled : (significand * 2 ^ scale).log2 - 52 = scale) :
    nearestRank dividend divisor = scale * binadeSize + significand := by
  have scaledPositive : 0 < divisor * 2 ^ scale := Nat.mul_pos positive (Nat.two_pow_pos scale)
  have regrouped : dividend = significand * (divisor * 2 ^ scale) := by
    rw [whole, Nat.mul_assoc, Nat.mul_comm (2 ^ scale)]
  have quotient : dividend / divisor = significand * 2 ^ scale := by
    rw [whole, Nat.mul_div_cancel _ positive]
  unfold nearestRank
  dsimp only
  rw [quotient, scaled, regrouped]
  congr 1
  exact divideToEven_mul significand scaledPositive

namespace Magnitude

variable {magnitude : Magnitude}

theorem nearestRank_of_small (small : magnitude.rank < binadeSize) {divisor : Nat}
    (positive : 0 < divisor) : nearestRank (magnitude.rank * divisor) divisor = magnitude.rank := by
  have binade : binadeSize = 2 ^ 52 := by decide
  have scaled : (magnitude.rank * 2 ^ 0).log2 - 52 = 0 := by
    rw [Nat.pow_zero, Nat.mul_one]
    by_cases isZero : magnitude.rank = 0
    · rw [isZero]
      decide
    · have below : magnitude.rank.log2 < 52 := by
        rw [Nat.log2_lt isZero, ← binade]
        exact small
      omega
  rw [nearestRank_of_scale positive (by simp) scaled]
  simp

theorem nearestRank_of_large (large : binadeSize ≤ magnitude.rank) {divisor : Nat}
    (positive : 0 < divisor) :
    nearestRank ((binadeSize + magnitude.rank % binadeSize) *
      2 ^ (magnitude.rank / binadeSize - 1) * divisor) divisor = magnitude.rank := by
  have binade : binadeSize = 2 ^ 52 := by decide
  let scale := magnitude.rank / binadeSize - 1
  let significand := binadeSize + magnitude.rank % binadeSize
  have below : magnitude.rank % binadeSize < binadeSize := Nat.mod_lt _ (by decide)
  have nonzero : significand ≠ 0 := by
    unfold significand binadeSize
    omega
  have digits : significand.log2 = 52 := by
    rw [Nat.log2_eq_iff nonzero]
    omega
  have scaled : (significand * 2 ^ scale).log2 - 52 = scale := by
    rw [log2_mul_two_pow nonzero, digits]
    omega
  have divided := Nat.div_add_mod magnitude.rank binadeSize
  have once : 1 ≤ magnitude.rank / binadeSize := (Nat.one_le_div_iff (by decide)).2 large
  have scaleSucc : scale + 1 = magnitude.rank / binadeSize := Nat.sub_add_cancel once
  rw [nearestRank_of_scale positive rfl scaled]
  calc
    scale * binadeSize + significand =
        binadeSize * (scale + 1) + magnitude.rank % binadeSize := by
      unfold significand
      ring
    _ = magnitude.rank := by rw [scaleSucc, divided]

/-- The rank nearest to the units of a magnitude is its own. -/
theorem nearestRank_units (magnitude : Magnitude) {divisor : Nat} (positive : 0 < divisor) :
    nearestRank (magnitude.units * divisor) divisor = magnitude.rank := by
  unfold units
  split
  · rename_i small
    exact nearestRank_of_small small positive
  · rename_i large
    exact nearestRank_of_large (Nat.le_of_not_lt large) positive

end Magnitude

namespace Number

theorem ofUnits_units (negative : Bool) (magnitude : Magnitude) {divisor : Nat}
    (positive : 0 < divisor) :
    ofUnits negative (magnitude.units * divisor) divisor = .finite negative magnitude := by
  have sameRank := magnitude.nearestRank_units positive
  unfold ofUnits
  rw [dif_pos (sameRank ▸ magnitude.inRange)]
  congr

end Number

/-! ## Decimals that denote a magnitude -/

namespace Magnitude

variable {magnitude : Magnitude}

theorem units_ne_zero (nonzero : magnitude ≠ .zero) : magnitude.units ≠ 0 := by
  unfold units
  split
  · intro isZero
    obtain ⟨rank, inRange⟩ := magnitude
    subst isZero
    exact nonzero rfl
  · apply Nat.mul_ne_zero
    · have positive : 0 < binadeSize := by decide
      omega
    · exact (Nat.two_pow_pos _).ne'

/-- Enough decimal places hold the units of a magnitude exactly. -/
theorem denotes_places (nonzero : magnitude ≠ .zero) {places : Nat} (positive : 0 < places)
    (onePlaces : unitsPerOne = 2 ^ places) :
    magnitude.Denotes ⟨magnitude.units * 5 ^ places, -places⟩ := by
  have powerPositive : 0 < 5 ^ places := Nat.pow_pos (by decide)
  have coefficientNonzero : magnitude.units * 5 ^ places ≠ 0 :=
    Nat.mul_ne_zero (units_ne_zero nonzero) powerPositive.ne'
  have logarithm : 2 * places ≤ (magnitude.units * 5 ^ places).log2 := by
    rw [Nat.le_log2 coefficientNonzero]
    calc
      2 ^ (2 * places) = 4 ^ places := by rw [Nat.pow_mul]
      _ ≤ 5 ^ places := Nat.pow_le_pow_left (by decide) places
      _ ≤ magnitude.units * 5 ^ places :=
        Nat.le_mul_of_pos_left _ (Nat.pos_of_ne_zero (units_ne_zero nonzero))
  have scaled : magnitude.units * 5 ^ places * 2 ^ places = magnitude.units * 10 ^ places := by
    rw [Nat.mul_assoc, ← Nat.mul_pow]
  unfold Denotes Number.ofDecimal
  dsimp only
  rw [if_neg coefficientNonzero, if_neg (by omega), if_neg (by omega), if_neg (by omega), neg_neg,
    Int.toNat_natCast, Number.ofQuotient, onePlaces, scaled]
  exact Number.ofUnits_units false magnitude (Nat.pow_pos (by decide))

theorem denotes_expansion (nonzero : magnitude ≠ .zero) :
    magnitude.Denotes magnitude.expansion := by
  obtain ⟨places, positive, onePlaces, isExpansion⟩ := exists_places
  rw [isExpansion]
  exact denotes_places nonzero positive onePlaces

/-- The shortest decimal of a magnitude denotes the magnitude. -/
theorem denotes_shortest (nonzero : magnitude ≠ .zero) :
    magnitude.Denotes magnitude.shortest := by
  unfold shortest
  dsimp only
  generalize (List.range 18).flatMap _ = candidates
  cases found : candidates.find? fun decimal => decide (magnitude.Denotes decimal) with
  | none => exact denotes_expansion nonzero
  | some decimal => simpa using List.find?_some found

theorem coefficient_ne_zero (nonzero : magnitude ≠ .zero) {decimal : Decimal}
    (denotes : magnitude.Denotes decimal) : decimal.coefficient ≠ 0 := by
  intro isZero
  unfold Denotes Number.ofDecimal at denotes
  rw [if_pos isZero] at denotes
  cases denotes
  exact nonzero rfl

end Magnitude

namespace Number

theorem ofUnits_eq_finite {dividend divisor : Nat} {magnitude : Magnitude}
    (positive : ofUnits false dividend divisor = .finite false magnitude) (negative : Bool) :
    ofUnits negative dividend divisor = .finite negative magnitude := by
  unfold ofUnits at positive ⊢
  split at positive
  · rename_i inRange
    cases positive
    rw [dif_pos inRange]
  · cases positive

/-- What a decimal denotes with one sign, it denotes with the other. -/
theorem ofDecimal_eq_finite {decimal : Decimal} {magnitude : Magnitude}
    (denotes : magnitude.Denotes decimal) (negative : Bool) :
    ofDecimal negative decimal = .finite negative magnitude := by
  unfold Magnitude.Denotes at denotes
  unfold ofDecimal ofQuotient at denotes ⊢
  split_ifs at denotes ⊢
  · cases denotes
    rfl
  · cases denotes
    rfl
  · exact ofUnits_eq_finite denotes negative
  · exact ofUnits_eq_finite denotes negative

end Number

end ClusterAgent
