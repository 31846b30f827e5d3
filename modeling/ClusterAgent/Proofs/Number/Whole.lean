import ClusterAgent.Proofs.Number.Rounding

/-!
Contract: whole numbers as numbers of a payload.

A whole number is rounded to a power of two that leaves 53 binary digits. Small
ones are kept as they are. Large ones may be changed, but they stay whole and
stay large.

Owns: rounding whole numbers, numbers with whole values.
Does not own: texts of whole numbers.
-/

namespace ClusterAgent

/-- Rounding a quotient goes down or one up. -/
theorem divideToEven_bounds (dividend divisor : Nat) :
    dividend / divisor ≤ divideToEven dividend divisor ∧
      divideToEven dividend divisor ≤ dividend / divisor + 1 := by
  unfold divideToEven
  dsimp only
  split_ifs <;> omega

/-- A magnitude whose rank is a scale and a significand of 53 binary digits. A significand that is
rounded up to one digit more counts as well. -/
theorem Magnitude.units_of_rank {magnitude : Magnitude} {scale significand : Nat}
    (least : binadeSize ≤ significand) (greatest : significand ≤ 2 * binadeSize)
    (ranked : magnitude.rank = scale * binadeSize + significand) :
    magnitude.units = significand * 2 ^ scale := by
  have binadePositive : 0 < binadeSize := by decide
  unfold units
  rw [if_neg (by omega)]
  rcases Nat.lt_or_eq_of_le greatest with below | isGreatest
  · obtain ⟨more, rfl⟩ := Nat.exists_eq_add_of_le least
    have small : more < binadeSize := by omega
    have regrouped : magnitude.rank = more + binadeSize * (scale + 1) := by
      rw [ranked]
      ring
    rw [regrouped, Nat.add_mul_mod_self_left, Nat.mod_eq_of_lt small,
      Nat.add_mul_div_left _ _ binadePositive, Nat.div_eq_of_lt small, Nat.zero_add,
      Nat.add_sub_cancel]
    rfl
  · have regrouped : magnitude.rank = binadeSize * (scale + 2) := by
      rw [ranked, isGreatest]
      ring
    rw [regrouped, Nat.mul_mod_right, Nat.mul_div_cancel_left _ binadePositive, isGreatest]
    change (binadeSize + 0) * 2 ^ (scale + 1) = _
    rw [Nat.pow_succ]
    ring

namespace Number

theorem toInt?_of_units {magnitude : Magnitude} {whole places : Nat}
    (onePlaces : unitsPerOne = 2 ^ places) (isWhole : magnitude.units = whole * 2 ^ places) :
    (finite false magnitude).toInt? = some (whole : Int) := by
  have positive : ((2 ^ places : Nat) : Int) ≠ 0 := by
    exact_mod_cast (Nat.two_pow_pos places).ne'
  change (if (magnitude.units : Int) % unitsPerOne = 0 then
    some ((magnitude.units : Int) / unitsPerOne) else none) = _
  rw [isWhole, onePlaces, Nat.cast_mul, if_pos (Int.mul_emod_left _ _),
    Int.mul_ediv_cancel _ positive]

/-- A whole number whose rank is a scale and a significand is rounded to a whole number, if all of
these units make whole numbers. -/
theorem toInt?_ofNat_of_rank {n scale significand whole places : Nat}
    (onePlaces : unitsPerOne = 2 ^ places)
    (ranked : nearestRank (n * unitsPerOne) 1 = scale * binadeSize + significand)
    (least : binadeSize ≤ significand) (greatest : significand ≤ 2 * binadeSize)
    (inRange : scale + 2 < 2047) (isWhole : significand * 2 ^ scale = whole * 2 ^ places) :
    (ofNat n).toInt? = some (whole : Int) := by
  have small : nearestRank (n * unitsPerOne) 1 < 2047 * binadeSize := by
    have bounded : (scale + 2) * binadeSize < 2047 * binadeSize :=
      Nat.mul_lt_mul_of_pos_right inRange (by decide)
    rw [Nat.add_mul] at bounded
    omega
  have rounded : ofNat n = .finite false ⟨nearestRank (n * unitsPerOne) 1, small⟩ := dif_pos small
  rw [rounded]
  apply toInt?_of_units onePlaces
  rw [← isWhole]
  exact Magnitude.units_of_rank least greatest ranked

/-- How many powers of two make one out of units. Where only the variable is used, nothing takes the
power. -/
theorem exists_unitsPerOne_eq : ∃ places, places = 1074 ∧ unitsPerOne = 2 ^ places := by
  unfold unitsPerOne
  generalize 1074 = places
  exact ⟨places, rfl, rfl⟩

/-- A whole number of at most 53 binary digits is not changed. -/
theorem toInt?_ofNat_of_short {n : Nat} (nonzero : n ≠ 0) (short : n.log2 ≤ 52) :
    (ofNat n).toInt? = some (n : Int) := by
  have binade : binadeSize = 2 ^ 52 := by decide
  obtain ⟨places, isPlaces, onePlaces⟩ := exists_unitsPerOne_eq
  obtain ⟨shift, isShift⟩ := Nat.exists_eq_add_of_le short
  obtain ⟨scale, isScale⟩ : ∃ scale, places = shift + scale := Nat.exists_eq_add_of_le (by omega)
  have regrouped : n * 2 ^ places = n * 2 ^ shift * 2 ^ scale := by
    rw [isScale, Nat.pow_add, Nat.mul_assoc]
  have ranked : nearestRank (n * unitsPerOne) 1 = scale * binadeSize + n * 2 ^ shift :=
    nearestRank_of_scale Nat.one_pos (by rw [onePlaces, regrouped, Nat.mul_one])
      (by rw [← regrouped, log2_mul_two_pow nonzero]; omega)
  have least : binadeSize ≤ n * 2 ^ shift := by
    rw [binade, isShift, Nat.pow_add]
    exact Nat.mul_le_mul_right _ (Nat.log2_self_le nonzero)
  have greatest : n * 2 ^ shift ≤ 2 * binadeSize := by
    have below : n * 2 ^ shift < 2 ^ (n.log2 + 1) * 2 ^ shift :=
      Nat.mul_lt_mul_of_pos_right Nat.lt_log2_self (Nat.two_pow_pos shift)
    rw [← Nat.pow_add, Nat.add_right_comm, ← isShift, Nat.pow_succ, ← binade] at below
    omega
  exact toInt?_ofNat_of_rank onePlaces ranked least greatest (by omega) regrouped.symm

/-- A whole number of at least 53 binary digits stays whole and keeps that many digits. -/
theorem exists_toInt?_ofNat_of_long {n : Nat} (long : 52 ≤ n.log2) (inRange : n.log2 < 1023) :
    ∃ whole : Nat, (ofNat n).toInt? = some (whole : Int) ∧ binadeSize ≤ whole := by
  have binade : binadeSize = 2 ^ 52 := by decide
  have nonzero : n ≠ 0 := by
    rintro rfl
    cases long
  obtain ⟨places, isPlaces, onePlaces⟩ := exists_unitsPerOne_eq
  obtain ⟨lift, isLift⟩ := Nat.exists_eq_add_of_le long
  let significand := divideToEven (n * unitsPerOne) (1 * 2 ^ (lift + places))
  have ranked : nearestRank (n * unitsPerOne) 1 = (lift + places) * binadeSize + significand := by
    have scaled : (n * unitsPerOne / 1).log2 - 52 = lift + places := by
      rw [Nat.div_one, onePlaces, log2_mul_two_pow nonzero]
      omega
    unfold nearestRank
    rw [scaled]
    rfl
  have quotient : n * unitsPerOne / (1 * 2 ^ (lift + places)) = n / 2 ^ lift := by
    rw [onePlaces, Nat.one_mul, Nat.pow_add]
    exact Nat.mul_div_mul_right _ _ (Nat.two_pow_pos places)
  obtain ⟨atLeast, atMost⟩ := divideToEven_bounds (n * unitsPerOne) (1 * 2 ^ (lift + places))
  rw [quotient] at atLeast atMost
  have least : binadeSize ≤ significand := by
    refine le_trans ?_ atLeast
    rw [Nat.le_div_iff_mul_le (Nat.two_pow_pos lift), binade, ← Nat.pow_add, ← isLift]
    exact Nat.log2_self_le nonzero
  have greatest : significand ≤ 2 * binadeSize := by
    refine atMost.trans ?_
    rw [Nat.succ_le_iff, Nat.div_lt_iff_lt_mul (Nat.two_pow_pos lift), binade, Nat.mul_assoc,
      ← Nat.pow_add, ← isLift, ← Nat.pow_succ']
    exact Nat.lt_log2_self
  have isWhole : significand * 2 ^ (lift + places) = significand * 2 ^ lift * 2 ^ places := by
    rw [Nat.pow_add, Nat.mul_assoc]
  exact ⟨significand * 2 ^ lift,
    toInt?_ofNat_of_rank onePlaces ranked least greatest (by omega) isWhole,
    least.trans (Nat.le_mul_of_pos_right _ (Nat.two_pow_pos lift))⟩

/-- Any whole number is rounded to a whole number, unless it has more binary digits than the largest
number. It is not changed unless it is large, and then what it is rounded to is large as well. -/
theorem exists_toInt?_ofNat {n : Nat} (inRange : n.log2 < 1023) :
    ∃ whole : Nat, (ofNat n).toInt? = some (whole : Int) ∧
      (whole = n ∨ binadeSize ≤ n ∧ binadeSize ≤ whole) := by
  by_cases isZero : n = 0
  · exact ⟨0, by rw [isZero]; decide +kernel, .inl isZero.symm⟩
  rcases Nat.le_total n.log2 52 with short | long
  · exact ⟨n, toInt?_ofNat_of_short isZero short, .inl rfl⟩
  · obtain ⟨whole, rounded, large⟩ := exists_toInt?_ofNat_of_long long inRange
    have binade : binadeSize = 2 ^ 52 := by decide
    exact ⟨whole, rounded, .inr ⟨binade ▸ (Nat.le_log2 isZero).1 long, large⟩⟩

/-- Whole numbers of at most 53 binary digits are exact. -/
theorem toInt?_ofNat_of_lt {n : Nat} (small : n < 2 ^ 53) : (ofNat n).toInt? = some (n : Int) := by
  by_cases isZero : n = 0
  · rw [isZero]
    decide +kernel
  · have short : n.log2 < 53 := (Nat.log2_lt isZero).2 small
    exact toInt?_ofNat_of_short isZero (by omega)

theorem eq_of_ofNat_eq {n m : Nat} (small : n < 2 ^ 53) (otherSmall : m < 2 ^ 53)
    (same : ofNat n = ofNat m) : n = m := by
  have whole := toInt?_ofNat_of_lt small
  rw [same, toInt?_ofNat_of_lt otherSmall] at whole
  exact_mod_cast (Option.some.inj whole).symm

theorem signedUnits?_of_toInt? {number : Number} {n : Int} (isWhole : number.toInt? = some n) :
    number.signedUnits? = some (n * unitsPerOne) := by
  unfold toInt? at isWhole
  split at isWhole
  · next units isUnits =>
    split at isWhole
    · next noRest =>
      rw [isUnits, ← Option.some.inj isWhole,
        Int.ediv_mul_cancel (Int.dvd_of_emod_eq_zero noRest)]
    · cases isWhole
  · cases isWhole

/-- Only one number has a positive whole number as its exact value. -/
theorem eq_ofNat_of_toInt? {number : Number} {n : Nat} (positive : 0 < n)
    (isWhole : number.toInt? = some (n : Int)) : number = ofNat n := by
  have isUnits := signedUnits?_of_toInt? isWhole
  have unitsPositive : 0 < unitsPerOne := by
    obtain ⟨places, -, onePlaces⟩ := exists_unitsPerOne_eq
    rw [onePlaces]
    exact Nat.two_pow_pos places
  have productPositive : 0 < n * unitsPerOne := Nat.mul_pos positive unitsPositive
  cases number with
  | nan => cases isUnits
  | infinity negative => cases isUnits
  | finite negative magnitude =>
    cases negative with
    | false =>
      have exact : magnitude.units = n * unitsPerOne := by
        exact_mod_cast Option.some.inj isUnits
      have rounded := ofUnits_units false magnitude Nat.one_pos
      rw [Nat.mul_one, exact] at rounded
      exact rounded.symm
    | true =>
      have exact : -(magnitude.units : Int) = n * unitsPerOne := Option.some.inj isUnits
      have cast : ((n * unitsPerOne : Nat) : Int) = n * unitsPerOne := Nat.cast_mul _ _
      omega

end Number

end ClusterAgent
