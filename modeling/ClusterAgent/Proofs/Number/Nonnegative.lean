import ClusterAgent.Proofs.Number.Rounding

/-!
Contract: sums of numbers that are not negative.

Such a sum is never undefined and never negative, because no infinity can meet
another of the opposite sign. So an infinite number among those added, wherever it
stands, makes the sum infinite.

Owns: numbers that are not negative, their sums.
Does not own: which quantities are not negative.
-/

namespace ClusterAgent.Number

/-- The numbers from zero to infinity. Both zeros are among them. -/
def IsNonneg : Number → Prop
  | .nan => False
  | .infinity negative => negative = false
  | .finite negative magnitude => negative = false ∨ magnitude = .zero

instance : DecidablePred IsNonneg := fun number => by
  cases number <;> unfold IsNonneg <;> infer_instance

theorem isNonneg_ofUnits (dividend divisor : Nat) : (ofUnits false dividend divisor).IsNonneg := by
  unfold ofUnits
  split
  · exact .inl rfl
  · rfl

theorem infinity_add {number : Number} (nonneg : number.IsNonneg) :
    (infinity false).add number = .infinity false := by
  cases number with
  | nan => cases nonneg
  | infinity negative =>
    rw [show negative = false from nonneg]
    rfl
  | finite negative magnitude => rfl

theorem add_infinity {number : Number} (nonneg : number.IsNonneg) :
    number.add (infinity false) = .infinity false := by
  cases number with
  | nan => cases nonneg
  | infinity negative =>
    rw [show negative = false from nonneg]
    rfl
  | finite negative magnitude => rfl

/-- A negative finite number that counts as not negative is zero. -/
theorem eq_zero_of_isNonneg {magnitude : Magnitude}
    (nonneg : (finite true magnitude).IsNonneg) : magnitude = .zero := by
  rcases nonneg with positive | isZero
  · cases positive
  · exact isZero

/-- A zero of negative sign changes at most the sign of a zero. -/
theorem isNonneg_add_finite {leftNegative rightNegative : Bool} {a b : Magnitude}
    (leftNonneg : (finite leftNegative a).IsNonneg)
    (rightNonneg : (finite rightNegative b).IsNonneg) :
    ((finite leftNegative a).add (finite rightNegative b)).IsNonneg := by
  have zeroUnits : Magnitude.zero.units = 0 := rfl
  cases leftNegative with
  | false =>
    cases rightNegative with
    | false =>
      simp only [add, if_true]
      exact isNonneg_ofUnits _ _
    | true =>
      rw [eq_zero_of_isNonneg rightNonneg]
      simp only [add, zeroUnits, Bool.false_eq_true, if_false]
      split_ifs
      · exact .inl rfl
      · omega
      · exact isNonneg_ofUnits _ _
  | true =>
    rw [eq_zero_of_isNonneg leftNonneg]
    cases rightNegative with
    | false =>
      simp only [add, zeroUnits, Bool.true_eq_false, if_false]
      split_ifs
      · exact .inl rfl
      · exact isNonneg_ofUnits _ _
      · omega
    | true =>
      have rounded := ofUnits_units true .zero Nat.one_pos
      rw [zeroUnits, Nat.zero_mul] at rounded
      rw [eq_zero_of_isNonneg rightNonneg]
      simp only [add, zeroUnits, if_true, Nat.add_zero]
      rw [rounded]
      exact .inr rfl

theorem isNonneg_add {left right : Number} (leftNonneg : left.IsNonneg)
    (rightNonneg : right.IsNonneg) : (left.add right).IsNonneg := by
  cases left with
  | nan => cases leftNonneg
  | infinity negative =>
    rw [show negative = false from leftNonneg, infinity_add rightNonneg]
    rfl
  | finite leftNegative a =>
    cases right with
    | nan => cases rightNonneg
    | infinity negative =>
      rw [show negative = false from rightNonneg, add_infinity leftNonneg]
      rfl
    | finite rightNegative b => exact isNonneg_add_finite leftNonneg rightNonneg

/-! ## Sums of lists -/

variable {numbers : List Number} {start : Number}

theorem isNonneg_foldl_add (startNonneg : start.IsNonneg)
    (allNonneg : ∀ number ∈ numbers, number.IsNonneg) : (numbers.foldl add start).IsNonneg := by
  induction numbers generalizing start with
  | nil => exact startNonneg
  | cons number rest inductionHypothesis =>
    obtain ⟨firstNonneg, restNonneg⟩ := List.forall_mem_cons.1 allNonneg
    exact inductionHypothesis (isNonneg_add startNonneg firstNonneg) restNonneg

theorem foldl_add_infinity (allNonneg : ∀ number ∈ numbers, number.IsNonneg) :
    numbers.foldl add (.infinity false) = .infinity false := by
  induction numbers with
  | nil => rfl
  | cons number rest inductionHypothesis =>
    obtain ⟨firstNonneg, restNonneg⟩ := List.forall_mem_cons.1 allNonneg
    rw [List.foldl_cons, infinity_add firstNonneg, inductionHypothesis restNonneg]

/-- A sum of numbers that are not negative is infinite if any of them is. -/
theorem foldl_add_of_infinite (startNonneg : start.IsNonneg)
    (allNonneg : ∀ number ∈ numbers, number.IsNonneg) (member : .infinity false ∈ numbers) :
    numbers.foldl add start = .infinity false := by
  obtain ⟨before, after, rfl⟩ := List.append_of_mem member
  obtain ⟨beforeNonneg, laterNonneg⟩ := List.forall_mem_append.1 allNonneg
  have sumNonneg : (before.foldl add start).IsNonneg :=
    isNonneg_foldl_add startNonneg beforeNonneg
  rw [List.foldl_append, List.foldl_cons, add_infinity sumNonneg]
  exact foldl_add_infinity (List.forall_mem_cons.1 laterNonneg).2

end ClusterAgent.Number
