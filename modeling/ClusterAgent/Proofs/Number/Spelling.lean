import ClusterAgent.Json.Reader
import ClusterAgent.Proofs.Members
import ClusterAgent.Proofs.Number.Rounding
import Mathlib.Data.List.Basic

/-!
Contract: the texts of numbers, read back.

A decimal is laid out as a literal that JSON accepts, wherever its point falls.
So a reader of JSON finds a finite number in front of what follows it, with the
exception that both zeros are written alike.

Owns: the literal that a decimal is laid out as, reading numbers back.
Does not own: the words for numbers that are not finite.
-/

namespace ClusterAgent

/-! ## Digits -/

theorem head?_toDigits_ne_zero {n : Nat} (nonzero : n ≠ 0) :
    (Nat.toDigits 10 n).head? ≠ some '0' := by
  induction n using Nat.strongRecOn with
  | ind n inductionHypothesis =>
    rw [Nat.toDigits_eq_if (by decide)]
    split
    · rename_i single
      have allDigits : ∀ digit < 10, digit ≠ 0 → [digit.digitChar].head? ≠ some '0' := by decide
      exact allDigits n single nonzero
    · rw [List.head?_append_of_ne_nil _ Nat.toDigits_ne_nil]
      exact inductionHypothesis (n / 10) (by omega) (by omega)

theorem digitsValue_append_zeros (digits : List Char) (count : Nat) :
    digitsValue (digits ++ List.replicate count '0') = digitsValue digits * 10 ^ count := by
  have appended := Nat.ofDigitChars_append (b := 10) (l := digits) (m := List.replicate count '0') 0
  rw [Nat.ofDigitChars_replicate_zero, Nat.mul_comm] at appended
  exact appended

theorem digitsValue_zeros_append (count : Nat) (digits : List Char) :
    digitsValue (List.replicate count '0' ++ digits) = digitsValue digits := by
  have appended := Nat.ofDigitChars_append (b := 10) (l := List.replicate count '0') (m := digits) 0
  rw [Nat.ofDigitChars_replicate_zero, Nat.mul_zero] at appended
  exact appended

/-- The digits of a positive number, the first of which is not zero. -/
structure AreDigitsOf (digits : List Char) (n : Nat) : Prop where
  nonempty : digits ≠ []
  leading : digits.head? ≠ some '0'
  all : ∀ c ∈ digits, c.isDigit
  value : digitsValue digits = n

theorem areDigitsOf_toDigits {n : Nat} (nonzero : n ≠ 0) : AreDigitsOf (Nat.toDigits 10 n) n :=
  ⟨Nat.toDigits_ne_nil, head?_toDigits_ne_zero nonzero, isDigit_toDigits, digitsValue_toDigits n⟩

theorem AreDigitsOf.ne_zero {digits : List Char} {n : Nat} (spelled : AreDigitsOf digits n) :
    n ≠ 0 := by
  rw [← spelled.value]
  exact digitsValue_ne_zero spelled.all spelled.nonempty spelled.leading

/-! ## The layout of decimals -/

/-- A literal that a reader of JSON takes for a decimal. -/
structure Literal.Spells (literal : Literal) (decimal : Decimal) : Prop where
  whole : ∀ c ∈ literal.whole, c.isDigit
  fraction : ∀ c ∈ literal.fractionDigits, c.isDigit
  strict : Json.IsStrict literal
  value : ∀ negative,
    Number.ofDecimal negative literal.decimal = Number.ofDecimal negative decimal

namespace Decimal

variable {decimal : Decimal}

/-- How a decimal is laid out. -/
def literal (decimal : Decimal) : Literal :=
  let digits := Nat.toDigits 10 decimal.coefficient
  let point : Int := digits.length + decimal.exponent
  if !isPositional point then
    ⟨digits.take 1, if (digits.drop 1).isEmpty then none else some (digits.drop 1),
      some (point - 1)⟩
  else if digits.length ≤ point then
    ⟨digits ++ List.replicate (point.toNat - digits.length) '0', none, none⟩
  else if 0 < point then ⟨digits.take point.toNat, some (digits.drop point.toNat), none⟩
  else ⟨['0'], some (List.replicate (-point).toNat '0' ++ digits), none⟩

theorem chars_literal (decimal : Decimal) : decimal.literal.chars = decimal.chars := by
  unfold literal chars
  dsimp only
  split_ifs with scientific single
  · rw [List.isEmpty_iff] at single
    simp [Literal.chars, scientificChars, Literal.exponentChars, single]
  · unfold Literal.chars scientificChars Literal.exponentChars
    simp only [single]
    simp
  · simp [Literal.chars]
  · simp [Literal.chars]
  · simp [Literal.chars]

theorem ofDecimal_of_shift (negative : Bool) {coefficient shift : Nat} (nonzero : coefficient ≠ 0)
    (small : shift ≤ 400) :
    Number.ofDecimal negative ⟨coefficient, shift⟩ =
      Number.ofQuotient negative (coefficient * 10 ^ shift) 1 := by
  unfold Number.ofDecimal
  dsimp only
  rw [if_neg nonzero, if_neg (by omega), if_neg (by omega), if_pos (by omega), Int.toNat_natCast]
  rfl

variable {digits : List Char} (spelled : AreDigitsOf digits decimal.coefficient)

include spelled

theorem spells_scientific {fraction : Option (List Char)}
    (split : fraction = if (digits.drop 1).isEmpty then none else some (digits.drop 1)) :
    Literal.Spells ⟨digits.take 1, fraction, some (digits.length + decimal.exponent - 1)⟩
      decimal := by
  have fractionDigits : fraction.getD [] = digits.drop 1 := by
    rw [split]
    split_ifs with single
    · exact (List.isEmpty_iff.1 single).symm
    · rfl
  have positive : 0 < digits.length := List.length_pos_iff.2 spelled.nonempty
  constructor
  · intro c member
    exact spelled.all c (List.mem_of_mem_take member)
  · intro c member
    unfold Literal.fractionDigits at member
    rw [fractionDigits] at member
    exact spelled.all c (List.mem_of_mem_drop member)
  · refine ⟨by simp [spelled.nonempty], .inl ?_, ?_⟩
    · rw [List.head?_take, if_neg (by decide)]
      exact spelled.leading
    · rw [split]
      split_ifs with single
      · simp
      · simpa using single
  · intro negative
    have sameDecimal : Literal.decimal
        ⟨digits.take 1, fraction, some (digits.length + decimal.exponent - 1)⟩ = decimal := by
      unfold Literal.decimal Literal.fractionDigits
      rw [fractionDigits, List.take_append_drop, spelled.value, List.length_drop]
      congr 1
      rw [Option.getD_some]
      omega
    rw [sameDecimal]

theorem spells_whole (shifted : 0 ≤ decimal.exponent) (small : decimal.exponent ≤ 400) :
    Literal.Spells ⟨digits ++ List.replicate decimal.exponent.toNat '0', none, none⟩ decimal := by
  obtain ⟨coefficient, exponent⟩ := decimal
  obtain ⟨shift, rfl⟩ := Int.eq_ofNat_of_zero_le shifted
  dsimp only at small spelled ⊢
  rw [Int.toNat_natCast]
  have nonzero : coefficient ≠ 0 := spelled.ne_zero
  constructor
  · intro c member
    rcases List.mem_append.1 member with inDigits | isZero
    · exact spelled.all c inDigits
    · rw [List.eq_of_mem_replicate isZero]
      rfl
  · intro c member
    cases member
  · refine ⟨by simp [spelled.nonempty], .inl ?_, by simp⟩
    rw [List.head?_append_of_ne_nil _ spelled.nonempty]
    exact spelled.leading
  · intro negative
    have shiftedDecimal : Literal.decimal ⟨digits ++ List.replicate shift '0', none, none⟩ =
        ⟨coefficient * 10 ^ shift, (0 : Nat)⟩ := by
      unfold Literal.decimal Literal.fractionDigits
      rw [Option.getD_none, List.append_nil, digitsValue_append_zeros, spelled.value]
      rfl
    have shiftedNonzero : coefficient * 10 ^ shift ≠ 0 :=
      Nat.mul_ne_zero nonzero (Nat.pow_pos (by decide)).ne'
    rw [shiftedDecimal, ofDecimal_of_shift negative shiftedNonzero (by omega),
      ofDecimal_of_shift negative nonzero (by omega), Nat.pow_zero, Nat.mul_one]

theorem spells_split {point : Nat} (positive : 0 < point) (inside : point < digits.length)
    (placed : (digits.length : Int) + decimal.exponent = point) :
    Literal.Spells ⟨digits.take point, some (digits.drop point), none⟩ decimal := by
  constructor
  · intro c member
    exact spelled.all c (List.mem_of_mem_take member)
  · intro c member
    exact spelled.all c (List.mem_of_mem_drop member)
  · refine ⟨by simp [spelled.nonempty, positive.ne'], .inl ?_, by simpa using inside⟩
    rw [List.head?_take, if_neg positive.ne']
    exact spelled.leading
  · intro negative
    have sameDecimal : Literal.decimal ⟨digits.take point, some (digits.drop point), none⟩ =
        decimal := by
      unfold Literal.decimal Literal.fractionDigits
      rw [Option.getD_some, List.take_append_drop, spelled.value, List.length_drop]
      congr 1
      rw [Option.getD_none]
      omega
    rw [sameDecimal]

theorem spells_small {zeros : Nat}
    (placed : (digits.length : Int) + decimal.exponent = -zeros) :
    Literal.Spells ⟨['0'], some (List.replicate zeros '0' ++ digits), none⟩ decimal := by
  constructor
  · simp
  · intro c member
    rcases List.mem_append.1 member with isZero | inDigits
    · rw [List.eq_of_mem_replicate isZero]
      rfl
    · exact spelled.all c inDigits
  · exact ⟨by simp, .inr rfl, by simp [spelled.nonempty]⟩
  · intro negative
    have sameDecimal :
        Literal.decimal ⟨['0'], some (List.replicate zeros '0' ++ digits), none⟩ = decimal := by
      have leadingZeros : ['0'] ++ (List.replicate zeros '0' ++ digits) =
          List.replicate (zeros + 1) '0' ++ digits := by
        rw [List.replicate_succ]
        rfl
      unfold Literal.decimal Literal.fractionDigits
      rw [Option.getD_some, leadingZeros, digitsValue_zeros_append, spelled.value,
        List.length_append, List.length_replicate]
      congr 1
      rw [Option.getD_none]
      omega
    rw [sameDecimal]

omit spelled

/-- Reading what is laid out gives the number that the decimal denotes. -/
theorem spells_literal (nonzero : decimal.coefficient ≠ 0) :
    decimal.literal.Spells decimal := by
  have spelled := areDigitsOf_toDigits nonzero
  unfold literal
  dsimp only
  generalize Nat.toDigits 10 decimal.coefficient = digits at spelled ⊢
  by_cases positional : isPositional (digits.length + decimal.exponent)
  · have bounds : -6 < (digits.length : Int) + decimal.exponent ∧
        (digits.length : Int) + decimal.exponent ≤ 21 := by simpa [isPositional] using positional
    rw [positional, if_neg (by decide)]
    split_ifs with whole inside
    · have shift : (((digits.length : Int) + decimal.exponent).toNat - digits.length) =
          decimal.exponent.toNat := by omega
      rw [shift]
      exact spells_whole spelled (by omega) (by omega)
    · exact spells_split spelled (by omega) (by omega) (by omega)
    · exact spells_small spelled (by omega)
  · rw [if_pos (by simpa using positional)]
    exact spells_scientific spelled rfl

end Decimal

/-! ## The texts of finite numbers -/

/-- A literal that JSON accepts starts with a digit. -/
theorem Literal.Spells.exists_digit_cons {literal : Literal} {decimal : Decimal}
    (spells : literal.Spells decimal) :
    ∃ digit rest, literal.chars = digit :: rest ∧ digit.isDigit := by
  obtain ⟨digit, rest, isWhole⟩ := List.exists_cons_of_ne_nil spells.strict.1
  refine ⟨digit, _, by rw [Literal.chars, isWhole, List.cons_append], ?_⟩
  exact spells.whole digit (by rw [isWhole]; exact List.mem_cons_self)

/-- A text with a sign in front if it is one of a negative number. -/
def signed (negative : Bool) (text : List Char) : List Char :=
  if negative then '-' :: text else text

theorem Magnitude.spells_shortest {magnitude : Magnitude} (nonzero : magnitude ≠ .zero) :
    magnitude.shortest.literal.Spells magnitude.shortest :=
  Decimal.spells_literal (coefficient_ne_zero nonzero (denotes_shortest nonzero))

namespace Number

/-- A number in which the two zeros are one. -/
def withOneZero (number : Number) : Number := if number = .negativeZero then .zero else number

theorem withOneZero_of_ne_zero (negative : Bool) {magnitude : Magnitude}
    (nonzero : magnitude ≠ .zero) :
    (finite negative magnitude).withOneZero = .finite negative magnitude := by
  apply if_neg
  intro isNegativeZero
  cases isNegativeZero
  exact nonzero rfl

theorem chars_zero (negative : Bool) : (finite negative .zero).chars = ['0'] := rfl

theorem chars_withOneZero (number : Number) : number.withOneZero.chars = number.chars := by
  unfold withOneZero
  split
  · rename_i isNegativeZero
    rw [isNegativeZero]
    exact (chars_zero false).trans (chars_zero true).symm
  · rfl

theorem chars_of_ne_zero (negative : Bool) {magnitude : Magnitude} (nonzero : magnitude ≠ .zero) :
    (finite negative magnitude).chars = signed negative magnitude.shortest.literal.chars := by
  rw [Decimal.chars_literal]
  exact if_neg nonzero

theorem exists_chars_cons (negative : Bool) (magnitude : Magnitude) :
    ∃ c rest, (finite negative magnitude).chars = c :: rest ∧ (c.isDigit ∨ c = '-') := by
  by_cases isZero : magnitude = .zero
  · exact ⟨'0', [], by rw [isZero, chars_zero], .inl rfl⟩
  · obtain ⟨digit, rest, isDigits, isDigit⟩ :=
      (Magnitude.spells_shortest isZero).exists_digit_cons
    rw [chars_of_ne_zero negative isZero, isDigits]
    cases negative with
    | true => exact ⟨'-', digit :: rest, if_pos rfl, .inr rfl⟩
    | false => exact ⟨digit, rest, if_neg (by decide), .inl isDigit⟩

end Number

/-! ## Reading numbers -/

namespace Json

theorem readNumber_literal {literal : Literal} {decimal : Decimal}
    (spells : literal.Spells decimal) {rest : List Char} (ends : Literal.Ends rest)
    (negative : Bool) :
    readNumber (signed negative literal.chars ++ rest) =
      some (.ofDecimal negative decimal, rest) := by
  have scanned := Literal.scan_chars spells.whole spells.fraction ends
  have value := spells.value negative
  cases negative with
  | true =>
    change (if IsStrict (Literal.scan (literal.chars ++ rest)).1 then
      some (Number.ofDecimal true (Literal.scan (literal.chars ++ rest)).1.decimal,
        (Literal.scan (literal.chars ++ rest)).2) else none) = _
    rw [scanned, if_pos spells.strict, value]
  | false =>
    obtain ⟨digit, others, isDigits, isDigit⟩ := spells.exists_digit_cons
    have notMinus : digit ≠ '-' := by
      rintro rfl
      cases isDigit
    rw [signed, if_neg (by decide), readNumber]
    · dsimp only
      rw [scanned]
      dsimp only
      rw [if_pos spells.strict, value]
    · intro others startsWithMinus
      rw [isDigits, List.cons_append, List.cons.injEq] at startsWithMinus
      exact notMinus startsWithMinus.1

/-- A finite number is read back from its text, but for the sign of zero. -/
theorem readNumber_chars (negative : Bool) (magnitude : Magnitude) {rest : List Char}
    (ends : Literal.Ends rest) :
    readNumber ((Number.finite negative magnitude).chars ++ rest) =
      some ((Number.finite negative magnitude).withOneZero, rest) := by
  by_cases isZero : magnitude = .zero
  · have spells : Literal.Spells ⟨['0'], none, none⟩ (Literal.decimal ⟨['0'], none, none⟩) :=
      ⟨by simp, by simp [Literal.fractionDigits], by decide, fun _ => rfl⟩
    have noCoefficient : (Literal.decimal ⟨['0'], none, none⟩).coefficient = 0 := by decide
    have isRead : Number.ofDecimal false (Literal.decimal ⟨['0'], none, none⟩) = .zero :=
      if_pos noCoefficient
    have oneZero : (Number.finite negative .zero).withOneZero = .zero := by
      cases negative <;> rfl
    rw [isZero, oneZero, Number.chars_zero, ← isRead]
    exact readNumber_literal spells ends false
  · rw [Number.chars_of_ne_zero negative isZero,
      readNumber_literal (Magnitude.spells_shortest isZero) ends,
      Number.withOneZero_of_ne_zero negative isZero,
      Number.ofDecimal_eq_finite (Magnitude.denotes_shortest isZero) negative]

end Json

end ClusterAgent
