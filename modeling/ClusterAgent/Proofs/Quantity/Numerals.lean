import ClusterAgent.Quantity
import Mathlib.Data.List.Basic

/-!
Contract: exactly the grammar of numbers is read as a number.

A number is an infinity, not a number or a decimal, each with an optional sign;
a count is a run of digits with an optional sign. A text is read if it spells
one of them between blanks, and it is read as what it spells.

Owns: the grammars of numbers and counts, exactness of their readers, the last letter of a number.
Does not own: suffixes, and the number nearest to a decimal.
-/

namespace ClusterAgent

/-! ## The two ends of a literal -/

/-- A literal ends in a digit or a point. -/
theorem Literal.IsWritten.last {literal : Literal} {text : List Char}
    (isWritten : literal.IsWritten text) {c : Char} (isLast : text.getLast? = some c) :
    c.isDigit ∨ c = '.' := by
  obtain ⟨whole, fraction, value⟩ := literal
  obtain ⟨wholeDigits, fractionDigits, exponent, isExponent, rfl⟩ := isWritten
  dsimp only at wholeDigits isExponent
  cases isExponent with
  | none =>
    -- Without an exponent every character is a digit or the point.
    have isMember := List.mem_of_getLast? isLast
    rw [List.append_nil, List.mem_append] at isMember
    rcases isMember with inWhole | inFraction
    · exact .inl (wholeDigits c inWhole)
    · cases fraction with
      | none => cases inFraction
      | some digits =>
        rcases List.mem_cons.1 inFraction with isPoint | inDigits
        · exact .inr isPoint
        · exact .inl (fractionDigits c inDigits)
  | @some mark sign digits negative isMark isSign nonempty allDigits =>
    have regrouped : whole ++ (fraction.elim [] ('.' :: ·) ++ mark :: (sign ++ digits)) =
        (whole ++ (fraction.elim [] ('.' :: ·) ++ mark :: sign)) ++ digits := by
      simp only [List.append_assoc, List.cons_append]
    rw [regrouped, List.getLast?_append_of_ne_nil _ nonempty] at isLast
    exact .inl (allDigits c (List.mem_of_getLast? isLast))

namespace Number.IsLiteral

variable {text : List Char} {number : Number}

/-- What follows the sign of a literal begins with a digit or a point. -/
theorem exists_cons (isLiteral : IsLiteral text number) :
    ∃ c rest, (takeSign text).2 = c :: rest ∧ (c.isDigit ∨ c = '.') := by
  cases isLiteral with
  | intro isSign isWritten hasDigits =>
    rw [takeSign_append isSign (isWritten.isUnsigned hasDigits)]
    exact isWritten.exists_cons hasDigits

/-- So no word follows the sign of a literal. -/
theorem not_word (isLiteral : IsLiteral text number) :
    ¬ ((takeSign text).2 = "inf".toList ∨ (takeSign text).2 = "infinity".toList) ∧
      (takeSign text).2 ≠ "nan".toList := by
  obtain ⟨c, rest, isCons, first⟩ := isLiteral.exists_cons
  have apart {word : List Char} {letter : Char} (opens : word.head? = some letter)
      (foreign : ¬ (letter.isDigit ∨ letter = '.')) : (takeSign text).2 ≠ word := by
    intro isWord
    rw [← isWord, isCons, List.head?_cons, Option.some.injEq] at opens
    exact foreign (opens ▸ first)
  have foreignI : ¬ ('i'.isDigit ∨ 'i' = '.') := by decide
  have foreignN : ¬ ('n'.isDigit ∨ 'n' = '.') := by decide
  exact ⟨not_or.2 ⟨apart rfl foreignI, apart rfl foreignI⟩, apart rfl foreignN⟩

theorem last (isLiteral : IsLiteral text number) {c : Char} (isLast : text.getLast? = some c) :
    c.isDigit ∨ c = '.' := by
  cases isLiteral with
  | intro isSign isWritten hasDigits =>
    obtain ⟨first, rest, isCons, _⟩ := isWritten.exists_cons hasDigits
    have nonempty : first :: rest ≠ [] := List.cons_ne_nil first rest
    rw [← isCons] at nonempty
    rw [List.getLast?_append_of_ne_nil _ nonempty] at isLast
    exact isWritten.last isLast

end Number.IsLiteral

namespace Quantity

/-! ## Numbers -/

/-- The texts of numbers in lower case, with the numbers they spell. -/
inductive IsNumeral : List Char → Number → Prop
  | infinity {sign word : List Char} {negative : Bool} : IsSign sign negative →
      word = "inf".toList ∨ word = "infinity".toList → IsNumeral (sign ++ word) (.infinity negative)
  | nan {sign : List Char} {negative : Bool} : IsSign sign negative →
      IsNumeral (sign ++ "nan".toList) .nan
  | decimal {text : List Char} {number : Number} : Number.IsLiteral text number →
      IsNumeral text number

/-- A text as the grammar of numbers sees it: in lower case, without the blanks around it. -/
def normalized (text : List Char) : List Char := (trimBlanks text).map Char.toLower

/-- Exactly the texts of numbers are read, and as the numbers they spell. -/
theorem readNumber?_eq_some {text : List Char} {number : Number} :
    readNumber? text = some number ↔ IsNumeral (normalized text) number := by
  change readNumber? text = _ ↔ IsNumeral ((trimBlanks text).map Char.toLower) _
  unfold readNumber?
  generalize (trimBlanks text).map Char.toLower = lowered
  dsimp only
  constructor
  · intro isRead
    obtain ⟨sign, isSign, signSplit⟩ := exists_isSign lowered
    split at isRead
    · next isInfinity =>
      cases isRead
      have spelled := IsNumeral.infinity isSign isInfinity
      rwa [← signSplit] at spelled
    · split at isRead
      · next isNan =>
        cases isRead
        have spelled := IsNumeral.nan isSign
        rwa [← isNan, ← signSplit] at spelled
      · exact .decimal (Number.ofLiteral?_eq_some.1 isRead)
  · intro isNumeral
    cases isNumeral with
    | @infinity sign word negative isSign isInfinity =>
      have unsigned : IsUnsigned word := by
        rcases isInfinity with rfl | rfl
        all_goals exact ⟨by decide, by decide⟩
      rw [takeSign_append isSign unsigned, if_pos isInfinity]
    | nan isSign =>
      have notInfinity : ¬ ("nan".toList = "inf".toList ∨ "nan".toList = "infinity".toList) := by
        decide
      rw [takeSign_append isSign ⟨by decide, by decide⟩, if_neg notInfinity, if_pos rfl]
    | decimal isLiteral =>
      obtain ⟨notInfinity, notNan⟩ := isLiteral.not_word
      rw [if_neg notInfinity, if_neg notNan]
      exact Number.ofLiteral?_eq_some.2 isLiteral

/-- How a number may end: with a digit, a point or the last letter of a word. -/
def EndsNumeral (c : Char) : Prop := c.isDigit ∨ c ∈ ['.', 'f', 'y', 'n']

instance (c : Char) : Decidable (EndsNumeral c) := by
  unfold EndsNumeral
  infer_instance

theorem IsNumeral.last {text : List Char} {number : Number} (isNumeral : IsNumeral text number)
    {c : Char} (isLast : text.getLast? = some c) : EndsNumeral c := by
  cases isNumeral with
  | infinity isSign isInfinity =>
    rcases isInfinity with rfl | rfl
    all_goals
      rw [List.getLast?_append_of_ne_nil _ (by decide)] at isLast
      cases isLast
      decide
  | nan isSign =>
    rw [List.getLast?_append_of_ne_nil _ (by decide)] at isLast
    cases isLast
    decide
  | decimal isLiteral =>
    rcases isLiteral.last isLast with isDigit | rfl
    · exact .inl isDigit
    · decide

/-! ## Counts -/

/-- The texts of integers, with the numbers they spell. -/
inductive IsInteger : List Char → Number → Prop
  | intro {sign digits : List Char} {negative : Bool} : IsSign sign negative → digits ≠ [] →
      (∀ c ∈ digits, c.isDigit) →
      IsInteger (sign ++ digits) (.ofDecimal negative ⟨digitsValue digits, 0⟩)

/-- Exactly the texts of integers are read, and as the numbers they spell. -/
theorem readCount?_eq_some {text : List Char} {number : Number} :
    readCount? text = some number ↔ IsInteger (trimBlanks text) number := by
  unfold readCount?
  generalize trimBlanks text = trimmed
  dsimp only
  constructor
  · intro isRead
    obtain ⟨sign, isSign, signSplit⟩ := exists_isSign trimmed
    split at isRead
    · next isRun =>
      cases isRead
      have spelled := IsInteger.intro isSign isRun.1 (List.all_eq_true.1 isRun.2)
      rwa [← signSplit] at spelled
    · cases isRead
  · intro isInteger
    cases isInteger with
    | @intro sign digits negative isSign nonempty allDigits =>
      have unsigned : IsUnsigned (digits ++ []) := isUnsigned_of_isDigit nonempty allDigits
      rw [List.append_nil] at unsigned
      rw [takeSign_append isSign unsigned]
      exact if_pos ⟨nonempty, List.all_eq_true.2 allDigits⟩

end Quantity

end ClusterAgent
