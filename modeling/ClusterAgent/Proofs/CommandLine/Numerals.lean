import ClusterAgent.Config.Numeral
import ClusterAgent.Proofs.Quantity.Numerals
import Mathlib.Data.List.Induction

/-!
Contract: exactly the grammar of written numbers is read as a number.

A written number is nothing at all, an infinity, digits of a base behind its
mark, or a decimal, each between blanks. Only the infinity and the decimal may
have a sign. Every other text is read as the undefined number.

Owns: the grammar of written numbers, exactness of their reader.
Does not own: the number nearest to a decimal.
-/

namespace ClusterAgent

/-- A literal is made of digits, points, marks of an exponent and signs. -/
theorem Number.IsLiteral.mem {text : List Char} {number : Number}
    (isLiteral : IsLiteral text number) {c : Char} (member : c ∈ text) :
    c.isDigit ∨ c ∈ ['.', 'e', 'E', '+', '-'] := by
  have ofSign {sign : List Char} {negative : Bool} (isSign : IsSign sign negative)
      (inSign : c ∈ sign) : c ∈ ['.', 'e', 'E', '+', '-'] := by
    cases isSign <;> simp_all
  cases isLiteral with
  | @intro sign body negative literal isSign isWritten _ =>
    obtain ⟨wholeDigits, fractionDigits, exponent, isExponent, rfl⟩ := isWritten
    rcases List.mem_append.1 member with inSign | inBody
    · exact .inr (ofSign isSign inSign)
    rcases List.mem_append.1 inBody with inWhole | inRest
    · exact .inl (wholeDigits c inWhole)
    rcases List.mem_append.1 inRest with inFraction | inExponent
    · obtain ⟨whole, fraction, value⟩ := literal
      cases fraction with
      | none => cases inFraction
      | some digits =>
        rcases List.mem_cons.1 inFraction with rfl | inDigits
        · exact .inr (by decide)
        · exact .inl (fractionDigits c inDigits)
    · generalize literal.exponent = value at isExponent
      cases isExponent with
      | none => cases inExponent
      | some isMark isExponentSign _ allDigits =>
        rcases List.mem_cons.1 inExponent with rfl | inSigned
        · rcases isMark with rfl | rfl
          all_goals exact .inr (by decide)
        · rcases List.mem_append.1 inSigned with inSign | inDigits
          · exact .inr (ofSign isExponentSign inSign)
          · exact .inl (allDigits c inDigits)

namespace Numeral

/-- One or more digits of a base, with the value that they have. -/
inductive AreDigits (base : Nat) : List Char → Nat → Prop where
  | single {c : Char} {digit : Nat} (isDigit : digitValue? c = some digit) (small : digit < base) :
      AreDigits base [c] digit
  | append {digits : List Char} {c : Char} {value digit : Nat}
      (areDigits : AreDigits base digits value) (isDigit : digitValue? c = some digit)
      (small : digit < base) : AreDigits base (digits ++ [c]) (value * base + digit)

/-- The marks that a base is known by. -/
inductive IsBaseMark : Char → Nat → Prop where
  | sixteen {mark : Char} : mark = 'x' ∨ mark = 'X' → IsBaseMark mark 16
  | eight {mark : Char} : mark = 'o' ∨ mark = 'O' → IsBaseMark mark 8
  | two {mark : Char} : mark = 'b' ∨ mark = 'B' → IsBaseMark mark 2

/-- The texts of written numbers, without blanks around them, and the numbers that they spell. -/
inductive Spells : List Char → Number → Prop where
  | nothing : Spells [] .zero
  | infinity {sign : List Char} {negative : Bool} (isSign : IsSign sign negative) :
      Spells (sign ++ "Infinity".toList) (.infinity negative)
  | based {mark : Char} {base value : Nat} {digits : List Char} (isMark : IsBaseMark mark base)
      (areDigits : AreDigits base digits value) : Spells ('0' :: mark :: digits) (.ofNat value)
  | decimal {text : List Char} {number : Number} (isLiteral : Number.IsLiteral text number) :
      Spells text number

/-! ## Digits of a base -/

theorem AreDigits.ne_nil {base value : Nat} {digits : List Char}
    (areDigits : AreDigits base digits value) : digits ≠ [] := by
  cases areDigits with
  | single => exact List.cons_ne_nil _ _
  | append => exact List.append_ne_nil_of_right_ne_nil _ (List.cons_ne_nil _ _)

/-- One more digit behind the value of digits. -/
def addDigit (base value : Nat) (c : Char) : Option Nat :=
  match digitValue? c with
  | some digit => if digit < base then some (value * base + digit) else none
  | none => none

theorem addDigit_eq_some {base value result : Nat} {c : Char} :
    addDigit base value c = some result ↔
      ∃ digit, digitValue? c = some digit ∧ digit < base ∧ value * base + digit = result := by
  unfold addDigit
  cases digitValue? c with
  | none => simp
  | some digit => by_cases small : digit < base <;> simp [small]

theorem foldlM_addDigit_concat (base start : Nat) (front : List Char) (c : Char) :
    (front ++ [c]).foldlM (addDigit base) start =
      (front.foldlM (addDigit base) start).bind (addDigit base · c) := by
  simp

theorem areDigits_of_foldlM {base : Nat} {digits : List Char} (nonempty : digits ≠ [])
    {value : Nat} (folded : digits.foldlM (addDigit base) 0 = some value) :
    AreDigits base digits value := by
  induction digits using List.reverseRecOn generalizing value with
  | nil => exact absurd rfl nonempty
  | append_singleton front c inductionHypothesis =>
    rw [foldlM_addDigit_concat, Option.bind_eq_some_iff] at folded
    obtain ⟨before, isBefore, added⟩ := folded
    obtain ⟨digit, isDigit, small, rfl⟩ := addDigit_eq_some.1 added
    by_cases isFirst : front = []
    · rw [isFirst] at isBefore
      cases isBefore
      rw [isFirst, Nat.zero_mul, Nat.zero_add]
      exact .single isDigit small
    · exact .append (inductionHypothesis isFirst isBefore) isDigit small

theorem AreDigits.foldlM_eq {base value : Nat} {digits : List Char}
    (areDigits : AreDigits base digits value) :
    digits.foldlM (addDigit base) 0 = some value := by
  induction areDigits with
  | @single c digit isDigit small =>
    apply (foldlM_addDigit_concat base 0 [] c).trans
    exact addDigit_eq_some.2 ⟨digit, isDigit, small, by omega⟩
  | @append digits c value digit _ isDigit small inductionHypothesis =>
    rw [foldlM_addDigit_concat, inductionHypothesis]
    exact addDigit_eq_some.2 ⟨digit, isDigit, small, rfl⟩

/-- Exactly the digits of a base are read, and as the value that they have. -/
theorem readDigits?_eq_some {base value : Nat} {digits : List Char} :
    readDigits? base digits = some value ↔ AreDigits base digits value := by
  have isFold : readDigits? base digits =
      if digits.isEmpty then none else digits.foldlM (addDigit base) 0 := rfl
  rw [isFold]
  constructor
  · intro isRead
    split at isRead
    · cases isRead
    · next nonempty => exact areDigits_of_foldlM (mt List.isEmpty_iff.2 nonempty) isRead
  · intro areDigits
    rw [if_neg (mt List.isEmpty_iff.1 areDigits.ne_nil)]
    exact areDigits.foldlM_eq

theorem takeBase?_of_isBaseMark {mark : Char} {base : Nat} (isMark : IsBaseMark mark base)
    (digits : List Char) : takeBase? ('0' :: mark :: digits) = some (base, digits) := by
  cases isMark with
  | sixteen isMark => rcases isMark with rfl | rfl <;> rfl
  | eight isMark => rcases isMark with rfl | rfl <;> rfl
  | two isMark => rcases isMark with rfl | rfl <;> rfl

theorem exists_isBaseMark {text digits : List Char} {base : Nat}
    (taken : takeBase? text = some (base, digits)) :
    ∃ mark, IsBaseMark mark base ∧ text = '0' :: mark :: digits := by
  unfold takeBase? at taken
  split at taken
  · next mark digits =>
    split at taken
    · next isMark =>
      cases taken
      exact ⟨mark, .sixteen isMark, rfl⟩
    split at taken
    · next isMark =>
      cases taken
      exact ⟨mark, .eight isMark, rfl⟩
    split at taken
    · next isMark =>
      cases taken
      exact ⟨mark, .two isMark, rfl⟩
    · cases taken
  · cases taken

/-- No decimal is marked with a base. -/
theorem takeBase?_of_isLiteral {text : List Char} {number : Number}
    (isLiteral : Number.IsLiteral text number) : takeBase? text = none := by
  rw [Option.eq_none_iff_forall_not_mem]
  rintro ⟨base, digits⟩ taken
  obtain ⟨mark, isMark, rfl⟩ := exists_isBaseMark taken
  have inLiteral := isLiteral.mem (c := mark) (by simp)
  have foreign : ¬ (mark.isDigit ∨ mark ∈ ['.', 'e', 'E', '+', '-']) := by
    cases isMark with
    | sixteen isMark => rcases isMark with rfl | rfl <;> decide
    | eight isMark => rcases isMark with rfl | rfl <;> decide
    | two isMark => rcases isMark with rfl | rfl <;> decide
  exact foreign inLiteral

/-! ## Written numbers -/

theorem read_of_spells {text : String} {number : Number}
    (spells : Spells (trimBlanks text.toList) number) : read text = number := by
  unfold read
  generalize trimBlanks text.toList = trimmed at spells
  dsimp only
  cases spells with
  | nothing => exact if_pos rfl
  | @infinity sign negative isSign =>
    have nonempty : ¬ (sign ++ "Infinity".toList).isEmpty := by simp
    rw [takeSign_append isSign ⟨by decide, by decide⟩, if_neg nonempty]
    exact if_pos rfl
  | @based mark base value digits isMark areDigits =>
    have nonempty : ¬ ('0' :: mark :: digits).isEmpty := by simp
    have notInfinity : (takeSign ('0' :: mark :: digits)).2 ≠ "Infinity".toList := by
      intro isInfinity
      exact absurd (List.cons.inj isInfinity).1 (by decide)
    rw [if_neg nonempty, if_neg notInfinity, takeBase?_of_isBaseMark isMark]
    dsimp only
    rw [readDigits?_eq_some.2 areDigits, Option.map_some, Option.getD_some]
  | decimal isLiteral =>
    obtain ⟨c, rest, isCons, first⟩ := isLiteral.exists_cons
    have nonempty : ¬ trimmed.isEmpty := by
      rw [List.isEmpty_iff]
      rintro rfl
      cases isCons
    have notInfinity : (takeSign trimmed).2 ≠ "Infinity".toList := by
      rw [isCons]
      intro isInfinity
      rw [(List.cons.inj isInfinity).1] at first
      exact absurd first (by decide)
    rw [if_neg nonempty, if_neg notInfinity, takeBase?_of_isLiteral isLiteral]
    dsimp only
    rw [Number.ofLiteral?_eq_some.2 isLiteral, Option.getD_some]

theorem spells_of_read {text : String} {number : Number} (isRead : read text = number)
    (isNumber : number ≠ .nan) : Spells (trimBlanks text.toList) number := by
  unfold read at isRead
  generalize trimBlanks text.toList = trimmed at isRead ⊢
  dsimp only at isRead
  obtain ⟨sign, isSign, signSplit⟩ := exists_isSign trimmed
  split at isRead
  · next isEmpty =>
    rw [← isRead, List.isEmpty_iff.1 isEmpty]
    exact .nothing
  split at isRead
  · next isInfinity =>
    have spelled := Spells.infinity isSign
    rw [← isInfinity, ← signSplit] at spelled
    rwa [← isRead]
  split at isRead
  · next base digits taken =>
    obtain ⟨mark, isMark, rfl⟩ := exists_isBaseMark taken
    cases digitsRead : readDigits? base digits with
    | none =>
      rw [digitsRead] at isRead
      exact absurd isRead.symm isNumber
    | some value =>
      rw [digitsRead, Option.map_some, Option.getD_some] at isRead
      rw [← isRead]
      exact .based isMark (readDigits?_eq_some.1 digitsRead)
  · cases literalRead : Number.ofLiteral? trimmed with
    | none =>
      rw [literalRead] at isRead
      exact absurd isRead.symm isNumber
    | some other =>
      rw [literalRead, Option.getD_some] at isRead
      rw [← isRead]
      exact .decimal (Number.ofLiteral?_eq_some.1 literalRead)

/-- Exactly the texts of written numbers are read as a number, and as the numbers they spell. -/
theorem read_eq_iff {text : String} {number : Number} (isNumber : number ≠ .nan) :
    read text = number ↔ Spells (trimBlanks text.toList) number := by
  constructor
  · intro isRead
    exact spells_of_read isRead isNumber
  · exact read_of_spells

end Numeral

end ClusterAgent
