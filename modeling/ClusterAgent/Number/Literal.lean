import ClusterAgent.Number.Decimal

/-!
Contract: the written form of decimals inside other texts.

A literal is digits, a point with digits, and an exponent; which of them may be
missing is the reader's rule, so the scanner keeps what it saw.

Owns: scanning signs and literals, the texts that spell a literal, the value of a literal.
Does not own: white space, words, or which literals a format accepts.
-/

namespace ClusterAgent

/-- The value of a run of decimal digits. -/
def digitsValue (digits : List Char) : Nat :=
  digits.foldl (fun value digit => 10 * value + (digit.toNat - 48)) 0

theorem digitsValue_toDigits (n : Nat) : digitsValue (Nat.toDigits 10 n) = n :=
  Nat.ofDigitChars_ten_toDigits

theorem isDigit_toDigits {n : Nat} : ∀ c ∈ Nat.toDigits 10 n, c.isDigit :=
  fun _ member => Nat.isDigit_of_mem_toDigits (by decide) (by decide) member

/-- Splits off one sign; the flag says whether it was a minus. -/
def takeSign : List Char → Bool × List Char
  | '-' :: rest => (true, rest)
  | '+' :: rest => (false, rest)
  | rest => (false, rest)

/-- One sign or none; the flag says whether it is a minus. -/
inductive IsSign : List Char → Bool → Prop
  | none : IsSign [] false
  | plus : IsSign ['+'] false
  | minus : IsSign ['-'] true

/-- Whether no sign stands at the front of a text. -/
def IsUnsigned (text : List Char) : Prop := text.head? ≠ some '-' ∧ text.head? ≠ some '+'

theorem isUnsigned_of_isDigit {digits rest : List Char} (nonempty : digits ≠ [])
    (allDigits : ∀ c ∈ digits, c.isDigit) : IsUnsigned (digits ++ rest) := by
  cases digits with
  | nil => exact absurd rfl nonempty
  | cons digit digits =>
    have isDigit := allDigits digit List.mem_cons_self
    constructor
    all_goals
      intro first
      cases first
      exact absurd isDigit (by decide)

theorem takeSign_append {sign rest : List Char} {negative : Bool} (isSign : IsSign sign negative)
    (unsigned : IsUnsigned rest) : takeSign (sign ++ rest) = (negative, rest) := by
  cases isSign with
  | none =>
    rw [List.nil_append]
    unfold takeSign
    split
    · exact (unsigned.1 rfl).elim
    · exact (unsigned.2 rfl).elim
    · rfl
  | plus => rfl
  | minus => rfl

/-- What is split off as a sign is one. -/
theorem exists_isSign (text : List Char) :
    ∃ sign, IsSign sign (takeSign text).1 ∧ text = sign ++ (takeSign text).2 := by
  unfold takeSign
  split
  · exact ⟨['-'], .minus, rfl⟩
  · exact ⟨['+'], .plus, rfl⟩
  · exact ⟨[], .none, rfl⟩

/-- The parts of a decimal as they were written. -/
structure Literal where
  whole : List Char
  fraction : Option (List Char)
  exponent : Option Int
deriving DecidableEq, Repr

namespace Literal

private def takePoint : List Char → Option (List Char) × List Char
  | '.' :: rest => (some (rest.takeWhile Char.isDigit), rest.dropWhile Char.isDigit)
  | rest => (none, rest)

private def takeExponent (text : List Char) : Option Int × List Char :=
  match text with
  | mark :: rest =>
    let (negative, afterSign) := takeSign rest
    let digits := afterSign.takeWhile Char.isDigit
    if (mark = 'e' ∨ mark = 'E') ∧ digits ≠ [] then
      let size : Int := digitsValue digits
      (some (if negative then -size else size), afterSign.dropWhile Char.isDigit)
    else (none, text)
  | [] => (none, [])

/-- The longest literal at the front of a text, and what follows it. -/
def scan (text : List Char) : Literal × List Char :=
  let (fraction, afterFraction) := takePoint (text.dropWhile Char.isDigit)
  let (exponent, rest) := takeExponent afterFraction
  (⟨text.takeWhile Char.isDigit, fraction, exponent⟩, rest)

def fractionDigits (literal : Literal) : List Char := literal.fraction.getD []

/-- At least one digit stands before or after the point. -/
def HasDigits (literal : Literal) : Prop :=
  literal.whole ≠ [] ∨ literal.fractionDigits ≠ []

instance (literal : Literal) : Decidable literal.HasDigits := by
  unfold HasDigits
  infer_instance

/-- The decimal a literal stands for. -/
def decimal (literal : Literal) : Decimal :=
  ⟨digitsValue (literal.whole ++ literal.fractionDigits),
    literal.exponent.getD 0 - literal.fractionDigits.length⟩

/-! ## The grammar of literals -/

/-- A mark and digits, which one sign may stand before, or no exponent at all. -/
inductive IsExponent : List Char → Option Int → Prop
  | none : IsExponent [] none
  | some {mark : Char} {sign digits : List Char} {negative : Bool} :
      mark = 'e' ∨ mark = 'E' → IsSign sign negative → digits ≠ [] → (∀ c ∈ digits, c.isDigit) →
      IsExponent (mark :: (sign ++ digits))
        (some (if negative then -(digitsValue digits : Int) else digitsValue digits))

/-- A text that spells a literal: its digits, a point with the digits after it if there is a
fraction, and its exponent. -/
structure IsWritten (literal : Literal) (text : List Char) : Prop where
  whole : ∀ c ∈ literal.whole, c.isDigit
  fraction : ∀ c ∈ literal.fractionDigits, c.isDigit
  spells : ∃ exponent, IsExponent exponent literal.exponent ∧
    text = literal.whole ++ (literal.fraction.elim [] ('.' :: ·) ++ exponent)

/-- A literal with digits begins with a digit or a point. -/
theorem IsWritten.exists_cons {literal : Literal} {text : List Char}
    (isWritten : literal.IsWritten text) (hasDigits : literal.HasDigits) :
    ∃ c rest, text = c :: rest ∧ (c.isDigit ∨ c = '.') := by
  obtain ⟨whole, fraction, value⟩ := literal
  obtain ⟨wholeDigits, _, exponent, _, rfl⟩ := isWritten
  cases whole with
  | cons digit whole => exact ⟨digit, _, rfl, .inl (wholeDigits digit List.mem_cons_self)⟩
  | nil =>
    cases fraction with
    | some digits => exact ⟨'.', _, rfl, .inr rfl⟩
    | none =>
      rcases hasDigits with noWhole | noFraction
      · exact absurd rfl noWhole
      · exact absurd rfl noFraction

theorem IsWritten.isUnsigned {literal : Literal} {text : List Char}
    (isWritten : literal.IsWritten text) (hasDigits : literal.HasDigits) : IsUnsigned text := by
  obtain ⟨c, rest, rfl, first⟩ := isWritten.exists_cons hasDigits
  constructor
  all_goals
    intro isSign
    cases isSign
    exact absurd first (by decide)

/-- The text of an exponent, which has a sign. -/
def exponentChars (exponent : Int) : List Char :=
  'e' :: (if exponent < 0 then '-' else '+') :: Nat.toDigits 10 exponent.natAbs

/-- The text of a literal. -/
def chars (literal : Literal) : List Char :=
  literal.whole ++ (literal.fraction.elim [] ('.' :: ·) ++ literal.exponent.elim [] exponentChars)

theorem isExponent_exponentChars (exponent : Int) :
    IsExponent (exponentChars exponent) (some exponent) := by
  have value := digitsValue_toDigits exponent.natAbs
  have nonempty : Nat.toDigits 10 exponent.natAbs ≠ [] := Nat.toDigits_ne_nil
  unfold exponentChars
  by_cases negative : exponent < 0
  · have isExponent := IsExponent.some (.inl rfl) IsSign.minus nonempty isDigit_toDigits
    rw [value, if_pos rfl, show -(exponent.natAbs : Int) = exponent by omega] at isExponent
    rw [if_pos negative]
    exact isExponent
  · have isExponent := IsExponent.some (.inl rfl) IsSign.plus nonempty isDigit_toDigits
    rw [value, if_neg Bool.false_ne_true,
      show (exponent.natAbs : Int) = exponent by omega] at isExponent
    rw [if_neg negative]
    exact isExponent

theorem isWritten_chars {literal : Literal} (wholeDigits : ∀ c ∈ literal.whole, c.isDigit)
    (fractionDigits : ∀ c ∈ literal.fractionDigits, c.isDigit) :
    literal.IsWritten literal.chars := by
  refine ⟨wholeDigits, fractionDigits, literal.exponent.elim [] exponentChars, ?_, rfl⟩
  cases literal.exponent with
  | none => exact .none
  | some exponent => exact isExponent_exponentChars exponent

/-! ## Literals in front of other texts -/

/-- Whether a run of digits ends before a text. -/
def DigitsEnd (rest : List Char) : Prop := ∀ c, rest.head? = some c → c.isDigit = false

/-- Whether a literal ends before a text, whatever it is. -/
structure Ends (rest : List Char) : Prop where
  digits : DigitsEnd rest
  point : rest.head? ≠ some '.'
  mark : rest.head? ≠ some 'e' ∧ rest.head? ≠ some 'E'

theorem ends_nil : Ends [] := by
  refine ⟨?_, by simp, by simp⟩
  intro c first
  cases first

theorem takeWhile_digits {digits rest : List Char} (allDigits : ∀ c ∈ digits, c.isDigit)
    (ends : DigitsEnd rest) : (digits ++ rest).takeWhile Char.isDigit = digits := by
  rw [List.takeWhile_append_of_pos allDigits]
  cases rest with
  | nil => simp
  | cons c rest => rw [List.takeWhile_cons_of_neg (by simp [ends c rfl]), List.append_nil]

theorem dropWhile_digits {digits rest : List Char} (allDigits : ∀ c ∈ digits, c.isDigit)
    (ends : DigitsEnd rest) : (digits ++ rest).dropWhile Char.isDigit = rest := by
  rw [List.dropWhile_append_of_pos allDigits]
  cases rest with
  | nil => rfl
  | cons c rest => rw [List.dropWhile_cons_of_neg (by simp [ends c rfl])]

theorem isDigit_takeWhile {text : List Char} : ∀ c ∈ text.takeWhile Char.isDigit, c.isDigit :=
  fun c member => List.all_eq_true.1 (List.all_takeWhile) c member

private theorem takePoint_of_ne {text : List Char} (noPoint : text.head? ≠ some '.') :
    takePoint text = (none, text) := by
  unfold takePoint
  split
  · exact absurd rfl noPoint
  · rfl

/-- What is taken as a fraction is a point with digits, or nothing. -/
private theorem takePoint_split (text : List Char) :
    (∀ c ∈ (takePoint text).1.getD [], c.isDigit) ∧
      text = (takePoint text).1.elim [] ('.' :: ·) ++ (takePoint text).2 := by
  unfold takePoint
  split
  · next rest =>
    exact ⟨isDigit_takeWhile, congrArg ('.' :: ·) List.takeWhile_append_dropWhile.symm⟩
  · exact ⟨by simp, rfl⟩

private theorem takeExponent_of_ends {rest : List Char} (ends : Ends rest) :
    takeExponent rest = (none, rest) := by
  cases rest with
  | nil => rfl
  | cons c rest =>
    have notMark : ¬ (c = 'e' ∨ c = 'E') := by
      rintro (rfl | rfl)
      · exact ends.mark.1 rfl
      · exact ends.mark.2 rfl
    unfold takeExponent
    dsimp only
    rw [if_neg (fun both => notMark both.1)]

/-- An exponent is taken whole from the front of a text. -/
private theorem takeExponent_append {exponent rest : List Char} {value : Option Int}
    (isExponent : IsExponent exponent value) (ends : Ends rest) :
    takeExponent (exponent ++ rest) = (value, rest) := by
  cases isExponent with
  | none => exact takeExponent_of_ends ends
  | @some mark sign digits negative isMark isSign nonempty allDigits =>
    have unsigned : IsUnsigned (digits ++ rest) :=
      isUnsigned_of_isDigit nonempty allDigits
    have signTaken : takeSign (sign ++ digits ++ rest) = (negative, digits ++ rest) := by
      rw [List.append_assoc]
      exact takeSign_append isSign unsigned
    have taken := takeWhile_digits allDigits ends.digits
    have dropped := dropWhile_digits allDigits ends.digits
    rw [List.cons_append]
    unfold takeExponent
    dsimp only
    rw [signTaken]
    dsimp only
    rw [taken, dropped, if_pos ⟨isMark, nonempty⟩]

/-- What is taken as an exponent is one. -/
private theorem exists_isExponent (text : List Char) :
    ∃ exponent, IsExponent exponent (takeExponent text).1 ∧
      text = exponent ++ (takeExponent text).2 := by
  cases text with
  | nil => exact ⟨[], .none, rfl⟩
  | cons mark rest =>
    obtain ⟨sign, isSign, split⟩ := exists_isSign rest
    unfold takeExponent
    dsimp only
    by_cases isExponent : (mark = 'e' ∨ mark = 'E') ∧
        (takeSign rest).2.takeWhile Char.isDigit ≠ []
    · rw [if_pos isExponent]
      refine ⟨_, .some isExponent.1 isSign isExponent.2 isDigit_takeWhile, ?_⟩
      rw [List.cons_append, List.append_assoc, List.takeWhile_append_dropWhile, ← split]
    · rw [if_neg isExponent]
      exact ⟨[], .none, rfl⟩

/-- A written literal is scanned from the front of a text. -/
theorem scan_append {literal : Literal} {text rest : List Char} (isWritten : literal.IsWritten text)
    (ends : Ends rest) : scan (text ++ rest) = (literal, rest) := by
  obtain ⟨whole, fraction, value⟩ := literal
  obtain ⟨wholeDigits, fractionDigits, exponent, isExponent, isText⟩ := isWritten
  dsimp only at wholeDigits isExponent isText
  have exponentTaken := takeExponent_append isExponent ends
  have exponentEnds : DigitsEnd (exponent ++ rest) ∧ (exponent ++ rest).head? ≠ some '.' := by
    cases isExponent with
    | none => exact ⟨ends.digits, ends.point⟩
    | some isMark =>
      rcases isMark with rfl | rfl
      all_goals
        refine ⟨?_, by simp⟩
        intro c first
        cases first
        rfl
  have pointTaken : takePoint (fraction.elim [] ('.' :: ·) ++ (exponent ++ rest)) =
      (fraction, exponent ++ rest) := by
    cases fraction with
    | none => exact takePoint_of_ne exponentEnds.2
    | some digits =>
      have allDigits : ∀ c ∈ digits, c.isDigit := fractionDigits
      change (some ((digits ++ (exponent ++ rest)).takeWhile Char.isDigit),
        (digits ++ (exponent ++ rest)).dropWhile Char.isDigit) = _
      rw [takeWhile_digits allDigits exponentEnds.1, dropWhile_digits allDigits exponentEnds.1]
  have wholeEnds : DigitsEnd (fraction.elim [] ('.' :: ·) ++ (exponent ++ rest)) := by
    cases fraction with
    | none => exact exponentEnds.1
    | some digits =>
      intro c first
      cases first
      rfl
  unfold scan
  rw [isText, List.append_assoc, List.append_assoc, dropWhile_digits wholeDigits wholeEnds,
    pointTaken]
  dsimp only
  rw [exponentTaken, takeWhile_digits wholeDigits wholeEnds]

/-- A literal is scanned from its text. -/
theorem scan_chars {literal : Literal} {rest : List Char}
    (wholeDigits : ∀ c ∈ literal.whole, c.isDigit)
    (fractionDigits : ∀ c ∈ literal.fractionDigits, c.isDigit) (ends : Ends rest) :
    scan (literal.chars ++ rest) = (literal, rest) :=
  scan_append (isWritten_chars wholeDigits fractionDigits) ends

/-- What is scanned as a literal is written at the front of the text. -/
theorem exists_isWritten (text : List Char) :
    ∃ front, (scan text).1.IsWritten front ∧ text = front ++ (scan text).2 := by
  let afterWhole := text.dropWhile Char.isDigit
  obtain ⟨fractionDigits, pointSplit⟩ := takePoint_split afterWhole
  obtain ⟨exponent, isExponent, exponentSplit⟩ := exists_isExponent (takePoint afterWhole).2
  refine ⟨_, ⟨isDigit_takeWhile, fractionDigits, exponent, isExponent, rfl⟩, ?_⟩
  calc text
    _ = text.takeWhile Char.isDigit ++ afterWhole := List.takeWhile_append_dropWhile.symm
    _ = text.takeWhile Char.isDigit ++ ((takePoint afterWhole).1.elim [] ('.' :: ·) ++
          (exponent ++ (takeExponent (takePoint afterWhole).2).2)) := by
      rw [← exponentSplit, ← pointSplit]
    _ = _ := by simp only [List.append_assoc]; rfl

end Literal

namespace Number

/-- Reads a whole text as an optionally signed literal with at least one digit. -/
def ofLiteral? (text : List Char) : Option Number :=
  let (negative, unsigned) := takeSign text
  match Literal.scan unsigned with
  | (literal, []) => if literal.HasDigits then some (ofDecimal negative literal.decimal) else none
  | (_, _ :: _) => none

/-- A text that spells a number as an optionally signed literal with at least one digit. -/
inductive IsLiteral : List Char → Number → Prop
  | intro {sign body : List Char} {negative : Bool} {literal : Literal} :
      IsSign sign negative → literal.IsWritten body → literal.HasDigits →
      IsLiteral (sign ++ body) (ofDecimal negative literal.decimal)

/-- The texts that are read are those that spell a number. -/
theorem ofLiteral?_eq_some {text : List Char} {number : Number} :
    ofLiteral? text = some number ↔ IsLiteral text number := by
  constructor
  · intro isRead
    obtain ⟨sign, isSign, signSplit⟩ := exists_isSign text
    obtain ⟨body, isWritten, bodySplit⟩ := Literal.exists_isWritten (takeSign text).2
    unfold ofLiteral? at isRead
    dsimp only at isRead
    split at isRead
    · next literal scanned =>
      rw [scanned] at isWritten bodySplit
      dsimp only at isWritten bodySplit
      rw [List.append_nil] at bodySplit
      split at isRead
      · next hasDigits =>
        cases isRead
        have spelled := IsLiteral.intro isSign isWritten hasDigits
        rwa [← bodySplit, ← signSplit] at spelled
      · cases isRead
    · cases isRead
  · intro isLiteral
    cases isLiteral with
    | @intro sign body negative literal isSign isWritten hasDigits =>
      have unsigned : IsUnsigned body := isWritten.isUnsigned hasDigits
      have scanned := Literal.scan_append isWritten Literal.ends_nil
      rw [List.append_nil] at scanned
      unfold ofLiteral?
      rw [takeSign_append isSign unsigned]
      dsimp only
      rw [scanned]
      dsimp only
      rw [if_pos hasDigits]

end Number

end ClusterAgent
