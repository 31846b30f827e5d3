import ClusterAgent.Payload
import ClusterAgent.Proofs.Number.Spelling
import ClusterAgent.Proofs.Text.Units

/-!
Contract: payloads are lines of printable ASCII.

Whatever stands for itself is printable, and an escape is made of printable
characters only. So no value and no key, a name that is no text included, brings
a character into a payload that is not printable.

Owns: the characters of quoted texts, of numbers and of payloads.
Does not own: which values a payload is made of.
-/

namespace ClusterAgent

/-- The characters from the blank to the tilde. -/
def IsPrintable (c : Char) : Prop := 0x20 ≤ c.toNat ∧ c.toNat ≤ 0x7e

instance (c : Char) : Decidable (IsPrintable c) :=
  @instDecidableAnd _ _ (Nat.decLe 0x20 c.toNat) (Nat.decLe c.toNat 0x7e)

theorem IsPrintable.ne_newline {c : Char} (printable : IsPrintable c) : c ≠ '\n' := by
  rintro rfl
  exact absurd printable (by decide)

theorem isPrintable_of_isDigit {c : Char} (isDigit : c.isDigit) : IsPrintable c := by
  have bounds := digit_bounds isDigit
  unfold IsPrintable
  omega

/-- A fixed text is checked character by character. -/
theorem isPrintable_of_all {text : List Char} (checked : text.all fun c => decide (IsPrintable c)) :
    ∀ c ∈ text, IsPrintable c := by
  simpa using checked

/-! ## Numbers -/

/-- What may stand between the digits of a literal. -/
def Literal.marks : List Char := ['.', 'e', '+', '-']

theorem Literal.isDigit_or_mark_exponentChars (exponent : Int) :
    ∀ c ∈ exponentChars exponent, c.isDigit ∨ c ∈ marks := by
  intro c member
  rcases List.mem_cons.1 member with rfl | afterMark
  · decide
  · rcases List.mem_cons.1 afterMark with rfl | inDigits
    · split <;> decide
    · exact .inl (isDigit_toDigits c inDigits)

theorem Literal.Spells.isDigit_or_mark {literal : Literal} {decimal : Decimal}
    (spells : literal.Spells decimal) : ∀ c ∈ literal.chars, c.isDigit ∨ c ∈ marks := by
  have inFraction : ∀ c ∈ literal.fraction.elim [] ('.' :: ·), c.isDigit ∨ c ∈ marks := by
    intro c member
    have isDigit := spells.fraction c
    unfold fractionDigits at isDigit
    cases isFraction : literal.fraction with
    | none => simp [isFraction] at member
    | some digits =>
      rw [isFraction] at member isDigit
      rcases List.mem_cons.1 member with rfl | inDigits
      · decide
      · exact .inl (isDigit inDigits)
  have inExponent : ∀ c ∈ literal.exponent.elim [] exponentChars, c.isDigit ∨ c ∈ marks := by
    cases literal.exponent with
    | none => simp
    | some exponent => exact isDigit_or_mark_exponentChars exponent
  unfold chars
  rw [List.forall_mem_append, List.forall_mem_append]
  exact ⟨fun c inWhole => .inl (spells.whole c inWhole), inFraction, inExponent⟩

theorem Literal.Spells.isPrintable {literal : Literal} {decimal : Decimal}
    (spells : literal.Spells decimal) : ∀ c ∈ literal.chars, IsPrintable c := by
  intro c member
  rcases spells.isDigit_or_mark c member with isDigit | isMark
  · exact isPrintable_of_isDigit isDigit
  · exact isPrintable_of_all rfl c isMark

theorem isPrintable_signed {text : List Char} (printable : ∀ c ∈ text, IsPrintable c)
    (negative : Bool) : ∀ c ∈ signed negative text, IsPrintable c := by
  unfold signed
  split
  · exact List.forall_mem_cons.2 ⟨by decide, printable⟩
  · exact printable

theorem Number.isPrintable_chars (number : Number) : ∀ c ∈ number.chars, IsPrintable c := by
  cases number with
  | nan => exact isPrintable_of_all rfl
  | infinity negative => cases negative <;> exact isPrintable_of_all rfl
  | finite negative magnitude =>
    by_cases isZero : magnitude = .zero
    · rw [isZero, chars_zero]
      exact isPrintable_of_all rfl
    · rw [chars_of_ne_zero negative isZero]
      exact isPrintable_signed (Magnitude.spells_shortest isZero).isPrintable negative

namespace Json

/-! ## Quoted texts -/

theorem isPrintable_hexDigit {digit : Nat} (small : digit < 16) : IsPrintable (hexDigit digit) := by
  have allDigits : ∀ digit < 16, IsPrintable (hexDigit digit) := by decide
  exact allDigits digit small

theorem isPrintable_unitEscape (unit : Nat) : ∀ c ∈ unitEscape unit, IsPrintable c := by
  have digit (shifted : Nat) : IsPrintable (hexDigit (shifted % 16)) :=
    isPrintable_hexDigit (Nat.mod_lt _ (by decide))
  intro c member
  simp only [unitEscape, List.mem_cons, List.not_mem_nil, or_false] at member
  rcases member with rfl | rfl | rfl | rfl | rfl | rfl
  · decide
  · decide
  all_goals exact digit _

theorem isPrintable_shortEscape {c : Char} {escape : List Char}
    (short : shortEscape? c = some escape) : ∀ c ∈ escape, IsPrintable c := by
  unfold shortEscape? at short
  split_ifs at short <;> cases short <;> exact isPrintable_of_all rfl

/-- Whatever may stand for itself is printable, the controls aside, which may not. -/
theorem isPrintable_quote {plain : Char → Bool} (plainBelow : ∀ c, plain c → c.toNat < 0x7f)
    (text : List Char) : ∀ c ∈ quote plain text, IsPrintable c := by
  have written : ∀ c, ∀ other ∈ writeChar plain c, IsPrintable other := by
    intro c other member
    unfold writeChar at member
    split at member
    · rename_i short
      exact isPrintable_shortEscape short other member
    · split at member
      · obtain ⟨unit, _, inEscape⟩ := List.mem_flatMap.1 member
        exact isPrintable_unitEscape unit other inEscape
      · rename_i notEscaped
        rw [List.mem_singleton.1 member]
        simp only [Bool.or_eq_true, decide_eq_true_eq, Bool.not_eq_true', not_or,
          Bool.not_eq_false] at notEscaped
        have below := plainBelow c notEscaped.2
        unfold IsPrintable
        omega
  unfold quote
  refine List.forall_mem_cons.2 ⟨by decide, List.forall_mem_append.2 ⟨?_, isPrintable_of_all rfl⟩⟩
  intro c member
  obtain ⟨source, _, inWritten⟩ := List.mem_flatMap.1 member
  exact written source c inWritten

/-! ## Values -/

/-- A format whose separators, plain characters and numbers are printable. -/
structure Format.IsPrintable (format : Format) : Prop where
  comma : ∀ c ∈ format.comma, ClusterAgent.IsPrintable c
  colon : ∀ c ∈ format.colon, ClusterAgent.IsPrintable c
  plain : ∀ c, format.plain c → c.toNat < 0x7f
  number : ∀ number, ∀ c ∈ format.number number, ClusterAgent.IsPrintable c

namespace Format.IsPrintable

variable {format : Format} (printable : format.IsPrintable)

include printable

mutual

/-- What is written of a value is printable. -/
theorem write (value : Value) : ∀ c ∈ format.write value, ClusterAgent.IsPrintable c := by
  cases value with
  | null => simp only [Format.write]; exact isPrintable_of_all rfl
  | bool flag => cases flag <;> simp only [Format.write] <;> exact isPrintable_of_all rfl
  | number number => simp only [Format.write]; exact printable.number number
  | text text => simp only [Format.write]; exact isPrintable_quote printable.plain text.toList
  | list items =>
    rw [Format.write]
    exact List.forall_mem_cons.2
      ⟨by decide, List.forall_mem_append.2 ⟨writeItems items, isPrintable_of_all rfl⟩⟩
  | object members =>
    rw [Format.write]
    exact List.forall_mem_cons.2
      ⟨by decide, List.forall_mem_append.2 ⟨writeMembers members, isPrintable_of_all rfl⟩⟩

theorem writeItems (items : List Value) :
    ∀ c ∈ format.writeItems items, ClusterAgent.IsPrintable c := by
  match items with
  | [] => simp [Format.writeItems]
  | [item] => exact write item
  | item :: next :: rest =>
    rw [Format.writeItems, List.forall_mem_append, List.forall_mem_append]
    exact ⟨⟨write item, printable.comma⟩, writeItems (next :: rest)⟩

theorem writeMembers (members : Members) :
    ∀ c ∈ format.writeMembers members, ClusterAgent.IsPrintable c := by
  match members with
  | [] => simp [Format.writeMembers]
  | [(key, value)] =>
    rw [Format.writeMembers, List.forall_mem_append, List.forall_mem_append]
    exact ⟨⟨isPrintable_quote printable.plain key.toList, printable.colon⟩, write value⟩
  | (key, value) :: next :: rest =>
    simp only [Format.writeMembers, List.forall_mem_append]
    exact ⟨⟨⟨⟨isPrintable_quote printable.plain key.toList, printable.colon⟩, write value⟩,
      printable.comma⟩, writeMembers (next :: rest)⟩

end

end Format.IsPrintable

end Json

/-! ## Payloads -/

namespace Payload

theorem isPrintable_format : format.IsPrintable where
  comma := isPrintable_of_all rfl
  colon := isPrintable_of_all rfl
  plain := fun _ plain => by simpa [format] using plain
  number := Number.isPrintable_chars

theorem isPrintable_keyFormat : keyFormat.IsPrintable where
  comma := isPrintable_of_all rfl
  colon := isPrintable_of_all rfl
  plain := isPrintable_format.plain
  number := by
    intro number
    cases number with
    | nan => simp only [keyFormat, Json.finiteNumber]; exact isPrintable_of_all rfl
    | infinity negative => simp only [keyFormat, Json.finiteNumber]; exact isPrintable_of_all rfl
    | finite negative magnitude => exact (Number.finite negative magnitude).isPrintable_chars

theorem isPrintable_memberChars (key : Name) (value : Value) :
    ∀ c ∈ memberChars key value, IsPrintable c := by
  unfold memberChars
  rw [List.forall_mem_append, List.forall_mem_append]
  exact ⟨⟨isPrintable_keyFormat.write key.shown, isPrintable_format.colon⟩,
    isPrintable_format.write value⟩

theorem isPrintable_intercalate {separator : List Char} (separatorPrintable : ∀ c ∈ separator,
    IsPrintable c) {pieces : List (List Char)} (piecesPrintable : ∀ piece ∈ pieces, ∀ c ∈ piece,
      IsPrintable c) : ∀ c ∈ separator.intercalate pieces, IsPrintable c := by
  induction pieces with
  | nil => simp
  | cons piece rest inductionHypothesis =>
    obtain ⟨piecePrintable, restPrintable⟩ := List.forall_mem_cons.1 piecesPrintable
    cases rest with
    | nil => rw [List.intercalate_singleton]; exact piecePrintable
    | cons next others =>
      rw [List.intercalate_cons_cons, List.forall_mem_append, List.forall_mem_append]
      exact ⟨⟨piecePrintable, separatorPrintable⟩, inductionHypothesis restPrintable⟩

/-- What stands between the braces of a payload of keyed values. -/
theorem exists_encodeMembers (members : List (Name × Value)) :
    ∃ inner, encodeMembers members = String.ofList ('{' :: (inner ++ ['}'])) ∧
      ∀ c ∈ inner, IsPrintable c := by
  refine ⟨_, rfl, isPrintable_intercalate isPrintable_format.comma ?_⟩
  intro piece member
  obtain ⟨⟨key, value⟩, _, rfl⟩ := List.mem_map.1 member
  exact isPrintable_memberChars key value

end Payload

end ClusterAgent
