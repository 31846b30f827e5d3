import ClusterAgent.Json.Text
import ClusterAgent.Proofs.Text.Units

/-!
Contract: quoted texts, read back.

The reader undoes every escape of the writer, and the first mark that is not
escaped is the one that the writer closes the text with. So a quoted text tells
its text and where it ends, whatever follows and whatever may stand for itself.

Owns: reading escapes and quoted texts back.
Does not own: the values around a quoted text.
-/

namespace ClusterAgent.Json

theorem hexValue?_hexDigit {digit : Nat} (small : digit < 16) :
    hexValue? (hexDigit digit) = some digit := by
  have allDigits : ∀ digit < 16, hexValue? (hexDigit digit) = some digit := by decide
  exact allDigits digit small

/-- An escaped unit is read back in front of what follows. -/
theorem readCodes_unitEscape {unit : Nat} (small : unit < 0x10000) (text : List Char) :
    readCodes (unitEscape unit ++ text) =
      (readCodes text).map fun read => (unit :: read.1, read.2) := by
  have digits (shift : Nat) : hexValue? (hexDigit (unit / shift % 16)) = some (unit / shift % 16) :=
    hexValue?_hexDigit (Nat.mod_lt _ (by decide))
  have last : hexValue? (hexDigit (unit % 16)) = some (unit % 16) :=
    hexValue?_hexDigit (Nat.mod_lt _ (by decide))
  have value : ((unit / 0x1000 % 16 * 16 + unit / 0x100 % 16) * 16 + unit / 0x10 % 16) * 16 +
      unit % 16 = unit := by omega
  unfold unitEscape
  simp only [List.cons_append, List.nil_append, readCodes, unitValue?, digits, last]
  simp [value]
  cases readCodes text <;> rfl

theorem readCodes_unitEscapes {units : List Nat} (small : ∀ unit ∈ units, unit < 0x10000)
    (text : List Char) :
    readCodes (units.flatMap unitEscape ++ text) =
      (readCodes text).map fun read => (units ++ read.1, read.2) := by
  induction units with
  | nil => simp
  | cons unit units inductionHypothesis =>
    obtain ⟨smallFirst, smallRest⟩ := List.forall_mem_cons.1 small
    rw [List.flatMap_cons, List.append_assoc, readCodes_unitEscape smallFirst,
      inductionHypothesis smallRest, Option.map_map]
    rfl

theorem readCodes_shortEscape {c : Char} {escape : List Char} (short : shortEscape? c = some escape)
    (text : List Char) :
    readCodes (escape ++ text) = (readCodes text).map fun read => (c.toNat :: read.1, read.2) := by
  unfold shortEscape? at short
  split_ifs at short <;> cases short <;> subst_vars <;> simp [readCodes, shortValue?] <;>
    cases readCodes text <;> rfl

theorem readCodes_plain {c : Char} (noEscape : shortEscape? c = none) (printable : ¬ c.toNat < 0x20)
    (text : List Char) :
    readCodes (c :: text) = (readCodes text).map fun read => (c.toNat :: read.1, read.2) := by
  have notQuote : c ≠ '"' := by
    rintro rfl
    cases noEscape
  have notBackslash : c ≠ '\\' := by
    rintro rfl
    cases noEscape
  have readOn : ¬ (decide (c.toNat < 0x20) || decide (c = '\\')) := by
    simp [printable, notBackslash]
  rw [readCodes, if_neg readOn]
  · cases readCodes text <;> rfl
  · exact fun isQuote => absurd isQuote notQuote
  · exact fun a b c d rest isBackslash => absurd isBackslash notBackslash
  · exact fun letter rest isBackslash => absurd isBackslash notBackslash

/-- How a character is named between quotation marks: by its code, or by its units. -/
def codesOf (plain : Char → Bool) (c : Char) : List Nat :=
  if (shortEscape? c).isNone ∧ (c.toNat < 0x20 || !plain c) then unitsOfChar c else [c.toNat]

theorem readCodes_writeChar (plain : Char → Bool) (c : Char) (text : List Char) :
    readCodes (writeChar plain c ++ text) =
      (readCodes text).map fun read => (codesOf plain c ++ read.1, read.2) := by
  unfold writeChar codesOf
  cases short : shortEscape? c with
  | some escape => exact readCodes_shortEscape short text
  | none =>
    dsimp only
    by_cases escaped : c.toNat < 0x20 || !plain c
    · rw [if_pos escaped, if_pos ⟨rfl, escaped⟩]
      exact readCodes_unitEscapes unitsOfChar_lt text
    · rw [if_neg escaped, if_neg (fun both => escaped both.2)]
      exact readCodes_plain short (by simp_all) text

theorem joinUnits_codesOf (plain : Char → Bool) (c : Char) (rest : List Nat) :
    joinUnits (codesOf plain c ++ rest) = c :: joinUnits rest := by
  unfold codesOf
  split
  · exact joinUnits_unitsOfChar c rest
  · have notHigh : ¬ IsHighSurrogate c.toNat := by
      have bounds := (toNat_bounds c).1
      unfold IsHighSurrogate
      omega
    rw [List.singleton_append, joinUnits_cons notHigh, charOfCode_toNat]

theorem readCodes_quote (plain : Char → Bool) (text rest : List Char) :
    readCodes (text.flatMap (writeChar plain) ++ '"' :: rest) =
      some (text.flatMap (codesOf plain), rest) := by
  induction text with
  | nil => rfl
  | cons c text inductionHypothesis =>
    rw [List.flatMap_cons, List.append_assoc, readCodes_writeChar, inductionHypothesis]
    rfl

theorem quote_append (plain : Char → Bool) (text rest : List Char) :
    quote plain text ++ rest = '"' :: (text.flatMap (writeChar plain) ++ '"' :: rest) := by
  simp [quote]

/-- A quoted text is read back, whatever follows it. -/
theorem readQuoted_quote (plain : Char → Bool) (text rest : List Char) :
    readQuoted (text.flatMap (writeChar plain) ++ '"' :: rest) =
      some (String.ofList text, rest) := by
  have joined : joinUnits (text.flatMap (codesOf plain)) = text := by
    induction text with
    | nil => rfl
    | cons c text inductionHypothesis =>
      rw [List.flatMap_cons, joinUnits_codesOf, inductionHypothesis]
  rw [readQuoted, readCodes_quote, Option.map_some]
  dsimp only
  rw [Textual.ofCodes_string, joined]

/-- A text of units is read back from the escapes of its units, surrogates on their own included. So
no two texts are taken for one. -/
theorem readQuoted_unitEscapes (text : UnitText) (rest : List Char) :
    readQuoted ((text.units.map UInt16.toNat).flatMap unitEscape ++ '"' :: rest) =
      some (text, rest) := by
  have small : ∀ unit ∈ text.units.map UInt16.toNat, unit < 0x10000 :=
    List.forall_mem_map.2 fun unit _ => unit.toNat_lt
  have closed : readCodes ('"' :: rest) = some ([], rest) := rfl
  rw [readQuoted, readCodes_unitEscapes small, closed, Option.map_some, Option.map_some,
    List.append_nil]
  dsimp only
  rw [UnitText.ofCodes_units]

/-- What stands between quotation marks tells the text, and where it ends. -/
theorem quote_append_inj (plain : Char → Bool) {left right leftRest rightRest : List Char}
    (same : quote plain left ++ leftRest = quote plain right ++ rightRest) :
    left = right ∧ leftRest = rightRest := by
  rw [quote_append, quote_append, List.cons.injEq] at same
  have readLeft := readQuoted_quote plain left leftRest
  rw [same.2, readQuoted_quote, Option.some.injEq, Prod.mk.injEq] at readLeft
  exact ⟨String.ofList_injective readLeft.1.symm, readLeft.2.symm⟩

end ClusterAgent.Json
