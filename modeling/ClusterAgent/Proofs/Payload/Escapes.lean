import ClusterAgent.Proofs.Payload.Printable
import ClusterAgent.Proofs.Text.Quoted

/-!
Contract: the escape sequences of payloads.

A backslash stands in a payload only where an escape sequence begins, and escape
sequences stand only inside quoted texts. So they can be read off a payload from
left to right, and they are one for each unit of a character that may not stand
for itself: two for an astral character, one for any other.

Owns: the texts of a value, the escape sequences of quoted texts and of payloads.
Does not own: reading quoted texts back.
-/

namespace ClusterAgent

/-! ## The texts of a value -/

namespace Value

mutual

/-- All texts of a value, the keys of objects included, in the order in which they are written. -/
def texts : Value → List String
  | .null => []
  | .bool _ => []
  | .number _ => []
  | .text s => [s]
  | .list items => textsOfItems items
  | .object members => textsOfMembers members

def textsOfItems : List Value → List String
  | [] => []
  | item :: rest => item.texts ++ textsOfItems rest

def textsOfMembers : Members → List String
  | [] => []
  | (key, value) :: rest => key :: (value.texts ++ textsOfMembers rest)

end

end Value

/-- The units of a character that may not stand for itself: one that is not printable, a quotation
mark or a backslash. -/
def escapedUnits (c : Char) : List Nat :=
  if IsPrintable c ∧ c ≠ '"' ∧ c ≠ '\\' then [] else unitsOfChar c

/-- The units to be escaped in texts, in their order. -/
def escapedUnitsOf (texts : List String) : List Nat :=
  texts.flatMap fun text => text.toList.flatMap escapedUnits

theorem length_escapedUnits {c : Char} (unprintable : ¬ IsPrintable c) :
    (escapedUnits c).length = if c.toNat < 0x10000 then 1 else 2 := by
  unfold escapedUnits unitsOfChar
  rw [if_neg (fun printable => unprintable printable.1)]
  split <;> rfl

namespace Json

/-- The escape sequences that stand for a unit: a letter that does, or four hexadecimal digits. -/
inductive IsEscape : Nat → List Char → Prop where
  | short {letter c : Char} (stands : shortValue? letter = some c) :
      IsEscape c.toNat ['\\', letter]
  | unit {a b c d : Char} {unit : Nat} (named : unitValue? a b c d = some unit) :
      IsEscape unit ['\\', 'u', a, b, c, d]

/-- The escape sequences of a text, from left to right. -/
def escapesIn : List Char → List (List Char)
  | '\\' :: 'u' :: a :: b :: c :: d :: rest => ['\\', 'u', a, b, c, d] :: escapesIn rest
  | '\\' :: letter :: rest => ['\\', letter] :: escapesIn rest
  | _ :: rest => escapesIn rest
  | [] => []

/-! ## Escapes of a character -/

/-- The escape sequences that are written for a character. -/
def escapesOf (plain : Char → Bool) (c : Char) : List (List Char) :=
  match shortEscape? c with
  | some escape => [escape]
  | none => if c.toNat < 0x20 || !plain c then (unitsOfChar c).map unitEscape else []

/-- The escape sequences that are written for texts. -/
def escapesOfTexts (plain : Char → Bool) (texts : List String) : List (List Char) :=
  texts.flatMap fun text => text.toList.flatMap (escapesOf plain)

theorem escapesOfTexts_cons (plain : Char → Bool) (text : String) (texts : List String) :
    escapesOfTexts plain (text :: texts) =
      text.toList.flatMap (escapesOf plain) ++ escapesOfTexts plain texts :=
  List.flatMap_cons

theorem escapesOfTexts_append (plain : Char → Bool) (left right : List String) :
    escapesOfTexts plain (left ++ right) =
      escapesOfTexts plain left ++ escapesOfTexts plain right :=
  List.flatMap_append

theorem escapesIn_cons {c : Char} (bare : c ≠ '\\') (rest : List Char) :
    escapesIn (c :: rest) = escapesIn rest := by
  rw [escapesIn]
  · exact fun _ _ _ _ _ isBackslash => absurd isBackslash bare
  · exact fun _ _ isBackslash => absurd isBackslash bare

/-- A text without a backslash has no escape sequences. -/
theorem escapesIn_bare {text : List Char} (bare : '\\' ∉ text) (rest : List Char) :
    escapesIn (text ++ rest) = escapesIn rest := by
  induction text with
  | nil => rfl
  | cons c text inductionHypothesis =>
    rw [List.mem_cons, not_or] at bare
    rw [List.cons_append, escapesIn_cons (Ne.symm bare.1), inductionHypothesis bare.2]

theorem escapesIn_unitEscapes (units : List Nat) (rest : List Char) :
    escapesIn (units.flatMap unitEscape ++ rest) = units.map unitEscape ++ escapesIn rest := by
  induction units with
  | nil => rfl
  | cons unit units inductionHypothesis =>
    rw [List.flatMap_cons, List.append_assoc, List.map_cons, List.cons_append,
      ← inductionHypothesis]
    rfl

theorem escapesIn_shortEscape {c : Char} {escape : List Char} (short : shortEscape? c = some escape)
    (rest : List Char) : escapesIn (escape ++ rest) = escape :: escapesIn rest := by
  unfold shortEscape? at short
  split_ifs at short <;> cases short <;> simp [escapesIn]

/-- The escape sequences of what is written of a character are those that are written for it. -/
theorem escapesIn_writeChar (plain : Char → Bool) (c : Char) (rest : List Char) :
    escapesIn (writeChar plain c ++ rest) = escapesOf plain c ++ escapesIn rest := by
  unfold writeChar escapesOf
  cases short : shortEscape? c with
  | some escape => exact escapesIn_shortEscape short rest
  | none =>
    have bare : c ≠ '\\' := by
      rintro rfl
      cases short
    dsimp only
    split
    · exact escapesIn_unitEscapes (unitsOfChar c) rest
    · exact escapesIn_cons bare rest

theorem escapesIn_quote (plain : Char → Bool) (text rest : List Char) :
    escapesIn (quote plain text ++ rest) = text.flatMap (escapesOf plain) ++ escapesIn rest := by
  rw [quote_append, escapesIn_cons (by decide)]
  induction text with
  | nil => exact escapesIn_cons (by decide) rest
  | cons c text inductionHypothesis =>
    rw [List.flatMap_cons, List.append_assoc, escapesIn_writeChar, inductionHypothesis,
      List.flatMap_cons, List.append_assoc]

theorem isEscape_unitEscape {unit : Nat} (small : unit < 0x10000) :
    IsEscape unit (unitEscape unit) := by
  have digit (shifted : Nat) : hexValue? (hexDigit (shifted % 16)) = some (shifted % 16) :=
    hexValue?_hexDigit (Nat.mod_lt _ (by decide))
  have value : ((unit / 0x1000 % 16 * 16 + unit / 0x100 % 16) * 16 + unit / 0x10 % 16) * 16 +
      unit % 16 = unit := by omega
  apply IsEscape.unit
  simp only [unitValue?, digit, Option.bind_eq_bind, Option.bind_some]
  exact congrArg some value

theorem isEscape_shortEscape {c : Char} {escape : List Char}
    (short : shortEscape? c = some escape) : IsEscape c.toNat escape := by
  unfold shortEscape? at short
  split_ifs at short <;> cases short <;> subst_vars <;> exact .short rfl

theorem escapedUnits_of_shortEscape {c : Char} {escape : List Char}
    (short : shortEscape? c = some escape) : escapedUnits c = [c.toNat] := by
  unfold shortEscape? at short
  split_ifs at short <;> subst_vars <;> decide

/-- What is written for a character are escape sequences of its units, or none if the character
stands for itself. -/
theorem forall₂_escapesOf {plain : Char → Bool} (isPlain : ∀ c, plain c ↔ c.toNat < 0x7f)
    (c : Char) : List.Forall₂ IsEscape (escapedUnits c) (escapesOf plain c) := by
  unfold escapesOf
  cases short : shortEscape? c with
  | some escape =>
    rw [escapedUnits_of_shortEscape short]
    exact .cons (isEscape_shortEscape short) .nil
  | none =>
    have standsApart : c ≠ '"' ∧ c ≠ '\\' := by
      constructor <;> rintro rfl <;> cases short
    have escaped : c.toNat < 0x20 || !plain c ↔ ¬ IsPrintable c := by
      have notPlain : (!plain c) = true ↔ ¬ c.toNat < 0x7f := by
        rw [Bool.not_eq_true', ← Bool.not_eq_true, isPlain]
      rw [Bool.or_eq_true, decide_eq_true_eq, notPlain]
      unfold IsPrintable
      omega
    unfold escapedUnits
    dsimp only
    by_cases printable : IsPrintable c
    · rw [if_neg (fun unprintable => escaped.1 unprintable printable),
        if_pos ⟨printable, standsApart⟩]
      exact .nil
    · rw [if_pos (escaped.2 printable), if_neg (fun both => printable both.1),
        List.forall₂_map_right_iff, List.forall₂_same]
      exact fun unit member => isEscape_unitEscape (unitsOfChar_lt unit member)

theorem forall₂_flatMap {α β γ : Type} {R : β → γ → Prop} {left : α → List β} {right : α → List γ}
    (related : ∀ item, List.Forall₂ R (left item) (right item)) (items : List α) :
    List.Forall₂ R (items.flatMap left) (items.flatMap right) := by
  induction items with
  | nil => exact .nil
  | cons item rest inductionHypothesis =>
    rw [List.flatMap_cons, List.flatMap_cons]
    exact List.rel_append (related item) inductionHypothesis

/-- What is written for texts are escape sequences of the units to be escaped, in their order. -/
theorem forall₂_escapesOfTexts {plain : Char → Bool} (isPlain : ∀ c, plain c ↔ c.toNat < 0x7f)
    (texts : List String) :
    List.Forall₂ IsEscape (escapedUnitsOf texts) (escapesOfTexts plain texts) := by
  unfold escapedUnitsOf escapesOfTexts
  apply forall₂_flatMap
  intro text
  exact forall₂_flatMap (forall₂_escapesOf isPlain) text.toList

/-! ## Escapes of a value -/

/-- A format that writes no backslash outside quoted texts. -/
structure Format.IsBare (format : Format) : Prop where
  comma : '\\' ∉ format.comma
  colon : '\\' ∉ format.colon
  number : ∀ number, '\\' ∉ format.number number

namespace Format.IsBare

variable {format : Format} (bare : format.IsBare)

include bare

mutual

/-- What is written of a value has the escape sequences of its texts. -/
theorem escapesIn_write (value : Value) (rest : List Char) :
    escapesIn (format.write value ++ rest) =
      escapesOfTexts format.plain value.texts ++ escapesIn rest := by
  cases value with
  | null => rw [Format.write]; exact escapesIn_bare (by decide) rest
  | bool flag => cases flag <;> rw [Format.write] <;> exact escapesIn_bare (by decide) rest
  | number number => rw [Format.write]; exact escapesIn_bare (bare.number number) rest
  | text text =>
    rw [Format.write, escapesIn_quote, Value.texts, escapesOfTexts, List.flatMap_singleton]
  | list items =>
    rw [Format.write, List.cons_append, escapesIn_cons (by decide), List.append_assoc,
      escapesIn_writeItems items, List.singleton_append, escapesIn_cons (by decide), Value.texts]
  | object members =>
    rw [Format.write, List.cons_append, escapesIn_cons (by decide), List.append_assoc,
      escapesIn_writeMembers members, List.singleton_append, escapesIn_cons (by decide),
      Value.texts]

theorem escapesIn_writeItems (items : List Value) (rest : List Char) :
    escapesIn (format.writeItems items ++ rest) =
      escapesOfTexts format.plain (Value.textsOfItems items) ++ escapesIn rest := by
  match items with
  | [] => rfl
  | [item] =>
    rw [Format.writeItems, escapesIn_write item, Value.textsOfItems, Value.textsOfItems,
      List.append_nil]
  | item :: next :: others =>
    rw [Value.textsOfItems, Format.writeItems, List.append_assoc, List.append_assoc,
      escapesIn_write item, escapesIn_bare bare.comma, escapesIn_writeItems (next :: others),
      escapesOfTexts_append, List.append_assoc]

theorem escapesIn_writeMembers (members : Members) (rest : List Char) :
    escapesIn (format.writeMembers members ++ rest) =
      escapesOfTexts format.plain (Value.textsOfMembers members) ++ escapesIn rest := by
  match members with
  | [] => rfl
  | [(key, value)] =>
    rw [Format.writeMembers, List.append_assoc, List.append_assoc, escapesIn_quote,
      escapesIn_bare bare.colon, escapesIn_write value, Value.textsOfMembers, Value.textsOfMembers,
      List.append_nil, escapesOfTexts_cons, List.append_assoc]
  | (key, value) :: next :: others =>
    rw [Value.textsOfMembers, Format.writeMembers, List.append_assoc, List.append_assoc,
      List.append_assoc, List.append_assoc, escapesIn_quote, escapesIn_bare bare.colon,
      escapesIn_write value, escapesIn_bare bare.comma, escapesIn_writeMembers (next :: others),
      escapesOfTexts_cons, escapesOfTexts_append, List.append_assoc, List.append_assoc]

end

end Format.IsBare

end Json

/-! ## Escapes of a payload -/

namespace Number

theorem backslash_not_mem_chars (number : Number) : '\\' ∉ number.chars := by
  cases number with
  | nan => decide
  | infinity negative => cases negative <;> decide
  | finite negative magnitude =>
    by_cases isZero : magnitude = .zero
    · rw [isZero, chars_zero]
      decide
    · have inLiteral : '\\' ∉ magnitude.shortest.literal.chars := by
        intro member
        have notDigitOrMark : ¬ ('\\'.isDigit ∨ '\\' ∈ Literal.marks) := by decide
        exact notDigitOrMark ((Magnitude.spells_shortest isZero).isDigit_or_mark _ member)
      rw [chars_of_ne_zero negative isZero, signed]
      split
      · rw [List.mem_cons, not_or]
        exact ⟨by decide, inLiteral⟩
      · exact inLiteral

end Number

namespace Payload

theorem isBare_format : format.IsBare where
  comma := by decide
  colon := by decide
  number := Number.backslash_not_mem_chars

theorem isBare_keyFormat : keyFormat.IsBare where
  comma := by decide
  colon := by decide
  number := by
    intro number
    cases number with
    | nan => decide
    | infinity negative => cases negative <;> decide
    | finite negative magnitude => exact (Number.finite negative magnitude).backslash_not_mem_chars

theorem isPlain_format (c : Char) : format.plain c ↔ c.toNat < 0x7f := by
  simp [format]

theorem escapesIn_chars (value : Value) :
    Json.escapesIn (chars value) = Json.escapesOfTexts format.plain value.texts := by
  have written := isBare_format.escapesIn_write value []
  rw [List.append_nil] at written
  rw [chars, written]
  exact List.append_nil _

/-- The texts of keyed values, each key before its value. -/
def textsOf (members : List (Name × Value)) : List String :=
  members.flatMap fun (key, value) => key.shown.texts ++ value.texts

theorem escapesIn_memberChars (key : Name) (value : Value) (rest : List Char) :
    Json.escapesIn (memberChars key value ++ rest) =
      Json.escapesOfTexts format.plain (key.shown.texts ++ value.texts) ++ Json.escapesIn rest := by
  have samePlain : keyFormat.plain = format.plain := rfl
  unfold memberChars chars
  rw [List.append_assoc, List.append_assoc, isBare_keyFormat.escapesIn_write,
    Json.escapesIn_bare isBare_format.colon, isBare_format.escapesIn_write, samePlain,
    Json.escapesOfTexts_append, List.append_assoc]

theorem escapesIn_intercalate (members : List (Name × Value)) (rest : List Char) :
    Json.escapesIn
        (format.comma.intercalate (members.map fun (key, value) => memberChars key value) ++ rest) =
      Json.escapesOfTexts format.plain (textsOf members) ++ Json.escapesIn rest := by
  induction members with
  | nil => rfl
  | cons member others inductionHypothesis =>
    have texts : textsOf (member :: others) =
        member.1.shown.texts ++ member.2.texts ++ textsOf others := List.flatMap_cons
    rw [texts, Json.escapesOfTexts_append, List.append_assoc, ← inductionHypothesis]
    cases others with
    | nil =>
      rw [List.map_singleton, List.intercalate_singleton, escapesIn_memberChars]
      rfl
    | cons next others =>
      rw [List.map_cons, List.map_cons, List.intercalate_cons_cons, List.append_assoc,
        List.append_assoc, escapesIn_memberChars, Json.escapesIn_bare isBare_format.comma]

theorem escapesIn_encodeMembers (members : List (Name × Value)) :
    Json.escapesIn (encodeMembers members).toList =
      Json.escapesOfTexts format.plain (textsOf members) := by
  rw [encodeMembers, String.toList_ofList, Json.escapesIn_cons (by decide), escapesIn_intercalate]
  exact List.append_nil _

/-- Payloads hold printable ASCII characters only, and their escape sequences are, from left to
right, those of the characters that may not stand for themselves in the keys and texts, from left to
right: one for each unit, and so two for an astral character. That holds of the payload of any value
and of that of any keyed values. -/
theorem payloads_are_printable_and_escaped :
    (∀ value : Value, (∀ c ∈ (encode value).toList, IsPrintable c) ∧
        List.Forall₂ Json.IsEscape (escapedUnitsOf value.texts)
          (Json.escapesIn (encode value).toList)) ∧
      (∀ members : List (Name × Value), (∀ c ∈ (encodeMembers members).toList, IsPrintable c) ∧
        List.Forall₂ Json.IsEscape (escapedUnitsOf (textsOf members))
          (Json.escapesIn (encodeMembers members).toList)) ∧
      ∀ c, ¬ IsPrintable c →
        (escapedUnits c).length = if c.toNat < 0x10000 then 1 else 2 := by
  refine ⟨fun value => ⟨?_, ?_⟩, fun members => ⟨?_, ?_⟩, fun c => length_escapedUnits⟩
  · rw [encode, String.toList_ofList]
    exact isPrintable_format.write value
  · rw [encode, String.toList_ofList, escapesIn_chars]
    exact Json.forall₂_escapesOfTexts isPlain_format value.texts
  · obtain ⟨inner, written, printable⟩ := exists_encodeMembers members
    rw [written, String.toList_ofList]
    exact List.forall_mem_cons.2
      ⟨by decide, List.forall_mem_append.2 ⟨printable, isPrintable_of_all rfl⟩⟩
  · rw [escapesIn_encodeMembers]
    exact Json.forall₂_escapesOfTexts isPlain_format (textsOf members)

/-- A payload with escapes of each kind, in a key and in nested texts. -/
theorem payloads_are_printable_and_escaped_of_nested_texts :
    let value : Value := .object [("é\\", .list [.text "a\n😀", .object [("b", .text "\x7f")]])]
    (∀ c ∈ (encode value).toList, IsPrintable c) ∧
      List.Forall₂ Json.IsEscape [0xe9, 0x5c, 0x0a, 0xd83d, 0xde00, 0x7f]
        (Json.escapesIn (encode value).toList) ∧
      (escapedUnits '😀').length = 2 := by
  intro value
  obtain ⟨values, _, lengths⟩ := payloads_are_printable_and_escaped
  have units : escapedUnitsOf value.texts = [0xe9, 0x5c, 0x0a, 0xd83d, 0xde00, 0x7f] := by decide
  obtain ⟨printable, escaped⟩ := values value
  rw [units] at escaped
  exact ⟨printable, escaped, lengths '😀' (by decide)⟩

end Payload

end ClusterAgent
