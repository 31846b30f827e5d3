import ClusterAgent.Text.Units

/-!
Contract: kinds of texts.

A text is a sequence of characters or one of 16-bit units. Only units can hold a
surrogate on its own, as an escape may name it; in a text of characters, the
replacement character stands for it, as it does wherever texts are written out.

Owns: what is known of every kind of texts, texts of characters, texts of units.
Does not own: what a text says.
-/

namespace ClusterAgent

class Textual (τ : Type) where
  /-- What a reader sees of a text, one character after the other. -/
  chars : τ → List Char
  /-- The text that is named by the codes of characters and units. -/
  ofCodes : List Nat → τ
  /-- A text that is known beforehand. -/
  literal : String → τ
  ofCodes_chars : ∀ text, ofCodes ((chars text).map Char.toNat) = text
  chars_literal : ∀ text : String, (∀ c ∈ text.toList, c.toNat < 0x10000) →
    chars (literal text) = text.toList

theorem Textual.chars_injective {τ : Type} [Textual τ] {left right : τ}
    (same : chars left = chars right) : left = right := by
  rw [← ofCodes_chars left, same, ofCodes_chars]

/-! ## Texts of characters -/

instance : Textual String where
  chars := String.toList
  ofCodes codes := String.ofList (joinUnits codes)
  literal text := text
  ofCodes_chars text := by rw [joinUnits_map_toNat, String.ofList_toList]
  chars_literal _ _ := rfl

@[simp] theorem Textual.chars_string (text : String) : chars text = text.toList := rfl

@[simp] theorem Textual.ofCodes_string (codes : List Nat) :
    (ofCodes codes : String) = String.ofList (joinUnits codes) := rfl

@[simp] theorem Textual.literal_string (text : String) : (literal text : String) = text := rfl

/-! ## Texts of units -/

/-- A text that may hold surrogates on their own. -/
structure UnitText where
  units : List UInt16
deriving DecidableEq, Repr

/-- What a reader sees of a unit. No character is a surrogate, so one for private use stands for
it, which no unit is. -/
def charOfUnit (unit : UInt16) : Char :=
  if unit.toNat.isValidChar then Char.ofNat unit.toNat else Char.ofNat (0x100000 + unit.toNat)

theorem toNat_charOfNat {code : Nat} (valid : code.isValidChar) :
    (Char.ofNat code).toNat = code := by
  rw [Char.ofNat, dif_pos valid]
  rfl

theorem ofNat_toNat_charOfUnit (unit : UInt16) : UInt16.ofNat (charOfUnit unit).toNat = unit := by
  have small : unit.toNat < 0x10000 := unit.toNat_lt
  apply UInt16.toNat_inj.1
  rw [UInt16.toNat_ofNat']
  unfold charOfUnit
  split
  · rename_i valid
    rw [toNat_charOfNat valid]
    omega
  · have stands : (0x100000 + unit.toNat).isValidChar := .inr (by omega)
    rw [toNat_charOfNat stands]
    omega

/-- Characters of the basic plane are seen as they are. -/
theorem map_charOfUnit_unitsOf {text : List Char} (basic : ∀ c ∈ text, c.toNat < 0x10000) :
    ((unitsOf text).map UInt16.ofNat).map charOfUnit = text := by
  induction text with
  | nil => rfl
  | cons c rest inductionHypothesis =>
    obtain ⟨basicFirst, basicRest⟩ := List.forall_mem_cons.1 basic
    have valid : c.toNat.isValidChar := c.valid
    have seen : charOfUnit (UInt16.ofNat c.toNat) = c := by
      rw [charOfUnit, UInt16.toNat_ofNat_of_lt' basicFirst, if_pos valid, Char.ofNat_toNat]
    rw [unitsOf, List.flatMap_cons, unitsOfChar, if_pos basicFirst, List.singleton_append,
      List.map_cons, List.map_cons, seen]
    exact congrArg (c :: ·) (inductionHypothesis basicRest)

instance : Textual UnitText where
  chars text := text.units.map charOfUnit
  ofCodes codes := ⟨codes.map UInt16.ofNat⟩
  literal text := ⟨(unitsOf text.toList).map UInt16.ofNat⟩
  ofCodes_chars text := by simp [Function.comp_def, ofNat_toNat_charOfUnit]
  chars_literal _ basic := map_charOfUnit_unitsOf basic

/-- The units of a text name it. -/
theorem UnitText.ofCodes_units (text : UnitText) :
    Textual.ofCodes (text.units.map UInt16.toNat) = text := by
  change UnitText.mk ((text.units.map UInt16.toNat).map UInt16.ofNat) = text
  simp [Function.comp_def]

end ClusterAgent
