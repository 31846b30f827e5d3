/-!
Contract: texts as sequences of 16-bit units.

A character beyond the basic plane counts as two units, a high and a low
surrogate. Escapes name units, and names of hosts are ordered by them. A
surrogate on its own is no character, so units that hold one are not told apart
by the characters that they join to.

Owns: taking characters apart, joining units, the order by units.
Does not own: how a unit is written.
-/

namespace ClusterAgent

def unitsOfChar (c : Char) : List Nat :=
  if c.toNat < 0x10000 then [c.toNat]
  else [0xd800 + (c.toNat - 0x10000) / 0x400, 0xdc00 + (c.toNat - 0x10000) % 0x400]

def unitsOf (text : List Char) : List Nat := text.flatMap unitsOfChar

def IsHighSurrogate (unit : Nat) : Prop := 0xd800 ≤ unit ∧ unit < 0xdc00

def IsLowSurrogate (unit : Nat) : Prop := 0xdc00 ≤ unit ∧ unit < 0xe000

instance (unit : Nat) : Decidable (IsHighSurrogate unit) := by
  unfold IsHighSurrogate
  infer_instance

instance (unit : Nat) : Decidable (IsLowSurrogate unit) := by
  unfold IsLowSurrogate
  infer_instance

/-- The character with a code. The replacement character stands for a surrogate on its own. -/
def charOfCode (code : Nat) : Char :=
  if code.isValidChar then Char.ofNat code else Char.ofNat 0xfffd

/-- Joins units into characters; a code beyond 16 bits stands for itself. -/
def joinUnits : List Nat → List Char
  | high :: low :: rest =>
    if IsHighSurrogate high ∧ IsLowSurrogate low then
      charOfCode (0x10000 + (high - 0xd800) * 0x400 + (low - 0xdc00)) :: joinUnits rest
    else charOfCode high :: joinUnits (low :: rest)
  | [unit] => [charOfCode unit]
  | [] => []

theorem charOfCode_toNat (c : Char) : charOfCode c.toNat = c := by
  have valid : c.toNat.isValidChar := c.valid
  rw [charOfCode, if_pos valid]
  exact Char.ofNat_toNat c

theorem toNat_bounds (c : Char) : (c.toNat < 0xd800 ∨ 0xdfff < c.toNat) ∧ c.toNat < 0x110000 := by
  have valid : c.toNat.isValidChar := c.valid
  rcases valid with low | ⟨high, below⟩
  · exact ⟨.inl low, by omega⟩
  · exact ⟨.inr high, below⟩

theorem joinUnits_cons {unit : Nat} (notHigh : ¬ IsHighSurrogate unit) (rest : List Nat) :
    joinUnits (unit :: rest) = charOfCode unit :: joinUnits rest := by
  cases rest with
  | nil => rfl
  | cons low others =>
    rw [joinUnits, if_neg]
    exact fun both => notHigh both.1

/-- Codes of characters join to these characters. -/
theorem joinUnits_map_toNat (text : List Char) : joinUnits (text.map Char.toNat) = text := by
  induction text with
  | nil => rfl
  | cons c rest inductionHypothesis =>
    have notHigh : ¬ IsHighSurrogate c.toNat := by
      have bounds := (toNat_bounds c).1
      unfold IsHighSurrogate
      omega
    rw [List.map_cons, joinUnits_cons notHigh, charOfCode_toNat, inductionHypothesis]

/-- The order of names by their units: a name may stand before any that is not less. -/
def unitsLe (left right : String) : Bool :=
  !(unitsOf right.toList).lex (unitsOf left.toList) (· < ·)

end ClusterAgent
