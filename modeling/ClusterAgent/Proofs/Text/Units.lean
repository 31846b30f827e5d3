import ClusterAgent.Text.Units
import Mathlib.Data.List.Lex

/-!
Contract: the units of a text, and the order of texts by their units.

Units tell texts apart, so the order by units is a total one in which no two
texts stand at the same place.

Owns: joining units again, the strict order of texts.
Does not own: what is put in order.
-/

namespace ClusterAgent

/-! ## Joining -/

/-- The units of a character join to it, whatever follows. -/
theorem joinUnits_unitsOfChar (c : Char) (rest : List Nat) :
    joinUnits (unitsOfChar c ++ rest) = c :: joinUnits rest := by
  obtain ⟨notSurrogate, below⟩ := toNat_bounds c
  unfold unitsOfChar
  by_cases basic : c.toNat < 0x10000
  · have notHigh : ¬ IsHighSurrogate c.toNat := by
      unfold IsHighSurrogate
      omega
    rw [if_pos basic, List.singleton_append, joinUnits_cons notHigh, charOfCode_toNat]
  · have joined : 0x10000 + (0xd800 + (c.toNat - 0x10000) / 0x400 - 0xd800) * 0x400 +
        (0xdc00 + (c.toNat - 0x10000) % 0x400 - 0xdc00) = c.toNat := by omega
    rw [if_neg basic, List.cons_append, List.singleton_append, joinUnits, if_pos, joined,
      charOfCode_toNat]
    unfold IsHighSurrogate IsLowSurrogate
    omega

theorem unitsOfChar_lt {c : Char} : ∀ unit ∈ unitsOfChar c, unit < 0x10000 := by
  obtain ⟨_, below⟩ := toNat_bounds c
  unfold unitsOfChar
  split
  · simpa
  · intro unit member
    simp only [List.mem_cons, List.not_mem_nil, or_false] at member
    omega

/-- The units of a text join to the text again. -/
theorem joinUnits_unitsOf (text : List Char) : joinUnits (unitsOf text) = text := by
  induction text with
  | nil => rfl
  | cons c rest inductionHypothesis =>
    rw [unitsOf, List.flatMap_cons, joinUnits_unitsOfChar]
    exact congrArg (c :: ·) inductionHypothesis

theorem unitsOf_injective {left right : String}
    (same : unitsOf left.toList = unitsOf right.toList) : left = right := by
  apply String.toList_injective
  rw [← joinUnits_unitsOf left.toList, same, joinUnits_unitsOf]

/-! ## The order -/

/-- The strict order of texts by their units. -/
def UnitsBefore (left right : String) : Prop :=
  List.Lex (· < ·) (unitsOf left.toList) (unitsOf right.toList)

theorem unitsLe_iff {left right : String} : unitsLe left right ↔ ¬ UnitsBefore right left := by
  unfold unitsLe UnitsBefore
  rw [Bool.not_eq_true', ← Bool.not_eq_true, List.lex_eq_true_iff_lex]
  simp only [decide_eq_true_eq]

theorem UnitsBefore.asymm {left right : String} (before : UnitsBefore left right) :
    ¬ UnitsBefore right left :=
  List.lex_asymm (fun smaller => Nat.lt_asymm smaller) before

instance : Std.Irrefl UnitsBefore := ⟨fun _ before => before.asymm before⟩

instance : Std.Antisymm UnitsBefore := ⟨fun _ _ before after => absurd after before.asymm⟩

theorem UnitsBefore.trans {first second third : String} (before : UnitsBefore first second)
    (next : UnitsBefore second third) : UnitsBefore first third :=
  List.lex_trans (fun smaller smallerNext => Nat.lt_trans smaller smallerNext) before next

/-- Of two different texts one is before the other. -/
theorem eq_of_not_unitsBefore {left right : String} (notBefore : ¬ UnitsBefore left right)
    (notAfter : ¬ UnitsBefore right left) : left = right :=
  unitsOf_injective (Std.Trichotomous.trichotomous _ _ notBefore notAfter)

theorem unitsLe_trans {first second third : String} (le : unitsLe first second)
    (leNext : unitsLe second third) : unitsLe first third := by
  rw [unitsLe_iff] at le leNext ⊢
  intro after
  by_cases before : UnitsBefore first second
  · exact leNext (after.trans before)
  · have same : first = second := eq_of_not_unitsBefore before le
    exact leNext (same ▸ after)

theorem unitsLe_total (left right : String) : unitsLe left right || unitsLe right left := by
  rw [Bool.or_eq_true, unitsLe_iff, unitsLe_iff]
  by_cases before : UnitsBefore right left
  · exact .inr before.asymm
  · exact .inl before

end ClusterAgent
