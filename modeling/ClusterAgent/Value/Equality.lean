import ClusterAgent.Value

/-!
Contract: equality of values.

Two values are equal if they have the same structure, the order of members
included. Zero and negative zero differ here, and the undefined number beq
itself.

Owns: the decision.
Does not own: which values the agent takes for one and the same.
-/

namespace ClusterAgent

variable {τ : Type} [DecidableEq τ]

namespace Value

mutual

/-- Whether two values have the same structure. -/
def beq : Value τ → Value τ → Bool
  | .null, .null => true
  | .bool left, .bool right => left == right
  | .number left, .number right => decide (left = right)
  | .text left, .text right => left == right
  | .list left, .list right => beqItems left right
  | .object left, .object right => beqMembers left right
  | _, _ => false

def beqItems : List (Value τ) → List (Value τ) → Bool
  | [], [] => true
  | left :: lefts, right :: rights => left.beq right && beqItems lefts rights
  | _, _ => false

def beqMembers : List (τ × Value τ) → List (τ × Value τ) → Bool
  | [], [] => true
  | (key, left) :: lefts, (other, right) :: rights =>
    key == other && left.beq right && beqMembers lefts rights
  | _, _ => false

end

mutual

theorem beq_iff : (left right : Value τ) → (left.beq right = true ↔ left = right)
  | .null, right => by cases right <;> simp [beq]
  | .bool _, right => by cases right <;> simp [beq]
  | .number _, right => by cases right <;> simp [beq]
  | .text _, right => by cases right <;> simp [beq]
  | .list items, right => by
    cases right <;> simp [beq, beqItems_iff items]
  | .object members, right => by
    cases right <;> simp [beq, beqMembers_iff members]

theorem beqItems_iff :
    (left right : List (Value τ)) → (beqItems left right = true ↔ left = right)
  | [], right => by cases right <;> simp [beqItems]
  | item :: rest, right => by
    cases right <;> simp [beqItems, beq_iff item, beqItems_iff rest]

theorem beqMembers_iff :
    (left right : List (τ × Value τ)) → (beqMembers left right = true ↔ left = right)
  | [], right => by cases right <;> simp [beqMembers]
  | (key, value) :: rest, right => by
    cases right <;>
      simp [beqMembers, beq_iff value, beqMembers_iff rest, Prod.ext_iff]

end

end Value

instance : DecidableEq (Value τ) := fun left right =>
  decidable_of_iff _ (Value.beq_iff left right)

instance : LawfulBEq (Value τ) := inferInstance

end ClusterAgent
