import ClusterAgent.Number.Literal
import ClusterAgent.Table
import ClusterAgent.Text.Kind

/-!
Contract: the values that a payload is made of.

An object keeps its members in one canonical order: keys that are array indices
come first, in ascending order, and the others follow in the order in which they
were first given. Giving a key again keeps its place.

Owns: the type, objects and their order, plain texts of values, fields that may
be missing.
Does not own: reading and writing values as JSON.
-/

namespace ClusterAgent

inductive Value (τ : Type := String) where
  | null
  | bool (flag : Bool)
  | number (number : Number)
  | text (text : τ)
  | list (items : List (Value τ))
  | object (members : List (τ × Value τ))
deriving Inhabited

/-- The members of an object in their canonical order. -/
abbrev Members (τ : Type := String) := List (τ × Value τ)

/-- The array index that a key spells: a decimal without a leading zero, below `2 ^ 32 - 1`. -/
def indexKey? {τ : Type} [Textual τ] (key : τ) : Option Nat :=
  let digits := Textual.chars key
  if digits ≠ [] ∧ digits.all Char.isDigit ∧ (digits.head? ≠ some '0' ∨ digits = ['0']) ∧
      digitsValue digits < 0xffffffff then some (digitsValue digits)
  else none

namespace Members

variable {τ α : Type} [DecidableEq τ] [Textual τ]

/-- Gives a key that is an index a value, among the index keys in front. -/
def setIndex (index : Nat) (key : τ) (value : α) :
    List (τ × α) → List (τ × α)
  | [] => [(key, value)]
  | (other, held) :: rest =>
    if other = key then (key, value) :: rest
    else if (indexKey? other).any (· < index) then (other, held) :: setIndex index key value rest
    else (key, value) :: (other, held) :: rest

/-- Gives a key a value, in place if the key is present. -/
def set (members : List (τ × α)) (key : τ) (value : α) : List (τ × α) :=
  match indexKey? key with
  | some index => setIndex index key value members
  | none => Table.setEntry key value members

/-- The members of `right` given to `left` one after the other. -/
def overlay (left right : List (τ × α)) : List (τ × α) :=
  right.foldl (fun members (key, value) => set members key value) left

def ofList (pairs : List (τ × α)) : List (τ × α) := overlay [] pairs

theorem lookup_setIndex
    (index : Nat)
    (key other : τ)
    (value : α)
    (members : List (τ × α)) :
    (setIndex index key value members).lookup other =
      if other = key then some value else members.lookup other := by
  induction members with
  | nil => simp [setIndex, Table.lookup_entry]
  | cons member rest ih =>
    obtain ⟨name, held⟩ := member
    by_cases same : name = key
    · by_cases wanted : other = key <;> simp [setIndex, Table.lookup_entry, same, wanted]
    · by_cases smaller : (indexKey? name).any (· < index)
      · by_cases wanted : other = name
        · simp [setIndex, same, smaller, wanted]
        · simp [setIndex, Table.lookup_entry, same, smaller, wanted, ih]
      · simp [setIndex, Table.lookup_entry, same, smaller]

/-- Look-up after giving a key a value. -/
theorem lookup_set (members : List (τ × α)) (key other : τ) (value : α) :
    (set members key value).lookup other =
      if other = key then some value else members.lookup other := by
  unfold set
  split
  · exact lookup_setIndex _ key other value members
  · exact Table.lookup_setEntry key other value members

/-- The text under a key, where there is one. -/
def text? (members : Members) (key : String) : Option String :=
  match members.lookup key with
  | some (.text text) => some text
  | _ => none

/-- The members of an object inside, none if there is no object. -/
def inside (members : Members) (key : String) : Members :=
  match members.lookup key with
  | some (.object held) => held
  | _ => []

end Members

namespace Value

/-- The member that stands in place of an object's text. -/
def textMember : String := "toString"

def members? : Value → Option Members
  | .object members => some members
  | _ => none

/-- The name of the kind of a value, as schema messages give it. -/
def kindName {τ : Type} : Value τ → String
  | .null => "null"
  | .bool _ => "boolean"
  | .number .nan => "nan"
  | .number _ => "number"
  | .text _ => "string"
  | .list _ => "array"
  | .object _ => "object"

/-- Whether a value counts as given: null, false, zero, the undefined number and the empty text
do not. -/
def isGiven : Value → Bool
  | .null => false
  | .bool flag => flag
  | .number n => n ≠ .nan && n ≠ .zero && n ≠ .negativeZero
  | .text s => s ≠ ""
  | .list _ => true
  | .object _ => true

/-- Whether two values are one and the same. A plain value is told by what it is; no list or object
is the same as another one. -/
def same : Value → Value → Bool
  | .null, .null => true
  | .bool left, .bool right => left == right
  | .number left, .number right => left.equals right
  | .text left, .text right => left == right
  | _, _ => false

mutual

/-- The plain text of a value: texts as they are, lists joined by commas, objects by their kind.
An object that has a member in place of its text has none, nor has a list with such an object. -/
def plainText? : Value → Option String
  | .null => some "null"
  | .bool flag => some (if flag then "true" else "false")
  | .number n => some n.text
  | .text s => some s
  | .list items => (itemTexts? items).map (",".intercalate ·)
  | .object members =>
    if (members.lookup textMember).isSome then none else some "[object Object]"

private def itemTexts? : List Value → Option (List String)
  | [] => some []
  | .null :: rest => (itemTexts? rest).map ("" :: ·)
  | item :: rest => do return (← item.plainText?) :: (← itemTexts? rest)

end

end Value

/-- A field that may be missing, and may hold anything. -/
abbrev Field (τ : Type := String) := Option (Value τ)

namespace Field

/-- A field as a payload shows it: one that is missing is null. -/
def shown (field : Field) : Value := field.getD .null

def isGiven (field : Field) : Bool := field.any Value.isGiven

def text? : Field → Option String
  | some (.text text) => some text
  | _ => none

/-- Whether two fields are the same: both missing, or both there with the same value. -/
def same : Field → Field → Bool
  | none, none => true
  | some left, some right => left.same right
  | _, _ => false

/-- The plain text of a field, with a word for one that is missing. -/
def plainText? (missing : String) : Field → Option String
  | none => some missing
  | some value => value.plainText?

end Field

end ClusterAgent
