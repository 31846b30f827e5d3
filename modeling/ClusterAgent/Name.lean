import ClusterAgent.Value.Equality

/-!
Contract: the names of entities and of hosts, as they are declared.

A name is meant to be a text, but it may be missing or be any other value. A
plain value is the same name wherever it stands. A list or an object is a name
of its own in every place where it stands, whatever it holds.

Owns: what tells names apart, the texts of names.
Does not own: which entities have a name.
-/

namespace ClusterAgent

/-- Where a name stands: as the name of an item of a list, or of the host that the item is on. -/
inductive Place where
  | item (position : Nat)
  | host (position : Nat)
deriving DecidableEq, Repr

inductive Name where
  | missing
  | null
  | flag (flag : Bool)
  | number (number : Number)
  | text (text : String)
  | compound (place : Place) (value : Value)
deriving DecidableEq

namespace Name

instance : Inhabited Name := ⟨missing⟩

instance : Coe String Name := ⟨text⟩

/-- The name that a value is in a place. There is one zero among names. -/
def ofValue (place : Place) : Value → Name
  | .null => null
  | .bool isSet => flag isSet
  | .number n => number (if n = .negativeZero then .zero else n)
  | .text s => text s
  | .list items => compound place (.list items)
  | .object members => compound place (.object members)

/-- The name that a field is in a place. -/
def ofField (place : Place) : Field → Name
  | none => missing
  | some value => ofValue place value

/-- The names that items of a list are. -/
def ofItems (items : List Value) : List Name :=
  items.zipIdx.map fun (value, position) => ofValue (.item position) value

/-- A name as the field that declares it. -/
def field : Name → Field
  | missing => none
  | null => some .null
  | flag isSet => some (.bool isSet)
  | number n => some (.number n)
  | text s => some (.text s)
  | compound _ value => some value

def shown (name : Name) : Value := name.field.shown

def isGiven (name : Name) : Bool := name.field.isGiven

/-- A name unless it counts as nothing. -/
def given? (name : Name) : Option Name := if name.isGiven then some name else none

def plainText? (name : Name) : Option String := name.field.plainText? "undefined"

/-- Whether a name has a plain text, as every name has that is a text. -/
def hasText (name : Name) : Bool := name.plainText?.isSome

/-- The text that lines show of a name. -/
def label (name : Name) : String := name.plainText?.getD ""

@[simp] theorem plainText?_text (text : String) : (Name.text text).plainText? = some text := by
  simp [plainText?, field, Field.plainText?, Value.plainText?]

@[simp] theorem label_text (text : String) : (Name.text text).label = text := by
  simp [label]

end Name

/-- The members of an object under their keys as names. -/
def Members.named (members : Members) : List (Name × Value) :=
  members.map fun (key, value) => (.text key, value)

end ClusterAgent
