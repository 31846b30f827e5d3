import ClusterAgent.Value

/-!
Contract: nested records with leaves of one type.

Owns: the type, its views as values, the numbers of a value.
Does not own: combining records.
-/

namespace ClusterAgent

inductive Tree (α : Type) where
  | leaf (value : α)
  | node (members : List (String × Tree α))

abbrev Record (α : Type) := List (String × Tree α)

namespace Tree

variable {α : Type}

mutual

/-- The payload of a tree, given that of a leaf. -/
def toValue (leafValue : α → Value) : Tree α → Value
  | .leaf value => leafValue value
  | .node members => .object (membersToValue leafValue members)

def membersToValue (leafValue : α → Value) : Record α → Members
  | [] => []
  | (key, tree) :: rest => (key, tree.toValue leafValue) :: membersToValue leafValue rest

end

mutual

/-- Objects are nodes; any other value, a list too, is a leaf. -/
def ofValue : Value → Tree Value
  | .object members => .node (membersOfValue members)
  | .null => .leaf .null
  | .bool flag => .leaf (.bool flag)
  | .number number => .leaf (.number number)
  | .text text => .leaf (.text text)
  | .list items => .leaf (.list items)

def membersOfValue : Members → Record Value
  | [] => []
  | (key, value) :: rest => (key, ofValue value) :: membersOfValue rest

end

mutual

/-- The numbers of a value: a number is a leaf, an object keeps its numbers, and nothing else
has any. -/
def numeric? : Value → Option (Tree Number)
  | .number number => some (.leaf number)
  | .object members => some (.node (numericMembers members))
  | .null => none
  | .bool _ => none
  | .text _ => none
  | .list _ => none

/-- The numeric members, without the one name that cannot be given to an object. -/
def numericMembers : Members → Record Number
  | [] => []
  | (key, value) :: rest =>
    match numeric? value with
    | some tree =>
      if key = "__proto__" then numericMembers rest else (key, tree) :: numericMembers rest
    | none => numericMembers rest

end

end Tree

namespace Record

/-- The members of a record of numbers as a payload shows them. -/
def toMembers (record : Record Number) : Members := Tree.membersToValue Value.number record

end Record

end ClusterAgent
