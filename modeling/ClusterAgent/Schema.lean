import ClusterAgent.Json.Writer

/-!
Contract: complaints about replies that do not have the expected form.

Owns: where a value stands in a reply, what was expected there, the wording.
Does not own: the form of any reply.
-/

namespace ClusterAgent.Schema

/-- One step from a value to a part of it. -/
inductive Step where
  | key (name : String)
  | index (position : Nat)
deriving DecidableEq, Repr

def Step.value : Step → Value
  | .key name => .text name
  | .index position => .number (.ofNat position)

def Step.text : Step → String
  | .key name => name
  | .index position => toString position

/-- A value of another kind than expected; a value that is not there has no kind. -/
structure Issue where
  path : List Step
  expected : String
  received : Option String
deriving DecidableEq, Repr

namespace Issue

def message (issue : Issue) : String :=
  match issue.received with
  | none => "Required"
  | some received => s!"Expected {issue.expected}, received {received}"

def pathText (issue : Issue) : String := ".".intercalate (issue.path.map Step.text)

def toValue (issue : Issue) : Value :=
  .object [
    ("code", .text "invalid_type"),
    ("expected", .text issue.expected),
    ("received", .text (issue.received.getD "undefined")),
    ("path", .list (issue.path.map Step.value)),
    ("message", .text issue.message)]

end Issue

def message (issues : List Issue) : String :=
  Json.indentedText (.list (issues.map Issue.toValue))

/-- The issue of a value that is not of the expected kind. -/
def mismatch {τ : Type} (path : List Step) (expected : String) (found : Option (Value τ)) :
    Issue :=
  ⟨path, expected, found.map Value.kindName⟩

/-- What a check found: a value, or every issue in order. -/
abbrev Checked (α : Type) := Except (List Issue) α

variable {α β : Type}

/-- Both of two checks, with the issues of both. -/
def both (left : Checked α) (right : Checked β) : Checked (α × β) :=
  match left, right with
  | .ok a, .ok b => .ok (a, b)
  | .ok _, .error issues => .error issues
  | .error issues, .ok _ => .error issues
  | .error issues, .error more => .error (issues ++ more)

/-- All checks of a list, with the issues of all. -/
def all : List (Checked α) → Checked (List α)
  | [] => .ok []
  | check :: rest => (both check (all rest)).map fun (a, as) => a :: as

def text (path : List Step) : Option Value → Checked String
  | some (.text found) => .ok found
  | found => .error [mismatch path "string" found]

def textIfPresent (path : List Step) : Option Value → Checked (Option String)
  | none => .ok none
  | found => (text path found).map some

def textOrNull (path : List Step) : Option Value → Checked (Option String)
  | some .null => .ok none
  | found => textIfPresent path found

/-- An object that has to be there, checked further by its members. -/
def object (path : List Step) (found : Option Value) (inner : Members → Checked α) : Checked α :=
  match found with
  | some (.object members) => inner members
  | found => .error [mismatch path "object" found]

/-- A list that may be missing, each item checked at its position. -/
def listIfPresent
    (path : List Step)
    (found : Option Value)
    (inner : List Step → Value → Checked α) :
    Checked (List α) :=
  match found with
  | none => .ok []
  | some (.list items) =>
    all (items.zipIdx.map fun (item, position) => inner (path ++ [.index position]) item)
  | found => .error [mismatch path "array" found]

end ClusterAgent.Schema
