import ClusterAgent.Failure
import ClusterAgent.Name
import ClusterAgent.Platform

/-!
Contract: what every entity of a cluster tells about itself.

Owns: names, creation times, tables of entities by name.
Does not own: any particular kind of entity.
-/

namespace ClusterAgent

/-- The time of creation, as far as it can be read. -/
inductive Creation where
  | unreadable
  | seconds (sinceEpoch : Int)
deriving DecidableEq, Repr

namespace Creation

def number : Creation → Number
  | unreadable => .nan
  | seconds sinceEpoch => .ofInt sinceEpoch

/-- The creation at a time in milliseconds, if it is a time. -/
def ofMillis : Option Int → Creation
  | some millis => .seconds (Calendar.wholeSeconds millis)
  | none => .unreadable

def ofText [Platform] (timestamp : String) : Creation :=
  ofMillis (Platform.millis? timestamp.toList)

/-- A number counts milliseconds, parts of one cut off. -/
def ofNumber (millis : Number) : Creation :=
  ofMillis (millis.toRat?.bind fun exact => Calendar.inRange? (exact.num.tdiv exact.den))

/-- Reads the time of creation. A timestamp that counts as nothing is none; a list or an object is
read as the text that it has. -/
def read? [Platform] (timestamp : Field) : Except Undeclared (Option Creation) :=
  match timestamp.filter Value.isGiven with
  | none => .ok none
  | some (.number millis) => .ok (some (ofNumber millis))
  | some (.bool _) => .ok (some (ofNumber (.ofNat 1)))
  | some value => do return some (ofText (← requireText value.plainText?))

end Creation

structure Metadata where
  name : Name
  namespaceName : Field
  creation? : Option Creation
deriving Inhabited

/-- Reads the metadata of the item in a position of a list; what is no object has no members. -/
def Metadata.read [Platform] (position : Nat) (declared : Field) : Except Undeclared Metadata := do
  let members := (declared.bind Value.members?).getD []
  let creation ← Creation.read? (members.lookup "creationTimestamp")
  return ⟨.ofField (.item position) (members.lookup "name"), members.lookup "namespace", creation⟩

class Entity (ε : Type) where
  metadata : ε → Metadata

instance : Entity Metadata := ⟨id⟩

namespace Entity

variable {ε β : Type} [Entity ε]

def name? (entity : ε) : Option Name := (metadata entity).name.given?

def named (entities : List ε) : List (Name × ε) :=
  entities.filterMap fun entity => (name? entity).map (·, entity)

def names (entities : List ε) : List Name := entities.filterMap name?

/-- Views of entities by name, in list order. Of several entities of one name the last is seen,
at the place of the first; entities without a name are left out. -/
def byName (view : ε → β) (entities : List ε) : Table Name β :=
  .ofList ((named entities).map fun (name, entity) => (name, view entity))

/-- Views by name when a view can fail; every named entity is viewed. -/
def tryByName (view : ε → Except Failure β) (entities : List ε) : Except Failure (Table Name β) :=
  Table.ofList <$> (named entities).mapM fun (name, entity) => (name, ·) <$> view entity

end Entity

end ClusterAgent
