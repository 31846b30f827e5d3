import ClusterAgent.AggregationError
import ClusterAgent.Payload
import ClusterAgent.Table

/-!
Contract: the sections of a report.

A section is a table of values. Objects given under one key are overlaid one
level deep; any other second value for a key is refused, and an insertion that
meets such a key keeps what it had inserted before.

Owns: sections and insertions that may stop half-way.
Does not own: which data goes into which section.
-/

namespace ClusterAgent

/-- What an attempt left behind, and what stopped it, if anything did. -/
structure Attempt (σ : Type) where
  state : σ
  fault : Option AggregationError

/-- The state of an attempt that went through. -/
def Attempt.toExcept {σ : Type} (attempt : Attempt σ) : Except AggregationError σ :=
  match attempt.fault with
  | none => .ok attempt.state
  | some fault => .error fault

/-- One agent section: keyed values in the order in which their keys first came. -/
structure Section where
  content : Table Name Value

namespace Section

def empty : Section := ⟨.empty⟩

instance : Inhabited Section := ⟨empty⟩

/-- Gives one key a value, or refuses. -/
def insertOne (target : Section) (key : Name) (value : Value) :
    Except AggregationError Section :=
  match target.content.get? key, value with
  | none, value => .ok ⟨target.content.set key value⟩
  | some (.object held), .object given =>
    .ok ⟨target.content.set key (.object (Members.overlay held given))⟩
  | some _, _ => .error (.duplicateKey key.label)

/-- Inserts data key by key, up to the first refusal. -/
def insert (target : Section) : List (Name × Value) → Attempt Section
  | [] => ⟨target, none⟩
  | (key, value) :: rest =>
    match target.insertOne key value with
    | .ok next => insert next rest
    | .error fault => ⟨target, some fault⟩

def payload (target : Section) : String := Payload.encodeMembers target.content.entries

end Section

end ClusterAgent
