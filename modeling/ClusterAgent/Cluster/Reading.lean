import ClusterAgent.Cluster.Node
import ClusterAgent.Cluster.Pod

/-!
Contract: the form in which the cluster's interface lists entities.

A part that is missing or of another kind than expected counts as absent, and a
field that is only handed on is handed on as it is. An entity cannot be read if
it is null, if its conditions are no list of conditions, or if its creation time
has no text.

Owns: reading entities.
Does not own: what is made of an entity.
-/

namespace ClusterAgent

/-- Kinds of entities that the cluster's interface lists, read from their members and from their
position in the list. -/
class Readable (ε : Type) where
  read : Nat → Members → Except Undeclared ε

/-- Reads the item in a position of a list. Null has no parts at all; anything else that is no
object has no members. -/
def readItem {ε : Type} [Readable ε] (position : Nat) : Value → Except Undeclared ε
  | .null => .error (.partOfNull "metadata")
  | item => Readable.read position (item.members?.getD [])

def readItems {ε : Type} [Readable ε] (items : List Value) : Except Undeclared (List ε) :=
  items.zipIdx.mapM fun (item, position) => readItem position item

instance [Platform] : Readable Namespace where
  read position entity := do
    return {
      metadata := ← Metadata.read position (entity.lookup "metadata")
      phase := (entity.inside "status").lookup "phase" }

instance [Platform] : Readable Role where
  read position entity := Role.mk <$> Metadata.read position (entity.lookup "metadata")

namespace Condition

def read : Value → Except Undeclared Condition
  | .null => .error (.partOfNull "type")
  | condition =>
    let members := condition.members?.getD []
    .ok ⟨members.lookup "type", members.lookup "status"⟩

/-- Reads conditions that are a list; `misfit` is what they are otherwise. -/
def readList (misfit : Undeclared) : Value → Except Undeclared (List Condition)
  | .list items => items.mapM read
  | _ => .error misfit

def readDeclared? (misfit : Undeclared) : Field → Except Undeclared (Option (List Condition))
  | none => .ok none
  | some .null => .ok none
  | some declared => some <$> readList misfit declared

end Condition

instance [Platform] : Readable ComponentStatus where
  read position entity := do
    let metadata ← Metadata.read position (entity.lookup "metadata")
    let conditions? ← Condition.readDeclared? .componentConditions (entity.lookup "conditions")
    return ⟨metadata, conditions?.getD []⟩

namespace Declaration

/-- Reads a declared quantity; null declares none. -/
def ofField : Field → Declaration
  | none => .absent
  | some .null => .absent
  | some (.text quantity) => .text quantity
  | some _ => .other

/-- Reads a capacity. Whatever counts as nothing declares none. -/
def ofCapacity (field : Field) : Declaration := ofField (field.filter Value.isGiven)

end Declaration

instance [Platform] : Readable PersistentVolume where
  read position entity := do
    let spec := entity.inside "spec"
    return {
      metadata := ← Metadata.read position (entity.lookup "metadata")
      accessModes := spec.lookup "accessModes"
      storage := .ofCapacity ((spec.inside "capacity").lookup "storage")
      phase := (entity.inside "status").lookup "phase" }

instance [Platform] : Readable PersistentVolumeClaim where
  read position entity := do
    let status := entity.inside "status"
    return {
      metadata := ← Metadata.read position (entity.lookup "metadata")
      conditions := ← Condition.readDeclared? .claimConditions (status.lookup "conditions")
      phase := status.lookup "phase"
      volumeName := (entity.inside "spec").lookup "volumeName" }

instance [Platform] : Readable StorageClass where
  read position entity := do
    return {
      metadata := ← Metadata.read position (entity.lookup "metadata")
      provisioner := entity.lookup "provisioner"
      reclaimPolicy := entity.lookup "reclaimPolicy" }

namespace ResourceTable

def ofMembers (quantities : Members) : ResourceTable :=
  ⟨quantities.map fun (name, declared) => (name, .ofField (some declared))⟩

/-- Reads a table of quantities inside, if there is one. -/
def inside? (members : Members) (key : String) : Option ResourceTable :=
  ((members.lookup key).bind Value.members?).map ofMembers

end ResourceTable

/-- Whether a value says that it has no items. -/
def Value.claimsNoItems (value : Value) : Bool :=
  (value.members?.getD []).lookup "length" ∈ [some (.number .zero), some (.number .negativeZero)]

/-- Reads the conditions of a node. Whatever counts as nothing is none, and so is an object that
says that it has no items. -/
def Node.readConditions (declared : Field) : Except Undeclared (List Condition) :=
  match declared.filter fun value => value.isGiven && !value.claimsNoItems with
  | none => .ok []
  | some value => Condition.readList .nodeConditions value

instance [Platform] : Readable Node where
  read position entity := do
    let status := entity.inside "status"
    return {
      metadata := ← Metadata.read position (entity.lookup "metadata")
      capacity := ResourceTable.inside? status "capacity"
      allocatable := ResourceTable.inside? status "allocatable"
      conditions := Node.readConditions (status.lookup "conditions") }

/-- Reads the limits or the requests of a container; no clause can be null. -/
def ResourceClause.ofField : Field → ResourceClause
  | none => .absent
  | some .null => .refused .members
  | some declared => .table (.ofMembers (declared.members?.getD []))

namespace Container

def bare : Container := ⟨.absent, .absent⟩

def ofValue : Value → Container
  | .null => ⟨.refused (.partOfNull "resources"), .absent⟩
  | container =>
    let resources := (container.members?.getD []).inside "resources"
    ⟨.ofField (resources.lookup "limits"), .ofField (resources.lookup "requests")⟩

/-- Reads the containers of a pod. A text is looked through like a list, and none of its characters
declares anything. -/
def readList : Field → Except Undeclared (List Container)
  | none => .ok []
  | some .null => .ok []
  | some (.list items) => .ok (items.map ofValue)
  | some (.text text) => .ok (text.toList.map fun _ => bare)
  | some _ => .error .containers

end Container

instance [Platform] : Readable Pod where
  read position entity := do
    let spec := entity.inside "spec"
    return {
      metadata := ← Metadata.read position (entity.lookup "metadata")
      nodeName := .ofField (.host position) (spec.lookup "nodeName")
      containers := Container.readList (spec.lookup "containers") }

/-- Reads the node in a position of a list with the reply that was given for it. -/
def SampledNode.read [Platform] (position : Nat) (item : Value) (reply : Field) :
    Except Failure SampledNode := do
  let node ← (readItem position item).mapError .undeclared
  ofReply node reply

end ClusterAgent
