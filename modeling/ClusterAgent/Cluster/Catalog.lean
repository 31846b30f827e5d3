import ClusterAgent.Cluster.Metadata
import ClusterAgent.Quantity

/-!
Contract: the entities that are only listed, and how a report shows them.

Owns: namespaces, roles, component statuses, volumes, claims, storage classes.
Does not own: nodes and pods.
-/

namespace ClusterAgent

structure Namespace where
  metadata : Metadata
  phase : Field

instance : Entity Namespace := ⟨Namespace.metadata⟩

def Namespace.view (entity : Namespace) : Value :=
  .object [("status", .object [("phase", entity.phase.shown)])]

structure Role where
  metadata : Metadata

instance : Entity Role := ⟨Role.metadata⟩

/-- A role is shown by what identifies it. -/
def Role.view (name : Name) (role : Role) : Value :=
  .object [
    ("name", name.shown),
    ("namespace", role.metadata.namespaceName.shown),
    ("creation_timestamp",
      match role.metadata.creation? with
      | some creation => .number creation.number
      | none => .null)]

/-- All roles that have a name, repeated names too. -/
def Role.list (roles : List Role) : Value :=
  .list ((Entity.named roles).map fun (name, role) => role.view name)

/-- One condition that an entity reports, both fields of which have to be declared. -/
structure Condition where
  kind : Field
  status : Field

namespace Condition

def isComplete (condition : Condition) : Bool :=
  condition.kind.isSome && condition.status.isSome

/-- A field that is absent is shown like one that is null. -/
def view (condition : Condition) : Value :=
  .object [("type", condition.kind.shown), ("status", condition.status.shown)]

end Condition

structure ComponentStatus where
  metadata : Metadata
  conditions : List Condition

instance : Entity ComponentStatus := ⟨ComponentStatus.metadata⟩

def ComponentStatus.view (status : ComponentStatus) : Value :=
  .list (status.conditions.map Condition.view)

/-- A quantity as an entity declares it. -/
inductive Declaration where
  | absent
  | text (quantity : String)
  | other
deriving DecidableEq, Repr, Inhabited

/-- Reads a declared quantity, or the default where none is declared. -/
def Declaration.read
    (declaration : Declaration)
    (reader : String → Except AggregationError Number)
    (default : String)
    (misfit : Undeclared) :
    Except Failure Number :=
  match declaration with
  | .absent => (reader default).mapError .aggregation
  | .text quantity => (reader quantity).mapError .aggregation
  | .other => .error (.undeclared misfit)

structure PersistentVolume where
  metadata : Metadata
  accessModes : Field
  storage : Declaration
  phase : Field

instance : Entity PersistentVolume := ⟨PersistentVolume.metadata⟩

namespace PersistentVolume

/-- The capacity in bytes; an empty quantity is none. -/
def capacity? (volume : PersistentVolume) : Except Failure (Option Number) :=
  match volume.storage with
  | .absent => .ok none
  | .text "" => .ok none
  | storage => some <$> storage.read Quantity.memory "" .amount

def view (volume : PersistentVolume) : Except Failure Value := do
  let capacity ← volume.capacity?
  return .object [
    ("access", volume.accessModes.shown),
    ("capacity", (capacity.map Value.number).getD .null),
    ("status", .object [("phase", volume.phase.shown)])]

end PersistentVolume

structure PersistentVolumeClaim where
  metadata : Metadata
  conditions : Option (List Condition)
  phase : Field
  volumeName : Field

instance : Entity PersistentVolumeClaim := ⟨PersistentVolumeClaim.metadata⟩

def PersistentVolumeClaim.view (claim : PersistentVolumeClaim) : Value :=
  .object [
    ("namespace", claim.metadata.namespaceName.shown),
    ("condition",
      match claim.conditions with
      | some conditions => .list (conditions.map Condition.view)
      | none => .null),
    ("phase", claim.phase.shown),
    ("volume", claim.volumeName.shown)]

structure StorageClass where
  metadata : Metadata
  provisioner : Field
  reclaimPolicy : Field

instance : Entity StorageClass := ⟨StorageClass.metadata⟩

def StorageClass.view (storageClass : StorageClass) : Value :=
  .object [
    ("provisioner", storageClass.provisioner.shown),
    ("reclaim_policy", storageClass.reclaimPolicy.shown)]

/-- Entities that can be shown as they are: every field that has to be declared is. -/
class HasRequired (ε : Type) where
  isComplete : ε → Bool

instance : HasRequired ComponentStatus :=
  ⟨fun status => status.conditions.all Condition.isComplete⟩

instance : HasRequired PersistentVolumeClaim :=
  ⟨fun claim => (claim.conditions.getD []).all Condition.isComplete⟩

instance : HasRequired StorageClass :=
  ⟨fun storageClass => storageClass.provisioner.isSome⟩

/-- Whether the entities that a table by name shows are complete. -/
def allComplete {ε : Type} [Entity ε] [HasRequired ε] (entities : List ε) : Bool :=
  (Entity.byName HasRequired.isComplete entities).values.all id

end ClusterAgent
