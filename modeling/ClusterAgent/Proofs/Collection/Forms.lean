import ClusterAgent.Collection.Source
import ClusterAgent.Cluster.Reading
import ClusterAgent.Classification

/-!
Contract: the forms in which the cluster's interface declares what it lists.

A part that may be missing may also be null, except for the limits and requests
of a container. A form asks only for what the agent looks into; whatever is
handed on as it is may be anything.

Owns: forms of values, the form of the items of each list, well-typed sources.
Does not own: what is read from an item.
-/

namespace ClusterAgent

namespace Form

def text : Value → Bool
  | .text _ => true
  | _ => false

/-- A value without parts. -/
def plain : Value → Bool
  | .list _ => false
  | .object _ => false
  | _ => true

def list (item : Value → Bool) : Value → Bool
  | .list items => items.all item
  | _ => false

def object (inner : Members → Bool) : Value → Bool
  | .object members => inner members
  | _ => false

/-- Quantities by name; one that is null is not declared. -/
def quantities : Value → Bool :=
  object fun members => members.all fun member => member.2 = .null || text member.2

def required (form : Value → Bool) (field : Field) : Bool := field.any form

/-- A field that may be missing, but not null. -/
def ifPresent (form : Value → Bool) (field : Field) : Bool := field.all form

/-- A field that may be missing or null. -/
def nullable (form : Value → Bool) (field : Field) : Bool :=
  field.all fun value => value = .null || form value

end Form

open Form

def Metadata.form : Value → Bool :=
  object fun members =>
    nullable text (members.lookup "name") && nullable text (members.lookup "namespace") &&
      nullable plain (members.lookup "creationTimestamp")

def Condition.form : Value → Bool :=
  object fun members =>
    required text (members.lookup "type") && required text (members.lookup "status")

/-- The form of conditions, of which there may be none. -/
def Condition.listForm (declared : Field) : Bool := nullable (list Condition.form) declared

/-- The form of a container, all of whose resources are quantities. -/
def Container.form : Value → Bool :=
  object fun members =>
    nullable (object fun resources =>
      ifPresent quantities (resources.lookup "limits") &&
        ifPresent quantities (resources.lookup "requests")) (members.lookup "resources")

namespace Listing

/-- The form of the members of an item, its metadata apart. -/
def partsForm : Listing → Members → Bool
  | storageClasses => fun members => required text (members.lookup "provisioner")
  | namespaces => fun _ => true
  | roles => fun _ => true
  | clusterRoles => fun _ => true
  | componentStatuses => fun members => Condition.listForm (members.lookup "conditions")
  | nodes => fun members =>
    nullable (object fun status =>
      nullable quantities (status.lookup "capacity") &&
        nullable quantities (status.lookup "allocatable") &&
          Condition.listForm (status.lookup "conditions")) (members.lookup "status")
  | persistentVolumes => fun members =>
    nullable (object fun spec =>
      nullable (object fun capacity => nullable text (capacity.lookup "storage"))
        (spec.lookup "capacity")) (members.lookup "spec")
  | persistentVolumeClaims => fun members =>
    nullable (object fun status => Condition.listForm (status.lookup "conditions"))
      (members.lookup "status")
  | pods => fun members =>
    nullable (object fun spec =>
      nullable text (spec.lookup "nodeName") &&
        nullable (list Container.form) (spec.lookup "containers")) (members.lookup "spec")

def form (listing : Listing) : Value → Bool :=
  object fun members =>
    nullable Metadata.form (members.lookup "metadata") && listing.partsForm members

end Listing

/-- The name that an item declares, unless it is empty. -/
def declaredName? (item : Value) : Option String :=
  Members.nonempty? ((item.members?.getD []).inside "metadata") "name"

/-- A source whose lists, if they arrive, are lists of items of their forms. -/
def Source.IsWellTyped (source : Source) : Prop :=
  ∀ listing reply, (source.list listing).outcome = .ok reply →
    ∃ items, reply = .list items ∧ ∀ item ∈ items, listing.form item

/-- The items of a list as a source gives them, none if the list does not arrive. -/
def Source.itemsOf (source : Source) (listing : Listing) : List Value :=
  match (source.list listing).outcome with
  | .ok (.list items) => items
  | _ => []

end ClusterAgent
