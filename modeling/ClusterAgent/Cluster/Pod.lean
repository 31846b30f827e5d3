import ClusterAgent.Cluster.Resources
import ClusterAgent.Text.Units

/-!
Contract: pods, what they ask for, and on which nodes they are placed.

A container without a limit may use anything, so its limit is infinite; a
missing request is a request for nothing.

Owns: the resources of a pod, pods by node, sums by node and over all pods.
Does not own: what nodes offer.
-/

namespace ClusterAgent

/-- The limits or the requests of a container as it declares them. A clause that is refused is of a
type that no container declares. -/
inductive ResourceClause where
  | absent
  | refused (cause : Undeclared)
  | table (quantities : ResourceTable)

structure Container where
  limits : ResourceClause
  requests : ResourceClause

/-- A pod as the cluster lists it. Whether its containers can be looked through turns out when they
are added up. -/
structure Pod where
  metadata : Metadata
  nodeName : Name
  containers : Except Undeclared (List Container)

instance : Entity Pod := ⟨Pod.metadata⟩

structure Amounts where
  cpu : Number
  memory : Number

namespace Amounts

def zero : Amounts := ⟨.zero, .zero⟩

def unlimited : Amounts := ⟨.infinity false, .infinity false⟩

def add (left right : Amounts) : Amounts :=
  ⟨left.cpu.add right.cpu, left.memory.add right.memory⟩

def record (amounts : Amounts) : Record Number :=
  [("cpu", .leaf amounts.cpu), ("memory", .leaf amounts.memory)]

end Amounts

namespace ResourceClause

/-- The amounts of a clause: `fallback` if it declares none at all, and `default` for a resource
that it does not declare. -/
def amounts (clause : ResourceClause) (default : String) (fallback : Amounts) :
    Except Failure Amounts :=
  match clause with
  | .absent => .ok fallback
  | .refused cause => .error (.undeclared cause)
  | .table quantities =>
    if quantities.entries.isEmpty then .ok fallback
    else do
      let cpu ← quantities.cpu default
      let memory ← quantities.memory default
      return ⟨cpu, memory⟩

end ResourceClause

structure PodAmounts where
  limits : Amounts
  requests : Amounts

namespace PodAmounts

def zero : PodAmounts := ⟨.zero, .zero⟩

def record (amounts : PodAmounts) : Record Number :=
  [("limits", .node amounts.limits.record), ("requests", .node amounts.requests.record)]

end PodAmounts

namespace Container

def addTo (total : PodAmounts) (container : Container) : Except Failure PodAmounts := do
  let limits ← container.limits.amounts "inf" .unlimited
  let requests ← container.requests.amounts "0.0" .zero
  return ⟨total.limits.add limits, total.requests.add requests⟩

end Container

namespace Pod

def amounts (pod : Pod) : Except Failure PodAmounts := do
  let containers ← pod.containers.mapError .undeclared
  containers.foldlM Container.addTo .zero

def resources (pod : Pod) : Except Failure (Record Number) :=
  PodAmounts.record <$> pod.amounts

def node? (pod : Pod) : Option Name := pod.nodeName.given?

end Pod

namespace PodList

/-- The nodes that pods are placed on, each once, in the order of the units of their names. Several
names can be put in order only if they all have a text. -/
def nodes (pods : List Pod) : Except Undeclared (List Name) :=
  let names := (pods.filterMap Pod.node?).eraseDups
  if names.length ≤ 1 ∨ names.all Name.hasText then
    .ok (names.mergeSort fun left right => unitsLe left.label right.label)
  else .error .plainText

def placedOn (node : Name) (pods : List Pod) : List Pod :=
  pods.filter fun pod => pod.node? = some node

def countRecord (count : Nat) : Record Number :=
  [("requests", .node [("pods", .leaf (.ofNat count))])]

/-- What a view shows of the pods of each node. -/
def perNode {α : Type} (view : List Pod → Except Failure α) (pods : List Pod) :
    Except Failure (Table Name α) := do
  let nodes ← (nodes pods).mapError .undeclared
  Table.mk <$> nodes.mapM fun node => (node, ·) <$> view (placedOn node pods)

def podsPerNode : List Pod → Except Failure (Table Name (Record Number)) :=
  perNode fun pods => .ok (countRecord pods.length)

def podsInCluster (pods : List Pod) : Record Number := countRecord pods.length

/-- The sums of what pods ask for, counted from zero. -/
def totalResources (pods : List Pod) : Except Failure (Record Number) := do
  let records ← pods.mapM Pod.resources
  (sumRecords records (some PodAmounts.zero.record) "records").mapError .aggregation

def resourcesPerNode : List Pod → Except Failure (Table Name (Record Number)) :=
  perNode totalResources

end PodList

end ClusterAgent
