import ClusterAgent.Cluster.NodeStats
import ClusterAgent.Cluster.Resources

/-!
Contract: nodes, what they offer, and how they are summed up for the cluster.

Owns: the views of one node, the views of a list of nodes.
Does not own: pods placed on a node.
-/

namespace ClusterAgent

/-- A node as the cluster lists it. Whether its conditions can be read turns out when they are
shown. -/
structure Node where
  metadata : Metadata
  capacity : Option ResourceTable
  allocatable : Option ResourceTable
  conditions : Except Undeclared (List Condition)

instance : Entity Node := ⟨Node.metadata⟩

structure NodeAmounts where
  cpu : Number
  memory : Number
  pods : Number

namespace NodeAmounts

def zero : NodeAmounts := ⟨.zero, .zero, .zero⟩

def record (amounts : NodeAmounts) : Record Number :=
  [("cpu", .leaf amounts.cpu), ("memory", .leaf amounts.memory), ("pods", .leaf amounts.pods)]

/-- The amounts of a table, counted from nothing. -/
def read (table : Option ResourceTable) : Except Failure NodeAmounts :=
  match table with
  | none => .ok zero
  | some table => do
    let cpu ← table.cpu "0.0"
    let memory ← table.memory "0.0"
    let pods ← table.pods
    return ⟨zero.cpu.add cpu, zero.memory.add memory, zero.pods.add pods⟩

end NodeAmounts

namespace Node

def resources (node : Node) : Except Failure (Record Number) := do
  let capacity ← NodeAmounts.read node.capacity
  let allocatable ← NodeAmounts.read node.allocatable
  return [("capacity", .node capacity.record), ("allocatable", .node allocatable.record)]

/-- The status of each kind of condition, the last one reported; none if there are no conditions.
Kinds are keys, so each is taken as a text. -/
def conditionMap? (node : Node) : Except Undeclared (Option (List (String × Field))) := do
  let conditions ← node.conditions
  let entries ← conditions.mapM fun condition => do
    return (← requireText (condition.kind.plainText? "undefined"), condition.status)
  return if entries.isEmpty then none else some (Members.ofList entries)

end Node

/-- A node with the latest sample of its statistics. -/
structure SampledNode where
  node : Node
  sample : Members

instance : Entity SampledNode := ⟨fun sampled => sampled.node.metadata⟩

namespace SampledNode

/-- A node with the reply that was given for it. -/
def ofReply [Platform] (node : Node) (reply : Field) : Except Failure SampledNode := do
  return ⟨node, ← NodeStats.latestOf node.metadata.name.field reply⟩

end SampledNode

namespace NodeList

def nameMembers (nodes : List SampledNode) : Members :=
  [("nodes", .list ((Entity.names nodes).map Name.shown))]

def namedConditions? (sampled : SampledNode) :
    Except Undeclared (Option (Name × List (String × Field))) := do
  let conditions? ← sampled.node.conditionMap?
  return do return (← Entity.name? sampled, ← conditions?)

/-- The conditions of the nodes that have a name and report any. The conditions of every node have
to be readable, its name aside. -/
def conditions (nodes : List SampledNode) :
    Except Failure (Table Name (List (String × Field))) := do
  let entries ← (nodes.mapM namedConditions?).mapError .undeclared
  return .ofList (entries.filterMap id)

/-- Conditions as members of a section; a status that is absent is shown like one that is null. -/
def conditionMembers (conditions : List (String × Field)) : Members :=
  conditions.map fun (kind, status) => (kind, status.shown)

/-- Whether every status among the conditions of a node is declared. -/
def statusesDeclared (conditions : List (String × Field)) : Bool :=
  conditions.all fun (_, status) => status.isSome

def conditionsComplete (table : Table Name (List (String × Field))) : Bool :=
  table.values.all statusesDeclared

def resources (nodes : List SampledNode) : Except Failure (Table Name (Record Number)) :=
  Entity.tryByName (fun sampled => sampled.node.resources) nodes

def samples (nodes : List SampledNode) : Table Name Members :=
  Entity.byName SampledNode.sample nodes

def clusterResources (nodes : List SampledNode) : Except Failure (Record Number) := do
  let table ← resources nodes
  (sumRecords table.values none "node resources").mapError .aggregation

/-- The mean of summed up times, to one decimal. -/
def meanTime (total : Number) (count : Nat) : Number :=
  ((total.div (.ofNat count)).mul (.ofNat 10)).round.div (.ofNat 10)

/-- Replaces the sum of the times by their mean. -/
def averageTime (count : Nat) (record : Record Number) : Record Number :=
  record.map fun (key, tree) =>
    match tree with
    | .leaf total => if key = "timestamp" then (key, .leaf (meanTime total count)) else (key, tree)
    | .node _ => (key, tree)

/-- The sums of all numeric statistics, and the mean time of the samples. -/
def clusterStats (nodes : List SampledNode) : Except Failure (Record Number) := do
  let records := (samples nodes).values.map Tree.numericMembers
  let sums ← (sumRecords records none "node statistics").mapError .aggregation
  return averageTime records.length sums

end NodeList

end ClusterAgent
