import ClusterAgent.Cluster.Reading
import ClusterAgent.Collection.PodMetrics

/-!
Contract: one collection cycle.

All lists are fetched at the same time, then the statistics of every node that
has a name, and then entities are read from all that has arrived. The metrics of
one group after the other are fetched last.

Owns: the data of a cycle and the order in which it is fetched and read.
Does not own: the report made from it.
-/

namespace ClusterAgent

/-- The entities of one collection cycle, those nodes only that have a name. -/
structure Entities where
  storageClasses : List StorageClass
  namespaces : List Namespace
  roles : List Role
  clusterRoles : List Role
  componentStatuses : List ComponentStatus
  nodes : List SampledNode
  persistentVolumes : List PersistentVolume
  persistentVolumeClaims : List PersistentVolumeClaim
  pods : List Pod

structure Inventory extends Entities where
  podMetrics : List (String × Table Name MetricSeries)

namespace Listing

/-- What is asked of the items of a list. -/
def operation : Listing → String
  | storageClasses => "storageClasses.map"
  | namespaces => "namespaces.map"
  | roles => "roles.map"
  | clusterRoles => "clusterRoles.map"
  | componentStatuses => "componentStatuses.map"
  | nodes => "nodes.filter"
  | persistentVolumes => "persistentVolumes.map"
  | persistentVolumeClaims => "persistentVolumeClaims.map"
  | pods => "pods.map"

end Listing

namespace Inventory

/-- The items of every list, as they are given. -/
abbrev Lists := List (Listing × Value)

/-- The items of one list, which have to be a list. -/
def Lists.items (lists : Lists) (listing : Listing) : Except Failure (List Value) :=
  match lists.lookup listing with
  | some (.list items) => .ok items
  | _ => .error (.undeclared (.listing listing.operation))

def fetchLists (source : Source) : Call Lists :=
  .all (Listing.all.map fun listing => (source.list listing).map (listing, ·))

def nodeName? (position : Nat) : Value → Except Undeclared (Option Name)
  | .null => .error (.partOfNull "metadata")
  | item =>
    let declared := ((item.members?.getD []).inside "metadata").lookup "name"
    .ok (Name.ofField (.item position) declared).given?

/-- The nodes that have a name, with their names. -/
def namedNodes (items : List Value) : Except Undeclared (List (Name × Value)) := do
  let named ← items.zipIdx.mapM fun (item, position) => do
    return (← nodeName? position item, item)
  return named.filterMap fun (name?, item) => name?.map (·, item)

/-- Fetches the statistics of nodes, each under its own name. -/
def fetchStats (source : Source) (nodes : List (Name × Value)) : Call (List (Value × Value)) :=
  .all (nodes.map fun (name, item) => (source.nodeStats name).map (item, ·))

def readList {ε : Type} [Readable ε] (lists : Lists) (listing : Listing) :
    Except Failure (List ε) := do
  let items ← lists.items listing
  (readItems items).mapError .undeclared

/-- Reads all entities, one list after the other, and puts nodes and their statistics together. -/
def readEntities [Platform] (lists : Lists) (replies : List (Value × Value)) :
    Except Failure Entities := do
  return {
    storageClasses := ← readList lists .storageClasses
    namespaces := ← readList lists .namespaces
    roles := ← readList lists .roles
    clusterRoles := ← readList lists .clusterRoles
    componentStatuses := ← readList lists .componentStatuses
    nodes := ← replies.zipIdx.mapM fun ((item, reply), position) =>
      SampledNode.read position item (some reply)
    persistentVolumes := ← readList lists .persistentVolumes
    persistentVolumeClaims := ← readList lists .persistentVolumeClaims
    pods := ← readList lists .pods }

/-- Collects the metrics of groups, one group after the other. -/
def collectGroups (logging : Logging) (source : Source) (namespaces : List Name) :
    List (String × List String) → Journal (List (String × Table Name MetricSeries))
  | [] => pure []
  | (group, metrics) :: rest => do
    let merged ← PodMetrics.collectGroup logging source namespaces (metrics.map .text)
    let others ← collectGroups logging source namespaces rest
    return (group, merged) :: others

def collect [Platform] (logging : Logging) (source : Source) : Journal Inventory := do
  logging.log .info "Collecting API data"
  logging.log .debug "Retrieving data"
  let lists ← (fetchLists source).run
  let items ← Journal.ofExcept (lists.items .nodes)
  let nodes ← Journal.ofExcept ((namedNodes items).mapError .undeclared)
  let replies ← (fetchStats source nodes).run
  logging.log .debug "Assigning collected data"
  let entities ← Journal.ofExcept (readEntities lists replies)
  let podMetrics ←
    collectGroups logging source (Entity.names entities.namespaces) PodMetrics.groups
  return { toEntities := entities, podMetrics }

end Inventory

end ClusterAgent
