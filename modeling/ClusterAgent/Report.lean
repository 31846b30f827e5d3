import ClusterAgent.Collection.Inventory
import ClusterAgent.Report.Group

/-!
Contract: the report of a collection cycle.

The first block is about the cluster as a whole, the second wraps sections for
each node, the third holds the custom metrics of pods. A block is complete
before anything of it can be written.

Owns: which data goes into which section, the blocks of a report.
Does not own: where a report is written.
-/

namespace ClusterAgent

namespace Element

def put (element : Element) (name : String) (data : List (Name × Value)) :
    Except Failure Element :=
  (element.insert name data).toExcept.mapError .aggregation

end Element

namespace Group

def put (group : Group) (name : String) (data : Table Name Members) : Except Failure Group :=
  (group.join name (data.map Members.named).entries).toExcept.mapError .aggregation

end Group

namespace Inventory

def clusterElement (inventory : Inventory) : Except Failure Element := do
  let element ← Element.empty.put "k8s_nodes" (NodeList.nameMembers inventory.nodes).named
  let element ← element.put "k8s_namespaces"
    (Entity.byName Namespace.view inventory.namespaces).entries
  let volumes ← Entity.tryByName PersistentVolume.view inventory.persistentVolumes
  let element ← element.put "k8s_persistent_volumes" volumes.entries
  let element ← element.put "k8s_component_statuses"
    (Entity.byName ComponentStatus.view inventory.componentStatuses).entries
  let element ← element.put "k8s_persistent_volume_claims"
    (Entity.byName PersistentVolumeClaim.view inventory.persistentVolumeClaims).entries
  let element ← element.put "k8s_storage_classes"
    (Entity.byName StorageClass.view inventory.storageClasses).entries
  let element ← element.put "k8s_roles" [(.text "roles", Role.list inventory.roles)]
  let element ← element.put "k8s_roles" [(.text "cluster_roles", Role.list inventory.clusterRoles)]
  let nodeResources ← NodeList.clusterResources inventory.nodes
  let element ← element.put "k8s_resources" nodeResources.toMembers.named
  let podResources ← PodList.totalResources inventory.pods
  let element ← element.put "k8s_resources" podResources.toMembers.named
  let element ← element.put "k8s_resources" (PodList.podsInCluster inventory.pods).toMembers.named
  let stats ← NodeList.clusterStats inventory.nodes
  element.put "k8s_stats" stats.toMembers.named

def nodeGroup (inventory : Inventory) : Except Failure Group := do
  let resources ← NodeList.resources inventory.nodes
  let group ← Group.empty.put "k8s_resources" (resources.map Record.toMembers)
  let podResources ← PodList.resourcesPerNode inventory.pods
  let group ← group.put "k8s_resources" (podResources.map Record.toMembers)
  let podCounts ← PodList.podsPerNode inventory.pods
  let group ← group.put "k8s_resources" (podCounts.map Record.toMembers)
  let group ← group.put "k8s_stats" (NodeList.samples inventory.nodes)
  let conditions ← NodeList.conditions inventory.nodes
  group.put "k8s_conditions" (conditions.map NodeList.conditionMembers)

/-- The custom metrics of pods by namespace, a section for each group of metrics. -/
def customMetricsElement (inventory : Inventory) : Except Failure Element :=
  inventory.podMetrics.foldlM (fun element (group, metrics) =>
    element.put s!"k8s_pods_{group}" (metrics.map MetricSeries.view).entries) .empty

/-- Whether everything that the cluster sections show is declared. -/
def clusterComplete (inventory : Inventory) : Bool :=
  allComplete inventory.componentStatuses && allComplete inventory.persistentVolumeClaims &&
    allComplete inventory.storageClasses

/-- Stops what cannot be written. -/
def requireComplete (isComplete : Bool) : Except Failure Unit :=
  if isComplete then .ok () else .error (.undeclared .members)

def clusterLines (inventory : Inventory) : Except Failure (List String) := do
  let element ← inventory.clusterElement
  requireComplete inventory.clusterComplete
  return element.lines

/-- Stops a host that cannot be written: its name needs a text, and its conditions have to be
complete. -/
def requireHost (conditions : Table Name (List (String × Field))) (host : Name) :
    Except Failure Unit := do
  let _ ← host.told
  requireComplete ((conditions.get? host).all NodeList.statusesDeclared)

def nodeLines (inventory : Inventory) : Except Failure (List String) := do
  let group ← inventory.nodeGroup
  let conditions ← NodeList.conditions inventory.nodes
  group.hosts.forM (requireHost conditions)
  return group.lines

def customMetricsLines (inventory : Inventory) : Except Failure (List String) :=
  Element.lines <$> inventory.customMetricsElement

def block (lines : List String) : String := "\n".intercalate lines

/-- Renders all blocks, one after the other. -/
def report (inventory : Inventory) (logging : Logging) : Journal (List String) := do
  logging.log .info "Output cluster sections"
  let cluster ← Journal.ofExcept inventory.clusterLines
  logging.log .info "Output node sections"
  let nodes ← Journal.ofExcept inventory.nodeLines
  logging.log .info "Output pods custom metrics"
  let metrics ← Journal.ofExcept inventory.customMetricsLines
  return [block cluster, block nodes, block metrics]

end Inventory

end ClusterAgent
