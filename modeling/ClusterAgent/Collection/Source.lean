import ClusterAgent.Collection.Journal
import ClusterAgent.Name

/-!
Contract: read access to everything that one collection cycle needs.

A cluster is known by its answers: the items of each list as they are given, the
statistics of a node, the body of a metric query. A source turns answers into
calls, and the plainest source adds nothing to them but the record of metric
queries.

Owns: the lists there are, the answers of a cluster, the calls of a source, the
plain source.
Does not own: what an answer holds, the client of the cluster's interface.
-/

namespace ClusterAgent

/-- The kinds of things that are listed as a whole. -/
inductive Listing where
  | storageClasses
  | namespaces
  | roles
  | clusterRoles
  | componentStatuses
  | nodes
  | persistentVolumes
  | persistentVolumeClaims
  | pods
deriving DecidableEq, Repr

def Listing.all : List Listing :=
  [storageClasses, namespaces, roles, clusterRoles, componentStatuses, nodes, persistentVolumes,
    persistentVolumeClaims, pods]

/-- How a cluster answers each call. Nodes, namespaces and metrics are told by text. -/
structure Cluster where
  list : Listing → Except Failure Value
  nodeStats : String → Except Failure Value
  podMetric : String → String → Except Failure Value

/-- The text by which a name is told. -/
def Name.told (name : Name) : Except Failure String :=
  (requireText name.plainText?).mapError .undeclared

namespace Cluster

def statsOf (cluster : Cluster) (node : Name) : Except Failure Value := do
  cluster.nodeStats (← node.told)

/-- A metric of the pods of a namespace under their names. -/
def metricOf (cluster : Cluster) (namespaceName metric : Name) : Except Failure Value := do
  cluster.podMetric (← namespaceName.told) (← metric.told)

end Cluster

structure Source where
  list : Listing → Call Value
  nodeStats : Name → Call Value
  podMetric : Name → Name → Call Value

/-- The record of a metric query, which is told by text. -/
def queryEvents (namespaceName metric : Name) : List Event :=
  match namespaceName.plainText?, metric.plainText? with
  | some namespaceName, some metric => [.queried namespaceName metric]
  | _, _ => []

/-- The source that hands on the answers of a cluster. -/
def Source.ofCluster (cluster : Cluster) : Source where
  list := fun listing => .silent (cluster.list listing)
  nodeStats := fun node => .silent (cluster.statsOf node)
  podMetric := fun namespaceName metric =>
    .after (queryEvents namespaceName metric) (cluster.metricOf namespaceName metric)

end ClusterAgent
