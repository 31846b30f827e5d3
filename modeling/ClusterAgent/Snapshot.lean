import ClusterAgent.Collection.Source
import ClusterAgent.Failure.Written
import ClusterAgent.Platform

/-!
Contract: a cluster that is written down as one value.

A snapshot has the items of each list, the statistics of nodes by name, and the
answers to metric queries by namespace and metric. Where a list cannot be
fetched, its failure is written down instead, under the name of the call; the
failures of other calls stand in the place of their answers.

Owns: the form of snapshots, the platform on which they are read.
Does not own: the form of entities, the form of failures.
-/

namespace ClusterAgent

/-- Runs on snapshots take place in universal time. -/
instance : Platform := .universal

namespace Listing

/-- The part of a snapshot that holds a list. -/
def snapshotKey : Listing → String
  | storageClasses => "storageClasses"
  | namespaces => "namespaces"
  | roles => "roles"
  | clusterRoles => "clusterRoles"
  | componentStatuses => "componentStatuses"
  | nodes => "nodes"
  | persistentVolumes => "persistentVolumes"
  | persistentVolumeClaims => "persistentVolumeClaims"
  | pods => "pods"

def callName : Listing → String
  | storageClasses => "listStorageClasses"
  | namespaces => "listNamespaces"
  | roles => "listRoles"
  | clusterRoles => "listClusterRoles"
  | componentStatuses => "listComponentStatuses"
  | nodes => "listNodes"
  | persistentVolumes => "listPersistentVolumes"
  | persistentVolumeClaims => "listPersistentVolumeClaims"
  | pods => "listPods"

end Listing

namespace Snapshot

/-- The items of a list inside, none if there is nothing in its place. -/
def items (members : Members) (key : String) : Value :=
  match members.lookup key with
  | none => .list []
  | some .null => .list []
  | some items => items

/-- How a cluster answers for a node that it does not know. -/
def unknownNode (node : String) : Failure :=
  .foreign (.plain s!"no statistics for {node}" [])

/-- How a cluster answers where it has no such metric. -/
def unknownMetric : Failure :=
  .foreign (.plain "the server could not find the requested resource"
    [("statusCode", .number (.ofNat 404))])

/-- An answer, or the failure that stands in its place. -/
def answer (held : Value) : Except Failure Value :=
  match held with
  | .object [("$throw", spec)] => .error (.raised spec)
  | held => .ok held

end Snapshot

def Cluster.ofSnapshot (snapshot : Members) : Cluster where
  list := fun listing =>
    match (snapshot.inside "fail").lookup listing.callName with
    | some spec => .error (.raised spec)
    | none => .ok (Snapshot.items snapshot listing.snapshotKey)
  nodeStats := fun node =>
    match (snapshot.inside "nodeStats").lookup node with
    | some held => Snapshot.answer held
    | none => .error (Snapshot.unknownNode node)
  podMetric := fun namespaceName metric =>
    match (snapshot.inside "customMetrics").lookup s!"{namespaceName}/{metric}" with
    | some held => Snapshot.answer held
    | none => .error Snapshot.unknownMetric

end ClusterAgent
