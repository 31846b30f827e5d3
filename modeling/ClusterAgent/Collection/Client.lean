import ClusterAgent.Classification
import ClusterAgent.Collection.Source

/-!
Contract: the client of the cluster's interface.

The client knows one server and one token. It names the request behind each
call, logs what it asks for, and classifies and logs every failure.

Owns: requests, the credentials that are loaded, the source that goes through
the client.
Does not own: how a request travels.
-/

namespace ClusterAgent

inductive ClientCall where
  | list (listing : Listing)
  | nodeStats (node : Name)
  | podMetric (namespaceName metric : Name)
deriving DecidableEq

namespace Listing

/-- The operation of the interface behind a listing. -/
def request : Listing → String
  | storageClasses => "listStorageClass"
  | namespaces => "listNamespace"
  | roles => "listRoleForAllNamespaces"
  | clusterRoles => "listClusterRole"
  | componentStatuses => "listComponentStatus"
  | nodes => "listNode"
  | persistentVolumes => "listPersistentVolume"
  | persistentVolumeClaims => "listPersistentVolumeClaimForAllNamespaces"
  | pods => "listPodForAllNamespaces"

def description : Listing → String
  | storageClasses => "List storage classes"
  | namespaces => "List namespaces"
  | roles => "List roles"
  | clusterRoles => "List cluster roles"
  | componentStatuses => "List component statuses"
  | nodes => "List nodes"
  | persistentVolumes => "List persistent volumes"
  | persistentVolumeClaims => "List persistent volume claims"
  | pods => "List pods"

/-- The items that the reply to a listing holds, as they are given. -/
def itemsOf : Field → Except Failure Field
  | none => .error (.undeclared (.partOfMissing "items"))
  | some .null => .error (.undeclared (.partOfNull "items"))
  | some reply => .ok ((reply.members?.getD []).lookup "items")

end Listing

namespace ClientCall

def request : ClientCall → List Value
  | list listing => [.text listing.request]
  | nodeStats node => [.text "connectGetNodeProxyWithPath", node.shown, .text "stats"]
  | podMetric namespaceName metric =>
    [.text "getNamespacedCustomObject", .text "custom.metrics.k8s.io", .text "v1beta1",
      namespaceName.shown, .text "pods/*", metric.shown]

/-- What is called and on what, as failures tell it. -/
def description : ClientCall → String
  | list listing => listing.description
  | nodeStats node =>
    if node.isGiven then s!"Get node statistics {node.label}" else "Get node statistics"
  | podMetric namespaceName metric => s!"Get custom metric {namespaceName.label}/{metric.label}"

/-- What happens when a call starts. A call on something whose name has no text cannot start. -/
def started : ClientCall → Except Undeclared (List Event)
  | list _ => .ok []
  | nodeStats node => do
    let name ← requireText node.plainText?
    return [.log .debug s!"Fetching kubelet statistics for node: {name}"]
  | podMetric namespaceName metric => do
    let metricText ← requireText metric.plainText?
    let namespaceText ← requireText namespaceName.plainText?
    return .log .debug
      s!"Query Custom Metrics Endpoint: {metricText} in namespace {namespaceText}" ::
        queryEvents namespaceName metric

/-- What a failed call is classified as, and the log line that tells it. -/
def classified (call : ClientCall) (failure : Failure) : Except Undeclared (ApiError × String) := do
  let error ← ApiError.ofFailure failure
  let name ← requireText error.name.plainText?
  let message ← requireText error.message.plainText?
  return (error, s!"{call.description} failed: {name}: {message}")

/-- What a call is answered with. A failure that cannot be told fails the call in its own way. -/
def settle {α : Type} (call : ClientCall) (started : List Event) (answer : Except Failure α) :
    Call α :=
  match answer with
  | .ok value => .after started (.ok value)
  | .error failure =>
    match call.classified failure with
    | .ok (error, line) => ⟨true, started, [.log .debug line], .error (.api error)⟩
    | .error cause => .after started (.error (.undeclared cause))

def perform {α : Type} (call : ClientCall) (answer : Except Failure α) : Call α :=
  match call.started with
  | .ok started => call.settle started answer
  | .error cause => .stopped cause

end ClientCall

structure ClientConfig where
  server : Field
  token : Field
  skipTlsVerify : Field
  caFile : Field

/-- Where the interface is found and how it is trusted. -/
structure ClusterEntry where
  name : String
  server : Field
  skipTlsVerify : Value
  caFile : Field

structure UserEntry where
  name : String
  token : Field

structure ContextEntry where
  name : String
  cluster : String
  user : String
deriving DecidableEq, Repr

structure Kubeconfig where
  clusters : List ClusterEntry
  users : List UserEntry
  contexts : List ContextEntry
  currentContext : String

namespace ClientConfig

def entryName : String := "default"

def isUnchecked (config : ClientConfig) : Bool := config.skipTlsVerify.isGiven

/-- One cluster, one user and one context. Certificates that are not checked need no bundle. -/
def kubeconfig (config : ClientConfig) : Kubeconfig where
  clusters :=
    [⟨entryName, config.server,
      if config.isUnchecked then config.skipTlsVerify.shown else .bool false,
      if config.isUnchecked then none else config.caFile⟩]
  users := [⟨entryName, config.token⟩]
  contexts := [⟨entryName, entryName, entryName⟩]
  currentContext := entryName

/-- What a client logs before it knows its server. -/
def warnings (config : ClientConfig) : List Event :=
  if config.isUnchecked then [.log .warn "Disabling SSL certificate verification"] else []

/-- Sets up a client, which tells the text of its server. -/
def setUp (config : ClientConfig) : Journal Unit := do
  Journal.emit config.warnings
  let server ← Journal.ofExcept
    ((requireText (config.server.plainText? "undefined")).mapError .undeclared)
  Journal.log .info s!"Kubernetes client configured for: {server}"
  Journal.log .debug "Constructing API client wrappers"

end ClientConfig

/-- The source that goes through the client. -/
def Source.throughClient (cluster : Cluster) : Source where
  list := fun listing => (ClientCall.list listing).perform (cluster.list listing)
  nodeStats := fun node => (ClientCall.nodeStats node).perform (cluster.statsOf node)
  podMetric := fun namespaceName metric =>
    (ClientCall.podMetric namespaceName metric).perform (cluster.metricOf namespaceName metric)

end ClusterAgent
