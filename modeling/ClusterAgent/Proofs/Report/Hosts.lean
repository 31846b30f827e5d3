import ClusterAgent.Proofs.Collection.Cycle
import ClusterAgent.Proofs.Report.Joins

/-!
Contract: the report of each host.

A listed node shows what it offers, its statistics and its conditions; any host
that pods are placed on shows what these ask for. Of several nodes of one name
the last one counts, and for conditions the last one that reports any.

Owns: the sections of a host, the hosts of the node group and their order.
Does not own: the sections about the cluster as a whole.
-/

namespace ClusterAgent.Inventory

variable {nodes : List SampledNode} {pods : List Pod}

/-! ## What a host shows -/

/-- The entries of what a node offers. -/
def IsOffered (node : Node) (entries : List (Name × Value)) : Prop :=
  ∃ capacity allocatable,
    NodeAmounts.read node.capacity = .ok capacity ∧
    NodeAmounts.read node.allocatable = .ok allocatable ∧
    entries = [(.text "capacity", capacity.value), (.text "allocatable", allocatable.value)]

/-- The entries of what pods ask for: sums counted from zero, and the number of pods. -/
def IsRequested (placed : List Pod) (entries : List (Name × Value)) : Prop :=
  ∃ amounts : List PodAmounts,
    placed.mapM Pod.amounts = .ok amounts ∧
    let total := amounts.foldl PodAmounts.add .zero
    entries =
      [(.text "limits", .object [("cpu", .number total.limits.cpu),
          ("memory", .number total.limits.memory)]),
        (.text "requests", .object [("cpu", .number total.requests.cpu),
          ("memory", .number total.requests.memory),
          ("pods", .number (.ofNat placed.length))])]

/-- The members that map the kinds of the conditions of a node to their statuses. -/
def IsConditionMap (node : Node) (members : Members) : Prop :=
  ∃ pairs : List (String × Value),
    node.conditions = .ok (pairs.map fun pair => ⟨some (.text pair.1), some pair.2⟩) ∧
    members = Members.ofList pairs

/-- The entries of what is asked of a host, if anything is placed on it. -/
def AsksFor (pods : List Pod) (host : Name) (entries : List (Name × Value)) : Prop :=
  match PodList.placedOn host pods with
  | [] => entries = []
  | pod :: rest => IsRequested (pod :: rest) entries

/-- The section of conditions, if a node of the name reports any. -/
def ReportsConditions (nodes : List SampledNode) (host : Name)
    (sections : List (Name × List (Name × Value))) : Prop :=
  match Entity.lastOf? (fun sampled => sampled.node.reportsConditions) nodes host with
  | none => sections = []
  | some sampled => ∃ members, IsConditionMap sampled.node members ∧
    sections = [(.text "k8s_conditions", members.named)]

/-- The sections of a host, in their order: of a listed node, and of a host that only pods
mention. -/
inductive IsHostReport (nodes : List SampledNode) (pods : List Pod) (host : Name) :
    List (Name × List (Name × Value)) → Prop where
  | listed
      {sampled : SampledNode}
      {offered asked : List (Name × Value)}
      {conditions : List (Name × List (Name × Value))}
      (last : Entity.last? nodes host = some sampled)
      (offers : IsOffered sampled.node offered)
      (asks : AsksFor pods host asked)
      (reports : ReportsConditions nodes host conditions) :
      IsHostReport nodes pods host
        ((.text "k8s_resources", offered ++ asked) ::
          (.text "k8s_stats", Members.named sampled.sample) :: conditions)
  | mentioned
      {asked : List (Name × Value)}
      (unlisted : host ∉ Entity.names nodes)
      (asks : IsRequested (PodList.placedOn host pods) asked) :
      IsHostReport nodes pods host [(.text "k8s_resources", asked)]

theorem isOffered_offer {node : Node} (typed : node.IsTyped) (accepted : node.IsAccepted) :
    IsOffered node node.offer.toMembers.named :=
  ⟨NodeAmounts.known node.capacity, NodeAmounts.known node.allocatable,
    NodeAmounts.read_eq typed.capacity accepted.capacity,
    NodeAmounts.read_eq typed.allocatable accepted.allocatable, rfl⟩

theorem isRequested_requested {placed : List Pod} (typed : ∀ pod ∈ placed, pod.IsTyped)
    (accepted : ∀ pod ∈ placed, pod.IsAccepted) :
    IsRequested placed (PodList.requested placed) := by
  refine ⟨placed.map Pod.known, ?_, rfl⟩
  apply Outcome.mapM_eq_map
  intro pod member
  exact Pod.amounts_eq (typed pod member) (accepted pod member)

theorem asksFor_placedAt {host : Name} (typed : ∀ pod ∈ pods, pod.IsTyped)
    (accepted : ∀ pod ∈ pods, pod.IsAccepted) :
    AsksFor pods host (placedAt PodList.requested pods host) := by
  have placedRequested : IsRequested (PodList.placedOn host pods)
      (PodList.requested (PodList.placedOn host pods)) := by
    apply isRequested_requested
    · intro pod member
      exact typed pod (List.mem_of_mem_filter member)
    · intro pod member
      exact accepted pod (List.mem_of_mem_filter member)
  have mentionedIff : host ∈ PodList.hosts pods ↔ PodList.placedOn host pods ≠ [] :=
    PodList.mem_hosts_iff_placedOn
  unfold AsksFor placedAt
  by_cases mentioned : host ∈ PodList.hosts pods
  · obtain ⟨pod, rest, placed⟩ := List.exists_cons_of_ne_nil (mentionedIff.1 mentioned)
    rw [if_pos mentioned]
    rw [placed] at placedRequested ⊢
    exact placedRequested
  · have nothing : PodList.placedOn host pods = [] := by
      by_contra placed
      exact mentioned (mentionedIff.2 placed)
    rw [if_neg mentioned, nothing]

/-- The conditions of a typed node are shown by kind and status. -/
theorem isConditionMap_of_typed {node : Node} (typed : node.IsTyped) :
    IsConditionMap node (NodeList.conditionMembers
      (Members.ofList (node.knownConditions.map Condition.entry))) := by
  obtain ⟨conditions, known, conditionsTyped⟩ := typed.conditions
  have sameConditions : node.knownConditions = conditions := by
    rw [Node.knownConditions, known]
    rfl
  refine ⟨conditions.map fun condition => (condition.entry.1, condition.status.shown), ?_, ?_⟩
  · rw [known, List.map_map]
    congr 1
    symm
    apply (List.map_congr_left _).trans (List.map_id conditions)
    intro condition member
    obtain ⟨text, isText⟩ := (conditionsTyped condition member).kind
    obtain ⟨status, isStatus⟩ :=
      Option.isSome_iff_exists.1 (conditionsTyped condition member).status
    obtain ⟨kind, held⟩ := condition
    dsimp only at isText isStatus
    subst isText isStatus
    rfl
  · rw [sameConditions]
    have mapped := Members.map_ofList Field.shown (conditions.map Condition.entry)
    rw [List.map_map] at mapped
    exact mapped

theorem reportsConditions_conditionsAt {host : Name} (typed : ∀ sampled ∈ nodes, sampled.IsTyped) :
    ReportsConditions nodes host (conditionsAt nodes host) := by
  unfold ReportsConditions conditionsAt conditionsAt?
  cases last : Entity.lastOf? (fun sampled => sampled.node.reportsConditions) nodes host with
  | none => rfl
  | some sampled =>
    obtain ⟨member, _, reports⟩ := Entity.lastOf?_eq_some last
    refine ⟨_, isConditionMap_of_typed (typed sampled member).node, ?_⟩
    rw [Option.bind_some, Node.conditionEntries?, if_pos reports]
    rfl

/-- What a group holds for a host is the report of the host. -/
theorem isHostReport_of_mem {inventory : Inventory} (typed : inventory.toEntities.IsTyped)
    (nodesAccepted : ∀ sampled ∈ inventory.nodes, sampled.node.IsAccepted)
    (podsAccepted : ∀ pod ∈ inventory.pods, pod.IsAccepted) {host : Name}
    (isHost : host ∈ Entity.names inventory.nodes ∨ host ∈ PodList.hosts inventory.pods) :
    IsHostReport inventory.nodes inventory.pods host
      (resourcesAt inventory.nodes inventory.pods host ++ sampleAt inventory.nodes host ++
        conditionsAt inventory.nodes host) := by
  unfold resourcesAt offeredAt sampleAt
  cases last : Entity.last? inventory.nodes host with
  | some sampled =>
    have member := (Entity.last?_eq_some last).1
    exact IsHostReport.listed last
      (isOffered_offer (typed.nodes sampled member).node (nodesAccepted sampled member))
      (asksFor_placedAt typed.pods podsAccepted) (reportsConditions_conditionsAt typed.nodes)
  | none =>
    have unlisted : host ∉ Entity.names inventory.nodes := by
      rw [← Entity.last?_isSome_iff, last]
      simp
    have mentioned : host ∈ PodList.hosts inventory.pods := isHost.resolve_left unlisted
    have noConditions : conditionsAt inventory.nodes host = [] := by
      unfold conditionsAt
      cases found : conditionsAt? inventory.nodes host with
      | none => rfl
      | some shown => exact absurd (mem_names_of_conditionsAt? found) unlisted
    rw [noConditions, placedAt, if_pos mentioned]
    apply IsHostReport.mentioned unlisted
    apply isRequested_requested
    · intro pod member
      exact typed.pods pod (List.mem_of_mem_filter member)
    · intro pod member
      exact podsAccepted pod (List.mem_of_mem_filter member)

/-- The hosts of the node group are the distinct names of nodes, in the order in which they first
come, and then the nodes that only pods mention, in ascending order of their units. Each host is
reported by the last node of its name and by the pods placed on it. -/
theorem nodeGroup_holds_host_reports [Platform] (logging : Logging) (source : Source)
    (wellTyped : source.IsWellTyped) (inventory : Inventory)
    (collected : (collect logging source).outcome = .ok inventory)
    (nodesAccepted : inventory.NodesAccepted) (podsAccepted : inventory.PodsAccepted) :
    ∃ group mentioned,
      inventory.nodeGroup = .ok group ∧
      group.hosts = (Entity.names inventory.nodes).eraseDups ++ mentioned ∧
      group.hosts.Nodup ∧
      mentioned.Pairwise (fun left right => UnitsBefore left.label right.label) ∧
      (∀ host, host ∈ mentioned ↔
        (∃ pod ∈ inventory.pods, pod.node? = some host) ∧ host ∉ Entity.names inventory.nodes) ∧
      ∀ host ∈ group.hosts,
        IsHostReport inventory.nodes inventory.pods host (group.elementAt host).contents := by
  have typed := (entities_of_collect wellTyped collected).1
  have nodesTyped := nodesAccepted.accepted typed
  obtain ⟨group, grouped, hosts, contents⟩ := exists_nodeGroup typed nodesTyped podsAccepted
  refine ⟨group, _, grouped, hosts, ?_, ?_, ?_, ?_⟩
  · rw [hosts, List.nodup_append]
    refine ⟨nodup_eraseDups _, (PodList.nodup_hosts inventory.pods).filter _, ?_⟩
    rintro host listed other mentioned rfl
    have unlisted : host ∉ Entity.names inventory.nodes := by
      simpa using (List.mem_filter.1 mentioned).2
    exact unlisted (List.mem_eraseDups.1 listed)
  · exact (PodList.pairwise_hosts typed.pods).filter _
  · intro host
    rw [List.mem_filter, PodList.mem_hosts]
    simp
  · intro host isHost
    rw [contents]
    apply isHostReport_of_mem typed nodesTyped podsAccepted
    rw [hosts, List.mem_append, List.mem_eraseDups, List.mem_filter] at isHost
    exact isHost.imp_right And.left

/-- A node with conditions that offers some processor time. -/
def nodeWith (name cpu : String) (conditions : List (String × String)) : Value :=
  .object [("metadata", .object [("name", .text name)]),
    ("status", .object [("capacity", .object [("cpu", .text cpu)]),
      ("conditions", .list (conditions.map fun pair =>
        .object [("type", .text pair.1), ("status", .text pair.2)]))])]

def podOn (node memory : String) : Value :=
  .object [("spec", .object [("nodeName", .text node), ("containers", .list [.object
    [("resources", .object [("requests", .object [("memory", .text memory)])])]])])]

/-- A cluster with a node name that is listed twice, the last time without conditions, and with pods
on a listed node, on two nodes that are not listed, and on none. -/
def crowdedCluster : Cluster where
  list := fun
    | .nodes => .ok (.list [nodeWith "b" "2" [("Ready", "True")], nodeWith "a" "1" [],
        nodeWith "b" "4" []])
    | .pods => .ok (.list [podOn "z" "1Ki", podOn "b" "2Ki", podOn "" "3Ki", podOn "c" "4Ki"])
    | _ => .ok (.list [])
  nodeStats := fun _ => .ok (statsAt "2024-01-01T00:00:00Z")
  podMetric := fun _ _ => .error (.value .null)

section Universal

attribute [local instance] Platform.universal

/-- What a cycle collects from a cluster, nothing if it fails. -/
def collectedFrom (cluster : Cluster) : Inventory :=
  (collect .omitted (.ofCluster cluster)).outcome.toOption.getD
    ⟨⟨[], [], [], [], [], [], [], [], []⟩, []⟩

theorem isWellTyped_crowdedCluster : (Source.ofCluster crowdedCluster).IsWellTyped := by
  intro listing reply arrived
  cases listing <;> cases arrived <;> exact ⟨_, rfl, by decide⟩

theorem collect_crowdedCluster :
    (collect .omitted (.ofCluster crowdedCluster)).outcome = .ok (collectedFrom crowdedCluster) :=
  Outcome.eq_ok_known ⟨_, rfl⟩ _

theorem nodeGroup_holds_host_reports_of_crowdedCluster :
    (Source.ofCluster crowdedCluster).IsWellTyped ∧
      (collect .omitted (.ofCluster crowdedCluster)).outcome =
        .ok (collectedFrom crowdedCluster) ∧
      (collectedFrom crowdedCluster).NodesAccepted ∧ (collectedFrom crowdedCluster).PodsAccepted ∧
      ∃ group mentioned, (collectedFrom crowdedCluster).nodeGroup = .ok group ∧
        group.hosts = [.text "b", .text "a"] ++ mentioned ∧ Name.text "c" ∈ mentioned ∧
        Name.text "b" ∉ mentioned := by
  have wellTyped := isWellTyped_crowdedCluster
  have collected := collect_crowdedCluster
  have typed := (entities_of_collect wellTyped collected).1
  have nodesAccepted : (collectedFrom crowdedCluster).NodesAccepted :=
    (NodeList.reads_resources typed.nodes).accepted_of_ok rfl
  have podsAccepted : (collectedFrom crowdedCluster).PodsAccepted :=
    (PodList.reads_totalResources typed.pods).accepted_of_ok rfl
  obtain ⟨group, mentioned, grouped, hosts, _, _, mentionedIff, _⟩ :=
    nodeGroup_holds_host_reports .omitted (.ofCluster crowdedCluster) wellTyped
      (collectedFrom crowdedCluster) collected nodesAccepted podsAccepted
  have names : Entity.names (collectedFrom crowdedCluster).nodes =
      [.text "b", .text "a", .text "b"] := rfl
  have hostsOfPods : (collectedFrom crowdedCluster).pods.filterMap Pod.node? =
      [.text "z", .text "b", .text "c"] := rfl
  have placed : ∃ pod ∈ (collectedFrom crowdedCluster).pods, pod.node? = some (.text "c") := by
    rw [← List.mem_filterMap, hostsOfPods]
    decide
  refine ⟨wellTyped, collected, nodesAccepted, podsAccepted, group, mentioned, grouped, ?_, ?_, ?_⟩
  · rw [hosts, names]
    rfl
  · exact (mentionedIff (.text "c")).2 ⟨placed, by rw [names]; decide⟩
  · intro isMentioned
    have unlisted := ((mentionedIff (.text "b")).1 isMentioned).2
    rw [names] at unlisted
    exact unlisted (by decide)

end Universal

end ClusterAgent.Inventory
