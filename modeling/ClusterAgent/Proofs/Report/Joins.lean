import ClusterAgent.Collection.Inventory
import ClusterAgent.Proofs.Report.Nodes
import ClusterAgent.Proofs.Report.Placement
import ClusterAgent.Proofs.Report.Sections

/-!
Contract: the joins that the sections of nodes are made of.

A join gives each host its own data: what the last node of its name offers, then
what the pods placed on it ask for, and then statistics and conditions in
sections of their own. No join meets a key that it cannot share.

Owns: what is joined for a host, the node group after all joins, accepted entities.
Does not own: what the sections of a host mean.
-/

namespace ClusterAgent

/-- What pods ask for. -/
def PodList.asked (pods : List Pod) : List (Name × Value) := (total pods).record.toMembers.named

/-- What pods ask for, and how many there are. -/
def PodList.requested (pods : List Pod) : List (Name × Value) :=
  [(.text "limits", .object (total pods).limits.record.toMembers),
    (.text "requests", .object ((total pods).requests.record.toMembers ++
      [("pods", .number (.ofNat pods.length))]))]

namespace Inventory

/-! ## What is accepted -/

/-- Every quantity of every named node is well formed, shadowed nodes included. -/
def NodesAccepted (inventory : Inventory) : Prop :=
  ∀ pair ∈ Entity.named inventory.nodes, pair.2.node.IsAccepted

/-- Every quantity of every pod is well formed, wherever the pod is placed. -/
def PodsAccepted (inventory : Inventory) : Prop := ∀ pod ∈ inventory.pods, pod.IsAccepted

theorem NodesAccepted.accepted {inventory : Inventory} (accepted : NodesAccepted inventory)
    (typed : inventory.toEntities.IsTyped) :
    ∀ sampled ∈ inventory.nodes, sampled.node.IsAccepted := by
  intro sampled member
  obtain ⟨name, named⟩ := (typed.nodes sampled member).named
  exact accepted (.text name, sampled) (Entity.mem_named.2 ⟨member, named⟩)

/-- Every capacity that a named volume declares is well formed, unless it is empty. -/
def VolumesAccepted (inventory : Inventory) : Prop :=
  ∀ pair ∈ Entity.named inventory.persistentVolumes, pair.2.IsAccepted

/-! ## What is joined -/

variable {nodes : List SampledNode} {pods : List Pod}

/-- What the last node of a name offers. -/
def offeredAt (nodes : List SampledNode) (host : Name) : List (Name × Value) :=
  (Entity.last? nodes host).elim [] fun sampled => sampled.node.offer.toMembers.named

/-- A view of the pods placed on a host, if there are any. -/
def placedAt (view : List Pod → List (Name × Value)) (pods : List Pod) (host : Name) :
    List (Name × Value) :=
  if host ∈ PodList.hosts pods then view (PodList.placedOn host pods) else []

/-- The sample of the last node of a name. -/
def sampleAt (nodes : List SampledNode) (host : Name) : List (Name × List (Name × Value)) :=
  (Entity.last? nodes host).elim [] fun sampled =>
    [(.text "k8s_stats", Members.named sampled.sample)]

/-- The conditions of the last node of a name that reports any, as they are shown. -/
def conditionsAt? (nodes : List SampledNode) (host : Name) : Option Members :=
  ((Entity.lastOf? (fun sampled => sampled.node.reportsConditions) nodes host).bind fun sampled =>
    sampled.node.conditionEntries?).map NodeList.conditionMembers

def conditionsAt (nodes : List SampledNode) (host : Name) : List (Name × List (Name × Value)) :=
  (conditionsAt? nodes host).elim [] fun shown => [(.text "k8s_conditions", shown.named)]

def resourcesAt (nodes : List SampledNode) (pods : List Pod) (host : Name) :
    List (Name × List (Name × Value)) :=
  Element.sectionOf "k8s_resources" (offeredAt nodes host ++ placedAt PodList.requested pods host)

theorem offeredAt_eq (nodes : List SampledNode) (host : Name) :
    offeredAt nodes host = [] ∨
      ∃ node : Node, offeredAt nodes host = node.offer.toMembers.named := by
  unfold offeredAt
  cases Entity.last? nodes host with
  | none => exact .inl rfl
  | some sampled => exact .inr ⟨sampled.node, rfl⟩

/-! ## The joins, one after the other -/

/-- The first join makes a host of every node name. -/
theorem exists_put_offers (nodes : List SampledNode) :
    ∃ group, Group.empty.put "k8s_resources"
        ((Entity.byName (fun sampled : SampledNode => sampled.node.offer) nodes).map
          Record.toMembers) = .ok group ∧
      group.hosts = (Entity.names nodes).eraseDups ∧
      ∀ host, group.elementAt host =
        .ofContents (Element.sectionOf "k8s_resources" (offeredAt nodes host)) := by
  let table := (Entity.byName (fun sampled : SampledNode => sampled.node.offer) nodes).map
    Record.toMembers
  have found (host : Name) : table.get? host =
      (Entity.last? nodes host).map fun sampled => sampled.node.offer.toMembers := by
    rw [Table.get?_map, Entity.get?_byName, Option.map_map]
    rfl
  have keys : table.keys = (Entity.names nodes).eraseDups := by
    rw [Table.keys_map, Entity.keys_byName]
  have distinct : table.keys.Nodup := by
    rw [keys]
    exact nodup_eraseDups _
  have inserted : ∀ host members, table.get? host = some members →
      (Element.ofContents []).insert "k8s_resources" members.named =
        ⟨.ofContents (Element.sectionOf "k8s_resources" (offeredAt nodes host)), none⟩ := by
    intro host members isFound
    rw [found, Option.map_eq_some_iff] at isFound
    obtain ⟨sampled, isLast, rfl⟩ := isFound
    rw [offeredAt, isLast]
    rfl
  have untouched : ∀ host, table.get? host = none →
      [] = Element.sectionOf "k8s_resources" (offeredAt nodes host) := by
    intro host missing
    rw [found, Option.map_eq_none_iff] at missing
    rw [offeredAt, missing]
    rfl
  obtain ⟨group, put, hosts, elements⟩ := Group.exists_put .empty "k8s_resources" distinct
    (fun _ => []) _ (fun _ => rfl) inserted untouched
  refine ⟨group, put, ?_, elements⟩
  rw [hosts, keys]
  simp [Group.empty, Group.hosts]

/-- A join of what is shown of the pods of each host, the two views being those before and after. -/
theorem exists_put_placed (group : Group) (nodes : List SampledNode) (pods : List Pod)
    (before after : List Pod → List (Name × Value)) (record : List Pod → Record Number)
    (elements : ∀ host, group.elementAt host = .ofContents
      (Element.sectionOf "k8s_resources" (offeredAt nodes host ++ placedAt before pods host)))
    (inserted : ∀ host placed,
      (Element.ofContents (Element.sectionOf "k8s_resources"
          (offeredAt nodes host ++ before placed))).insert "k8s_resources"
            (record placed).toMembers.named =
        ⟨.ofContents (Element.sectionOf "k8s_resources" (offeredAt nodes host ++ after placed)),
          none⟩) :
    ∃ result, group.put "k8s_resources" ((Table.tabulate (PodList.hosts pods) fun host =>
        record (PodList.placedOn host pods)).map Record.toMembers) = .ok result ∧
      result.hosts = group.hosts ++ (PodList.hosts pods).filter (· ∉ group.hosts) ∧
      ∀ host, result.elementAt host = .ofContents
        (Element.sectionOf "k8s_resources" (offeredAt nodes host ++ placedAt after pods host)) := by
  let table := (Table.tabulate (PodList.hosts pods) fun host =>
    record (PodList.placedOn host pods)).map Record.toMembers
  have found (host : Name) : table.get? host =
      if host ∈ PodList.hosts pods then some (record (PodList.placedOn host pods)).toMembers
      else none := by
    rw [Table.get?_map, Table.get?_tabulate]
    split <;> rfl
  have keys : table.keys = PodList.hosts pods := by rw [Table.keys_map, Table.keys_tabulate]
  have distinct : table.keys.Nodup := by
    rw [keys]
    exact PodList.nodup_hosts pods
  have insertedPlaced : ∀ host members, table.get? host = some members →
      (Element.ofContents (Element.sectionOf "k8s_resources"
          (offeredAt nodes host ++ placedAt before pods host))).insert "k8s_resources"
            members.named =
        ⟨.ofContents (Element.sectionOf "k8s_resources"
          (offeredAt nodes host ++ placedAt after pods host)), none⟩ := by
    intro host members isFound
    rw [found] at isFound
    split at isFound
    · rename_i mentioned
      cases isFound
      rw [placedAt, placedAt, if_pos mentioned, if_pos mentioned]
      exact inserted host _
    · cases isFound
  have untouched : ∀ host, table.get? host = none →
      Element.sectionOf "k8s_resources" (offeredAt nodes host ++ placedAt before pods host) =
        Element.sectionOf "k8s_resources" (offeredAt nodes host ++ placedAt after pods host) := by
    intro host missing
    rw [found] at missing
    split at missing
    · cases missing
    · rename_i unmentioned
      rw [placedAt, placedAt, if_neg unmentioned, if_neg unmentioned]
  obtain ⟨result, put, hosts, resultElements⟩ := Group.exists_put group "k8s_resources" distinct
    _ _ elements insertedPlaced untouched
  exact ⟨result, put, by rw [hosts, keys], resultElements⟩

theorem insert_asked (nodes : List SampledNode) (host : Name) (placed : List Pod) :
    (Element.ofContents (Element.sectionOf "k8s_resources"
        (offeredAt nodes host ++ []))).insert "k8s_resources"
          (PodList.total placed).record.toMembers.named =
      ⟨.ofContents (Element.sectionOf "k8s_resources"
        (offeredAt nodes host ++ PodList.asked placed)), none⟩ := by
  rcases offeredAt_eq nodes host with offersNothing | ⟨node, offers⟩
  · rw [offersNothing]
    rfl
  · rw [offers]
    rfl

/-- The number of pods goes into the requests that are there. -/
theorem insert_count (nodes : List SampledNode) (host : Name) (placed : List Pod) :
    (Element.ofContents (Element.sectionOf "k8s_resources"
        (offeredAt nodes host ++ PodList.asked placed))).insert "k8s_resources"
          (PodList.countRecord placed.length).toMembers.named =
      ⟨.ofContents (Element.sectionOf "k8s_resources"
        (offeredAt nodes host ++ PodList.requested placed)), none⟩ := by
  rcases offeredAt_eq nodes host with offersNothing | ⟨node, offers⟩
  · rw [offersNothing]
    rfl
  · rw [offers]
    rfl

theorem conditionsAt?_eq (nodes : List SampledNode) (host : Name) :
    ((NodeList.knownConditions nodes).map NodeList.conditionMembers).get? host =
      conditionsAt? nodes host := by
  rw [Table.get?_map, NodeList.knownConditions, Entity.get?_ofList_viewed, conditionsAt?]
  simp only [Node.conditionEntries?_isSome]

theorem nodup_conditionsAt? {nodes : List SampledNode} {host : Name} {shown : Members}
    (found : conditionsAt? nodes host = some shown) : (shown.map Prod.fst).Nodup := by
  obtain ⟨entries, isShown, rfl⟩ := Option.map_eq_some_iff.1 found
  obtain ⟨sampled, _, reported⟩ := Option.bind_eq_some_iff.1 isShown
  unfold Node.conditionEntries? at reported
  split at reported
  · cases reported
    have keys : (NodeList.conditionMembers (Members.ofList
        (sampled.node.knownConditions.map Condition.entry))).map Prod.fst =
          (Members.ofList (sampled.node.knownConditions.map Condition.entry)).map Prod.fst := by
      simp [NodeList.conditionMembers, Function.comp_def]
    rw [keys]
    exact (Members.isCanonical_ofList _).nodup
  · cases reported

theorem mem_names_of_conditionsAt? {nodes : List SampledNode} {host : Name} {shown : Members}
    (found : conditionsAt? nodes host = some shown) : host ∈ Entity.names nodes := by
  obtain ⟨entries, isShown, _⟩ := Option.map_eq_some_iff.1 found
  obtain ⟨sampled, isLast, _⟩ := Option.bind_eq_some_iff.1 isShown
  obtain ⟨member, named, _⟩ := Entity.lastOf?_eq_some isLast
  exact List.mem_filterMap.2 ⟨sampled, member, named⟩

theorem fst_of_mem_resourcesAt {host : Name} :
    ∀ name ∈ (resourcesAt nodes pods host).map Prod.fst, name = .text "k8s_resources" := by
  intro name member
  obtain ⟨pair, inSections, rfl⟩ := List.mem_map.1 member
  exact Element.fst_of_mem_sectionOf pair inSections

theorem fst_of_mem_sampleAt {host : Name} :
    ∀ name ∈ (sampleAt nodes host).map Prod.fst, name = .text "k8s_stats" := by
  intro name member
  unfold sampleAt at member
  cases last : Entity.last? nodes host with
  | none => simp [last] at member
  | some sampled => simpa [last] using member

theorem hosts_append_present {hosts names : List Name} (present : ∀ name ∈ names, name ∈ hosts) :
    hosts ++ names.filter (· ∉ hosts) = hosts := by
  rw [List.filter_eq_nil_iff.2, List.append_nil]
  intro name member
  simpa using present name member

/-- Statistics make a section of their own. -/
theorem exists_put_samples (group : Group) (typed : ∀ sampled ∈ nodes, sampled.IsTyped)
    (elements : ∀ host, group.elementAt host = .ofContents (resourcesAt nodes pods host))
    (present : ∀ name ∈ Entity.names nodes, name ∈ group.hosts) :
    ∃ result, group.put "k8s_stats" (NodeList.samples nodes) = .ok result ∧
      result.hosts = group.hosts ∧
      ∀ host, result.elementAt host =
        .ofContents (resourcesAt nodes pods host ++ sampleAt nodes host) := by
  have distinct : (NodeList.samples nodes).keys.Nodup := Entity.nodup_keys_byName _ nodes
  have absent : ∀ host, Name.text "k8s_stats" ∉ (resourcesAt nodes pods host).map Prod.fst := by
    intro host member
    exact absurd (fst_of_mem_resourcesAt _ member) (by decide)
  have membersDistinct : ∀ host members, (NodeList.samples nodes).get? host = some members →
      (members.map Prod.fst).Nodup := by
    intro host members found
    rw [NodeList.samples, Entity.get?_byName, Option.map_eq_some_iff] at found
    obtain ⟨sampled, isLast, rfl⟩ := found
    exact (typed sampled (Entity.last?_eq_some isLast).1).sample
  obtain ⟨result, put, hosts, resultElements⟩ :=
    Group.exists_put_section group "k8s_stats" distinct _ elements absent membersDistinct
  refine ⟨result, put, ?_, ?_⟩
  · rw [hosts]
    apply hosts_append_present
    intro name member
    rw [NodeList.samples, Entity.keys_byName, List.mem_eraseDups] at member
    exact present name member
  · intro host
    rw [resultElements, NodeList.samples, Entity.get?_byName, sampleAt]
    cases Entity.last? nodes host <;> rfl

/-- Conditions make a section of their own. -/
theorem exists_put_conditions (group : Group)
    (elements : ∀ host, group.elementAt host =
      .ofContents (resourcesAt nodes pods host ++ sampleAt nodes host))
    (present : ∀ name ∈ Entity.names nodes, name ∈ group.hosts) :
    ∃ result, group.put "k8s_conditions"
        ((NodeList.knownConditions nodes).map NodeList.conditionMembers) = .ok result ∧
      result.hosts = group.hosts ∧
      ∀ host, result.elementAt host = .ofContents
        (resourcesAt nodes pods host ++ sampleAt nodes host ++ conditionsAt nodes host) := by
  have distinct :
      ((NodeList.knownConditions nodes).map NodeList.conditionMembers).keys.Nodup := by
    rw [Table.keys_map]
    exact Table.nodup_keys_ofList _
  have absent : ∀ host, Name.text "k8s_conditions" ∉
      (resourcesAt nodes pods host ++ sampleAt nodes host).map Prod.fst := by
    intro host member
    rw [List.map_append, List.mem_append] at member
    rcases member with inResources | inSample
    · exact absurd (fst_of_mem_resourcesAt _ inResources) (by decide)
    · exact absurd (fst_of_mem_sampleAt _ inSample) (by decide)
  have membersDistinct : ∀ host members,
      ((NodeList.knownConditions nodes).map NodeList.conditionMembers).get? host = some members →
        (members.map Prod.fst).Nodup := by
    intro host members found
    rw [conditionsAt?_eq] at found
    exact nodup_conditionsAt? found
  obtain ⟨result, put, hosts, resultElements⟩ :=
    Group.exists_put_section group "k8s_conditions" distinct _ elements absent membersDistinct
  refine ⟨result, put, ?_, ?_⟩
  · rw [hosts]
    apply hosts_append_present
    intro name member
    obtain ⟨shown, found⟩ := Table.mem_keys_iff.1 member
    rw [conditionsAt?_eq] at found
    exact present name (mem_names_of_conditionsAt? found)
  · intro host
    rw [resultElements, conditionsAt?_eq]
    rfl

/-- The sections of every host, and the hosts in their order. -/
theorem exists_nodeGroup {inventory : Inventory} (typed : inventory.toEntities.IsTyped)
    (nodesAccepted : ∀ sampled ∈ inventory.nodes, sampled.node.IsAccepted)
    (podsAccepted : ∀ pod ∈ inventory.pods, pod.IsAccepted) :
    ∃ group, inventory.nodeGroup = .ok group ∧
      group.hosts = (Entity.names inventory.nodes).eraseDups ++
        (PodList.hosts inventory.pods).filter (· ∉ Entity.names inventory.nodes) ∧
      ∀ host, (group.elementAt host).contents =
        resourcesAt inventory.nodes inventory.pods host ++ sampleAt inventory.nodes host ++
          conditionsAt inventory.nodes host := by
  obtain ⟨offers, putOffers, offersHosts, offersElements⟩ := exists_put_offers inventory.nodes
  have unplaced : ∀ host, offers.elementAt host = .ofContents (Element.sectionOf "k8s_resources"
      (offeredAt inventory.nodes host ++ placedAt (fun _ => []) inventory.pods host)) := by
    intro host
    rw [offersElements, placedAt, ite_self, List.append_nil]
  obtain ⟨asked, putAsked, askedHosts, askedElements⟩ := exists_put_placed offers inventory.nodes
    inventory.pods (fun _ => []) PodList.asked (fun placed => (PodList.total placed).record)
    unplaced (insert_asked inventory.nodes)
  obtain ⟨counted, putCounts, countedHosts, countedElements⟩ := exists_put_placed asked
    inventory.nodes inventory.pods PodList.asked PodList.requested
    (fun placed => PodList.countRecord placed.length) askedElements (insert_count inventory.nodes)
  have askedHostsEq : asked.hosts = (Entity.names inventory.nodes).eraseDups ++
      (PodList.hosts inventory.pods).filter (· ∉ Entity.names inventory.nodes) := by
    rw [askedHosts, offersHosts]
    simp only [List.mem_eraseDups]
  have countedHostsEq : counted.hosts = asked.hosts := by
    rw [countedHosts]
    apply hosts_append_present
    intro name member
    rw [askedHostsEq, List.mem_append, List.mem_eraseDups, List.mem_filter]
    by_cases listed : name ∈ Entity.names inventory.nodes
    · exact .inl listed
    · exact .inr ⟨member, by simpa using listed⟩
  have present : ∀ name ∈ Entity.names inventory.nodes, name ∈ counted.hosts := by
    intro name member
    rw [countedHostsEq, askedHostsEq, List.mem_append, List.mem_eraseDups]
    exact .inl member
  obtain ⟨sampled, putSamples, sampledHosts, sampledElements⟩ :=
    exists_put_samples counted typed.nodes countedElements present
  obtain ⟨result, putConditions, resultHosts, resultElements⟩ :=
    exists_put_conditions sampled sampledElements (by rw [sampledHosts]; exact present)
  refine ⟨result, ?_, ?_, ?_⟩
  · rw [nodeGroup, NodeList.resources_eq typed.nodes nodesAccepted, Outcome.ok_bind, putOffers,
      Outcome.ok_bind, PodList.resourcesPerNode_eq typed.pods podsAccepted, Outcome.ok_bind,
      putAsked, Outcome.ok_bind, PodList.podsPerNode_eq typed.pods, Outcome.ok_bind, putCounts,
      Outcome.ok_bind, putSamples, Outcome.ok_bind, NodeList.conditions_eq typed.nodes,
      Outcome.ok_bind]
    exact putConditions
  · rw [resultHosts, sampledHosts, countedHostsEq, askedHostsEq]
  · intro host
    rw [resultElements, Element.contents_ofContents]

end Inventory

end ClusterAgent
