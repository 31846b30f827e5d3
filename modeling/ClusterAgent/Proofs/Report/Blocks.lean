import ClusterAgent.Proofs.Collection.Cycle
import ClusterAgent.Proofs.Report.Nodes
import ClusterAgent.Proofs.Report.Placement
import ClusterAgent.Proofs.Report.Sections

/-!
Contract: the names of what a block holds, whatever the entities are.

A section that is put into an element keeps its place or follows the others, and
every host that is given something has a section. So the names of sections do not
depend on any data, and hosts are named nodes or nodes that pods name.

Owns: the section names of elements, the hosts of a group and their sections.
Does not own: what a section holds, whether a block can be made.
-/

namespace ClusterAgent

/-! ## Elements -/

/-- Names with one more, which keeps its place if it is there. -/
def withName {ν : Type} [DecidableEq ν] (names : List ν) (name : ν) : List ν :=
  if name ∈ names then names else names ++ [name]

namespace Element

theorem names_insert (element : Element) (name : Name) (data : List (Name × Value)) :
    (element.insert name data).state.names = withName element.names name :=
  Table.keys_set element.sections name _

theorem insert_of_put {element result : Element} {name : String} {data : List (Name × Value)}
    (put : element.put name data = .ok result) : (element.insert name data).state = result := by
  have inserted := Outcome.mapError_eq_ok.1 put
  unfold Attempt.toExcept at inserted
  split at inserted
  · exact Except.ok.inj inserted
  · cases inserted

theorem names_put {element result : Element} {names : List String} {name : String}
    {data : List (Name × Value)} (named : element.names = names.map Name.text)
    (put : element.put name data = .ok result) :
    result.names = (withName names name).map Name.text := by
  have present : Name.text name ∈ names.map Name.text ↔ name ∈ names := by simp
  rw [← insert_of_put put, names_insert, named, withName, withName]
  simp only [present]
  split
  · rfl
  · rw [List.map_append, List.map_singleton]

/-- Sections that are put into an element one after the other. -/
theorem names_foldlM_put {α : Type} {nameOf : α → String} {dataOf : α → List (Name × Value)}
    {items : List α} {element result : Element} {names : List String}
    (named : element.names = names.map Name.text)
    (put : items.foldlM (fun element item => element.put (nameOf item) (dataOf item)) element =
      .ok result) :
    result.names = ((items.map nameOf).foldl withName names).map Name.text := by
  induction items generalizing element names with
  | nil =>
    cases put
    exact named
  | cons item rest inductionHypothesis =>
    rw [List.foldlM_cons] at put
    obtain ⟨next, putFirst, putRest⟩ := Outcome.bind_eq_ok.1 put
    exact inductionHypothesis (names_put named putFirst) putRest

end Element

namespace Inventory

/-- The sections about the cluster as a whole. -/
def clusterSections : List String :=
  ["k8s_nodes", "k8s_namespaces", "k8s_persistent_volumes", "k8s_component_statuses",
    "k8s_persistent_volume_claims", "k8s_storage_classes", "k8s_roles", "k8s_resources",
    "k8s_stats"]

/-- The sections that a host may have. -/
def nodeSections : List String := ["k8s_resources", "k8s_stats", "k8s_conditions"]

/-- The sections about the custom metrics of pods. -/
def metricSectionNames : List String := ["k8s_pods_memory", "k8s_pods_fs", "k8s_pods_cpu"]

variable {inventory : Inventory}

/-- The sections about the cluster are made for a named node only, and are always the same. -/
theorem names_clusterElement {element : Element} (made : inventory.clusterElement = .ok element) :
    element.names = clusterSections.map Name.text ∧ Entity.names inventory.nodes ≠ [] := by
  unfold clusterElement at made
  obtain ⟨nodes, putNodes, made⟩ := Outcome.bind_eq_ok.1 made
  obtain ⟨namespaces, putNamespaces, made⟩ := Outcome.bind_eq_ok.1 made
  obtain ⟨_, _, made⟩ := Outcome.bind_eq_ok.1 made
  obtain ⟨volumes, putVolumes, made⟩ := Outcome.bind_eq_ok.1 made
  obtain ⟨statuses, putStatuses, made⟩ := Outcome.bind_eq_ok.1 made
  obtain ⟨claims, putClaims, made⟩ := Outcome.bind_eq_ok.1 made
  obtain ⟨classes, putClasses, made⟩ := Outcome.bind_eq_ok.1 made
  obtain ⟨roles, putRoles, made⟩ := Outcome.bind_eq_ok.1 made
  obtain ⟨clusterRoles, putClusterRoles, made⟩ := Outcome.bind_eq_ok.1 made
  obtain ⟨nodeResources, summed, made⟩ := Outcome.bind_eq_ok.1 made
  obtain ⟨offers, putOffers, made⟩ := Outcome.bind_eq_ok.1 made
  obtain ⟨_, _, made⟩ := Outcome.bind_eq_ok.1 made
  obtain ⟨asked, putAsked, made⟩ := Outcome.bind_eq_ok.1 made
  obtain ⟨counted, putCount, made⟩ := Outcome.bind_eq_ok.1 made
  obtain ⟨_, _, putStats⟩ := Outcome.bind_eq_ok.1 made
  have start : Element.empty.names = ([] : List String).map Name.text := rfl
  have leading := Element.names_put (Element.names_put start putNodes) putNamespaces
  have entities := Element.names_put (Element.names_put (Element.names_put (Element.names_put
    leading putVolumes) putStatuses) putClaims) putClasses
  have withRoles := Element.names_put (Element.names_put entities putRoles) putClusterRoles
  have withSums := Element.names_put (Element.names_put (Element.names_put withRoles putOffers)
    putAsked) putCount
  refine ⟨Element.names_put withSums putStats, ?_⟩
  intro nameless
  cases (NodeList.clusterResources_of_nameless nameless).symm.trans summed

theorem names_customMetricsElement {element : Element}
    (groups : inventory.podMetrics.map Prod.fst = PodMetrics.groups.map Prod.fst)
    (made : inventory.customMetricsElement = .ok element) :
    element.names = metricSectionNames.map Name.text := by
  have ofGroups : (inventory.podMetrics.map fun pair => s!"k8s_pods_{pair.1}") =
      (inventory.podMetrics.map Prod.fst).map fun group => s!"k8s_pods_{group}" := by
    rw [List.map_map]
    rfl
  have start : Element.empty.names = ([] : List String).map Name.text := rfl
  rw [Element.names_foldlM_put start made, ofGroups, groups]
  rfl

end Inventory

/-! ## Groups -/

namespace Group

/-- Whether every host of a group has sections, and only sections of some names in their order. -/
def HasSections (group : Group) (names : List Name) : Prop :=
  ∀ pair ∈ group.elements.entries, pair.2.names ≠ [] ∧ pair.2.names.Sublist names

theorem HasSections.mono {group : Group} {names more : List Name} (sections : group.HasSections names)
    (longer : names.Sublist more) : group.HasSections more :=
  fun pair member => ⟨(sections pair member).1, (sections pair member).2.trans longer⟩

variable {group : Group} {name : Name} {earlier : List Name}

theorem names_elementAt (sections : group.HasSections (earlier ++ [name])) (host : Name) :
    (group.elementAt host).names.Sublist (earlier ++ [name]) := by
  unfold elementAt
  cases found : group.elements.get? host with
  | none => exact List.nil_sublist _
  | some element => exact (sections _ (Table.mem_entries_of_get? found)).2

/-- A section of the last name keeps the order, whether it is new to a host or not. -/
theorem HasSections.insert (sections : group.HasSections (earlier ++ [name])) (host : Name)
    (data : List (Name × Value)) :
    (group.insert host name data).state.HasSections (earlier ++ [name]) := by
  intro pair member
  rcases Table.mem_setEntry member with isGiven | held
  · rw [isGiven]
    dsimp only
    rw [Element.names_insert, withName]
    have before := names_elementAt sections host
    split
    · rename_i present
      exact ⟨List.ne_nil_of_mem present, before⟩
    · rename_i absent
      refine ⟨by simp, ?_⟩
      obtain ⟨init, last, split, initBefore, lastBefore⟩ := List.sublist_append_iff.1 before
      have noLast : last = [] := by
        rcases List.sublist_singleton.1 lastBefore with isNil | isName
        · exact isNil
        · exact absurd (by rw [split, isName]; simp) absent
      rw [split, noLast, List.append_nil]
      exact initBefore.append_right [name]
  · exact sections pair held

theorem HasSections.join (sections : group.HasSections (earlier ++ [name]))
    (pairs : List (Name × List (Name × Value))) :
    (group.join name pairs).state.HasSections (earlier ++ [name]) :=
  join_keeps (fun group => group.HasSections (earlier ++ [name]))
    (fun _ sections pair _ => sections.insert pair.1 pair.2) sections

/-- The hosts of a join that goes through: those that are there, and those that are given data. -/
theorem mem_hosts_join {pairs : List (Name × List (Name × Value))}
    (through : (group.join name pairs).fault = none) (host : Name) :
    host ∈ (group.join name pairs).state.hosts ↔
      host ∈ group.hosts ∨ host ∈ pairs.map Prod.fst := by
  induction pairs generalizing group with
  | nil => simp [join]
  | cons pair rest inductionHypothesis =>
    obtain ⟨given, data⟩ := pair
    unfold join at through ⊢
    dsimp only at through ⊢
    split at through
    · have inserted : host ∈ (group.insert given name data).state.hosts ↔
          host ∈ group.hosts ∨ host = given := by
        rw [insert, hosts, Table.keys_set]
        split
        · rename_i present
          exact ⟨.inl, fun either => either.elim id fun isGiven => isGiven ▸ present⟩
        · simp [hosts]
      rw [inductionHypothesis through, inserted, List.map_cons, List.mem_cons, or_assoc]
    · cases through

theorem join_of_put {group result : Group} {name : String} {data : Table Name Members}
    (put : group.put name data = .ok result) :
    (group.join name (data.map Members.named).entries).fault = none ∧
      (group.join name (data.map Members.named).entries).state = result := by
  have joined := Outcome.mapError_eq_ok.1 put
  unfold Attempt.toExcept at joined
  split at joined
  · rename_i through
    exact ⟨through, Except.ok.inj joined⟩
  · cases joined

theorem HasSections.put {group result : Group} {name : String} {data : Table Name Members}
    (sections : group.HasSections (earlier ++ [.text name]))
    (put : group.put name data = .ok result) : result.HasSections (earlier ++ [.text name]) := by
  rw [← (join_of_put put).2]
  exact sections.join _

theorem mem_hosts_put {group result : Group} {name : String} {data : Table Name Members}
    (put : group.put name data = .ok result) (host : Name) :
    host ∈ result.hosts ↔ host ∈ group.hosts ∨ host ∈ data.keys := by
  obtain ⟨through, isResult⟩ := join_of_put put
  rw [← isResult, mem_hosts_join through, data.map_fst_named]

end Group

/-! ## Hosts -/

theorem PodList.mem_of_perNode {α : Type} {view : List Pod → Except Failure α} {pods : List Pod}
    {table : Table Name α} (viewed : perNode view pods = .ok table) :
    ∀ host ∈ table.keys, host ∈ pods.filterMap Pod.node? := by
  intro host member
  rw [keys_perNode viewed, mem_hosts] at member
  exact List.mem_filterMap.2 member

theorem NodeList.mem_names_of_conditions {nodes : List SampledNode}
    {table : Table Name (List (String × Field))} (shown : conditions nodes = .ok table) :
    ∀ host ∈ table.keys, host ∈ Entity.names nodes := by
  unfold conditions at shown
  obtain ⟨entries, read, shown⟩ := Outcome.bind_eq_ok.1 shown
  cases shown
  have traversed := Outcome.mapError_eq_ok.1 read
  intro host member
  rw [Table.keys_ofList, List.mem_eraseDups, List.mem_map] at member
  obtain ⟨⟨name, held⟩, isEntry, rfl⟩ := member
  obtain ⟨entry, inEntries, isSome⟩ := List.mem_filterMap.1 isEntry
  obtain ⟨sampled, inNodes, stepped⟩ := Outcome.exists_of_mem_results traversed entry inEntries
  obtain ⟨shownConditions, _, isPair⟩ := Outcome.bind_eq_ok.1 stepped
  have entryEq := (Except.ok.inj isPair).trans isSome
  obtain ⟨given, named, withName⟩ := Option.bind_eq_some_iff.1 entryEq
  obtain ⟨_, _, samePair⟩ := Option.bind_eq_some_iff.1 withName
  cases samePair
  exact List.mem_filterMap.2 ⟨sampled, inNodes, named⟩

theorem NodeList.nodup_keys_conditions {nodes : List SampledNode}
    {table : Table Name (List (String × Field))} (shown : conditions nodes = .ok table) :
    table.keys.Nodup := by
  obtain ⟨entries, _, isTable⟩ := Outcome.bind_eq_ok.1 shown
  cases isTable
  exact Table.nodup_keys_ofList _

namespace Inventory

variable {inventory : Inventory}

/-- The names that a host can have: those of named nodes, and those that pods name as their node. -/
def hostNames (inventory : Inventory) : List Name :=
  Entity.names inventory.nodes ++ inventory.pods.filterMap Pod.node?

theorem isGiven_of_mem_hostNames {host : Name} (member : host ∈ inventory.hostNames) :
    host.isGiven := by
  have given {name : Name} (found : name.given? = some host) : host.isGiven := by
    unfold Name.given? at found
    split at found
    · rename_i isGiven
      exact Option.some.inj found ▸ isGiven
    · cases found
  rcases List.mem_append.1 member with isNode | isPlace
  · obtain ⟨_, _, named⟩ := List.mem_filterMap.1 isNode
    exact given named
  · obtain ⟨_, _, placed⟩ := List.mem_filterMap.1 isPlace
    exact given placed

/-- The sections of hosts, and what hosts there are. -/
theorem nodeGroup_hosts {group : Group} (made : inventory.nodeGroup = .ok group) :
    group.HasSections (nodeSections.map Name.text) ∧
      (∀ host ∈ group.hosts, host ∈ inventory.hostNames) ∧
        ∀ name ∈ Entity.names inventory.nodes, name ∈ group.hosts := by
  unfold nodeGroup at made
  obtain ⟨resources, read, made⟩ := Outcome.bind_eq_ok.1 made
  obtain ⟨offers, putOffers, made⟩ := Outcome.bind_eq_ok.1 made
  obtain ⟨podResources, readPods, made⟩ := Outcome.bind_eq_ok.1 made
  obtain ⟨asked, putAsked, made⟩ := Outcome.bind_eq_ok.1 made
  obtain ⟨podCounts, countPods, made⟩ := Outcome.bind_eq_ok.1 made
  obtain ⟨counted, putCounts, made⟩ := Outcome.bind_eq_ok.1 made
  obtain ⟨sampled, putSamples, made⟩ := Outcome.bind_eq_ok.1 made
  obtain ⟨conditions, readConditions, putConditions⟩ := Outcome.bind_eq_ok.1 made
  have start : Group.empty.HasSections ([] ++ [.text "k8s_resources"]) := by
    intro pair member
    cases member
  have withCounts := ((start.put putOffers).put putAsked).put putCounts
  have withSamples := (withCounts.mono (List.sublist_append_left _ [.text "k8s_stats"])).put
    putSamples
  have withConditions := (withSamples.mono (List.sublist_append_left _
    [.text "k8s_conditions"])).put putConditions
  have hosts (host : Name) : host ∈ group.hosts ↔
      ((((host ∈ Group.empty.hosts ∨ host ∈ resources.keys) ∨ host ∈ podResources.keys) ∨
        host ∈ podCounts.keys) ∨ host ∈ (NodeList.samples inventory.nodes).keys) ∨
          host ∈ conditions.keys := by
    rw [Group.mem_hosts_put putConditions, Group.mem_hosts_put putSamples,
      Group.mem_hosts_put putCounts, Group.mem_hosts_put putAsked, Group.mem_hosts_put putOffers]
    simp only [Table.keys_map]
  have resourceKeys : resources.keys = (Entity.names inventory.nodes).eraseDups :=
    Entity.keys_tryByName read
  refine ⟨withConditions, ?_, ?_⟩
  · intro host member
    unfold hostNames
    rw [List.mem_append]
    rcases (hosts host).1 member with
      ((((inEmpty | isNode) | isPlace) | isCounted) | isSampled) | hasConditions
    · cases inEmpty
    · rw [resourceKeys, List.mem_eraseDups] at isNode
      exact .inl isNode
    · exact .inr (PodList.mem_of_perNode readPods host isPlace)
    · exact .inr (PodList.mem_of_perNode countPods host isCounted)
    · rw [NodeList.samples, Entity.keys_byName, List.mem_eraseDups] at isSampled
      exact .inl isSampled
    · exact .inl (NodeList.mem_names_of_conditions readConditions host hasConditions)
  · intro name member
    have inResources : name ∈ resources.keys := by
      rw [resourceKeys, List.mem_eraseDups]
      exact member
    exact (hosts name).2 (.inl (.inl (.inl (.inl (.inr inResources)))))

end Inventory

end ClusterAgent
