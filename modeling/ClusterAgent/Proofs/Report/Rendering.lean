import ClusterAgent.Proofs.Report.ClusterSections
import ClusterAgent.Proofs.Report.Hosts

/-!
Contract: when a report renders, and how it fails otherwise.

Once there is a first block, there are the other two: the sections of nodes read
nothing that the sections about the cluster have not accepted, and the groups of
metrics have names and namespaces that are all distinct.

Owns: the outcome of each block and of the whole report.
Does not own: the text of a block.
-/

namespace ClusterAgent

theorem allComplete_of_forall {ε : Type} [Entity ε] [HasRequired ε] {entities : List ε}
    (complete : ∀ entity ∈ entities, HasRequired.isComplete entity) : allComplete entities := by
  rw [allComplete, List.all_eq_true]
  intro isComplete member
  obtain ⟨entity, inEntities, rfl⟩ := Entity.exists_of_mem_values_byName member
  exact complete entity inEntities

theorem Node.statusesDeclared_of_conditionEntries? {node : Node} (typed : node.IsTyped)
    {entries : List (String × Field)} (shown : node.conditionEntries? = some entries) :
    NodeList.statusesDeclared entries := by
  obtain ⟨conditions, known, conditionsTyped⟩ := typed.conditions
  unfold conditionEntries? at shown
  split at shown
  · cases shown
    rw [NodeList.statusesDeclared, List.all_eq_true, knownConditions, known]
    rintro ⟨kind, status⟩ member
    obtain ⟨condition, isCondition, isEntry⟩ := List.mem_map.1 (Members.mem_ofList member)
    cases isEntry
    exact (conditionsTyped condition isCondition).status
  · cases shown

namespace Inventory

variable {inventory : Inventory}

/-! ## The blocks -/

/-- What the sections about the cluster show of typed entities is declared. -/
theorem clusterLines_eq (typed : inventory.toEntities.IsTyped) :
    inventory.clusterLines = Element.lines <$> inventory.clusterElement := by
  have complete : inventory.clusterComplete := by
    rw [clusterComplete, Bool.and_eq_true, Bool.and_eq_true]
    exact ⟨⟨allComplete_of_forall typed.componentStatuses,
      allComplete_of_forall typed.persistentVolumeClaims⟩,
      allComplete_of_forall typed.storageClasses⟩
  rw [clusterLines, complete]
  rfl

theorem exists_text_of_host (typed : inventory.toEntities.IsTyped) {host : Name}
    (isHost : host ∈ Entity.names inventory.nodes ∨ host ∈ PodList.hosts inventory.pods) :
    ∃ text, host = .text text := by
  rcases isHost with listed | mentioned
  · obtain ⟨sampled, member, named⟩ := List.mem_filterMap.1 listed
    obtain ⟨text, isText⟩ := (typed.nodes sampled member).named
    rw [isText] at named
    exact ⟨text, (Option.some.inj named).symm⟩
  · exact PodList.exists_text_of_mem_hosts typed.pods mentioned

theorem requireHost_eq_ok (typed : inventory.toEntities.IsTyped) {host : Name}
    (isHost : host ∈ Entity.names inventory.nodes ∨ host ∈ PodList.hosts inventory.pods) :
    requireHost (NodeList.knownConditions inventory.nodes) host = .ok () := by
  have declared : ((NodeList.knownConditions inventory.nodes).get? host).all
      NodeList.statusesDeclared := by
    rw [NodeList.knownConditions, Entity.get?_ofList_viewed, Option.all_eq_true]
    intro entries shown
    obtain ⟨sampled, isLast, found⟩ := Option.bind_eq_some_iff.1 shown
    obtain ⟨member, _⟩ := Entity.lastOf?_eq_some isLast
    exact Node.statusesDeclared_of_conditionEntries? (typed.nodes sampled member).node found
  obtain ⟨text, rfl⟩ := exists_text_of_host typed isHost
  rw [requireHost, declared]
  rfl

/-- Well-formed quantities of nodes and pods are all that the sections of nodes need. -/
theorem exists_nodeLines (typed : inventory.toEntities.IsTyped)
    (nodesAccepted : inventory.NodesAccepted) (podsAccepted : inventory.PodsAccepted) :
    ∃ lines, inventory.nodeLines = .ok lines := by
  obtain ⟨group, grouped, hosts, _⟩ :=
    exists_nodeGroup typed (nodesAccepted.accepted typed) podsAccepted
  have checked :
      group.hosts.forM (requireHost (NodeList.knownConditions inventory.nodes)) = .ok () := by
    apply Outcome.forM_eq_ok
    intro host member
    apply requireHost_eq_ok typed
    rw [hosts, List.mem_append, List.mem_eraseDups, List.mem_filter] at member
    exact member.imp_right And.left
  refine ⟨group.lines, ?_⟩
  rw [nodeLines, grouped, Outcome.ok_bind, NodeList.conditions_eq typed.nodes, Outcome.ok_bind,
    checked]
  rfl

def metricSections (inventory : Inventory) : List (String × List (Name × Value)) :=
  inventory.podMetrics.map fun (group, metrics) =>
    (s!"k8s_pods_{group}", (metrics.map MetricSeries.view).entries)

theorem exists_customMetricsLines
    (groups : inventory.podMetrics.map Prod.fst = PodMetrics.groups.map Prod.fst)
    (distinct : ∀ pair ∈ inventory.podMetrics, pair.2.keys.Nodup) :
    ∃ lines, inventory.customMetricsLines = .ok lines := by
  have elementEq : inventory.customMetricsElement =
      (Element.ofContents []).putAll inventory.metricSections := by
    rw [customMetricsElement, Element.putAll, metricSections, List.foldlM_map]
    rfl
  have namesEq : (inventory.metricSections.map fun pair => Name.text pair.1) =
      (PodMetrics.groups.map Prod.fst).map fun group => Name.text s!"k8s_pods_{group}" := by
    rw [← groups, metricSections, List.map_map, List.map_map]
    rfl
  have namesDistinct : (([] : List (Name × List (Name × Value))).map Prod.fst ++
      inventory.metricSections.map fun pair => Name.text pair.1).Nodup := by
    rw [namesEq]
    decide
  have keysDistinct : ∀ pair ∈ inventory.metricSections, (pair.2.map Prod.fst).Nodup := by
    rw [metricSections, List.forall_mem_map]
    rintro ⟨group, metrics⟩ member
    show (metrics.map MetricSeries.view).keys.Nodup
    rw [Table.keys_map]
    exact distinct (group, metrics) member
  rw [customMetricsLines, elementEq, Element.putAll_of_absent namesDistinct keysDistinct]
  exact ⟨_, rfl⟩

/-! ## The report -/

theorem outcome_report (inventory : Inventory) (logging : Logging) :
    (inventory.report logging).outcome =
      inventory.clusterLines >>= fun cluster =>
        inventory.nodeLines >>= fun nodes =>
          inventory.customMetricsLines >>= fun metrics =>
            .ok [block cluster, block nodes, block metrics] := by
  rw [report]
  simp only [Journal.outcome_bind, Journal.outcome_log, Journal.outcome_ofExcept, Outcome.ok_bind]
  rfl

/-- A report is rendered as its three blocks. -/
theorem outcome_report_eq_ok {inventory : Inventory} {logging : Logging} {blocks : List String} :
    (inventory.report logging).outcome = .ok blocks ↔
      ∃ cluster nodes metrics, inventory.clusterLines = .ok cluster ∧
        inventory.nodeLines = .ok nodes ∧ inventory.customMetricsLines = .ok metrics ∧
        [block cluster, block nodes, block metrics] = blocks := by
  rw [outcome_report]
  simp only [Outcome.bind_eq_ok, Except.ok.injEq]
  constructor
  · rintro ⟨cluster, clusterMade, nodes, nodesMade, metrics, metricsMade, isReport⟩
    exact ⟨cluster, nodes, metrics, clusterMade, nodesMade, metricsMade, isReport⟩
  · rintro ⟨cluster, nodes, metrics, clusterMade, nodesMade, metricsMade, isReport⟩
    exact ⟨cluster, clusterMade, nodes, nodesMade, metrics, metricsMade, isReport⟩

/-- There is a node whose name is not empty. -/
def HasNamedNode (inventory : Inventory) : Prop :=
  ∃ sampled ∈ inventory.nodes, ∃ name, name ≠ "" ∧ Entity.name? sampled = some (.text name)

theorem hasNamedNode_iff (typed : inventory.toEntities.IsTyped) :
    inventory.HasNamedNode ↔ Entity.names inventory.nodes ≠ [] := by
  constructor
  · rintro ⟨sampled, member, name, _, named⟩
    exact List.ne_nil_of_mem (List.mem_filterMap.2 ⟨sampled, member, named⟩)
  · intro nonempty
    obtain ⟨given, isName⟩ := List.exists_mem_of_ne_nil _ nonempty
    obtain ⟨sampled, member, _⟩ := List.mem_filterMap.1 isName
    obtain ⟨name, named⟩ := (typed.nodes sampled member).named
    refine ⟨sampled, member, name, ?_, named⟩
    rintro rfl
    unfold Entity.name? Name.given? at named
    split at named
    · rename_i isGiven
      rw [Option.some.inj named] at isGiven
      exact absurd isGiven (by decide)
    · cases named

/-- Every quantity that a report reads is well formed. -/
structure IsAccepted (inventory : Inventory) : Prop where
  volumes : inventory.VolumesAccepted
  nodes : inventory.NodesAccepted
  pods : inventory.PodsAccepted

/-- Whoever has made the sections about the cluster can make the others. -/
theorem exists_nodeLines_of_clusterLines (typed : inventory.toEntities.IsTyped)
    (named : inventory.HasNamedNode) {cluster : List String}
    (clusterOk : inventory.clusterLines = .ok cluster) :
    ∃ lines, inventory.nodeLines = .ok lines := by
  have reads := reads_clusterElement typed ((hasNamedNode_iff typed).1 named)
  rw [clusterLines_eq typed] at clusterOk
  obtain ⟨_, nodesAccepted, podsAccepted⟩ := (reads.map Element.lines).accepted_of_ok clusterOk
  exact exists_nodeLines typed nodesAccepted podsAccepted

/-- With a named node, only a malformed quantity stops a report. -/
theorem reads_report (typed : inventory.toEntities.IsTyped) (named : inventory.HasNamedNode)
    (metrics : ∃ lines, inventory.customMetricsLines = .ok lines) (logging : Logging) :
    Reads inventory.IsAccepted (inventory.report logging).outcome := by
  obtain ⟨metricLines, metricsOk⟩ := metrics
  have readsCluster : Reads (inventory.VolumesAccepted ∧ inventory.NodesAccepted ∧
      inventory.PodsAccepted) inventory.clusterLines := by
    rw [clusterLines_eq typed]
    exact (reads_clusterElement typed ((hasNamedNode_iff typed).1 named)).map Element.lines
  have readsOthers : ∀ cluster, inventory.clusterLines = .ok cluster →
      Reads True (inventory.nodeLines >>= fun nodes =>
        inventory.customMetricsLines >>= fun metrics =>
          .ok [block cluster, block nodes, block metrics]) := by
    intro cluster clusterOk
    obtain ⟨nodeLines, nodesOk⟩ := exists_nodeLines_of_clusterLines typed named clusterOk
    rw [nodesOk, Outcome.ok_bind, metricsOk, Outcome.ok_bind]
    exact Reads.ok _
  rw [outcome_report]
  refine (readsCluster.bind readsOthers).congr ?_
  constructor
  · rintro ⟨⟨volumes, nodes, pods⟩, _⟩
    exact ⟨volumes, nodes, pods⟩
  · intro accepted
    exact ⟨⟨accepted.volumes, accepted.nodes, accepted.pods⟩, trivial⟩

/-- Without a named node the sections about the cluster fail, for a malformed capacity of a volume
if there is one. -/
theorem exists_failure_of_nameless (typed : inventory.toEntities.IsTyped)
    (nameless : ¬ inventory.HasNamedNode) :
    ∃ failure, inventory.clusterLines = .error failure ∧
      (inventory.VolumesAccepted →
        failure = .aggregation (.emptyAggregation "node resources")) ∧
      (¬ inventory.VolumesAccepted →
        ∃ quantity, failure = .aggregation (.malformedQuantity quantity)) := by
  have noNames : Entity.names inventory.nodes = [] := by
    by_contra named
    exact nameless ((hasNamedNode_iff typed).2 named)
  rw [clusterLines_eq typed]
  by_cases accepted : inventory.VolumesAccepted
  · rw [clusterElement_of_nameless typed noNames accepted]
    exact ⟨_, rfl, fun _ => rfl, fun refused => absurd accepted refused⟩
  · obtain ⟨quantity, failed⟩ := clusterElement_of_malformed_volume typed accepted
    rw [failed]
    exact ⟨_, rfl, fun isAccepted => absurd isAccepted accepted, fun _ => ⟨quantity, rfl⟩⟩

theorem outcome_report_of_error {failure : Failure}
    (failed : inventory.clusterLines = .error failure) (logging : Logging) :
    (inventory.report logging).outcome = .error failure := by
  rw [outcome_report, failed, Outcome.error_bind]

/-- The report of a cycle over a well-typed source renders exactly if there is a named node and
every quantity that is read is well formed. Otherwise there is nothing to sum up, if there is no named
node and no named volume has a malformed capacity, or else a quantity is malformed; nothing else can
go wrong. Once there are sections about the cluster, there are all others. -/
theorem report_succeeds_iff_named_accepted [Platform] (collecting reporting : Logging)
    (source : Source) (wellTyped : source.IsWellTyped) (inventory : Inventory)
    (collected : (collect collecting source).outcome = .ok inventory) :
    ((∃ blocks, (inventory.report reporting).outcome = .ok blocks) ↔
        inventory.HasNamedNode ∧ inventory.IsAccepted) ∧
      (∀ failure, (inventory.report reporting).outcome = .error failure →
        (¬ inventory.HasNamedNode ∧ inventory.VolumesAccepted →
          failure = .aggregation (.emptyAggregation "node resources")) ∧
        (¬ (¬ inventory.HasNamedNode ∧ inventory.VolumesAccepted) →
          ∃ quantity, failure = .aggregation (.malformedQuantity quantity))) ∧
      ((∃ lines, inventory.clusterLines = .ok lines) →
        (∃ lines, inventory.nodeLines = .ok lines) ∧
          ∃ lines, inventory.customMetricsLines = .ok lines) := by
  have typed := (entities_of_collect wellTyped collected).1
  obtain ⟨groups, distinct⟩ := podMetrics_of_collect collected
  have metrics := exists_customMetricsLines groups distinct
  by_cases named : inventory.HasNamedNode
  · have reads := reads_report typed named metrics reporting
    refine ⟨⟨?_, ?_⟩, ?_, ?_⟩
    · rintro ⟨blocks, rendered⟩
      exact ⟨named, reads.accepted_of_ok rendered⟩
    · rintro ⟨_, accepted⟩
      exact reads.succeeds accepted
    · intro failure failed
      have refused : ¬ inventory.IsAccepted := by
        intro accepted
        obtain ⟨blocks, rendered⟩ := reads.succeeds accepted
        cases rendered.symm.trans failed
      obtain ⟨quantity, malformed⟩ := reads.refuses refused
      refine ⟨fun nameless => absurd named nameless.1, fun _ => ⟨quantity, ?_⟩⟩
      exact Except.error.inj (failed.symm.trans malformed)
    · rintro ⟨cluster, clusterOk⟩
      exact ⟨exists_nodeLines_of_clusterLines typed named clusterOk, metrics⟩
  · obtain ⟨failure, clusterFailed, empty, malformed⟩ := exists_failure_of_nameless typed named
    have reportFailed := outcome_report_of_error clusterFailed reporting
    refine ⟨⟨?_, ?_⟩, ?_, ?_⟩
    · rintro ⟨blocks, rendered⟩
      cases rendered.symm.trans reportFailed
    · rintro ⟨isNamed, _⟩
      exact absurd isNamed named
    · intro other failed
      rw [← Except.error.inj (reportFailed.symm.trans failed)]
      exact ⟨fun both => empty both.2, fun notBoth => malformed (not_and.1 notBoth named)⟩
    · rintro ⟨cluster, clusterOk⟩
      cases clusterOk.symm.trans clusterFailed

/-- A cluster with a node that has no name, and with a volume of a well-formed capacity. -/
def namelessCluster : Cluster where
  list := fun
    | .nodes => .ok (.list [nodeWith "" "1" []])
    | .persistentVolumes => .ok (.list [.object [("metadata", .object [("name", .text "volume")]),
        ("spec", .object [("capacity", .object [("storage", .text "1Gi")])])]])
    | _ => .ok (.list [])
  nodeStats := fun _ => .error (.value .null)
  podMetric := fun _ _ => .error (.value .null)

theorem isWellTyped_namelessCluster : (Source.ofCluster namelessCluster).IsWellTyped := by
  intro listing reply arrived
  cases listing <;> cases arrived <;> exact ⟨_, rfl, by decide⟩

section Universal

attribute [local instance] Platform.universal

theorem collect_namelessCluster :
    (collect .omitted (.ofCluster namelessCluster)).outcome =
      .ok (collectedFrom namelessCluster) :=
  Outcome.eq_ok_known ⟨_, rfl⟩ _

theorem report_succeeds_iff_named_accepted_of_clusters :
    (Source.ofCluster crowdedCluster).IsWellTyped ∧
      (collect .omitted (.ofCluster crowdedCluster)).outcome =
        .ok (collectedFrom crowdedCluster) ∧
      (∃ blocks, ((collectedFrom crowdedCluster).report .kept).outcome = .ok blocks) ∧
      (Source.ofCluster namelessCluster).IsWellTyped ∧
      (collect .omitted (.ofCluster namelessCluster)).outcome =
        .ok (collectedFrom namelessCluster) ∧
      ((collectedFrom namelessCluster).report .kept).outcome =
        .error (.aggregation (.emptyAggregation "node resources")) := by
  have crowdedTyped := (entities_of_collect isWellTyped_crowdedCluster collect_crowdedCluster).1
  have namelessTyped := (entities_of_collect isWellTyped_namelessCluster collect_namelessCluster).1
  obtain ⟨renders, _, _⟩ := report_succeeds_iff_named_accepted .omitted .kept
    (.ofCluster crowdedCluster) isWellTyped_crowdedCluster (collectedFrom crowdedCluster)
    collect_crowdedCluster
  obtain ⟨succeeds, fails, _⟩ := report_succeeds_iff_named_accepted .omitted .kept
    (.ofCluster namelessCluster) isWellTyped_namelessCluster (collectedFrom namelessCluster)
    collect_namelessCluster
  refine ⟨isWellTyped_crowdedCluster, collect_crowdedCluster, renders.2 ⟨?_, ?_⟩,
    isWellTyped_namelessCluster, collect_namelessCluster, ?_⟩
  · rw [hasNamedNode_iff crowdedTyped]
    have names : Entity.names (collectedFrom crowdedCluster).nodes =
        [.text "b", .text "a", .text "b"] := rfl
    rw [names]
    decide
  · exact {
      volumes := (reads_volumes crowdedTyped).accepted_of_ok rfl
      nodes := (NodeList.reads_resources crowdedTyped.nodes).accepted_of_ok rfl
      pods := (PodList.reads_totalResources crowdedTyped.pods).accepted_of_ok rfl }
  · have nameless : ¬ (collectedFrom namelessCluster).HasNamedNode := by
      rw [hasNamedNode_iff namelessTyped]
      have names : Entity.names (collectedFrom namelessCluster).nodes = [] := rfl
      rw [names]
      decide
    have volumes : (collectedFrom namelessCluster).VolumesAccepted :=
      (reads_volumes namelessTyped).accepted_of_ok rfl
    obtain ⟨failure, failed⟩ := Outcome.exists_error_of_not_ok fun rendered =>
      nameless (succeeds.1 rendered).1
    rw [failed, (fails failure failed).1 ⟨nameless, volumes⟩]

end Universal

end Inventory

end ClusterAgent
