import ClusterAgent.Proofs.Collection.Entities
import ClusterAgent.Proofs.Metrics.Queries

/-!
Contract: the outcome of a cycle, and the metric queries that it makes.

A list or a reply that does not arrive ends the cycle, and so does a group of
metrics that describe different objects. The failure of a metric query does not.

Owns: groups that can be merged, the stages of a cycle, its outcome.
Does not own: the sections made from what is collected.
-/

namespace ClusterAgent.Inventory

variable {logging : Logging} {source : Source} {namespaces : List String}

/-! ## Groups of metrics -/

/-- Whether every namespace answers the metrics of a group with aligned series. -/
def IsAlignedGroup (source : Source) (namespaces metrics : List String) : Prop :=
  ∀ name ∈ namespaces,
    MetricSeries.Aligned (PodMetrics.answers source (metrics.map .text) (.text name))

instance (source : Source) (namespaces metrics : List String) :
    Decidable (IsAlignedGroup source namespaces metrics) := by
  unfold IsAlignedGroup
  infer_instance

/-- The groups that are collected: those up to and including the first one that is not aligned. -/
def attempted (source : Source) (namespaces : List String) (groups : List (String × List String)) :
    List (String × List String) :=
  groups.takeWhile (IsAlignedGroup source namespaces ·.2) ++
    (groups.dropWhile (IsAlignedGroup source namespaces ·.2)).take 1

/-- Failures of metric queries can be told. -/
def MetricsTold (source : Source) : Prop :=
  ∀ namespaceName metric : String,
    Outcome.isTold (source.podMetric (.text namespaceName) (.text metric)).outcome

theorem outcome_collectGroup_texts (told : MetricsTold source) (metrics : List String) :
    (PodMetrics.collectGroup logging source (namespaces.map .text) (metrics.map .text)).outcome =
      PodMetrics.merge (PodMetrics.grouped source (namespaces.map .text) (metrics.map .text)) :=
  PodMetrics.outcome_collectGroup
    (PodMetrics.tellable_of_told fun name _ metric _ => told name metric)

theorem exists_collectGroup_ok (logging : Logging) (told : MetricsTold source)
    (metrics : List String) :
    (∃ merged, (PodMetrics.collectGroup logging source (namespaces.map .text)
        (metrics.map .text)).outcome = .ok merged) ↔
      IsAlignedGroup source namespaces metrics := by
  rw [outcome_collectGroup_texts told, PodMetrics.exists_merge_ok, List.forall_mem_map]
  rfl

theorem outcome_collectGroups_cons (names : List Name) (group : String) (metrics : List String)
    (rest : List (String × List String)) :
    (collectGroups logging source names ((group, metrics) :: rest)).outcome =
      (PodMetrics.collectGroup logging source names (metrics.map .text)).outcome >>= fun merged =>
        ((group, merged) :: ·) <$> (collectGroups logging source names rest).outcome := by
  rw [collectGroups]
  simp only [Journal.outcome_bind, Journal.outcome_pure]
  rfl

theorem exists_collectGroups_ok (logging : Logging) (told : MetricsTold source)
    (groups : List (String × List String)) :
    (∃ collected, (collectGroups logging source (namespaces.map .text) groups).outcome =
        .ok collected) ↔
      ∀ group ∈ groups, IsAlignedGroup source namespaces group.2 := by
  induction groups with
  | nil => simp [collectGroups]
  | cons first rest inductionHypothesis =>
    obtain ⟨group, metrics⟩ := first
    rw [outcome_collectGroups_cons, List.forall_mem_cons, ← inductionHypothesis,
      ← exists_collectGroup_ok logging told]
    cases (PodMetrics.collectGroup logging source (namespaces.map .text)
        (metrics.map .text)).outcome with
    | error failure => simp
    | ok merged => simp [Outcome.map_eq_ok]

/-- Groups that are not collected are refused for metrics of different objects. -/
theorem mismatch_of_collectGroups_error (told : MetricsTold source)
    {groups : List (String × List String)} {failure : Failure}
    (failed : (collectGroups logging source (namespaces.map .text) groups).outcome =
      .error failure) :
    ∃ one other, failure = .aggregation (.identityMismatch one other) := by
  induction groups with
  | nil => cases failed
  | cons first rest inductionHypothesis =>
    obtain ⟨group, metrics⟩ := first
    rw [outcome_collectGroups_cons] at failed
    cases merged : (PodMetrics.collectGroup logging source (namespaces.map .text)
        (metrics.map .text)).outcome with
    | error groupFailure =>
      rw [merged, Outcome.error_bind] at failed
      cases failed
      rw [outcome_collectGroup_texts told] at merged
      exact PodMetrics.mismatch_of_merge_error merged
    | ok table =>
      rw [merged, Outcome.ok_bind] at failed
      apply inductionHypothesis
      exact Outcome.map_eq_error.1 failed

/-- Groups that are collected are all there, in their order, each namespace once in each of them. -/
theorem of_collectGroups {names : List Name} {groups : List (String × List String)}
    {collected : List (String × Table Name MetricSeries)}
    (collectedOk : (collectGroups logging source names groups).outcome = .ok collected) :
    collected.map Prod.fst = groups.map Prod.fst ∧ ∀ pair ∈ collected, pair.2.keys.Nodup := by
  induction groups generalizing collected with
  | nil =>
    cases collectedOk
    exact ⟨rfl, by simp⟩
  | cons first rest inductionHypothesis =>
    obtain ⟨group, metrics⟩ := first
    rw [outcome_collectGroups_cons] at collectedOk
    obtain ⟨merged, mergedOk, restBound⟩ := Outcome.bind_eq_ok.1 collectedOk
    obtain ⟨others, othersOk, rfl⟩ := Outcome.map_eq_ok.1 restBound
    obtain ⟨sameGroups, othersDistinct⟩ := inductionHypothesis othersOk
    refine ⟨by rw [List.map_cons, List.map_cons, sameGroups], ?_⟩
    rw [List.forall_mem_cons]
    exact ⟨PodMetrics.nodup_keys_of_collectGroup mergedOk, othersDistinct⟩

/-- The queries of groups end with the first one that is not aligned. -/
theorem queries_collectGroups (told : MetricsTold source) (records : source.RecordsQueries)
    (groups : List (String × List String)) :
    (collectGroups logging source (namespaces.map .text) groups).queries =
      (attempted source namespaces groups).flatMap fun group =>
        PodMetrics.queriesOf namespaces group.2 := by
  induction groups with
  | nil => rfl
  | cons first rest inductionHypothesis =>
    obtain ⟨group, metrics⟩ := first
    rw [collectGroups, Journal.queries_bind, PodMetrics.queries_collectGroup records]
    by_cases aligned : IsAlignedGroup source namespaces metrics
    · obtain ⟨merged, mergedOk⟩ := (exists_collectGroup_ok logging told metrics).2 aligned
      have continued : attempted source namespaces ((group, metrics) :: rest) =
          (group, metrics) :: attempted source namespaces rest := by
        simp [attempted, aligned]
      rw [mergedOk, Outcome.following_ok, Journal.queries_bind, continued, List.flatMap_cons,
        ← inductionHypothesis]
      simp only [Journal.queries_pure, Outcome.following_nil, List.append_nil]
    · have stopped : attempted source namespaces ((group, metrics) :: rest) =
          [(group, metrics)] := by
        simp [attempted, aligned]
      obtain ⟨failure, failed⟩ := Outcome.exists_error_of_not_ok
        (mt (exists_collectGroup_ok logging told metrics).1 aligned)
      rw [failed, Outcome.following_error, stopped, List.flatMap_singleton, List.append_nil]

/-! ## The cycle -/

theorem queries_fetchLists (records : source.RecordsQueries) :
    (fetchLists source).run.queries = [] := by
  apply Call.queries_run_all
  intro call member
  obtain ⟨listing, _, rfl⟩ := List.mem_map.1 member
  exact records.list listing

theorem queries_fetchStats (records : source.RecordsQueries) (nodes : List (Name × Value)) :
    (fetchStats source nodes).run.queries = [] := by
  apply Call.queries_run_all
  intro call member
  obtain ⟨⟨name, item⟩, _, rfl⟩ := List.mem_map.1 member
  exact records.nodeStats name

section Cycles

variable [Platform]

theorem outcome_collect :
    (collect logging source).outcome = fetchEntities source >>= fun entities =>
      (Inventory.mk entities ·) <$>
        (collectGroups logging source (Entity.names entities.namespaces)
          PodMetrics.groups).outcome := by
  rw [collect]
  simp only [Journal.outcome_bind, Journal.outcome_log, Journal.outcome_ofExcept, Outcome.ok_bind,
    fetchEntities, bind_assoc]
  rfl

theorem queries_collect (records : source.RecordsQueries) :
    (collect logging source).queries =
      Outcome.following (fetchEntities source) fun entities =>
        (collectGroups logging source (Entity.names entities.namespaces)
          PodMetrics.groups).queries := by
  rw [collect]
  simp only [Journal.queries_bind, Journal.queries_log, Journal.outcome_log,
    Journal.queries_ofExcept, Journal.outcome_ofExcept, Journal.queries_pure,
    queries_fetchLists records, queries_fetchStats records, Outcome.following_ok,
    Outcome.following_nil, List.nil_append, List.append_nil, fetchEntities,
    Outcome.following_bind]
  rfl

/-- All that a cycle needs before it asks for metrics: every list, and statistics of every named
node from which a latest sample can be taken. -/
structure Arrives (source : Source) : Prop where
  lists : ∀ listing, ∃ reply, (source.list listing).outcome = .ok reply
  samples : ∀ name ∈ (source.itemsOf .nodes).filterMap declaredName?, HasSample source name

theorem exists_fetchEntities_iff_arrives (wellTyped : source.IsWellTyped) :
    (∃ entities, fetchEntities source = .ok entities) ↔ Arrives source := by
  rw [exists_fetchEntities_ok wellTyped]
  exact ⟨fun ⟨lists, samples⟩ => ⟨lists, samples⟩, fun arrives => ⟨arrives.lists, arrives.samples⟩⟩

def namespaceNames (source : Source) : List String :=
  (source.itemsOf .namespaces).filterMap declaredName?

theorem outcome_collect_of_arrives (logging : Logging) (wellTyped : source.IsWellTyped)
    (arrives : Arrives source) :
    ∃ entities : Entities, fetchEntities source = .ok entities ∧
      (collect logging source).outcome = (Inventory.mk entities ·) <$>
        (collectGroups logging source ((namespaceNames source).map .text)
          PodMetrics.groups).outcome := by
  obtain ⟨entities, fetched⟩ := (exists_fetchEntities_iff_arrives wellTyped).2 arrives
  obtain ⟨_, namespacesNamed, _⟩ := of_fetchEntities wellTyped fetched
  refine ⟨entities, fetched, ?_⟩
  rw [outcome_collect, fetched, Outcome.ok_bind, namespacesNamed]
  rfl

theorem arrives_of_collect (wellTyped : source.IsWellTyped) {inventory : Inventory}
    (collected : (collect logging source).outcome = .ok inventory) : Arrives source := by
  rw [outcome_collect] at collected
  obtain ⟨entities, fetched, _⟩ := Outcome.bind_eq_ok.1 collected
  exact (exists_fetchEntities_iff_arrives wellTyped).1 ⟨entities, fetched⟩

theorem exists_collect_ok (logging : Logging) (wellTyped : source.IsWellTyped)
    (told : MetricsTold source) :
    (∃ inventory, (collect logging source).outcome = .ok inventory) ↔
      Arrives source ∧
        ∀ group ∈ PodMetrics.groups, IsAlignedGroup source (namespaceNames source) group.2 := by
  rw [← exists_collectGroups_ok logging told]
  constructor
  · rintro ⟨inventory, collected⟩
    have arrives := arrives_of_collect wellTyped collected
    obtain ⟨entities, _, outcomeEq⟩ := outcome_collect_of_arrives logging wellTyped arrives
    obtain ⟨podMetrics, groupsOk, _⟩ := Outcome.map_eq_ok.1 (outcomeEq.symm.trans collected)
    exact ⟨arrives, podMetrics, groupsOk⟩
  · rintro ⟨arrives, podMetrics, groupsOk⟩
    obtain ⟨entities, _, outcomeEq⟩ := outcome_collect_of_arrives logging wellTyped arrives
    rw [outcomeEq, groupsOk]
    exact ⟨_, rfl⟩

theorem mismatch_of_collect_error (wellTyped : source.IsWellTyped) (told : MetricsTold source)
    (arrives : Arrives source) {failure : Failure}
    (failed : (collect logging source).outcome = .error failure) :
    ∃ one other, failure = .aggregation (.identityMismatch one other) := by
  obtain ⟨entities, _, outcomeEq⟩ := outcome_collect_of_arrives logging wellTyped arrives
  apply mismatch_of_collectGroups_error told
  exact Outcome.map_eq_error.1 (outcomeEq.symm.trans failed)

/-- What a cycle has collected: typed entities, and the named nodes in list order. -/
theorem entities_of_collect (wellTyped : source.IsWellTyped) {inventory : Inventory}
    (collected : (collect logging source).outcome = .ok inventory) :
    inventory.toEntities.IsTyped ∧
      List.Forall₂ (fun pair sampled => IsSampledFrom source pair.1 pair.2 sampled)
        (namedItems (source.itemsOf .nodes)) inventory.nodes := by
  rw [outcome_collect] at collected
  obtain ⟨entities, fetched, mapped⟩ := Outcome.bind_eq_ok.1 collected
  obtain ⟨podMetrics, _, rfl⟩ := Outcome.map_eq_ok.1 mapped
  obtain ⟨typed, _, paired⟩ := of_fetchEntities wellTyped fetched
  exact ⟨typed, paired⟩

theorem podMetrics_of_collect {inventory : Inventory}
    (collected : (collect logging source).outcome = .ok inventory) :
    inventory.podMetrics.map Prod.fst = PodMetrics.groups.map Prod.fst ∧
      ∀ pair ∈ inventory.podMetrics, pair.2.keys.Nodup := by
  rw [outcome_collect] at collected
  obtain ⟨entities, _, mapped⟩ := Outcome.bind_eq_ok.1 collected
  obtain ⟨podMetrics, groupsOk, rfl⟩ := Outcome.map_eq_ok.1 mapped
  exact of_collectGroups groupsOk

theorem queries_collect_of_not_arrives (wellTyped : source.IsWellTyped)
    (records : source.RecordsQueries) (missing : ¬ Arrives source) :
    (collect logging source).queries = [] := by
  obtain ⟨failure, failed⟩ := Outcome.exists_error_of_not_ok
    (mt (exists_fetchEntities_iff_arrives wellTyped).1 missing)
  rw [queries_collect records, failed, Outcome.following_error]

theorem queries_collect_of_arrives (wellTyped : source.IsWellTyped) (told : MetricsTold source)
    (records : source.RecordsQueries) (arrives : Arrives source) :
    (collect logging source).queries =
      (attempted source (namespaceNames source) PodMetrics.groups).flatMap fun group =>
        PodMetrics.queriesOf (namespaceNames source) group.2 := by
  obtain ⟨entities, fetched⟩ := (exists_fetchEntities_iff_arrives wellTyped).2 arrives
  obtain ⟨_, namespacesNamed, _⟩ := of_fetchEntities wellTyped fetched
  rw [queries_collect records, fetched, Outcome.following_ok, namespacesNamed]
  exact queries_collectGroups told records PodMetrics.groups

/-- A cycle over a well-typed cluster succeeds exactly if everything arrives that it needs and every
group of metrics is aligned in every namespace. If everything arrives, only metrics of different
objects end it. Every named node then goes with the reply requested under its own name. Metrics are
asked for only if everything arrives, group by group up to the first that is not aligned. -/
theorem collect_succeeds_iff_arrives_aligned (logging : Logging) (cluster : Cluster)
    (wellTyped : (Source.ofCluster cluster).IsWellTyped)
    (told : MetricsTold (Source.ofCluster cluster)) :
    let source := Source.ofCluster cluster
    let cycle := collect logging source
    ((∃ inventory, cycle.outcome = .ok inventory) ↔
        Arrives source ∧
          ∀ group ∈ PodMetrics.groups, IsAlignedGroup source (namespaceNames source) group.2) ∧
      (∀ failure, Arrives source → cycle.outcome = .error failure →
        ∃ one other, failure = .aggregation (.identityMismatch one other)) ∧
      (∀ inventory, cycle.outcome = .ok inventory →
        List.Forall₂ (fun pair sampled => IsSampledFrom source pair.1 pair.2 sampled)
          (namedItems (source.itemsOf .nodes)) inventory.nodes) ∧
      (¬ Arrives source → metricQueries cycle.events = []) ∧
      (Arrives source → metricQueries cycle.events =
        (attempted source (namespaceNames source) PodMetrics.groups).flatMap fun group =>
          PodMetrics.queriesOf (namespaceNames source) group.2) := by
  intro source cycle
  have records : source.RecordsQueries := Source.recordsQueries_ofCluster cluster
  refine ⟨exists_collect_ok logging wellTyped told, ?_, ?_, ?_, ?_⟩
  · intro failure arrives failed
    exact mismatch_of_collect_error wellTyped told arrives failed
  · intro inventory collected
    exact (entities_of_collect wellTyped collected).2
  · intro missing
    exact queries_collect_of_not_arrives wellTyped records missing
  · intro arrives
    exact queries_collect_of_arrives wellTyped told records arrives

end Cycles

def itemNamed (name : String) : Value := .object [("metadata", .object [("name", .text name)])]

def statsAt (timestamp : String) : Value :=
  .object [("stats", .list [.object [("timestamp", .text timestamp)]])]

/-- A cluster with a node that has no name between two that have one, and with a namespace that
answers two metrics of one group and no other metric. -/
def unevenCluster : Cluster where
  list := fun
    | .nodes => .ok (.list [itemNamed "first", .object [], itemNamed "last"])
    | .namespaces => .ok (.list [itemNamed "apps", itemNamed "jobs"])
    | _ => .ok (.list [])
  nodeStats := fun
    | "first" => .ok (statsAt "2024-01-01T00:00:00Z")
    | "last" => .ok (statsAt "2024-01-01T00:00:10.5Z")
    | _ => .error (.value .null)
  podMetric := fun
    | "apps", "fs_reads" => .ok (PodMetrics.bodyOfPods ["web", "worker"])
    | "apps", "fs_writes" => .ok (PodMetrics.bodyOfPods ["web"])
    | _, _ => .error (.value (.text "down"))

theorem isWellTyped_unevenCluster : (Source.ofCluster unevenCluster).IsWellTyped := by
  intro listing reply arrived
  cases listing <;> cases arrived <;> exact ⟨_, rfl, by decide⟩

section Universal

attribute [local instance] Platform.universal

theorem arrives_unevenCluster : Arrives (.ofCluster unevenCluster) where
  lists listing := by cases listing <;> exact ⟨_, rfl⟩
  samples := by
    have named : ((Source.ofCluster unevenCluster).itemsOf .nodes).filterMap declaredName? =
        ["first", "last"] := by decide
    rw [named]
    simp only [List.forall_mem_cons]
    exact ⟨⟨_, _, rfl, rfl⟩, ⟨_, _, rfl, rfl⟩, by simp⟩

theorem metricsTold_unevenCluster : MetricsTold (.ofCluster unevenCluster) := by
  intro namespaceName metric
  have answered : ((Source.ofCluster unevenCluster).podMetric (.text namespaceName)
      (.text metric)).outcome = unevenCluster.podMetric namespaceName metric := by
    simp [Source.ofCluster, Call.after, Cluster.metricOf, Name.told, requireText]
  rw [answered]
  simp only [unevenCluster]
  split <;> rfl

theorem collect_succeeds_of_unevenCluster :
    (Source.ofCluster unevenCluster).IsWellTyped ∧ MetricsTold (.ofCluster unevenCluster) ∧
      ∃ inventory,
        (collect .kept (.ofCluster unevenCluster)).outcome = .ok inventory ∧
        inventory.nodes.map Entity.name? = [some (.text "first"), some (.text "last")] ∧
        (metricQueries (collect .kept (.ofCluster unevenCluster)).events).length = 24 := by
  have wellTyped := isWellTyped_unevenCluster
  have told := metricsTold_unevenCluster
  have arrives := arrives_unevenCluster
  obtain ⟨succeeds, _, paired, _, queries⟩ :=
    collect_succeeds_iff_arrives_aligned .kept unevenCluster wellTyped told
  obtain ⟨inventory, collected⟩ := succeeds.2 ⟨arrives, by decide⟩
  have pairs : namedItems ((Source.ofCluster unevenCluster).itemsOf .nodes) =
      [("first", itemNamed "first"), ("last", itemNamed "last")] := rfl
  have nodesPaired := paired inventory collected
  rw [pairs] at nodesPaired
  refine ⟨wellTyped, told, inventory, collected, ?_, ?_⟩
  · generalize inventory.nodes = nodes at nodesPaired
    cases nodesPaired with
    | cons first rest =>
      cases rest with
      | cons last none =>
        cases none
        rw [List.map_cons, first.named, List.map_singleton, last.named]
  · rw [queries arrives]
    decide

end Universal

end ClusterAgent.Inventory
