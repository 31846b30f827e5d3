import ClusterAgent.Proofs.Collection.Runs
import ClusterAgent.Proofs.Metrics.Grouping

/-!
Contract: the queries that collecting metrics makes.

A group asks every namespace for every metric, metric by metric. The groups are
collected one after the other, up to and including the first one that cannot be
merged.

Owns: sources that record their queries, the queries of a group and of groups.
Does not own: what the answers are merged into.
-/

namespace ClusterAgent

/-- A source whose calls record the metric queries that they make, and no others. -/
structure Source.RecordsQueries (source : Source) : Prop where
  list : ∀ listing, (source.list listing).IsPlain
  nodeStats : ∀ node, (source.nodeStats node).IsPlain
  started : ∀ namespaceName metric : String,
    metricQueries (source.podMetric (.text namespaceName) (.text metric)).started =
      [(namespaceName, metric)]
  settled : ∀ namespaceName metric,
    metricQueries (source.podMetric namespaceName metric).settled = []

theorem Source.recordsQueries_ofCluster (cluster : Cluster) :
    (Source.ofCluster cluster).RecordsQueries where
  list _ := ⟨rfl, rfl⟩
  nodeStats _ := ⟨rfl, rfl⟩
  started namespaceName metric := by
    simp [ofCluster, Call.after, queryEvents, metricQueries]
  settled _ _ := rfl

namespace PodMetrics

variable {logging : Logging} {source : Source}

theorem queries_reported (metric : Name) (query : Query) :
    metricQueries (query.reported logging metric) = [] := by
  unfold Query.reported
  cases handled : query.handle logging metric with
  | error cause => rfl
  | ok events =>
    change metricQueries events = []
    unfold Query.handle at handled
    split at handled
    · cases handled
      rfl
    · obtain ⟨error, _, recorded⟩ := Outcome.bind_eq_ok.1 handled
      exact metricQueries_record recorded

/-- A metric is queried in all namespaces when its round starts, and not after that. -/
theorem queries_round (logging : Logging) (records : source.RecordsQueries)
    (namespaces : List Name) (metric : Name) :
    let round := round logging source namespaces metric
    metricQueries round.settled = [] ∧ metricQueries round.reported = [] := by
  unfold round
  cases logging.record (announcement metric) with
  | error cause => exact ⟨rfl, rfl⟩
  | ok announced =>
    constructor
    · rw [metricQueries_flatMap, List.flatMap_eq_nil_iff]
      intro query member
      obtain ⟨namespaceName, _, rfl⟩ := List.mem_map.1 member
      have settledPlain := records.settled namespaceName metric
      rw [Query.settled, metricQueries_append]
      split
      · exact List.append_eq_nil_iff.2 ⟨settledPlain, rfl⟩
      · exact List.append_eq_nil_iff.2 ⟨settledPlain, queries_reported _ _⟩
    · rw [metricQueries_flatMap, List.flatMap_eq_nil_iff]
      intro query _
      exact queries_reported _ query

/-- A group makes its queries when its rounds start. -/
theorem queries_collectGroup_started (records : source.RecordsQueries)
    (namespaces metrics : List Name) :
    (collectGroup logging source namespaces metrics).queries =
      metrics.flatMap fun metric =>
        metricQueries (round logging source namespaces metric).started := by
  change metricQueries (Round.events _) = _
  have later := queries_round logging records namespaces
  rw [Round.events, metricQueries_append, metricQueries_append, metricQueries_flatMap,
    metricQueries_flatMap, metricQueries_flatMap, List.flatMap_map, List.flatMap_map,
    List.flatMap_map]
  simp only [(later _).1, (later _).2]
  simp

theorem queries_round_started (logging : Logging) (records : source.RecordsQueries)
    (namespaces : List String) (metric : String) :
    metricQueries (round logging source (namespaces.map .text) (.text metric)).started =
      namespaces.map (·, metric) := by
  obtain ⟨announced, recorded⟩ :
      ∃ announced, logging.record (announcement (.text metric)) = .ok announced := by
    cases logging <;> simp [Logging.record, announcement, requireText]
  unfold round
  rw [recorded]
  dsimp only
  rw [metricQueries_append, metricQueries_record recorded, List.nil_append,
    metricQueries_flatMap, List.flatMap_map, List.flatMap_map]
  simp only [query, records.started]
  exact List.map_eq_flatMap.symm

/-- The queries of a group: each of its metrics in every namespace. -/
def queriesOf (namespaces metrics : List String) : List (String × String) :=
  metrics.flatMap fun metric => namespaces.map (·, metric)

theorem queries_collectGroup (records : source.RecordsQueries) (namespaces metrics : List String) :
    (collectGroup logging source (namespaces.map .text) (metrics.map .text)).queries =
      queriesOf namespaces metrics := by
  rw [queries_collectGroup_started records, List.flatMap_map]
  simp only [queries_round_started logging records]
  rfl

end PodMetrics

end ClusterAgent
