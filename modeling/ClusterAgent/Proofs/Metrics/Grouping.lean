import ClusterAgent.Collection.PodMetrics
import ClusterAgent.Proofs.Metrics.Alignment
import ClusterAgent.Proofs.Telling

/-!
Contract: the metrics of a group, merged namespace by namespace.

What a namespace has is decided by the queries that it answers with a series.
A query that fails, or that is answered with something else, is as if it had
never been made. A group fails only if the series of some namespace are not
aligned.

Owns: the answers of a namespace, the order of namespaces, the outcome of a group.
Does not own: alignment, which groups there are.
-/

namespace ClusterAgent.PodMetrics

variable {logging : Logging} {source : Source} {namespaces metrics : List Name}

/-! ## Answers -/

/-- The series that a namespace answers a query with: none if the query fails, or if its body does
not have the form of an answer. -/
def answer? (source : Source) (namespaceName metric : Name) : Option MetricSeries :=
  match (source.podMetric namespaceName metric).outcome with
  | .ok body => (MetricSeries.ofBody (some body)).toOption
  | .error _ => none

/-- The series that a namespace answers with, in the order of the metrics. -/
def answers (source : Source) (metrics : List Name) (namespaceName : Name) : List MetricSeries :=
  metrics.filterMap (answer? source namespaceName)

/-- The position of the first metric that a namespace answers. -/
def firstAnswer (source : Source) (metrics : List Name) (namespaceName : Name) : Nat :=
  metrics.findIdx fun metric => (answer? source namespaceName metric).isSome

/-- Queries whose failures can be logged, whatever they are. -/
structure Tellable (source : Source) (namespaces metrics : List Name) : Prop where
  namespaceText : ∀ name ∈ namespaces, name.hasText
  metricText : ∀ metric ∈ metrics, metric.hasText
  failures : ∀ name ∈ namespaces, ∀ metric ∈ metrics,
    Outcome.isTold (source.podMetric name metric).outcome

theorem isSingle_of_mem_answers (source : Source) (metrics : List Name) (namespaceName : Name) :
    ∀ series ∈ answers source metrics namespaceName, ∀ metric ∈ series, metric.IsSingle := by
  intro series member
  obtain ⟨metric, _, answered⟩ := List.mem_filterMap.1 member
  unfold answer? at answered
  split at answered
  · rename_i body _
    cases read : MetricSeries.ofBody (some body) with
    | error issues =>
      rw [read] at answered
      cases answered
    | ok held =>
      rw [read] at answered
      cases answered
      exact MetricSeries.isSingle_of_ofBody read
  · cases answered

theorem answers_append_singleton (metrics : List Name) (last namespaceName : Name) :
    answers source (metrics ++ [last]) namespaceName =
      answers source metrics namespaceName ++ (answer? source namespaceName last).toList := by
  unfold answers
  rw [List.filterMap_append, List.filterMap_cons, List.filterMap_nil]
  cases answer? source namespaceName last <;> rfl

theorem firstAnswer_lt_iff {namespaceName : Name} :
    firstAnswer source metrics namespaceName < metrics.length ↔
      answers source metrics namespaceName ≠ [] := by
  unfold firstAnswer answers
  rw [List.findIdx_lt_length, Ne, List.filterMap_eq_nil_iff]
  simp [Option.isSome_iff_ne_none]

theorem firstAnswer_append_of_answered {metrics : List Name} (last : Name) {namespaceName : Name}
    (answered : firstAnswer source metrics namespaceName < metrics.length) :
    firstAnswer source (metrics ++ [last]) namespaceName =
      firstAnswer source metrics namespaceName := by
  unfold firstAnswer at answered ⊢
  rw [List.findIdx_append, if_pos answered]

theorem firstAnswer_append_of_unanswered {metrics : List Name} (last : Name) {namespaceName : Name}
    (unanswered : ¬ firstAnswer source metrics namespaceName < metrics.length) :
    firstAnswer source (metrics ++ [last]) namespaceName =
      if (answer? source namespaceName last).isSome then metrics.length
      else metrics.length + 1 := by
  unfold firstAnswer at unanswered ⊢
  rw [List.findIdx_append, if_neg unanswered, List.findIdx_singleton]
  split <;> omega

/-! ## One metric in all namespaces -/

theorem query_series (metric namespaceName : Name) :
    (query source metric namespaceName).series =
      readAnswer (source.podMetric namespaceName metric).outcome := rfl

theorem exists_handle {metric namespaceName : Name} (named : namespaceName.hasText)
    (told : Outcome.isTold (source.podMetric namespaceName metric).outcome) :
    ∃ events, (query source metric namespaceName).handle logging metric = .ok events := by
  unfold Query.handle
  split
  · exact ⟨_, rfl⟩
  · rename_i failure failed
    have failureTold : failure.hasText := by
      rw [query_series] at failed
      cases outcome : (source.podMetric namespaceName metric).outcome with
      | error inner =>
        rw [outcome] at failed told
        cases failed
        exact told
      | ok body =>
        rw [outcome, readAnswer, Outcome.ok_bind] at failed
        obtain ⟨issues, _, rfl⟩ := Outcome.mapError_eq_error.1 failed
        exact Failure.hasText_rejected issues
    obtain ⟨error, classified, messageTold⟩ := ApiError.exists_ofFailure failureTold
    obtain ⟨place, placeText⟩ := Option.isSome_iff_exists.1 named
    obtain ⟨message, messageText⟩ := Option.isSome_iff_exists.1 messageTold
    rw [classified, Outcome.ok_bind]
    cases logging with
    | omitted => exact ⟨_, rfl⟩
    | kept =>
      have placeOk : (query source metric namespaceName).namespaceName.plainText? = some place :=
        placeText
      unfold Logging.record unavailable
      simp only [placeOk, messageText, requireText, Outcome.ok_bind]
      split <;> exact ⟨_, rfl⟩

theorem seriesEntry_query (metric namespaceName : Name) :
    Query.entry? (query source metric namespaceName) =
      (answer? source namespaceName metric).map (namespaceName, ·) := by
  unfold Query.entry? answer?
  rw [query_series]
  cases (source.podMetric namespaceName metric).outcome with
  | error failure => rfl
  | ok body =>
    rw [readAnswer, Outcome.ok_bind]
    dsimp only
    cases MetricSeries.ofBody (some body) <;> rfl

def answerTable (source : Source) (namespaces : List Name) (metric : Name) :
    Table Name MetricSeries :=
  .ofList (namespaces.filterMap fun name => (answer? source name metric).map (name, ·))

theorem round_series {metric : Name} (member : metric ∈ metrics)
    (tellable : Tellable source namespaces metrics) :
    (round logging source namespaces metric).series =
      .ok (answerTable source namespaces metric) := by
  obtain ⟨words, metricText⟩ := Option.isSome_iff_exists.1 (tellable.metricText metric member)
  have announced : ∃ events, logging.record (announcement metric) = .ok events := by
    cases logging <;> simp [Logging.record, announcement, metricText, requireText]
  obtain ⟨events, recorded⟩ := announced
  have handled : ∃ all, (namespaces.map (query source metric)).mapM
      (Query.handle logging metric) = .ok all := by
    rw [List.mapM_map, Outcome.exists_mapM_ok]
    intro name isNamespace
    exact exists_handle (tellable.namespaceText name isNamespace)
      (tellable.failures name isNamespace metric member)
  obtain ⟨all, handledAll⟩ := handled
  unfold round
  rw [recorded]
  simp only [handledAll, Outcome.ok_bind, Outcome.pure_eq_ok, List.filterMap_map, answerTable]
  congr 2
  apply List.filterMap_congr
  intro name _
  exact seriesEntry_query metric name

/-! ## Namespaces in order -/

/-- The answers to some metrics, put together by namespace. -/
def grouped (source : Source) (namespaces metrics : List Name) :
    Table Name (List MetricSeries) :=
  (metrics.map (answerTable source namespaces)).foldl gather .empty

theorem grouped_append_singleton (metrics : List Name) (last : Name) :
    grouped source namespaces (metrics ++ [last]) =
      gather (grouped source namespaces metrics) (answerTable source namespaces last) := by
  simp [grouped]

theorem gather_eq_foldl (held : Table Name (List MetricSeries)) (series : Table Name MetricSeries) :
    gather held series = series.entries.foldl (fun table entry =>
      table.set entry.1 ((table.get? entry.1).getD [] ++ [entry.2])) held := rfl

theorem get?_gather (held : Table Name (List MetricSeries)) {series : Table Name MetricSeries}
    (distinct : series.keys.Nodup) (name : Name) :
    (gather held series).get? name =
      (series.get? name).elim (held.get? name) fun one =>
        some ((held.get? name).getD [] ++ [one]) := by
  rw [gather_eq_foldl]
  exact Table.get?_foldl_set (fun before one => before.getD [] ++ [one]) series.entries held
    distinct name

theorem keys_gather (held : Table Name (List MetricSeries)) {series : Table Name MetricSeries}
    (distinct : series.keys.Nodup) :
    (gather held series).keys = held.keys ++ series.keys.filter (· ∉ held.keys) := by
  have folded := Table.keys_foldl_set (fun before one => before.getD [] ++ [one])
    series.entries held
  have sameKeys : (series.entries.map Prod.fst).eraseDups = series.keys :=
    eraseDups_eq_self distinct
  rw [gather_eq_foldl, folded, sameKeys]

theorem nodup_keys_gather {held : Table Name (List MetricSeries)} (distinct : held.keys.Nodup)
    (series : Table Name MetricSeries) : (gather held series).keys.Nodup := by
  rw [gather_eq_foldl]
  generalize series.entries = entries
  induction entries generalizing held with
  | nil => exact distinct
  | cons entry rest inductionHypothesis =>
    exact inductionHypothesis (Table.nodup_keys_set held _ _ distinct)

/-- Whatever is put together, each namespace stands once. -/
theorem nodup_keys_foldl_gather (tables : List (Table Name MetricSeries))
    {held : Table Name (List MetricSeries)} (distinct : held.keys.Nodup) :
    (tables.foldl gather held).keys.Nodup := by
  induction tables generalizing held with
  | nil => exact distinct
  | cons first rest inductionHypothesis =>
    exact inductionHypothesis (nodup_keys_gather distinct first)

/-- Each namespace holds what it answers, in the order of the metrics. -/
theorem get?_grouped (metrics : List Name) (name : Name) :
    (grouped source namespaces metrics).get? name =
      if name ∈ namespaces ∧ answers source metrics name ≠ [] then
        some (answers source metrics name)
      else none := by
  induction metrics using List.reverseRecOn with
  | nil => simp [grouped, answers]
  | append_singleton metrics last inductionHypothesis =>
    have tableDistinct : (answerTable source namespaces last).keys.Nodup :=
      Table.nodup_keys_ofList _
    rw [grouped_append_singleton, get?_gather _ tableDistinct, answerTable,
      Table.get?_ofList_graph, inductionHypothesis, answers_append_singleton]
    by_cases isNamespace : name ∈ namespaces
    · cases answer? source name last <;> by_cases unanswered : answers source metrics name = [] <;>
        simp [isNamespace, unanswered]
    · simp [isNamespace]

theorem mem_keys_grouped {name : Name} :
    name ∈ (grouped source namespaces metrics).keys ↔
      name ∈ namespaces ∧ answers source metrics name ≠ [] := by
  rw [Table.mem_keys_iff, get?_grouped]
  split <;> simp_all

theorem nodup_keys_grouped (metrics : List Name) :
    (grouped source namespaces metrics).keys.Nodup :=
  nodup_keys_foldl_gather _ List.nodup_nil

/-- Namespaces in the order of their first answers, and of the list where these are to the same
metric. -/
def byFirstAnswer (source : Source) (namespaces metrics : List Name) : List Name :=
  (List.range metrics.length).flatMap fun position =>
    namespaces.filter fun name => firstAnswer source metrics name = position

theorem keys_grouped (distinct : namespaces.Nodup) (metrics : List Name) :
    (grouped source namespaces metrics).keys = byFirstAnswer source namespaces metrics := by
  induction metrics using List.reverseRecOn with
  | nil => rfl
  | append_singleton metrics last inductionHypothesis =>
    have tableDistinct : (answerTable source namespaces last).keys.Nodup :=
      Table.nodup_keys_ofList _
    rw [grouped_append_singleton, keys_gather _ tableDistinct, byFirstAnswer,
      List.length_append, List.length_singleton, List.range_succ, List.flatMap_append,
      List.flatMap_singleton]
    congr 1
    · -- An earlier first answer stays the first one.
      rw [inductionHypothesis, byFirstAnswer]
      apply List.flatMap_congr
      intro position inRange
      have before : position < metrics.length := List.mem_range.1 inRange
      apply List.filter_congr
      intro name _
      by_cases answered : firstAnswer source metrics name < metrics.length
      · rw [firstAnswer_append_of_answered last answered]
      · rw [firstAnswer_append_of_unanswered last answered]
        split <;> simp <;> omega
    · -- The new keys are those that answer the last metric and none before it.
      rw [answerTable, Table.keys_ofList_graph, eraseDups_eq_self distinct, List.filter_filter]
      apply List.filter_congr
      intro name isNamespace
      simp only [mem_keys_grouped, isNamespace, true_and, ← firstAnswer_lt_iff]
      by_cases answered : firstAnswer source metrics name < metrics.length
      · rw [firstAnswer_append_of_answered last answered]
        simp [answered, Nat.ne_of_lt answered]
      · rw [firstAnswer_append_of_unanswered last answered]
        by_cases hasAnswer : (answer? source name last).isSome <;> simp [answered, hasAnswer]

/-! ## The outcome of a group -/

theorem mem_entries_grouped {name : Name} {series : List MetricSeries} :
    (name, series) ∈ (grouped source namespaces metrics).entries ↔
      name ∈ namespaces ∧ series ≠ [] ∧ series = answers source metrics name := by
  constructor
  · intro member
    have held := Table.get?_of_mem_entries (nodup_keys_grouped metrics) member
    rw [get?_grouped] at held
    split at held
    · cases held
      simp_all
    · cases held
  · rintro ⟨isNamespace, answered, rfl⟩
    apply Table.mem_entries_of_get?
    rw [get?_grouped, if_pos ⟨isNamespace, answered⟩]

/-- Merging one namespace after the other succeeds exactly if every namespace is aligned. -/
theorem exists_merge_ok :
    (∃ merged, merge (grouped source namespaces metrics) = .ok merged) ↔
      ∀ name ∈ namespaces, MetricSeries.Aligned (answers source metrics name) := by
  have mergedOk : (∃ merged, merge (grouped source namespaces metrics) = .ok merged) ↔
      ∀ entry ∈ (grouped source namespaces metrics).entries,
        ∃ series, MetricSeries.combineAll entry.2 = .ok series := by
    unfold merge
    simp only [Outcome.map_eq_ok, exists_comm, exists_and_left, exists_eq', and_true]
    rw [Outcome.exists_mapM_ok]
    simp [Outcome.map_eq_ok]
  rw [mergedOk]
  constructor
  · intro combined name isNamespace
    by_cases unanswered : answers source metrics name = []
    · rw [unanswered]
      simp [MetricSeries.Aligned]
    · obtain ⟨series, combinedOk⟩ :=
        combined (name, _) (mem_entries_grouped.2 ⟨isNamespace, unanswered, rfl⟩)
      rcases MetricSeries.combineAll_outcome (isSingle_of_mem_answers source metrics name) with
        ⟨aligned, _⟩ | ⟨_, one, other, refused⟩
      · exact aligned
      · cases combinedOk.symm.trans refused
  · rintro aligned ⟨name, series⟩ member
    obtain ⟨isNamespace, _, rfl⟩ := mem_entries_grouped.1 member
    rcases MetricSeries.combineAll_outcome (isSingle_of_mem_answers source metrics name) with
      ⟨_, series, combinedOk, _⟩ | ⟨misaligned, _⟩
    · exact ⟨series, combinedOk⟩
    · exact absurd (aligned name isNamespace) misaligned

theorem mismatch_of_merge_error {failure : Failure}
    (failed : merge (grouped source namespaces metrics) = .error failure) :
    ∃ one other, failure = .aggregation (.identityMismatch one other) := by
  unfold merge at failed
  cases traversed : (grouped source namespaces metrics).entries.mapM fun entry =>
      (entry.1, ·) <$> MetricSeries.combineAll entry.2 with
  | ok entries =>
    rw [traversed] at failed
    cases failed
  | error inner =>
    rw [traversed] at failed
    cases failed
    obtain ⟨⟨name, series⟩, member, stepFailed⟩ := Outcome.exists_of_mapM_error traversed
    obtain ⟨_, _, rfl⟩ := mem_entries_grouped.1 member
    rcases MetricSeries.combineAll_outcome (isSingle_of_mem_answers source metrics name) with
      ⟨_, merged, combinedOk, _⟩ | ⟨_, one, other, refused⟩
    · rw [combinedOk] at stepFailed
      cases stepFailed
    · rw [refused] at stepFailed
      cases stepFailed
      exact ⟨one, other, rfl⟩

/-- What a group that is merged holds: every namespace that answers any of its metrics, under it
what its answers are merged into, and nothing else. -/
structure MergesAnswers (source : Source) (namespaces metrics : List Name)
    (merged : Table Name MetricSeries) : Prop where
  order : merged.keys = byFirstAnswer source namespaces metrics
  answered : ∀ name, name ∈ merged.keys ↔
    name ∈ namespaces ∧ answers source metrics name ≠ []
  series : ∀ name series, merged.get? name = some series →
    MetricSeries.IsMerged (answers source metrics name) series

theorem keys_of_merge {held : Table Name (List MetricSeries)} {merged : Table Name MetricSeries}
    (mergedOk : merge held = .ok merged) : merged.keys = held.keys := by
  obtain ⟨entries, traversed, rfl⟩ := Outcome.map_eq_ok.1 mergedOk
  refine Outcome.map_results_eq ?_ traversed
  rintro ⟨name, series⟩ _ entry stepped
  obtain ⟨one, _, rfl⟩ := Outcome.map_eq_ok.1 stepped
  rfl

/-- A group that is collected has each namespace once, from whatever source it comes. -/
theorem nodup_keys_of_collectGroup {merged : Table Name MetricSeries}
    (collected : (collectGroup logging source namespaces metrics).outcome = .ok merged) :
    merged.keys.Nodup := by
  obtain ⟨tables, _, mergedOk⟩ := Outcome.bind_eq_ok.1 collected
  rw [keys_of_merge mergedOk]
  exact nodup_keys_foldl_gather tables List.nodup_nil

theorem mergesAnswers_of_merge (distinct : namespaces.Nodup) {merged : Table Name MetricSeries}
    (mergedOk : merge (grouped source namespaces metrics) = .ok merged) :
    MergesAnswers source namespaces metrics merged where
  order := by rw [keys_of_merge mergedOk, keys_grouped distinct]
  answered name := by rw [keys_of_merge mergedOk, mem_keys_grouped]
  series name series found := by
    obtain ⟨entries, traversed, rfl⟩ := Outcome.map_eq_ok.1 mergedOk
    obtain ⟨⟨origin, held⟩, member, stepped⟩ :=
      Outcome.exists_of_mem_results traversed _ (Table.mem_entries_of_get? found)
    obtain ⟨one, combinedOk, isEntry⟩ := Outcome.map_eq_ok.1 stepped
    cases isEntry
    obtain ⟨_, _, rfl⟩ := mem_entries_grouped.1 member
    rcases MetricSeries.combineAll_outcome (isSingle_of_mem_answers source metrics name) with
      ⟨_, series, seriesOk, isMerged, _⟩ | ⟨_, one, other, refused⟩
    · cases combinedOk.symm.trans seriesOk
      exact isMerged
    · cases combinedOk.symm.trans refused

/-- The outcome of a group is that of merging the answers: whatever queries fail, and whatever
their failures are, none of them is the outcome of the group. -/
theorem outcome_collectGroup (tellable : Tellable source namespaces metrics) :
    (collectGroup logging source namespaces metrics).outcome =
      merge (grouped source namespaces metrics) := by
  have seriesOk : (metrics.map (round logging source namespaces)).mapM Round.series =
      .ok (metrics.map (answerTable source namespaces)) := by
    rw [List.mapM_map]
    apply Outcome.mapM_eq_map
    intro metric member
    exact round_series member tellable
  change mergeRounds (metrics.map (round logging source namespaces)) = _
  rw [mergeRounds, seriesOk]
  rfl

theorem tellable_of_told {namespaces metrics : List String}
    (told : ∀ name ∈ namespaces, ∀ metric ∈ metrics,
      Outcome.isTold (source.podMetric (.text name) (.text metric)).outcome) :
    Tellable source (namespaces.map .text) (metrics.map .text) := by
  refine ⟨?_, ?_, ?_⟩
  · intro name member
    obtain ⟨text, _, rfl⟩ := List.mem_map.1 member
    simp [Name.hasText]
  · intro metric member
    obtain ⟨text, _, rfl⟩ := List.mem_map.1 member
    simp [Name.hasText]
  · intro name isNamespace metric isMetric
    obtain ⟨nameText, inNamespaces, rfl⟩ := List.mem_map.1 isNamespace
    obtain ⟨metricText, inMetrics, rfl⟩ := List.mem_map.1 isMetric
    exact told nameText inNamespaces metricText inMetrics

/-- Collecting a group succeeds exactly if the series that each namespace answers with are aligned,
and fails with an identity mismatch otherwise. A group that is collected holds the merged answers of
each namespace, the namespaces in the order of their first answers. -/
theorem collectGroup_merges_answers (logging : Logging) (source : Source)
    (namespaces metrics : List String) (distinct : namespaces.Nodup)
    (told : ∀ name ∈ namespaces, ∀ metric ∈ metrics,
      Outcome.isTold (source.podMetric (.text name) (.text metric)).outcome) :
    let names := namespaces.map Name.text
    let metricNames := metrics.map Name.text
    let outcome := (collectGroup logging source names metricNames).outcome
    ((∃ merged, outcome = .ok merged) ↔
        ∀ name ∈ names, MetricSeries.Aligned (answers source metricNames name)) ∧
      (∀ failure, outcome = .error failure →
        ∃ one other, failure = .aggregation (.identityMismatch one other)) ∧
      ∀ merged, outcome = .ok merged → MergesAnswers source names metricNames merged := by
  intro names metricNames outcome
  have tellable : Tellable source names metricNames := tellable_of_told told
  have namesDistinct : names.Nodup := distinct.map fun _ _ same => Name.text.inj same
  have outcomeEqual : outcome = merge (grouped source names metricNames) :=
    outcome_collectGroup tellable
  rw [outcomeEqual]
  exact ⟨exists_merge_ok, fun failure => mismatch_of_merge_error,
    fun merged => mergesAnswers_of_merge namesDistinct⟩

def bodyOfPods (pods : List String) : Value :=
  .object [("items", .list (pods.map fun pod => .object
    [("describedObject", .object [("kind", .text "Pod"), ("name", .text pod)]),
      ("metricName", .text "rss"), ("value", .text "1")]))]

/-- A cluster in which one namespace answers the first and the last of three metrics, another one
only the second, and a third none at all. -/
def sparseCluster : Cluster where
  list := fun _ => .ok (.list [])
  nodeStats := fun _ => .ok .null
  podMetric := fun namespaceName metric =>
    match namespaceName, metric with
    | "late", "second" => .ok (bodyOfPods ["x"])
    | "early", "first" => .ok (bodyOfPods ["y", "z"])
    | "early", "second" => .ok (.list [])
    | "early", "third" => .ok (bodyOfPods ["y"])
    | "silent", _ => .error (.value (.text "down"))
    | _, _ => .error (.api (.notFound "no such metric" .null))

theorem collectGroup_merges_answers_of_sparseCluster :
    (∀ name ∈ ["late", "silent", "early"], ∀ metric ∈ ["first", "second", "third"],
        Outcome.isTold ((Source.ofCluster sparseCluster).podMetric (.text name)
          (.text metric)).outcome) ∧
      ∃ merged,
        (collectGroup .kept (.ofCluster sparseCluster) (["late", "silent", "early"].map .text)
          (["first", "second", "third"].map .text)).outcome = .ok merged ∧
        merged.keys = [.text "early", .text "late"] ∧
        ∃ series, merged.get? (.text "early") = some series ∧ series.length = 1 := by
  have told : ∀ name ∈ ["late", "silent", "early"], ∀ metric ∈ ["first", "second", "third"],
      Outcome.isTold ((Source.ofCluster sparseCluster).podMetric (.text name)
        (.text metric)).outcome := by decide
  obtain ⟨succeeds, _, merges⟩ := collectGroup_merges_answers .kept (.ofCluster sparseCluster)
    ["late", "silent", "early"] ["first", "second", "third"] (by decide) told
  obtain ⟨merged, mergedOk⟩ := succeeds.2 (by decide)
  have mergesAnswers := merges merged mergedOk
  have keysEqual : merged.keys = [.text "early", .text "late"] := by
    rw [mergesAnswers.order]
    decide
  obtain ⟨series, found⟩ : ∃ series, merged.get? (.text "early") = some series :=
    Table.mem_keys_iff.1 (by simp [keysEqual])
  have length := (mergesAnswers.series (.text "early") series found).length
  exact ⟨told, merged, mergedOk, keysEqual, series, found, length.trans (by decide)⟩

end ClusterAgent.PodMetrics
