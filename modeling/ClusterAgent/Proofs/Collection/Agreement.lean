import ClusterAgent.Proofs.Collection.Cycle

/-!
Contract: cycles over two sources that agree.

The calls of the one succeed with what those of the other succeed with. A list or
statistics may fail with anything, since the cycle ends either way; a metric
query fails with a failure of the same class, since it is that class that is
logged while the cycle goes on.

Owns: outcomes that agree, sources that agree, what their cycles have in common.
Does not own: which sources agree.
-/

namespace ClusterAgent

/-! ## Outcomes that agree -/

namespace Outcome

variable {ε α β : Type}

/-- Outcomes that are the same success, or failures that are alike. -/
inductive Agree (Alike : ε → ε → Prop) : Except ε α → Except ε α → Prop where
  | ok (value : α) : Agree Alike (.ok value) (.ok value)
  | error {left right : ε} (alike : Alike left right) : Agree Alike (.error left) (.error right)

theorem Agree.mono {Alike Other : ε → ε → Prop} {left right : Except ε α}
    (agree : Agree Alike left right) (weaker : ∀ one other, Alike one other → Other one other) :
    Agree Other left right := by
  cases agree with
  | ok value => exact .ok value
  | error alike => exact .error (weaker _ _ alike)

/-- Outcomes that are the same success, or failures of any kind. -/
abbrev SucceedAlike (left right : Except ε α) : Prop := Agree (fun _ _ => True) left right

namespace SucceedAlike

variable {left right : Except ε α}

theorem refl (outcome : Except ε α) : SucceedAlike outcome outcome := by
  cases outcome with
  | ok value => exact .ok value
  | error failure => exact .error trivial

theorem bind {next other : α → Except ε β} (agree : SucceedAlike left right)
    (nextAgree : ∀ value, SucceedAlike (next value) (other value)) :
    SucceedAlike (left >>= next) (right >>= other) := by
  cases agree with
  | ok value => exact nextAgree value
  | error _ => exact .error trivial

theorem map {f : α → β} (agree : SucceedAlike left right) :
    SucceedAlike (f <$> left) (f <$> right) := by
  cases agree with
  | ok value => exact .ok (f value)
  | error _ => exact .error trivial

theorem ok_iff (agree : SucceedAlike left right) (value : α) :
    left = .ok value ↔ right = .ok value := by
  cases agree <;> simp

theorem of_ok_iff (same : ∀ value, left = .ok value ↔ right = .ok value) :
    SucceedAlike left right := by
  cases left with
  | ok value =>
    rw [(same value).1 rfl]
    exact .ok value
  | error failure =>
    cases right with
    | ok value => cases (same value).2 rfl
    | error other => exact .error trivial

theorem following_eq (agree : SucceedAlike left right) (next : α → List β) :
    following left next = following right next := by
  cases agree <;> rfl

end SucceedAlike

end Outcome

open Outcome (Agree SucceedAlike)

/-- Calls made together agree if they do one by one, whichever of them fails first. -/
theorem Call.succeedAlike_all {α β : Type} {first second : β → Call α} (items : List β)
    (agree : ∀ item, SucceedAlike (first item).outcome (second item).outcome) :
    SucceedAlike (all (items.map first)).outcome (all (items.map second)).outcome := by
  apply SucceedAlike.of_ok_iff
  intro values
  rw [outcome_all_eq_ok, outcome_all_eq_ok, List.forall₂_map_left_iff, List.forall₂_map_left_iff]
  simp only [(agree _).ok_iff]

/-! ## Sources that agree -/

/-- Failures that are classified as the same error. -/
def Failure.SameClass (left right : Failure) : Prop :=
  ApiError.ofFailure left = ApiError.ofFailure right

structure Source.Agrees (left right : Source) : Prop where
  list : ∀ listing, SucceedAlike (left.list listing).outcome (right.list listing).outcome
  nodeStats : ∀ node, SucceedAlike (left.nodeStats node).outcome (right.nodeStats node).outcome
  podMetric : ∀ namespaceName metric, Agree Failure.SameClass
    (left.podMetric namespaceName metric).outcome (right.podMetric namespaceName metric).outcome
  queries : ∀ namespaceName metric,
    metricQueries (left.podMetric namespaceName metric).started =
      metricQueries (right.podMetric namespaceName metric).started

variable {left right : Source} {logging : Logging}

/-! ## Metrics -/

namespace PodMetrics

/-- A failed query is handled by its class only: what is logged of it, and whether that can be. -/
theorem handle_eq (agrees : left.Agrees right) (metric namespaceName : Name) :
    (query left metric namespaceName).handle logging metric =
      (query right metric namespaceName).handle logging metric := by
  have alike := agrees.podMetric namespaceName metric
  unfold Query.handle
  rw [query_series, query_series]
  generalize (left.podMetric namespaceName metric).outcome = first at alike ⊢
  generalize (right.podMetric namespaceName metric).outcome = second at alike ⊢
  cases alike with
  | ok body => rfl
  | @error failure other sameClass =>
    have classified : ApiError.ofFailure failure = ApiError.ofFailure other := sameClass
    change (ApiError.ofFailure failure >>= _) = (ApiError.ofFailure other >>= _)
    rw [classified]
    rfl

theorem entry?_eq (agrees : left.Agrees right) (metric namespaceName : Name) :
    Query.entry? (query left metric namespaceName) =
      Query.entry? (query right metric namespaceName) := by
  have alike := agrees.podMetric namespaceName metric
  unfold Query.entry?
  rw [query_series, query_series]
  generalize (left.podMetric namespaceName metric).outcome = first at alike ⊢
  generalize (right.podMetric namespaceName metric).outcome = second at alike ⊢
  cases alike <;> rfl

theorem series_round_eq (agrees : left.Agrees right) (namespaces : List Name) (metric : Name) :
    (round logging left namespaces metric).series =
      (round logging right namespaces metric).series := by
  unfold round
  cases logging.record (announcement metric) with
  | error cause => rfl
  | ok announced =>
    dsimp only
    rw [List.mapM_map, List.mapM_map, List.filterMap_map, List.filterMap_map]
    simp only [Function.comp_def, handle_eq agrees, entry?_eq agrees]

theorem outcome_collectGroup_eq (agrees : left.Agrees right) (namespaces metrics : List Name) :
    (collectGroup logging left namespaces metrics).outcome =
      (collectGroup logging right namespaces metrics).outcome := by
  change mergeRounds _ = mergeRounds _
  unfold mergeRounds
  rw [List.mapM_map, List.mapM_map]
  simp only [Function.comp_def, series_round_eq agrees]

theorem queries_collectGroup_eq (agrees : left.Agrees right) (leftRecords : left.RecordsQueries)
    (rightRecords : right.RecordsQueries) (namespaces metrics : List Name) :
    (collectGroup logging left namespaces metrics).queries =
      (collectGroup logging right namespaces metrics).queries := by
  have started (metric : Name) :
      metricQueries (round logging left namespaces metric).started =
        metricQueries (round logging right namespaces metric).started := by
    unfold round
    cases logging.record (announcement metric) with
    | error cause => rfl
    | ok announced =>
      dsimp only
      rw [metricQueries_append, metricQueries_append, metricQueries_flatMap,
        metricQueries_flatMap, List.flatMap_map, List.flatMap_map]
      simp only [query, agrees.queries]
  rw [queries_collectGroup_started leftRecords, queries_collectGroup_started rightRecords]
  simp only [started]

end PodMetrics

/-! ## Cycles -/

namespace Inventory

/-- All groups come to the same, group by group. -/
theorem outcome_collectGroups_eq (agrees : left.Agrees right) (namespaces : List Name)
    (groups : List (String × List String)) :
    (collectGroups logging left namespaces groups).outcome =
      (collectGroups logging right namespaces groups).outcome := by
  induction groups with
  | nil => rfl
  | cons first rest inductionHypothesis =>
    obtain ⟨group, metrics⟩ := first
    rw [outcome_collectGroups_cons, outcome_collectGroups_cons, inductionHypothesis,
      PodMetrics.outcome_collectGroup_eq agrees]

theorem queries_collectGroups_eq (agrees : left.Agrees right) (leftRecords : left.RecordsQueries)
    (rightRecords : right.RecordsQueries) (namespaces : List Name)
    (groups : List (String × List String)) :
    (collectGroups logging left namespaces groups).queries =
      (collectGroups logging right namespaces groups).queries := by
  induction groups with
  | nil => rfl
  | cons first rest inductionHypothesis =>
    obtain ⟨group, metrics⟩ := first
    rw [collectGroups, collectGroups]
    simp only [Journal.queries_bind, Journal.queries_pure, Outcome.following_nil, List.append_nil,
      inductionHypothesis, PodMetrics.outcome_collectGroup_eq agrees,
      PodMetrics.queries_collectGroup_eq agrees leftRecords rightRecords]

variable [Platform]

/-- Entities are read from the same lists and statistics, or from none. -/
theorem succeedAlike_fetchEntities (agrees : left.Agrees right) :
    SucceedAlike (fetchEntities left) (fetchEntities right) := by
  have lists : SucceedAlike (fetchLists left).outcome (fetchLists right).outcome :=
    Call.succeedAlike_all _ fun listing => (agrees.list listing).map
  have stats (nodes : List (Name × Value)) :
      SucceedAlike (fetchStats left nodes).outcome (fetchStats right nodes).outcome :=
    Call.succeedAlike_all _ fun node => (agrees.nodeStats node.1).map
  exact lists.bind fun _ => (SucceedAlike.refl _).bind fun _ => (SucceedAlike.refl _).bind fun _ =>
    (stats _).bind fun _ => .refl _

/-- Cycles over sources that agree collect the same, or both fail. -/
theorem succeedAlike_collect (agrees : left.Agrees right) (logging : Logging) :
    SucceedAlike (collect logging left).outcome (collect logging right).outcome := by
  rw [outcome_collect, outcome_collect]
  apply (succeedAlike_fetchEntities agrees).bind
  intro entities
  rw [outcome_collectGroups_eq agrees]
  exact .refl _

/-- They ask for the same metrics in the same order, whether they succeed or not. -/
theorem queries_collect_eq (agrees : left.Agrees right) (leftRecords : left.RecordsQueries)
    (rightRecords : right.RecordsQueries) (logging : Logging) :
    (collect logging left).queries = (collect logging right).queries := by
  rw [queries_collect leftRecords, queries_collect rightRecords,
    (succeedAlike_fetchEntities agrees).following_eq]
  simp only [queries_collectGroups_eq agrees leftRecords rightRecords]

end Inventory

end ClusterAgent
