import ClusterAgent.Config
import ClusterAgent.Proofs.Report.Rendering

/-!
Contract: failures that the agent makes itself.

An error of the agent's own always has a message. Whatever is read from entities,
from a command line or from quantities fails with such an error only, and so does
rendering; other failures come from the calls of a source and nowhere else.

Owns: which failures are the agent's own, that steps fail with them only.
Does not own: when a step fails.
-/

namespace ClusterAgent

/-- A failure that the agent makes, and does not get from a call. -/
def Failure.IsOwn : Failure → Prop
  | .aggregation _ => True
  | .configuration _ => True
  | .rejected _ => True
  | .undeclared _ => True
  | .api _ => False
  | .foreign _ => False
  | .value _ => False

/-- Whether a failure has a message that is a text. -/
def Failure.IsTellable (failure : Failure) : Prop := failure.message?.isSome

theorem Failure.IsOwn.isTellable {failure : Failure} (own : failure.IsOwn) :
    failure.IsTellable := by
  cases failure <;> first | rfl | exact own.elim

/-- A failure that has a text has a message. -/
theorem Failure.isTellable_of_hasText {failure : Failure} (told : failure.hasText) :
    failure.IsTellable := by
  cases failure with
  | aggregation | configuration | rejected | undeclared => rfl
  | api error =>
    have objectTold : error.object.plainText?.isSome := told
    exact ErrorObject.message_hasText objectTold
  | foreign error => exact ErrorObject.message_hasText told
  | value thrown => exact told

/-! ## Outcomes whose failures are of a kind -/

namespace Outcome

variable {α β γ : Type}

/-- Whether an outcome, if it is a failure, is one of a kind. -/
def FailsAs (kind : Failure → Prop) (outcome : Except Failure α) : Prop :=
  ∀ failure, outcome = .error failure → kind failure

namespace FailsAs

variable {kind : Failure → Prop} {outcome : Except Failure α}

theorem ok (value : α) : FailsAs kind (.ok value) := by
  intro failure failed
  cases failed

theorem error {failure : Failure} (isKind : kind failure) :
    FailsAs kind (.error failure : Except Failure α) := by
  intro other failed
  cases failed
  exact isKind

theorem mono {other : Failure → Prop} (fails : FailsAs kind outcome)
    (weaker : ∀ failure, kind failure → other failure) : FailsAs other outcome :=
  fun failure failed => weaker failure (fails failure failed)

theorem bind {next : α → Except Failure β} (fails : FailsAs kind outcome)
    (nextFails : ∀ value, outcome = .ok value → FailsAs kind (next value)) :
    FailsAs kind (outcome >>= next) := by
  cases outcome with
  | ok value => exact nextFails value rfl
  | error failure =>
    intro other failed
    cases failed
    exact fails failure rfl

theorem map {f : α → β} (fails : FailsAs kind outcome) : FailsAs kind (f <$> outcome) := by
  intro failure failed
  exact fails failure (map_eq_error.1 failed)

theorem mapM {f : β → Except Failure α} {items : List β}
    (fails : ∀ item ∈ items, FailsAs kind (f item)) : FailsAs kind (items.mapM f) := by
  intro failure failed
  obtain ⟨item, member, itemFailed⟩ := exists_of_mapM_error failed
  exact fails item member failure itemFailed

theorem foldlM {step : α → β → Except Failure α} {items : List β}
    (fails : ∀ state, ∀ item ∈ items, FailsAs kind (step state item)) (start : α) :
    FailsAs kind (items.foldlM step start) := by
  induction items generalizing start with
  | nil => exact ok start
  | cons item rest inductionHypothesis =>
    rw [List.foldlM_cons]
    refine (fails start item List.mem_cons_self).bind fun state _ => ?_
    exact inductionHypothesis (fun state other member =>
      fails state other (List.mem_cons_of_mem item member)) state

theorem forM {check : β → Except Failure Unit} {items : List β}
    (fails : ∀ item ∈ items, FailsAs kind (check item)) : FailsAs kind (items.forM check) := by
  induction items with
  | nil => exact ok ()
  | cons item rest inductionHypothesis =>
    rw [List.forM_eq_forM, List.forM_cons]
    refine (fails item List.mem_cons_self).bind fun _ _ => ?_
    exact inductionHypothesis fun other member => fails other (List.mem_cons_of_mem item member)

/-- Calls made together fail as one of them does. -/
theorem all {calls : List (Call α)} (fails : ∀ call ∈ calls, FailsAs kind call.outcome) :
    FailsAs kind (Call.all calls).outcome :=
  (mapM fun call member => fails call (List.mem_of_mem_filter member)).bind fun _ _ => mapM fails

end FailsAs

/-- An outcome that fails with an error of the agent only. -/
abbrev IsOwn (outcome : Except Failure α) : Prop := FailsAs Failure.IsOwn outcome

theorem isOwn_undeclared (outcome : Except Undeclared α) : IsOwn (outcome.mapError .undeclared) := by
  intro failure failed
  obtain ⟨cause, _, rfl⟩ := mapError_eq_error.1 failed
  trivial

theorem isOwn_aggregation (outcome : Except AggregationError α) :
    IsOwn (outcome.mapError .aggregation) := by
  intro failure failed
  obtain ⟨error, _, rfl⟩ := mapError_eq_error.1 failed
  trivial

theorem isOwn_configuration (outcome : Except ConfigurationError α) :
    IsOwn (outcome.mapError .configuration) := by
  intro failure failed
  obtain ⟨error, _, rfl⟩ := mapError_eq_error.1 failed
  trivial

end Outcome

open Outcome (IsOwn FailsAs isOwn_undeclared isOwn_aggregation isOwn_configuration)

/-! ## Command lines -/

theorem Options.isOwn_parse (arguments : List Value) : IsOwn (parse arguments) := by
  have read (progress : Progress) (argument : Value) : IsOwn (progress.read argument) := by
    unfold Progress.read
    split
    · exact .ok _
    · exact (isOwn_undeclared _).bind fun _ _ => isOwn_configuration _
  refine (FailsAs.foldlM (fun progress argument _ => read progress argument) _).bind fun last _ => ?_
  unfold Progress.finish
  split
  · exact .error trivial
  · exact .ok _

theorem Config.isOwn_load (options : Options) (environment : Environment) :
    IsOwn (load options environment) :=
  (isOwn_undeclared _).bind fun _ _ => isOwn_configuration _

/-! ## Quantities and sums -/

theorem Declaration.isOwn_read (declaration : Declaration)
    (reader : String → Except AggregationError Number) (default : String) (misfit : Undeclared) :
    IsOwn (declaration.read reader default misfit) := by
  cases declaration with
  | absent => exact isOwn_aggregation _
  | text quantity => exact isOwn_aggregation _
  | other => exact .error trivial

theorem PersistentVolume.isOwn_view (volume : PersistentVolume) : IsOwn volume.view := by
  have capacity : IsOwn volume.capacity? := by
    unfold capacity?
    split
    · exact .ok _
    · exact .ok _
    · exact (Declaration.isOwn_read _ _ _ _).map
  exact capacity.bind fun _ _ => .ok _

theorem NodeAmounts.isOwn_read (table : Option ResourceTable) : IsOwn (read table) := by
  cases table with
  | none => exact .ok _
  | some table =>
    exact (Declaration.isOwn_read _ _ _ _).bind fun _ _ =>
      (Declaration.isOwn_read _ _ _ _).bind fun _ _ =>
        (Declaration.isOwn_read _ _ _ _).bind fun _ _ => .ok _

theorem Node.isOwn_resources (node : Node) : IsOwn node.resources :=
  (NodeAmounts.isOwn_read _).bind fun _ _ => (NodeAmounts.isOwn_read _).bind fun _ _ => .ok _

theorem ResourceClause.isOwn_amounts (clause : ResourceClause) (default : String)
    (fallback : Amounts) : IsOwn (clause.amounts default fallback) := by
  cases clause with
  | absent => exact .ok _
  | refused cause => exact .error trivial
  | table quantities =>
    unfold amounts
    dsimp only
    split
    · exact .ok _
    · exact (Declaration.isOwn_read _ _ _ _).bind fun _ _ =>
        (Declaration.isOwn_read _ _ _ _).bind fun _ _ => .ok _

theorem Pod.isOwn_resources (pod : Pod) : IsOwn pod.resources := by
  have added (total : PodAmounts) (container : Container) : IsOwn (container.addTo total) :=
    (ResourceClause.isOwn_amounts _ _ _).bind fun _ _ =>
      (ResourceClause.isOwn_amounts _ _ _).bind fun _ _ => .ok _
  have amounts : IsOwn pod.amounts := (isOwn_undeclared _).bind fun _ _ =>
    .foldlM (fun total container _ => added total container) _
  exact amounts.map

theorem PodList.isOwn_totalResources (pods : List Pod) : IsOwn (totalResources pods) :=
  (FailsAs.mapM fun pod _ => pod.isOwn_resources).bind fun _ _ => isOwn_aggregation _

theorem PodList.isOwn_perNode {α : Type} {view : List Pod → Except Failure α}
    (viewed : ∀ pods, IsOwn (view pods)) (pods : List Pod) : IsOwn (perNode view pods) :=
  (isOwn_undeclared _).bind fun _ _ => (FailsAs.mapM fun _ _ => (viewed _).map).map

theorem Entity.isOwn_tryByName {ε β : Type} [Entity ε] {view : ε → Except Failure β}
    (viewed : ∀ entity, IsOwn (view entity)) (entities : List ε) :
    IsOwn (tryByName view entities) :=
  (FailsAs.mapM fun _ _ => (viewed _).map).map

theorem NodeList.isOwn_resources (nodes : List SampledNode) : IsOwn (resources nodes) :=
  Entity.isOwn_tryByName (fun sampled => sampled.node.isOwn_resources) nodes

theorem NodeList.isOwn_clusterResources (nodes : List SampledNode) :
    IsOwn (clusterResources nodes) :=
  (isOwn_resources nodes).bind fun _ _ => isOwn_aggregation _

theorem NodeList.isOwn_clusterStats (nodes : List SampledNode) : IsOwn (clusterStats nodes) :=
  (isOwn_aggregation _).bind fun _ _ => .ok _

theorem NodeList.isOwn_conditions (nodes : List SampledNode) : IsOwn (conditions nodes) :=
  (isOwn_undeclared _).bind fun _ _ => .ok _

/-! ## Entities and metrics -/

theorem NodeStats.isOwn_latestOf [Platform] (node reply : Field) : IsOwn (latestOf node reply) := by
  unfold latestOf
  split
  · exact isOwn_aggregation _
  · intro failure failed
    obtain ⟨error, _, rfl⟩ := Outcome.mapError_eq_error.1 failed
    unfold untold
    split
    · split <;> trivial
    · trivial

namespace Inventory

theorem isOwn_items (lists : Lists) (listing : Listing) : IsOwn (lists.items listing) := by
  unfold Lists.items
  split
  · exact .ok _
  · exact .error trivial

theorem isOwn_readList {ε : Type} [Readable ε] (lists : Lists) (listing : Listing) :
    IsOwn (readList lists listing : Except Failure (List ε)) :=
  (isOwn_items lists listing).bind fun _ _ => isOwn_undeclared _

theorem isOwn_readEntities [Platform] (lists : Lists) (replies : List (Value × Value)) :
    IsOwn (readEntities lists replies) := by
  have node (position : Nat) (item reply : Value) :
      IsOwn (SampledNode.read position item (some reply)) :=
    (isOwn_undeclared _).bind fun _ _ => (NodeStats.isOwn_latestOf _ _).bind fun _ _ => .ok _
  exact (isOwn_readList _ _).bind fun _ _ => (isOwn_readList _ _).bind fun _ _ =>
    (isOwn_readList _ _).bind fun _ _ => (isOwn_readList _ _).bind fun _ _ =>
      (isOwn_readList _ _).bind fun _ _ => (FailsAs.mapM fun _ _ => node _ _ _).bind fun _ _ =>
        (isOwn_readList _ _).bind fun _ _ => (isOwn_readList _ _).bind fun _ _ =>
          (isOwn_readList _ _).bind fun _ _ => .ok _

end Inventory

theorem DescribedMetric.isOwn_combine (left right : DescribedMetric) :
    IsOwn (left.combine right) := by
  unfold combine
  split
  · exact .ok _
  · split <;> exact .error trivial

theorem MetricSeries.isOwn_combineAll (series : List MetricSeries) : IsOwn (combineAll series) := by
  cases series with
  | nil => exact .ok _
  | cons first rest =>
    exact .foldlM (fun _ _ _ => .mapM fun _ _ => DescribedMetric.isOwn_combine _ _) first

namespace PodMetrics

/-- No failure of a query fails a group as it is. -/
theorem isOwn_mergeRounds (rounds : List Round) : IsOwn (mergeRounds rounds) :=
  (isOwn_undeclared _).bind fun _ _ =>
    (FailsAs.mapM fun _ _ => (MetricSeries.isOwn_combineAll _).map).map

end PodMetrics

namespace Inventory

theorem isOwn_collectGroups (logging : Logging) (source : Source) (namespaces : List Name)
    (groups : List (String × List String)) :
    IsOwn (collectGroups logging source namespaces groups).outcome := by
  induction groups with
  | nil => exact .ok _
  | cons group rest inductionHypothesis =>
    rw [collectGroups, Journal.outcome_bind]
    refine (PodMetrics.isOwn_mergeRounds _).bind fun _ _ => ?_
    rw [Journal.outcome_bind]
    exact inductionHypothesis.bind fun _ _ => .ok _

/-! ## The report -/

theorem isOwn_put (element : Element) (name : String) (data : List (Name × Value)) :
    IsOwn (element.put name data) := isOwn_aggregation _

theorem isOwn_join (group : Group) (name : String) (data : Table Name Members) :
    IsOwn (group.put name data) := isOwn_aggregation _

variable (inventory : Inventory)

theorem isOwn_clusterElement : IsOwn inventory.clusterElement :=
  (isOwn_put _ _ _).bind fun _ _ => (isOwn_put _ _ _).bind fun _ _ =>
    (Entity.isOwn_tryByName PersistentVolume.isOwn_view _).bind fun _ _ =>
      (isOwn_put _ _ _).bind fun _ _ => (isOwn_put _ _ _).bind fun _ _ =>
        (isOwn_put _ _ _).bind fun _ _ => (isOwn_put _ _ _).bind fun _ _ =>
          (isOwn_put _ _ _).bind fun _ _ => (isOwn_put _ _ _).bind fun _ _ =>
            (NodeList.isOwn_clusterResources _).bind fun _ _ =>
              (isOwn_put _ _ _).bind fun _ _ => (PodList.isOwn_totalResources _).bind fun _ _ =>
                (isOwn_put _ _ _).bind fun _ _ => (isOwn_put _ _ _).bind fun _ _ =>
                  (NodeList.isOwn_clusterStats _).bind fun _ _ => isOwn_put _ _ _

theorem isOwn_nodeGroup : IsOwn inventory.nodeGroup :=
  (NodeList.isOwn_resources _).bind fun _ _ => (isOwn_join _ _ _).bind fun _ _ =>
    (PodList.isOwn_perNode PodList.isOwn_totalResources _).bind fun _ _ =>
      (isOwn_join _ _ _).bind fun _ _ => (PodList.isOwn_perNode (fun _ => .ok _) _).bind fun _ _ =>
        (isOwn_join _ _ _).bind fun _ _ => (isOwn_join _ _ _).bind fun _ _ =>
          (NodeList.isOwn_conditions _).bind fun _ _ => isOwn_join _ _ _

theorem isOwn_requireComplete (isComplete : Bool) : IsOwn (requireComplete isComplete) := by
  cases isComplete with
  | true => exact .ok _
  | false => exact .error trivial

/-- A report fails with an error of the agent only. -/
theorem isOwn_report (logging : Logging) : IsOwn (inventory.report logging).outcome := by
  have cluster : IsOwn inventory.clusterLines :=
    inventory.isOwn_clusterElement.bind fun _ _ =>
      (isOwn_requireComplete _).bind fun _ _ => .ok _
  have host (conditions : Table Name (List (String × Field))) (host : Name) :
      IsOwn (requireHost conditions host) :=
    (isOwn_undeclared _).bind fun _ _ => isOwn_requireComplete _
  have nodes : IsOwn inventory.nodeLines :=
    inventory.isOwn_nodeGroup.bind fun _ _ => (NodeList.isOwn_conditions _).bind fun _ _ =>
      (FailsAs.forM fun _ _ => host _ _).bind fun _ _ => .ok _
  have metrics : IsOwn inventory.customMetricsLines :=
    (FailsAs.foldlM (fun _ _ _ => isOwn_put _ _ _) _).map
  rw [outcome_report]
  exact cluster.bind fun _ _ => nodes.bind fun _ _ => metrics.bind fun _ _ => .ok _

end Inventory

end ClusterAgent
