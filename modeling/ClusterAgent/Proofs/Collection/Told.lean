import ClusterAgent.Proofs.OwnFailures

/-!
Contract: cycles over clusters whose failures have a text.

What a call fails with may be any value. As long as it has a text, so has what a
cycle fails with, because all other failures are the agent's own.

Owns: clusters and sources whose failures can be told, the failures of a cycle.
Does not own: which calls fail.
-/

namespace ClusterAgent

open Outcome (FailsAs)

/-- A call that fails with something that has a text. -/
abbrev Outcome.FailsTold {α : Type} (outcome : Except Failure α) : Prop :=
  FailsAs (fun failure => failure.hasText) outcome

/-- Whatever a cluster fails a call with has a text. -/
structure Cluster.IsTold (cluster : Cluster) : Prop where
  list : ∀ listing, Outcome.FailsTold (cluster.list listing)
  nodeStats : ∀ node, Outcome.FailsTold (cluster.nodeStats node)
  podMetric : ∀ namespaceName metric, Outcome.FailsTold (cluster.podMetric namespaceName metric)

/-- Every failure of a call has a text. -/
structure Source.IsTold (source : Source) : Prop where
  list : ∀ listing, Outcome.FailsTold (source.list listing).outcome
  nodeStats : ∀ node, Outcome.FailsTold (source.nodeStats node).outcome
  podMetric : ∀ namespaceName metric,
    Outcome.FailsTold (source.podMetric namespaceName metric).outcome

/-- A name without a text fails a call in a way that has one. -/
theorem Name.failsTold_told (name : Name) : Outcome.FailsTold name.told := by
  intro failure failed
  obtain ⟨cause, _, rfl⟩ := Outcome.mapError_eq_error.1 failed
  exact Failure.hasText_undeclared cause

namespace Cluster.IsTold

variable {cluster : Cluster}

theorem statsOf (told : cluster.IsTold) (node : Name) : Outcome.FailsTold (cluster.statsOf node) :=
  node.failsTold_told.bind fun name _ => told.nodeStats name

theorem metricOf (told : cluster.IsTold) (namespaceName metric : Name) :
    Outcome.FailsTold (cluster.metricOf namespaceName metric) :=
  namespaceName.failsTold_told.bind fun _ _ =>
    metric.failsTold_told.bind fun _ _ => told.podMetric _ _

/-- The source that hands on the answers of a cluster fails as the cluster does. -/
theorem source (told : cluster.IsTold) : (Source.ofCluster cluster).IsTold where
  list := told.list
  nodeStats := told.statsOf
  podMetric := told.metricOf

end Cluster.IsTold

/-- What a cycle over such a source fails with has a message, whether it comes from a call or is the
agent's own. -/
theorem Inventory.failsAs_collect [Platform] {source : Source} (told : source.IsTold)
    (logging : Logging) :
    FailsAs Failure.IsTellable (collect logging source).outcome := by
  have own {α : Type} {outcome : Except Failure α} (isOwn : Outcome.IsOwn outcome) :
      FailsAs Failure.IsTellable outcome := isOwn.mono fun _ => Failure.IsOwn.isTellable
  have lists : FailsAs Failure.IsTellable (fetchLists source).outcome := by
    refine .all fun call member => ?_
    obtain ⟨listing, _, rfl⟩ := List.mem_map.1 member
    exact ((told.list listing).mono fun _ => Failure.isTellable_of_hasText).map
  have stats (nodes : List (Name × Value)) :
      FailsAs Failure.IsTellable (fetchStats source nodes).outcome := by
    refine .all fun call member => ?_
    obtain ⟨⟨name, item⟩, _, rfl⟩ := List.mem_map.1 member
    exact ((told.nodeStats name).mono fun _ => Failure.isTellable_of_hasText).map
  have entities : FailsAs Failure.IsTellable (fetchEntities source) :=
    lists.bind fun _ _ => (own (isOwn_items _ _)).bind fun _ _ =>
      (own (Outcome.isOwn_undeclared _)).bind fun _ _ => (stats _).bind fun _ _ =>
        own (isOwn_readEntities _ _)
  rw [outcome_collect]
  exact entities.bind fun _ _ => (own (isOwn_collectGroups _ _ _ _)).map

end ClusterAgent
