import ClusterAgent.Proofs.Records.Numbers
import ClusterAgent.Proofs.Report.Views
import ClusterAgent.Proofs.Statistics.Replies

/-!
Contract: the statistics of nodes, summed up for the cluster.

Every name counts once, with the snapshot of the last node that has it. The sums
have the objects of the first snapshot, and its numbers; a number of another
snapshot is added where the first one has a number in the same place. The time is
the mean of all times.

Owns: the snapshots that are summed up, the sums, the mean time.
Does not own: how a snapshot is made, where its numbers stand, what a fold of
records does at a leaf.
-/

namespace ClusterAgent

/-! ## Snapshots of nodes -/

/-- A node with the snapshot that its reply is reduced to, where the reply is a text or a value
whose objects have their members in order. -/
def SampledNode.IsReported [Platform] (sampled : SampledNode) : Prop :=
  ∃ reply, (∀ value, reply = some value → value.IsCanonical) ∧
    SampledNode.ofReply sampled.node reply = .ok sampled

theorem NodeStats.latest_of_latestOf [Platform] {node reply : Field} {snapshot : Members}
    (reduced : latestOf node reply = .ok snapshot) : ∃ name, latest reply name = .ok snapshot := by
  unfold latestOf at reduced
  split at reduced
  · exact ⟨_, Outcome.mapError_eq_ok.1 reduced⟩
  · exact ⟨_, Outcome.mapError_eq_ok.1 reduced⟩

/-- The snapshot of a node is in order at every depth, and has a time. -/
theorem SampledNode.IsReported.sample [Platform] {sampled : SampledNode}
    (reported : sampled.IsReported) :
    (Value.object sampled.sample).IsCanonical ∧
      ∃ time, sampled.sample.numberAt? ["timestamp"] = some time := by
  obtain ⟨node, sample⟩ := sampled
  obtain ⟨reply, canonical, given⟩ := reported
  obtain ⟨snapshot, reduced, same⟩ := Outcome.bind_eq_ok.1 given
  cases same
  obtain ⟨name, isLatest⟩ := NodeStats.latest_of_latestOf reduced
  obtain ⟨statistics, last, seconds, decodes, accepts, rfl⟩ := NodeStats.latest_eq_ok.1 isLatest
  have lastCanonical := accepts.isCanonical (decodes.isCanonical canonical)
  exact ⟨NodeStats.isCanonical_snapshotOf lastCanonical seconds, _,
    Members.numberAt?_singleton
      (NodeStats.isSnapshotOf_snapshotOf lastCanonical.members seconds).time⟩

namespace NodeList

/-- The snapshots of the distinct names in the order in which these first come, each of the last
node of its name. -/
def snapshots (nodes : List SampledNode) : List Members :=
  (Entity.names nodes).eraseDups.filterMap fun name =>
    (Entity.last? nodes name).map SampledNode.sample

theorem values_samples (nodes : List SampledNode) : (samples nodes).values = snapshots nodes :=
  Entity.values_byName SampledNode.sample nodes

theorem length_snapshots (nodes : List SampledNode) :
    (snapshots nodes).length = (Entity.names nodes).eraseDups.length := by
  rw [← values_samples, ← Entity.keys_byName SampledNode.sample nodes, Table.values,
    List.length_map, Table.keys, List.length_map]
  rfl

theorem exists_of_mem_snapshots {nodes : List SampledNode} {snapshot : Members}
    (isSnapshot : snapshot ∈ snapshots nodes) : ∃ sampled ∈ nodes, snapshot = sampled.sample := by
  rw [← values_samples] at isSnapshot
  exact Entity.exists_of_mem_values_byName isSnapshot

theorem exists_snapshots {nodes : List SampledNode} (named : Entity.names nodes ≠ []) :
    ∃ first rest, snapshots nodes = first :: rest := by
  apply List.exists_cons_of_ne_nil
  rw [← List.length_pos_iff, length_snapshots, List.length_pos_iff]
  exact eraseDups_ne_nil named

/-! ## The mean time -/

/-- Only the time is changed, and it stands at the top. -/
theorem averageTime_eq_mapLeaves (count : Nat) (record : Record Number) :
    averageTime count record = record.mapLeaves fun path total =>
      if path = ["timestamp"] then meanTime total count else total := by
  induction record with
  | nil => rfl
  | cons entry rest inductionHypothesis =>
    obtain ⟨key, tree⟩ := entry
    rw [Record.mapLeaves, ← inductionHypothesis, averageTime, List.map_cons]
    congr 1
    cases tree with
    | leaf total =>
      dsimp only
      rw [Tree.mapLeaves]
      split
      · rename_i isTime
        rw [if_pos (by rw [isTime])]
      · rename_i isOther
        rw [if_neg (by simpa using isOther)]
    | node members =>
      dsimp only
      rw [Tree.mapLeaves]
      congr 2
      -- A leaf inside of an object has a path of at least two keys, so it is not the time.
      refine (Record.mapLeaves_value members).symm.trans (Record.mapLeaves_congr members ?_)
      intro leaf isLeaf
      obtain ⟨inner, path, isPath⟩ := Record.exists_cons_of_mem_leaves isLeaf
      rw [if_neg (by simp [isPath])]

/-! ## Sums -/

theorem clusterStats_of_nameless {nodes : List SampledNode} (nameless : Entity.names nodes = []) :
    clusterStats nodes = .error (.aggregation (.emptyAggregation "node statistics")) := by
  have noSnapshots : (samples nodes).values = [] := by
    rw [values_samples, snapshots, nameless]
    rfl
  rw [clusterStats, noSnapshots]
  rfl

/-- The sums of snapshots as a record that changes the leaves of the first one. -/
def sumOf (first : Members) (rest : List Members) : Record Number :=
  Record.mapLeaves (fun path number =>
      let total := (Record.valuesAt (rest.map Tree.numericMembers) path).foldl Number.add number
      if path = ["timestamp"] then meanTime total (rest.length + 1) else total)
    (Tree.numericMembers first)

theorem clusterStats_eq {nodes : List SampledNode} {first : Members} {rest : List Members}
    (listed : snapshots nodes = first :: rest) : clusterStats nodes = .ok (sumOf first rest) := by
  rw [clusterStats, values_samples, listed, List.map_cons, sumRecords, Record.foldAll,
    Outcome.mapError_ok, Outcome.ok_bind, Outcome.pure_eq_ok, averageTime_eq_mapLeaves,
    Record.foldl_combine_eq_mapLeaves, Record.mapLeaves_mapLeaves, List.length_cons,
    List.length_map, sumOf]

/-- What snapshots are summed up to: the objects of the first one and its numbers, in its order, with
the numbers that others have in the same place added one after the other. The time is the mean of
all times, to one decimal. -/
structure IsSumOf (first : Members) (rest : List Members) (sums : Record Number) : Prop where
  keys : ∀ path, sums.keysAt? path =
    if "__proto__" ∈ path then none else (first.objectAt? path).map Members.numericKeys
  numbers : ∀ path, path ≠ ["timestamp"] → sums.leafAt? path =
    if "__proto__" ∈ path then none
    else (first.numberAt? path).map fun number =>
      (rest.filterMap fun snapshot => snapshot.numberAt? path).foldl Number.add number
  time : ∃ timeOf : Members → Number,
    (∀ snapshot ∈ first :: rest, snapshot.numberAt? ["timestamp"] = some (timeOf snapshot)) ∧
      sums.leafAt? ["timestamp"] =
        some (((((rest.map timeOf).foldl Number.add (timeOf first)).div
          (.ofNat (rest.length + 1))).mul (.ofNat 10)).round.div (.ofNat 10))

section Sum

variable {first : Members} {rest : List Members}
  (canonical : ∀ snapshot ∈ first :: rest, (Value.object snapshot).IsCanonical)
include canonical

theorem leafAt?_sumOf {path : List String} (unreserved : "__proto__" ∉ path) :
    (sumOf first rest).leafAt? path = (first.numberAt? path).map fun number =>
      let total :=
        (rest.filterMap fun snapshot => snapshot.numberAt? path).foldl Number.add number
      if path = ["timestamp"] then meanTime total (rest.length + 1) else total := by
  obtain ⟨firstCanonical, restCanonical⟩ := List.forall_mem_cons.1 canonical
  rw [sumOf, Record.leafAt?_mapLeaves, Record.leafAt?_numericMembers firstCanonical,
    if_neg unreserved, Record.valuesAt_numericMembers restCanonical unreserved]

theorem isSumOf_sumOf {timeOf : Members → Number}
    (timed : ∀ snapshot ∈ first :: rest,
      snapshot.numberAt? ["timestamp"] = some (timeOf snapshot)) :
    IsSumOf first rest (sumOf first rest) where
  keys path := by
    rw [sumOf, Record.keysAt?_mapLeaves,
      Record.keysAt?_numericMembers (canonical first List.mem_cons_self)]
  numbers path isOther := by
    by_cases reserved : "__proto__" ∈ path
    · rw [sumOf, Record.leafAt?_mapLeaves,
        Record.leafAt?_numericMembers (canonical first List.mem_cons_self), if_pos reserved,
        if_pos reserved, Option.map_none]
    · rw [leafAt?_sumOf canonical reserved, if_neg reserved]
      simp only [if_neg isOther]
  time := by
    obtain ⟨firstTimed, restTimed⟩ := List.forall_mem_cons.1 timed
    refine ⟨timeOf, timed, ?_⟩
    rw [leafAt?_sumOf canonical (by decide), firstTimed, List.filterMap_congr restTimed,
      List.filterMap_eq_map', Option.map_some]
    dsimp only
    rw [if_pos rfl, meanTime]

end Sum

/-- A node list without a named node has no statistics. Any other one sums up the snapshots of its
distinct names, as many as there are distinct names. -/
theorem clusterStats_sums_snapshots [Platform] {nodes : List SampledNode}
    (reported : ∀ sampled ∈ nodes, sampled.IsReported) :
    (Entity.names nodes = [] →
        clusterStats nodes = .error (.aggregation (.emptyAggregation "node statistics"))) ∧
      (Entity.names nodes ≠ [] → ∃ first rest sums,
        snapshots nodes = first :: rest ∧
          rest.length + 1 = (Entity.names nodes).eraseDups.length ∧
          clusterStats nodes = .ok sums ∧ IsSumOf first rest sums) := by
  refine ⟨clusterStats_of_nameless, fun named => ?_⟩
  obtain ⟨first, rest, listed⟩ := exists_snapshots named
  -- Every snapshot has a time, so it makes no difference what stands for one that is missing.
  have described : ∀ snapshot ∈ first :: rest, (Value.object snapshot).IsCanonical ∧
      snapshot.numberAt? ["timestamp"] =
        some ((snapshot.numberAt? ["timestamp"]).getD .nan) := by
    intro snapshot isSnapshot
    obtain ⟨sampled, inNodes, rfl⟩ := exists_of_mem_snapshots (listed ▸ isSnapshot)
    obtain ⟨canonical, time, timed⟩ := (reported sampled inNodes).sample
    refine ⟨canonical, ?_⟩
    rw [timed, Option.getD_some]
  have counted : rest.length + 1 = (Entity.names nodes).eraseDups.length := by
    rw [← length_snapshots, listed, List.length_cons]
  exact ⟨first, rest, _, listed, counted, clusterStats_eq listed,
    isSumOf_sumOf (fun snapshot isSnapshot => (described snapshot isSnapshot).1)
      fun snapshot isSnapshot => (described snapshot isSnapshot).2⟩

/-- Statistics that list one sample of a processor. -/
def processorStatistics (timestamp : String) (cpu : Members) : Value :=
  .object [("stats", .list [.object (Members.ofList
    [("cpu", .object (Members.ofList cpu)), ("timestamp", .text timestamp)])])]

section Universal

attribute [local instance] Platform.universal

/-- A node that is known by a name and by its statistics. -/
def reportingNode (name : Name) (statistics : Value) : SampledNode :=
  ⟨⟨⟨name, none, none⟩, none, none, .ok []⟩,
    (NodeStats.latestOf name.field (some statistics)).toOption.getD []⟩

/-- Two nodes of one name, one of another, and one without a name. -/
def reportingNodes : List SampledNode :=
  [reportingNode "worker-1" (processorStatistics "2021-03-04T05:06:00Z"
      [("idle", .number (.ofNat 9))]),
    reportingNode "worker-2" (processorStatistics "2021-03-04T05:06:08Z"
      [("usage", .number (.ofNat 3)), ("cores", .number (.ofNat 2))]),
    reportingNode .missing (processorStatistics "2021-03-04T05:06:00Z" []),
    reportingNode "worker-1" (processorStatistics "2021-03-04T05:06:07Z"
      [("cores", .list [.number (.ofNat 8)]), ("usage", .number (.ofNat 4))])]

theorem isReported_reportingNode (name : Name) (timestamp : String) {cpu : Members}
    (canonical : ∀ member ∈ cpu, member.2.IsCanonical)
    (reduced : (NodeStats.latestOf name.field (some (processorStatistics timestamp cpu))).isOk) :
    (reportingNode name (processorStatistics timestamp cpu)).IsReported := by
  have sample : (Value.object (Members.ofList
      [("cpu", .object (Members.ofList cpu)), ("timestamp", .text timestamp)])).IsCanonical :=
    .ofList (List.forall_mem_cons.2 ⟨.ofList canonical, List.forall_mem_singleton.2 (.text _)⟩)
  have statistics : (processorStatistics timestamp cpu).IsCanonical :=
    .singleton "stats" (.list (List.forall_mem_singleton.2 sample))
  refine ⟨some (processorStatistics timestamp cpu), by rintro _ ⟨⟩; exact statistics, ?_⟩
  rw [reportingNode, SampledNode.ofReply]
  cases reducedTo : NodeStats.latestOf name.field (some (processorStatistics timestamp cpu)) with
  | ok snapshot => rfl
  | error failure =>
    rw [reducedTo] at reduced
    cases reduced

theorem isReported_reportingNodes : ∀ sampled ∈ reportingNodes, sampled.IsReported := by
  have number (amount : Nat) : (.number (.ofNat amount) : Value).IsCanonical := .number _
  have cores : (.list [.number (.ofNat 8)] : Value).IsCanonical :=
    .list (List.forall_mem_singleton.2 (number 8))
  have idle : ∀ member ∈ ([("idle", .number (.ofNat 9))] : Members), member.2.IsCanonical :=
    List.forall_mem_singleton.2 (number 9)
  have busy : ∀ member ∈ ([("usage", .number (.ofNat 3)), ("cores", .number (.ofNat 2))] : Members),
      member.2.IsCanonical :=
    List.forall_mem_cons.2 ⟨number 3, List.forall_mem_singleton.2 (number 2)⟩
  have listed : ∀ member ∈ ([("cores", .list [.number (.ofNat 8)]),
      ("usage", .number (.ofNat 4))] : Members), member.2.IsCanonical :=
    List.forall_mem_cons.2 ⟨cores, List.forall_mem_singleton.2 (number 4)⟩
  rw [reportingNodes, List.forall_mem_cons, List.forall_mem_cons, List.forall_mem_cons,
    List.forall_mem_singleton]
  exact ⟨isReported_reportingNode "worker-1" "2021-03-04T05:06:00Z" idle (by decide +kernel),
    isReported_reportingNode "worker-2" "2021-03-04T05:06:08Z" busy (by decide +kernel),
    isReported_reportingNode .missing "2021-03-04T05:06:00Z" (List.forall_mem_nil _)
      (by decide +kernel),
    isReported_reportingNode "worker-1" "2021-03-04T05:06:07Z" listed (by decide +kernel)⟩

theorem clusterStats_sums_snapshots_of_reportingNodes :
    (∀ sampled ∈ reportingNodes, sampled.IsReported) ∧ Entity.names reportingNodes ≠ [] ∧
      ∃ sums, clusterStats reportingNodes = .ok sums ∧
        sums.keysAt? ["cpu"] = some ["usage"] ∧
        sums.leafAt? ["cpu", "usage"] = some (.ofNat 7) ∧
        sums.leafAt? ["timestamp"] = some (.ofQuotient false 16148343675 10) := by
  have named : Entity.names reportingNodes ≠ [] := by decide
  obtain ⟨first, rest, sums, listed, counted, summed, isSum⟩ :=
    (clusterStats_sums_snapshots isReported_reportingNodes).2 named
  have keys : (snapshots reportingNodes).map (fun snapshot =>
      (snapshot.objectAt? ["cpu"]).map Members.numericKeys) =
        [some ["usage"], some ["usage", "cores"]] := by decide +kernel
  have usages : (snapshots reportingNodes).map (fun snapshot =>
      snapshot.numberAt? ["cpu", "usage"]) = [some (.ofNat 4), some (.ofNat 3)] := by
    decide +kernel
  have times : (snapshots reportingNodes).map (fun snapshot =>
      snapshot.numberAt? ["timestamp"]) =
        [some (.ofNat 1614834367), some (.ofNat 1614834368)] := by decide +kernel
  rw [listed, List.map_cons, List.cons.injEq] at keys usages times
  have sizeEq : rest.length + 1 = 2 := counted.trans (by decide)
  refine ⟨isReported_reportingNodes, named, sums, summed, ?_, ?_, ?_⟩
  · rw [isSum.keys, if_neg (by decide), keys.1]
  · have others : rest.filterMap (fun snapshot => snapshot.numberAt? ["cpu", "usage"]) =
        [.ofNat 3] := by
      have asOptions := congrArg (List.filterMap id) usages.2
      rwa [List.filterMap_map] at asOptions
    rw [isSum.numbers ["cpu", "usage"] (by decide), if_neg (by decide), usages.1, others]
    decide +kernel
  · obtain ⟨timeOf, timed, mean⟩ := isSum.time
    obtain ⟨firstTimed, restTimed⟩ := List.forall_mem_cons.1 timed
    have firstTime := Option.some.inj (firstTimed.symm.trans times.1)
    have restTimes : rest.map timeOf = [.ofNat 1614834368] := by
      apply List.map_injective_iff.2 (Option.some_injective Number)
      rw [List.map_map]
      exact (List.map_congr_left restTimed).symm.trans times.2
    rw [mean, firstTime, restTimes, sizeEq]
    decide +kernel

end Universal

end NodeList

end ClusterAgent
