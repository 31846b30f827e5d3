import ClusterAgent.Proofs.Records.Regrouping
import Mathlib.Algebra.GroupWithZero.Nat
import Mathlib.Data.List.Sort

/-!
Contract: pods that are partitioned by the node that they are placed on.

A pod that declares a node stands under the name of that node and under no other;
a pod that declares none stands under no name. Each view by node is made of these
groups, so the order of pods on different nodes does not matter to it.

Owns: the groups of pods by node, views by node under reordering.
Does not own: what pods ask for.
-/

namespace ClusterAgent

/-- A node counts as declared if its name is not empty. -/
theorem Pod.node?_eq_some_text {pod : Pod} {name : String} :
    pod.node? = some (.text name) ↔ name ≠ "" ∧ pod.nodeName = .text name := by
  have isGiven_text (text : String) : (Name.text text).isGiven = decide (text ≠ "") := rfl
  unfold node? Name.given?
  constructor
  · intro placed
    split at placed
    · rename_i given
      rw [Option.some.injEq] at placed
      rw [placed, isGiven_text, decide_eq_true_eq] at given
      exact ⟨given, placed⟩
    · cases placed
  · rintro ⟨nonempty, declared⟩
    rw [declared, isGiven_text, decide_eq_true nonempty, if_pos rfl]

namespace PodList

variable {pods reordered : List Pod}

/-- The pods that declare a node by a name, in the order of the list. -/
def declaring (name : String) (pods : List Pod) : List Pod :=
  pods.filter fun pod => pod.nodeName = .text name

/-- The pods that declare a node. -/
def scheduled (pods : List Pod) : List Pod := pods.filter fun pod => pod.node?.isSome

def unscheduled (pods : List Pod) : List Pod := pods.filter fun pod => !pod.node?.isSome

/-- The names of the nodes that pods declare, in the order of their units. -/
def names (pods : List Pod) : List String := (hosts pods).map Name.label

/-! ## Groups -/

theorem placedOn_text {name : String} (nonempty : name ≠ "") (pods : List Pod) :
    placedOn (.text name) pods = declaring name pods := by
  apply List.filter_congr
  intro pod _
  rw [decide_eq_decide, Pod.node?_eq_some_text, and_iff_right nonempty]

theorem text_mem_hosts {name : String} :
    .text name ∈ hosts pods ↔ name ≠ "" ∧ ∃ pod ∈ pods, pod.nodeName = .text name := by
  rw [mem_hosts]
  simp only [Pod.node?_eq_some_text]
  constructor
  · rintro ⟨pod, member, nonempty, declared⟩
    exact ⟨nonempty, pod, member, declared⟩
  · rintro ⟨nonempty, pod, member, declared⟩
    exact ⟨pod, member, nonempty, declared⟩

section Typed

variable (typed : ∀ pod ∈ pods, pod.IsTyped)

include typed

theorem hosts_eq_map_names : hosts pods = (names pods).map .text := by
  have isText : ∀ host ∈ hosts pods, Name.text host.label = id host := by
    intro host member
    obtain ⟨name, rfl⟩ := exists_text_of_mem_hosts typed member
    exact congrArg Name.text (Name.label_text name)
  calc hosts pods
    _ = (hosts pods).map id := (List.map_id _).symm
    _ = (hosts pods).map fun host => .text host.label := (List.map_congr_left isText).symm
    _ = (names pods).map .text := by
      rw [names, List.map_map]
      rfl

theorem mem_names {name : String} :
    name ∈ names pods ↔ name ≠ "" ∧ ∃ pod ∈ pods, pod.nodeName = .text name := by
  rw [← text_mem_hosts, hosts_eq_map_names typed,
    List.mem_map_of_injective fun _ _ same => Name.text.inj same]

theorem pairwise_names : (names pods).Pairwise UnitsBefore := by
  have ascending := pairwise_hosts typed
  rw [hosts_eq_map_names typed, List.pairwise_map] at ascending
  simpa using ascending

theorem map_placedOn_hosts :
    (hosts pods).map (placedOn · pods) = (names pods).map (declaring · pods) := by
  rw [hosts_eq_map_names typed, List.map_map]
  apply List.map_congr_left
  intro name member
  exact placedOn_text ((mem_names typed).1 member).1 pods

/-- The groups of all names hold every pod that declares a node once, and no other. -/
theorem flatten_declaring_perm :
    ((names pods).map (declaring · pods)).flatten.Perm (scheduled pods) := by
  rw [← map_placedOn_hosts typed]
  apply flatten_placedOn_perm (nodup_hosts pods) pods
  intro pod member host placed
  exact mem_hosts.2 ⟨pod, member, placed⟩

theorem sum_length_declaring :
    ((names pods).map fun name => (declaring name pods).length).sum = (scheduled pods).length := by
  have sameLength := (flatten_declaring_perm typed).length_eq
  rw [List.length_flatten, List.map_map] at sameLength
  exact sameLength

/-! ## Reordering -/

/-- Names that ascend and are those that pods declare are the names of their nodes. -/
theorem names_eq {ascending : List String} (ordered : ascending.Pairwise UnitsBefore)
    (declared : ∀ name,
      name ∈ ascending ↔ name ≠ "" ∧ ∃ pod ∈ pods, pod.nodeName = .text name) :
    names pods = ascending := by
  apply (pairwise_names typed).eq_of_mem_iff ordered
  intro name
  rw [mem_names typed, declared]

theorem typed_of_perm (permuted : reordered.Perm pods) : ∀ pod ∈ reordered, pod.IsTyped :=
  fun pod member => typed pod (permuted.mem_iff.1 member)

/-- The nodes do not depend on the order of the pods. -/
theorem hosts_of_perm (permuted : reordered.Perm pods) : hosts reordered = hosts pods := by
  have reorderedTyped := typed_of_perm typed permuted
  have sameNames : names reordered = names pods := by
    apply names_eq reorderedTyped (pairwise_names typed)
    intro name
    rw [mem_names typed]
    exact and_congr_right fun _ => exists_congr fun pod =>
      and_congr_left fun _ => permuted.mem_iff.symm
  rw [hosts_eq_map_names reorderedTyped, hosts_eq_map_names typed, sameNames]

/-- A view by node sees only the pods of each node in their order. -/
theorem perNode_of_perm {α : Type} (view : List Pod → Except Failure α)
    (permuted : reordered.Perm pods)
    (sameGroups : ∀ name, name ≠ "" → declaring name reordered = declaring name pods) :
    perNode view reordered = perNode view pods := by
  have reorderedTyped := typed_of_perm typed permuted
  have traversed : ((hosts pods).mapM fun node => (node, ·) <$> view (placedOn node reordered)) =
      (hosts pods).mapM fun node => (node, ·) <$> view (placedOn node pods) := by
    apply Outcome.mapM_congr
    intro host member
    obtain ⟨name, rfl⟩ := exists_text_of_mem_hosts typed member
    have nonempty : name ≠ "" := (text_mem_hosts.1 member).1
    rw [placedOn_text nonempty, placedOn_text nonempty, sameGroups name nonempty]
  unfold perNode
  rw [nodes_eq typed, nodes_eq reorderedTyped, hosts_of_perm typed permuted, Outcome.mapError_ok,
    Outcome.ok_bind, Outcome.ok_bind, traversed]

end Typed

/-! ## Views by node -/

/-- What views by node tell of a group of pods: that it is not empty, how many it has, and the fold
of their resources from zero, in the order of the group. -/
structure TellsGroup (group : List Pod) (count resources : Option (Record Number)) : Prop where
  nonempty : 1 ≤ group.length
  count : count = some (countRecord group.length)
  resources : ∃ records sum, group.mapM Pod.resources = .ok records ∧
    Record.foldAll Number.add records (some PodAmounts.zero.record) "records" = .ok sum ∧
    resources = some sum

theorem exists_fold_of_totalResources {group : List Pod} {sum : Record Number}
    (totalled : totalResources group = .ok sum) :
    ∃ records, group.mapM Pod.resources = .ok records ∧
      Record.foldAll Number.add records (some PodAmounts.zero.record) "records" = .ok sum := by
  obtain ⟨records, read, folded⟩ := Outcome.bind_eq_ok.1 totalled
  exact ⟨records, read, Outcome.mapError_eq_ok.1 folded⟩

/-- Both views by node have the declared names as keys, each once and in the order of their units.
They tell of each name the group of the pods that declare it. The groups are together the pods that
declare a node, so their sizes add up to all pods but those that declare none. As long as each group
keeps its order, the order of the pods changes neither view. -/
theorem views_partition_pods (pods : List Pod) (typed : ∀ pod ∈ pods, pod.IsTyped)
    (accepted : ∀ pod ∈ pods, pod.IsAccepted) :
    ∃ (names : List String) (counts resources : Table Name (Record Number)),
      podsPerNode pods = .ok counts ∧ resourcesPerNode pods = .ok resources ∧
      counts.keys = names.map .text ∧ resources.keys = names.map .text ∧
      names.Pairwise UnitsBefore ∧
      (∀ name, name ∈ names ↔ name ≠ "" ∧ ∃ pod ∈ pods, pod.nodeName = .text name) ∧
      (∀ name ∈ names, TellsGroup (declaring name pods) (counts.get? (.text name))
        (resources.get? (.text name))) ∧
      (names.map (declaring · pods)).flatten.Perm (scheduled pods) ∧
      (names.map fun name => (declaring name pods).length).sum = (scheduled pods).length ∧
      podsInCluster pods = countRecord
        ((names.map fun name => (declaring name pods).length).sum + (unscheduled pods).length) ∧
      ∀ reordered, reordered.Perm pods →
        (∀ name, name ≠ "" → declaring name reordered = declaring name pods) →
          podsPerNode reordered = podsPerNode pods ∧
          resourcesPerNode reordered = resourcesPerNode pods := by
  refine ⟨names pods, _, _, podsPerNode_eq typed, resourcesPerNode_eq typed accepted, ?_, ?_,
    pairwise_names typed, fun name => mem_names typed, ?_, flatten_declaring_perm typed,
    sum_length_declaring typed, ?_, ?_⟩
  · rw [Table.keys_tabulate, hosts_eq_map_names typed]
  · rw [Table.keys_tabulate, hosts_eq_map_names typed]
  · intro name member
    obtain ⟨nonempty, pod, inPods, declared⟩ := (mem_names typed).1 member
    have isHost : .text name ∈ hosts pods := text_mem_hosts.2 ⟨nonempty, pod, inPods, declared⟩
    have inGroup : pod ∈ declaring name pods :=
      List.mem_filter.2 ⟨inPods, decide_eq_true declared⟩
    have groupTotal : totalResources (declaring name pods) =
        .ok (total (declaring name pods)).record := by
      apply totalResources_eq
      · exact fun other isMember => typed other (List.mem_of_mem_filter isMember)
      · exact fun other isMember => accepted other (List.mem_of_mem_filter isMember)
    obtain ⟨records, read, folded⟩ := exists_fold_of_totalResources groupTotal
    rw [Table.get?_tabulate, Table.get?_tabulate, if_pos isHost, if_pos isHost,
      placedOn_text nonempty]
    exact ⟨List.length_pos_of_mem inGroup, rfl, records, _, read, folded, rfl⟩
  · have parts : pods.length = (scheduled pods).length + (unscheduled pods).length :=
      List.length_eq_length_filter_add _
    rw [podsInCluster, sum_length_declaring typed, ← parts]
  · intro reordered permuted sameGroups
    exact ⟨perNode_of_perm typed _ permuted sameGroups,
      perNode_of_perm typed _ permuted sameGroups⟩

/-- Pods on two nodes and on none. The first node is before the second by its character, and after
it by its units. -/
def spreadPods : List Pod :=
  [⟨default, .text "～", .ok [⟨.absent, .absent⟩]⟩,
    ⟨default, .null, .ok [⟨.absent, .absent⟩]⟩,
    ⟨default, .text "～", .ok [⟨.absent, .table ⟨[("memory", .text "1Ki")]⟩⟩]⟩,
    ⟨default, .text "", .ok []⟩,
    ⟨default, .text "😀", .ok [⟨.table ⟨[("cpu", .text "500m")]⟩, .absent⟩]⟩,
    ⟨default, .missing, .ok []⟩]

/-- The same pods, the last three in front. -/
def rotatedPods : List Pod := spreadPods.drop 3 ++ spreadPods.take 3

theorem isTyped_spreadPods : ∀ pod ∈ spreadPods, pod.IsTyped := by
  have named (field : Field) (formed : Form.nullable Form.text field) :
      (Name.ofField (.host 0) field).IsTyped := Name.isTyped_ofField formed _
  have bare : Container.IsTyped ⟨.absent, .absent⟩ := ⟨trivial, trivial⟩
  have asking : Container.IsTyped ⟨.absent, .table ⟨[("memory", .text "1Ki")]⟩⟩ :=
    ⟨trivial, List.forall_mem_singleton.2 (by decide)⟩
  have limited : Container.IsTyped ⟨.table ⟨[("cpu", .text "500m")]⟩, .absent⟩ :=
    ⟨List.forall_mem_singleton.2 (by decide), trivial⟩
  unfold spreadPods
  simp only [List.forall_mem_cons]
  refine ⟨?first, ?null, ?again, ?empty, ?second, ?missing, by simp⟩
  case first =>
    exact ⟨named (some (.text "～")) rfl, _, rfl, List.forall_mem_singleton.2 bare⟩
  case null => exact ⟨named (some .null) rfl, _, rfl, List.forall_mem_singleton.2 bare⟩
  case again =>
    exact ⟨named (some (.text "～")) rfl, _, rfl, List.forall_mem_singleton.2 asking⟩
  case empty => exact ⟨named (some (.text "")) rfl, _, rfl, by simp⟩
  case second =>
    exact ⟨named (some (.text "😀")) rfl, _, rfl, List.forall_mem_singleton.2 limited⟩
  case missing => exact ⟨named none rfl, _, rfl, by simp⟩

theorem isAccepted_spreadPods : ∀ pod ∈ spreadPods, pod.IsAccepted :=
  (reads_totalResources isTyped_spreadPods).accepted_of_ok rfl

theorem perm_rotatedPods : rotatedPods.Perm spreadPods :=
  List.perm_append_comm.trans (.of_eq (List.take_append_drop 3 spreadPods))

/-- The rotation parts no two pods of one node. -/
theorem declaring_rotatedPods (name : String) :
    declaring name rotatedPods = declaring name spreadPods := by
  by_cases isFirst : name = "～"
  · rw [isFirst]
    rfl
  · have noneTaken : declaring name (spreadPods.take 3) = [] := by
      simp [declaring, spreadPods, Ne.symm isFirst]
    calc declaring name rotatedPods
      _ = declaring name (spreadPods.drop 3) ++ declaring name (spreadPods.take 3) :=
        List.filter_append ..
      _ = declaring name (spreadPods.take 3) ++ declaring name (spreadPods.drop 3) := by
        rw [noneTaken, List.append_nil, List.nil_append]
      _ = declaring name (spreadPods.take 3 ++ spreadPods.drop 3) := (List.filter_append ..).symm
      _ = declaring name spreadPods := by rw [List.take_append_drop]

theorem mem_spreadNames (name : String) :
    name ∈ ["😀", "～"] ↔ name ≠ "" ∧ ∃ pod ∈ spreadPods, pod.nodeName = .text name := by
  have declared : (∃ pod ∈ spreadPods, pod.nodeName = .text name) ↔
      "～" = name ∨ "" = name ∨ "😀" = name := by simp [spreadPods]
  rw [declared]
  grind

theorem views_partition_pods_of_spreadPods :
    (∀ pod ∈ spreadPods, pod.IsTyped) ∧ (∀ pod ∈ spreadPods, pod.IsAccepted) ∧
      rotatedPods.Perm spreadPods ∧
      ∃ counts resources : Table Name (Record Number),
        podsPerNode spreadPods = .ok counts ∧ resourcesPerNode spreadPods = .ok resources ∧
        counts.keys = [.text "😀", .text "～"] ∧ resources.keys = [.text "😀", .text "～"] ∧
        counts.get? (.text "～") = some (countRecord 2) ∧
        podsInCluster spreadPods = countRecord (3 + 3) ∧
        podsPerNode rotatedPods = .ok counts ∧ resourcesPerNode rotatedPods = .ok resources := by
  obtain ⟨names, counts, resources, counted, shown, countKeys, resourceKeys, ascending, declared,
    tells, _, _, inCluster, reordering⟩ :=
    views_partition_pods spreadPods isTyped_spreadPods isAccepted_spreadPods
  have ordered : ["😀", "～"].Pairwise UnitsBefore :=
    List.pairwise_pair.2 (.rel (by decide : 0xd83d < 0xff5e))
  have isNames : names = ["😀", "～"] := by
    apply ascending.eq_of_mem_iff ordered
    intro name
    rw [declared, mem_spreadNames]
  rw [isNames] at countKeys resourceKeys tells inCluster
  obtain ⟨sameCounts, sameResources⟩ := reordering rotatedPods perm_rotatedPods
    fun name _ => declaring_rotatedPods name
  exact ⟨isTyped_spreadPods, isAccepted_spreadPods, perm_rotatedPods, counts, resources, counted,
    shown, countKeys, resourceKeys, (tells "～" (by decide)).count, inCluster,
    sameCounts.trans counted, sameResources.trans shown⟩

end PodList

end ClusterAgent
