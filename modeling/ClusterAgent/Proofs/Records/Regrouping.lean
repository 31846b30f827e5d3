import ClusterAgent.Proofs.Records.Leaves
import ClusterAgent.Proofs.Report.Placement
import Mathlib.Data.List.Perm.Basic

/-!
Contract: folds of folds.

A fold from a seed whose values are all neutral does not see how the records are
ordered and grouped, if the operator does not: the folds of groups can be folded
like the records themselves. So sums over nodes may be summed up instead of the
pods on them.

Owns: records with distinct keys, folds of groups, records grouped by node.
Does not own: which operators have these laws.
-/

namespace ClusterAgent

variable {α β : Type}

/-! ## Values at a path -/

/-- Trees in which no record has a key twice. -/
inductive Tree.IsKeyed : Tree α → Prop where
  | leaf (value : α) : IsKeyed (.leaf value)
  | node {members : Record α} (distinct : (members.map Prod.fst).Nodup)
      (each : ∀ member ∈ members, member.2.IsKeyed) : IsKeyed (.node members)

/-- A record that has no key twice, at any depth. -/
abbrev Record.IsKeyed (record : Record α) : Prop := Tree.IsKeyed (.node record)

theorem Record.exists_of_mem_leaves {record : Record α} {leaf : List String × α}
    (member : leaf ∈ record.leaves) :
    ∃ entry ∈ record, ∃ inner ∈ entry.2.leaves, leaf = (entry.1 :: inner.1, inner.2) := by
  induction record with
  | nil => cases member
  | cons first rest inductionHypothesis =>
    rcases List.mem_append.1 member with inFirst | later
    · obtain ⟨inner, isInner, rfl⟩ := List.mem_map.1 inFirst
      exact ⟨first, List.mem_cons_self, inner, isInner, rfl⟩
    · obtain ⟨entry, inRest, found⟩ := inductionHypothesis later
      exact ⟨entry, List.mem_cons_of_mem first inRest, found⟩

/-- The path to a leaf leads to its value, as no key on the way stands for anything else. -/
theorem Tree.leafAt?_of_mem_leaves : (tree : Tree α) → tree.IsKeyed →
    ∀ found ∈ tree.leaves, tree.leafAt? found.1 = some found.2
  | .leaf value, _, found, member => by
    rw [Tree.leaves, List.mem_singleton] at member
    rw [member]
    rfl
  | .node members, .node distinct each, found, member => by
    obtain ⟨entry, inMembers, inner, isInner, rfl⟩ := Record.exists_of_mem_leaves member
    have leads : (Table.mk members).get? entry.1 = some entry.2 :=
      Table.get?_of_mem_entries distinct inMembers
    change ((Table.mk members).get? entry.1).bind _ = _
    rw [leads]
    exact Tree.leafAt?_of_mem_leaves entry.2 (each entry inMembers) inner isInner

/-! ## Folds of groups -/

/-- Groups that are folded from a neutral value, and folded on, come to what all items come to. -/
theorem foldl_map_foldl (operator : α → α → α) [Std.Associative operator] {neutral : α}
    (keeps : ∀ value, operator value neutral = value) (groups : List (List α)) (start : α) :
    (groups.map fun group => group.foldl operator neutral).foldl operator start =
      groups.flatten.foldl operator start := by
  induction groups generalizing start with
  | nil => rfl
  | cons group rest inductionHypothesis =>
    have joined : group.foldl operator (operator start neutral) =
        operator start (group.foldl operator neutral) := List.foldl_assoc
    rw [keeps] at joined
    rw [List.map_cons, List.foldl_cons, ← joined, inductionHypothesis, List.flatten_cons,
      List.foldl_append]

namespace Record

theorem valuesAt_perm {records reordered : List (Record α)} (permuted : reordered.Perm records)
    (path : List String) : (valuesAt reordered path).Perm (valuesAt records path) :=
  permuted.filterMap _

theorem valuesAt_flatten (groups : List (List (Record α))) (path : List String) :
    valuesAt groups.flatten path = (groups.map (valuesAt · path)).flatten :=
  List.filterMap_flatten

/-- At a leaf of the seed, each group comes to the fold of its own values. -/
theorem valuesAt_folds (operator : α → α → α) {seed : Record α} (keyed : seed.IsKeyed)
    (groups : List (List (Record α))) {leaf : List String × α} (member : leaf ∈ seed.leaves) :
    valuesAt (groups.map fun group => group.foldl (combine operator) seed) leaf.1 =
      groups.map fun group => (valuesAt group leaf.1).foldl operator leaf.2 := by
  have found : seed.leafAt? leaf.1 = some leaf.2 :=
    Tree.leafAt?_of_mem_leaves (.node seed) keyed leaf member
  have folded (group : List (Record α)) :
      (group.foldl (combine operator) seed).leafAt? leaf.1 =
        some ((valuesAt group leaf.1).foldl operator leaf.2) := by
    rw [foldl_combine_eq_mapLeaves, leafAt?_mapLeaves, found, Option.map_some]
  rw [valuesAt, List.filterMap_map, ← List.filterMap_eq_map]
  exact List.filterMap_congr fun group _ => folded group

/-- The folds of groups fold to what the records do, in whatever order they are grouped. -/
theorem foldl_combine_regrouped (operator : α → α → α) [Std.Associative operator]
    [Std.Commutative operator] {seed : Record α} (keyed : seed.IsKeyed)
    (neutral : ∀ leaf ∈ seed.leaves, ∀ value, operator leaf.2 value = value)
    {records : List (Record α)} {groups : List (List (Record α))}
    (regrouped : groups.flatten.Perm records) :
    (groups.map fun group => group.foldl (combine operator) seed).foldl (combine operator) seed =
      records.foldl (combine operator) seed := by
  rw [foldl_combine_eq_mapLeaves, foldl_combine_eq_mapLeaves]
  apply mapLeaves_congr
  intro leaf member
  have keeps (value : α) : operator value leaf.2 = value :=
    (Std.Commutative.comm value leaf.2).trans (neutral leaf member value)
  rw [valuesAt_folds operator keyed groups member]
  calc (groups.map fun group => (valuesAt group leaf.1).foldl operator leaf.2).foldl operator leaf.2
    _ = (groups.map (valuesAt · leaf.1)).flatten.foldl operator leaf.2 := by
        rw [← foldl_map_foldl operator keeps, List.map_map]
        rfl
    _ = (valuesAt records leaf.1).foldl operator leaf.2 := by
        rw [← valuesAt_flatten]
        exact (valuesAt_perm regrouped leaf.1).foldl_op_eq

end Record

/-! ## Groups by node -/

namespace PodList

theorem placedOn_cons_of_ne {pod : Pod} {host : Name} (elsewhere : pod.node? ≠ some host)
    (rest : List Pod) : placedOn host (pod :: rest) = placedOn host rest :=
  List.filter_cons_of_neg (by simpa using elsewhere)

/-- The pods of each node are together the pods that are placed on any. -/
theorem flatten_placedOn_perm {hosts : List Name} (distinct : hosts.Nodup) (pods : List Pod)
    (complete : ∀ pod ∈ pods, ∀ host, pod.node? = some host → host ∈ hosts) :
    (hosts.map (placedOn · pods)).flatten.Perm (pods.filter fun pod => pod.node?.isSome) := by
  induction pods with
  | nil => simp [placedOn]
  | cons pod rest inductionHypothesis =>
    obtain ⟨here, later⟩ := List.forall_mem_cons.1 complete
    have permuted := inductionHypothesis later
    cases placed : pod.node? with
    | none =>
      have elsewhere : ∀ host ∈ hosts, placedOn host (pod :: rest) = placedOn host rest :=
        fun host _ => placedOn_cons_of_ne (by simp [placed]) rest
      rw [List.map_congr_left elsewhere, List.filter_cons_of_neg (by simp [placed])]
      exact permuted
    | some host =>
      obtain ⟨before, after, rfl⟩ := List.append_of_mem (here host placed)
      have elsewhere (others : List Name) (apart : ∀ other ∈ others, other ≠ host) :
          others.map (placedOn · (pod :: rest)) = others.map (placedOn · rest) := by
        refine List.map_congr_left fun other member => placedOn_cons_of_ne ?_ rest
        rw [placed]
        exact fun same => apart other member (Option.some.inj same).symm
      have split := List.nodup_append.1 distinct
      have beforeApart : ∀ other ∈ before, other ≠ host :=
        fun other member => split.2.2 other member host List.mem_cons_self
      have afterApart : ∀ other ∈ after, other ≠ host := by
        rintro other member rfl
        exact (List.nodup_cons.1 split.2.1).1 member
      have onHost : placedOn host (pod :: rest) = pod :: placedOn host rest :=
        List.filter_cons_of_pos (by simp [placed])
      rw [List.filter_cons_of_pos (by simp [placed]), List.map_append, List.map_cons, onHost,
        elsewhere before beforeApart, elsewhere after afterApart, List.flatten_append,
        List.flatten_cons, List.cons_append]
      rw [List.map_append, List.map_cons, List.flatten_append, List.flatten_cons] at permuted
      exact List.perm_middle.trans (permuted.cons pod)

end PodList

namespace Record

/-- Let an operator be associative and commutative, and every value of a seed be neutral for it.
However records of any shapes are put in order and cut into groups, the folds of the groups fold to
the same record as the records themselves. In particular, what is told of each pod can be summed up
over all pods on nodes, in any order, or first for each node and then over the nodes. -/
theorem foldAll_regrouped (operator : α → α → α) [Std.Associative operator]
    [Std.Commutative operator] {seed : Record α} (keyed : seed.IsKeyed)
    (neutral : ∀ leaf ∈ seed.leaves, ∀ value, operator leaf.2 value = value) (what : String) :
    (∀ (records : List (Record α)) (groups : List (List (Record α))),
      groups.flatten.Perm records →
        ∃ partials whole,
          groups.mapM (fun group => foldAll operator group (some seed) what) = .ok partials ∧
          foldAll operator partials (some seed) what = .ok whole ∧
          foldAll operator records (some seed) what = .ok whole) ∧
      ∀ (told : Pod → Record α) (pods placed : List Pod) (hosts : List Name),
        PodList.nodes pods = .ok hosts → placed.Perm (pods.filter fun pod => pod.node?.isSome) →
          ∃ sums whole,
            PodList.perNode (fun pods =>
              (foldAll operator (pods.map told) (some seed) what).mapError .aggregation) pods =
                .ok sums ∧
            sums.keys = hosts ∧
            foldAll operator sums.values (some seed) what = .ok whole ∧
            foldAll operator (placed.map told) (some seed) what = .ok whole := by
  have seeded (records : List (Record α)) : foldAll operator records (some seed) what =
      .ok (records.foldl (combine operator) seed) := rfl
  constructor
  · intro records groups regrouped
    refine ⟨_, _, Outcome.mapM_eq_map fun group _ => seeded group, seeded _, ?_⟩
    rw [seeded, foldl_combine_regrouped operator keyed neutral regrouped]
  · intro told pods placed hosts sorted placedPerm
    have distinct : hosts.Nodup := PodList.hosts_of_nodes sorted ▸ PodList.nodup_hosts pods
    have complete : ∀ pod ∈ pods, ∀ host, pod.node? = some host → host ∈ hosts := by
      intro pod member host isPlaced
      rw [PodList.hosts_of_nodes sorted]
      exact PodList.mem_hosts.2 ⟨pod, member, isPlaced⟩
    have grouped : (hosts.map fun host => (PodList.placedOn host pods).map told).flatten.Perm
        (placed.map told) := by
      have onNodes := PodList.flatten_placedOn_perm distinct pods complete
      have asTold := (onNodes.trans placedPerm.symm).map told
      rwa [List.map_flatten, List.map_map] at asTold
    refine ⟨_, _, PodList.perNode_of_nodes sorted _ (fun pods =>
      (pods.map told).foldl (combine operator) seed) fun _ => rfl, Table.keys_tabulate _ _,
      seeded _, ?_⟩
    rw [seeded, Table.values_tabulate,
      ← foldl_combine_regrouped operator keyed neutral grouped, List.map_map]
    rfl

/-- The record with nothing counted yet, in the shape of a usage. -/
def idleUsage : Record Nat :=
  [("cpu", .leaf 0), ("memory", .node [("used", .leaf 0), ("free", .leaf 0)])]

theorem isKeyed_idleUsage : idleUsage.IsKeyed := by
  have memory : Tree.IsKeyed (.node [("used", .leaf 0), ("free", Tree.leaf 0)]) := by
    refine .node (by decide) fun member isMember => ?_
    simp only [List.mem_cons, List.not_mem_nil, or_false] at isMember
    rcases isMember with rfl | rfl <;> exact .leaf 0
  refine .node (by decide) fun member isMember => ?_
  simp only [idleUsage, List.mem_cons, List.not_mem_nil, or_false] at isMember
  rcases isMember with rfl | rfl
  · exact .leaf 0
  · exact memory

/-- The clashing records in another order, in three groups of which one is empty. -/
def regroupedRecords : List (List (Record Nat)) :=
  [clashingRecords.drop 2, [], clashingRecords.take 2]

/-- Two pods on one node, one on another, and one on none. -/
def scatteredPods : List Pod :=
  [⟨default, .text "b", .ok []⟩, ⟨default, .text "a", .ok []⟩, ⟨default, .missing, .ok []⟩,
    ⟨default, .text "b", .ok []⟩]

/-- What is told of a pod depends on its node, and is not in the shape of a usage. -/
def usageToldOf (pod : Pod) : Record Nat :=
  if pod.nodeName = .text "b" then [("disk", .leaf 5), ("cpu", .leaf 2)]
  else [("memory", .node [("used", .leaf 7)]), ("cpu", .leaf 1)]

theorem foldAll_regrouped_of_clashes :
    (∃ partials whole,
      regroupedRecords.mapM (fun group => foldAll (· + ·) group (some idleUsage) "records") =
        .ok partials ∧
      foldAll (· + ·) partials (some idleUsage) "records" = .ok whole ∧
      foldAll (· + ·) clashingRecords (some idleUsage) "records" = .ok whole ∧
      whole.leaves = [(["cpu"], 4), (["memory", "used"], 11), (["memory", "free"], 0)]) ∧
    ∃ sums whole,
      PodList.perNode (fun pods => (foldAll (· + ·) (pods.map usageToldOf) (some idleUsage)
        "records").mapError .aggregation) scatteredPods = .ok sums ∧
      sums.keys = PodList.hosts scatteredPods ∧
      foldAll (· + ·) sums.values (some idleUsage) "records" = .ok whole ∧
      whole.leaves = [(["cpu"], 5), (["memory", "used"], 7), (["memory", "free"], 0)] := by
  have neutral : ∀ leaf ∈ idleUsage.leaves, ∀ value, leaf.2 + value = value := by
    intro leaf member value
    have isZero : leaf.2 = 0 := by
      revert leaf
      decide
    rw [isZero, Nat.zero_add]
  obtain ⟨regrouping, byNode⟩ :=
    foldAll_regrouped (· + ·) isKeyed_idleUsage neutral "records"
  constructor
  · have regrouped : regroupedRecords.flatten.Perm clashingRecords :=
      List.perm_append_comm.trans (.of_eq (List.take_append_drop 2 clashingRecords))
    obtain ⟨partials, whole, parts, folded, isWhole⟩ :=
      regrouping clashingRecords regroupedRecords regrouped
    refine ⟨partials, whole, parts, folded, isWhole, ?_⟩
    cases isWhole
    decide
  · have sorted : PodList.nodes scatteredPods = .ok (PodList.hosts scatteredPods) := by
      unfold PodList.nodes
      exact if_pos (.inr (by decide))
    obtain ⟨sums, whole, perNode, keys, folded, isWhole⟩ :=
      byNode usageToldOf scatteredPods _ _ sorted (List.Perm.refl _)
    refine ⟨sums, whole, perNode, keys, folded, ?_⟩
    cases isWhole
    decide

end Record

end ClusterAgent
