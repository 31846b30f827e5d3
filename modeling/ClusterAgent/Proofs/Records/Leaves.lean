import ClusterAgent.Record.Fold
import Mathlib.Data.List.Basic

/-!
Contract: folds of records, leaf by leaf.

A record is told by its shape and by the values at its leaves. Combining it with
another record keeps the shape, and changes a value only where the other one has
a value at the same path. So a fold is a fold of values at each leaf of the record
that it starts from, whatever shapes the others have.

Owns: paths, shapes and leaves of records, the fold at each leaf.
Does not own: the keys of records that are read or shown.
-/

namespace ClusterAgent

variable {α β γ : Type}

/-! ## Paths, leaves and shapes -/

mutual

/-- The tree in which each leaf is changed, given its path and its value. -/
def Tree.mapLeaves (change : List String → α → β) : Tree α → Tree β
  | .leaf value => .leaf (change [] value)
  | .node members => .node (Record.mapLeaves change members)

def Record.mapLeaves (change : List String → α → β) : Record α → Record β
  | [] => []
  | (key, tree) :: rest =>
    (key, tree.mapLeaves fun path => change (key :: path)) :: Record.mapLeaves change rest

end

mutual

/-- The leaves of a tree in their order, each with the keys that lead to it. -/
def Tree.leaves : Tree α → List (List String × α)
  | .leaf value => [([], value)]
  | .node members => Record.leaves members

def Record.leaves : Record α → List (List String × α)
  | [] => []
  | (key, tree) :: rest =>
    (tree.leaves.map fun (path, value) => (key :: path, value)) ++ Record.leaves rest

end

/-- The value at the end of a path. Keys lead on from a node only, and a node is no value. -/
def Tree.leafAt? : List String → Tree α → Option α
  | [], .leaf value => some value
  | [], .node _ => none
  | _ :: _, .leaf _ => none
  | key :: path, .node members => (members.lookup key).bind (Tree.leafAt? path)

def Record.leafAt? (record : Record α) (path : List String) : Option α :=
  Tree.leafAt? path (.node record)

/-- What stands at the end of a path. -/
def Tree.at? : List String → Tree α → Option (Tree α)
  | [], tree => some tree
  | _ :: _, .leaf _ => none
  | key :: path, .node members => (members.lookup key).bind (Tree.at? path)

def Tree.leaf? : Tree α → Option α
  | .leaf value => some value
  | .node _ => none

/-- The keys that lead on from a tree, if it is a node. -/
def Tree.keys? : Tree α → Option (List String)
  | .leaf _ => none
  | .node members => some (members.map Prod.fst)

/-- The keys of the node at the end of a path, in their order. -/
def Record.keysAt? (record : Record α) (path : List String) : Option (List String) :=
  (Tree.at? path (.node record)).bind Tree.keys?

/-- All that a record is but for its values: its key paths, in their order. -/
def Record.shape (record : Record α) : Record Unit := mapLeaves (fun _ _ => ()) record

/-! ## Changing leaves -/

mutual

theorem Tree.mapLeaves_value (tree : Tree α) : tree.mapLeaves (fun _ value => value) = tree := by
  cases tree with
  | leaf value => rfl
  | node members => rw [Tree.mapLeaves, Record.mapLeaves_value members]

theorem Record.mapLeaves_value (record : Record α) :
    record.mapLeaves (fun _ value => value) = record := by
  match record with
  | [] => rfl
  | (key, tree) :: rest =>
    rw [Record.mapLeaves, Tree.mapLeaves_value tree, Record.mapLeaves_value rest]

end

mutual

theorem Tree.mapLeaves_mapLeaves (next : List String → β → γ) (change : List String → α → β)
    (tree : Tree α) :
    (tree.mapLeaves change).mapLeaves next =
      tree.mapLeaves fun path value => next path (change path value) := by
  cases tree with
  | leaf value => rfl
  | node members =>
    rw [Tree.mapLeaves, Tree.mapLeaves, Record.mapLeaves_mapLeaves next change members,
      Tree.mapLeaves]

theorem Record.mapLeaves_mapLeaves (next : List String → β → γ) (change : List String → α → β)
    (record : Record α) :
    (record.mapLeaves change).mapLeaves next =
      record.mapLeaves fun path value => next path (change path value) := by
  match record with
  | [] => rfl
  | (key, tree) :: rest =>
    rw [Record.mapLeaves, Record.mapLeaves, Tree.mapLeaves_mapLeaves _ _ tree,
      Record.mapLeaves_mapLeaves next change rest, Record.mapLeaves]

end

mutual

theorem Tree.leaves_mapLeaves (change : List String → α → β) (tree : Tree α) :
    (tree.mapLeaves change).leaves =
      tree.leaves.map fun (path, value) => (path, change path value) := by
  cases tree with
  | leaf value => rfl
  | node members =>
    rw [Tree.mapLeaves, Tree.leaves, Record.leaves_mapLeaves change members, Tree.leaves]

theorem Record.leaves_mapLeaves (change : List String → α → β) (record : Record α) :
    (record.mapLeaves change).leaves =
      record.leaves.map fun (path, value) => (path, change path value) := by
  match record with
  | [] => rfl
  | (key, tree) :: rest =>
    rw [Record.mapLeaves, Record.leaves, Tree.leaves_mapLeaves _ tree,
      Record.leaves_mapLeaves change rest, Record.leaves, List.map_append, List.map_map,
      List.map_map]
    rfl

end

mutual

/-- Changes that agree on every leaf of a tree come to the same. -/
theorem Tree.mapLeaves_congr {change other : List String → α → β} (tree : Tree α)
    (agree : ∀ leaf ∈ tree.leaves, change leaf.1 leaf.2 = other leaf.1 leaf.2) :
    tree.mapLeaves change = tree.mapLeaves other := by
  cases tree with
  | leaf value =>
    have sameValue : change [] value = other [] value := agree ([], value) List.mem_cons_self
    rw [Tree.mapLeaves, Tree.mapLeaves, sameValue]
  | node members => rw [Tree.mapLeaves, Tree.mapLeaves, Record.mapLeaves_congr members agree]

theorem Record.mapLeaves_congr {change other : List String → α → β} (record : Record α)
    (agree : ∀ leaf ∈ record.leaves, change leaf.1 leaf.2 = other leaf.1 leaf.2) :
    record.mapLeaves change = record.mapLeaves other := by
  match record with
  | [] => rfl
  | (key, tree) :: rest =>
    rw [Record.leaves, List.forall_mem_append, List.forall_mem_map] at agree
    have sameTree : tree.mapLeaves (fun path => change (key :: path)) =
        tree.mapLeaves fun path => other (key :: path) := Tree.mapLeaves_congr tree agree.1
    rw [Record.mapLeaves, Record.mapLeaves, sameTree, Record.mapLeaves_congr rest agree.2]

end

namespace Record

theorem shape_mapLeaves (change : List String → α → β) (record : Record α) :
    (record.mapLeaves change).shape = record.shape :=
  mapLeaves_mapLeaves _ _ record

/-- At least one key leads to a leaf of a record. -/
theorem exists_cons_of_mem_leaves {record : Record α} {leaf : List String × α}
    (member : leaf ∈ record.leaves) : ∃ key path, leaf.1 = key :: path := by
  induction record with
  | nil => cases member
  | cons entry rest inductionHypothesis =>
    rcases List.mem_append.1 member with inFirst | later
    · obtain ⟨⟨path, value⟩, _, rfl⟩ := List.mem_map.1 inFirst
      exact ⟨entry.1, path, rfl⟩
    · exact inductionHypothesis later

end Record

namespace Record

theorem map_fst_mapLeaves (change : List String → α → β) (record : Record α) :
    (record.mapLeaves change).map Prod.fst = record.map Prod.fst := by
  induction record generalizing change with
  | nil => rfl
  | cons entry rest inductionHypothesis =>
    rw [mapLeaves, List.map_cons, List.map_cons, inductionHypothesis]

theorem lookup_mapLeaves (change : List String → α → β) (record : Record α) (key : String) :
    (record.mapLeaves change).lookup key =
      (record.lookup key).map fun tree => tree.mapLeaves fun path => change (key :: path) := by
  induction record with
  | nil => rfl
  | cons entry rest inductionHypothesis =>
    obtain ⟨name, tree⟩ := entry
    rw [mapLeaves, Table.lookup_entry, Table.lookup_entry, inductionHypothesis]
    split
    · rename_i same
      rw [same]
      rfl
    · rfl

end Record

/-- The value at the end of a path is what stands there as a leaf. -/
theorem Tree.leafAt?_eq (path : List String) (tree : Tree α) :
    tree.leafAt? path = (tree.at? path).bind Tree.leaf? := by
  induction path generalizing tree with
  | nil => cases tree <;> rfl
  | cons key path inductionHypothesis =>
    cases tree with
    | leaf value => rfl
    | node members =>
      rw [Tree.leafAt?, Tree.at?]
      cases members.lookup key with
      | none => rfl
      | some tree => exact inductionHypothesis tree

/-- Changed leaves stand where they stood. -/
theorem Tree.at?_mapLeaves (change : List String → α → β) (path : List String) (tree : Tree α) :
    (tree.mapLeaves change).at? path =
      (tree.at? path).map fun found => found.mapLeaves fun inner => change (path ++ inner) := by
  induction path generalizing change tree with
  | nil => rfl
  | cons key path inductionHypothesis =>
    cases tree with
    | leaf value => rfl
    | node members =>
      rw [Tree.mapLeaves, Tree.at?, Tree.at?, Record.lookup_mapLeaves]
      cases members.lookup key with
      | none => rfl
      | some tree => exact inductionHypothesis _ tree

theorem Tree.leafAt?_mapLeaves (change : List String → α → β) (path : List String)
    (tree : Tree α) :
    (tree.mapLeaves change).leafAt? path = (tree.leafAt? path).map (change path) := by
  rw [Tree.leafAt?_eq, Tree.leafAt?_eq, Tree.at?_mapLeaves]
  cases tree.at? path with
  | none => rfl
  | some found =>
    cases found with
    | leaf value => exact congrArg (fun full => some (change full value)) (List.append_nil path)
    | node members => rfl

namespace Record

theorem leafAt?_mapLeaves (change : List String → α → β) (record : Record α) (path : List String) :
    (record.mapLeaves change).leafAt? path = (record.leafAt? path).map (change path) :=
  Tree.leafAt?_mapLeaves change path (.node record)

theorem keysAt?_mapLeaves (change : List String → α → β) (record : Record α) (path : List String) :
    (record.mapLeaves change).keysAt? path = record.keysAt? path := by
  have placed := Tree.at?_mapLeaves change path (.node record)
  rw [Tree.mapLeaves] at placed
  rw [keysAt?, keysAt?, placed]
  cases Tree.at? path (.node record) with
  | none => rfl
  | some found =>
    cases found with
    | leaf value => rfl
    | node members => exact congrArg some (map_fst_mapLeaves _ members)

end Record

/-! ## Combining -/

mutual

/-- Combining changes the leaves that have a counterpart on the right, and no others. -/
theorem Tree.combine_eq_mapLeaves (operator : α → α → α) (left : Tree α)
    (right : Option (Tree α)) :
    left.combine operator right =
      left.mapLeaves fun path value =>
        (right.bind (Tree.leafAt? path)).elim value (operator value) := by
  match left, right with
  | .leaf _, none => rfl
  | .leaf _, some (.leaf _) => rfl
  | .leaf _, some (.node _) => rfl
  | .node members, some (.node others) =>
    rw [Tree.combine, Tree.mapLeaves, Record.combine_eq_mapLeaves operator members others]
    rfl
  -- A node without a node on the right is combined with a record that has no members.
  | .node members, none | .node members, some (.leaf _) =>
    rw [Tree.combine, Tree.mapLeaves, Record.combine_eq_mapLeaves operator members []]
    congr 1
    apply Record.mapLeaves_congr
    intro leaf member
    obtain ⟨key, path, isPath⟩ := Record.exists_cons_of_mem_leaves member
    rw [isPath]
    rfl

theorem Record.combine_eq_mapLeaves (operator : α → α → α) (left right : Record α) :
    Record.combine operator left right =
      left.mapLeaves fun path value => (right.leafAt? path).elim value (operator value) := by
  match left with
  | [] => rw [Record.combine, Record.mapLeaves]
  | (key, tree) :: rest =>
    rw [Record.combine, Record.mapLeaves, Tree.combine_eq_mapLeaves operator tree,
      Record.combine_eq_mapLeaves operator rest right]
    rfl

end

namespace Record

/-- The values that records have at a path, in the order of the records. -/
def valuesAt (records : List (Record α)) (path : List String) : List α :=
  records.filterMap (leafAt? · path)

/-- Combining with one record after the other folds the values at each leaf. -/
theorem foldl_combine_eq_mapLeaves (operator : α → α → α) (records : List (Record α))
    (start : Record α) :
    records.foldl (combine operator) start =
      start.mapLeaves fun path value => (valuesAt records path).foldl operator value := by
  induction records generalizing start with
  | nil => exact (mapLeaves_value start).symm
  | cons record rest inductionHypothesis =>
    rw [List.foldl_cons, inductionHypothesis, combine_eq_mapLeaves, mapLeaves_mapLeaves]
    apply mapLeaves_congr
    intro leaf _
    cases held : record.leafAt? leaf.1 <;> simp [valuesAt, held]

/-! ## Folding -/

/-- What a fold starts from, and the records that it goes on with. -/
inductive FoldsFrom : Option (Record α) → List (Record α) → Record α → List (Record α) → Prop where
  | seeded (seed : Record α) (records : List (Record α)) :
      FoldsFrom (some seed) records seed records
  | unseeded (first : Record α) (rest : List (Record α)) : FoldsFrom none (first :: rest) first rest

theorem foldAll_of_foldsFrom (operator : α → α → α) {seed : Option (Record α)}
    {records : List (Record α)} {base : Record α} {rest : List (Record α)}
    (folds : FoldsFrom seed records base rest) (what : String) :
    foldAll operator records seed what = .ok (rest.foldl (combine operator) base) := by
  cases folds with
  | seeded => rfl
  | unseeded => rfl

/-- A fold fails exactly if there is neither a seed nor a record. Otherwise it has the key paths of
the record that it starts from, in their order, and at each leaf the fold of the values that the
other records have at the same path, in the order of the records and from the first value on. What
these records hold elsewhere, and what stands in the way of a path, makes no difference. -/
theorem foldAll_folds_leafwise (operator : α → α → α) (seed : Option (Record α))
    (records : List (Record α)) (what : String) :
    (∀ error, foldAll operator records seed what = .error error ↔
        error = .emptyAggregation what ∧ seed = none ∧ records = []) ∧
      ∀ base rest, FoldsFrom seed records base rest →
        ∃ folded, foldAll operator records seed what = .ok folded ∧
          folded.shape = base.shape ∧
          folded.leaves =
            base.leaves.map (fun (path, value) =>
              (path, (valuesAt rest path).foldl operator value)) ∧
          ∀ others : List (Record α),
            (∀ leaf ∈ base.leaves, valuesAt others leaf.1 = valuesAt rest leaf.1) →
              others.foldl (combine operator) base = folded := by
  constructor
  · intro error
    cases seed with
    | some seed => simp [foldAll]
    | none =>
      cases records with
      | nil => simp [foldAll, eq_comm]
      | cons first rest => simp [foldAll]
  · intro base rest folds
    refine ⟨_, foldAll_of_foldsFrom operator folds what, ?_⟩
    rw [foldl_combine_eq_mapLeaves]
    refine ⟨shape_mapLeaves _ base, leaves_mapLeaves _ base, ?_⟩
    intro others alike
    rw [foldl_combine_eq_mapLeaves]
    apply mapLeaves_congr
    intro leaf member
    rw [alike leaf member]

/-- A record with leaves at two depths. -/
def usageRecord : Record Nat :=
  [("cpu", .leaf 1), ("memory", .node [("used", .leaf 2), ("free", .leaf 3)])]

/-- Records with keys of their own, with nodes in place of leaves and a leaf in place of a node. -/
def clashingRecords : List (Record Nat) :=
  [[("memory", .node [("used", .leaf 5), ("spare", .leaf 9)]), ("cpu", .node [])],
    [("cpu", .leaf 4), ("memory", .leaf 8)],
    [("memory", .node [("free", .node []), ("used", .leaf 6)]), ("disk", .leaf 1)]]

/-- The same records without all that clashes, and without keys of their own. -/
def fittingRecords : List (Record Nat) :=
  [[("memory", .node [("used", .leaf 5)])], [("cpu", .leaf 4)],
    [("memory", .node [("used", .leaf 6)])]]

/-- A fold of records of different shapes, by an operator that neither associates nor commutes. -/
theorem foldAll_folds_leafwise_of_clashes :
    ∃ folded, foldAll (fun left right => 3 * left + right) (usageRecord :: clashingRecords) none
        "records" = .ok folded ∧
      folded.leaves = [(["cpu"], 7), (["memory", "used"], 39), (["memory", "free"], 3)] ∧
      fittingRecords.foldl (combine fun left right => 3 * left + right) usageRecord = folded := by
  obtain ⟨folded, isFolded, _, leaves, unchanged⟩ :=
    (foldAll_folds_leafwise (fun left right => 3 * left + right) none
      (usageRecord :: clashingRecords) "records").2 usageRecord clashingRecords
        (.unseeded usageRecord clashingRecords)
  exact ⟨folded, isFolded, leaves, unchanged fittingRecords (by decide)⟩

end Record

end ClusterAgent
