import ClusterAgent.Proofs.Collection.Entities
import ClusterAgent.Proofs.Report.Views
import ClusterAgent.Proofs.Statistics.Sums

/-!
Contract: what nodes offer and report, one by one and summed up.

A sum over all nodes takes every name once, and a first record to begin with: it
exists as soon as a node has a name, and it has the members of the first record.

Owns: offers and conditions of nodes as views by name, sums over all nodes.
Does not own: which section shows them.
-/

namespace ClusterAgent

/-! ## One node -/

namespace NodeAmounts

/-- The amounts of a table as far as they can be read. -/
def known (declared : Option ResourceTable) : NodeAmounts :=
  (read declared).toOption.getD .zero

/-- What a node offers, as a section shows it. -/
def value (amounts : NodeAmounts) : Value :=
  .object [("cpu", .number amounts.cpu), ("memory", .number amounts.memory),
    ("pods", .number amounts.pods)]

theorem read_eq {declared : Option ResourceTable}
    (typed : ∀ table, declared = some table → table.IsTyped) (accepted : IsAccepted declared) :
    read declared = .ok (known declared) :=
  Outcome.eq_ok_known ((reads_read typed).succeeds accepted) .zero

def add (left right : NodeAmounts) : NodeAmounts :=
  ⟨left.cpu.add right.cpu, left.memory.add right.memory, left.pods.add right.pods⟩

def offer (capacity allocatable : NodeAmounts) : Record Number :=
  [("capacity", .node capacity.record), ("allocatable", .node allocatable.record)]

theorem combine_offer (capacity allocatable otherCapacity otherAllocatable : NodeAmounts) :
    Record.combine Number.add (offer capacity allocatable)
        (offer otherCapacity otherAllocatable) =
      offer (capacity.add otherCapacity) (allocatable.add otherAllocatable) := rfl

theorem exists_foldl_offer (records : List (Record Number))
    (offers : ∀ record ∈ records, ∃ capacity allocatable, record = offer capacity allocatable)
    (capacity allocatable : NodeAmounts) :
    ∃ totalCapacity totalAllocatable,
      records.foldl (Record.combine Number.add) (offer capacity allocatable) =
        offer totalCapacity totalAllocatable := by
  induction records generalizing capacity allocatable with
  | nil => exact ⟨capacity, allocatable, rfl⟩
  | cons first rest inductionHypothesis =>
    obtain ⟨isOffer, restOffers⟩ := List.forall_mem_cons.1 offers
    obtain ⟨firstCapacity, firstAllocatable, rfl⟩ := isOffer
    rw [List.foldl_cons, combine_offer]
    exact inductionHypothesis restOffers _ _

end NodeAmounts

namespace Node

def offer (node : Node) : Record Number :=
  NodeAmounts.offer (NodeAmounts.known node.capacity) (NodeAmounts.known node.allocatable)

theorem resources_eq {node : Node} (typed : node.IsTyped) (accepted : node.IsAccepted) :
    node.resources = .ok node.offer := by
  rw [resources, NodeAmounts.read_eq typed.capacity accepted.capacity, Outcome.ok_bind,
    NodeAmounts.read_eq typed.allocatable accepted.allocatable]
  rfl

theorem exists_offer {node : Node} {record : Record Number}
    (read : node.resources = .ok record) :
    ∃ capacity allocatable, record = NodeAmounts.offer capacity allocatable := by
  obtain ⟨capacity, _, rest⟩ := Outcome.bind_eq_ok.1 read
  obtain ⟨allocatable, _, isOffer⟩ := Outcome.bind_eq_ok.1 rest
  cases isOffer
  exact ⟨capacity, allocatable, rfl⟩

/-- The conditions of a node as far as they can be read. -/
def knownConditions (node : Node) : List Condition := node.conditions.toOption.getD []

def reportsConditions (node : Node) : Bool := !node.knownConditions.isEmpty

end Node

/-- The kind of a condition, where it is a text, with its status. -/
def Condition.entry (condition : Condition) : String × Field :=
  (condition.kind.text?.getD "", condition.status)

namespace Node

/-- The conditions of a node by kind, if it reports any. -/
def conditionEntries? (node : Node) : Option (List (String × Field)) :=
  if node.reportsConditions then some (Members.ofList (node.knownConditions.map Condition.entry))
  else none

theorem conditionEntries?_isSome (node : Node) :
    node.conditionEntries?.isSome = node.reportsConditions := by
  unfold conditionEntries?
  split <;> simp_all

theorem conditionMap?_eq {node : Node} (typed : node.IsTyped) :
    node.conditionMap? = .ok node.conditionEntries? := by
  obtain ⟨conditions, known, conditionsTyped⟩ := typed.conditions
  have read : (conditions.mapM fun condition : Condition =>
      ((·, condition.status) : String → String × Field) <$>
        requireText (condition.kind.plainText? "undefined")) =
      .ok (conditions.map Condition.entry) := by
    apply Outcome.mapM_eq_map
    intro condition member
    obtain ⟨text, isText⟩ := (conditionsTyped condition member).kind
    rw [isText, Condition.entry, isText]
    simp [Field.plainText?, Value.plainText?, requireText, Field.text?]
  change (node.conditions >>= fun conditions => (conditions.mapM fun condition : Condition =>
    ((·, condition.status) : String → String × Field) <$>
      requireText (condition.kind.plainText? "undefined")) >>= _) = _
  rw [known, Outcome.ok_bind, read, Outcome.ok_bind, conditionEntries?, reportsConditions,
    knownConditions, known]
  cases conditions <;> rfl

end Node

/-! ## All nodes -/

namespace NodeList

variable {nodes : List SampledNode}

theorem resources_eq (typed : ∀ sampled ∈ nodes, sampled.IsTyped)
    (accepted : ∀ sampled ∈ nodes, sampled.node.IsAccepted) :
    resources nodes = .ok (Entity.byName (fun sampled => sampled.node.offer) nodes) := by
  apply Entity.tryByName_eq_byName
  intro sampled member
  exact Node.resources_eq (typed sampled member).node (accepted sampled member)

theorem reads_resources (typed : ∀ sampled ∈ nodes, sampled.IsTyped) :
    Reads (∀ pair ∈ Entity.named nodes, pair.2.node.IsAccepted) (resources nodes) :=
  Entity.reads_tryByName fun sampled member => Node.reads_resources (typed sampled member).node

/-- The conditions of the nodes that have a name and report any, as far as they can be read. -/
def knownConditions (nodes : List SampledNode) : Table Name (List (String × Field)) :=
  .ofList (Entity.viewed (fun sampled => sampled.node.conditionEntries?) nodes)

theorem conditions_eq (typed : ∀ sampled ∈ nodes, sampled.IsTyped) :
    conditions nodes = .ok (knownConditions nodes) := by
  have read : nodes.mapM namedConditions? = .ok (nodes.map fun sampled =>
      (Entity.name? sampled).bind fun name => sampled.node.conditionEntries?.map (name, ·)) := by
    apply Outcome.mapM_eq_map
    intro sampled member
    rw [namedConditions?, Node.conditionMap?_eq (typed sampled member).node, Outcome.ok_bind]
    cases Entity.name? sampled <;> cases sampled.node.conditionEntries? <;> rfl
  rw [conditions, read, Outcome.mapError_ok, Outcome.ok_bind, List.filterMap_map]
  rfl

/-- Without a named node there is nothing to sum up. -/
theorem clusterResources_of_nameless (nameless : Entity.names nodes = []) :
    clusterResources nodes = .error (.aggregation (.emptyAggregation "node resources")) := by
  have noPairs : Entity.named nodes = [] := by
    rw [← List.map_eq_nil_iff (f := Prod.fst), Entity.named_fst]
    exact nameless
  rw [clusterResources, resources, Entity.tryByName, noPairs]
  rfl

theorem exists_sum_offers (named : Entity.names nodes ≠ [])
    {table : Table Name (Record Number)} (read : resources nodes = .ok table) :
    ∃ capacity allocatable,
      (sumRecords table.values none "node resources").mapError .aggregation =
        (.ok (NodeAmounts.offer capacity allocatable) : Except Failure _) := by
  have offers : ∀ record ∈ table.values,
      ∃ capacity allocatable, record = NodeAmounts.offer capacity allocatable := by
    intro record member
    obtain ⟨sampled, _, shown⟩ := Entity.exists_of_mem_values_tryByName read member
    exact Node.exists_offer shown
  have nonempty : table.values ≠ [] := by
    apply Table.values_ne_nil
    rw [Entity.keys_tryByName read]
    exact eraseDups_ne_nil named
  obtain ⟨first, rest, isCons⟩ := List.exists_cons_of_ne_nil nonempty
  rw [isCons] at offers ⊢
  obtain ⟨firstOffers, restOffers⟩ := List.forall_mem_cons.1 offers
  obtain ⟨capacity, allocatable, rfl⟩ := firstOffers
  obtain ⟨totalCapacity, totalAllocatable, summed⟩ :=
    NodeAmounts.exists_foldl_offer rest restOffers capacity allocatable
  refine ⟨totalCapacity, totalAllocatable, ?_⟩
  rw [← summed]
  rfl

theorem exists_offer_of_clusterResources (named : Entity.names nodes ≠ []) {record : Record Number}
    (summed : clusterResources nodes = .ok record) :
    ∃ capacity allocatable, record = NodeAmounts.offer capacity allocatable := by
  obtain ⟨table, read, sum⟩ := Outcome.bind_eq_ok.1 summed
  obtain ⟨capacity, allocatable, sumEq⟩ := exists_sum_offers named read
  rw [sumEq] at sum
  cases sum
  exact ⟨capacity, allocatable, rfl⟩

theorem reads_clusterResources (typed : ∀ sampled ∈ nodes, sampled.IsTyped)
    (named : Entity.names nodes ≠ []) :
    Reads (∀ pair ∈ Entity.named nodes, pair.2.node.IsAccepted) (clusterResources nodes) := by
  have readsSum : ∀ table, resources nodes = .ok table → Reads True
      ((sumRecords table.values none "node resources").mapError .aggregation) := by
    intro table read
    obtain ⟨capacity, allocatable, summed⟩ := exists_sum_offers named read
    rw [summed]
    exact Reads.ok _
  exact ((reads_resources typed).bind readsSum).congr (and_iff_left trivial)

/-- The statistics of named nodes can be summed up, and have each of their members once. -/
theorem exists_clusterStats (typed : ∀ sampled ∈ nodes, sampled.IsTyped)
    (named : Entity.names nodes ≠ []) :
    ∃ stats, clusterStats nodes = .ok stats ∧ (stats.map Prod.fst).Nodup := by
  obtain ⟨first, rest, listed⟩ := exists_snapshots named
  obtain ⟨sampled, inNodes, rfl⟩ := exists_of_mem_snapshots (listed ▸ List.mem_cons_self)
  refine ⟨_, clusterStats_eq listed, ?_⟩
  rw [sumOf, Record.map_fst_mapLeaves, Tree.map_fst_numericMembers]
  exact (typed sampled inNodes).sample.sublist (List.filter_sublist.map Prod.fst)

end NodeList

end ClusterAgent
