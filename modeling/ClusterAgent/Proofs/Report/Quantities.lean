import ClusterAgent.Cluster.Node
import ClusterAgent.Cluster.Pod
import ClusterAgent.Proofs.Collection.Typed
import ClusterAgent.Proofs.Outcome
import ClusterAgent.Proofs.Tables

/-!
Contract: what entities declare is read exactly if every quantity is well formed.

Reading several quantities is refused by the first that is malformed, and by
nothing else. What is not declared is read from a default that is well formed.

Owns: well-formed quantities of volumes, nodes and pods, the outcome of reading them.
Does not own: which entities are read.
-/

namespace ClusterAgent

/-! ## Reading what may be malformed -/

/-- An outcome that is a success exactly if something is accepted, and that is the refusal of a
malformed quantity otherwise. -/
structure Reads {α : Type} (accepted : Prop) (outcome : Except Failure α) : Prop where
  succeeds : accepted → ∃ value, outcome = .ok value
  refuses : ¬ accepted → ∃ quantity, outcome = .error (.aggregation (.malformedQuantity quantity))

namespace Reads

variable {α β : Type} {accepted acceptedNext : Prop}

theorem ok (value : α) : Reads True (.ok value : Except Failure α) :=
  ⟨fun _ => ⟨value, rfl⟩, fun refused => absurd trivial refused⟩

theorem accepted_of_ok {outcome : Except Failure α} (reads : Reads accepted outcome) {value : α}
    (succeeded : outcome = .ok value) : accepted := by
  by_contra refused
  obtain ⟨quantity, failed⟩ := reads.refuses refused
  cases succeeded.symm.trans failed

theorem congr {outcome : Except Failure α} (reads : Reads accepted outcome)
    (same : accepted ↔ acceptedNext) : Reads acceptedNext outcome :=
  ⟨fun isAccepted => reads.succeeds (same.2 isAccepted),
    fun refused => reads.refuses (mt same.1 refused)⟩

/-- What goes on reading reads both. -/
theorem bind {outcome : Except Failure α} {next : α → Except Failure β}
    (reads : Reads accepted outcome)
    (readsNext : ∀ value, outcome = .ok value → Reads acceptedNext (next value)) :
    Reads (accepted ∧ acceptedNext) (outcome >>= next) := by
  by_cases first : accepted
  · obtain ⟨value, succeeded⟩ := reads.succeeds first
    rw [succeeded, Outcome.ok_bind]
    exact (readsNext value succeeded).congr (by simp [first])
  · obtain ⟨quantity, failed⟩ := reads.refuses first
    rw [failed, Outcome.error_bind]
    exact ⟨fun both => absurd both.1 first, fun _ => ⟨quantity, rfl⟩⟩

theorem map {outcome : Except Failure α} (reads : Reads accepted outcome) (f : α → β) :
    Reads accepted (f <$> outcome) := by
  constructor
  · intro isAccepted
    obtain ⟨value, succeeded⟩ := reads.succeeds isAccepted
    exact ⟨f value, by rw [succeeded]; rfl⟩
  · intro refused
    obtain ⟨quantity, failed⟩ := reads.refuses refused
    exact ⟨quantity, by rw [failed]; rfl⟩

theorem mapM {items : List α} {acceptedItem : α → Prop} {f : α → Except Failure β}
    (reads : ∀ item ∈ items, Reads (acceptedItem item) (f item)) :
    Reads (∀ item ∈ items, acceptedItem item) (items.mapM f) := by
  induction items with
  | nil => exact (ok []).congr (by simp)
  | cons item rest inductionHypothesis =>
    obtain ⟨readsItem, readsRest⟩ := List.forall_mem_cons.1 reads
    rw [List.mapM_cons, List.forall_mem_cons]
    exact readsItem.bind fun result _ => (inductionHypothesis readsRest).map (result :: ·)

theorem foldlM {items : List α} {acceptedItem : α → Prop} {step : β → α → Except Failure β}
    (reads : ∀ item ∈ items, ∀ total, Reads (acceptedItem item) (step total item)) (start : β) :
    Reads (∀ item ∈ items, acceptedItem item) (items.foldlM step start) := by
  induction items generalizing start with
  | nil => exact (ok start).congr (by simp)
  | cons item rest inductionHypothesis =>
    obtain ⟨readsItem, readsRest⟩ := List.forall_mem_cons.1 reads
    rw [List.foldlM_cons, List.forall_mem_cons]
    exact (readsItem start).bind fun total _ => inductionHypothesis readsRest total

end Reads

/-! ## Quantities -/

namespace Quantity

/-- The quantities that stand for one that is not declared. -/
def IsDefault (default : String) : Prop := default = "0.0" ∨ default = "inf"

theorem IsDefault.exists_cpu {default : String} (isDefault : IsDefault default) :
    ∃ number, cpu default = .ok number := by
  rcases isDefault with rfl | rfl
  · exact ⟨_, rfl⟩
  · exact ⟨_, rfl⟩

theorem IsDefault.exists_memory {default : String} (isDefault : IsDefault default) :
    ∃ number, memory default = .ok number := by
  rcases isDefault with rfl | rfl
  · exact ⟨_, rfl⟩
  · exact ⟨_, rfl⟩

theorem exists_count_default : ∃ number, count "0" = .ok number := ⟨_, rfl⟩

end Quantity

theorem RefusesMalformed.reads {reader : String → Except AggregationError Number}
    (refuses : RefusesMalformed reader) (quantity : String) :
    Reads (∃ number, reader quantity = .ok number) ((reader quantity).mapError .aggregation) := by
  rcases refuses quantity with ⟨number, succeeded⟩ | failed
  · rw [succeeded]
    exact (Reads.ok number).congr (by simp)
  · rw [failed]
    exact ⟨by simp, fun _ => ⟨quantity, rfl⟩⟩

namespace Declaration

/-- A quantity that is well formed, if one is declared. -/
def IsAccepted (declaration : Declaration) (reader : String → Except AggregationError Number) :
    Prop :=
  ∀ quantity, declaration = .text quantity → ∃ number, reader quantity = .ok number

theorem reads_read {declaration : Declaration} (typed : declaration ≠ .other)
    {reader : String → Except AggregationError Number} (refuses : RefusesMalformed reader)
    {default : String} (defaultOk : ∃ number, reader default = .ok number) (misfit : Undeclared) :
    Reads (declaration.IsAccepted reader) (declaration.read reader default misfit) := by
  cases declaration with
  | other => exact absurd rfl typed
  | absent => exact (refuses.reads default).congr (by simp [IsAccepted, defaultOk])
  | text quantity => exact (refuses.reads quantity).congr (by simp [IsAccepted])

end Declaration

/-! ## Volumes, nodes and pods -/

/-- A volume whose capacity is well formed, if it declares one that is not empty. -/
def PersistentVolume.IsAccepted (volume : PersistentVolume) : Prop :=
  ∀ quantity, volume.storage = .text quantity → quantity ≠ "" →
    ∃ number, Quantity.memory quantity = .ok number

theorem PersistentVolume.reads_view {volume : PersistentVolume} (typed : volume.IsTyped) :
    Reads volume.IsAccepted volume.view := by
  have reads : Reads volume.IsAccepted volume.capacity? := by
    unfold capacity? IsAccepted
    unfold IsTyped at typed
    cases declared : volume.storage with
    | other => exact absurd declared typed
    | absent => exact (Reads.ok none).congr (by simp)
    | text quantity =>
      by_cases empty : quantity = ""
      · subst empty
        exact (Reads.ok none).congr (by simp)
      · have readsText := (Quantity.refusesMalformed_memory.reads quantity).map some
        simpa [Declaration.read, empty] using readsText
  exact (reads.bind fun _ _ => Reads.ok _).congr (by simp)

namespace ResourceTable

/-- A table whose processor time and memory are well formed, if they are declared. -/
structure AcceptsAmounts (table : ResourceTable) : Prop where
  cpu : (table.declared "cpu").IsAccepted Quantity.cpu
  memory : (table.declared "memory").IsAccepted Quantity.memory

theorem declared_ne_other {table : ResourceTable} (typed : table.IsTyped) (name : String) :
    table.declared name ≠ .other := by
  unfold declared
  cases found : table.entries.lookup name with
  | none => exact Declaration.noConfusion
  | some declaration =>
    have inTable : (Table.mk table.entries).get? name = some declaration := found
    exact typed _ (Table.mem_entries_of_get? inTable)

theorem reads_cpu {table : ResourceTable} (typed : table.IsTyped) {default : String}
    (isDefault : Quantity.IsDefault default) :
    Reads ((table.declared "cpu").IsAccepted Quantity.cpu) (table.cpu default) :=
  Declaration.reads_read (declared_ne_other typed "cpu") Quantity.refusesMalformed_cpu
    isDefault.exists_cpu .amount

theorem reads_memory {table : ResourceTable} (typed : table.IsTyped) {default : String}
    (isDefault : Quantity.IsDefault default) :
    Reads ((table.declared "memory").IsAccepted Quantity.memory) (table.memory default) :=
  Declaration.reads_read (declared_ne_other typed "memory") Quantity.refusesMalformed_memory
    isDefault.exists_memory .amount

theorem reads_pods {table : ResourceTable} (typed : table.IsTyped) :
    Reads ((table.declared "pods").IsAccepted Quantity.count) table.pods :=
  Declaration.reads_read (declared_ne_other typed "pods") Quantity.refusesMalformed_count
    Quantity.exists_count_default .count

end ResourceTable

/-- Amounts of a node that are well formed, if there is a table of them. -/
def NodeAmounts.IsAccepted (declared : Option ResourceTable) : Prop :=
  ∀ table, declared = some table →
    table.AcceptsAmounts ∧ (table.declared "pods").IsAccepted Quantity.count

theorem NodeAmounts.reads_read {declared : Option ResourceTable}
    (typed : ∀ table, declared = some table → table.IsTyped) :
    Reads (NodeAmounts.IsAccepted declared) (NodeAmounts.read declared) := by
  cases declared with
  | none => exact (Reads.ok zero).congr (by simp [IsAccepted])
  | some table =>
    have tableTyped := typed table rfl
    have isDefault : Quantity.IsDefault "0.0" := .inl rfl
    have reads := (ResourceTable.reads_cpu tableTyped isDefault).bind fun cpu _ =>
      (ResourceTable.reads_memory tableTyped isDefault).bind fun memory _ =>
        (ResourceTable.reads_pods tableTyped).map fun pods =>
          NodeAmounts.mk (zero.cpu.add cpu) (zero.memory.add memory) (zero.pods.add pods)
    refine reads.congr ?_
    constructor
    · rintro ⟨cpu, memory, pods⟩ other same
      cases same
      exact ⟨⟨cpu, memory⟩, pods⟩
    · intro accepted
      obtain ⟨amounts, pods⟩ := accepted table rfl
      exact ⟨amounts.cpu, amounts.memory, pods⟩

/-- A node all of whose quantities are well formed. -/
structure Node.IsAccepted (node : Node) : Prop where
  capacity : NodeAmounts.IsAccepted node.capacity
  allocatable : NodeAmounts.IsAccepted node.allocatable

theorem Node.reads_resources {node : Node} (typed : node.IsTyped) :
    Reads node.IsAccepted node.resources := by
  have reads := (NodeAmounts.reads_read typed.capacity).bind fun capacity _ =>
    (NodeAmounts.reads_read typed.allocatable).map fun allocatable =>
      ([("capacity", .node capacity.record), ("allocatable", .node allocatable.record)] :
        Record Number)
  exact reads.congr ⟨fun both => ⟨both.1, both.2⟩,
    fun accepted => ⟨accepted.capacity, accepted.allocatable⟩⟩

/-- A clause whose amounts are well formed, if it is a table. -/
def ResourceClause.IsAccepted (clause : ResourceClause) : Prop :=
  ∀ table, clause = .table table → table.AcceptsAmounts

theorem ResourceClause.reads_amounts {clause : ResourceClause} (typed : clause.IsTyped)
    {default : String} (isDefault : Quantity.IsDefault default) (fallback : Amounts) :
    Reads clause.IsAccepted (clause.amounts default fallback) := by
  cases clause with
  | refused cause => exact typed.elim
  | absent => exact (Reads.ok fallback).congr (by simp [IsAccepted])
  | table quantities =>
    have acceptedIff : (ResourceClause.table quantities).IsAccepted ↔
        (quantities.declared "cpu").IsAccepted Quantity.cpu ∧
          (quantities.declared "memory").IsAccepted Quantity.memory := by
      constructor
      · intro accepted
        have amounts := accepted quantities rfl
        exact ⟨amounts.cpu, amounts.memory⟩
      · rintro ⟨cpu, memory⟩ other same
        cases same
        exact ⟨cpu, memory⟩
    unfold amounts
    dsimp only
    by_cases empty : quantities.entries = []
    · -- An empty table declares nothing, so nothing in it can be malformed.
      have nothing (name : String) : quantities.declared name = .absent := by
        rw [ResourceTable.declared, empty]
        rfl
      rw [acceptedIff, empty]
      exact (Reads.ok fallback).congr (by simp [nothing, Declaration.IsAccepted])
    · have reads := (ResourceTable.reads_cpu typed isDefault).bind fun cpu _ =>
        (ResourceTable.reads_memory typed isDefault).map fun memory => Amounts.mk cpu memory
      have isFilled : quantities.entries.isEmpty = false := by
        rw [List.isEmpty_eq_false_iff]
        exact empty
      simp only [isFilled, Bool.false_eq_true, if_false]
      exact reads.congr acceptedIff.symm

/-- A container all of whose quantities are well formed. -/
structure Container.IsAccepted (container : Container) : Prop where
  limits : container.limits.IsAccepted
  requests : container.requests.IsAccepted

theorem Container.reads_addTo {container : Container} (typed : container.IsTyped)
    (total : PodAmounts) : Reads container.IsAccepted (addTo total container) := by
  have reads := (ResourceClause.reads_amounts typed.limits (.inr rfl) Amounts.unlimited).bind
    fun limits _ =>
      (ResourceClause.reads_amounts typed.requests (.inl rfl) Amounts.zero).map fun requests =>
        PodAmounts.mk (total.limits.add limits) (total.requests.add requests)
  exact reads.congr ⟨fun both => ⟨both.1, both.2⟩,
    fun accepted => ⟨accepted.limits, accepted.requests⟩⟩

/-- A pod all of whose containers declare well-formed quantities. -/
def Pod.IsAccepted (pod : Pod) : Prop :=
  ∀ containers, pod.containers = .ok containers → ∀ container ∈ containers, container.IsAccepted

theorem Pod.reads_amounts {pod : Pod} (typed : pod.IsTyped) :
    Reads pod.IsAccepted pod.amounts := by
  obtain ⟨containers, known, containersTyped⟩ := typed.containers
  rw [amounts, known, Outcome.mapError_ok, Outcome.ok_bind]
  have reads := Reads.foldlM (fun container member total =>
    Container.reads_addTo (containersTyped container member) total) PodAmounts.zero
  refine reads.congr ?_
  constructor
  · rintro accepted others same
    rw [known] at same
    cases same
    exact accepted
  · intro accepted
    exact accepted containers known

theorem Pod.reads_resources {pod : Pod} (typed : pod.IsTyped) :
    Reads pod.IsAccepted pod.resources :=
  (Pod.reads_amounts typed).map PodAmounts.record

end ClusterAgent
