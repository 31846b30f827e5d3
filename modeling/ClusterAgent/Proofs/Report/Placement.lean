import ClusterAgent.Proofs.Report.Quantities
import ClusterAgent.Proofs.Report.Views
import ClusterAgent.Proofs.Text.Units

/-!
Contract: pods by the node that they are placed on.

The nodes that pods mention stand once each, in the order of the units of their
names. A node shows the sums over exactly the pods placed on it.

Owns: the nodes that pods mention, views of the pods of each node, sums of pods.
Does not own: the nodes that are listed.
-/

namespace ClusterAgent

namespace PodAmounts

def add (left right : PodAmounts) : PodAmounts :=
  ⟨left.limits.add right.limits, left.requests.add right.requests⟩

theorem combine_record (left right : PodAmounts) :
    Record.combine Number.add left.record right.record = (left.add right).record := rfl

theorem foldl_combine_record (amounts : List PodAmounts) (start : PodAmounts) :
    (amounts.map record).foldl (Record.combine Number.add) start.record =
      (amounts.foldl add start).record := by
  induction amounts generalizing start with
  | nil => rfl
  | cons first rest inductionHypothesis =>
    rw [List.map_cons, List.foldl_cons, combine_record, inductionHypothesis, List.foldl_cons]

end PodAmounts

def Pod.known (pod : Pod) : PodAmounts := pod.amounts.toOption.getD .zero

theorem Pod.amounts_eq {pod : Pod} (typed : pod.IsTyped) (accepted : pod.IsAccepted) :
    pod.amounts = .ok pod.known :=
  Outcome.eq_ok_known ((Pod.reads_amounts typed).succeeds accepted) .zero

namespace PodList

variable {pods : List Pod}

/-- What pods ask for together, counted from zero. -/
def total (pods : List Pod) : PodAmounts := (pods.map Pod.known).foldl PodAmounts.add .zero

theorem totalResources_eq (typed : ∀ pod ∈ pods, pod.IsTyped)
    (accepted : ∀ pod ∈ pods, pod.IsAccepted) :
    totalResources pods = .ok (total pods).record := by
  have read : pods.mapM Pod.resources = .ok (pods.map fun pod => pod.known.record) := by
    apply Outcome.mapM_eq_map
    intro pod member
    rw [Pod.resources, Pod.amounts_eq (typed pod member) (accepted pod member)]
    rfl
  have folded := PodAmounts.foldl_combine_record (pods.map Pod.known) .zero
  rw [List.map_map] at folded
  rw [totalResources, read, Outcome.ok_bind]
  exact congrArg Except.ok folded

theorem reads_totalResources (typed : ∀ pod ∈ pods, pod.IsTyped) :
    Reads (∀ pod ∈ pods, pod.IsAccepted) (totalResources pods) := by
  have reads := Reads.mapM fun pod member => Pod.reads_resources (typed pod member)
  exact (reads.bind fun _ _ => Reads.ok _).congr (and_iff_left trivial)

/-! ## The nodes that pods mention -/

/-- The nodes that pods are placed on, in the order of their names. -/
def hosts (pods : List Pod) : List Name :=
  (pods.filterMap Pod.node?).eraseDups.mergeSort fun left right => unitsLe left.label right.label

theorem mem_hosts {host : Name} : host ∈ hosts pods ↔ ∃ pod ∈ pods, pod.node? = some host := by
  rw [hosts, List.mem_mergeSort, List.mem_eraseDups, List.mem_filterMap]

theorem mem_hosts_iff_placedOn {host : Name} : host ∈ hosts pods ↔ placedOn host pods ≠ [] := by
  rw [mem_hosts, placedOn, Ne, List.filter_eq_nil_iff]
  simp

theorem nodup_hosts (pods : List Pod) : (hosts pods).Nodup :=
  (List.mergeSort_perm _ _).nodup_iff.2 (nodup_eraseDups _)

theorem exists_text_of_mem_hosts (typed : ∀ pod ∈ pods, pod.IsTyped) {host : Name}
    (member : host ∈ hosts pods) : ∃ text, host = .text text := by
  obtain ⟨pod, inPods, placed⟩ := mem_hosts.1 member
  obtain ⟨text, _, isText⟩ := (typed pod inPods).node host placed
  exact ⟨text, isText⟩

theorem nodes_eq (typed : ∀ pod ∈ pods, pod.IsTyped) : nodes pods = .ok (hosts pods) := by
  have allText : (pods.filterMap Pod.node?).eraseDups.all Name.hasText := by
    rw [List.all_eq_true]
    intro host member
    have mentioned : host ∈ hosts pods := List.mem_mergeSort.2 member
    obtain ⟨text, rfl⟩ := exists_text_of_mem_hosts typed mentioned
    simp [Name.hasText]
  unfold nodes
  dsimp only
  rw [if_pos (Or.inr allText), hosts]

/-- The nodes that pods mention strictly ascend. -/
theorem pairwise_hosts (typed : ∀ pod ∈ pods, pod.IsTyped) :
    (hosts pods).Pairwise fun left right => UnitsBefore left.label right.label := by
  have ascending : (hosts pods).Pairwise fun left right => unitsLe left.label right.label := by
    apply List.pairwise_mergeSort
    · intro first second third
      exact unitsLe_trans
    · intro left right
      exact unitsLe_total left.label right.label
  have both := List.Pairwise.and_mem.1 (ascending.and (nodup_hosts pods))
  refine both.imp ?_
  rintro left right ⟨leftMember, rightMember, notAfter, differs⟩
  obtain ⟨leftText, rfl⟩ := exists_text_of_mem_hosts typed leftMember
  obtain ⟨rightText, rfl⟩ := exists_text_of_mem_hosts typed rightMember
  rw [Name.label_text, Name.label_text] at notAfter ⊢
  by_contra notBefore
  exact differs (congrArg Name.text (eq_of_not_unitsBefore notBefore (unitsLe_iff.1 notAfter)))

theorem hosts_of_nodes {names : List Name} (sorted : nodes pods = .ok names) :
    names = hosts pods := by
  unfold nodes at sorted
  dsimp only at sorted
  split at sorted
  · cases sorted
    rfl
  · cases sorted

/-- The names of nodes with what a view shows of their pods. -/
theorem forall₂_of_perNode {α : Type} {view : List Pod → Except Failure α}
    {table : Table Name α} (viewed : perNode view pods = .ok table) :
    List.Forall₂ (fun host entry => entry.1 = host ∧ view (placedOn host pods) = .ok entry.2)
      (hosts pods) table.entries := by
  unfold perNode at viewed
  obtain ⟨names, sorted, viewed⟩ := Outcome.bind_eq_ok.1 viewed
  obtain ⟨entries, traversed, rfl⟩ := Outcome.map_eq_ok.1 viewed
  rw [← hosts_of_nodes (Outcome.mapError_eq_ok.1 sorted)]
  refine (Outcome.mapM_eq_ok.1 traversed).imp ?_
  intro host entry stepped
  obtain ⟨shown, shownOk, rfl⟩ := Outcome.map_eq_ok.1 stepped
  exact ⟨rfl, shownOk⟩

theorem keys_perNode {α : Type} {view : List Pod → Except Failure α} {table : Table Name α}
    (viewed : perNode view pods = .ok table) : table.keys = hosts pods := by
  have related := forall₂_of_perNode viewed
  rw [Table.keys, ← List.forall₂_eq_eq_eq, List.forall₂_map_left_iff]
  exact related.flip.imp fun _ _ isEntry => isEntry.1

theorem nodup_keys_perNode {α : Type} {view : List Pod → Except Failure α} {table : Table Name α}
    (viewed : perNode view pods = .ok table) : table.keys.Nodup := by
  rw [keys_perNode viewed]
  exact nodup_hosts pods

/-- Whatever a table by node shows is the view of some pods. -/
theorem exists_of_perNode {α : Type} {view : List Pod → Except Failure α} {table : Table Name α}
    (viewed : perNode view pods = .ok table) {host : Name} {value : α}
    (found : table.get? host = some value) : view (placedOn host pods) = .ok value := by
  have member := Table.mem_entries_of_get? found
  obtain ⟨own, _, rfl, shown⟩ := Outcome.exists_of_mem_right (forall₂_of_perNode viewed) _ member
  exact shown

/-- A view of the pods of each node that succeeds for all of them. -/
theorem perNode_of_nodes {α : Type} {names : List Name} (sorted : nodes pods = .ok names)
    (view : List Pod → Except Failure α) (shown : List Pod → α)
    (succeeds : ∀ host, view (placedOn host pods) = .ok (shown (placedOn host pods))) :
    perNode view pods = .ok (.tabulate names fun host => shown (placedOn host pods)) := by
  have traversed : (names.mapM fun host => (host, ·) <$> view (placedOn host pods)) =
      .ok (names.map fun host => (host, shown (placedOn host pods))) := by
    apply Outcome.mapM_eq_map
    intro host _
    rw [succeeds host]
    rfl
  rw [perNode, sorted, Outcome.mapError_ok, Outcome.ok_bind, traversed]
  rfl

theorem resourcesPerNode_eq (typed : ∀ pod ∈ pods, pod.IsTyped)
    (accepted : ∀ pod ∈ pods, pod.IsAccepted) :
    resourcesPerNode pods =
      .ok (.tabulate (hosts pods) fun host => (total (placedOn host pods)).record) := by
  apply perNode_of_nodes (nodes_eq typed) totalResources fun placed => (total placed).record
  intro host
  apply totalResources_eq
  · intro pod member
    exact typed pod (List.mem_of_mem_filter member)
  · intro pod member
    exact accepted pod (List.mem_of_mem_filter member)

theorem podsPerNode_eq (typed : ∀ pod ∈ pods, pod.IsTyped) :
    podsPerNode pods =
      .ok (.tabulate (hosts pods) fun host => countRecord (placedOn host pods).length) :=
  perNode_of_nodes (nodes_eq typed) _ (fun placed => countRecord placed.length) fun _ => rfl

end PodList

end ClusterAgent
