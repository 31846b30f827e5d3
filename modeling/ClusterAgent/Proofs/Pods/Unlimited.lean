import ClusterAgent.Proofs.Pods.Limits
import ClusterAgent.Proofs.Report.Placement

/-!
Contract: what a container without a limit changes.

A container that sets no limit for a resource makes that limit infinite for its
pod, for the node of the pod and for the cluster, wherever it stands among other
containers and pods. Nothing else changes: the other limit and the requests are
what they would be if the container set a limit of zero.

Owns: what a container adds to a pod, sums that differ in one limit.
Does not own: how a single limit is read.
-/

namespace ClusterAgent

/-! ## Amounts that differ in one limit -/

namespace PodAmounts

variable {resource : Resource}

/-- Amounts that differ at most in the limit of a resource. -/
structure SameBut (resource : Resource) (left right : PodAmounts) : Prop where
  limits : ∀ other, other ≠ resource → left.limits.of other = right.limits.of other
  requests : left.requests = right.requests

/-- Amounts in which one limit is infinite, and nothing else is changed. -/
structure IsTainted (resource : Resource) (amounts bounded : PodAmounts) : Prop where
  limit : amounts.limits.of resource = .infinity false
  others : amounts.SameBut resource bounded

theorem limit_add (left right : PodAmounts) (resource : Resource) :
    (left.add right).limits.of resource =
      (left.limits.of resource).add (right.limits.of resource) := by
  cases resource <;> rfl

theorem limit_foldl (parts : List PodAmounts) (start : PodAmounts) (resource : Resource) :
    (parts.foldl add start).limits.of resource =
      (parts.map (·.limits.of resource)).foldl Number.add (start.limits.of resource) := by
  induction parts generalizing start with
  | nil => rfl
  | cons part rest inductionHypothesis =>
    rw [List.foldl_cons, inductionHypothesis, limit_add]
    rfl

theorem isNonneg_limit_zero (resource : Resource) : (zero.limits.of resource).IsNonneg := by
  cases resource <;> exact .inl rfl

/-- A sum of limits that are not negative is not negative. -/
theorem isNonneg_limit_foldl {parts : List PodAmounts}
    (nonneg : ∀ part ∈ parts, (part.limits.of resource).IsNonneg) :
    ((parts.foldl add zero).limits.of resource).IsNonneg := by
  rw [limit_foldl]
  exact Number.isNonneg_foldl_add (isNonneg_limit_zero resource) (List.forall_mem_map.2 nonneg)

theorem SameBut.refl (amounts : PodAmounts) : amounts.SameBut resource amounts :=
  ⟨fun _ _ => rfl, rfl⟩

theorem SameBut.add {left right leftNext rightNext : PodAmounts} (same : left.SameBut resource right)
    (sameNext : leftNext.SameBut resource rightNext) :
    (left.add leftNext).SameBut resource (right.add rightNext) := by
  constructor
  · intro other differs
    rw [limit_add, limit_add, same.limits other differs, sameNext.limits other differs]
  · exact congrArg₂ Amounts.add same.requests sameNext.requests

theorem SameBut.foldl {parts others : List PodAmounts} {start otherStart : PodAmounts}
    (same : start.SameBut resource otherStart)
    (sameParts : List.Forall₂ (SameBut resource) parts others) :
    (parts.foldl PodAmounts.add start).SameBut resource (others.foldl PodAmounts.add otherStart) := by
  induction sameParts generalizing start otherStart with
  | nil => exact same
  | cons sameHere _ inductionHypothesis => exact inductionHypothesis (same.add sameHere)

/-- A part with an infinite limit, wherever it stands, makes the limit of the sum infinite and
changes nothing else in it. -/
theorem IsTainted.foldl {before after : List PodAmounts} {part bounded : PodAmounts}
    (tainted : part.IsTainted resource bounded)
    (nonneg : ∀ other ∈ before ++ part :: after, (other.limits.of resource).IsNonneg) :
    ((before ++ part :: after).foldl add zero).IsTainted resource
      ((before ++ bounded :: after).foldl add zero) := by
  have sameAll (parts : List PodAmounts) : List.Forall₂ (SameBut resource) parts parts :=
    List.forall₂_same.2 fun other _ => SameBut.refl other
  constructor
  · rw [limit_foldl]
    apply Number.foldl_add_of_infinite (isNonneg_limit_zero resource)
      (List.forall_mem_map.2 nonneg)
    exact List.mem_map.2 ⟨part, by simp, tainted.limit⟩
  · exact (SameBut.refl zero).foldl
      (List.rel_append (sameAll before) (.cons tainted.others (sameAll after)))

end PodAmounts

/-! ## Containers -/

namespace Container

/-- What a container adds to its pod. -/
def amounts (container : Container) : Except Failure PodAmounts := do
  let limits ← container.limits.amounts "inf" .unlimited
  let requests ← container.requests.amounts "0.0" .zero
  return ⟨limits, requests⟩

theorem addTo_eq (total : PodAmounts) (container : Container) :
    container.addTo total = total.add <$> container.amounts := by
  unfold addTo amounts
  cases container.limits.amounts "inf" .unlimited with
  | error failure => rfl
  | ok limits => cases container.requests.amounts "0.0" .zero <;> rfl

theorem foldlM_addTo {containers : List Container} {parts : List PodAmounts}
    (read : List.Forall₂ (fun container part => container.amounts = .ok part) containers parts)
    (start : PodAmounts) :
    containers.foldlM addTo start = .ok (parts.foldl PodAmounts.add start) := by
  induction read generalizing start with
  | nil => rfl
  | cons readHere _ inductionHypothesis =>
    rw [List.foldlM_cons, addTo_eq, readHere, Outcome.map_ok, Outcome.ok_bind,
      inductionHypothesis, List.foldl_cons]

/-- A container whose declared quantities are numbers from zero to infinity. -/
structure IsNonneg (container : Container) : Prop where
  limits : container.limits.IsNonneg
  requests : container.requests.IsNonneg

/-- Whether a container sets no limit for a resource: without limits, with limits that are empty, or
with limits that leave the resource out. -/
def SetsNoLimit (container : Container) (resource : Resource) : Prop :=
  container.limits.declared resource = .absent

/-- The container with a limit of zero declared for a resource. -/
def withZeroLimit (container : Container) (resource : Resource) : Container :=
  { container with limits := container.limits.declaring resource "0" }

variable {container : Container}

theorem exists_amounts (typed : container.IsTyped) (nonneg : container.IsNonneg) :
    ∃ part, container.amounts = .ok part ∧ ∀ resource, (part.limits.of resource).IsNonneg := by
  obtain ⟨limits, limitsRead, limitsNonneg⟩ :=
    ResourceClause.exists_limits typed.limits nonneg.limits
  obtain ⟨requests, requestsRead⟩ := (ResourceClause.reads_amounts typed.requests (.inl rfl)
    Amounts.zero).succeeds nonneg.requests.isAccepted
  refine ⟨⟨limits, requests⟩, ?_, limitsNonneg⟩
  rw [amounts, limitsRead, requestsRead]
  rfl

theorem exists_parts {containers : List Container}
    (typed : ∀ container ∈ containers, container.IsTyped)
    (nonneg : ∀ container ∈ containers, container.IsNonneg) :
    ∃ parts, List.Forall₂ (fun container part => container.amounts = .ok part) containers parts ∧
      ∀ part ∈ parts, ∀ resource, (part.limits.of resource).IsNonneg := by
  obtain ⟨parts, traversed, partsNonneg⟩ := Outcome.exists_mapM_of_forall fun container member =>
    exists_amounts (typed container member) (nonneg container member)
  exact ⟨parts, Outcome.mapM_eq_ok.1 traversed, partsNonneg⟩

theorem isTyped_withZeroLimit (typed : container.IsTyped) (resource : Resource) :
    (container.withZeroLimit resource).IsTyped :=
  ⟨ResourceClause.isTyped_declaring typed.limits resource "0", typed.requests⟩

theorem isNonneg_withZeroLimit (typed : container.IsTyped) (nonneg : container.IsNonneg)
    (resource : Resource) : (container.withZeroLimit resource).IsNonneg :=
  ⟨ResourceClause.isNonneg_declaring_zero typed.limits nonneg.limits resource, nonneg.requests⟩

/-- What a container adds that sets no limit, and what it would add with a limit of zero. -/
theorem isTainted_amounts {resource : Resource} (typed : container.IsTyped)
    (setsNone : container.SetsNoLimit resource) {part bounded : PodAmounts}
    (read : container.amounts = .ok part)
    (readBounded : (container.withZeroLimit resource).amounts = .ok bounded) :
    part.IsTainted resource bounded := by
  obtain ⟨limits, limitsRead, read⟩ := Outcome.bind_eq_ok.1 read
  obtain ⟨requests, requestsRead, isPart⟩ := Outcome.bind_eq_ok.1 read
  obtain ⟨boundedLimits, boundedRead, readBounded⟩ := Outcome.bind_eq_ok.1 readBounded
  obtain ⟨sameRequests, sameRead, isBounded⟩ := Outcome.bind_eq_ok.1 readBounded
  cases isPart
  cases isBounded
  have requestsEq : requests = sameRequests := Except.ok.inj (requestsRead.symm.trans sameRead)
  constructor
  · exact ResourceClause.limit_of_undeclared typed.limits setsNone limitsRead
  · constructor
    · intro other differs
      exact ResourceClause.limits_declaring typed.limits differs limitsRead boundedRead
    · exact requestsEq

end Container

/-! ## Pods -/

namespace Pod

/-- A pod all of whose declared quantities are numbers from zero to infinity. -/
def IsNonneg (pod : Pod) : Prop :=
  ∀ containers, pod.containers = .ok containers → ∀ container ∈ containers, container.IsNonneg

/-- The pod with other containers. -/
def withContainers (pod : Pod) (containers : List Container) : Pod :=
  { pod with containers := .ok containers }

variable {pod : Pod} {containers : List Container}

theorem IsNonneg.isAccepted (nonneg : pod.IsNonneg) : pod.IsAccepted := by
  intro containers known container member
  have containerNonneg := nonneg containers known container member
  exact ⟨containerNonneg.limits.isAccepted, containerNonneg.requests.isAccepted⟩

theorem resources_eq (typed : pod.IsTyped) (accepted : pod.IsAccepted) :
    pod.resources = .ok pod.known.record := by
  rw [resources, Pod.amounts_eq typed accepted, Outcome.map_ok]

theorem IsTyped.of_containers (typed : pod.IsTyped) (known : pod.containers = .ok containers) :
    ∀ container ∈ containers, container.IsTyped := by
  obtain ⟨others, sameContainers, containersTyped⟩ := typed.containers
  rw [known] at sameContainers
  cases sameContainers
  exact containersTyped

theorem known_eq (known : pod.containers = .ok containers) {parts : List PodAmounts}
    (read : List.Forall₂ (fun container part => container.amounts = .ok part) containers parts) :
    pod.known = parts.foldl PodAmounts.add .zero := by
  rw [Pod.known, Pod.amounts, known, Outcome.mapError_ok, Outcome.ok_bind,
    Container.foldlM_addTo read]
  rfl

theorem isNonneg_known (typed : pod.IsTyped) (nonneg : pod.IsNonneg) (resource : Resource) :
    (pod.known.limits.of resource).IsNonneg := by
  obtain ⟨containers, known, containersTyped⟩ := typed.containers
  obtain ⟨parts, read, partsNonneg⟩ :=
    Container.exists_parts containersTyped (nonneg containers known)
  rw [known_eq known read]
  exact PodAmounts.isNonneg_limit_foldl fun part member => partsNonneg part member resource

section Replaced

variable {front back : List Container} {container : Container} {resource : Resource}
  (typed : pod.IsTyped) (nonneg : pod.IsNonneg)
  (known : pod.containers = .ok (front ++ container :: back))

include typed known

theorem isTyped_replaced :
    (pod.withContainers (front ++ container.withZeroLimit resource :: back)).IsTyped := by
  have containersTyped := typed.of_containers known
  simp only [List.forall_mem_append, List.forall_mem_cons] at containersTyped
  obtain ⟨frontTyped, containerTyped, backTyped⟩ := containersTyped
  refine ⟨typed.node, _, rfl, ?_⟩
  simp only [List.forall_mem_append, List.forall_mem_cons]
  exact ⟨frontTyped, Container.isTyped_withZeroLimit containerTyped resource, backTyped⟩

include nonneg

theorem isNonneg_replaced :
    (pod.withContainers (front ++ container.withZeroLimit resource :: back)).IsNonneg := by
  have containerTyped : container.IsTyped := typed.of_containers known container (by simp)
  have containersNonneg := nonneg _ known
  simp only [List.forall_mem_append, List.forall_mem_cons] at containersNonneg
  obtain ⟨frontNonneg, containerNonneg, backNonneg⟩ := containersNonneg
  intro containers isReplaced
  cases isReplaced
  simp only [List.forall_mem_append, List.forall_mem_cons]
  exact ⟨frontNonneg,
    Container.isNonneg_withZeroLimit containerTyped containerNonneg resource, backNonneg⟩

/-- A container without a limit taints its pod. -/
theorem isTainted_known (setsNone : container.SetsNoLimit resource) :
    pod.known.IsTainted resource
      (pod.withContainers (front ++ container.withZeroLimit resource :: back)).known := by
  have containersTyped := typed.of_containers known
  have containersNonneg := nonneg _ known
  simp only [List.forall_mem_append, List.forall_mem_cons] at containersTyped containersNonneg
  obtain ⟨frontTyped, containerTyped, backTyped⟩ := containersTyped
  obtain ⟨frontNonneg, containerNonneg, backNonneg⟩ := containersNonneg
  obtain ⟨frontParts, frontRead, frontPartsNonneg⟩ :=
    Container.exists_parts frontTyped frontNonneg
  obtain ⟨backParts, backRead, backPartsNonneg⟩ := Container.exists_parts backTyped backNonneg
  obtain ⟨part, read, partNonneg⟩ := Container.exists_amounts containerTyped containerNonneg
  obtain ⟨bounded, readBounded, _⟩ := Container.exists_amounts
    (Container.isTyped_withZeroLimit containerTyped resource)
    (Container.isNonneg_withZeroLimit containerTyped containerNonneg resource)
  have boundedKnown :
      (pod.withContainers (front ++ container.withZeroLimit resource :: back)).known =
        (frontParts ++ bounded :: backParts).foldl PodAmounts.add .zero :=
    known_eq rfl (List.rel_append frontRead (.cons readBounded backRead))
  rw [known_eq known (List.rel_append frontRead (.cons read backRead)), boundedKnown]
  apply (Container.isTainted_amounts containerTyped setsNone read readBounded).foldl
  simp only [List.forall_mem_append, List.forall_mem_cons]
  exact ⟨fun other member => frontPartsNonneg other member resource, partNonneg resource,
    fun other member => backPartsNonneg other member resource⟩

end Replaced

end Pod

/-! ## Lists of pods -/

/-- Two outcomes that are amounts, the first with one limit infinite and otherwise as the second. -/
def TaintsOnly (resource : Resource) (outcome bounded : Except Failure (Record Number)) : Prop :=
  ∃ amounts others : PodAmounts, outcome = .ok amounts.record ∧ bounded = .ok others.record ∧
    amounts.IsTainted resource others

namespace PodList

variable {before after : List Pod} {pod bounded : Pod} {resource : Resource}

/-- A tainted pod, wherever it stands, taints the sum. -/
theorem isTainted_total (tainted : pod.known.IsTainted resource bounded.known)
    (typed : ∀ other ∈ before ++ pod :: after, other.IsTyped)
    (nonneg : ∀ other ∈ before ++ pod :: after, other.IsNonneg) :
    (total (before ++ pod :: after)).IsTainted resource (total (before ++ bounded :: after)) := by
  unfold total
  rw [List.map_append, List.map_append, List.map_cons, List.map_cons]
  apply tainted.foldl
  rw [← List.map_cons, ← List.map_append, List.forall_mem_map]
  intro other member
  exact Pod.isNonneg_known (typed other member) (nonneg other member) resource

theorem forall_replaced {Holds : Pod → Prop} (all : ∀ other ∈ before ++ pod :: after, Holds other)
    (holds : Holds bounded) : ∀ other ∈ before ++ bounded :: after, Holds other := by
  simp only [List.forall_mem_append, List.forall_mem_cons] at all ⊢
  exact ⟨all.1, holds, all.2.2⟩

theorem placedOn_of_placed {host : Name} (placed : pod.node? = some host) :
    placedOn host (before ++ pod :: after) = placedOn host before ++ pod :: placedOn host after := by
  simp [placedOn, placed]

theorem placedOn_of_elsewhere {host : Name} (elsewhere : pod.node? ≠ some host) :
    placedOn host (before ++ pod :: after) = placedOn host before ++ placedOn host after := by
  simp [placedOn, elsewhere]

theorem hosts_of_same_node (sameNode : bounded.node? = pod.node?) :
    hosts (before ++ bounded :: after) = hosts (before ++ pod :: after) := by
  unfold hosts
  rw [List.filterMap_append, List.filterMap_append, List.filterMap_cons, List.filterMap_cons,
    sameNode]

/-- What two tables by node show, the first with one limit of one node infinite. -/
structure TaintsNode (resource : Resource) (node : Option Name)
    (table others : Table Name (Record Number)) : Prop where
  keys : table.keys = others.keys
  tainted : ∀ host, node = some host → ∃ amounts other : PodAmounts,
    table.get? host = some amounts.record ∧ others.get? host = some other.record ∧
      amounts.IsTainted resource other
  elsewhere : ∀ host, node ≠ some host → table.get? host = others.get? host

/-- A tainted pod taints its node, and no other. -/
theorem taintsNode_tabulate (tainted : pod.known.IsTainted resource bounded.known)
    (typed : ∀ other ∈ before ++ pod :: after, other.IsTyped)
    (nonneg : ∀ other ∈ before ++ pod :: after, other.IsNonneg)
    (sameNode : bounded.node? = pod.node?) :
    TaintsNode resource pod.node?
      (.tabulate (hosts (before ++ pod :: after))
        fun host => (total (placedOn host (before ++ pod :: after))).record)
      (.tabulate (hosts (before ++ bounded :: after))
        fun host => (total (placedOn host (before ++ bounded :: after))).record) := by
  rw [hosts_of_same_node sameNode]
  constructor
  · rw [Table.keys_tabulate, Table.keys_tabulate]
  · intro host placed
    have isHost : host ∈ hosts (before ++ pod :: after) := mem_hosts.2 ⟨pod, by simp, placed⟩
    refine ⟨_, _, Table.get?_tabulate _ _ _ |>.trans (if_pos isHost),
      Table.get?_tabulate _ _ _ |>.trans (if_pos isHost), ?_⟩
    rw [placedOn_of_placed placed, placedOn_of_placed (sameNode.trans placed)]
    apply isTainted_total tainted
    · rw [← placedOn_of_placed placed]
      exact fun other member => typed other (List.mem_of_mem_filter member)
    · rw [← placedOn_of_placed placed]
      exact fun other member => nonneg other (List.mem_of_mem_filter member)
  · intro host elsewhere
    rw [Table.get?_tabulate, Table.get?_tabulate, placedOn_of_elsewhere elsewhere,
      placedOn_of_elsewhere (sameNode ▸ elsewhere)]

/-- Let all declared quantities be numbers from zero to infinity. A container that sets no limit for
a resource, at any place of any pod, makes that limit infinite in the resources of the pod, in those
of its node and in those of the cluster. The other limit and both requests are what they are with a
limit of zero in its place, and so is all that is shown of other nodes. -/
theorem unlimited_container_taints_sums {pods : List Pod} (typed : ∀ pod ∈ pods, pod.IsTyped)
    (nonneg : ∀ pod ∈ pods, pod.IsNonneg) (resource : Resource) {front back : List Container}
    {container : Container} (isPods : pods = before ++ pod :: after)
    (known : pod.containers = .ok (front ++ container :: back))
    (setsNone : container.SetsNoLimit resource)
    (isBounded : bounded =
      pod.withContainers (front ++ container.withZeroLimit resource :: back)) :
    TaintsOnly resource pod.resources bounded.resources ∧
      (∃ table others, resourcesPerNode pods = .ok table ∧
        resourcesPerNode (before ++ bounded :: after) = .ok others ∧
        TaintsNode resource pod.node? table others) ∧
      TaintsOnly resource (totalResources pods)
        (totalResources (before ++ bounded :: after)) := by
  subst isPods
  have podTyped : pod.IsTyped := typed pod (by simp)
  have podNonneg : pod.IsNonneg := nonneg pod (by simp)
  have boundedTyped : bounded.IsTyped := isBounded ▸ Pod.isTyped_replaced podTyped known
  have boundedNonneg : bounded.IsNonneg :=
    isBounded ▸ Pod.isNonneg_replaced podTyped podNonneg known
  have tainted : pod.known.IsTainted resource bounded.known :=
    isBounded ▸ Pod.isTainted_known podTyped podNonneg known setsNone
  have sameNode : bounded.node? = pod.node? := by
    rw [isBounded]
    rfl
  have accepted : ∀ other ∈ before ++ pod :: after, other.IsAccepted :=
    fun other member => (nonneg other member).isAccepted
  have othersTyped : ∀ other ∈ before ++ bounded :: after, other.IsTyped :=
    forall_replaced typed boundedTyped
  have othersAccepted : ∀ other ∈ before ++ bounded :: after, other.IsAccepted :=
    forall_replaced accepted boundedNonneg.isAccepted
  refine ⟨?ofPod, ?ofNode, ?ofCluster⟩
  case ofPod =>
    exact ⟨pod.known, bounded.known, Pod.resources_eq podTyped podNonneg.isAccepted,
      Pod.resources_eq boundedTyped boundedNonneg.isAccepted, tainted⟩
  case ofNode =>
    exact ⟨_, _, resourcesPerNode_eq typed accepted,
      resourcesPerNode_eq othersTyped othersAccepted,
      taintsNode_tabulate tainted typed nonneg sameNode⟩
  case ofCluster =>
    exact ⟨_, _, totalResources_eq typed accepted, totalResources_eq othersTyped othersAccepted,
      isTainted_total tainted typed nonneg⟩

/-- A container with limits that leave processor time out. -/
def memoryLimited : Container :=
  ⟨.table ⟨[("memory", .text "1Gi")]⟩, .table ⟨[("cpu", .text "250m")]⟩⟩

/-- A container with both limits, one of them a zero of negative sign. -/
def bothLimited : Container := ⟨.table ⟨[("cpu", .text "2"), ("memory", .text "-0")]⟩, .absent⟩

def limitedPod : Pod := ⟨default, .text "a", .ok [bothLimited]⟩

def mixedPod : Pod := ⟨default, .text "a", .ok [bothLimited, memoryLimited, bothLimited]⟩

theorem isTyped_mixedPods : ∀ pod ∈ [limitedPod, mixedPod, limitedPod], pod.IsTyped := by
  have formed : Form.nullable Form.text (some (.text "a")) := rfl
  have named : (Name.text "a").IsTyped := Name.isTyped_ofField formed (.host 0)
  have both : bothLimited.IsTyped := by
    refine ⟨?_, trivial⟩
    simp [bothLimited, ResourceClause.IsTyped, ResourceTable.IsTyped]
  have one : memoryLimited.IsTyped := by
    constructor <;> simp [memoryLimited, ResourceClause.IsTyped, ResourceTable.IsTyped]
  have limited : limitedPod.IsTyped := ⟨named, _, rfl, by simp [both]⟩
  have mixed : mixedPod.IsTyped := ⟨named, _, rfl, by simp [both, one]⟩
  simp [limited, mixed]

theorem isNonneg_bothLimited : bothLimited.IsNonneg := by
  constructor
  · intro resource quantity declared
    cases resource <;> cases declared
    · exact ⟨_, rfl, by decide +kernel⟩
    · exact ⟨_, rfl, by decide +kernel⟩
  · intro resource quantity declared
    cases declared

theorem isNonneg_memoryLimited : memoryLimited.IsNonneg := by
  constructor
  · intro resource quantity declared
    cases resource <;> cases declared
    exact ⟨_, rfl, by decide +kernel⟩
  · intro resource quantity declared
    cases resource <;> cases declared
    exact ⟨_, rfl, by decide +kernel⟩

theorem isNonneg_mixedPods : ∀ pod ∈ [limitedPod, mixedPod, limitedPod], pod.IsNonneg := by
  have limited : limitedPod.IsNonneg := by
    intro containers known
    cases known
    simp [isNonneg_bothLimited]
  have mixed : mixedPod.IsNonneg := by
    intro containers known
    cases known
    simp [isNonneg_bothLimited, isNonneg_memoryLimited]
  simp [limited, mixed]

theorem unlimited_container_taints_sums_of_mixedPod :
    (∀ pod ∈ [limitedPod, mixedPod, limitedPod], pod.IsTyped) ∧
      (∀ pod ∈ [limitedPod, mixedPod, limitedPod], pod.IsNonneg) ∧
      memoryLimited.SetsNoLimit .cpu ∧
      ∃ bounded, bounded.containers =
          .ok [bothLimited, memoryLimited.withZeroLimit .cpu, bothLimited] ∧
        TaintsOnly .cpu mixedPod.resources bounded.resources ∧
        (∃ table others, resourcesPerNode [limitedPod, mixedPod, limitedPod] = .ok table ∧
          resourcesPerNode [limitedPod, bounded, limitedPod] = .ok others ∧
          TaintsNode .cpu (some (.text "a")) table others) ∧
        TaintsOnly .cpu (totalResources [limitedPod, mixedPod, limitedPod])
          (totalResources [limitedPod, bounded, limitedPod]) := by
  have setsNone : memoryLimited.SetsNoLimit .cpu := rfl
  have isPods : [limitedPod, mixedPod, limitedPod] = [limitedPod] ++ mixedPod :: [limitedPod] := rfl
  have known : mixedPod.containers = .ok ([bothLimited] ++ memoryLimited :: [bothLimited]) := rfl
  exact ⟨isTyped_mixedPods, isNonneg_mixedPods, setsNone, _, rfl,
    unlimited_container_taints_sums isTyped_mixedPods isNonneg_mixedPods .cpu isPods known setsNone
      rfl⟩

end PodList

end ClusterAgent
