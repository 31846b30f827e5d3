import ClusterAgent.Proofs.Report.ClusterSections
import ClusterAgent.Proofs.Report.Growth

/-!
Contract: tables of entities by name, and the sections that are made of them.

A table by name takes a view of every entity that has a name, of one that a later
entity of that name hides too, and of no other. It lists each name once, where it
first comes, with the view of the last entity of that name. A section that is made
of such a table keeps all this, whatever is put beside it.

Owns: what a table by name lists, the sections that list entities.
Does not own: the views of entities, hosts that only pods mention.
-/

namespace ClusterAgent

namespace Entity

variable {ε β : Type} [Entity ε] {view : ε → Except Failure β} {entities : List ε}

/-- A table that lists entities by name: the distinct names, in the order in which they first come,
each with the view of the last entity that has it. -/
structure IsTableOf (view : ε → Except Failure β) (entities : List ε) (table : Table Name β) :
    Prop where
  keys : table.keys = (names entities).eraseDups
  once : table.keys.Nodup
  shows : ∀ name entity, last? entities name = some entity →
    ∃ shown, view entity = .ok shown ∧ table.get? name = some shown

/-- Whether an entity can be listed: it has no name, or a view. -/
def CanBeListed (view : ε → Except Failure β) (entity : ε) : Prop :=
  (name? entity).isSome → ∃ shown, view entity = .ok shown

/-- The failure of the first entity that cannot be listed. -/
def FailsFirst (view : ε → Except Failure β) (entities : List ε) (failure : Failure) : Prop :=
  ∃ before entity after, entities = before ++ entity :: after ∧
    (∀ earlier ∈ before, CanBeListed view earlier) ∧
    (name? entity).isSome ∧ view entity = .error failure

theorem isTableOf_of_get? {table : Table Name β}
    (keys : table.keys = (names entities).eraseDups)
    (viewed : ∀ entity ∈ entities, CanBeListed view entity)
    (found : ∀ name, table.get? name =
      (last? entities name).bind fun entity => (view entity).toOption) :
    IsTableOf view entities table := by
  constructor
  case keys => exact keys
  case once =>
    rw [keys]
    exact nodup_eraseDups _
  case shows =>
    intro name entity isLast
    have given := last?_eq_some isLast
    obtain ⟨shown, shownOk⟩ := viewed entity given.1 (given.2 ▸ rfl)
    refine ⟨shown, shownOk, ?_⟩
    rw [found, isLast, Option.bind_some, shownOk]
    rfl

theorem isTableOf_of_tryByName {table : Table Name β}
    (viewed : tryByName view entities = .ok table) : IsTableOf view entities table :=
  isTableOf_of_get? (keys_tryByName viewed) (exists_tryByName.1 ⟨table, viewed⟩)
    (get?_tryByName viewed)

theorem isTableOf_byName (view : ε → β) (entities : List ε) :
    IsTableOf (fun entity => .ok (view entity)) entities (byName view entities) :=
  isTableOf_of_tryByName (tryByName_eq_byName fun _ _ => rfl)

end Entity

/-! ## Sections about the cluster -/

namespace Inventory

variable {inventory : Inventory}

/-- The sections of sums leave the sections of entities as they are. -/
theorem sectionAt_putSums {element result : Element}
    (put : inventory.putSums element = .ok result) {other : Name}
    (notResources : other ≠ .text "k8s_resources") (notStats : other ≠ .text "k8s_stats") :
    result.sectionAt other = element.sectionAt other := by
  unfold putSums at put
  obtain ⟨_, _, put⟩ := Outcome.bind_eq_ok.1 put
  obtain ⟨offers, putOffers, put⟩ := Outcome.bind_eq_ok.1 put
  obtain ⟨_, _, put⟩ := Outcome.bind_eq_ok.1 put
  obtain ⟨asked, putAsked, put⟩ := Outcome.bind_eq_ok.1 put
  obtain ⟨counted, putCount, put⟩ := Outcome.bind_eq_ok.1 put
  obtain ⟨_, _, putStats⟩ := Outcome.bind_eq_ok.1 put
  calc result.sectionAt other
      = counted.sectionAt other := Element.sectionAt_put_of_ne putStats notStats
    _ = asked.sectionAt other := Element.sectionAt_put_of_ne putCount notResources
    _ = offers.sectionAt other := Element.sectionAt_put_of_ne putAsked notResources
    _ = element.sectionAt other := Element.sectionAt_put_of_ne putOffers notResources

/-- The sections about the cluster that list entities by name. -/
structure ListsEntities (inventory : Inventory) (element : Element) : Prop where
  namespaces : Entity.IsTableOf (fun entity => .ok (Namespace.view entity))
    inventory.namespaces (element.sectionAt "k8s_namespaces").content
  volumes : Entity.IsTableOf PersistentVolume.view
    inventory.persistentVolumes (element.sectionAt "k8s_persistent_volumes").content
  claims : Entity.IsTableOf (fun entity => .ok (PersistentVolumeClaim.view entity))
    inventory.persistentVolumeClaims (element.sectionAt "k8s_persistent_volume_claims").content
  storageClasses : Entity.IsTableOf (fun entity => .ok (StorageClass.view entity))
    inventory.storageClasses (element.sectionAt "k8s_storage_classes").content
  componentStatuses : Entity.IsTableOf (fun entity => .ok (ComponentStatus.view entity))
    inventory.componentStatuses (element.sectionAt "k8s_component_statuses").content

theorem listsEntities_of_clusterElement {element : Element}
    (made : inventory.clusterElement = .ok element) : inventory.ListsEntities element := by
  rw [clusterElement_eq] at made
  obtain ⟨volumes, viewed, put⟩ := Outcome.bind_eq_ok.1 made
  have kept (name : String) (notResources : name ≠ "k8s_resources")
      (notStats : name ≠ "k8s_stats") :
      element.sectionAt name =
        ⟨⟨((inventory.entityContents volumes).lookup (.text name)).getD []⟩⟩ := by
    rw [← Element.sectionAt_ofContents]
    apply sectionAt_putSums put
    · simpa using notResources
    · simpa using notStats
  constructor
  case namespaces =>
    rw [kept "k8s_namespaces" (by decide) (by decide)]
    exact Entity.isTableOf_byName Namespace.view inventory.namespaces
  case volumes =>
    rw [kept "k8s_persistent_volumes" (by decide) (by decide)]
    exact Entity.isTableOf_of_tryByName viewed
  case claims =>
    rw [kept "k8s_persistent_volume_claims" (by decide) (by decide)]
    exact Entity.isTableOf_byName PersistentVolumeClaim.view inventory.persistentVolumeClaims
  case storageClasses =>
    rw [kept "k8s_storage_classes" (by decide) (by decide)]
    exact Entity.isTableOf_byName StorageClass.view inventory.storageClasses
  case componentStatuses =>
    rw [kept "k8s_component_statuses" (by decide) (by decide)]
    exact Entity.isTableOf_byName ComponentStatus.view inventory.componentStatuses

end Inventory

/-! ## Sections about hosts -/

namespace Section

/-- What a section of resources shows of what a node offers. -/
def offer? (held : Section) : Option Members := do
  let capacity ← held.content.get? "capacity"
  let allocatable ← held.content.get? "allocatable"
  return [("capacity", capacity), ("allocatable", allocatable)]

end Section

namespace Group

/-- The offers that the resources of hosts show, by host. -/
def offers (group : Group) : Table Name Members :=
  group.elements.filterMap fun element => (element.sectionAt "k8s_resources").offer?

/-- The sections of one name, by host. -/
def sectionsOf (group : Group) (name : Name) : Table Name Section :=
  group.elements.filterMap fun element => element.sections.get? name

/-- Data without the keys of an offer makes no difference to offers. -/
theorem offer?_put {group result : Group} {name : String} {data : Table Name Members}
    (put : group.put name data = .ok result) (distinct : data.keys.Nodup)
    (apart : ∀ host members, data.get? host = some members →
      "capacity" ∉ members.map Prod.fst ∧ "allocatable" ∉ members.map Prod.fst)
    (host : Name) : (result.sectionAt host name).offer? = (group.sectionAt host name).offer? := by
  rw [sectionAt_put put distinct]
  cases found : data.get? host with
  | none => rfl
  | some members =>
    obtain ⟨noCapacity, noAllocatable⟩ := apart host members found
    have absent {key : String} (absent : key ∉ members.map Prod.fst) :
        Name.text key ∉ members.named.map Prod.fst := by
      simpa [Members.named] using absent
    show (((group.sectionAt host name).insert members.named).state).offer? = _
    unfold Section.offer?
    rw [Section.get?_insert_of_not_mem (absent noCapacity),
      Section.get?_insert_of_not_mem (absent noAllocatable)]

/-- A part of elements that the last nodes of the names show, host by host: as a table it lists the
nodes, if their names are the first hosts. -/
theorem isTableOf_filterMap {group : Group} {β : Type} {part? : Element → Option β}
    {view : SampledNode → Except Failure β} {nodes : List SampledNode}
    (first : (Entity.names nodes).eraseDups <+: group.hosts) (once : group.hosts.Nodup)
    (viewed : ∀ sampled ∈ nodes, Entity.CanBeListed view sampled)
    (nothing : part? .empty = none)
    (parts : ∀ host, part? (group.elementAt host) =
      (Entity.last? nodes host).bind fun sampled => (view sampled).toOption) :
    Entity.IsTableOf view nodes (group.elements.filterMap part?) := by
  have distinct : group.elements.keys.Nodup := once
  have found (host : Name) : (group.elements.get? host).bind part? =
      (Entity.last? nodes host).bind fun sampled => (view sampled).toOption := by
    rw [← parts host, elementAt]
    cases group.elements.get? host with
    | none => exact nothing.symm
    | some element => rfl
  have isListed (host : Name) :
      ((group.elements.get? host).bind part?).isSome ↔ host ∈ Entity.names nodes := by
    rw [found, ← Entity.last?_isSome_iff]
    cases last : Entity.last? nodes host with
    | none => rfl
    | some sampled =>
      have given := Entity.last?_eq_some last
      obtain ⟨shown, shownOk⟩ := viewed sampled given.1 (given.2 ▸ rfl)
      rw [Option.bind_some, shownOk]
      rfl
  obtain ⟨mentioned, hosts⟩ := first
  have keys : (group.elements.filterMap part?).keys = (Entity.names nodes).eraseDups := by
    rw [Table.keys_filterMap distinct]
    show group.hosts.filter _ = _
    rw [← hosts, List.filter_append, List.filter_eq_self.2, List.filter_eq_nil_iff.2,
      List.append_nil]
    · intro host isMentioned listed
      rw [← hosts] at once
      have isName := List.mem_eraseDups.2 ((isListed host).1 listed)
      exact (List.nodup_append.1 once).2.2 host isName host isMentioned rfl
    · intro host member
      exact (isListed host).2 (List.mem_eraseDups.1 member)
  apply Entity.isTableOf_of_get? keys viewed
  intro name
  rw [Table.get?_filterMap distinct, found]

end Group

theorem PodList.keys_totalResources_subset {pods : List Pod} {record : Record Number}
    (totalled : totalResources pods = .ok record) :
    record.map Prod.fst ⊆ ["limits", "requests"] := by
  obtain ⟨records, _, summed⟩ := Outcome.bind_eq_ok.1 totalled
  cases Outcome.mapError_eq_ok.1 summed
  rw [Record.foldl_combine_eq_mapLeaves, Record.map_fst_mapLeaves]
  exact List.Subset.refl _

namespace Group

section PerNode

variable {before after : Group} {pods : List Pod} {view : List Pod → Except Failure (Record Number)}
  {table : Table Name (Record Number)} (viewed : PodList.perNode view pods = .ok table)
  (put : before.put "k8s_resources" (table.map Record.toMembers) = .ok after)
include viewed put

theorem isGrown_put_perNode : IsGrown "k8s_resources" before after := by
  apply isGrown_put put
  rw [Table.keys_map]
  exact PodList.nodup_keys_perNode viewed

/-- What is shown of the pods of a node stands under other keys than its offer. -/
theorem offer?_put_perNode
    (keys : ∀ placed record, view placed = .ok record →
      record.map Prod.fst ⊆ ["limits", "requests"]) (host : Name) :
    (after.sectionAt host "k8s_resources").offer? =
      (before.sectionAt host "k8s_resources").offer? := by
  apply offer?_put put
  · rw [Table.keys_map]
    exact PodList.nodup_keys_perNode viewed
  · intro own members found
    rw [Table.get?_map, Option.map_eq_some_iff] at found
    obtain ⟨record, isHeld, rfl⟩ := found
    have asked := keys _ record (PodList.exists_of_perNode viewed isHeld)
    rw [Record.map_fst_toMembers]
    constructor
    · intro member
      exact absurd (asked member) (by decide)
    · intro member
      exact absurd (asked member) (by decide)

end PerNode

end Group

namespace Inventory

variable {inventory : Inventory}

/-- The section that the latest sample of a node makes. -/
def statisticsOf (sampled : SampledNode) : Section :=
  (Section.empty.insert sampled.sample.named).state

/-- The sections about hosts that list nodes by name. -/
structure ListsNodes (inventory : Inventory) (group : Group) : Prop where
  resources : Entity.IsTableOf (fun sampled => Record.toMembers <$> sampled.node.resources)
    inventory.nodes group.offers
  statistics : Entity.IsTableOf (fun sampled => .ok (statisticsOf sampled))
    inventory.nodes (group.sectionsOf "k8s_stats")

/-- The first join shows what the last node of each name offers. -/
theorem offer?_put_offers {nodes : List SampledNode} {group : Group}
    {resources : Table Name (Record Number)} (read : NodeList.resources nodes = .ok resources)
    (put : Group.empty.put "k8s_resources" (resources.map Record.toMembers) = .ok group)
    (host : Name) :
    (group.sectionAt host "k8s_resources").offer? =
      (Entity.last? nodes host).bind fun sampled =>
        (Record.toMembers <$> sampled.node.resources).toOption := by
  have distinct : (resources.map Record.toMembers).keys.Nodup := by
    rw [Table.keys_map]
    exact Entity.nodup_keys_tryByName read
  rw [Group.sectionAt_put put distinct, Table.get?_map, Entity.get?_tryByName read]
  cases last : Entity.last? nodes host with
  | none => rfl
  | some sampled =>
    have given := Entity.last?_eq_some last
    obtain ⟨record, shown⟩ :=
      Entity.exists_tryByName.1 ⟨resources, read⟩ sampled given.1 (given.2 ▸ rfl)
    obtain ⟨capacity, allocatable, rfl⟩ := Node.exists_offer shown
    rw [Option.bind_some, Option.bind_some, shown]
    rfl

/-- Statistics are joined once, into hosts that have none. -/
theorem get?_put_samples {nodes : List SampledNode} {before after : Group}
    (put : before.put "k8s_stats" (NodeList.samples nodes) = .ok after) {host : Name}
    (fresh : (before.elementAt host).sections.get? "k8s_stats" = none) :
    (after.elementAt host).sections.get? "k8s_stats" =
      (Entity.last? nodes host).map statisticsOf := by
  have distinct : (NodeList.samples nodes).keys.Nodup := Entity.nodup_keys_byName _ nodes
  have isEmpty : before.sectionAt host "k8s_stats" = .empty := by
    rw [Group.sectionAt, Element.sectionAt, fresh]
    rfl
  rw [Group.get?_elementAt_put put distinct, NodeList.samples, Entity.get?_byName, fresh, isEmpty]
  cases Entity.last? nodes host <;> rfl

/-- The groups on the way to the one of hosts: with what nodes offer, then with what their pods ask
for and how many these are, then with the samples. -/
structure BuildsHosts (inventory : Inventory) (resources : Table Name (Record Number))
    (offering placed measured group : Group) : Prop where
  read : NodeList.resources inventory.nodes = .ok resources
  offers : Group.empty.put "k8s_resources" (resources.map Record.toMembers) = .ok offering
  places : Group.IsGrown "k8s_resources" offering placed
  keepsOffers : ∀ host, (placed.sectionAt host "k8s_resources").offer? =
    (offering.sectionAt host "k8s_resources").offer?
  measures : placed.put "k8s_stats" (NodeList.samples inventory.nodes) = .ok measured
  finishes : Group.IsGrown "k8s_conditions" measured group

theorem exists_buildsHosts {group : Group} (made : inventory.nodeGroup = .ok group) :
    ∃ resources offering placed measured,
      inventory.BuildsHosts resources offering placed measured group := by
  unfold nodeGroup at made
  obtain ⟨resources, read, made⟩ := Outcome.bind_eq_ok.1 made
  obtain ⟨offering, offers, made⟩ := Outcome.bind_eq_ok.1 made
  obtain ⟨podResources, readPods, made⟩ := Outcome.bind_eq_ok.1 made
  obtain ⟨asked, putAsked, made⟩ := Outcome.bind_eq_ok.1 made
  obtain ⟨podCounts, countPods, made⟩ := Outcome.bind_eq_ok.1 made
  obtain ⟨placed, putCounts, made⟩ := Outcome.bind_eq_ok.1 made
  obtain ⟨measured, measures, made⟩ := Outcome.bind_eq_ok.1 made
  obtain ⟨conditions, readConditions, putConditions⟩ := Outcome.bind_eq_ok.1 made
  refine ⟨resources, offering, placed, measured, read, offers, ?_, ?_, measures, ?_⟩
  · have askedGrown := Group.isGrown_put_perNode readPods putAsked
    exact askedGrown.trans (Group.isGrown_put_perNode countPods putCounts)
  · intro host
    have counted : (placed.sectionAt host "k8s_resources").offer? =
        (asked.sectionAt host "k8s_resources").offer? := by
      apply Group.offer?_put_perNode countPods putCounts
      rintro pods record ⟨⟩
      exact List.subset_cons_self _ _
    rw [counted]
    exact Group.offer?_put_perNode readPods putAsked
      (fun _ _ => PodList.keys_totalResources_subset) host
  · apply Group.isGrown_put putConditions
    rw [Table.keys_map]
    exact NodeList.nodup_keys_conditions readConditions

namespace BuildsHosts

variable {resources : Table Name (Record Number)} {offering placed measured group : Group}
  (builds : inventory.BuildsHosts resources offering placed measured group)
include builds

theorem offering_grown : Group.IsGrown "k8s_resources" .empty offering := by
  apply Group.isGrown_put builds.offers
  rw [Table.keys_map]
  exact Entity.nodup_keys_tryByName builds.read

theorem measured_grown : Group.IsGrown "k8s_stats" placed measured :=
  Group.isGrown_put builds.measures (Entity.nodup_keys_byName _ inventory.nodes)

/-- Hosts are the names of the nodes, and after these the hosts that only pods mention. -/
theorem names_prefix_hosts : (Entity.names inventory.nodes).eraseDups <+: group.hosts := by
  have distinct : (resources.map Record.toMembers).keys.Nodup := by
    rw [Table.keys_map]
    exact Entity.nodup_keys_tryByName builds.read
  have offeringHosts : offering.hosts = (Entity.names inventory.nodes).eraseDups := by
    rw [Group.hosts_put builds.offers distinct, Table.keys_map, Entity.keys_tryByName builds.read]
    simp [Group.empty, Group.hosts]
  rw [← offeringHosts]
  exact builds.places.hosts.trans (builds.measured_grown.hosts.trans builds.finishes.hosts)

theorem nodup_hosts : group.hosts.Nodup := by
  apply builds.finishes.once
  apply builds.measured_grown.once
  apply builds.places.once
  exact builds.offering_grown.once List.nodup_nil

theorem isTableOf_offers :
    Entity.IsTableOf (fun sampled => Record.toMembers <$> sampled.node.resources)
      inventory.nodes group.offers := by
  apply Group.isTableOf_filterMap builds.names_prefix_hosts builds.nodup_hosts
  · intro node member isNamed
    have allShown := Entity.exists_tryByName.1 ⟨resources, builds.read⟩
    obtain ⟨record, shown⟩ := allShown node member isNamed
    exact ⟨record.toMembers, Outcome.map_eq_ok.2 ⟨record, shown, rfl⟩⟩
  · rfl
  · intro host
    have finished : group.sectionAt host "k8s_resources" =
        measured.sectionAt host "k8s_resources" := builds.finishes.sectionAt (by decide) host
    have sampled : measured.sectionAt host "k8s_resources" =
        placed.sectionAt host "k8s_resources" := builds.measured_grown.sectionAt (by decide) host
    calc (group.sectionAt host "k8s_resources").offer?
        = (placed.sectionAt host "k8s_resources").offer? := by rw [finished, sampled]
      _ = (offering.sectionAt host "k8s_resources").offer? := builds.keepsOffers host
      _ = _ := offer?_put_offers builds.read builds.offers host

theorem isTableOf_statistics :
    Entity.IsTableOf (fun sampled => .ok (statisticsOf sampled))
      inventory.nodes (group.sectionsOf "k8s_stats") := by
  apply Group.isTableOf_filterMap builds.names_prefix_hosts builds.nodup_hosts
  · exact fun node _ _ => ⟨statisticsOf node, rfl⟩
  · rfl
  · intro host
    have fresh : (placed.elementAt host).sections.get? "k8s_stats" = none := by
      rw [builds.places.sections host _ (by decide),
        builds.offering_grown.sections host _ (by decide)]
      rfl
    rw [builds.finishes.sections host _ (by decide), get?_put_samples builds.measures fresh,
      Option.map_eq_bind]
    rfl

end BuildsHosts

theorem listsNodes_of_nodeGroup {group : Group} (made : inventory.nodeGroup = .ok group) :
    inventory.ListsNodes group := by
  obtain ⟨resources, offering, placed, measured, builds⟩ := exists_buildsHosts made
  exact ⟨builds.isTableOf_offers, builds.isTableOf_statistics⟩

/-- A table by name is made exactly if every entity that has a name has a view, and fails with the
first one that has none. It lists each name once, where the name first comes, with the view of the
last entity of that name, and entities without a name make no difference to it. The sections that are
made of such tables list the entities of an inventory in the same way. -/
theorem tables_list_each_name_once {ε β : Type} [Entity ε] (view : ε → Except Failure β)
    (entities : List ε) (inventory : Inventory) :
    ((∃ table, Entity.tryByName view entities = .ok table) ↔
        ∀ entity ∈ entities, Entity.CanBeListed view entity) ∧
      (∀ failure, Entity.tryByName view entities = .error failure ↔
        Entity.FailsFirst view entities failure) ∧
      (∀ table, Entity.tryByName view entities = .ok table →
        Entity.IsTableOf view entities table) ∧
      (∀ other, (∀ entity ∈ entities, (Entity.name? entity).isSome → other entity = view entity) →
        Entity.tryByName other entities = Entity.tryByName view entities) ∧
      (∀ shown : ε → β, Entity.tryByName (fun entity => .ok (shown entity)) entities =
        .ok (Entity.byName shown entities)) ∧
      (∀ element, inventory.clusterElement = .ok element → inventory.ListsEntities element) ∧
      ∀ group, inventory.nodeGroup = .ok group → inventory.ListsNodes group := by
  refine ⟨Entity.exists_tryByName, ?_, ?_, ?_, ?_, ?_, ?_⟩
  · exact fun failure => Entity.tryByName_eq_error
  · exact fun table viewed => Entity.isTableOf_of_tryByName viewed
  · exact fun other same => Entity.tryByName_congr same
  · exact fun shown => Entity.tryByName_eq_byName fun _ _ => rfl
  · exact fun element made => listsEntities_of_clusterElement made
  · exact fun group made => listsNodes_of_nodeGroup made

/-- The phase of a namespace, which has to be declared. -/
def declaredPhase (entity : Namespace) : Except Failure Value :=
  match entity.phase with
  | some phase => .ok phase
  | none => .error (.undeclared .members)

def namespaceNamed (name : String) (phase : Field) : Namespace := ⟨⟨.text name, none, none⟩, phase⟩

/-- Namespaces with a repeated name, a name that spells a number, and an empty name. -/
def numberedNamespaces : List Namespace :=
  [namespaceNamed "zeta" (some (.text "Active")), namespaceNamed "2024" (some (.text "Active")),
    namespaceNamed "" none, namespaceNamed "zeta" (some (.text "Terminating"))]

/-- An inventory with these namespaces, with nodes of repeated names, and with a pod on a node that is
not listed. -/
def numberedInventory : Inventory where
  storageClasses := []
  namespaces := numberedNamespaces
  roles := []
  clusterRoles := []
  componentStatuses := []
  nodes := NodeList.reportingNodes
  persistentVolumes := []
  persistentVolumeClaims := []
  pods := [⟨default, .text "elsewhere", .ok []⟩]
  podMetrics := []

theorem tables_list_each_name_once_of_numberedInventory :
    (∃ table, Entity.tryByName declaredPhase numberedNamespaces = .ok table ∧
        table.keys = [.text "zeta", .text "2024"] ∧
        table.get? "zeta" = some (.text "Terminating")) ∧
      Entity.tryByName declaredPhase
          (numberedNamespaces ++ [namespaceNamed "7" none, namespaceNamed "7" (some .null)]) =
        .error (.undeclared .members) ∧
      (∃ element, numberedInventory.clusterElement = .ok element ∧
        (element.sectionAt "k8s_namespaces").content.keys = [.text "zeta", .text "2024"]) ∧
      ∃ group, numberedInventory.nodeGroup = .ok group ∧
        Name.text "elsewhere" ∈ group.hosts ∧
        group.offers.keys = [.text "worker-1", .text "worker-2"] ∧
        (group.sectionsOf "k8s_stats").keys = [.text "worker-1", .text "worker-2"] := by
  obtain ⟨isMade, -, tables, -, -, elements, groups⟩ :=
    tables_list_each_name_once declaredPhase numberedNamespaces numberedInventory
  obtain ⟨-, fails, -⟩ := tables_list_each_name_once declaredPhase
    (numberedNamespaces ++ [namespaceNamed "7" none, namespaceNamed "7" (some .null)])
    numberedInventory
  have viewed : ∀ entity ∈ numberedNamespaces, Entity.CanBeListed declaredPhase entity := by
    simp only [numberedNamespaces, List.forall_mem_cons]
    refine ⟨fun _ => ⟨_, rfl⟩, fun _ => ⟨_, rfl⟩, ?_, fun _ => ⟨_, rfl⟩, List.forall_mem_nil _⟩
    intro isNamed
    exact absurd isNamed (by decide)
  obtain ⟨table, made⟩ := isMade.2 viewed
  have isTable := tables table made
  obtain ⟨element, elementMade⟩ : ∃ element, numberedInventory.clusterElement = .ok element :=
    Outcome.exists_ok_of_isOk (by decide +kernel)
  obtain ⟨group, groupMade⟩ : ∃ group, numberedInventory.nodeGroup = .ok group :=
    Outcome.exists_ok_of_isOk (by decide +kernel)
  have listed := groups group groupMade
  refine ⟨⟨table, made, ?_, ?_⟩, ?_, ⟨element, elementMade, ?_⟩, group, groupMade, ?_, ?_, ?_⟩
  · rw [isTable.keys]
    decide
  · obtain ⟨shown, isShown, found⟩ := isTable.shows "zeta" _ rfl
    cases isShown
    exact found
  · apply (fails _).2
    exact ⟨numberedNamespaces, namespaceNamed "7" none, _, rfl, viewed, by decide, rfl⟩
  · rw [(elements element elementMade).namespaces.keys]
    decide
  · have mentioned : (numberedInventory.nodeGroup.toOption.all fun group =>
        Name.text "elsewhere" ∈ group.hosts) := by decide +kernel
    rw [groupMade] at mentioned
    simpa [Except.toOption] using mentioned
  · rw [listed.resources.keys]
    decide
  · rw [listed.statistics.keys]
    decide

end Inventory

end ClusterAgent
