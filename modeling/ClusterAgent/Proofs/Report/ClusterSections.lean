import ClusterAgent.Proofs.Report.Joins

/-!
Contract: the sections about the cluster as a whole.

They are there exactly if there is a named node and every quantity that they
read is well formed. No data that goes into them meets a key that it cannot
share: sections are new when they are made, and the number of pods goes into
requests that are there.

Owns: which sections there are, what they hold, how making them fails.
Does not own: writing them.
-/

namespace ClusterAgent.Inventory

/-! ## Sections of entities, and of sums -/

/-- The sections that are made before any volume is read. -/
def leadingSections (inventory : Inventory) : List (String × List (Name × Value)) :=
  [("k8s_nodes", (NodeList.nameMembers inventory.nodes).named),
    ("k8s_namespaces", (Entity.byName Namespace.view inventory.namespaces).entries)]

/-- The sections that are made once volumes are read, up to the first of the two lists of roles. -/
def followingSections (inventory : Inventory) (volumes : Table Name Value) :
    List (String × List (Name × Value)) :=
  [("k8s_persistent_volumes", volumes.entries),
    ("k8s_component_statuses",
      (Entity.byName ComponentStatus.view inventory.componentStatuses).entries),
    ("k8s_persistent_volume_claims",
      (Entity.byName PersistentVolumeClaim.view inventory.persistentVolumeClaims).entries),
    ("k8s_storage_classes", (Entity.byName StorageClass.view inventory.storageClasses).entries),
    ("k8s_roles", [(.text "roles", Role.list inventory.roles)])]

/-- The sections of entities. -/
def entityContents (inventory : Inventory) (volumes : Table Name Value) :
    List (Name × List (Name × Value)) :=
  [("k8s_nodes", (NodeList.nameMembers inventory.nodes).named),
    ("k8s_namespaces", (Entity.byName Namespace.view inventory.namespaces).entries),
    ("k8s_persistent_volumes", volumes.entries),
    ("k8s_component_statuses",
      (Entity.byName ComponentStatus.view inventory.componentStatuses).entries),
    ("k8s_persistent_volume_claims",
      (Entity.byName PersistentVolumeClaim.view inventory.persistentVolumeClaims).entries),
    ("k8s_storage_classes", (Entity.byName StorageClass.view inventory.storageClasses).entries),
    ("k8s_roles", [(.text "roles", Role.list inventory.roles),
      (.text "cluster_roles", Role.list inventory.clusterRoles)])]

/-- Puts the sections of sums behind others. -/
def putSums (inventory : Inventory) (element : Element) : Except Failure Element := do
  let offered ← NodeList.clusterResources inventory.nodes
  let element ← element.put "k8s_resources" offered.toMembers.named
  let asked ← PodList.totalResources inventory.pods
  let element ← element.put "k8s_resources" asked.toMembers.named
  let element ← element.put "k8s_resources" (PodList.podsInCluster inventory.pods).toMembers.named
  let stats ← NodeList.clusterStats inventory.nodes
  element.put "k8s_stats" stats.toMembers.named

theorem leadingSections_put (inventory : Inventory) :
    (Element.ofContents []).putAll inventory.leadingSections =
      .ok (.ofContents (inventory.leadingSections.map fun pair => (.text pair.1, pair.2))) := by
  apply Element.putAll_of_absent
  · show [Name.text "k8s_nodes", .text "k8s_namespaces"].Nodup
    decide
  · simp only [leadingSections, List.forall_mem_cons]
    exact ⟨List.nodup_singleton _, Entity.nodup_keys_byName _ _, by simp⟩

theorem followingSections_put (inventory : Inventory) {volumes : Table Name Value}
    (distinct : volumes.keys.Nodup) :
    (Element.ofContents (inventory.leadingSections.map fun pair => (.text pair.1, pair.2))).putAll
        (inventory.followingSections volumes) =
      .ok (.ofContents ((inventory.entityContents volumes).dropLast ++
        [(.text "k8s_roles", [(.text "roles", Role.list inventory.roles)])])) := by
  apply Element.putAll_of_absent
  · show [Name.text "k8s_nodes", .text "k8s_namespaces", .text "k8s_persistent_volumes",
      .text "k8s_component_statuses", .text "k8s_persistent_volume_claims",
      .text "k8s_storage_classes", .text "k8s_roles"].Nodup
    decide
  · simp only [followingSections, List.forall_mem_cons]
    exact ⟨distinct, Entity.nodup_keys_byName _ _, Entity.nodup_keys_byName _ _,
      Entity.nodup_keys_byName _ _, List.nodup_singleton _, by simp⟩

theorem clusterElement_eq (inventory : Inventory) :
    inventory.clusterElement =
      Entity.tryByName PersistentVolume.view inventory.persistentVolumes >>= fun volumes =>
        inventory.putSums (.ofContents (inventory.entityContents volumes)) := by
  have stages : inventory.clusterElement =
      (Element.ofContents []).putAll inventory.leadingSections >>= fun element =>
        Entity.tryByName PersistentVolume.view inventory.persistentVolumes >>= fun volumes =>
          element.putAll (inventory.followingSections volumes) >>= fun element =>
            element.put "k8s_roles" [(.text "cluster_roles", Role.list inventory.clusterRoles)] >>=
              inventory.putSums := by
    simp only [Element.putAll, leadingSections, followingSections, List.foldlM_cons,
      List.foldlM_nil, bind_assoc, pure_bind]
    rfl
  rw [stages, leadingSections_put, Outcome.ok_bind]
  apply Outcome.bind_congr
  intro volumes viewed
  have putRoles : (Element.ofContents ((inventory.entityContents volumes).dropLast ++
        [(.text "k8s_roles", [(.text "roles", Role.list inventory.roles)])])).put "k8s_roles"
          [(.text "cluster_roles", Role.list inventory.clusterRoles)] =
      .ok (.ofContents (inventory.entityContents volumes)) :=
    Element.put_last (by simp [entityContents]) rfl
  rw [followingSections_put inventory (Entity.nodup_keys_tryByName viewed), Outcome.ok_bind,
    putRoles, Outcome.ok_bind]

/-- The sections of sums: what nodes offer, followed by what pods ask for, and statistics. -/
def sumContents (inventory : Inventory) (capacity allocatable : NodeAmounts)
    (stats : Record Number) : List (Name × List (Name × Value)) :=
  [(.text "k8s_resources", (NodeAmounts.offer capacity allocatable).toMembers.named ++
      PodList.requested inventory.pods),
    (.text "k8s_stats", stats.toMembers.named)]

section Sums

variable {inventory : Inventory} {contents : List (Name × List (Name × Value))}

/-- What nodes offer makes a section; what pods ask for, and how many they are, goes into it. -/
theorem put_offered (fresh : Name.text "k8s_resources" ∉ contents.map Prod.fst)
    (capacity allocatable : NodeAmounts) :
    (Element.ofContents contents).put "k8s_resources"
        (NodeAmounts.offer capacity allocatable).toMembers.named =
      .ok (.ofContents (contents ++ [(.text "k8s_resources",
        (NodeAmounts.offer capacity allocatable).toMembers.named)])) := by
  apply Element.put_of_absent fresh
  show [Name.text "capacity", .text "allocatable"].Nodup
  decide

theorem putSums_eq (typed : inventory.toEntities.IsTyped) (podsAccepted : inventory.PodsAccepted)
    (named : Entity.names inventory.nodes ≠ [])
    (freshResources : Name.text "k8s_resources" ∉ contents.map Prod.fst)
    (freshStats : Name.text "k8s_stats" ∉ contents.map Prod.fst)
    {capacity allocatable : NodeAmounts}
    (offered : NodeList.clusterResources inventory.nodes =
      .ok (NodeAmounts.offer capacity allocatable)) :
    ∃ stats, inventory.putSums (.ofContents contents) =
      .ok (.ofContents (contents ++ inventory.sumContents capacity allocatable stats)) := by
  obtain ⟨stats, summed, statsDistinct⟩ := NodeList.exists_clusterStats typed.nodes named
  let offers : List (Name × Value) := (NodeAmounts.offer capacity allocatable).toMembers.named
  have putAsked : (Element.ofContents (contents ++ [(.text "k8s_resources", offers)])).put
        "k8s_resources" (PodList.total inventory.pods).record.toMembers.named =
      .ok (.ofContents (contents ++
        [(.text "k8s_resources", offers ++ PodList.asked inventory.pods)])) :=
    Element.put_last freshResources rfl
  have putCount : (Element.ofContents (contents ++
        [(.text "k8s_resources", offers ++ PodList.asked inventory.pods)])).put
          "k8s_resources" (PodList.podsInCluster inventory.pods).toMembers.named =
      .ok (.ofContents (contents ++
        [(.text "k8s_resources", offers ++ PodList.requested inventory.pods)])) :=
    Element.put_last freshResources rfl
  have stillFresh : Name.text "k8s_stats" ∉ (contents ++
      [(Name.text "k8s_resources", offers ++ PodList.requested inventory.pods)]).map Prod.fst := by
    rw [List.map_append, List.mem_append, not_or]
    exact ⟨freshStats, by simp⟩
  have membersDistinct : (stats.toMembers.named.map Prod.fst).Nodup := by
    apply Members.nodup_named
    rw [Record.map_fst_toMembers]
    exact statsDistinct
  refine ⟨stats, ?_⟩
  rw [putSums, offered, Outcome.ok_bind, put_offered freshResources, Outcome.ok_bind,
    PodList.totalResources_eq typed.pods podsAccepted, Outcome.ok_bind, putAsked, Outcome.ok_bind,
    putCount, Outcome.ok_bind, summed, Outcome.ok_bind,
    Element.put_of_absent stillFresh membersDistinct, List.append_assoc]
  rfl

theorem reads_putSums (typed : inventory.toEntities.IsTyped)
    (named : Entity.names inventory.nodes ≠ [])
    (freshResources : Name.text "k8s_resources" ∉ contents.map Prod.fst)
    (freshStats : Name.text "k8s_stats" ∉ contents.map Prod.fst) :
    Reads (inventory.NodesAccepted ∧ inventory.PodsAccepted)
      (inventory.putSums (.ofContents contents)) := by
  apply (NodeList.reads_clusterResources typed.nodes named).bind
  intro record offered
  obtain ⟨capacity, allocatable, rfl⟩ := NodeList.exists_offer_of_clusterResources named offered
  constructor
  · intro podsAccepted
    obtain ⟨stats, put⟩ := putSums_eq typed podsAccepted named freshResources freshStats offered
    rw [putSums, offered, Outcome.ok_bind] at put
    exact ⟨_, put⟩
  · intro refused
    obtain ⟨quantity, failed⟩ := (PodList.reads_totalResources typed.pods).refuses refused
    rw [put_offered freshResources, Outcome.ok_bind, failed]
    exact ⟨quantity, rfl⟩

end Sums

/-! ## All sections -/

theorem reads_volumes {inventory : Inventory} (typed : inventory.toEntities.IsTyped) :
    Reads inventory.VolumesAccepted
      (Entity.tryByName PersistentVolume.view inventory.persistentVolumes) :=
  Entity.reads_tryByName fun volume member =>
    PersistentVolume.reads_view (typed.persistentVolumes volume member)

/-- With a named node, it takes well-formed quantities to make the sections, and nothing else. -/
theorem reads_clusterElement {inventory : Inventory} (typed : inventory.toEntities.IsTyped)
    (named : Entity.names inventory.nodes ≠ []) :
    Reads (inventory.VolumesAccepted ∧ inventory.NodesAccepted ∧ inventory.PodsAccepted)
      inventory.clusterElement := by
  rw [clusterElement_eq]
  apply (reads_volumes typed).bind
  intro volumes _
  exact reads_putSums typed named (by simp [entityContents]) (by simp [entityContents])

/-- Without a named node, volumes are read before it turns out that there is nothing to sum up. -/
theorem clusterElement_of_nameless {inventory : Inventory} (typed : inventory.toEntities.IsTyped)
    (nameless : Entity.names inventory.nodes = []) (accepted : inventory.VolumesAccepted) :
    inventory.clusterElement =
      .error (.aggregation (.emptyAggregation "node resources")) := by
  obtain ⟨volumes, viewed⟩ := (reads_volumes typed).succeeds accepted
  rw [clusterElement_eq, viewed, Outcome.ok_bind, putSums,
    NodeList.clusterResources_of_nameless nameless, Outcome.error_bind]

theorem clusterElement_of_malformed_volume {inventory : Inventory}
    (typed : inventory.toEntities.IsTyped) (refused : ¬ inventory.VolumesAccepted) :
    ∃ quantity,
      inventory.clusterElement = .error (.aggregation (.malformedQuantity quantity)) := by
  obtain ⟨quantity, failed⟩ := (reads_volumes typed).refuses refused
  exact ⟨quantity, by rw [clusterElement_eq, failed, Outcome.error_bind]⟩

end ClusterAgent.Inventory
