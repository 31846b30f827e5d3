import ClusterAgent.Proofs.Collection.Runs
import ClusterAgent.Proofs.Collection.Typed
import ClusterAgent.Proofs.Members

/-!
Contract: the entities of a cycle over a well-typed source.

They are there exactly if all lists arrive and every named node has statistics
that can be read. Each named node goes with the reply that was requested under
its own name, whatever nodes without a name stand between.

Owns: the entities of a cycle, typed entities, nodes paired with their replies.
Does not own: the metrics of a cycle.
-/

namespace ClusterAgent

/-- A typed node under a name that is a text, each member of its sample once. -/
structure SampledNode.IsTyped (sampled : SampledNode) : Prop where
  node : sampled.node.IsTyped
  named : ∃ name, Entity.name? sampled = some (.text name)
  sample : (sampled.sample.map Prod.fst).Nodup

/-- Entities no part of which is of a type that is never declared. -/
structure Entities.IsTyped (entities : Entities) : Prop where
  storageClasses : ∀ entity ∈ entities.storageClasses, HasRequired.isComplete entity
  componentStatuses : ∀ entity ∈ entities.componentStatuses, HasRequired.isComplete entity
  nodes : ∀ sampled ∈ entities.nodes, sampled.IsTyped
  persistentVolumes : ∀ volume ∈ entities.persistentVolumes, volume.IsTyped
  persistentVolumeClaims : ∀ entity ∈ entities.persistentVolumeClaims, HasRequired.isComplete entity
  pods : ∀ pod ∈ entities.pods, pod.IsTyped

theorem NodeStats.nodup_latest [Platform] {reply : Field} {node : String} {sample : Members}
    (latestOk : latest reply node = .ok sample) : (sample.map Prod.fst).Nodup := by
  obtain ⟨checked, _, rest⟩ := Outcome.bind_eq_ok.1 latestOk
  obtain ⟨seconds, _, isSnapshot⟩ := Outcome.bind_eq_ok.1 rest
  cases isSnapshot
  exact (Members.isCanonical_overlay checked.others (Members.isCanonical_singleton _ _)).nodup

namespace Inventory

variable {source : Source}

/-- The items that declare a name, with their names. -/
def namedItems (items : List Value) : List (String × Value) :=
  items.filterMap fun item => (declaredName? item).map (·, item)

/-- Everything that a cycle does before it asks for metrics. -/
def fetchEntities [Platform] (source : Source) : Except Failure Entities := do
  let lists ← (fetchLists source).outcome
  let items ← lists.items .nodes
  let nodes ← (namedNodes items).mapError .undeclared
  let replies ← (fetchStats source nodes).outcome
  readEntities lists replies

/-- The lists that arrive from a source. -/
def listsOf (source : Source) : Lists :=
  Listing.all.map fun listing => (listing, .list (source.itemsOf listing))

/-! ## Lists -/

theorem formed_itemsOf (wellTyped : source.IsWellTyped) (listing : Listing) :
    ∀ item ∈ source.itemsOf listing, listing.form item := by
  unfold Source.itemsOf
  split
  · rename_i items arrived
    obtain ⟨others, sameList, formed⟩ := wellTyped listing _ arrived
    cases sameList
    exact formed
  · simp

theorem exists_fetchLists_ok :
    (∃ lists, (fetchLists source).outcome = .ok lists) ↔
      ∀ listing, ∃ reply, (source.list listing).outcome = .ok reply := by
  have allListed : ∀ listing, listing ∈ Listing.all := by
    intro listing
    cases listing <;> decide
  rw [fetchLists, Call.exists_outcome_all_ok, List.forall_mem_map]
  simp only [Call.map, Outcome.map_eq_ok]
  constructor
  · intro listed listing
    obtain ⟨_, reply, arrived, _⟩ := listed listing (allListed listing)
    exact ⟨reply, arrived⟩
  · intro listed listing _
    obtain ⟨reply, arrived⟩ := listed listing
    exact ⟨_, reply, arrived, rfl⟩

theorem outcome_fetchLists (wellTyped : source.IsWellTyped)
    (listed : ∀ listing, ∃ reply, (source.list listing).outcome = .ok reply) :
    (fetchLists source).outcome = .ok (listsOf source) := by
  rw [fetchLists, Call.outcome_all_eq_ok, listsOf, List.forall₂_map_left_iff,
    List.forall₂_map_right_iff, List.forall₂_same]
  intro listing _
  obtain ⟨reply, arrived⟩ := listed listing
  obtain ⟨items, rfl, _⟩ := wellTyped listing reply arrived
  simp [Call.map, Source.itemsOf, arrived]

theorem items_listsOf (listing : Listing) :
    (listsOf source).items listing = .ok (source.itemsOf listing) := by
  cases listing <;> rfl

theorem exists_readList (wellTyped : source.IsWellTyped) {listing : Listing} {ε : Type}
    [Readable ε] [Entity ε] {IsTyped : ε → Prop} (readsInto : listing.ReadsInto IsTyped) :
    ∃ entities : List ε, readList (listsOf source) listing = .ok entities ∧
      Entity.names entities = ((source.itemsOf listing).filterMap declaredName?).map .text ∧
      ∀ entity ∈ entities, IsTyped entity := by
  obtain ⟨entities, readOk, described⟩ :=
    exists_readItems readsInto (formed_itemsOf wellTyped listing)
  refine ⟨entities, ?_, described⟩
  rw [readList, items_listsOf, Outcome.ok_bind, readOk]
  rfl

/-! ## Nodes and their replies -/

theorem nodeName?_of_form {item : Value} (formed : Listing.nodes.form item) (position : Nat) :
    nodeName? position item = .ok ((declaredName? item).map .text) := by
  obtain ⟨members, rfl, bothFormed⟩ := Form.of_object formed
  rw [Bool.and_eq_true] at bothFormed
  have parts := Form.of_inside (by rfl) bothFormed.1
  rw [Bool.and_eq_true, Bool.and_eq_true] at parts
  exact congrArg Except.ok (Name.given?_ofField parts.1.1 (.item position))

theorem namedNodes_eq {items : List Value} (formed : ∀ item ∈ items, Listing.nodes.form item) :
    namedNodes items = .ok ((namedItems items).map fun pair => (.text pair.1, pair.2)) := by
  have traversed : items.zipIdx.mapM (fun pair : Value × Nat =>
      (·, pair.1) <$> nodeName? pair.2 pair.1) =
      .ok (items.zipIdx.map fun pair => ((declaredName? pair.1).map Name.text, pair.1)) := by
    apply Outcome.mapM_eq_map
    rintro ⟨item, position⟩ member
    rw [nodeName?_of_form (formed item (List.fst_mem_of_mem_zipIdx member))]
    rfl
  have withoutPositions : (items.zipIdx.map fun pair =>
      ((declaredName? pair.1).map Name.text, pair.1)) =
        items.map fun item => ((declaredName? item).map Name.text, item) := by
    rw [← List.zipIdx_map_fst 0 items, List.map_map, List.zipIdx_map_fst]
    rfl
  change (items.zipIdx.mapM (fun pair : Value × Nat =>
    (·, pair.1) <$> nodeName? pair.2 pair.1) >>= _) = _
  rw [traversed, withoutPositions, Outcome.ok_bind, Outcome.pure_eq_ok, namedItems,
    List.filterMap_map, List.map_filterMap]
  congr 2
  funext item
  rw [Function.comp_apply]
  cases declaredName? item <;> rfl

def readNodes [Platform] (replies : List (Value × Value)) : Except Failure (List SampledNode) :=
  replies.zipIdx.mapM fun ((item, reply), position) => SampledNode.read position item (some reply)

/-- The statistics of a node under its name have a latest sample. -/
def HasSample [Platform] (source : Source) (name : String) : Prop :=
  ∃ reply sample, (source.nodeStats (.text name)).outcome = .ok reply ∧
    NodeStats.latest (some reply) name = .ok sample

/-- A node as it is collected: read from an item, under the name that the item declares, with the
latest sample of the reply that was requested under this name. -/
structure IsSampledFrom [Platform] (source : Source) (name : String) (item : Value)
    (sampled : SampledNode) : Prop where
  named : Entity.name? sampled = some (.text name)
  read : ∃ position, readItem position item = .ok sampled.node
  sample : ∃ reply, (source.nodeStats (.text name)).outcome = .ok reply ∧
    NodeStats.latest (some reply) name = .ok sampled.sample

/-- Reading a node with a reply is reading both, the reply under the name of the node. -/
theorem read_eq [Platform] {item : Value} {name : String} (formed : Listing.nodes.form item)
    (declared : declaredName? item = some name) (position : Nat) :
    ∃ node : Node, readItem position item = .ok node ∧
      (∀ sample, Entity.name? (SampledNode.mk node sample) = some (.text name)) ∧
      node.IsTyped ∧ ∀ reply, SampledNode.read position item (some reply) =
        (⟨node, ·⟩) <$> (NodeStats.latest (some reply) name).mapError .aggregation := by
  obtain ⟨node, readOk, named, typed⟩ := Listing.nodes_readsInto position item formed
  rw [declared] at named
  refine ⟨node, readOk, fun _ => named, typed, ?_⟩
  intro reply
  have nameField : node.metadata.name.field = some (.text name) := by
    have given : node.metadata.name.given? = some (.text name) := named
    unfold Name.given? at given
    split at given
    · rw [Option.some.inj given]
      rfl
    · cases given
  rw [SampledNode.read, readOk, Outcome.mapError_ok, Outcome.ok_bind, SampledNode.ofReply,
    nameField]
  rfl

theorem mem_namedItems {items : List Value} {name : String} {item : Value} :
    (name, item) ∈ namedItems items ↔ item ∈ items ∧ declaredName? item = some name := by
  rw [namedItems, List.mem_filterMap]
  constructor
  · rintro ⟨other, member, isPair⟩
    obtain ⟨declared, found, same⟩ := Option.map_eq_some_iff.1 isPair
    cases same
    exact ⟨member, found⟩
  · rintro ⟨member, found⟩
    exact ⟨item, member, by rw [found]; rfl⟩

theorem outcome_fetchStats_eq_ok {pairs : List (String × Value)} {replies : List (Value × Value)} :
    (fetchStats source (pairs.map fun pair => (.text pair.1, pair.2))).outcome = .ok replies ↔
      List.Forall₂ (fun pair answered => answered.1 = pair.2 ∧
        (source.nodeStats (.text pair.1)).outcome = .ok answered.2) pairs replies := by
  have answeredIff (pair : String × Value) (answered : Value × Value) :
      ((source.nodeStats (.text pair.1)).map (pair.2, ·)).outcome = .ok answered ↔
        answered.1 = pair.2 ∧ (source.nodeStats (.text pair.1)).outcome = .ok answered.2 := by
    rw [Call.map, Outcome.map_eq_ok]
    constructor
    · rintro ⟨reply, arrived, rfl⟩
      exact ⟨rfl, arrived⟩
    · rintro ⟨sameItem, arrived⟩
      exact ⟨answered.2, arrived, by rw [← sameItem]⟩
  rw [fetchStats, Call.outcome_all_eq_ok, List.forall₂_map_left_iff, List.forall₂_map_left_iff]
  simp only [answeredIff]

/-- Pairs of a name and the item that declares it. -/
def AreNamed (pairs : List (String × Value)) : Prop :=
  ∀ pair ∈ pairs, Listing.nodes.form pair.2 ∧ declaredName? pair.2 = some pair.1

/-- Every node is paired with the reply that was requested under its own name. -/
theorem forall₂_isSampledFrom [Platform] {pairs : List (String × Value)} (named : AreNamed pairs)
    {nodes : List SampledNode}
    (collected : ((fetchStats source (pairs.map fun pair => (.text pair.1, pair.2))).outcome >>=
      readNodes) = .ok nodes) :
    List.Forall₂ (fun pair sampled => IsSampledFrom source pair.1 pair.2 sampled ∧
      sampled.IsTyped) pairs nodes := by
  obtain ⟨replies, arrived, readOk⟩ := Outcome.bind_eq_ok.1 collected
  have related := Outcome.forall₂_comp (outcome_fetchStats_eq_ok.1 arrived)
    (Outcome.forall₂_of_mapM_zipIdx readOk)
  refine (List.forall₂_and_left _ _ |>.2 ⟨named, related⟩).imp ?_
  rintro ⟨name, item⟩ sampled
    ⟨⟨formed, declared⟩, ⟨other, reply⟩, ⟨rfl, replied⟩, position, readPair⟩
  obtain ⟨node, nodeOk, nodeNamed, typed, readEq⟩ := read_eq formed declared position
  dsimp only at readPair
  rw [readEq, Outcome.map_eq_ok] at readPair
  obtain ⟨sample, sampleOk, rfl⟩ := readPair
  have latestOk := Outcome.mapError_eq_ok.1 sampleOk
  exact ⟨⟨nodeNamed sample, ⟨position, nodeOk⟩, reply, replied, latestOk⟩,
    ⟨typed, ⟨name, nodeNamed sample⟩, NodeStats.nodup_latest latestOk⟩⟩

theorem exists_readNodes_ok [Platform] {pairs : List (String × Value)} (named : AreNamed pairs) :
    (∃ nodes, ((fetchStats source (pairs.map fun pair => (.text pair.1, pair.2))).outcome >>=
        readNodes) = .ok nodes) ↔ ∀ pair ∈ pairs, HasSample source pair.1 := by
  constructor
  · rintro ⟨nodes, collected⟩ pair member
    obtain ⟨sampled, _, isSampled, _⟩ :=
      Outcome.exists_of_mem_left (forall₂_isSampledFrom named collected) pair member
    obtain ⟨reply, replied, latestOk⟩ := isSampled.sample
    exact ⟨reply, sampled.sample, replied, latestOk⟩
  · intro hasSample
    obtain ⟨replies, arrived⟩ : ∃ replies,
        (fetchStats source (pairs.map fun pair => (.text pair.1, pair.2))).outcome =
          .ok replies := by
      rw [fetchStats, Call.exists_outcome_all_ok, List.map_map, List.forall_mem_map]
      intro pair member
      obtain ⟨reply, _, replied, _⟩ := hasSample pair member
      exact ⟨(pair.2, reply), Outcome.map_eq_ok.2 ⟨reply, replied, rfl⟩⟩
    have related := outcome_fetchStats_eq_ok.1 arrived
    obtain ⟨nodes, readOk⟩ : ∃ nodes, readNodes replies = .ok nodes := by
      apply Outcome.exists_mapM_ok.2
      rintro ⟨answered, position⟩ isReply
      obtain ⟨pair, member, sameItem, replied⟩ :=
        Outcome.exists_of_mem_right related answered (List.fst_mem_of_mem_zipIdx isReply)
      obtain ⟨reply, sample, sameReply, latestOk⟩ := hasSample pair member
      obtain ⟨node, _, _, _, readEq⟩ := read_eq (named pair member).1 (named pair member).2 position
      rw [replied] at sameReply
      cases sameReply
      dsimp only
      rw [sameItem, readEq, latestOk]
      exact ⟨_, rfl⟩
    refine ⟨nodes, ?_⟩
    rw [arrived, Outcome.ok_bind]
    exact readOk

/-! ## All entities -/

theorem areNamed_namedItems (wellTyped : source.IsWellTyped) :
    AreNamed (namedItems (source.itemsOf .nodes)) := by
  rintro ⟨name, item⟩ member
  obtain ⟨inItems, declared⟩ := mem_namedItems.1 member
  exact ⟨formed_itemsOf wellTyped .nodes item inItems, declared⟩

/-- Apart from nodes, entities are there as soon as the lists are. -/
theorem exists_readEntities [Platform] (wellTyped : source.IsWellTyped) :
    ∃ others : Entities, others.IsTyped ∧
      Entity.names others.namespaces =
        ((source.itemsOf .namespaces).filterMap declaredName?).map .text ∧
      ∀ replies, readEntities (listsOf source) replies =
        readNodes replies >>= fun nodes => .ok { others with nodes } := by
  obtain ⟨storageClasses, storageClassesOk, _, storageClassesTyped⟩ :=
    exists_readList wellTyped Listing.storageClasses_readsInto
  obtain ⟨namespaces, namespacesOk, namespacesNamed, _⟩ :=
    exists_readList wellTyped Listing.namespaces_readsInto
  obtain ⟨roles, rolesOk, _⟩ := exists_readList wellTyped Listing.roles_readsInto
  obtain ⟨clusterRoles, clusterRolesOk, _⟩ :=
    exists_readList wellTyped Listing.clusterRoles_readsInto
  obtain ⟨componentStatuses, componentStatusesOk, _, componentStatusesTyped⟩ :=
    exists_readList wellTyped Listing.componentStatuses_readsInto
  obtain ⟨volumes, volumesOk, _, volumesTyped⟩ :=
    exists_readList wellTyped Listing.persistentVolumes_readsInto
  obtain ⟨claims, claimsOk, _, claimsTyped⟩ :=
    exists_readList wellTyped Listing.persistentVolumeClaims_readsInto
  obtain ⟨pods, podsOk, _, podsTyped⟩ := exists_readList wellTyped Listing.pods_readsInto
  refine ⟨⟨storageClasses, namespaces, roles, clusterRoles, componentStatuses, [], volumes, claims,
    pods⟩, ⟨storageClassesTyped, componentStatusesTyped, by simp, volumesTyped, claimsTyped,
    podsTyped⟩, namespacesNamed, ?_⟩
  intro replies
  simp only [readEntities, storageClassesOk, namespacesOk, rolesOk, clusterRolesOk,
    componentStatusesOk, volumesOk, claimsOk, podsOk, Outcome.ok_bind]
  rfl

theorem exists_fetchEntities [Platform] (wellTyped : source.IsWellTyped)
    (listed : ∀ listing, ∃ reply, (source.list listing).outcome = .ok reply) :
    ∃ others : Entities, others.IsTyped ∧
      Entity.names others.namespaces =
        ((source.itemsOf .namespaces).filterMap declaredName?).map .text ∧
      fetchEntities source =
        ((fetchStats source ((namedItems (source.itemsOf .nodes)).map fun pair =>
            (.text pair.1, pair.2))).outcome >>= readNodes) >>=
          fun nodes => .ok { others with nodes } := by
  obtain ⟨others, typed, namespacesNamed, readEq⟩ := exists_readEntities wellTyped
  refine ⟨others, typed, namespacesNamed, ?_⟩
  rw [fetchEntities, outcome_fetchLists wellTyped listed, Outcome.ok_bind, items_listsOf,
    Outcome.ok_bind, namedNodes_eq (formed_itemsOf wellTyped .nodes), Outcome.mapError_ok,
    Outcome.ok_bind, bind_assoc]
  congr 1
  funext replies
  exact readEq replies

theorem listed_of_fetchEntities [Platform] {entities : Entities}
    (fetched : fetchEntities source = .ok entities) :
    ∀ listing, ∃ reply, (source.list listing).outcome = .ok reply := by
  obtain ⟨lists, listsOk, _⟩ := Outcome.bind_eq_ok.1 fetched
  exact exists_fetchLists_ok.1 ⟨lists, listsOk⟩

theorem declaredNames_eq (items : List Value) :
    items.filterMap declaredName? = (namedItems items).map Prod.fst := by
  rw [namedItems, List.map_filterMap]
  congr 1
  funext item
  cases declaredName? item <;> rfl

/-- A cycle gets to its metrics exactly if all lists arrive and all named nodes have a sample. -/
theorem exists_fetchEntities_ok [Platform] (wellTyped : source.IsWellTyped) :
    (∃ entities, fetchEntities source = .ok entities) ↔
      (∀ listing, ∃ reply, (source.list listing).outcome = .ok reply) ∧
        ∀ name ∈ (source.itemsOf .nodes).filterMap declaredName?, HasSample source name := by
  rw [declaredNames_eq, List.forall_mem_map,
    ← exists_readNodes_ok (areNamed_namedItems wellTyped)]
  constructor
  · rintro ⟨entities, fetched⟩
    have listed := listed_of_fetchEntities fetched
    obtain ⟨others, _, _, fetchEq⟩ := exists_fetchEntities wellTyped listed
    rw [fetchEq] at fetched
    obtain ⟨nodes, collected, _⟩ := Outcome.bind_eq_ok.1 fetched
    exact ⟨listed, nodes, collected⟩
  · rintro ⟨listed, nodes, collected⟩
    obtain ⟨others, _, _, fetchEq⟩ := exists_fetchEntities wellTyped listed
    rw [fetchEq, collected]
    exact ⟨_, rfl⟩

theorem of_fetchEntities [Platform] (wellTyped : source.IsWellTyped) {entities : Entities}
    (fetched : fetchEntities source = .ok entities) :
    entities.IsTyped ∧
      Entity.names entities.namespaces =
        ((source.itemsOf .namespaces).filterMap declaredName?).map .text ∧
      List.Forall₂ (fun pair sampled => IsSampledFrom source pair.1 pair.2 sampled)
        (namedItems (source.itemsOf .nodes)) entities.nodes := by
  obtain ⟨others, typed, namespacesNamed, fetchEq⟩ :=
    exists_fetchEntities wellTyped (listed_of_fetchEntities fetched)
  rw [fetchEq] at fetched
  obtain ⟨nodes, collected, isUpdated⟩ := Outcome.bind_eq_ok.1 fetched
  cases isUpdated
  have paired := forall₂_isSampledFrom (areNamed_namedItems wellTyped) collected
  refine ⟨{ typed with nodes := ?_ }, namespacesNamed, paired.imp fun _ _ both => both.1⟩
  intro sampled member
  obtain ⟨_, _, _, sampledTyped⟩ := Outcome.exists_of_mem_right paired sampled member
  exact sampledTyped

end Inventory

end ClusterAgent
