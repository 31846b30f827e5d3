import ClusterAgent.Collection.Inventory
import ClusterAgent.Proofs.Collection.Forms
import ClusterAgent.Proofs.Outcome

/-!
Contract: what is read from items of their forms.

Every such item can be read. The entity goes under the name that the item
declares, and no part of it is of a type that is never declared.

Owns: typed entities, reading items and lists of items of their forms.
Does not own: when items are fetched.
-/

namespace ClusterAgent

/-! ## Typed entities -/

/-- A name that is a text if it counts as given. -/
def Name.IsTyped (name : Name) : Prop :=
  ∀ given, name.given? = some given → ∃ text, text ≠ "" ∧ given = .text text

/-- A table without a quantity of another type than text. -/
def ResourceTable.IsTyped (table : ResourceTable) : Prop :=
  ∀ entry ∈ table.entries, entry.2 ≠ .other

/-- A clause that is missing or a table of quantities. -/
def ResourceClause.IsTyped : ResourceClause → Prop
  | .absent => True
  | .refused _ => False
  | .table quantities => quantities.IsTyped

structure Container.IsTyped (container : Container) : Prop where
  limits : container.limits.IsTyped
  requests : container.requests.IsTyped

/-- A pod whose containers are known, and whose node is told by text. -/
structure Pod.IsTyped (pod : Pod) : Prop where
  node : pod.nodeName.IsTyped
  containers : ∃ containers, pod.containers = .ok containers ∧
    ∀ container ∈ containers, container.IsTyped

/-- A condition with a kind and a status, the kind a text. -/
structure Condition.IsTyped (condition : Condition) : Prop where
  kind : ∃ text, condition.kind = some (.text text)
  status : condition.status.isSome

theorem Condition.IsTyped.isComplete {condition : Condition} (typed : condition.IsTyped) :
    condition.isComplete := by
  obtain ⟨text, isText⟩ := typed.kind
  simp [Condition.isComplete, isText, typed.status]

/-- A node whose conditions are known, and that offers quantities only. -/
structure Node.IsTyped (node : Node) : Prop where
  capacity : ∀ table, node.capacity = some table → table.IsTyped
  allocatable : ∀ table, node.allocatable = some table → table.IsTyped
  conditions : ∃ conditions, node.conditions = .ok conditions ∧
    ∀ condition ∈ conditions, condition.IsTyped

def PersistentVolume.IsTyped (volume : PersistentVolume) : Prop := volume.storage ≠ .other

/-! ## Parts of items -/

namespace Form

theorem of_object {inner : Members → Bool} {value : Value} (formed : object inner value) :
    ∃ members, value = .object members ∧ inner members := by
  cases value with
  | object members => exact ⟨members, rfl, formed⟩
  | null | bool _ | number _ | text _ | list _ => cases formed

theorem of_list {item : Value → Bool} {value : Value} (formed : list item value) :
    ∃ items, value = .list items ∧ ∀ one ∈ items, item one := by
  cases value with
  | list items => exact ⟨items, rfl, List.all_eq_true.1 formed⟩
  | null | bool _ | number _ | text _ | object _ => cases formed

theorem of_text {value : Value} (formed : text value) : ∃ found, value = .text found := by
  cases value with
  | text found => exact ⟨found, rfl⟩
  | null | bool _ | number _ | list _ | object _ => cases formed

theorem of_nullable {form : Value → Bool} {field : Field} (formed : nullable form field) :
    field = none ∨ field = some .null ∨ ∃ value, field = some value ∧ form value := by
  cases field with
  | none => exact .inl rfl
  | some value =>
    have either : value = .null ∨ form value := by simpa [nullable] using formed
    rcases either with isNull | inForm
    · exact .inr (.inl (congrArg some isNull))
    · exact .inr (.inr ⟨value, rfl, inForm⟩)

theorem of_required {form : Value → Bool} {field : Field} (formed : required form field) :
    ∃ value, field = some value ∧ form value := by
  cases field with
  | none => cases formed
  | some value => exact ⟨value, rfl, formed⟩

/-- The members inside a field that may be missing are in the form, which asks for nothing. -/
theorem of_inside {inner : Members → Bool} {members : Members} {key : String}
    (nothing : inner []) (formed : nullable (object inner) (members.lookup key)) :
    inner (members.inside key) := by
  unfold Members.inside
  rcases of_nullable formed with missing | isNull | ⟨value, found, inForm⟩
  · rw [missing]
    exact nothing
  · rw [isNull]
    exact nothing
  · obtain ⟨held, rfl, innerFormed⟩ := of_object inForm
    rw [found]
    exact innerFormed

end Form

open Form

theorem Members.inside_eq (members : Members) (key : String) :
    members.inside key = ((members.lookup key).bind Value.members?).getD [] := by
  unfold Members.inside
  cases members.lookup key with
  | none => rfl
  | some value => cases value <;> rfl

/-- A field that is a text, if it is there, is a name if it is not empty. -/
theorem Name.given?_ofField {field : Field} (formed : nullable Form.text field) (place : Place) :
    (Name.ofField place field).given? = (field.text?.filter (· ≠ "")).map .text := by
  rcases of_nullable formed with rfl | rfl | ⟨value, rfl, inForm⟩
  · rfl
  · rfl
  · obtain ⟨found, rfl⟩ := of_text inForm
    by_cases empty : found = ""
    · subst empty
      rfl
    · simp [ofField, ofValue, given?, isGiven, Name.field, Field.isGiven, Value.isGiven,
        Field.text?, Option.filter, empty]

theorem Name.isTyped_ofField {field : Field} (formed : nullable Form.text field) (place : Place) :
    (Name.ofField place field).IsTyped := by
  intro given isGiven
  rw [given?_ofField formed, Option.map_eq_some_iff] at isGiven
  obtain ⟨found, kept, rfl⟩ := isGiven
  exact ⟨found, by simpa using (Option.filter_eq_some_iff.1 kept).2, rfl⟩

theorem Creation.exists_read [Platform] {timestamp : Field} (formed : nullable plain timestamp) :
    ∃ creation, Creation.read? timestamp = .ok creation := by
  rcases of_nullable formed with rfl | rfl | ⟨value, rfl, isPlain⟩
  · exact ⟨none, rfl⟩
  · exact ⟨none, rfl⟩
  · unfold Creation.read?
    by_cases given : value.isGiven
    · rw [Option.filter_some_pos given]
      cases value with
      | list _ | object _ => cases isPlain
      | null | bool _ | number _ | text _ => exact ⟨_, rfl⟩
    · rw [Option.filter_some_neg (by simpa using given)]
      exact ⟨none, rfl⟩

theorem Metadata.exists_read [Platform] {members : Members} (position : Nat)
    (formed : nullable Metadata.form (members.lookup "metadata")) :
    ∃ metadata, Metadata.read position (members.lookup "metadata") = .ok metadata ∧
      metadata.name.given? = (declaredName? (.object members)).map .text := by
  have parts := of_inside (by rfl) formed
  rw [Bool.and_eq_true, Bool.and_eq_true] at parts
  obtain ⟨⟨nameFormed, _⟩, creationFormed⟩ := parts
  obtain ⟨creation, creationOk⟩ := Creation.exists_read creationFormed
  have namesEqual := Name.given?_ofField nameFormed (.item position)
  unfold Metadata.read
  simp only [← Members.inside_eq, creationOk, Outcome.ok_bind]
  exact ⟨_, rfl, namesEqual⟩

namespace Condition

theorem exists_read {value : Value} (formed : Condition.form value) :
    ∃ condition, read value = .ok condition ∧ condition.IsTyped := by
  obtain ⟨members, rfl, parts⟩ := of_object formed
  rw [Bool.and_eq_true] at parts
  obtain ⟨kindFormed, statusFormed⟩ := parts
  obtain ⟨kind, kindFound, kindText⟩ := of_required kindFormed
  obtain ⟨text, rfl⟩ := of_text kindText
  obtain ⟨status, statusFound, _⟩ := of_required statusFormed
  have statusKnown : (members.lookup "status").isSome := by
    rw [statusFound]
    rfl
  exact ⟨⟨members.lookup "type", members.lookup "status"⟩, rfl, ⟨text, kindFound⟩, statusKnown⟩

theorem exists_readList {value : Value} (misfit : Undeclared)
    (formed : Form.list Condition.form value) :
    ∃ conditions, readList misfit value = .ok conditions ∧
      ∀ condition ∈ conditions, condition.IsTyped := by
  obtain ⟨items, rfl, itemsFormed⟩ := of_list formed
  exact Outcome.exists_mapM_of_forall fun item member => exists_read (itemsFormed item member)

theorem exists_readDeclared {declared : Field} (misfit : Undeclared)
    (formed : listForm declared) :
    ∃ conditions?, readDeclared? misfit declared = .ok conditions? ∧
      ∀ condition ∈ conditions?.getD [], condition.IsTyped := by
  rcases of_nullable formed with rfl | rfl | ⟨value, rfl, inForm⟩
  · exact ⟨none, rfl, by simp⟩
  · exact ⟨none, rfl, by simp⟩
  · obtain ⟨conditions, conditionsOk, typed⟩ := exists_readList misfit inForm
    obtain ⟨items, rfl, _⟩ := of_list inForm
    refine ⟨some conditions, ?_, typed⟩
    rw [readDeclared?, conditionsOk]
    · rfl
    · simp

end Condition

theorem Node.exists_readConditions {declared : Field} (formed : Condition.listForm declared) :
    ∃ conditions, readConditions declared = .ok conditions ∧
      ∀ condition ∈ conditions, condition.IsTyped := by
  rcases of_nullable formed with rfl | rfl | ⟨value, rfl, inForm⟩
  · exact ⟨[], rfl, by simp⟩
  · exact ⟨[], rfl, by simp⟩
  · obtain ⟨conditions, conditionsOk, typed⟩ := Condition.exists_readList .nodeConditions inForm
    obtain ⟨items, rfl, _⟩ := of_list inForm
    exact ⟨conditions, conditionsOk, typed⟩

namespace ResourceTable

theorem isTyped_ofMembers {members : Members}
    (formed : ∀ member ∈ members, member.2 = .null ∨ Form.text member.2) :
    (ofMembers members).IsTyped := by
  intro entry isEntry
  obtain ⟨⟨name, declared⟩, member, rfl⟩ := List.mem_map.1 isEntry
  rcases formed _ member with isNull | isText
  · dsimp only at isNull
    rw [isNull]
    exact Declaration.noConfusion
  · obtain ⟨text, rfl⟩ := of_text isText
    exact Declaration.noConfusion

theorem isTyped_of_quantities {members : Members} (formed : quantities (.object members)) :
    (ofMembers members).IsTyped := by
  apply isTyped_ofMembers
  intro member isMember
  simpa using List.all_eq_true.1 formed member isMember

theorem isTyped_inside? {members : Members} {key : String}
    (formed : nullable quantities (members.lookup key)) :
    ∀ table, inside? members key = some table → table.IsTyped := by
  intro table found
  rcases of_nullable formed with missing | isNull | ⟨value, isValue, inForm⟩
  · rw [inside?, missing] at found
    cases found
  · rw [inside?, isNull] at found
    cases found
  · obtain ⟨held, rfl, _⟩ := of_object inForm
    rw [inside?, isValue] at found
    cases found
    exact isTyped_of_quantities inForm

end ResourceTable

theorem ResourceClause.isTyped_ofField {field : Field} (formed : ifPresent quantities field) :
    (ResourceClause.ofField field).IsTyped := by
  cases field with
  | none => trivial
  | some value =>
    obtain ⟨held, rfl, _⟩ := of_object formed
    exact ResourceTable.isTyped_of_quantities formed

namespace Container

theorem isTyped_ofValue {value : Value} (formed : Container.form value) :
    (ofValue value).IsTyped := by
  obtain ⟨members, rfl, resourcesFormed⟩ := of_object formed
  have parts := of_inside (by rfl) resourcesFormed
  rw [Bool.and_eq_true] at parts
  exact ⟨ResourceClause.isTyped_ofField parts.1, ResourceClause.isTyped_ofField parts.2⟩

theorem exists_readList {declared : Field} (formed : nullable (Form.list Container.form) declared) :
    ∃ containers, readList declared = .ok containers ∧
      ∀ container ∈ containers, container.IsTyped := by
  rcases of_nullable formed with rfl | rfl | ⟨value, rfl, inForm⟩
  · exact ⟨[], rfl, by simp⟩
  · exact ⟨[], rfl, by simp⟩
  · obtain ⟨items, rfl, itemsFormed⟩ := of_list inForm
    refine ⟨_, rfl, ?_⟩
    intro container member
    obtain ⟨item, inItems, rfl⟩ := List.mem_map.1 member
    exact isTyped_ofValue (itemsFormed item inItems)

end Container

/-! ## Items -/

namespace Listing

/-- Items of a list are read as entities of some kind, which go under the names that the items
declare. -/
def ReadsInto (listing : Listing) {ε : Type} [Readable ε] [Entity ε] (IsTyped : ε → Prop) :
    Prop :=
  ∀ position item, listing.form item → ∃ entity : ε, readItem position item = .ok entity ∧
    Entity.name? entity = (declaredName? item).map .text ∧ IsTyped entity

variable [Platform]

/-- Metadata is read alike for all kinds, so it is the other parts that matter. -/
theorem readsInto_of_parts {listing : Listing} {ε : Type} [Readable ε] [Entity ε]
    {IsTyped : ε → Prop}
    (parts : ∀ position members metadata, listing.partsForm members →
      Metadata.read position (members.lookup "metadata") = .ok metadata →
        ∃ entity : ε, Readable.read position members = .ok entity ∧
          Entity.metadata entity = metadata ∧ IsTyped entity) : listing.ReadsInto IsTyped := by
  intro position item formed
  obtain ⟨members, rfl, bothFormed⟩ := of_object formed
  rw [Bool.and_eq_true] at bothFormed
  obtain ⟨metadata, metadataOk, named⟩ := Metadata.exists_read position bothFormed.1
  obtain ⟨entity, readOk, sameMetadata, typed⟩ :=
    parts position members metadata bothFormed.2 metadataOk
  refine ⟨entity, readOk, ?_, typed⟩
  rw [Entity.name?, sameMetadata]
  exact named

theorem namespaces_readsInto : namespaces.ReadsInto fun _ : Namespace => True := by
  apply readsInto_of_parts
  intro position members metadata _ metadataOk
  simp only [Readable.read, metadataOk, Outcome.ok_bind]
  exact ⟨_, rfl, rfl, trivial⟩

theorem roles_readsInto : roles.ReadsInto fun _ : Role => True := by
  apply readsInto_of_parts
  intro position members metadata _ metadataOk
  simp only [Readable.read, metadataOk, Outcome.map_ok]
  exact ⟨_, rfl, rfl, trivial⟩

theorem clusterRoles_readsInto : clusterRoles.ReadsInto fun _ : Role => True :=
  roles_readsInto

theorem storageClasses_readsInto :
    storageClasses.ReadsInto fun entity : StorageClass => HasRequired.isComplete entity := by
  apply readsInto_of_parts
  intro position members metadata formed metadataOk
  obtain ⟨provisioner, found, _⟩ := of_required formed
  simp only [Readable.read, metadataOk, Outcome.ok_bind]
  refine ⟨_, rfl, rfl, ?_⟩
  simp only [HasRequired.isComplete, found]
  rfl

theorem componentStatuses_readsInto :
    componentStatuses.ReadsInto fun entity : ComponentStatus => HasRequired.isComplete entity := by
  apply readsInto_of_parts
  intro position members metadata formed metadataOk
  obtain ⟨conditions?, conditionsOk, typed⟩ :=
    Condition.exists_readDeclared .componentConditions formed
  simp only [Readable.read, metadataOk, conditionsOk, Outcome.ok_bind]
  refine ⟨_, rfl, rfl, ?_⟩
  exact List.all_eq_true.2 fun condition member => (typed condition member).isComplete

theorem persistentVolumeClaims_readsInto : persistentVolumeClaims.ReadsInto
    fun entity : PersistentVolumeClaim => HasRequired.isComplete entity := by
  apply readsInto_of_parts
  intro position members metadata formed metadataOk
  obtain ⟨conditions?, conditionsOk, typed⟩ :=
    Condition.exists_readDeclared .claimConditions (of_inside (by rfl) formed)
  simp only [Readable.read, metadataOk, conditionsOk, Outcome.ok_bind]
  refine ⟨_, rfl, rfl, ?_⟩
  exact List.all_eq_true.2 fun condition member => (typed condition member).isComplete

theorem persistentVolumes_readsInto :
    persistentVolumes.ReadsInto PersistentVolume.IsTyped := by
  apply readsInto_of_parts
  intro position members metadata formed metadataOk
  have storageFormed := of_inside (by rfl) (of_inside (by rfl) formed)
  simp only [Readable.read, metadataOk, Outcome.ok_bind]
  refine ⟨_, rfl, rfl, ?_⟩
  dsimp only [PersistentVolume.IsTyped, Declaration.ofCapacity]
  rcases of_nullable storageFormed with missing | isNull | ⟨value, found, isText⟩
  · rw [missing]
    exact Declaration.noConfusion
  · rw [isNull]
    exact Declaration.noConfusion
  · obtain ⟨text, rfl⟩ := of_text isText
    rw [found]
    by_cases given : (Value.text text).isGiven
    · rw [Option.filter_some_pos given]
      exact Declaration.noConfusion
    · rw [Option.filter_some_neg (by simpa using given)]
      exact Declaration.noConfusion

theorem nodes_readsInto : nodes.ReadsInto Node.IsTyped := by
  apply readsInto_of_parts
  intro position members metadata formed metadataOk
  have parts := of_inside (by rfl) formed
  rw [Bool.and_eq_true, Bool.and_eq_true] at parts
  obtain ⟨⟨capacityFormed, allocatableFormed⟩, conditionsFormed⟩ := parts
  simp only [Readable.read, metadataOk, Outcome.ok_bind]
  refine ⟨_, rfl, rfl, ?_, ?_, ?_⟩
  · exact ResourceTable.isTyped_inside? capacityFormed
  · exact ResourceTable.isTyped_inside? allocatableFormed
  · exact Node.exists_readConditions conditionsFormed

theorem pods_readsInto : pods.ReadsInto Pod.IsTyped := by
  apply readsInto_of_parts
  intro position members metadata formed metadataOk
  have parts := of_inside (by rfl) formed
  rw [Bool.and_eq_true] at parts
  simp only [Readable.read, metadataOk, Outcome.ok_bind]
  refine ⟨_, rfl, rfl, ?_, ?_⟩
  · exact Name.isTyped_ofField parts.1 (.host position)
  · exact Container.exists_readList parts.2

end Listing

theorem exists_readItems {listing : Listing} {ε : Type} [Readable ε] [Entity ε]
    {IsTyped : ε → Prop} (readsInto : listing.ReadsInto IsTyped) {items : List Value}
    (formed : ∀ item ∈ items, listing.form item) :
    ∃ entities : List ε, readItems items = .ok entities ∧
      Entity.names entities = (items.filterMap declaredName?).map .text ∧
      ∀ entity ∈ entities, IsTyped entity := by
  have readAll : ∃ entities : List ε, readItems items = .ok entities ∧
      List.Forall₂ (fun item entity => Entity.name? entity = (declaredName? item).map .text ∧
        IsTyped entity) items entities :=
    Outcome.exists_mapM_zipIdx (fun item member position =>
      readsInto position item (formed item member)) 0
  obtain ⟨entities, readOk, related⟩ := readAll
  refine ⟨entities, readOk, ?_⟩
  clear formed readOk
  induction related with
  | nil => exact ⟨rfl, by simp⟩
  | @cons item entity items entities both _ inductionHypothesis =>
    obtain ⟨named, typed⟩ := both
    obtain ⟨namesEqual, restTyped⟩ := inductionHypothesis
    refine ⟨?_, List.forall_mem_cons.2 ⟨typed, restTyped⟩⟩
    rw [Entity.names, List.filterMap_cons, named, List.filterMap_cons]
    cases declaredName? item with
    | none => exact namesEqual
    | some name => exact congrArg (Name.text name :: ·) namesEqual

end ClusterAgent
