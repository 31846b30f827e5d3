import ClusterAgent.Cluster.Metadata
import ClusterAgent.Proofs.Outcome
import ClusterAgent.Proofs.Report.Quantities
import ClusterAgent.Proofs.Tables
import Mathlib.Data.List.Find

/-!
Contract: views of entities by name.

A table of views has every name once, in the order in which the names first
come, and shows under it the last of the entities that have a view.

Owns: the last entity of a name, the keys and the look-up of tables of views.
Does not own: what is viewed.
-/

namespace ClusterAgent.Entity

variable {ε β : Type} [Entity ε]

/-- The last entity of a name among those that a condition keeps. -/
def lastOf? (keep : ε → Bool) (entities : List ε) (name : Name) : Option ε :=
  entities.reverse.find? fun entity => name? entity = some name && keep entity

def last? (entities : List ε) (name : Name) : Option ε := lastOf? (fun _ => true) entities name

/-- The entities that have a name and a view, each with both. -/
def viewed (view? : ε → Option β) (entities : List ε) : List (Name × β) :=
  entities.filterMap fun entity => (name? entity).bind fun name => (view? entity).map (name, ·)

theorem named_fst (entities : List ε) : (named entities).map Prod.fst = names entities := by
  rw [named, names, List.map_filterMap]
  congr 1
  funext entity
  cases name? entity <;> rfl

theorem mem_named {entities : List ε} {name : Name} {entity : ε} :
    (name, entity) ∈ named entities ↔ entity ∈ entities ∧ name? entity = some name := by
  rw [named, List.mem_filterMap]
  constructor
  · rintro ⟨other, member, isPair⟩
    obtain ⟨given, found, same⟩ := Option.map_eq_some_iff.1 isPair
    cases same
    exact ⟨member, found⟩
  · rintro ⟨member, found⟩
    exact ⟨entity, member, by rw [found]; rfl⟩

theorem lastOf?_eq_some {keep : ε → Bool} {entities : List ε} {name : Name} {entity : ε}
    (found : lastOf? keep entities name = some entity) :
    entity ∈ entities ∧ name? entity = some name ∧ keep entity := by
  have holds := List.find?_some found
  have member := List.mem_of_find?_eq_some found
  rw [Bool.and_eq_true, decide_eq_true_eq] at holds
  exact ⟨List.mem_reverse.1 member, holds⟩

theorem last?_eq_some {entities : List ε} {name : Name} {entity : ε}
    (found : last? entities name = some entity) :
    entity ∈ entities ∧ name? entity = some name := by
  obtain ⟨member, named, _⟩ := lastOf?_eq_some found
  exact ⟨member, named⟩

theorem last?_isSome_iff {entities : List ε} {name : Name} :
    (last? entities name).isSome ↔ name ∈ names entities := by
  rw [last?, lastOf?, List.find?_isSome, names, List.mem_filterMap]
  simp

/-- Looking up from the front finds the first entity of the name that has a view. -/
theorem lookup_viewed (view? : ε → Option β) (entities : List ε) (name : Name) :
    (viewed view? entities).lookup name =
      (entities.find? fun entity => name? entity = some name && (view? entity).isSome).bind
        view? := by
  unfold viewed
  induction entities with
  | nil => rfl
  | cons entity rest inductionHypothesis =>
    rw [List.filterMap_cons, List.find?_cons]
    cases given : name? entity with
    | none => simpa using inductionHypothesis
    | some own =>
      cases shown : view? entity with
      | none => simpa using inductionHypothesis
      | some value =>
        by_cases same : name = own
        · simp [same, shown]
        · have differs : own ≠ name := Ne.symm same
          simpa [Table.lookup_entry, same, differs] using inductionHypothesis

/-- A table filled with views shows the last entity of each name that has one. -/
theorem get?_ofList_viewed (view? : ε → Option β) (entities : List ε) (name : Name) :
    (Table.ofList (viewed view? entities)).get? name =
      (lastOf? (fun entity => (view? entity).isSome) entities name).bind view? := by
  rw [Table.get?_ofList, viewed, ← List.filterMap_reverse]
  exact lookup_viewed view? entities.reverse name

theorem byName_eq (view : ε → β) (entities : List ε) :
    byName view entities = .ofList (viewed (fun entity => some (view entity)) entities) := by
  rw [byName, named, viewed, List.map_filterMap]
  congr 2
  funext entity
  cases name? entity <;> rfl

theorem get?_byName (view : ε → β) (entities : List ε) (name : Name) :
    (byName view entities).get? name = (last? entities name).map view := by
  rw [byName_eq, get?_ofList_viewed, Option.map_eq_bind]
  rfl

theorem keys_byName (view : ε → β) (entities : List ε) :
    (byName view entities).keys = (names entities).eraseDups := by
  rw [byName, Table.keys_ofList, List.map_map, ← named_fst]
  rfl

theorem nodup_keys_byName (view : ε → β) (entities : List ε) :
    (byName view entities).keys.Nodup :=
  Table.nodup_keys_ofList _

theorem values_byName (view : ε → β) (entities : List ε) :
    (byName view entities).values =
      (names entities).eraseDups.filterMap fun name => (last? entities name).map view := by
  rw [Table.values_eq_filterMap (nodup_keys_byName view entities), keys_byName]
  exact List.filterMap_congr fun name _ => get?_byName view entities name

/-- Everything that a table of views shows is the view of an entity. -/
theorem exists_of_mem_values_byName {view : ε → β} {entities : List ε} {value : β}
    (member : value ∈ (byName view entities).values) :
    ∃ entity ∈ entities, value = view entity := by
  obtain ⟨⟨name, shown⟩, inEntries, rfl⟩ := List.mem_map.1 member
  have found := Table.get?_of_mem_entries (nodup_keys_byName view entities) inEntries
  rw [get?_byName, Option.map_eq_some_iff] at found
  obtain ⟨entity, isLast, isView⟩ := found
  exact ⟨entity, (last?_eq_some isLast).1, isView.symm⟩

theorem nodup_keys_tryByName {view : ε → Except Failure β} {entities : List ε}
    {table : Table Name β} (viewed : tryByName view entities = .ok table) : table.keys.Nodup := by
  obtain ⟨pairs, _, rfl⟩ := Outcome.map_eq_ok.1 viewed
  exact Table.nodup_keys_ofList pairs

theorem keys_tryByName {view : ε → Except Failure β} {entities : List ε} {table : Table Name β}
    (viewed : tryByName view entities = .ok table) : table.keys = (names entities).eraseDups := by
  obtain ⟨pairs, traversed, rfl⟩ := Outcome.map_eq_ok.1 viewed
  have sameNames : pairs.map Prod.fst = (named entities).map Prod.fst := by
    refine Outcome.map_results_eq ?_ traversed
    rintro ⟨name, entity⟩ _ pair stepped
    obtain ⟨shown, _, rfl⟩ := Outcome.map_eq_ok.1 stepped
    rfl
  rw [Table.keys_ofList, sameNames, named_fst]

/-- A table of views is made exactly if every entity with a name has a view. -/
theorem exists_tryByName {view : ε → Except Failure β} {entities : List ε} :
    (∃ table, tryByName view entities = .ok table) ↔
      ∀ entity ∈ entities, (name? entity).isSome → ∃ shown, view entity = .ok shown := by
  have traverses : (∃ table, tryByName view entities = .ok table) ↔
      ∃ pairs, ((named entities).mapM fun pair => (pair.1, ·) <$> view pair.2) = .ok pairs := by
    constructor
    · rintro ⟨table, viewed⟩
      obtain ⟨pairs, traversed, -⟩ := Outcome.map_eq_ok.1 viewed
      exact ⟨pairs, traversed⟩
    · rintro ⟨pairs, traversed⟩
      exact ⟨.ofList pairs, Outcome.map_eq_ok.2 ⟨pairs, traversed, rfl⟩⟩
  rw [traverses, Outcome.exists_mapM_ok]
  constructor
  · intro viewed entity member isNamed
    obtain ⟨name, given⟩ := Option.isSome_iff_exists.1 isNamed
    obtain ⟨pair, stepped⟩ := viewed (name, entity) (mem_named.2 ⟨member, given⟩)
    obtain ⟨shown, shownOk, -⟩ := Outcome.map_eq_ok.1 stepped
    exact ⟨shown, shownOk⟩
  · intro viewed pair member
    obtain ⟨inEntities, given⟩ := mem_named.1 member
    obtain ⟨shown, shownOk⟩ := viewed pair.2 inEntities (given ▸ rfl)
    exact ⟨(pair.1, shown), Outcome.map_eq_ok.2 ⟨shown, shownOk, rfl⟩⟩

/-- A table of views fails with the view of the first entity that has a name but no view. -/
theorem tryByName_eq_error {view : ε → Except Failure β} {entities : List ε} {failure : Failure} :
    tryByName view entities = .error failure ↔
      ∃ before entity after, entities = before ++ entity :: after ∧
        (∀ earlier ∈ before, (name? earlier).isSome → ∃ shown, view earlier = .ok shown) ∧
        (name? entity).isSome ∧ view entity = .error failure := by
  rw [tryByName, Outcome.map_eq_error]
  constructor
  · intro failed
    obtain ⟨pairs, pair, rest, split, passed, stopped⟩ := Outcome.mapM_eq_error.1 failed
    obtain ⟨front, back, rfl, isFront, isBack⟩ := List.filterMap_eq_append_iff.1 split
    obtain ⟨skipped, entity, after, rfl, unnamed, isPair, -⟩ := List.filterMap_eq_cons_iff.1 isBack
    obtain ⟨name, given, rfl⟩ := Option.map_eq_some_iff.1 isPair
    refine ⟨front ++ skipped, entity, after, by simp, ?_, given ▸ rfl,
      Outcome.map_eq_error.1 stopped⟩
    intro earlier member isNamed
    obtain ⟨own, ownGiven⟩ := Option.isSome_iff_exists.1 isNamed
    rcases List.mem_append.1 member with inFront | isSkipped
    · have inPairs : (own, earlier) ∈ pairs := by
        rw [← isFront]
        exact mem_named.2 ⟨inFront, ownGiven⟩
      obtain ⟨result, stepped⟩ := passed _ inPairs
      obtain ⟨shown, shownOk, -⟩ := Outcome.map_eq_ok.1 stepped
      exact ⟨shown, shownOk⟩
    · have unviewed := unnamed earlier isSkipped
      rw [ownGiven] at unviewed
      cases unviewed
  · rintro ⟨before, entity, after, rfl, passed, isNamed, stopped⟩
    obtain ⟨name, given⟩ := Option.isSome_iff_exists.1 isNamed
    apply Outcome.mapM_eq_error.2
    refine ⟨named before, (name, entity), named after, ?_, ?_, Outcome.map_eq_error.2 stopped⟩
    · rw [named, List.filterMap_append, List.filterMap_cons, given]
      rfl
    · intro pair member
      obtain ⟨inBefore, ownGiven⟩ := mem_named.1 member
      obtain ⟨shown, shownOk⟩ := passed pair.2 inBefore (ownGiven ▸ rfl)
      exact ⟨(pair.1, shown), Outcome.map_eq_ok.2 ⟨shown, shownOk, rfl⟩⟩

/-- Entities without a name are not viewed. -/
theorem tryByName_congr {view other : ε → Except Failure β} {entities : List ε}
    (same : ∀ entity ∈ entities, (name? entity).isSome → other entity = view entity) :
    tryByName other entities = tryByName view entities := by
  have traversals : ((named entities).mapM fun pair => (pair.1, ·) <$> other pair.2) =
      (named entities).mapM fun pair => (pair.1, ·) <$> view pair.2 := by
    apply Outcome.mapM_congr
    intro pair member
    obtain ⟨inEntities, given⟩ := mem_named.1 member
    rw [same pair.2 inEntities (given ▸ rfl)]
  show Table.ofList <$> ((named entities).mapM fun pair => (pair.1, ·) <$> other pair.2) = _
  rw [traversals]
  rfl

/-- A table of views shows under each name the last entity that has it. -/
theorem get?_tryByName {view : ε → Except Failure β} {entities : List ε} {table : Table Name β}
    (viewed : tryByName view entities = .ok table) (name : Name) :
    table.get? name = (last? entities name).bind fun entity => (view entity).toOption := by
  have allViewed := exists_tryByName.1 ⟨table, viewed⟩
  obtain ⟨pairs, traversed, rfl⟩ := Outcome.map_eq_ok.1 viewed
  have isViewed : pairs = Entity.viewed (fun entity => (view entity).toOption) entities := by
    rw [Outcome.mapM_results_eq traversed, named, List.filterMap_filterMap, Entity.viewed]
    congr 1
    funext entity
    cases name? entity with
    | none => rfl
    | some own =>
      show ((own, ·) <$> view entity).toOption = (view entity).toOption.map (own, ·)
      cases view entity <;> rfl
  -- Every entity of a name has a view, so the last one that has a view is the last one.
  have sameLast : lastOf? (fun entity => (view entity).toOption.isSome) entities name =
      last? entities name := by
    unfold last? lastOf?
    apply List.find?_congr
    intro entity member
    by_cases given : name? entity = some name
    · obtain ⟨shown, shownOk⟩ := allViewed entity (List.mem_reverse.1 member) (given ▸ rfl)
      dsimp only
      rw [shownOk]
      rfl
    · simp [given]
  rw [isViewed, get?_ofList_viewed, sameLast]

theorem exists_of_mem_values_tryByName {view : ε → Except Failure β} {entities : List ε}
    {table : Table Name β} (viewed : tryByName view entities = .ok table) {value : β}
    (member : value ∈ table.values) : ∃ entity ∈ entities, view entity = .ok value := by
  obtain ⟨⟨name, shown⟩, inEntries, rfl⟩ := List.mem_map.1 member
  have found := Table.get?_of_mem_entries (nodup_keys_tryByName viewed) inEntries
  rw [get?_tryByName viewed, Option.bind_eq_some_iff] at found
  obtain ⟨entity, isLast, isShown⟩ := found
  exact ⟨entity, (last?_eq_some isLast).1, Outcome.toOption_eq_some.1 isShown⟩

theorem tryByName_eq_byName {view : ε → Except Failure β} {shown : ε → β} {entities : List ε}
    (succeeds : ∀ entity ∈ entities, view entity = .ok (shown entity)) :
    tryByName view entities = .ok (byName shown entities) := by
  have traversed : ((named entities).mapM fun pair => (pair.1, ·) <$> view pair.2) =
      .ok ((named entities).map fun pair => (pair.1, shown pair.2)) := by
    apply Outcome.mapM_eq_map
    rintro ⟨name, entity⟩ member
    rw [succeeds entity (mem_named.1 member).1]
    rfl
  change Table.ofList <$> ((named entities).mapM fun pair => (pair.1, ·) <$> view pair.2) = _
  rw [traversed]
  rfl

/-- A table of views is read exactly if every named entity is. -/
theorem reads_tryByName {view : ε → Except Failure β} {accepted : ε → Prop} {entities : List ε}
    (reads : ∀ entity ∈ entities, Reads (accepted entity) (view entity)) :
    Reads (∀ pair ∈ named entities, accepted pair.2) (tryByName view entities) := by
  have readsPairs : Reads (∀ pair ∈ named entities, accepted pair.2)
      ((named entities).mapM fun pair => (pair.1, ·) <$> view pair.2) := by
    apply Reads.mapM
    rintro ⟨name, entity⟩ member
    exact (reads entity (mem_named.1 member).1).map (name, ·)
  exact readsPairs.map Table.ofList

end ClusterAgent.Entity
