import ClusterAgent.Report
import ClusterAgent.Proofs.Outcome
import ClusterAgent.Proofs.Tables

/-!
Contract: sections, elements and groups that data is inserted into.

Data with new keys goes in without a refusal, and stands behind what is there.
Hosts are joined independently of each other, and new hosts follow those that
are there.

Owns: what a section, an element and a group hold after data is inserted.
Does not own: which data is inserted.
-/

namespace ClusterAgent

namespace Section

theorem insertOne_of_absent {target : Section} {key : Name} (value : Value)
    (absent : key ∉ target.content.keys) :
    target.insertOne key value = .ok ⟨⟨target.content.entries ++ [(key, value)]⟩⟩ := by
  have notFound : target.content.get? key = none := Table.get?_eq_none_iff.2 absent
  rw [← Table.set_absent absent]
  unfold insertOne
  rw [notFound]

/-- Data with new keys goes to the end of a section. -/
theorem insert_of_absent {target : Section} {data : List (Name × Value)}
    (distinct : (data.map Prod.fst).Nodup)
    (absent : ∀ pair ∈ data, pair.1 ∉ target.content.keys) :
    target.insert data = ⟨⟨⟨target.content.entries ++ data⟩⟩, none⟩ := by
  induction data generalizing target with
  | nil => rw [List.append_nil]; rfl
  | cons pair rest inductionHypothesis =>
    obtain ⟨key, value⟩ := pair
    rw [List.map_cons, List.nodup_cons] at distinct
    obtain ⟨firstAbsent, restAbsent⟩ := List.forall_mem_cons.1 absent
    have laterAbsent : ∀ other ∈ rest,
        other.1 ∉ (Table.mk (target.content.entries ++ [(key, value)])).keys := by
      intro other member
      have differs : other.1 ≠ key := fst_ne_of_not_mem distinct.1 other member
      have notBefore : other.1 ∉ target.content.keys := restAbsent other member
      rw [Table.keys, List.map_append, List.mem_append, not_or]
      exact ⟨notBefore, by simpa using differs⟩
    rw [insert, insertOne_of_absent value firstAbsent]
    dsimp only
    rw [inductionHypothesis distinct.2 laterAbsent, List.append_assoc]
    rfl

end Section

namespace Element

/-- A section that is new to an element follows the others. -/
theorem insert_of_absent {element : Element} {name : Name} {data : List (Name × Value)}
    (absent : name ∉ element.names) (distinct : (data.map Prod.fst).Nodup) :
    element.insert name data = ⟨⟨⟨element.sections.entries ++ [(name, ⟨⟨data⟩⟩)]⟩⟩, none⟩ := by
  have fresh : element.sectionAt name = .empty := by
    rw [sectionAt, Table.get?_eq_none_iff.2 absent]
    rfl
  have inserted : Section.empty.insert data = ⟨⟨⟨data⟩⟩, none⟩ :=
    Section.insert_of_absent distinct (by simp [Section.empty])
  rw [insert, fresh, inserted, Table.set_absent absent]

/-- What an element holds under each name, section by section. -/
def contents (element : Element) : List (Name × List (Name × Value)) :=
  element.sections.entries.map fun (name, held) => (name, held.content.entries)

/-- The element that holds some sections. -/
def ofContents (contents : List (Name × List (Name × Value))) : Element :=
  ⟨⟨contents.map fun (name, data) => (name, ⟨⟨data⟩⟩)⟩⟩

@[simp] theorem contents_ofContents (contents : List (Name × List (Name × Value))) :
    (ofContents contents).contents = contents := by
  simp [ofContents, Element.contents, Function.comp_def]

theorem names_ofContents (contents : List (Name × List (Name × Value))) :
    (ofContents contents).names = contents.map Prod.fst := by
  simp [ofContents, names, Table.keys, Function.comp_def]

theorem sectionAt_ofContents (contents : List (Name × List (Name × Value))) (name : Name) :
    (ofContents contents).sectionAt name = ⟨⟨(contents.lookup name).getD []⟩⟩ := by
  have looked := Table.get?_map (fun data => (⟨⟨data⟩⟩ : Section)) ⟨contents⟩ name
  show (((Table.mk contents).map fun data => (⟨⟨data⟩⟩ : Section)).get? name).getD .empty = _
  rw [looked, Table.get?]
  cases contents.lookup name <;> rfl

theorem insert_ofContents_of_absent {contents : List (Name × List (Name × Value))} {name : Name}
    {data : List (Name × Value)} (absent : name ∉ contents.map Prod.fst)
    (distinct : (data.map Prod.fst).Nodup) :
    (ofContents contents).insert name data =
      ⟨ofContents (contents ++ [(name, data)]), none⟩ := by
  rw [insert_of_absent (by rw [names_ofContents]; exact absent) distinct]
  simp [ofContents]

theorem put_eq_ok {element result : Element} {name : String} {data : List (Name × Value)}
    (inserted : element.insert name data = ⟨result, none⟩) :
    element.put name data = .ok result := by
  rw [put, inserted]
  rfl

theorem put_of_absent {contents : List (Name × List (Name × Value))} {name : String}
    {data : List (Name × Value)} (absent : Name.text name ∉ contents.map Prod.fst)
    (distinct : (data.map Prod.fst).Nodup) :
    (ofContents contents).put name data = .ok (ofContents (contents ++ [(.text name, data)])) :=
  put_eq_ok (insert_ofContents_of_absent absent distinct)

/-- Puts data into sections, one after the other. -/
def putAll (element : Element) (sections : List (String × List (Name × Value))) :
    Except Failure Element :=
  sections.foldlM (fun element pair => element.put pair.1 pair.2) element

/-- Sections of new names, each with distinct keys, are all made. -/
theorem putAll_of_absent {contents : List (Name × List (Name × Value))}
    {sections : List (String × List (Name × Value))}
    (namesDistinct : (contents.map Prod.fst ++ sections.map fun pair => Name.text pair.1).Nodup)
    (keysDistinct : ∀ pair ∈ sections, (pair.2.map Prod.fst).Nodup) :
    (ofContents contents).putAll sections =
      .ok (ofContents (contents ++ sections.map fun pair => (.text pair.1, pair.2))) := by
  unfold putAll
  induction sections generalizing contents with
  | nil => simp
  | cons first rest inductionHypothesis =>
    obtain ⟨name, data⟩ := first
    obtain ⟨firstDistinct, restDistinct⟩ := List.forall_mem_cons.1 keysDistinct
    rw [List.map_cons] at namesDistinct
    have absent : Name.text name ∉ contents.map Prod.fst := by
      intro member
      exact (List.nodup_append.1 namesDistinct).2.2 _ member _ List.mem_cons_self rfl
    have laterDistinct : ((contents ++ [(Name.text name, data)]).map Prod.fst ++
        rest.map fun pair => Name.text pair.1).Nodup := by
      rw [List.map_append, List.append_assoc]
      exact namesDistinct
    rw [List.foldlM_cons, put_of_absent absent firstDistinct, Outcome.ok_bind,
      inductionHypothesis laterDistinct restDistinct, List.append_assoc]
    rfl

/-- Data for the section that was made last. -/
theorem put_last {contents : List (Name × List (Name × Value))} {name : String}
    {held data after : List (Name × Value)} (absent : Name.text name ∉ contents.map Prod.fst)
    (inserted : Section.insert ⟨⟨held⟩⟩ data = ⟨⟨⟨after⟩⟩, none⟩) :
    (ofContents (contents ++ [(.text name, held)])).put name data =
      .ok (ofContents (contents ++ [(.text name, after)])) := by
  let others : Table Name Section := ⟨contents.map fun (name, data) => (name, ⟨⟨data⟩⟩)⟩
  have notBefore : Name.text name ∉ others.keys := by
    have sameKeys : others.keys = contents.map Prod.fst := names_ofContents contents
    rw [sameKeys]
    exact absent
  have appended (data : List (Name × Value)) :
      ofContents (contents ++ [(.text name, data)]) =
        ⟨others.set (.text name) ⟨⟨data⟩⟩⟩ := by
    rw [Table.set_absent notBefore]
    simp [ofContents, others]
  apply put_eq_ok
  rw [appended, insert, sectionAt, Table.get?_set, if_pos rfl, Option.getD_some, inserted,
    Table.set_set, appended]

/-- One section, as long as it holds anything. -/
def sectionOf (name : Name) : List (Name × Value) → List (Name × List (Name × Value))
  | [] => []
  | entry :: rest => [(name, entry :: rest)]

theorem fst_of_mem_sectionOf {name : Name} {entries : List (Name × Value)} :
    ∀ pair ∈ sectionOf name entries, pair.1 = name := by
  intro pair member
  cases entries with
  | nil => cases member
  | cons entry rest =>
    rw [List.mem_singleton.1 member]

end Element

namespace Group

/-- What each insertion keeps is kept by a join, wherever it stops. -/
theorem join_keeps (Holds : Group → Prop) {name : Name} {pairs : List (Name × List (Name × Value))}
    (insertKeeps : ∀ group, Holds group → ∀ pair ∈ pairs,
      Holds (group.insert pair.1 name pair.2).state)
    {group : Group} (holds : Holds group) : Holds (group.join name pairs).state := by
  induction pairs generalizing group with
  | nil => exact holds
  | cons pair rest inductionHypothesis =>
    have inserted : Holds (group.insert pair.1 name pair.2).state :=
      insertKeeps group holds pair List.mem_cons_self
    unfold join
    dsimp only
    split
    · exact inductionHypothesis (fun group holds other member =>
        insertKeeps group holds other (List.mem_cons_of_mem pair member)) inserted
    · exact inserted

/-- A group once its hosts have taken data. -/
def joined (group : Group) (name : Name) (pairs : List (Name × List (Name × Value))) : Group :=
  ⟨pairs.foldl (fun elements pair => elements.set pair.1
    (((elements.get? pair.1).getD .empty).insert name pair.2).state) group.elements⟩

/-- Hosts that take their data take it before the rest is joined. -/
theorem join_append_of_takes {group : Group} {name : Name}
    {pairs rest : List (Name × List (Name × Value))} (distinct : (pairs.map Prod.fst).Nodup)
    (takes : ∀ pair ∈ pairs, ((group.elementAt pair.1).insert name pair.2).fault = none) :
    group.join name (pairs ++ rest) = (group.joined name pairs).join name rest := by
  induction pairs generalizing group with
  | nil => rfl
  | cons pair later inductionHypothesis =>
    obtain ⟨host, data⟩ := pair
    rw [List.map_cons, List.nodup_cons] at distinct
    obtain ⟨takesFirst, takesLater⟩ := List.forall_mem_cons.1 takes
    rw [List.cons_append, join, insert]
    dsimp only at takesFirst ⊢
    rw [takesFirst]
    apply inductionHypothesis distinct.2
    intro other member
    rw [elementAt, Table.get?_set, if_neg (fst_ne_of_not_mem distinct.1 other member)]
    exact takesLater other member

theorem join_of_takes {group : Group} {name : Name} {pairs : List (Name × List (Name × Value))}
    (distinct : (pairs.map Prod.fst).Nodup)
    (takes : ∀ pair ∈ pairs, ((group.elementAt pair.1).insert name pair.2).fault = none) :
    group.join name pairs = ⟨group.joined name pairs, none⟩ := by
  have taken : group.join name (pairs ++ []) = (group.joined name pairs).join name [] :=
    join_append_of_takes distinct takes
  rwa [List.append_nil] at taken

theorem hosts_joined {group : Group} {name : Name} {pairs : List (Name × List (Name × Value))}
    (distinct : (pairs.map Prod.fst).Nodup) :
    (group.joined name pairs).hosts =
      group.hosts ++ (pairs.map Prod.fst).filter (· ∉ group.hosts) := by
  have folded := Table.keys_foldl_set
    (fun held data => ((held.getD Element.empty).insert name data).state) pairs group.elements
  rw [eraseDups_eq_self distinct] at folded
  exact folded

theorem get?_joined {group : Group} {name : Name} {pairs : List (Name × List (Name × Value))}
    (distinct : (pairs.map Prod.fst).Nodup) (host : Name) :
    (group.joined name pairs).elements.get? host =
      (pairs.lookup host).elim (group.elements.get? host) fun data =>
        some ((group.elementAt host).insert name data).state :=
  Table.get?_foldl_set
    (fun held data => ((held.getD Element.empty).insert name data).state) pairs group.elements
    distinct host

/-- A host holds what it held, and what it was given on top. -/
theorem elementAt_joined {group : Group} {name : Name} {pairs : List (Name × List (Name × Value))}
    (distinct : (pairs.map Prod.fst).Nodup) (host : Name) :
    (group.joined name pairs).elementAt host =
      (pairs.lookup host).elim (group.elementAt host) fun data =>
        ((group.elementAt host).insert name data).state := by
  rw [elementAt, get?_joined distinct]
  cases pairs.lookup host <;> rfl

end Group

section HostData

variable (data : Table Name Members)

theorem Table.map_fst_named : (data.map Members.named).entries.map Prod.fst = data.keys :=
  keys_map Members.named data

theorem Table.lookup_named (host : Name) :
    (data.map Members.named).entries.lookup host = (data.get? host).map Members.named :=
  get?_map Members.named data host

end HostData

/-- Joining a table of data: `before` is what the hosts hold, and `after` what those that are given
something hold with it. -/
theorem Group.exists_put (group : Group) (name : String) {data : Table Name Members}
    (distinct : data.keys.Nodup) (before after : Name → List (Name × List (Name × Value)))
    (elements : ∀ host, group.elementAt host = .ofContents (before host))
    (inserted : ∀ host members, data.get? host = some members →
      (Element.ofContents (before host)).insert name members.named =
        ⟨.ofContents (after host), none⟩)
    (untouched : ∀ host, data.get? host = none → before host = after host) :
    ∃ result, group.put name data = .ok result ∧
      result.hosts = group.hosts ++ data.keys.filter (· ∉ group.hosts) ∧
      ∀ host, result.elementAt host = .ofContents (after host) := by
  have pairsDistinct : ((data.map Members.named).entries.map Prod.fst).Nodup := by
    rw [data.map_fst_named]
    exact distinct
  have takes : ∀ pair ∈ (data.map Members.named).entries,
      ((group.elementAt pair.1).insert name pair.2).fault = none := by
    rintro ⟨host, given⟩ member
    have found : (data.map Members.named).get? host = some given :=
      Table.get?_of_mem_entries pairsDistinct member
    rw [Table.get?_map, Option.map_eq_some_iff] at found
    obtain ⟨members, foundMembers, rfl⟩ := found
    rw [elements, inserted host members foundMembers]
  refine ⟨group.joined name (data.map Members.named).entries, ?_, ?_, ?_⟩
  · rw [put, join_of_takes pairsDistinct takes]
    rfl
  · rw [hosts_joined pairsDistinct, data.map_fst_named]
  · intro host
    rw [elementAt_joined pairsDistinct, data.lookup_named, elements]
    cases found : data.get? host with
    | none => exact congrArg Element.ofContents (untouched host found)
    | some members => exact congrArg Attempt.state (inserted host members found)

theorem Members.nodup_named {members : Members} (distinct : (members.map Prod.fst).Nodup) :
    (members.named.map Prod.fst).Nodup := by
  have keys : members.named.map Prod.fst = (members.map Prod.fst).map Name.text := by
    simp [Members.named, Function.comp_def]
  rw [keys]
  exact distinct.map fun _ _ same => Name.text.inj same

/-- Joining a table under a name that is new to every host: each host that is given something gets
a section of its own for it. -/
theorem Group.exists_put_section (group : Group) (name : String) {data : Table Name Members}
    (distinct : data.keys.Nodup) (before : Name → List (Name × List (Name × Value)))
    (elements : ∀ host, group.elementAt host = .ofContents (before host))
    (absent : ∀ host, Name.text name ∉ (before host).map Prod.fst)
    (membersDistinct : ∀ host members, data.get? host = some members →
      (members.map Prod.fst).Nodup) :
    ∃ result, group.put name data = .ok result ∧
      result.hosts = group.hosts ++ data.keys.filter (· ∉ group.hosts) ∧
      ∀ host, result.elementAt host = .ofContents
        (before host ++ (data.get? host).elim [] fun members => [(.text name, members.named)]) := by
  apply Group.exists_put group name distinct before _ elements
  · intro host members found
    rw [found]
    exact Element.insert_ofContents_of_absent (absent host)
      (Members.nodup_named (membersDistinct host members found))
  · intro host missing
    rw [missing]
    exact (List.append_nil _).symm

end ClusterAgent
