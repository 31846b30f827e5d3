import ClusterAgent.Proofs.Report.History
import ClusterAgent.Proofs.Report.Sections

/-!
Contract: joins look at one section of the hosts that they are given.

A join asks each host's section in turn, and only sections of its own name. So
joins under two names go through in either order or in none, and leave the same
sections. A join that fails has done what comes before the first refusal, and
leaves alone what comes after it.

Owns: what a join changes, what it leaves when it fails, joins in either order.
Does not own: what a section refuses.
-/

namespace ClusterAgent

namespace Element

variable (element : Element) {name other : Name} (data : List (Name × Value))

theorem sectionAt_insert :
    (element.insert name data).state.sectionAt name =
      ((element.sectionAt name).insert data).state := by
  rw [insert, sectionAt, Table.get?_set, if_pos rfl, Option.getD_some]

/-- An insertion makes no difference to the sections of other names, nor makes one. -/
theorem get?_insert_of_ne (differ : other ≠ name) :
    (element.insert name data).state.sections.get? other = element.sections.get? other := by
  rw [insert, Table.get?_set, if_neg differ]

end Element

namespace Group

/-- The section of a host, empty as long as nothing made one. -/
def sectionAt (group : Group) (host name : Name) : Section :=
  (group.elementAt host).sectionAt name

/-- The names of a host's sections. -/
def namesAt (group : Group) (host : Name) : List Name := (group.elementAt host).names

/-- Data by host as maps of objects hold it: each host stands once, and so does each key of its
data. -/
structure IsHostData (pairs : List (Name × List (Name × Value))) : Prop where
  hosts : (pairs.map Prod.fst).Nodup
  keys : ∀ pair ∈ pairs, (pair.2.map Prod.fst).Nodup

/-- Every host's section takes its data. -/
def TakesAll (group : Group) (name : Name) (pairs : List (Name × List (Name × Value))) : Prop :=
  ∀ pair ∈ pairs, ((group.sectionAt pair.1 name).insert pair.2).fault = none

/-- The name that a host's sections gain by joining data, if any. -/
def gained (group : Group) (name : Name) (pairs : List (Name × List (Name × Value)))
    (host : Name) : List Name :=
  if host ∈ pairs.map Prod.fst ∧ name ∉ group.namesAt host then [name] else []

/-! ## A group after hosts have taken data -/

section Joined

variable {group : Group} {name : Name} {pairs : List (Name × List (Name × Value))}

theorem sectionAt_joined (distinct : (pairs.map Prod.fst).Nodup) (host : Name) :
    (group.joined name pairs).sectionAt host name =
      (pairs.lookup host).elim (group.sectionAt host name) fun data =>
        ((group.sectionAt host name).insert data).state := by
  rw [sectionAt, elementAt_joined distinct]
  cases pairs.lookup host with
  | none => rfl
  | some data => exact Element.sectionAt_insert _ data

theorem sectionAt_joined_of_mem (distinct : (pairs.map Prod.fst).Nodup)
    {pair : Name × List (Name × Value)} (member : pair ∈ pairs) :
    (group.joined name pairs).sectionAt pair.1 name =
      ((group.sectionAt pair.1 name).insert pair.2).state := by
  have found : pairs.lookup pair.1 = some pair.2 :=
    Table.get?_of_mem_entries (show (Table.mk pairs).keys.Nodup from distinct) member
  rw [sectionAt_joined distinct, found]
  rfl

theorem get?_joined_of_not_mem (distinct : (pairs.map Prod.fst).Nodup) {host : Name}
    (absent : host ∉ pairs.map Prod.fst) :
    (group.joined name pairs).elements.get? host = group.elements.get? host := by
  have notFound : pairs.lookup host = none :=
    Table.get?_eq_none_iff.2 (show host ∉ (Table.mk pairs).keys from absent)
  rw [get?_joined distinct, notFound]
  rfl

theorem get?_elementAt_joined_of_ne (distinct : (pairs.map Prod.fst).Nodup) {other : Name}
    (differ : other ≠ name) (host : Name) :
    ((group.joined name pairs).elementAt host).sections.get? other =
      (group.elementAt host).sections.get? other := by
  rw [elementAt_joined distinct]
  cases pairs.lookup host with
  | none => rfl
  | some data => exact Element.get?_insert_of_ne _ data differ

theorem sectionAt_joined_of_ne (distinct : (pairs.map Prod.fst).Nodup) {other : Name}
    (differ : other ≠ name) (host : Name) :
    (group.joined name pairs).sectionAt host other = group.sectionAt host other := by
  unfold sectionAt Element.sectionAt
  rw [get?_elementAt_joined_of_ne distinct differ]

/-- A host that is given data has a section for it, behind those that it had. -/
theorem namesAt_joined (distinct : (pairs.map Prod.fst).Nodup) (host : Name) :
    (group.joined name pairs).namesAt host =
      group.namesAt host ++ group.gained name pairs host := by
  unfold gained namesAt
  rw [elementAt_joined distinct]
  cases found : pairs.lookup host with
  | none =>
    have absent : host ∉ pairs.map Prod.fst := Table.lookup_eq_none_iff.1 found
    simp [absent]
  | some data =>
    have given : host ∈ pairs.map Prod.fst := List.mem_map_of_mem (Table.mem_of_lookup found)
    have names : ((group.elementAt host).insert name data).state.names =
        if name ∈ (group.elementAt host).names then (group.elementAt host).names
        else (group.elementAt host).names ++ [name] := Table.keys_set _ name _
    rw [Option.elim_some, names]
    by_cases present : name ∈ (group.elementAt host).names <;> simp [given, present]

end Joined

/-! ## One join -/

section Join

variable {group : Group} {name : Name} {pairs : List (Name × List (Name × Value))}

/-- A join that meets a host that refuses has joined what comes before it, and what that host
takes. -/
theorem join_of_refused {before after : List (Name × List (Name × Value))} {host : Name}
    {data : List (Name × Value)} {fault : AggregationError}
    (distinct : ((before ++ [(host, data)]).map Prod.fst).Nodup)
    (takes : group.TakesAll name before)
    (refuses : ((group.sectionAt host name).insert data).fault = some fault) :
    group.join name (before ++ (host, data) :: after) =
      ⟨group.joined name (before ++ [(host, data)]), some fault⟩ := by
  have split := distinct
  rw [List.map_append, List.map_singleton] at split
  obtain ⟨distinctBefore, -, apart⟩ := List.nodup_append.1 split
  have absent : host ∉ before.map Prod.fst := fun member =>
    apart host member host (List.mem_singleton_self host) rfl
  have unchanged : (group.joined name before).elementAt host = group.elementAt host := by
    rw [elementAt, get?_joined_of_not_mem distinctBefore absent]
    rfl
  have last : group.joined name (before ++ [(host, data)]) =
      ((group.joined name before).insert host name data).state := by
    rw [joined, List.foldl_append]
    rfl
  have stops : ((group.joined name before).insert host name data).fault = some fault := by
    rw [insert, unchanged]
    exact refuses
  rw [join_append_of_takes distinctBefore takes, join, stops, last]

/-- Either every host takes its data, or there is a first one that refuses. -/
theorem takesAll_or_refused (group : Group) (name : Name)
    (pairs : List (Name × List (Name × Value))) :
    group.TakesAll name pairs ∨
      ∃ before host data after fault, pairs = before ++ (host, data) :: after ∧
        group.TakesAll name before ∧
        ((group.sectionAt host name).insert data).fault = some fault := by
  induction pairs with
  | nil => exact .inl (by simp [TakesAll])
  | cons pair rest inductionHypothesis =>
    obtain ⟨host, data⟩ := pair
    cases first : ((group.sectionAt host name).insert data).fault with
    | some fault => exact .inr ⟨[], host, data, rest, fault, rfl, by simp [TakesAll], first⟩
    | none =>
      rcases inductionHypothesis with
        takes | ⟨before, other, given, after, fault, rfl, takes, stops⟩
      · exact .inl (List.forall_mem_cons.2 ⟨first, takes⟩)
      · exact .inr ⟨(host, data) :: before, other, given, after, fault, rfl,
          List.forall_mem_cons.2 ⟨first, takes⟩, stops⟩

theorem toExcept_join_eq_ok (distinct : (pairs.map Prod.fst).Nodup) {result : Group} :
    (group.join name pairs).toExcept = .ok result ↔
      group.TakesAll name pairs ∧ result = group.joined name pairs := by
  rcases takesAll_or_refused group name pairs with
    takes | ⟨before, host, data, after, fault, rfl, takes, refuses⟩
  · rw [join_of_takes distinct takes]
    simp [Attempt.toExcept, takes, eq_comm]
  · have isPart : (before ++ [(host, data)]).Sublist (before ++ (host, data) :: after) := by simp
    rw [join_of_refused (distinct.sublist (isPart.map Prod.fst)) takes refuses]
    have notAll : ¬ group.TakesAll name (before ++ (host, data) :: after) := fun all => by
      have taken := all (host, data) (by simp)
      rw [refuses] at taken
      cases taken
    simp [Attempt.toExcept, notAll]

/-- What a join leaves alone: hosts that are there stay in place and new ones follow, in the order
of the data; hosts that are given nothing stay as they are, and are not made; and a host's sections
stay in place, as they are but for the one that is joined. -/
structure IsFramed (name : Name) (pairs : List (Name × List (Name × Value)))
    (before after : Group) : Prop where
  hosts : ∃ processed, processed <+: pairs.map Prod.fst ∧
    after.hosts = before.hosts ++ processed.filter (· ∉ before.hosts)
  others : ∀ host ∉ pairs.map Prod.fst, after.elements.get? host = before.elements.get? host
  names : ∀ host, after.namesAt host = before.namesAt host ∨
    after.namesAt host = before.namesAt host ++ [name]
  sections : ∀ host other, other ≠ name →
    (after.elementAt host).sections.get? other = (before.elementAt host).sections.get? other

/-- How a join ends. It goes through if every host's section takes its data. Else it stops at the
first host that refuses: the hosts before it hold their data, it holds what comes before the key
that it refuses, and the hosts after it are as they were, or still not there. -/
inductive JoinEnds (group : Group) (name : Name) (pairs : List (Name × List (Name × Value)))
    (state : Group) : Option AggregationError → Prop where
  | through
      (hosts : state.hosts = group.hosts ++ (pairs.map Prod.fst).filter (· ∉ group.hosts))
      (taken : ∀ pair ∈ pairs, (group.sectionAt pair.1 name).insert pair.2 =
        ⟨state.sectionAt pair.1 name, none⟩) :
      JoinEnds group name pairs state none
  | stopped (before after : List (Name × List (Name × Value))) (host : Name)
      (data taken : List (Name × Value)) (fault : AggregationError)
      (split : pairs = before ++ (host, data) :: after)
      (hosts : state.hosts =
        group.hosts ++ (before.map Prod.fst ++ [host]).filter (· ∉ group.hosts))
      (takenBefore : ∀ pair ∈ before, (group.sectionAt pair.1 name).insert pair.2 =
        ⟨state.sectionAt pair.1 name, none⟩)
      (ends : (group.sectionAt host name).Ends data taken (some fault))
      (takenHere : (group.sectionAt host name).insert taken = ⟨state.sectionAt host name, none⟩)
      (untouched : ∀ pair ∈ after, state.elements.get? pair.1 = group.elements.get? pair.1) :
      JoinEnds group name pairs state (some fault)

/-- A join does to a prefix of its data what it would do to the whole. -/
theorem exists_joined (group : Group) (name : Name) (distinct : (pairs.map Prod.fst).Nodup) :
    ∃ processed, processed <+: pairs ∧
      (group.join name pairs).state = group.joined name processed := by
  rcases takesAll_or_refused group name pairs with
    takes | ⟨before, host, data, after, fault, rfl, takes, refuses⟩
  · exact ⟨pairs, List.prefix_rfl, by rw [join_of_takes distinct takes]⟩
  · have isPrefix : before ++ [(host, data)] <+: before ++ (host, data) :: after :=
      ⟨after, by simp⟩
    refine ⟨before ++ [(host, data)], isPrefix, ?_⟩
    rw [join_of_refused (distinct.sublist (isPrefix.sublist.map Prod.fst)) takes refuses]

theorem isFramed_join (distinct : (pairs.map Prod.fst).Nodup) :
    IsFramed name pairs group (group.join name pairs).state := by
  obtain ⟨processed, isPrefix, state⟩ := exists_joined group name distinct
  have processedDistinct : (processed.map Prod.fst).Nodup :=
    distinct.sublist (isPrefix.sublist.map Prod.fst)
  rw [state]
  constructor
  case hosts => exact ⟨_, isPrefix.map Prod.fst, hosts_joined processedDistinct⟩
  case others =>
    intro host absent
    exact get?_joined_of_not_mem processedDistinct fun member =>
      absent ((isPrefix.sublist.map Prod.fst).subset member)
  case names =>
    intro host
    rw [namesAt_joined processedDistinct, gained]
    split
    · exact .inr rfl
    · exact .inl (List.append_nil _)
  case sections => exact fun host other differ =>
    get?_elementAt_joined_of_ne processedDistinct differ host

/-- A host that is not refused holds its data after the join. -/
theorem insert_of_takesAll (distinct : (pairs.map Prod.fst).Nodup)
    {taken : List (Name × List (Name × Value))} (isPart : taken ⊆ pairs)
    (takes : group.TakesAll name taken) :
    ∀ pair ∈ taken, (group.sectionAt pair.1 name).insert pair.2 =
      ⟨(group.joined name pairs).sectionAt pair.1 name, none⟩ := by
  intro pair member
  rw [sectionAt_joined_of_mem distinct (isPart member), ← takes pair member]

theorem joinEnds_join (formed : IsHostData pairs) :
    JoinEnds group name pairs (group.join name pairs).state (group.join name pairs).fault := by
  rcases takesAll_or_refused group name pairs with
    takes | ⟨before, host, data, after, fault, rfl, takes, refuses⟩
  · rw [join_of_takes formed.hosts takes]
    exact .through (hosts_joined formed.hosts)
      (insert_of_takesAll formed.hosts (List.Subset.refl pairs) takes)
  · -- The host that refuses belongs to what is processed: its section has taken a part of its data.
    have allDistinct := formed.hosts
    have regrouped : before ++ (host, data) :: after = (before ++ [(host, data)]) ++ after := by
      simp
    rw [regrouped, List.map_append] at allDistinct
    obtain ⟨distinct, -, apart⟩ := List.nodup_append.1 allDistinct
    have keys : (data.map Prod.fst).Nodup := formed.keys (host, data) (by simp)
    have ends := (group.sectionAt host name).ends_insert keys
    rw [refuses] at ends
    rw [join_of_refused distinct takes refuses]
    refine .stopped before after host data _ fault rfl ?_ ?_ ends ?_ ?_
    · rw [hosts_joined distinct, List.map_append, List.map_singleton]
    · exact insert_of_takesAll distinct (List.subset_append_left before _) takes
    · have last : (host, data) ∈ before ++ [(host, data)] := by simp
      rw [Section.insert_taken _ keys, sectionAt_joined_of_mem distinct last]
    · intro pair member
      exact get?_joined_of_not_mem distinct fun isBefore =>
        apart _ isBefore _ (List.mem_map_of_mem member) rfl

end Join

/-! ## Two joins -/

/-- One join after another. -/
def joinBoth (group : Group) (first : Name) (pairs : List (Name × List (Name × Value)))
    (second : Name) (others : List (Name × List (Name × Value))) :
    Except AggregationError Group := do
  let joined ← (group.join first pairs).toExcept
  (joined.join second others).toExcept

/-- Groups with the same hosts, the same sections and the same entries in the same order, in
whichever order hosts and sections stand. -/
structure SameSections (left right : Group) : Prop where
  hosts : left.hosts.Perm right.hosts
  names : ∀ host, (left.namesAt host).Perm (right.namesAt host)
  sections : ∀ host name, left.sectionAt host name = right.sectionAt host name

section Both

variable {group : Group} {first second : Name}
  {pairs others : List (Name × List (Name × Value))}

/-- What a join leaves alone takes data as it did before. -/
theorem takesAll_joined (differ : second ≠ first) (distinct : (pairs.map Prod.fst).Nodup) :
    (group.joined first pairs).TakesAll second others ↔ group.TakesAll second others := by
  unfold TakesAll
  simp only [sectionAt_joined_of_ne distinct differ]

theorem gained_joined (differ : second ≠ first) (distinct : (pairs.map Prod.fst).Nodup)
    (host : Name) :
    (group.joined first pairs).gained second others host = group.gained second others host := by
  have notGained : second ∉ group.gained first pairs host := by
    unfold gained
    split <;> simp [differ]
  unfold gained
  simp only [namesAt_joined distinct, List.mem_append, notGained, or_false]

theorem joinBoth_eq_ok (differ : second ≠ first) (distinct : (pairs.map Prod.fst).Nodup)
    (othersDistinct : (others.map Prod.fst).Nodup) {result : Group} :
    group.joinBoth first pairs second others = .ok result ↔
      group.TakesAll first pairs ∧ group.TakesAll second others ∧
        result = (group.joined first pairs).joined second others := by
  have joins : group.joinBoth first pairs second others = .ok result ↔
      ∃ joined, (group.join first pairs).toExcept = .ok joined ∧
        (joined.join second others).toExcept = .ok result := Outcome.bind_eq_ok
  rw [joins]
  constructor
  · rintro ⟨joined, joinsFirst, joinsSecond⟩
    obtain ⟨takesFirst, rfl⟩ := (toExcept_join_eq_ok distinct).1 joinsFirst
    obtain ⟨takesSecond, isResult⟩ := (toExcept_join_eq_ok othersDistinct).1 joinsSecond
    exact ⟨takesFirst, (takesAll_joined differ distinct).1 takesSecond, isResult⟩
  · rintro ⟨takesFirst, takesSecond, isResult⟩
    exact ⟨_, (toExcept_join_eq_ok distinct).2 ⟨takesFirst, rfl⟩,
      (toExcept_join_eq_ok othersDistinct).2
        ⟨(takesAll_joined differ distinct).2 takesSecond, isResult⟩⟩

/-- New items of two lists, in either order. -/
theorem perm_append_filter {α : Type} [DecidableEq α] {present left right : List α}
    (leftDistinct : left.Nodup) (rightDistinct : right.Nodup) :
    (present ++ left.filter (· ∉ present) ++
        right.filter (· ∉ present ++ left.filter (· ∉ present))).Perm
      (present ++ right.filter (· ∉ present) ++
        left.filter (· ∉ present ++ right.filter (· ∉ present))) := by
  rw [List.append_assoc, List.append_assoc]
  refine List.Perm.append_left present ?_
  have apart (before after : List α) : ∀ item ∈ before.filter (· ∉ present),
      ∀ other ∈ after.filter (· ∉ present ++ before.filter (· ∉ present)), item ≠ other := by
    rintro item member other isOther rfl
    simp_all
  refine (List.perm_ext_iff_of_nodup ?_ ?_).2 fun item => ?_
  · exact List.nodup_append.2 ⟨leftDistinct.filter _, rightDistinct.filter _, apart left right⟩
  · exact List.nodup_append.2 ⟨rightDistinct.filter _, leftDistinct.filter _, apart right left⟩
  · simp only [List.mem_append, List.mem_filter, decide_eq_true_eq]
    tauto

theorem sameSections_joined (differ : first ≠ second) (distinct : (pairs.map Prod.fst).Nodup)
    (othersDistinct : (others.map Prod.fst).Nodup) :
    SameSections ((group.joined first pairs).joined second others)
      ((group.joined second others).joined first pairs) := by
  constructor
  case hosts =>
    simp only [hosts_joined distinct, hosts_joined othersDistinct]
    exact perm_append_filter distinct othersDistinct
  case names =>
    intro host
    simp only [namesAt_joined distinct, namesAt_joined othersDistinct]
    rw [gained_joined differ.symm distinct, gained_joined differ othersDistinct,
      List.append_assoc, List.append_assoc]
    exact List.perm_append_comm.append_left _
  case sections =>
    intro host name
    by_cases isSecond : name = second
    · subst isSecond
      rw [sectionAt_joined othersDistinct, sectionAt_joined_of_ne distinct differ.symm,
        sectionAt_joined_of_ne distinct differ.symm, sectionAt_joined othersDistinct]
    by_cases isFirst : name = first
    · subst isFirst
      rw [sectionAt_joined_of_ne othersDistinct differ, sectionAt_joined distinct,
        sectionAt_joined distinct, sectionAt_joined_of_ne othersDistinct differ]
    · rw [sectionAt_joined_of_ne othersDistinct isSecond, sectionAt_joined_of_ne distinct isFirst,
        sectionAt_joined_of_ne distinct isFirst, sectionAt_joined_of_ne othersDistinct isSecond]

/-- Two joins under different names, on any group. They go through in one order exactly when they
do in the other, and leave the same hosts and the same sections; only the order of hosts and of
sections may differ. And a join leaves alone what is not its own, and stops at the first host that
refuses, whose section has then taken what comes before the key that it refuses. -/
theorem joins_are_independent (group : Group) (differ : first ≠ second) (formed : IsHostData pairs)
    (othersFormed : IsHostData others) :
    ((∃ result, group.joinBoth first pairs second others = .ok result) ↔
        ∃ result, group.joinBoth second others first pairs = .ok result) ∧
      (∀ left right, group.joinBoth first pairs second others = .ok left →
        group.joinBoth second others first pairs = .ok right → SameSections left right) ∧
      IsFramed first pairs group (group.join first pairs).state ∧
      JoinEnds group first pairs (group.join first pairs).state (group.join first pairs).fault := by
  refine ⟨?_, ?_, isFramed_join formed.hosts, joinEnds_join formed⟩
  · simp only [joinBoth_eq_ok differ.symm formed.hosts othersFormed.hosts,
      joinBoth_eq_ok differ othersFormed.hosts formed.hosts]
    constructor
    · rintro ⟨_, takesFirst, takesSecond, -⟩
      exact ⟨_, takesSecond, takesFirst, rfl⟩
    · rintro ⟨_, takesSecond, takesFirst, -⟩
      exact ⟨_, takesFirst, takesSecond, rfl⟩
  · intro left right leftJoins rightJoins
    obtain ⟨-, -, rfl⟩ := (joinBoth_eq_ok differ.symm formed.hosts othersFormed.hosts).1 leftJoins
    obtain ⟨-, -, rfl⟩ := (joinBoth_eq_ok differ othersFormed.hosts formed.hosts).1 rightJoins
    exact sameSections_joined differ formed.hosts othersFormed.hosts

end Both

/-- A host with one section, and data for two sections of three hosts. -/
def startedGroup : Group :=
  ⟨⟨[("a", ⟨⟨[("cpu", ⟨⟨[("used", .null)]⟩⟩)]⟩⟩)]⟩⟩

def cpuData : List (Name × List (Name × Value)) :=
  [("b", [("used", .null)]), ("a", [("free", .bool true)])]

def memoryData : List (Name × List (Name × Value)) :=
  [("c", [("used", .null)]), ("a", [("used", .bool true)]), ("b", [])]

/-- Data that the second host refuses, after it has taken one entry. -/
def clashingData : List (Name × List (Name × Value)) :=
  [("b", [("used", .null)]), ("a", [("free", .null), ("used", .null), ("idle", .null)]),
    ("c", [("used", .null)])]

theorem joins_are_independent_of_startedGroup :
    IsHostData cpuData ∧ IsHostData memoryData ∧ IsHostData clashingData ∧
      (∃ left right,
        startedGroup.joinBoth "cpu" cpuData "memory" memoryData = .ok left ∧
        startedGroup.joinBoth "memory" memoryData "cpu" cpuData = .ok right ∧
        left.hosts ≠ right.hosts ∧ SameSections left right) ∧
      IsFramed "cpu" clashingData startedGroup (startedGroup.join "cpu" clashingData).state ∧
      JoinEnds startedGroup "cpu" clashingData (startedGroup.join "cpu" clashingData).state
        (some (.duplicateKey "used")) := by
  have formed : IsHostData cpuData := ⟨by decide, by decide⟩
  have othersFormed : IsHostData memoryData := ⟨by decide, by decide⟩
  have clashingFormed : IsHostData clashingData := ⟨by decide, by decide⟩
  have differ : Name.text "cpu" ≠ "memory" := by decide
  obtain ⟨either, same, -⟩ := joins_are_independent startedGroup differ formed othersFormed
  obtain ⟨-, -, framed, ends⟩ :=
    joins_are_independent startedGroup differ clashingFormed othersFormed
  obtain ⟨left, leftJoins⟩ : ∃ result,
      startedGroup.joinBoth "cpu" cpuData "memory" memoryData = .ok result := ⟨_, rfl⟩
  obtain ⟨right, rightJoins⟩ := either.1 ⟨left, leftJoins⟩
  have orders : left.hosts ≠ right.hosts := by
    cases leftJoins
    cases rightJoins
    decide
  exact ⟨formed, othersFormed, clashingFormed,
    ⟨left, right, leftJoins, rightJoins, orders, same left right leftJoins rightJoins⟩,
    framed, ends⟩

end Group

end ClusterAgent
