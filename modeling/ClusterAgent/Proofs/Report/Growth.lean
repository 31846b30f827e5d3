import ClusterAgent.Proofs.Report.Blocks
import ClusterAgent.Proofs.Report.Independence

/-!
Contract: what sections, elements and groups keep when data is put into them.

Data that is put into one section leaves the others as they are, and a key that it
gives nothing to keeps its value. Hosts stay in place, and those that are given data
have a section that has taken it.

Owns: frames of puts, what hosts hold after a put.
Does not own: which data is put, whether a put goes through.
-/

namespace ClusterAgent

namespace Section

theorem get?_insertOne_of_ne {target next : Section} {key other : Name} {value : Value}
    (taken : target.insertOne key value = .ok next) (differ : other ≠ key) :
    next.content.get? other = target.content.get? other := by
  cases refused : target.refuses (key, value) with
  | true =>
    rw [insertOne_of_refused refused] at taken
    cases taken
  | false =>
    rw [insertOne_of_taken refused] at taken
    cases taken
    simp [get?_extended, Ne.symm differ]

/-- An insertion makes no difference to a key that it gives nothing to. -/
theorem get?_insert_of_not_mem {target : Section} {data : List (Name × Value)} {key : Name}
    (absent : key ∉ data.map Prod.fst) :
    (target.insert data).state.content.get? key = target.content.get? key := by
  induction data generalizing target with
  | nil => rfl
  | cons entry rest inductionHypothesis =>
    rw [List.map_cons, List.mem_cons, not_or] at absent
    rw [insert]
    split
    · rename_i next taken
      rw [inductionHypothesis absent.2, get?_insertOne_of_ne taken absent.1]
    · rfl

end Section

/-- Data that is put into one section makes no difference to the others. -/
theorem Element.sectionAt_put_of_ne {element result : Element} {name : String} {other : Name}
    {data : List (Name × Value)} (put : element.put name data = .ok result)
    (differ : other ≠ .text name) : result.sectionAt other = element.sectionAt other := by
  rw [← insert_of_put put, sectionAt, get?_insert_of_ne element data differ, sectionAt]

namespace Group

/-- What joins under a name leave alone: hosts that are there stay in place, each host stands once
if it did, and sections of other names stay as they are. -/
structure IsGrown (name : Name) (before after : Group) : Prop where
  hosts : before.hosts <+: after.hosts
  once : before.hosts.Nodup → after.hosts.Nodup
  sections : ∀ host other, other ≠ name →
    (after.elementAt host).sections.get? other = (before.elementAt host).sections.get? other

theorem IsGrown.trans {name : Name} {before between after : Group}
    (first : IsGrown name before between) (second : IsGrown name between after) :
    IsGrown name before after := by
  constructor
  case hosts => exact first.hosts.trans second.hosts
  case once => exact fun once => second.once (first.once once)
  case sections =>
    intro host other differ
    rw [second.sections host other differ, first.sections host other differ]

theorem IsGrown.sectionAt {name : Name} {before after : Group}
    (grown : IsGrown name before after) {other : Name} (differ : other ≠ name) (host : Name) :
    after.sectionAt host other = before.sectionAt host other := by
  unfold Group.sectionAt Element.sectionAt
  rw [grown.sections host other differ]

section Put

variable {group result : Group} {name : String} {data : Table Name Members}
  (put : group.put name data = .ok result) (distinct : data.keys.Nodup)
include put distinct

theorem eq_joined_of_put : result = group.joined name (data.map Members.named).entries := by
  have joins := Outcome.mapError_eq_ok.1 put
  exact ((toExcept_join_eq_ok (data.map_fst_named ▸ distinct)).1 joins).2

theorem hosts_put : result.hosts = group.hosts ++ data.keys.filter (· ∉ group.hosts) := by
  rw [eq_joined_of_put put distinct, hosts_joined (data.map_fst_named ▸ distinct),
    data.map_fst_named]

theorem isGrown_put : IsGrown name group result := by
  constructor
  case hosts => exact ⟨_, (hosts_put put distinct).symm⟩
  case once =>
    intro once
    rw [hosts_put put distinct, List.nodup_append]
    refine ⟨once, distinct.filter _, ?_⟩
    intro host isHost other isNew same
    have fresh : other ∉ group.hosts := by simpa using (List.mem_filter.1 isNew).2
    exact fresh (same ▸ isHost)
  case sections =>
    intro host other differ
    rw [eq_joined_of_put put distinct]
    exact get?_elementAt_joined_of_ne (data.map_fst_named ▸ distinct) differ host

/-- A host that is given data has a section that has taken it. -/
theorem get?_elementAt_put (host : Name) :
    (result.elementAt host).sections.get? name =
      (data.get? host).elim ((group.elementAt host).sections.get? name) fun members =>
        some ((group.sectionAt host name).insert members.named).state := by
  rw [eq_joined_of_put put distinct, elementAt_joined (data.map_fst_named ▸ distinct),
    data.lookup_named]
  cases data.get? host with
  | none => rfl
  | some members =>
    show ((group.elementAt host).insert name members.named).state.sections.get? name = _
    rw [Element.insert, Table.get?_set, if_pos rfl]
    rfl

theorem sectionAt_put (host : Name) :
    result.sectionAt host name =
      (data.get? host).elim (group.sectionAt host name) fun members =>
        ((group.sectionAt host name).insert members.named).state := by
  rw [sectionAt, Element.sectionAt, get?_elementAt_put put distinct]
  cases data.get? host <;> rfl

end Put

end Group

end ClusterAgent
