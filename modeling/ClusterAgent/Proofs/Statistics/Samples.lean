import ClusterAgent.Cluster.NodeStats
import ClusterAgent.Proofs.Outcome
import ClusterAgent.Proofs.Values

/-!
Contract: samples that are checked and kept.

A sample is checked at every depth, and kept as it was reported at every depth,
but for members that have the one reserved name. A snapshot has the members of
its sample, the time in seconds in front of all that are no array indices.

Owns: values without undefined numbers, values as they are kept, the members of a
snapshot.
Does not own: which of several samples is kept.
-/

namespace ClusterAgent

open Textual (literal)

variable {τ : Type}

/-- Values in which no number, at any depth, is undefined. -/
inductive Value.IsDefined : Value τ → Prop where
  | null : IsDefined .null
  | bool (flag : Bool) : IsDefined (.bool flag)
  | number {number : Number} (notUndefined : number ≠ .nan) : IsDefined (.number number)
  | text (text : τ) : IsDefined (.text text)
  | list {items : List (Value τ)} (each : ∀ item ∈ items, item.IsDefined) : IsDefined (.list items)
  | object {members : Members τ} (each : ∀ member ∈ members, member.2.IsDefined) :
      IsDefined (.object members)

/-- Values that are the same at every depth, down to the order of members, but that members of the
one reserved name are left out of the second. -/
inductive Value.IsKept [DecidableEq τ] [Textual τ] : Value τ → Value τ → Prop where
  | null : IsKept .null .null
  | bool (flag : Bool) : IsKept (.bool flag) (.bool flag)
  | number (number : Number) : IsKept (.number number) (.number number)
  | text (text : τ) : IsKept (.text text) (.text text)
  | list {items kept : List (Value τ)} (each : List.Forall₂ IsKept items kept) :
      IsKept (.list items) (.list kept)
  | object {members kept : Members τ}
      (keys : kept.map Prod.fst = (members.map Prod.fst).filter (· ≠ literal "__proto__"))
      (each : ∀ key value other, members.lookup key = some value → kept.lookup key = some other →
        IsKept value other) : IsKept (.object members) (.object kept)

theorem Members.sizeOf_lt_of_mem {members : Members τ} {member : τ × Value τ}
    (isMember : member ∈ members) : sizeOf member.2 < sizeOf members := by
  have smaller := List.sizeOf_lt_of_mem isMember
  have inside : sizeOf member = 1 + sizeOf member.1 + sizeOf member.2 := rfl
  omega

namespace NodeStats

/-! ## Checking -/

theorem allDefined_eq (items : List (Value τ)) : allDefined items = items.all isDefined := by
  induction items with
  | nil => rfl
  | cons item rest inductionHypothesis => rw [allDefined, inductionHypothesis, List.all_cons]

theorem allMembersDefined_eq (members : Members τ) :
    allMembersDefined members = members.all fun member => isDefined member.2 := by
  induction members with
  | nil => rfl
  | cons member rest inductionHypothesis =>
    rw [allMembersDefined, inductionHypothesis, List.all_cons]

/-- The check of a value goes through every depth of it. -/
theorem isDefined_iff : (value : Value τ) → (isDefined value ↔ value.IsDefined)
  | .null => iff_of_true rfl .null
  | .bool flag => iff_of_true rfl (.bool flag)
  | .text text => iff_of_true rfl (.text text)
  | .number number => by
    rw [isDefined, decide_eq_true_eq]
    refine ⟨.number, fun isDefined => ?_⟩
    cases isDefined with
    | number notUndefined => exact notUndefined
  | .list items => by
    have each : (∀ item ∈ items, isDefined item) ↔ ∀ item ∈ items, item.IsDefined :=
      forall₂_congr fun item _ => isDefined_iff item
    rw [isDefined, allDefined_eq, List.all_eq_true, each]
    refine ⟨.list, fun isDefined => ?_⟩
    cases isDefined with
    | list each => exact each
  | .object members => by
    have each : (∀ member ∈ members, isDefined member.2) ↔ ∀ member ∈ members, member.2.IsDefined :=
      forall₂_congr fun member isMember =>
        have := Members.sizeOf_lt_of_mem isMember
        isDefined_iff member.2
    rw [isDefined, allMembersDefined_eq, List.all_eq_true, each]
    refine ⟨.object, fun isDefined => ?_⟩
    cases isDefined with
    | object each => exact each

/-! ## Keeping -/

variable [DecidableEq τ] [Textual τ]

theorem keptItems_eq (items : List (Value τ)) : keptItems items = items.map kept := by
  induction items with
  | nil => rfl
  | cons item rest inductionHypothesis => rw [keptItems, inductionHypothesis, List.map_cons]

theorem keptMembers_eq (members : Members τ) :
    keptMembers members = (members.filter fun member => member.1 ≠ literal "__proto__").map
      fun member => (member.1, kept member.2) := by
  induction members with
  | nil => rfl
  | cons member rest inductionHypothesis =>
    obtain ⟨key, value⟩ := member
    rw [keptMembers, inductionHypothesis]
    by_cases reserved : key = literal "__proto__" <;> simp [reserved]

theorem map_fst_keptMembers (members : Members τ) :
    (keptMembers members).map Prod.fst =
      (members.map Prod.fst).filter (· ≠ literal "__proto__") := by
  rw [keptMembers_eq, List.map_map, List.filter_map]
  rfl

theorem lookup_keptMembers (members : Members τ) (key : τ) :
    (keptMembers members).lookup key =
      if key = literal "__proto__" then none else (members.lookup key).map kept := by
  induction members with
  | nil => simp [keptMembers]
  | cons member rest inductionHypothesis =>
    obtain ⟨name, value⟩ := member
    rw [keptMembers, Table.lookup_entry]
    by_cases reserved : name = literal "__proto__"
    · rw [if_pos reserved, inductionHypothesis]
      split
      · rfl
      · rw [if_neg (by rwa [reserved])]
    · rw [if_neg reserved, Table.lookup_entry, inductionHypothesis]
      by_cases wanted : key = name
      · simp [wanted, reserved]
      · simp [wanted]

/-- A value is kept as it is at every depth. -/
theorem isKept_kept : (value : Value τ) → value.IsKept (kept value)
  | .null => .null
  | .bool flag => .bool flag
  | .number number => .number number
  | .text text => .text text
  | .list items => by
    rw [kept, keptItems_eq]
    refine .list (List.forall₂_map_right_iff.2 (List.forall₂_same.2 fun item _ => ?_))
    exact isKept_kept item
  | .object members => by
    rw [kept]
    refine .object (map_fst_keptMembers members) fun key value other reported held => ?_
    have smaller : sizeOf value < sizeOf members :=
      Members.sizeOf_lt_of_mem (Table.mem_of_lookup reported)
    rw [lookup_keptMembers, reported] at held
    split at held
    · cases held
    · cases held
      exact isKept_kept value

theorem isCanonical_keptMembers {members : Members τ} (canonical : Members.IsCanonical members) :
    Members.IsCanonical (keptMembers members) := by
  rw [Members.IsCanonical, map_fst_keptMembers]
  exact canonical.sublist List.filter_sublist

theorem isCanonical_kept : {value : Value τ} → value.IsCanonical → (kept value).IsCanonical
  | .null, _ => .null
  | .bool flag, _ => .bool flag
  | .number number, _ => .number number
  | .text text, _ => .text text
  | .list items, .list each => by
    rw [kept, keptItems_eq]
    exact .list (List.forall_mem_map.2 fun item member => isCanonical_kept (each item member))
  | .object members, .object canonical each => by
    rw [kept]
    refine .object (isCanonical_keptMembers canonical) ?_
    rw [keptMembers_eq, List.forall_mem_map]
    exact fun member isMember => isCanonical_kept (each member (List.mem_of_mem_filter isMember))

/-! ## Snapshots -/

theorem indexKey?_time {τ : Type} [Textual τ] : indexKey? (literal "timestamp" : τ) = none :=
  indexKey?_literal (by simp)

theorem indexKey?_reserved {τ : Type} [Textual τ] : indexKey? (literal "__proto__" : τ) = none :=
  indexKey?_literal (by simp)

/-- What a snapshot of a sample holds: the members of the sample, each as it is kept and in its
place, but that the time in seconds is the first of those whose key is no array index. -/
structure IsSnapshotOf (sample : Members τ) (seconds : Int) (snapshot : Members τ) : Prop where
  keys : snapshot.map Prod.fst =
    (sample.map Prod.fst).filter (fun key => (indexKey? key).isSome) ++
      literal "timestamp" :: (Members.plainKeys sample).filter fun key =>
        key ≠ literal "timestamp" ∧ key ≠ literal "__proto__"
  time : snapshot.lookup (literal "timestamp") = some (.number (.ofInt seconds))
  others : ∀ key value other, key ≠ literal "timestamp" → sample.lookup key = some value →
    snapshot.lookup key = some other → value.IsKept other

/-- The members of a sample but for its time. -/
def besidesTime (sample : Members τ) : Members τ :=
  sample.filter fun member => member.1 ≠ literal "timestamp"

theorem lookup_besidesTime (sample : Members τ) {key : τ} (isOther : key ≠ literal "timestamp") :
    (besidesTime sample).lookup key = sample.lookup key := by
  unfold besidesTime
  induction sample with
  | nil => rfl
  | cons member rest inductionHypothesis =>
    obtain ⟨name, value⟩ := member
    by_cases isTime : name = literal "timestamp"
    · rw [List.filter_cons_of_neg (by simpa using isTime), inductionHypothesis,
        Table.lookup_entry, if_neg (isTime ▸ isOther)]
    · rw [List.filter_cons_of_pos (by simpa using isTime), Table.lookup_entry, Table.lookup_entry,
        inductionHypothesis]

theorem lookup_besidesTime_time (sample : Members τ) :
    (besidesTime sample).lookup (literal "timestamp") = none := by
  rw [List.lookup_eq_none_iff]
  intro member isMember
  have isOther := (List.mem_filter.1 isMember).2
  rw [decide_eq_true_eq] at isOther
  simpa using isOther.symm

/-- The members of a sample but for its time, as they are kept. -/
def keptBesides (sample : Members τ) : Members τ := keptMembers (besidesTime sample)

/-- The snapshot of a sample that was taken at a time in seconds. -/
def snapshotOf (sample : Members τ) (seconds : Int) : Members τ :=
  Members.overlay [(literal "timestamp", .number (.ofInt seconds))] (keptBesides sample)

theorem map_fst_keptBesides (sample : Members τ) : (keptBesides sample).map Prod.fst =
    (sample.map Prod.fst).filter fun key =>
      key ≠ literal "timestamp" ∧ key ≠ literal "__proto__" := by
  rw [keptBesides, map_fst_keptMembers, besidesTime, List.filter_map, List.filter_map,
    List.filter_filter]
  congr 1
  apply List.filter_congr
  intro member _
  simp [Bool.and_comm]

section Snapshot

variable {sample : Members τ} (canonical : Members.IsCanonical sample)
include canonical

theorem isCanonical_keptBesides : Members.IsCanonical (keptBesides sample) :=
  isCanonical_keptMembers (canonical.sublist (List.filter_sublist.map Prod.fst))

theorem snapshotOf_eq (seconds : Int) :
    snapshotOf sample seconds =
      Members.indexed (keptBesides sample) ++
        (literal "timestamp", .number (.ofInt seconds)) :: Members.plain (keptBesides sample) := by
  apply Members.overlay_singleton indexKey?_time (isCanonical_keptBesides canonical)
  rw [map_fst_keptBesides]
  simp

theorem map_fst_snapshotOf (seconds : Int) :
    (snapshotOf sample seconds).map Prod.fst =
      (sample.map Prod.fst).filter (fun key => (indexKey? key).isSome) ++
        literal "timestamp" :: (Members.plainKeys sample).filter fun key =>
          key ≠ literal "timestamp" ∧ key ≠ literal "__proto__" := by
  have indexedKeys : (Members.indexed (keptBesides sample)).map Prod.fst =
      (sample.map Prod.fst).filter fun key => (indexKey? key).isSome := by
    change (List.filter ((fun key => (indexKey? key).isSome) ∘ Prod.fst) _).map Prod.fst = _
    rw [← List.filter_map, map_fst_keptBesides, List.filter_filter]
    apply List.filter_congr
    intro key _
    -- Neither the time nor the reserved name is an index key.
    by_cases isIndex : (indexKey? key).isSome
    · have notTime : key ≠ literal "timestamp" := by
        rintro rfl
        simp [indexKey?_time] at isIndex
      have notReserved : key ≠ literal "__proto__" := by
        rintro rfl
        simp [indexKey?_reserved] at isIndex
      simp [isIndex, notTime, notReserved]
    · simp [isIndex]
  have plainKeys : (Members.plain (keptBesides sample)).map Prod.fst =
      (Members.plainKeys sample).filter fun key =>
        key ≠ literal "timestamp" ∧ key ≠ literal "__proto__" := by
    change (List.filter ((fun key => (indexKey? key).isNone) ∘ Prod.fst) _).map Prod.fst = _
    rw [← List.filter_map, map_fst_keptBesides, Members.plainKeys, List.filter_filter,
      List.filter_filter]
    exact List.filter_congr fun key _ => Bool.and_comm _ _
  rw [snapshotOf_eq canonical, List.map_append, List.map_cons, indexedKeys, plainKeys]

theorem lookup_snapshotOf (seconds : Int) (key : τ) :
    (snapshotOf sample seconds).lookup key =
      if key = literal "timestamp" then some (.number (.ofInt seconds))
      else (keptBesides sample).lookup key := by
  rw [snapshotOf, Members.lookup_overlay,
    Table.lookup_reverse (isCanonical_keptBesides canonical).nodup, Table.lookup_entry]
  split
  · rename_i isTime
    rw [isTime, keptBesides, lookup_keptMembers, lookup_besidesTime_time, Option.map_none, ite_self,
      Option.none_or]
  · exact Option.or_none

theorem isSnapshotOf_snapshotOf (seconds : Int) :
    IsSnapshotOf sample seconds (snapshotOf sample seconds) where
  keys := map_fst_snapshotOf canonical seconds
  time := by rw [lookup_snapshotOf canonical, if_pos rfl]
  others key value other isOther reported held := by
    rw [lookup_snapshotOf canonical, if_neg isOther, keptBesides, lookup_keptMembers,
      lookup_besidesTime sample isOther, reported] at held
    split at held
    · cases held
    · cases held
      exact isKept_kept value

end Snapshot

theorem isCanonical_snapshotOf {sample : Members τ}
    (isCanonical : (Value.object sample).IsCanonical) (seconds : Int) :
    (Value.object (snapshotOf sample seconds)).IsCanonical := by
  have besides : (Value.object (besidesTime sample)).IsCanonical :=
    .object (isCanonical.members.sublist (List.filter_sublist.map Prod.fst))
      fun member isMember => isCanonical.of_mem (List.mem_of_mem_filter isMember)
  have others : (Value.object (keptBesides sample)).IsCanonical := isCanonical_kept besides
  refine .object (Members.isCanonical_overlay _ (Members.isCanonical_singleton _ _)) ?_
  intro member isMember
  rcases Members.mem_overlay isMember with isTime | isOther
  · rw [List.mem_singleton.1 isTime]
    exact .number _
  · exact others.of_mem isOther

end NodeStats

end ClusterAgent
