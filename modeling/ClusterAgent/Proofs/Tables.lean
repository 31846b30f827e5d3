import ClusterAgent.Table
import Mathlib.Data.List.Nodup
import Mathlib.Data.List.Induction

/-!
Contract: tables that are filled from pairs.

A key stands at the place where it was first given, and holds what it was given
last. Where giving a value looks at the value before it, each key looks at its
own only.

Owns: the keys and the look-up of a table filled from pairs.
Does not own: what keys and values mean.
-/

namespace ClusterAgent

section Distinct

variable {α : Type} [DecidableEq α]

/-- Dropping repetitions and dropping items can be done in either order. -/
theorem eraseDups_filter (keep : α → Bool) :
    ∀ items : List α, (items.filter keep).eraseDups = items.eraseDups.filter keep
  | [] => rfl
  | first :: rest => by
    have later := eraseDups_filter keep (rest.filter fun other => !other == first)
    rw [List.eraseDups_cons]
    by_cases kept : keep first
    · rw [List.filter_cons_of_pos kept, List.filter_cons_of_pos kept, List.eraseDups_cons,
        ← later, List.filter_filter, List.filter_filter]
      simp only [Bool.and_comm]
    · rw [List.filter_cons_of_neg kept, List.filter_cons_of_neg kept, ← later,
        List.filter_filter]
      congr 1
      apply List.filter_congr
      intro other _
      by_cases same : other = first
      · simp [same, kept]
      · simp [same]
termination_by items => items.length
decreasing_by exact Nat.lt_succ_of_le (List.length_filter_le _ _)

theorem nodup_eraseDups : ∀ items : List α, items.eraseDups.Nodup
  | [] => List.nodup_nil
  | first :: rest => by
    rw [List.eraseDups_cons, List.nodup_cons]
    exact ⟨by simp [List.mem_eraseDups], nodup_eraseDups _⟩
termination_by items => items.length
decreasing_by exact Nat.lt_succ_of_le (List.length_filter_le _ _)

theorem eraseDups_eq_self {items : List α} (distinct : items.Nodup) :
    items.eraseDups = items := by
  induction items with
  | nil => rfl
  | cons first rest inductionHypothesis =>
    obtain ⟨fresh, restDistinct⟩ := List.nodup_cons.1 distinct
    rw [List.eraseDups_cons, List.filter_eq_self.2, inductionHypothesis restDistinct]
    intro other member
    have differs : other ≠ first := fun same => fresh (same ▸ member)
    simpa using differs

theorem eraseDups_ne_nil {items : List α} (nonempty : items ≠ []) : items.eraseDups ≠ [] := by
  obtain ⟨item, member⟩ := List.exists_mem_of_ne_nil items nonempty
  exact List.ne_nil_of_mem (List.mem_eraseDups.2 member)

theorem eraseDups_eraseDups_append (left right : List α) :
    (left.eraseDups ++ right).eraseDups = (left ++ right).eraseDups := by
  rw [List.eraseDups_append, List.eraseDups_append, eraseDups_eq_self (nodup_eraseDups left)]
  simp [List.removeAll, List.mem_eraseDups]

end Distinct

theorem fst_ne_of_not_mem {κ α : Type} {pairs : List (κ × α)} {key : κ}
    (fresh : key ∉ pairs.map Prod.fst) : ∀ pair ∈ pairs, pair.1 ≠ key := by
  rintro ⟨other, value⟩ member rfl
  exact fresh (List.mem_map_of_mem member)

namespace Table

variable {κ α β : Type}

@[simp] theorem keys_empty : (empty : Table κ α).keys = [] := rfl

theorem values_ne_nil {table : Table κ α} (nonempty : table.keys ≠ []) : table.values ≠ [] := by
  rw [values, Ne, List.map_eq_nil_iff]
  rw [keys, Ne, List.map_eq_nil_iff] at nonempty
  exact nonempty

variable [DecidableEq κ]

theorem mem_keys_iff {table : Table κ α} {key : κ} :
    key ∈ table.keys ↔ ∃ value, table.get? key = some value := by
  obtain ⟨entries⟩ := table
  simp only [keys, get?]
  induction entries with
  | nil => simp
  | cons entry rest inductionHypothesis =>
    obtain ⟨name, held⟩ := entry
    rw [lookup_entry, List.map_cons, List.mem_cons, inductionHypothesis]
    by_cases same : key = name <;> simp [same]

theorem get?_eq_none_iff {table : Table κ α} {key : κ} :
    table.get? key = none ↔ key ∉ table.keys := by
  rw [mem_keys_iff]
  cases table.get? key <;> simp

theorem lookup_eq_none_iff {entries : List (κ × α)} {key : κ} :
    entries.lookup key = none ↔ key ∉ entries.map Prod.fst :=
  (get?_eq_none_iff : (mk entries).get? key = none ↔ _)

theorem mem_of_lookup {entries : List (κ × α)} {key : κ} {value : α}
    (found : entries.lookup key = some value) : (key, value) ∈ entries := by
  induction entries with
  | nil => cases found
  | cons entry rest inductionHypothesis =>
    obtain ⟨name, held⟩ := entry
    rw [lookup_entry] at found
    by_cases same : key = name
    · rw [if_pos same] at found
      cases found
      simp [same]
    · rw [if_neg same] at found
      exact List.mem_cons_of_mem _ (inductionHypothesis found)

theorem mem_entries_of_get? {table : Table κ α} {key : κ} {value : α}
    (found : table.get? key = some value) : (key, value) ∈ table.entries :=
  mem_of_lookup found

theorem get?_of_mem_entries {table : Table κ α} (distinct : table.keys.Nodup) {key : κ} {value : α}
    (member : (key, value) ∈ table.entries) : table.get? key = some value := by
  obtain ⟨entries⟩ := table
  simp only [get?, keys] at distinct member ⊢
  induction entries with
  | nil => simp at member
  | cons entry rest inductionHypothesis =>
    obtain ⟨name, held⟩ := entry
    rw [List.map_cons, List.nodup_cons] at distinct
    rw [lookup_entry]
    rcases List.mem_cons.1 member with isFirst | later
    · cases isFirst
      rw [if_pos rfl]
    · have differs : key ≠ name := fst_ne_of_not_mem distinct.1 (key, value) later
      rw [if_neg differs]
      exact inductionHypothesis distinct.2 later

/-- The values of distinct keys are what the keys are looked up as. -/
theorem values_eq_filterMap {table : Table κ α} (distinct : table.keys.Nodup) :
    table.values = table.keys.filterMap table.get? := by
  rw [keys, List.filterMap_map, values, ← List.filterMap_eq_map]
  exact List.filterMap_congr fun entry isEntry => (get?_of_mem_entries distinct isEntry).symm

/-- Among distinct keys, it makes no difference from which end a key is looked up. -/
theorem lookup_reverse {entries : List (κ × α)} (distinct : (entries.map Prod.fst).Nodup)
    (key : κ) : entries.reverse.lookup key = entries.lookup key := by
  have reverseDistinct : (Table.mk entries.reverse).keys.Nodup := by
    rw [keys, List.map_reverse, List.nodup_reverse]
    exact distinct
  change (Table.mk entries.reverse).get? key = (Table.mk entries).get? key
  cases found : (Table.mk entries).get? key with
  | some value =>
    exact get?_of_mem_entries reverseDistinct (List.mem_reverse.2 (mem_entries_of_get? found))
  | none =>
    rw [get?_eq_none_iff] at found ⊢
    rwa [keys, List.map_reverse, List.mem_reverse]

theorem get?_map (f : α → β) (table : Table κ α) (key : κ) :
    (table.map f).get? key = (table.get? key).map f := by
  obtain ⟨entries⟩ := table
  simp only [get?, map]
  induction entries with
  | nil => rfl
  | cons entry rest inductionHypothesis =>
    obtain ⟨name, held⟩ := entry
    rw [List.map_cons, lookup_entry, lookup_entry, inductionHypothesis]
    split <;> rfl

theorem mem_setEntry {key : κ} {value : α} {entries : List (κ × α)} {entry : κ × α}
    (member : entry ∈ setEntry key value entries) : entry = (key, value) ∨ entry ∈ entries := by
  induction entries with
  | nil => exact .inl (List.mem_singleton.1 member)
  | cons first rest inductionHypothesis =>
    obtain ⟨name, held⟩ := first
    unfold setEntry at member
    split_ifs at member with same
    · rcases List.mem_cons.1 member with isGiven | later
      · exact .inl isGiven
      · exact .inr (List.mem_cons_of_mem _ later)
    · rcases List.mem_cons.1 member with isFirst | later
      · exact .inr (isFirst ▸ List.mem_cons_self)
      · exact (inductionHypothesis later).imp_right (List.mem_cons_of_mem _)

/-- A key that is absent goes to the end. -/
theorem set_absent {table : Table κ α} {key : κ} (absent : key ∉ table.keys) (value : α) :
    table.set key value = ⟨table.entries ++ [(key, value)]⟩ := by
  obtain ⟨entries⟩ := table
  simp only [set, keys] at absent ⊢
  congr 1
  induction entries with
  | nil => rfl
  | cons entry rest inductionHypothesis =>
    obtain ⟨name, held⟩ := entry
    rw [List.map_cons, List.mem_cons, not_or] at absent
    rw [setEntry, if_neg (Ne.symm absent.1), inductionHypothesis absent.2]
    rfl

/-- What a key is given last replaces what it was given before. -/
theorem set_set (table : Table κ α) (key : κ) (before after : α) :
    (table.set key before).set key after = table.set key after := by
  obtain ⟨entries⟩ := table
  simp only [set]
  congr 1
  induction entries with
  | nil => simp [setEntry]
  | cons entry rest inductionHypothesis =>
    obtain ⟨name, held⟩ := entry
    by_cases same : name = key
    · simp [setEntry, same]
    · simp [setEntry, same, inductionHypothesis]

section Fold

variable (update : Option α → β → α)

/-- The keys after pairs are given: new ones follow in the order in which they first come. -/
theorem keys_foldl_set (pairs : List (κ × β)) (table : Table κ α) :
    (pairs.foldl (fun held pair => held.set pair.1 (update (held.get? pair.1) pair.2))
        table).keys =
      table.keys ++ (pairs.map Prod.fst).eraseDups.filter (· ∉ table.keys) := by
  induction pairs generalizing table with
  | nil => simp
  | cons pair rest inductionHypothesis =>
    obtain ⟨key, given⟩ := pair
    rw [List.foldl_cons, inductionHypothesis, keys_set, List.map_cons, List.eraseDups_cons,
      eraseDups_filter]
    by_cases present : key ∈ table.keys
    · rw [if_pos present, List.filter_cons_of_neg (by simpa using present), List.filter_filter]
      congr 1
      apply List.filter_congr
      intro other _
      by_cases same : other = key
      · simp [same, present]
      · simp [same]
    · rw [if_neg present, List.filter_cons_of_pos (by simpa using present), List.append_assoc,
        List.singleton_append, List.filter_filter]
      congr 2
      apply List.filter_congr
      intro other _
      by_cases same : other = key <;> simp [List.mem_append, same]

/-- Look-up after pairs with distinct keys are given. -/
theorem get?_foldl_set (pairs : List (κ × β)) (table : Table κ α)
    (distinct : (pairs.map Prod.fst).Nodup) (key : κ) :
    (pairs.foldl (fun held pair => held.set pair.1 (update (held.get? pair.1) pair.2))
        table).get? key =
      (pairs.lookup key).elim (table.get? key) fun given =>
        some (update (table.get? key) given) := by
  induction pairs generalizing table with
  | nil => rfl
  | cons pair rest inductionHypothesis =>
    obtain ⟨name, given⟩ := pair
    rw [List.map_cons, List.nodup_cons] at distinct
    rw [List.foldl_cons, inductionHypothesis _ distinct.2, lookup_entry, get?_set]
    by_cases same : key = name
    · have notLater : rest.lookup key = none := lookup_eq_none_iff.2 (same ▸ distinct.1)
      rw [notLater, if_pos same, if_pos same, same]
      rfl
    · rw [if_neg same, if_neg same]

/-- Look-up after pairs are given, whichever keys come again: what a key holds goes through the
values that are given for it. -/
theorem get?_foldl_set_all (pairs : List (κ × β)) (table : Table κ α) (key : κ) :
    (pairs.foldl (fun held pair => held.set pair.1 (update (held.get? pair.1) pair.2))
        table).get? key =
      ((pairs.filter (·.1 = key)).map Prod.snd).foldl (fun held given => some (update held given))
        (table.get? key) := by
  induction pairs generalizing table with
  | nil => rfl
  | cons pair rest inductionHypothesis =>
    obtain ⟨name, given⟩ := pair
    rw [List.foldl_cons, inductionHypothesis, get?_set]
    by_cases same : name = key
    · subst same
      simp
    · simp [same, Ne.symm same]

end Fold

theorem keys_ofList (pairs : List (κ × α)) :
    (ofList pairs).keys = (pairs.map Prod.fst).eraseDups := by
  have folded := keys_foldl_set (fun _ given => given) pairs (empty : Table κ α)
  rw [keys_empty, List.nil_append] at folded
  rw [ofList, folded]
  exact List.filter_eq_self.2 fun _ _ => by simp

theorem nodup_keys_ofList (pairs : List (κ × α)) : (ofList pairs).keys.Nodup := by
  rw [keys_ofList]
  exact nodup_eraseDups _

/-- A key of a table filled from pairs holds what it was given last. -/
theorem get?_ofList (pairs : List (κ × α)) (key : κ) :
    (ofList pairs).get? key = pairs.reverse.lookup key := by
  induction pairs using List.reverseRecOn with
  | nil => rfl
  | append_singleton pairs pair inductionHypothesis =>
    obtain ⟨name, value⟩ := pair
    have appended : ofList (pairs ++ [(name, value)]) = (ofList pairs).set name value := by
      simp [ofList]
    rw [appended, get?_set, inductionHypothesis, List.reverse_append, List.reverse_singleton,
      List.singleton_append, lookup_entry]

/-- Look-up among keys that each come with a value of their own, where they have one. -/
theorem lookup_graph (value? : κ → Option α) (names : List κ) (key : κ) :
    (names.filterMap fun name => (value? name).map (name, ·)).lookup key =
      if key ∈ names then value? key else none := by
  induction names with
  | nil => rfl
  | cons name rest inductionHypothesis =>
    rw [List.filterMap_cons]
    cases found : value? name with
    | none =>
      rw [Option.map_none, inductionHypothesis]
      by_cases same : key = name
      · simp [same, found]
      · simp [same]
    | some value =>
      rw [Option.map_some, lookup_entry, inductionHypothesis]
      by_cases same : key = name
      · simp [same, found]
      · simp [same]

theorem get?_ofList_graph (value? : κ → Option α) (names : List κ) (key : κ) :
    (ofList (names.filterMap fun name => (value? name).map (name, ·))).get? key =
      if key ∈ names then value? key else none := by
  rw [get?_ofList, ← List.filterMap_reverse, lookup_graph]
  simp only [List.mem_reverse]

omit [DecidableEq κ] in
theorem map_fst_graph (value? : κ → Option α) (names : List κ) :
    (names.filterMap fun name => (value? name).map (name, ·)).map Prod.fst =
      names.filter fun name => (value? name).isSome := by
  induction names with
  | nil => rfl
  | cons name rest inductionHypothesis =>
    cases found : value? name <;> simp [found, inductionHypothesis]

theorem keys_ofList_graph (value? : κ → Option α) (names : List κ) :
    (ofList (names.filterMap fun name => (value? name).map (name, ·))).keys =
      names.eraseDups.filter fun name => (value? name).isSome := by
  rw [keys_ofList, map_fst_graph, eraseDups_filter]

/-- The parts of the values that have one, under the keys of these values. -/
def filterMap (part? : α → Option β) (table : Table κ α) : Table κ β :=
  ⟨table.entries.filterMap fun entry => (part? entry.2).map (entry.1, ·)⟩

section FilterMap

variable {part? : α → Option β} {table : Table κ α} (distinct : table.keys.Nodup)
include distinct

theorem filterMap_eq_graph : table.filterMap part? =
    ⟨table.keys.filterMap fun key => ((table.get? key).bind part?).map (key, ·)⟩ := by
  rw [keys, List.filterMap_map, filterMap]
  congr 1
  apply List.filterMap_congr
  intro entry isEntry
  show (part? entry.2).map (entry.1, ·) = ((table.get? entry.1).bind part?).map (entry.1, ·)
  rw [get?_of_mem_entries distinct isEntry, Option.bind_some]

theorem keys_filterMap : (table.filterMap part?).keys =
    table.keys.filter fun key => ((table.get? key).bind part?).isSome := by
  rw [filterMap_eq_graph distinct]
  exact map_fst_graph _ table.keys

theorem get?_filterMap (key : κ) :
    (table.filterMap part?).get? key = (table.get? key).bind part? := by
  rw [filterMap_eq_graph distinct, get?]
  refine (lookup_graph _ table.keys key).trans ?_
  split
  · rfl
  · rename_i absent
    rw [get?_eq_none_iff.2 absent, Option.bind_none]

end FilterMap

/-- A table that gives each of some keys a value of its own. -/
def tabulate (names : List κ) (value : κ → α) : Table κ α :=
  ⟨names.map fun name => (name, value name)⟩

omit [DecidableEq κ] in
@[simp] theorem keys_tabulate (names : List κ) (value : κ → α) :
    (tabulate names value).keys = names := by
  simp [keys, tabulate, Function.comp_def]

omit [DecidableEq κ] in
theorem values_tabulate (names : List κ) (value : κ → α) :
    (tabulate names value).values = names.map value := by
  simp [values, tabulate, Function.comp_def]

theorem get?_tabulate (names : List κ) (value : κ → α) (key : κ) :
    (tabulate names value).get? key = if key ∈ names then some (value key) else none := by
  have looked := lookup_graph (fun name => some (value name)) names key
  simpa [get?, tabulate, List.filterMap_eq_map'] using looked

end Table

end ClusterAgent
