/-!
Contract: tables whose keys stand in the order in which they were first given.

Owns: look-up, and giving a key a value, in place if the key is present.
Does not own: the order of object members, which is canonical instead.
-/

namespace ClusterAgent

structure Table (κ α : Type) where
  entries : List (κ × α)

namespace Table

variable {κ α β : Type}

def empty : Table κ α := ⟨[]⟩

instance : Inhabited (Table κ α) := ⟨empty⟩

def keys (table : Table κ α) : List κ := table.entries.map Prod.fst

def values (table : Table κ α) : List α := table.entries.map Prod.snd

def size (table : Table κ α) : Nat := table.entries.length

def map (f : α → β) (table : Table κ α) : Table κ β :=
  ⟨table.entries.map fun (key, value) => (key, f value)⟩

@[simp] theorem keys_map (f : α → β) (table : Table κ α) : (table.map f).keys = table.keys := by
  simp [map, keys, Function.comp_def]

variable [DecidableEq κ]

def get? (table : Table κ α) (key : κ) : Option α := table.entries.lookup key

/-- Gives a key a value: a present key keeps its place, a new one goes to the end. -/
def setEntry (key : κ) (value : α) : List (κ × α) → List (κ × α)
  | [] => [(key, value)]
  | (other, held) :: rest =>
    if other = key then (key, value) :: rest else (other, held) :: setEntry key value rest

def set (table : Table κ α) (key : κ) (value : α) : Table κ α :=
  ⟨setEntry key value table.entries⟩

def ofList (pairs : List (κ × α)) : Table κ α :=
  pairs.foldl (fun table (key, value) => table.set key value) empty

@[simp] theorem get?_empty (key : κ) : (empty : Table κ α).get? key = none := rfl

theorem lookup_entry (key other : κ) (value : α) (rest : List (κ × α)) :
    ((key, value) :: rest).lookup other =
      if other = key then some value else rest.lookup other := by
  by_cases wanted : other = key
  · simp [wanted]
  · have missed : (other == key) = false := by simpa using wanted
    simp [List.lookup_cons, missed, wanted]

theorem lookup_setEntry (key other : κ) (value : α) (entries : List (κ × α)) :
    (setEntry key value entries).lookup other =
      if other = key then some value else entries.lookup other := by
  induction entries with
  | nil => simp [setEntry, lookup_entry]
  | cons entry rest ih =>
    obtain ⟨name, held⟩ := entry
    by_cases same : name = key
    · by_cases wanted : other = key <;> simp [setEntry, lookup_entry, same, wanted]
    · by_cases wanted : other = name
      · simp [setEntry, same, wanted]
      · simp [setEntry, lookup_entry, same, wanted, ih]

theorem map_fst_setEntry (key : κ) (value : α) (entries : List (κ × α)) :
    (setEntry key value entries).map Prod.fst =
      if key ∈ entries.map Prod.fst then entries.map Prod.fst
      else entries.map Prod.fst ++ [key] := by
  induction entries with
  | nil => simp [setEntry]
  | cons entry rest ih =>
    obtain ⟨name, held⟩ := entry
    by_cases same : name = key
    · simp [setEntry, same]
    · by_cases later : key ∈ rest.map Prod.fst <;>
        simp_all [setEntry, Ne.symm same]

/-- Look-up after giving a key a value. -/
theorem get?_set (table : Table κ α) (key other : κ) (value : α) :
    (table.set key value).get? other = if other = key then some value else table.get? other :=
  lookup_setEntry key other value table.entries

theorem keys_set (table : Table κ α) (key : κ) (value : α) :
    (table.set key value).keys = if key ∈ table.keys then table.keys else table.keys ++ [key] :=
  map_fst_setEntry key value table.entries

/-- Keys that stand once go on standing once. -/
theorem nodup_keys_set
    (table : Table κ α)
    (key : κ)
    (value : α)
    (distinct : table.keys.Nodup) :
    (table.set key value).keys.Nodup := by
  rw [keys_set]
  split
  · exact distinct
  · rename_i absent
    exact List.nodup_append.2 ⟨distinct, by simp, by
      intro name member other isKey equal
      rw [List.mem_singleton] at isKey
      exact absent (isKey ▸ equal ▸ member)⟩

end Table

end ClusterAgent
