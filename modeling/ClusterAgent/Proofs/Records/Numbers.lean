import ClusterAgent.Proofs.Records.Leaves
import ClusterAgent.Proofs.Values

/-!
Contract: the numbers of values, as records.

The record of an object has its numbers and its objects in the places where they
stand, in their order, also objects without a number. What stands inside of a
list has no place, and members of the one reserved name are left out.

Owns: places inside of values, the keys of numeric parts, what stands in the same
place of them, the keys that a record is shown with.
Does not own: which numbers are summed up.
-/

namespace ClusterAgent

/-! ## Places inside of values -/

namespace Value

/-- What stands at the end of a path, where every key leads from an object to one of its members,
and from nothing else. -/
def at? : List String → Value → Option Value
  | [], value => some value
  | key :: path, value => value.members?.bind fun members => (members.lookup key).bind (at? path)

def number? : Value → Option Number
  | .number amount => some amount
  | _ => none

end Value

namespace Members

/-- The number at the end of a path. -/
def numberAt? (members : Members) (path : List String) : Option Number :=
  ((Value.object members).at? path).bind Value.number?

/-- The members of the object at the end of a path. -/
def objectAt? (members : Members) (path : List String) : Option Members :=
  ((Value.object members).at? path).bind Value.members?

theorem numberAt?_singleton {members : Members} {key : String} {number : Number}
    (held : members.lookup key = some (.number number)) :
    members.numberAt? [key] = some number := by
  have reached : (Value.object members).at? [key] = (members.lookup key).bind some := rfl
  rw [numberAt?, reached, held]
  rfl

/-- The keys of numbers and objects among members, in their order, but for the one name that cannot
be given to an object. -/
def numericKeys (members : Members) : List String :=
  (members.filter fun member => member.1 ≠ "__proto__" ∧
    (member.2.number?.isSome ∨ member.2.members?.isSome)).map Prod.fst

end Members

/-! ## Numeric parts -/

namespace Tree

theorem numeric?_isSome_iff (value : Value) :
    (numeric? value).isSome ↔ value.number?.isSome ∨ value.members?.isSome := by
  cases value <;> simp [numeric?, Value.number?, Value.members?]

/-- The numeric members of an object are its numbers and its objects, in their order. -/
theorem map_fst_numericMembers (members : Members) :
    (numericMembers members).map Prod.fst = members.numericKeys := by
  unfold Members.numericKeys
  induction members with
  | nil => rfl
  | cons member rest inductionHypothesis =>
    obtain ⟨key, value⟩ := member
    have numeric := numeric?_isSome_iff value
    rw [numericMembers]
    cases read : numeric? value with
    | none =>
      rw [read] at numeric
      rw [List.filter_cons_of_neg (by simp [← numeric]), ← inductionHypothesis]
    | some tree =>
      rw [read] at numeric
      dsimp only
      split
      · rename_i reserved
        rw [List.filter_cons_of_neg (by simp [reserved]), ← inductionHypothesis]
      · rename_i notReserved
        rw [List.filter_cons_of_pos (by simp [notReserved, ← numeric]), List.map_cons,
          List.map_cons, inductionHypothesis]

theorem leaf?_numeric? (value : Value) : (numeric? value).bind leaf? = value.number? := by
  cases value <;> simp [numeric?, leaf?, Value.number?]

theorem keys?_numeric? (value : Value) :
    (numeric? value).bind keys? = value.members?.map Members.numericKeys := by
  cases value <;> simp [numeric?, keys?, Value.members?, map_fst_numericMembers]

theorem lookup_numericMembers {members : Members} (distinct : (members.map Prod.fst).Nodup)
    (key : String) :
    (numericMembers members).lookup key =
      if key = "__proto__" then none else (members.lookup key).bind numeric? := by
  induction members with
  | nil => simp [numericMembers]
  | cons member rest inductionHypothesis =>
    obtain ⟨name, value⟩ := member
    rw [List.map_cons, List.nodup_cons] at distinct
    have later := inductionHypothesis distinct.2
    rw [numericMembers, Table.lookup_entry]
    by_cases wanted : key = name
    -- A member that is not numeric cannot bring a later one to light: no key stands twice.
    · have notLater : rest.lookup key = none := Table.lookup_eq_none_iff.2 (wanted ▸ distinct.1)
      rw [notLater, Option.bind_none, ite_self] at later
      rw [if_pos wanted, Option.bind_some]
      cases numeric? value with
      | none =>
        rw [ite_self]
        exact later
      | some tree =>
        dsimp only
        rw [← wanted]
        split
        · exact later
        · rw [Table.lookup_entry, if_pos rfl]
    · rw [if_neg wanted]
      cases numeric? value with
      | none => exact later
      | some tree =>
        dsimp only
        split
        · exact later
        · rw [Table.lookup_entry, if_neg wanted, later]

/-- What stands in the numeric part of a value stands in the same place of the value. -/
theorem at?_numeric? (path : List String) {value : Value} (canonical : value.IsCanonical) :
    (numeric? value).bind (at? path) =
      if "__proto__" ∈ path then none else (value.at? path).bind numeric? := by
  induction path generalizing value with
  | nil => simp [Tree.at?, Value.at?]
  | cons key path inductionHypothesis =>
    cases value with
    | object members =>
      have looked := lookup_numericMembers canonical.members.nodup key
      have placed : (numeric? (.object members)).bind (at? (key :: path)) =
          ((numericMembers members).lookup key).bind (at? path) := rfl
      have reached : (Value.object members).at? (key :: path) =
          (members.lookup key).bind (Value.at? path) := rfl
      rw [placed, reached, looked]
      by_cases reserved : key = "__proto__"
      · simp [reserved]
      · have others : "__proto__" ∈ key :: path ↔ "__proto__" ∈ path := by
          simp [Ne.symm reserved]
        rw [if_neg reserved, if_congr others rfl rfl]
        cases found : members.lookup key with
        | none => simp
        | some member =>
          exact inductionHypothesis (canonical.of_mem (Table.mem_of_lookup found))
    -- No key leads on from what is no object, a number and a list included.
    | number amount => simp [numeric?, Tree.at?, Value.at?, Value.members?]
    | _ => simp [numeric?, Value.at?, Value.members?]

end Tree

namespace Record

theorem map_fst_toMembers (record : Record Number) :
    record.toMembers.map Prod.fst = record.map Prod.fst := by
  unfold toMembers
  induction record with
  | nil => rfl
  | cons member rest inductionHypothesis =>
    obtain ⟨key, tree⟩ := member
    rw [Tree.membersToValue, List.map_cons, List.map_cons, inductionHypothesis]

theorem keysAt?_numericMembers {members : Members} (canonical : (Value.object members).IsCanonical)
    (path : List String) :
    keysAt? (Tree.numericMembers members) path =
      if "__proto__" ∈ path then none else (members.objectAt? path).map Members.numericKeys := by
  have placed := Tree.at?_numeric? path canonical
  rw [Tree.numeric?, Option.bind_some] at placed
  rw [keysAt?, placed]
  split
  · rfl
  · rw [Option.bind_assoc, Members.objectAt?, Option.map_bind]
    exact congrArg _ (funext Tree.keys?_numeric?)

theorem leafAt?_numericMembers {members : Members} (canonical : (Value.object members).IsCanonical)
    (path : List String) :
    leafAt? (Tree.numericMembers members) path =
      if "__proto__" ∈ path then none else members.numberAt? path := by
  have placed := Tree.at?_numeric? path canonical
  rw [Tree.numeric?, Option.bind_some] at placed
  rw [leafAt?, Tree.leafAt?_eq, placed]
  split
  · rfl
  · rw [Option.bind_assoc, Members.numberAt?]
    exact congrArg _ (funext Tree.leaf?_numeric?)

/-- The numbers that numeric parts of objects have at a path. -/
theorem valuesAt_numericMembers {objects : List Members}
    (canonical : ∀ members ∈ objects, (Value.object members).IsCanonical) {path : List String}
    (unreserved : "__proto__" ∉ path) :
    valuesAt (objects.map Tree.numericMembers) path =
      objects.filterMap fun members => members.numberAt? path := by
  rw [valuesAt, List.filterMap_map]
  apply List.filterMap_congr
  intro members isObject
  rw [Function.comp_apply, leafAt?_numericMembers (canonical members isObject), if_neg unreserved]

end Record

end ClusterAgent
