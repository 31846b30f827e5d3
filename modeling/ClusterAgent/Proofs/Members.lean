import ClusterAgent.Proofs.Tables
import ClusterAgent.Value
import Mathlib.Data.Nat.Digits.Defs
import Mathlib.Data.List.Induction
import Mathlib.Data.List.Nodup

/-!
Contract: the canonical order of object members.

Index keys stand in ascending order in front of all others, and no key stands
twice. Members that are given one after the other are always in that order, the
keys that are no indices as they are first given.

Owns: what an index key spells, the canonical order, giving members, overlays.
Does not own: which members an object has.
-/

namespace ClusterAgent

/-! ## Index keys -/

theorem digitsValue_append_singleton (digits : List Char) (last : Char) :
    digitsValue (digits ++ [last]) = 10 * digitsValue digits + (last.toNat - 48) := by
  simp [digitsValue]

theorem digitsValue_eq_ofDigits (digits : List Char) :
    digitsValue digits = Nat.ofDigits 10 (digits.map fun digit => digit.toNat - 48).reverse := by
  induction digits using List.reverseRecOn with
  | nil => rfl
  | append_singleton digits last inductionHypothesis =>
    rw [digitsValue_append_singleton, inductionHypothesis, List.map_append, List.reverse_append,
      List.map_singleton, List.reverse_singleton, List.singleton_append, Nat.ofDigits_cons]
    omega

theorem digit_bounds {digit : Char} (isDigit : digit.isDigit) :
    48 ≤ digit.toNat ∧ digit.toNat ≤ 57 := by
  simpa [Char.isDigit, UInt32.le_iff_toNat_le] using isDigit

/-- Digits without a leading zero are told by their value. -/
theorem digits_digitsValue {digits : List Char} (allDigits : ∀ digit ∈ digits, digit.isDigit)
    (noZero : digits.head? ≠ some '0') :
    Nat.digits 10 (digitsValue digits) = (digits.map fun digit => digit.toNat - 48).reverse := by
  rw [digitsValue_eq_ofDigits]
  apply Nat.digits_ofDigits 10 (by decide)
  · intro value member
    rw [List.mem_reverse, List.mem_map] at member
    obtain ⟨digit, inDigits, rfl⟩ := member
    have bounds := digit_bounds (allDigits digit inDigits)
    omega
  · intro nonempty isZero
    cases digits with
    | nil => exact nonempty rfl
    | cons first rest =>
      rw [List.getLast_reverse] at isZero
      have bounds := digit_bounds (allDigits first List.mem_cons_self)
      have firstIsZero : first.toNat = '0'.toNat := by
        change first.toNat - 48 = 0 at isZero
        change first.toNat = 48
        omega
      exact noZero (congrArg some (Char.toNat_inj.1 firstIsZero))

theorem digits_injective {left right : List Char} (leftDigits : ∀ digit ∈ left, digit.isDigit)
    (rightDigits : ∀ digit ∈ right, digit.isDigit)
    (same : left.map (fun digit => digit.toNat - 48) = right.map fun digit => digit.toNat - 48) :
    left = right := by
  induction left generalizing right with
  | nil => exact (List.map_eq_nil_iff.1 same.symm).symm
  | cons first rest inductionHypothesis =>
    cases right with
    | nil => cases same
    | cons other others =>
      rw [List.map_cons, List.map_cons, List.cons.injEq] at same
      have firstBounds := digit_bounds (leftDigits first List.mem_cons_self)
      have otherBounds := digit_bounds (rightDigits other List.mem_cons_self)
      have sameFirst : first = other := Char.toNat_inj.1 (by omega)
      rw [sameFirst, inductionHypothesis
        (fun digit member => leftDigits digit (List.mem_cons_of_mem first member))
        (fun digit member => rightDigits digit (List.mem_cons_of_mem other member)) same.2]

theorem digitsValue_ne_zero {digits : List Char} (allDigits : ∀ digit ∈ digits, digit.isDigit)
    (nonempty : digits ≠ []) (noZero : digits.head? ≠ some '0') : digitsValue digits ≠ 0 := by
  intro isZero
  have spelling := digits_digitsValue allDigits noZero
  rw [isZero, Nat.digits_zero] at spelling
  exact nonempty (List.map_eq_nil_iff.1 (List.reverse_eq_nil_iff.1 spelling.symm))

section Keys

variable {τ : Type} [Textual τ]

theorem digits_of_indexKey? {key : τ} {index : Nat} (isIndex : indexKey? key = some index) :
    (∀ digit ∈ Textual.chars key, digit.isDigit) ∧ Textual.chars key ≠ [] ∧
      ((Textual.chars key).head? ≠ some '0' ∨ Textual.chars key = ['0']) ∧
      digitsValue (Textual.chars key) = index := by
  unfold indexKey? at isIndex
  dsimp only at isIndex
  split at isIndex
  · rename_i spells
    cases isIndex
    exact ⟨List.all_eq_true.1 spells.2.1, spells.1, spells.2.2.1, rfl⟩
  · cases isIndex

theorem indexKey?_injective {left right : τ} {index : Nat}
    (leftIndex : indexKey? left = some index) (rightIndex : indexKey? right = some index) :
    left = right := by
  obtain ⟨leftDigits, leftNonempty, leftHead, leftValue⟩ := digits_of_indexKey? leftIndex
  obtain ⟨rightDigits, rightNonempty, rightHead, rightValue⟩ := digits_of_indexKey? rightIndex
  have sameValue : digitsValue (Textual.chars left) = digitsValue (Textual.chars right) :=
    leftValue.trans rightValue.symm
  have zeroValue : digitsValue ['0'] = 0 := rfl
  apply Textual.chars_injective
  rcases leftHead with leftNoZero | leftIsZero <;> rcases rightHead with rightNoZero | rightIsZero
  · apply digits_injective leftDigits rightDigits
    apply List.reverse_injective
    rw [← digits_digitsValue leftDigits leftNoZero, ← digits_digitsValue rightDigits rightNoZero,
      sameValue]
  · rw [rightIsZero, zeroValue] at sameValue
    exact absurd sameValue (digitsValue_ne_zero leftDigits leftNonempty leftNoZero)
  · rw [leftIsZero, zeroValue] at sameValue
    exact absurd sameValue.symm (digitsValue_ne_zero rightDigits rightNonempty rightNoZero)
  · rw [leftIsZero, rightIsZero]

/-- A key that is spelled out spells the same index in every kind of texts. -/
theorem indexKey?_literal {spelling : String} (basic : ∀ c ∈ spelling.toList, c.toNat < 0x10000) :
    indexKey? (Textual.literal spelling : τ) = indexKey? spelling := by
  unfold indexKey?
  rw [Textual.chars_literal spelling basic]
  rfl

/-! ## The canonical order -/

/-- Whether one key may stand before another: index keys ascend, and the others follow. -/
def KeyBefore (left right : τ) : Prop :=
  match indexKey? left, indexKey? right with
  | some earlier, some later => earlier < later
  | some _, none => True
  | none, some _ => False
  | none, none => left ≠ right

theorem KeyBefore.ne {left right : τ} (before : KeyBefore left right) : left ≠ right := by
  rintro rfl
  unfold KeyBefore at before
  cases spelled : indexKey? left <;> simp [spelled] at before

end Keys

namespace Members

variable {τ α : Type} [Textual τ] {members : List (τ × α)}

def IsCanonical (members : List (τ × α)) : Prop :=
  (members.map Prod.fst).Pairwise KeyBefore

theorem isCanonical_singleton (key : τ) (value : α) : IsCanonical [(key, value)] :=
  List.pairwise_singleton KeyBefore key

theorem IsCanonical.nodup (canonical : IsCanonical members) : (members.map Prod.fst).Nodup :=
  canonical.imp KeyBefore.ne

/-- The keys that are no array indices, in their order. -/
def plainKeys (members : List (τ × α)) : List τ :=
  (members.map Prod.fst).filter fun key => (indexKey? key).isNone

theorem plainKeys_append (left right : List (τ × α)) :
    plainKeys (left ++ right) = plainKeys left ++ plainKeys right := by
  simp [plainKeys]

/-- The members under index keys, in their order. -/
def indexed (members : List (τ × α)) : List (τ × α) :=
  members.filter fun member => (indexKey? member.1).isSome

/-- The members under keys that are no array indices, in their order. -/
def plain (members : List (τ × α)) : List (τ × α) :=
  members.filter fun member => (indexKey? member.1).isNone

theorem IsCanonical.indexed_append_plain (canonical : IsCanonical members) :
    indexed members ++ plain members = members := by
  unfold indexed plain
  induction members with
  | nil => rfl
  | cons member rest inductionHypothesis =>
    obtain ⟨first, restCanonical⟩ := List.pairwise_cons.1 canonical
    cases isIndex : indexKey? member.1 with
    | some index =>
      rw [List.filter_cons_of_pos (by simp [isIndex]), List.filter_cons_of_neg (by simp [isIndex]),
        List.cons_append, inductionHypothesis restCanonical]
    | none =>
      -- No index key stands behind one that is none.
      have allPlain : ∀ other ∈ rest, indexKey? other.1 = none := by
        intro other isOther
        have before := first other.1 (List.mem_map_of_mem isOther)
        unfold KeyBefore at before
        rw [isIndex] at before
        cases otherIndex : indexKey? other.1 with
        | none => rfl
        | some index => simp [otherIndex] at before
      rw [List.filter_cons_of_neg (by simp [isIndex]), List.filter_cons_of_pos (by simp [isIndex]),
        List.filter_eq_nil_iff.2 (by simpa using allPlain), List.nil_append,
        List.filter_eq_self.2 (by simpa using allPlain)]

variable [DecidableEq τ]

theorem mem_setIndex {index : Nat} {key : τ} {value : α} {entry : τ × α}
    (member : entry ∈ setIndex index key value members) :
    entry = (key, value) ∨ entry ∈ members := by
  induction members with
  | nil => exact .inl (List.mem_singleton.1 member)
  | cons first rest inductionHypothesis =>
    obtain ⟨name, held⟩ := first
    unfold setIndex at member
    split_ifs at member with same smaller
    · rcases List.mem_cons.1 member with isGiven | later
      · exact .inl isGiven
      · exact .inr (List.mem_cons_of_mem _ later)
    · rcases List.mem_cons.1 member with isFirst | later
      · exact .inr (isFirst ▸ List.mem_cons_self)
      · exact (inductionHypothesis later).imp_right (List.mem_cons_of_mem _)
    · rcases List.mem_cons.1 member with isGiven | later
      · exact .inl isGiven
      · exact .inr later

theorem mem_keys_setIndex {index : Nat} {key other : τ} {value : α}
    (member : other ∈ (setIndex index key value members).map Prod.fst) :
    other = key ∨ other ∈ members.map Prod.fst := by
  obtain ⟨entry, inMembers, rfl⟩ := List.mem_map.1 member
  rcases mem_setIndex inMembers with isGiven | held
  · exact .inl (congrArg Prod.fst isGiven)
  · exact .inr (List.mem_map_of_mem held)

theorem mem_set {key : τ} {value : α} {entry : τ × α}
    (member : entry ∈ set members key value) : entry = (key, value) ∨ entry ∈ members := by
  unfold set at member
  split at member
  · exact mem_setIndex member
  · exact Table.mem_setEntry member

theorem overlay_cons (members : List (τ × α)) (key : τ) (value : α)
    (rest : List (τ × α)) :
    overlay members ((key, value) :: rest) = overlay (set members key value) rest := rfl

theorem overlay_append (members left right : List (τ × α)) :
    overlay members (left ++ right) = overlay (overlay members left) right :=
  List.foldl_append

theorem mem_overlay {given : List (τ × α)} {entry : τ × α}
    (member : entry ∈ overlay members given) : entry ∈ members ∨ entry ∈ given := by
  induction given generalizing members with
  | nil => exact .inl member
  | cons first rest inductionHypothesis =>
    obtain ⟨key, value⟩ := first
    rcases inductionHypothesis member with inSet | later
    · rcases mem_set inSet with isGiven | held
      · exact .inr (isGiven ▸ List.mem_cons_self)
      · exact .inl held
    · exact .inr (List.mem_cons_of_mem _ later)

theorem mem_ofList {given : List (τ × α)} {entry : τ × α}
    (member : entry ∈ ofList given) : entry ∈ given :=
  (mem_overlay member).resolve_left (List.not_mem_nil)

theorem isCanonical_setIndex {index : Nat} {key : τ} (spelled : indexKey? key = some index)
    (value : α) (canonical : IsCanonical members) :
    IsCanonical (setIndex index key value members) := by
  induction members with
  | nil => exact isCanonical_singleton key value
  | cons entry rest inductionHypothesis =>
    obtain ⟨name, held⟩ := entry
    obtain ⟨nameFirst, restCanonical⟩ := List.pairwise_cons.1 canonical
    unfold setIndex
    split_ifs with same smaller
    · subst same
      exact canonical
    · refine List.pairwise_cons.2 ⟨?_, inductionHypothesis restCanonical⟩
      intro other member
      rcases mem_keys_setIndex member with rfl | inRest
      · cases nameIndex : indexKey? name with
        | none => simp [nameIndex] at smaller
        | some earlier => simpa [KeyBefore, nameIndex, spelled] using smaller
      · exact nameFirst other inRest
    · -- The key stands before the first one that is not smaller, and so before all that follow.
      have keyBeforeName : KeyBefore key name := by
        cases nameIndex : indexKey? name with
        | none => simp [KeyBefore, spelled, nameIndex]
        | some later =>
          have differs : later ≠ index := by
            rintro rfl
            exact same (indexKey?_injective nameIndex spelled)
          have notSmaller : ¬ later < index := by simpa [nameIndex] using smaller
          have before : index < later := by omega
          simpa [KeyBefore, spelled, nameIndex] using before
      refine List.pairwise_cons.2 ⟨?_, canonical⟩
      intro other member
      rcases List.mem_cons.1 member with rfl | inRest
      · exact keyBeforeName
      · have nameBefore := nameFirst other inRest
        unfold KeyBefore at keyBeforeName nameBefore ⊢
        rw [spelled] at keyBeforeName ⊢
        cases nameIndex : indexKey? name <;> cases otherIndex : indexKey? other <;>
          simp_all
        omega

/-- Members stay in their canonical order when a key is given a value. -/
theorem isCanonical_set (key : τ) (value : α) (canonical : IsCanonical members) :
    IsCanonical (set members key value) := by
  unfold set
  cases spelled : indexKey? key with
  | some index => exact isCanonical_setIndex spelled value canonical
  | none =>
    dsimp only
    unfold IsCanonical
    rw [Table.map_fst_setEntry]
    split_ifs with present
    · exact canonical
    · refine List.pairwise_append.2 ⟨canonical, List.pairwise_singleton _ _, ?_⟩
      intro other member last isKey
      rw [List.mem_singleton.1 isKey]
      have differs : other ≠ key := fun same => present (same ▸ member)
      unfold KeyBefore
      cases indexKey? other <;> simp [spelled, differs]

theorem isCanonical_overlay (given : List (τ × α)) (canonical : IsCanonical members) :
    IsCanonical (overlay members given) := by
  induction given generalizing members with
  | nil => exact canonical
  | cons entry rest inductionHypothesis =>
    obtain ⟨key, value⟩ := entry
    exact inductionHypothesis (isCanonical_set key value canonical)

theorem isCanonical_ofList (given : List (τ × α)) : IsCanonical (ofList given) :=
  isCanonical_overlay given List.Pairwise.nil

/-- A key that may stand behind all members goes there when it is given a value. -/
theorem set_of_last {key : τ} {value : α}
    (canonical : IsCanonical (members ++ [(key, value)])) :
    set members key value = members ++ [(key, value)] := by
  have before : ∀ entry ∈ members, KeyBefore entry.1 key := by
    rw [IsCanonical, List.map_append, List.pairwise_append] at canonical
    exact fun entry member => canonical.2.2 _ (List.mem_map_of_mem member) key List.mem_cons_self
  unfold set
  cases spelled : indexKey? key with
  | some index =>
    dsimp only
    clear canonical
    induction members with
    | nil => rfl
    | cons entry rest inductionHypothesis =>
      obtain ⟨name, held⟩ := entry
      obtain ⟨nameBefore, restBefore⟩ := List.forall_mem_cons.1 before
      have smaller : (indexKey? name).any (· < index) := by
        unfold KeyBefore at nameBefore
        cases nameIndex : indexKey? name <;> simp_all
      rw [setIndex, if_neg nameBefore.ne, if_pos smaller, inductionHypothesis restBefore,
        List.cons_append]
  | none =>
    have absent : key ∉ (Table.mk members).keys := by
      intro present
      obtain ⟨entry, member, isKey⟩ := List.mem_map.1 present
      exact (before entry member).ne isKey
    exact congrArg Table.entries (Table.set_absent absent value)

/-! ## Overlays -/

theorem overlay_of_isCanonical {given : List (τ × α)}
    (canonical : IsCanonical (members ++ given)) : overlay members given = members ++ given := by
  induction given generalizing members with
  | nil => exact (List.append_nil members).symm
  | cons entry rest inductionHypothesis =>
    obtain ⟨key, value⟩ := entry
    rw [List.append_cons] at canonical ⊢
    have last := set_of_last (canonical.sublist ((List.sublist_append_left _ rest).map Prod.fst))
    rw [← inductionHypothesis canonical, ← last]
    rfl

/-- Members in the canonical order are what they come to when they are given one by one. -/
theorem ofList_of_isCanonical (canonical : IsCanonical members) : ofList members = members :=
  overlay_of_isCanonical canonical

theorem plainKeys_setIndex {index : Nat} {key : τ} (spelled : indexKey? key = some index)
    (value : α) (members : List (τ × α)) :
    plainKeys (setIndex index key value members) = plainKeys members := by
  unfold plainKeys
  induction members with
  | nil => simp [setIndex, spelled]
  | cons entry rest inductionHypothesis =>
    obtain ⟨name, held⟩ := entry
    unfold setIndex
    split_ifs with same smaller
    · simp [same]
    · rw [List.map_cons, List.map_cons, List.filter_cons, List.filter_cons, inductionHypothesis]
    · simp [spelled]

/-- A key that is given a value keeps its place, or follows the others if it is no index. -/
theorem plainKeys_set (key : τ) (value : α) (distinct : (plainKeys members).Nodup) :
    plainKeys (set members key value) = (plainKeys (members ++ [(key, value)])).eraseDups := by
  rw [plainKeys_append]
  unfold set
  cases spelled : indexKey? key with
  | some index =>
    have notPlain : plainKeys [(key, value)] = [] := by simp [plainKeys, spelled]
    rw [notPlain, List.append_nil, eraseDups_eq_self distinct]
    exact plainKeys_setIndex spelled value members
  | none =>
    have isPlain : plainKeys [(key, value)] = [key] := by simp [plainKeys, spelled]
    rw [isPlain]
    dsimp only
    have keys : plainKeys (Table.setEntry key value members) =
        if key ∈ plainKeys members then plainKeys members else plainKeys members ++ [key] := by
      unfold plainKeys
      rw [Table.map_fst_setEntry]
      by_cases present : key ∈ members.map Prod.fst <;> simp [present, spelled]
    rw [keys]
    split_ifs with present
    · rw [List.eraseDups_append, eraseDups_eq_self distinct]
      simp [List.removeAll, present]
    · apply Eq.symm
      apply eraseDups_eq_self
      exact List.nodup_append.2 ⟨distinct, List.nodup_singleton key, by
        intro name member other isKey same
        exact present (List.mem_singleton.1 isKey ▸ same ▸ member)⟩

/-- Keys that are no indices follow in the order in which they are first given. -/
theorem plainKeys_overlay (given : List (τ × α)) (distinct : (plainKeys members).Nodup) :
    plainKeys (overlay members given) = (plainKeys (members ++ given)).eraseDups := by
  induction given generalizing members with
  | nil => rw [List.append_nil, eraseDups_eq_self distinct]; rfl
  | cons entry rest inductionHypothesis =>
    obtain ⟨key, value⟩ := entry
    have setKeys := plainKeys_set key value distinct
    have setDistinct : (plainKeys (set members key value)).Nodup := by
      rw [setKeys]
      exact nodup_eraseDups _
    rw [overlay_cons, inductionHypothesis setDistinct, plainKeys_append,
      setKeys, eraseDups_eraseDups_append, ← plainKeys_append, List.append_assoc,
      List.singleton_append]

theorem lookup_overlay (given : List (τ × α)) (key : τ) :
    (overlay members given).lookup key = (given.reverse.lookup key).or (members.lookup key) := by
  induction given generalizing members with
  | nil => rfl
  | cons entry rest inductionHypothesis =>
    obtain ⟨name, value⟩ := entry
    rw [overlay_cons, inductionHypothesis, lookup_set, List.reverse_cons,
      List.lookup_append, Option.or_assoc, Table.lookup_entry]
    congr 1
    split <;> rfl

/-- An index key that follows others is given its place in front of a key that is none. -/
theorem set_before_plain {front : List (τ × α)} {key name : τ} {value held : α}
    (spelled : (indexKey? key).isSome) (isPlain : indexKey? name = none)
    (follows : ∀ member ∈ front, KeyBefore member.1 key) :
    set (front ++ [(name, held)]) key value = front ++ [(key, value), (name, held)] := by
  obtain ⟨index, isIndex⟩ := Option.isSome_iff_exists.1 spelled
  unfold set
  rw [isIndex]
  dsimp only
  induction front with
  | nil =>
    have differs : name ≠ key := by
      rintro rfl
      rw [isPlain] at isIndex
      cases isIndex
    rw [List.nil_append, setIndex, if_neg differs, isPlain]
    rfl
  | cons member rest inductionHypothesis =>
    obtain ⟨before, restBefore⟩ := List.forall_mem_cons.1 follows
    have smaller : (indexKey? member.1).any (· < index) := by
      unfold KeyBefore at before
      cases memberIndex : indexKey? member.1 <;> simp_all
    rw [List.cons_append, setIndex, if_neg before.ne, if_pos smaller,
      inductionHypothesis restBefore, List.cons_append]

/-- Members under index keys that are given to a single one stand in front of it. -/
theorem overlay_singleton_of_indexed {name : τ} {held : α} (isPlain : indexKey? name = none)
    (canonical : IsCanonical members)
    (isIndexed : ∀ member ∈ members, (indexKey? member.1).isSome) :
    overlay [(name, held)] members = members ++ [(name, held)] := by
  induction members using List.reverseRecOn with
  | nil => rfl
  | append_singleton members last inductionHypothesis =>
    rw [IsCanonical, List.map_append, List.pairwise_append] at canonical
    obtain ⟨frontCanonical, _, lastFollows⟩ := canonical
    rw [List.forall_mem_append, List.forall_mem_singleton] at isIndexed
    have before : ∀ member ∈ members, KeyBefore member.1 last.1 := fun member isMember =>
      lastFollows _ (List.mem_map_of_mem isMember) last.1 List.mem_cons_self
    rw [overlay_append, inductionHypothesis frontCanonical isIndexed.1, List.append_assoc]
    exact set_before_plain isIndexed.2 isPlain before

/-- Members in the canonical order that are given to a single one: if its key is none of theirs and
no index, it stands behind the index keys and in front of all others. -/
theorem overlay_singleton {name : τ} {held : α} (isPlain : indexKey? name = none)
    (canonical : IsCanonical members) (absent : name ∉ members.map Prod.fst) :
    overlay [(name, held)] members = indexed members ++ (name, held) :: plain members := by
  have whole : IsCanonical (indexed members ++ [(name, held)] ++ plain members) := by
    have parts := canonical
    rw [← canonical.indexed_append_plain, IsCanonical, List.map_append, List.pairwise_append] at parts
    rw [IsCanonical, List.map_append, List.map_append, List.append_assoc, List.pairwise_append]
    refine ⟨parts.1, List.pairwise_cons.2 ⟨?_, parts.2.1⟩, ?_⟩
    · intro key isKey
      obtain ⟨member, inPlain, rfl⟩ := List.mem_map.1 isKey
      obtain ⟨inMembers, isNone⟩ := List.mem_filter.1 inPlain
      have differs : name ≠ member.1 := by
        rintro rfl
        exact absent (List.mem_map_of_mem inMembers)
      simp [KeyBefore, isPlain, Option.isNone_iff_eq_none.1 isNone, differs]
    · intro key isKey later isLater
      rcases List.mem_cons.1 isLater with rfl | inPlain
      · obtain ⟨member, inIndexed, rfl⟩ := List.mem_map.1 isKey
        obtain ⟨index, isIndex⟩ := Option.isSome_iff_exists.1 (List.mem_filter.1 inIndexed).2
        simp [KeyBefore, isIndex, isPlain]
      · exact parts.2.2 key isKey later inPlain
  have indexedCanonical : IsCanonical (indexed members) :=
    canonical.sublist (List.filter_sublist.map Prod.fst)
  have allIndexed : ∀ member ∈ indexed members, (indexKey? member.1).isSome :=
    fun member isMember => (List.mem_filter.1 isMember).2
  calc overlay [(name, held)] members
    _ = overlay [(name, held)] (indexed members ++ plain members) := by
        rw [canonical.indexed_append_plain]
    _ = overlay (indexed members ++ [(name, held)]) (plain members) := by
        rw [overlay_append, overlay_singleton_of_indexed isPlain indexedCanonical allIndexed]
    _ = indexed members ++ (name, held) :: plain members := by
        rw [overlay_of_isCanonical whole, List.append_assoc]
        rfl

/-- What members come to that are given one after the other: the keys stand in the canonical order,
those that are no indices in the order in which they are first given, and each holds what it is
given last. -/
structure IsOverlayOf (given result : List (τ × α)) : Prop where
  canonical : IsCanonical result
  plain : plainKeys result = (plainKeys given).eraseDups
  last : ∀ key, result.lookup key = given.reverse.lookup key

theorem isOverlayOf_overlay (canonical : IsCanonical members) (given : List (τ × α)) :
    IsOverlayOf (members ++ given) (overlay members given) where
  canonical := isCanonical_overlay given canonical
  plain := plainKeys_overlay given (canonical.nodup.filter _)
  last key := by
    rw [lookup_overlay, List.reverse_append, List.lookup_append,
      Table.lookup_reverse canonical.nodup]

/-! ## Values that are changed alike -/

theorem map_set {β : Type} (f : α → β) (members : List (τ × α)) (key : τ) (value : α) :
    (set members key value).map (fun entry => (entry.1, f entry.2)) =
      set (members.map fun entry => (entry.1, f entry.2)) key (f value) := by
  unfold set
  cases indexKey? key with
  | none =>
    dsimp only
    induction members with
    | nil => rfl
    | cons entry rest inductionHypothesis =>
      obtain ⟨name, held⟩ := entry
      rw [List.map_cons, Table.setEntry, Table.setEntry]
      split
      · rfl
      · rw [List.map_cons, inductionHypothesis]
  | some index =>
    dsimp only
    induction members with
    | nil => rfl
    | cons entry rest inductionHypothesis =>
      obtain ⟨name, held⟩ := entry
      rw [List.map_cons, setIndex, setIndex]
      split
      · rfl
      · split
        · rw [List.map_cons, inductionHypothesis]
        · rfl

theorem map_overlay {β : Type} (f : α → β) (members given : List (τ × α)) :
    (overlay members given).map (fun entry => (entry.1, f entry.2)) =
      overlay (members.map fun entry => (entry.1, f entry.2))
        (given.map fun entry => (entry.1, f entry.2)) := by
  induction given generalizing members with
  | nil => rfl
  | cons entry rest inductionHypothesis =>
    obtain ⟨key, value⟩ := entry
    rw [overlay_cons, inductionHypothesis, map_set]
    rfl

theorem map_ofList {β : Type} (f : α → β) (given : List (τ × α)) :
    (ofList given).map (fun entry => (entry.1, f entry.2)) =
      ofList (given.map fun entry => (entry.1, f entry.2)) :=
  map_overlay f [] given

end Members

end ClusterAgent
