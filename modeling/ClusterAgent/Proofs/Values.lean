import ClusterAgent.Json.Reader
import ClusterAgent.Proofs.Members

/-!
Contract: values whose objects have their members in order.

Every object has its members in the canonical order, at every depth of a value.
Whatever is read from a text is such a value.

Owns: canonical values, what the reader makes of a text.
Does not own: which texts can be read.
-/

namespace ClusterAgent

variable {τ : Type} [Textual τ]

/-- Values in which every object, at any depth, has its members in the canonical order, as every
object has them. -/
inductive Value.IsCanonical : Value τ → Prop where
  | null : IsCanonical .null
  | bool (flag : Bool) : IsCanonical (.bool flag)
  | number (number : Number) : IsCanonical (.number number)
  | text (text : τ) : IsCanonical (.text text)
  | list {items : List (Value τ)} (each : ∀ item ∈ items, item.IsCanonical) :
      IsCanonical (.list items)
  | object {members : Members τ} (canonical : Members.IsCanonical members)
      (each : ∀ member ∈ members, member.2.IsCanonical) : IsCanonical (.object members)

namespace Value.IsCanonical

theorem members {members : Members τ} (isCanonical : (Value.object members).IsCanonical) :
    Members.IsCanonical members := by
  cases isCanonical with
  | object canonical _ => exact canonical

theorem of_mem {members : Members τ} (isCanonical : (Value.object members).IsCanonical)
    {member : τ × Value τ} (isMember : member ∈ members) : member.2.IsCanonical := by
  cases isCanonical with
  | object _ each => exact each member isMember

theorem ofList [DecidableEq τ] {given : Members τ} (each : ∀ member ∈ given, member.2.IsCanonical) :
    (Value.object (Members.ofList given)).IsCanonical :=
  .object (Members.isCanonical_ofList given) fun member isMember =>
    each member (Members.mem_ofList isMember)

theorem singleton (key : τ) {value : Value τ} (isCanonical : value.IsCanonical) :
    (Value.object [(key, value)]).IsCanonical :=
  .object (Members.isCanonical_singleton _ _) (List.forall_mem_singleton.2 isCanonical)

end Value.IsCanonical

namespace Json

variable [DecidableEq τ]

/-- What is read with so much fuel is canonical. -/
structure ReadsCanonical (τ : Type) [DecidableEq τ] [Textual τ] (fuel : Nat) : Prop where
  value : ∀ {text rest} {value : Value τ}, readValue fuel text = some (value, rest) →
    value.IsCanonical
  items : ∀ {text rest} {items : List (Value τ)}, readItems fuel text = some (items, rest) →
    ∀ item ∈ items, item.IsCanonical
  members : ∀ {text rest} {members : Members τ}, readMembers fuel text = some (members, rest) →
    ∀ member ∈ members, member.2.IsCanonical

theorem of_readWord {τ : Type} {word text : List Char} {value found : Value τ} {rest : List Char}
    (read : readWord word value text = some (found, rest)) : value = found := by
  unfold readWord at read
  split at read
  · cases read
    rfl
  · cases read

section Steps

variable {fuel : Nat} (reads : ReadsCanonical τ fuel)
include reads

theorem ReadsCanonical.readValue_succ {text : List Char} {value : Value τ} {rest : List Char}
    (read : readValue (fuel + 1) text = some (value, rest)) : value.IsCanonical := by
  rw [readValue] at read
  split at read
  · obtain ⟨quoted, _, same⟩ := Option.map_eq_some_iff.1 read
    cases same
    exact .text _
  · split at read
    · cases read
      exact .list nofun
    · obtain ⟨items, itemsRead, same⟩ := Option.map_eq_some_iff.1 read
      cases same
      exact .list (reads.items itemsRead)
  · split at read
    · cases read
      exact .object .nil nofun
    · obtain ⟨members, membersRead, same⟩ := Option.map_eq_some_iff.1 read
      cases same
      exact .ofList (reads.members membersRead)
  · exact of_readWord read ▸ .null
  · exact of_readWord read ▸ .bool true
  · exact of_readWord read ▸ .bool false
  · obtain ⟨number, _, same⟩ := Option.map_eq_some_iff.1 read
    cases same
    exact .number _

theorem ReadsCanonical.readItems_succ {text : List Char} {items : List (Value τ)} {rest : List Char}
    (read : readItems (fuel + 1) text = some (items, rest)) : ∀ item ∈ items, item.IsCanonical := by
  rw [readItems] at read
  obtain ⟨⟨item, afterItem⟩, itemRead, read⟩ := Option.bind_eq_some_iff.1 read
  have itemCanonical := reads.value itemRead
  dsimp only at read
  split at read
  · obtain ⟨⟨others, afterOthers⟩, othersRead, same⟩ := Option.bind_eq_some_iff.1 read
    cases same
    exact List.forall_mem_cons.2 ⟨itemCanonical, reads.items othersRead⟩
  · cases read
    exact List.forall_mem_singleton.2 itemCanonical
  · cases read

theorem ReadsCanonical.readMembers_succ {text : List Char} {members : Members τ} {rest : List Char}
    (read : readMembers (fuel + 1) text = some (members, rest)) :
    ∀ member ∈ members, member.2.IsCanonical := by
  rw [readMembers] at read
  split at read
  · obtain ⟨⟨key, afterKey⟩, _, read⟩ := Option.bind_eq_some_iff.1 read
    dsimp only at read
    split at read
    · obtain ⟨⟨value, afterValue⟩, valueRead, read⟩ := Option.bind_eq_some_iff.1 read
      have valueCanonical := reads.value valueRead
      dsimp only at read
      split at read
      · obtain ⟨⟨others, afterOthers⟩, othersRead, same⟩ := Option.bind_eq_some_iff.1 read
        cases same
        exact List.forall_mem_cons.2 ⟨valueCanonical, reads.members othersRead⟩
      · cases read
        exact List.forall_mem_singleton.2 valueCanonical
      · cases read
    · cases read
  · cases read

end Steps

/-- The reader makes canonical values, however much fuel it has. -/
theorem readsCanonical (fuel : Nat) : ReadsCanonical τ fuel := by
  induction fuel with
  | zero =>
    constructor
    · intro text rest value read
      cases read
    · intro text rest items read
      cases read
    · intro text rest members read
      cases read
  | succ fuel inductionHypothesis =>
    exact ⟨inductionHypothesis.readValue_succ, inductionHypothesis.readItems_succ,
      inductionHypothesis.readMembers_succ⟩

/-- Whatever a text is read as is a canonical value. -/
theorem isCanonical_of_parse? {text : τ} {value : Value τ} (parsed : parse? text = some value) :
    value.IsCanonical := by
  unfold parse? parseChars? at parsed
  split at parsed
  · rename_i found rest read
    split at parsed
    · cases parsed
      exact (readsCanonical _).value read
    · cases parsed
  · cases parsed

end Json

end ClusterAgent
