import ClusterAgent.Cluster.NodeStats
import ClusterAgent.Proofs.Payload.Readability

/-!
Contract: payloads read as JSON.

A payload without undefined and infinite numbers is JSON. The reader takes from it
the value that it was made of, down to the order of members, and stops where the
payload ends; the sign of a zero alone is lost. So a reply of statistics may as
well be given as the text of its payload.

Owns: values that JSON can tell, reading payloads, replies given as payloads.
Does not own: reading numbers and quoted texts, checking replies.
-/

namespace ClusterAgent

/-- Values that JSON can tell: at every depth, numbers are finite and not the negative zero, and
objects have their members in the canonical order, as every object has them. -/
inductive Value.IsTellable : Value → Prop where
  | null : IsTellable .null
  | bool (flag : Bool) : IsTellable (.bool flag)
  | number {negative : Bool} {magnitude : Magnitude}
      (notNegativeZero : Number.finite negative magnitude ≠ .negativeZero) :
      IsTellable (.number (.finite negative magnitude))
  | text (text : String) : IsTellable (.text text)
  | list {items : List Value} (each : ∀ item ∈ items, item.IsTellable) :
      IsTellable (.list items)
  | object {members : Members} (canonical : Members.IsCanonical members)
      (each : ∀ member ∈ members, member.2.IsTellable) : IsTellable (.object members)

namespace Payload

open Json

/-! ## The reader, token by token -/

theorem skipSpaces_of_opens {text : List Char} (opens : kindAt? text ≠ none) :
    skipSpaces text = text := by
  cases text with
  | nil => rfl
  | cons c rest =>
    have notSpace : ¬ isSpace c := by
      intro space
      simp only [isSpace, Bool.or_eq_true, decide_eq_true_eq] at space
      rcases space with ((rfl | rfl) | rfl) | rfl <;> exact opens rfl
    exact List.dropWhile_cons_of_neg notSpace

theorem readValue_blank (fuel : Nat) (text : List Char) :
    readValue (τ := String) fuel (' ' :: text) = readValue fuel text := by
  have skipped : skipSpaces (' ' :: text) = skipSpaces text := rfl
  cases fuel with
  | zero => rfl
  | succ fuel => rw [readValue, readValue, skipped]

theorem readItems_blank (fuel : Nat) (text : List Char) :
    Json.readItems (τ := String) fuel (' ' :: text) = Json.readItems fuel text := by
  cases fuel with
  | zero => rfl
  | succ fuel => rw [Json.readItems, Json.readItems, readValue_blank]

theorem readMembers_blank (fuel : Nat) (text : List Char) :
    Json.readMembers (τ := String) fuel (' ' :: text) = Json.readMembers fuel text := by
  have skipped : skipSpaces (' ' :: text) = skipSpaces text := rfl
  cases fuel with
  | zero => rfl
  | succ fuel => rw [Json.readMembers, Json.readMembers, skipped]

theorem readValue_number {text : List Char} (opens : kindAt? text = some .number) (fuel : Nat) :
    readValue (τ := String) (fuel + 1) text =
      (readNumber text).map fun (number, rest) => (.number number, rest) := by
  rw [readValue, skipSpaces_of_opens (by rw [opens]; simp)]
  split
  all_goals first | rfl | cases opens

theorem readValue_list {text : List Char} (opens : kindAt? text ≠ none) (fuel : Nat) :
    readValue (τ := String) (fuel + 1) ('[' :: text) =
      (Json.readItems fuel text).map fun (items, rest) => (.list items, rest) := by
  have skipped : skipSpaces ('[' :: text) = '[' :: text := rfl
  simp only [readValue, skipped, skipSpaces_of_opens opens]
  split
  · exact absurd rfl opens
  · rfl

theorem readValue_object {text : List Char} (opens : kindAt? text = some .text) (fuel : Nat) :
    readValue (τ := String) (fuel + 1) ('{' :: text) =
      (Json.readMembers fuel text).map fun (members, rest) =>
        (.object (Members.ofList members), rest) := by
  have skipped : skipSpaces ('{' :: text) = '{' :: text := rfl
  have textSkipped : skipSpaces text = text := skipSpaces_of_opens (by rw [opens]; simp)
  simp only [readValue, skipped, textSkipped]
  split
  · cases opens
  · rfl

section Steps

variable {fuel : Nat} {text rest tail : List Char}

theorem readItems_last {item : Value} (isRead : readValue fuel text = some (item, ']' :: tail)) :
    Json.readItems (fuel + 1) text = some ([item], tail) := by
  rw [Json.readItems, isRead]
  rfl

theorem readItems_next {item : Value} {items : List Value}
    (isRead : readValue fuel text = some (item, format.comma ++ rest))
    (others : Json.readItems fuel rest = some (items, tail)) :
    Json.readItems (fuel + 1) text = some (item :: items, tail) := by
  rw [Json.readItems, isRead]
  change ((Json.readItems fuel (' ' :: rest)).bind fun read => some (item :: read.1, read.2)) = _
  rw [readItems_blank, others]
  rfl

/-- What the reader does with a member behind its key. -/
theorem readMembers_key (key : String) (afterKey : List Char) :
    Json.readMembers (fuel + 1) (quote format.plain key.toList ++ (format.colon ++ afterKey)) = (do
      let (value, rest) ← readValue fuel afterKey
      match skipSpaces rest with
      | ',' :: rest =>
        let (members, rest) ← Json.readMembers fuel rest
        return ((key, value) :: members, rest)
      | '}' :: rest => return ([(key, value)], rest)
      | _ => none) := by
  have skipped (text : List Char) : skipSpaces ('"' :: text) = '"' :: text := rfl
  rw [quote_append, Json.readMembers, skipped]
  change (readQuoted _).bind _ = _
  rw [readQuoted_quote, String.ofList_toList, ← readValue_blank fuel afterKey]
  rfl

theorem readMembers_last {key : String} {value : Value} {afterKey : List Char}
    (isRead : readValue fuel afterKey = some (value, '}' :: tail)) :
    Json.readMembers (fuel + 1) (quote format.plain key.toList ++ (format.colon ++ afterKey)) =
      some ([(key, value)], tail) := by
  rw [readMembers_key, isRead]
  rfl

theorem readMembers_next {key : String} {value : Value} {members : Members} {afterKey : List Char}
    (isRead : readValue fuel afterKey = some (value, format.comma ++ rest))
    (others : Json.readMembers fuel rest = some (members, tail)) :
    Json.readMembers (fuel + 1) (quote format.plain key.toList ++ (format.colon ++ afterKey)) =
      some ((key, value) :: members, tail) := by
  rw [readMembers_key, isRead]
  change ((Json.readMembers fuel (' ' :: rest)).bind fun read =>
    some ((key, value) :: read.1, read.2)) = _
  rw [readMembers_blank, others]
  rfl

end Steps

/-! ## Reading what is written -/

/-- Whether a text is read as a value whatever may follow it, given fuel for each character. -/
def IsReadAs (text : List Char) (value : Value) : Prop :=
  ∀ fuel rest, Follows rest → 2 * text.length < fuel →
    readValue fuel (text ++ rest) = some (value, rest)

theorem follows_comma (rest : List Char) : Follows (format.comma ++ rest) :=
  follows_cons _ (.inl rfl)

theorem length_comma : format.comma.length = 2 := rfl

theorem isReadAs_number {negative : Bool} {magnitude : Magnitude}
    (notNegativeZero : Number.finite negative magnitude ≠ .negativeZero) :
    IsReadAs (format.write (.number (.finite negative magnitude)))
      (.number (.finite negative magnitude)) := by
  rintro (_ | fuel) rest follows enough
  · cases enough
  · rw [readValue_number (kindAt?_write _ rest), Json.Format.write]
    change (readNumber ((Number.finite negative magnitude).chars ++ rest)).map _ = _
    rw [readNumber_chars negative magnitude follows.ends, Number.withOneZero,
      if_neg notNegativeZero]
    rfl

theorem isReadAs_text (text : String) : IsReadAs (format.write (.text text)) (.text text) := by
  rintro (_ | fuel) rest follows enough
  · cases enough
  · rw [Json.Format.write, quote_append, readValue]
    change (readQuoted _).map _ = _
    rw [readQuoted_quote, String.ofList_toList]
    rfl

/-- Items in a row are read up to their closing bracket if each of them is read. -/
theorem readItems_writeItems {items : List Value} (nonempty : items ≠ [])
    (each : ∀ item ∈ items, IsReadAs (format.write item) item) (tail : List Char) {fuel : Nat}
    (enough : 2 * (format.writeItems items).length + 1 < fuel) :
    Json.readItems fuel (format.writeItems items ++ ']' :: tail) = some (items, tail) := by
  cases fuel with
  | zero => cases enough
  | succ fuel =>
    match items with
    | [item] =>
      rw [Json.Format.writeItems] at enough ⊢
      exact readItems_last (each item List.mem_cons_self fuel _
        (follows_cons tail (.inr (.inl rfl))) (by omega))
    | item :: next :: rest =>
      rw [Json.Format.writeItems, List.length_append, List.length_append, length_comma] at enough
      have others : Json.readItems fuel (format.writeItems (next :: rest) ++ ']' :: tail) =
          some (next :: rest, tail) :=
        readItems_writeItems (List.cons_ne_nil next rest)
          (fun later member => each later (List.mem_cons_of_mem item member)) tail (by omega)
      rw [Json.Format.writeItems, List.append_assoc, List.append_assoc]
      exact readItems_next (each item List.mem_cons_self fuel _ (follows_comma _) (by omega)) others

/-- Members in a row are read up to their closing bracket if each of their values is read. -/
theorem readMembers_writeMembers {members : Members} (nonempty : members ≠ [])
    (each : ∀ member ∈ members, IsReadAs (format.write member.2) member.2) (tail : List Char)
    {fuel : Nat} (enough : 2 * (format.writeMembers members).length + 1 < fuel) :
    Json.readMembers fuel (format.writeMembers members ++ '}' :: tail) = some (members, tail) := by
  cases fuel with
  | zero => cases enough
  | succ fuel =>
    match members with
    | [(key, value)] =>
      rw [Json.Format.writeMembers, List.length_append] at enough
      have isRead : IsReadAs (format.write value) value := each _ List.mem_cons_self
      rw [Json.Format.writeMembers, List.append_assoc, List.append_assoc]
      exact readMembers_last (isRead fuel _ (follows_cons tail (.inr (.inr rfl))) (by omega))
    | (key, value) :: next :: rest =>
      rw [Json.Format.writeMembers, List.length_append, List.length_append, List.length_append,
        length_comma] at enough
      have others : Json.readMembers fuel (format.writeMembers (next :: rest) ++ '}' :: tail) =
          some (next :: rest, tail) :=
        readMembers_writeMembers (List.cons_ne_nil next rest)
          (fun later member => each later (List.mem_cons_of_mem _ member)) tail (by omega)
      have isRead : IsReadAs (format.write value) value := each _ List.mem_cons_self
      rw [Json.Format.writeMembers, List.append_assoc, List.append_assoc, List.append_assoc,
        List.append_assoc]
      exact readMembers_next (isRead fuel _ (follows_comma _) (by omega)) others

theorem isReadAs_list {items : List Value}
    (each : ∀ item ∈ items, IsReadAs (format.write item) item) :
    IsReadAs (format.write (.list items)) (.list items) := by
  rintro (_ | fuel) rest follows enough
  · cases enough
  rw [Json.Format.write, List.length_cons, List.length_append] at enough
  rw [Json.Format.write, List.cons_append, List.append_assoc, List.singleton_append]
  cases items with
  | nil => rfl
  | cons item others =>
    have opens : kindAt? (format.writeItems (item :: others) ++ ']' :: rest) ≠ none := by
      rw [Json.Format.writeItems_eq, List.map_cons, intercalate_cons_append, kindAt?_write]
      simp
    rw [readValue_list opens,
      readItems_writeItems (List.cons_ne_nil item others) each rest (by omega)]
    rfl

theorem isReadAs_object {members : Members} (canonical : Members.IsCanonical members)
    (each : ∀ member ∈ members, IsReadAs (format.write member.2) member.2) :
    IsReadAs (format.write (.object members)) (.object members) := by
  rintro (_ | fuel) rest follows enough
  · cases enough
  rw [Json.Format.write, List.length_cons, List.length_append] at enough
  rw [Json.Format.write, List.cons_append, List.append_assoc, List.singleton_append]
  cases members with
  | nil => rfl
  | cons member others =>
    have opens : kindAt? (format.writeMembers (member :: others) ++ '}' :: rest) = some .text := by
      rw [Json.Format.writeMembers_eq, List.map_cons, intercalate_cons_append]
      rfl
    rw [readValue_object opens,
      readMembers_writeMembers (List.cons_ne_nil member others) each rest (by omega)]
    change some (Value.object (Members.ofList (member :: others)), rest) = _
    rw [Members.ofList_of_isCanonical canonical]

/-- What is written of a value that JSON can tell is read as that value. -/
theorem isReadAs_write : (value : Value) → value.IsTellable → IsReadAs (format.write value) value
  | .null, _ => by
    rintro (_ | fuel) rest follows enough
    · cases enough
    · rfl
  | .bool flag, _ => by
    rintro (_ | fuel) rest follows enough
    · cases enough
    · cases flag <;> rfl
  | .number _, .number notNegativeZero => isReadAs_number notNegativeZero
  | .text text, _ => isReadAs_text text
  | .list items, .list each => isReadAs_list fun item isItem =>
    isReadAs_write item (each item isItem)
  | .object members, .object canonical each => isReadAs_object canonical fun member isMember =>
    isReadAs_write member.2 (each member isMember)

/-- JSON takes from a payload the value that the payload was made of. -/
theorem parse?_encode {value : Value} (tellable : value.IsTellable) :
    parse? (encode value) = some value := by
  have isRead : readValue (2 * (format.write value).length + 2) (format.write value) =
      some (value, []) := by
    have read := isReadAs_write value tellable (2 * (format.write value).length + 2) [] follows_nil
      (by omega)
    rwa [List.append_nil] at read
  unfold parse? parseChars? encode chars
  rw [Textual.chars_string, String.toList_ofList, isRead]
  rfl

end Payload

/-! ## Replies given as payloads -/

namespace NodeStats

theorem decode_encode [Platform] {statistics : Value} (tellable : statistics.IsTellable)
    (node : String) :
    decode (some (.text (Payload.encode statistics))) node = .ok (some statistics) := by
  rw [decode, Payload.parse?_encode tellable]

/-- A reply that is no text needs no decoding. -/
theorem decode_of_not_text {τ : Type} [DecidableEq τ] [Textual τ] [Platform] {statistics : Value τ}
    (notText : ∀ text, statistics ≠ .text text) (node : τ) :
    decode (some statistics) node = .ok (some statistics) := by
  cases statistics with
  | text text => exact absurd rfl (notText text)
  | _ => rfl

/-- Statistics may be given as the text of their payload. What is decoded from it is what the
payload was made of. So whatever the statistics are but a text, a node gets the same snapshot from
both, down to the order of members, or the same complaint about both. -/
theorem latestOf_encode [Platform] {statistics : Value} (notText : ∀ text, statistics ≠ .text text)
    (tellable : statistics.IsTellable) :
    (∀ node, decode (some (.text (Payload.encode statistics))) node = .ok (some statistics)) ∧
      ∀ node : Field,
        latestOf node (some (.text (Payload.encode statistics))) =
          latestOf node (some statistics) := by
  refine ⟨decode_encode tellable, fun node => ?_⟩
  have same (name : String) :
      latest (some (.text (Payload.encode statistics))) name = latest (some statistics) name := by
    unfold latest lastSample
    rw [decode_encode tellable, decode_of_not_text notText]
  unfold latestOf
  simp only [same]

/-- A sample with a key that is an index, characters that are escaped, and lists and objects that
are empty. -/
def nestedSample : Members :=
  Members.ofList [("timestamp", .text "2021-03-04T05:06:07.89Z"),
    ("note", .text "\ttwo \"lines\"\né 😀"),
    ("7", .number (.finite true ⟨1023 * binadeSize, by decide⟩)),
    ("idle", .list [.list [], .object [], .null, .bool true])]

def nestedStatistics : Value :=
  .object [("stats", .list [.object nestedSample])]

theorem isTellable_nestedStatistics : nestedStatistics.IsTellable := by
  have idle : (Value.list [.list [], .object [], .null, .bool true]).IsTellable := by
    refine .list fun item isItem => ?_
    simp only [List.mem_cons, List.not_mem_nil, or_false] at isItem
    rcases isItem with rfl | rfl | rfl | rfl
    · exact .list nofun
    · exact .object .nil nofun
    · exact .null
    · exact .bool true
  have sample : (Value.object nestedSample).IsTellable := by
    refine .object (Members.isCanonical_ofList _) fun member isMember => ?_
    have given := Members.mem_ofList isMember
    simp only [List.mem_cons, List.not_mem_nil, or_false] at given
    rcases given with rfl | rfl | rfl | rfl
    · exact .text _
    · exact .text _
    · exact .number (by decide)
    · exact idle
  have samples : (Value.list [.object nestedSample]).IsTellable :=
    .list fun item isItem => List.mem_singleton.1 isItem ▸ sample
  exact .object (Members.isCanonical_singleton _ _) fun member isMember =>
    List.mem_singleton.1 isMember ▸ samples

section Universal

attribute [local instance] Platform.universal

theorem latestOf_encode_of_nestedStatistics :
    (∀ text, nestedStatistics ≠ .text text) ∧ nestedStatistics.IsTellable ∧
      (latestOf (some (.text "worker-1")) (some nestedStatistics)).isOk ∧
      latestOf (some (.text "worker-1")) (some (.text (Payload.encode nestedStatistics))) =
        latestOf (some (.text "worker-1")) (some nestedStatistics) := by
  have notText : ∀ text, nestedStatistics ≠ .text text := by
    intro text isText
    cases isText
  exact ⟨notText, isTellable_nestedStatistics, rfl,
    (latestOf_encode notText isTellable_nestedStatistics).2 (some (.text "worker-1"))⟩

end Universal

end NodeStats

end ClusterAgent
