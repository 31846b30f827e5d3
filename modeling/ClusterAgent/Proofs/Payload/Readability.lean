import ClusterAgent.Payload
import ClusterAgent.Proofs.Number.Spelling
import ClusterAgent.Proofs.Text.Quoted

/-!
Contract: payloads tell the values that they are made of.

The first character of what is written of a value tells the kind of the value,
and each kind ends before a comma or a closing bracket. So a payload is the
payload of one value only, down to the order of members; the two zeros alone
are written alike.

Owns: values without negative zeros, the unique readability of payloads.
Does not own: reading numbers and quoted texts.
-/

namespace ClusterAgent

namespace Value

mutual

/-- A value in which the two zeros are one. -/
def withOneZero : Value → Value
  | .null => .null
  | .bool flag => .bool flag
  | .number n => .number n.withOneZero
  | .text s => .text s
  | .list items => .list (itemsWithOneZero items)
  | .object members => .object (membersWithOneZero members)

def itemsWithOneZero : List Value → List Value
  | [] => []
  | item :: rest => item.withOneZero :: itemsWithOneZero rest

def membersWithOneZero : Members → Members
  | [] => []
  | (key, value) :: rest => (key, value.withOneZero) :: membersWithOneZero rest

end

theorem itemsWithOneZero_eq (items : List Value) :
    itemsWithOneZero items = items.map withOneZero := by
  induction items with
  | nil => rfl
  | cons item rest inductionHypothesis =>
    rw [itemsWithOneZero, inductionHypothesis, List.map_cons]

theorem membersWithOneZero_eq (members : Members) :
    membersWithOneZero members = members.map fun member => (member.1, member.2.withOneZero) := by
  induction members with
  | nil => rfl
  | cons member rest inductionHypothesis =>
    rw [membersWithOneZero, inductionHypothesis, List.map_cons]

end Value

namespace Payload

/-! ## What follows a value -/

/-- What may follow a value in a payload. -/
def Follows (rest : List Char) : Prop := ∀ c, rest.head? = some c → c = ',' ∨ c = ']' ∨ c = '}'

theorem follows_nil : Follows [] := by
  intro c first
  cases first

theorem follows_cons {c : Char} (rest : List Char) (separates : c = ',' ∨ c = ']' ∨ c = '}') :
    Follows (c :: rest) := by
  intro other first
  cases first
  exact separates

theorem Follows.ends {rest : List Char} (follows : Follows rest) : Literal.Ends rest := by
  constructor
  · intro c first
    rcases follows c first with rfl | rfl | rfl <;> rfl
  · intro first
    rcases follows _ first with same | same | same <;> cases same
  · constructor <;> intro first <;> rcases follows _ first with same | same | same <;> cases same

inductive Kind where
  | null
  | flag
  | number
  | text
  | list
  | object

def kindOf : Value → Kind
  | .null => .null
  | .bool _ => .flag
  | .number _ => .number
  | .text _ => .text
  | .list _ => .list
  | .object _ => .object

/-- The kind of the value that a text starts with. -/
def kindAt? : List Char → Option Kind
  | 'n' :: _ => some .null
  | 't' :: _ => some .flag
  | 'f' :: _ => some .flag
  | '"' :: _ => some .text
  | '[' :: _ => some .list
  | '{' :: _ => some .object
  | c :: _ => if c.isDigit ∨ c = '-' ∨ c = 'N' ∨ c = 'I' then some .number else none
  | [] => none

theorem kindAt?_number {c : Char} (starts : c.isDigit ∨ c = '-') (rest : List Char) :
    kindAt? (c :: rest) = some .number := by
  unfold kindAt?
  split
  all_goals rename_i isCons; cases isCons
  case h_7 => exact if_pos (starts.imp_right .inl)
  all_goals rcases starts with isDigit | isMinus
  all_goals first | cases isDigit | cases isMinus

theorem kindAt?_write (value : Value) (rest : List Char) :
    kindAt? (format.write value ++ rest) = some (kindOf value) := by
  cases value with
  | null => rfl
  | bool flag => cases flag <;> rfl
  | number number =>
    cases number with
    | nan => rfl
    | infinity negative => cases negative <;> rfl
    | finite negative magnitude =>
      obtain ⟨c, others, written, starts⟩ := Number.exists_chars_cons negative magnitude
      have isWritten : format.write (.number (.finite negative magnitude)) = c :: others := by
        rw [Json.Format.write]
        exact written
      rw [isWritten, List.cons_append, kindAt?_number starts]
      rfl
  | text text => rfl
  | list items => rfl
  | object members => rfl

/-- Numbers that are written as words. -/
def IsWord (number : Number) : Prop := number = .nan ∨ ∃ negative, number = .infinity negative

theorem finite_or_word (number : Number) :
    (∃ negative magnitude, number = .finite negative magnitude) ∨ IsWord number := by
  cases number with
  | nan => exact .inr (.inl rfl)
  | infinity negative => exact .inr (.inr ⟨negative, rfl⟩)
  | finite negative magnitude => exact .inl ⟨negative, magnitude, rfl⟩

theorem readNumber_word {number : Number} (word : IsWord number) (rest : List Char) :
    Json.readNumber (number.chars ++ rest) = none := by
  rcases word with rfl | ⟨negative, rfl⟩
  · rfl
  · cases negative <;> rfl

/-- The words for numbers that are not finite tell these apart. -/
theorem word_append_inj {left right : Number} {leftRest rightRest : List Char}
    (leftWord : IsWord left) (rightWord : IsWord right)
    (same : left.chars ++ leftRest = right.chars ++ rightRest) :
    left = right ∧ leftRest = rightRest := by
  rcases leftWord with rfl | ⟨negative, rfl⟩ <;> rcases rightWord with rfl | ⟨otherNegative, rfl⟩
  · exact ⟨rfl, List.append_cancel_left same⟩
  · cases otherNegative <;> cases same
  · cases negative <;> cases same
  · cases negative <;> cases otherNegative
    · exact ⟨rfl, List.append_cancel_left same⟩
    · cases same
    · cases same
    · exact ⟨rfl, List.append_cancel_left same⟩

/-- Texts of numbers tell numbers apart, but for the sign of zero, and tell where they end. -/
theorem number_append_inj {left right : Number} {leftRest rightRest : List Char}
    (leftFollows : Follows leftRest) (rightFollows : Follows rightRest)
    (same : left.chars ++ leftRest = right.chars ++ rightRest) :
    left.withOneZero = right.withOneZero ∧ leftRest = rightRest := by
  have readSame := congrArg Json.readNumber same
  rcases finite_or_word left with ⟨negative, magnitude, rfl⟩ | leftWord <;>
    rcases finite_or_word right with ⟨otherNegative, other, rfl⟩ | rightWord
  · rw [Json.readNumber_chars negative magnitude leftFollows.ends,
      Json.readNumber_chars otherNegative other rightFollows.ends, Option.some.injEq,
      Prod.mk.injEq] at readSame
    exact readSame
  · rw [Json.readNumber_chars negative magnitude leftFollows.ends,
      readNumber_word rightWord] at readSame
    cases readSame
  · rw [Json.readNumber_chars otherNegative other rightFollows.ends,
      readNumber_word leftWord] at readSame
    cases readSame
  · obtain ⟨sameNumber, sameRest⟩ := word_append_inj leftWord rightWord same
    exact ⟨congrArg Number.withOneZero sameNumber, sameRest⟩

/-- A value that is written in front of what may follow it tells the kind of value. -/
theorem kindOf_eq {left right : Value} {leftRest rightRest : List Char}
    (same : format.write left ++ leftRest = format.write right ++ rightRest) :
    kindOf left = kindOf right := by
  have sameKind := congrArg kindAt? same
  rw [kindAt?_write, kindAt?_write] at sameKind
  exact Option.some.inj sameKind

/-! ## Items and members in a row -/

/-- What stands after the first of several texts in a row: the others, and a closing bracket. -/
def afterFirst (others : List (List Char)) (closing : Char) (tail : List Char) : List Char :=
  match others with
  | [] => closing :: tail
  | next :: rest => format.comma ++ (format.comma.intercalate (next :: rest) ++ closing :: tail)

theorem intercalate_cons_append (first : List Char) (others : List (List Char)) (closing : Char)
    (tail : List Char) :
    format.comma.intercalate (first :: others) ++ closing :: tail =
      first ++ afterFirst others closing tail := by
  cases others with
  | nil => rw [List.intercalate_singleton, afterFirst]
  | cons next rest =>
    rw [List.intercalate_cons_cons, afterFirst, List.append_assoc, List.append_assoc]

section Rows

variable {closing : Char} (closes : closing = ']' ∨ closing = '}')

include closes

theorem follows_afterFirst (others : List (List Char)) (tail : List Char) :
    Follows (afterFirst others closing tail) := by
  cases others with
  | nil => exact follows_cons tail (.inr closes)
  | cons next rest => exact follows_cons _ (.inl rfl)

/-- A comma or a closing bracket says whether more texts follow. -/
theorem intercalate_of_afterFirst {left right : List (List Char)} {leftRest rightRest : List Char}
    (same : afterFirst left closing leftRest = afterFirst right closing rightRest) :
    format.comma.intercalate left ++ closing :: leftRest =
      format.comma.intercalate right ++ closing :: rightRest := by
  have notComma : closing ≠ ',' := by
    rcases closes with rfl | rfl <;> decide
  cases left <;> cases right
  · exact same
  · exact absurd (List.cons.inj same).1 notComma
  · exact absurd (List.cons.inj same).1.symm notComma
  · exact List.append_cancel_left same

variable {α β : Type} {write : α → List Char} {seen : α → β}

/-- If each of several things is told by what is written of it, then so is the row of them. -/
theorem intercalate_append_inj {left : List α}
    (opens : ∀ item rest, kindAt? (write item ++ rest) ≠ none)
    (tells : ∀ item ∈ left, ∀ other leftRest rightRest, Follows leftRest → Follows rightRest →
      write item ++ leftRest = write other ++ rightRest →
        seen item = seen other ∧ leftRest = rightRest) :
    ∀ {right : List α} {leftRest rightRest : List Char},
      format.comma.intercalate (left.map write) ++ closing :: leftRest =
        format.comma.intercalate (right.map write) ++ closing :: rightRest →
          left.map seen = right.map seen ∧ leftRest = rightRest := by
  have notOpening (rest : List Char) : kindAt? (closing :: rest) = none := by
    rcases closes with rfl | rfl <;> rfl
  induction left with
  | nil =>
    intro right leftRest rightRest same
    cases right with
    | nil => exact ⟨rfl, (List.cons.inj same).2⟩
    | cons other others =>
      rw [List.map_cons, intercalate_cons_append] at same
      have opened := opens other (afterFirst (others.map write) closing rightRest)
      rw [← same] at opened
      exact absurd (notOpening leftRest) opened
  | cons item rest inductionHypothesis =>
    intro right leftRest rightRest same
    cases right with
    | nil =>
      rw [List.map_cons, intercalate_cons_append] at same
      have opened := opens item (afterFirst (rest.map write) closing leftRest)
      rw [same] at opened
      exact absurd (notOpening rightRest) opened
    | cons other others =>
      rw [List.map_cons, List.map_cons, intercalate_cons_append, intercalate_cons_append] at same
      obtain ⟨sameItem, sameAfter⟩ := tells item List.mem_cons_self other _ _
        (follows_afterFirst closes _ leftRest) (follows_afterFirst closes _ rightRest) same
      obtain ⟨sameOthers, sameRest⟩ := inductionHypothesis
        (fun later member => tells later (List.mem_cons_of_mem item member))
        (intercalate_of_afterFirst closes sameAfter)
      exact ⟨by rw [List.map_cons, List.map_cons, sameItem, sameOthers], sameRest⟩

end Rows

/-! ## Unique readability -/

theorem kindAt?_writeMember (member : String × Value) (rest : List Char) :
    kindAt? (format.writeMember member ++ rest) ≠ none := by
  have opens : kindAt? (format.writeMember member ++ rest) = some .text := rfl
  rw [opens]
  simp

/-- A member is told by what is written of it if its value is. -/
theorem writeMember_append_inj {left right : String × Value} {leftRest rightRest : List Char}
    (tells : format.write left.2 ++ leftRest = format.write right.2 ++ rightRest →
      left.2.withOneZero = right.2.withOneZero ∧ leftRest = rightRest)
    (same : format.writeMember left ++ leftRest = format.writeMember right ++ rightRest) :
    (left.1, left.2.withOneZero) = (right.1, right.2.withOneZero) ∧ leftRest = rightRest := by
  unfold Json.Format.writeMember at same
  rw [List.append_assoc, List.append_assoc, List.append_assoc, List.append_assoc] at same
  obtain ⟨sameKey, afterKey⟩ := Json.quote_append_inj format.plain same
  obtain ⟨sameValue, sameRest⟩ := tells (List.append_cancel_left afterKey)
  exact ⟨Prod.ext (String.toList_injective sameKey) sameValue, sameRest⟩

/-- What is written of a value tells the value, but for signs of zeros, and where it ends. -/
theorem write_append_inj : (left right : Value) → {leftRest rightRest : List Char} →
    Follows leftRest → Follows rightRest →
      format.write left ++ leftRest = format.write right ++ rightRest →
        left.withOneZero = right.withOneZero ∧ leftRest = rightRest
  | .null, right, _, _, _, _, same => by
    cases right <;> cases kindOf_eq same
    exact ⟨rfl, List.append_cancel_left same⟩
  | .bool flag, right, _, _, _, _, same => by
    cases right <;> cases kindOf_eq same
    rename_i other
    cases flag <;> cases other
    · exact ⟨rfl, List.append_cancel_left same⟩
    · cases same
    · cases same
    · exact ⟨rfl, List.append_cancel_left same⟩
  | .number n, right, _, _, leftFollows, rightFollows, same => by
    cases right <;> cases kindOf_eq same
    obtain ⟨sameNumber, sameRest⟩ := number_append_inj leftFollows rightFollows same
    exact ⟨congrArg Value.number sameNumber, sameRest⟩
  | .text s, right, _, _, _, _, same => by
    cases right <;> cases kindOf_eq same
    obtain ⟨sameText, sameRest⟩ := Json.quote_append_inj format.plain same
    exact ⟨congrArg Value.text (String.toList_injective sameText), sameRest⟩
  | .list items, right, leftRest, rightRest, _, _, same => by
    cases right <;> cases kindOf_eq same
    rename_i others
    have sameItems : format.comma.intercalate (items.map format.write) ++ ']' :: leftRest =
        format.comma.intercalate (others.map format.write) ++ ']' :: rightRest := by
      rw [← Json.Format.writeItems_eq, ← Json.Format.writeItems_eq]
      simpa [Json.Format.write] using same
    obtain ⟨itemsEqual, sameRest⟩ := intercalate_append_inj (.inl rfl)
      (fun item rest => by simp [kindAt?_write])
      (fun item member other leftRest rightRest => write_append_inj item other) sameItems
    refine ⟨?_, sameRest⟩
    rw [Value.withOneZero, Value.withOneZero, Value.itemsWithOneZero_eq, itemsEqual,
      Value.itemsWithOneZero_eq]
  | .object members, right, leftRest, rightRest, _, _, same => by
    cases right <;> cases kindOf_eq same
    rename_i others
    have sameMembers : format.comma.intercalate (members.map format.writeMember) ++ '}' :: leftRest =
        format.comma.intercalate (others.map format.writeMember) ++ '}' :: rightRest := by
      rw [← Json.Format.writeMembers_eq, ← Json.Format.writeMembers_eq]
      simpa [Json.Format.write] using same
    have tells : ∀ entry ∈ members, ∀ other leftRest rightRest, Follows leftRest →
        Follows rightRest →
          format.writeMember entry ++ leftRest = format.writeMember other ++ rightRest →
            (entry.1, entry.2.withOneZero) = (other.1, other.2.withOneZero) ∧
              leftRest = rightRest := by
      intro entry member other leftRest rightRest leftFollows rightFollows same
      -- The recursion goes on in a value that is smaller than the object.
      have smaller : sizeOf entry.2 < 1 + sizeOf members := by
        have entrySmaller := List.sizeOf_lt_of_mem member
        have valueSmaller : sizeOf entry.2 < sizeOf entry := by
          obtain ⟨key, value⟩ := entry
          rw [Prod.mk.sizeOf_spec]
          dsimp only
          omega
        omega
      exact writeMember_append_inj (write_append_inj entry.2 other.2 leftFollows rightFollows) same
    obtain ⟨membersEqual, sameRest⟩ :=
      intercalate_append_inj (.inr rfl) kindAt?_writeMember tells sameMembers
    refine ⟨?_, sameRest⟩
    rw [Value.withOneZero, Value.withOneZero, Value.membersWithOneZero_eq, membersEqual,
      Value.membersWithOneZero_eq]

/-! ## What payloads tell -/

mutual

/-- Signs of zeros make no difference to what is written of a value. -/
theorem write_withOneZero (value : Value) :
    format.write value.withOneZero = format.write value := by
  cases value with
  | null => rfl
  | bool flag => rfl
  | number n =>
    rw [Value.withOneZero, Json.Format.write, Json.Format.write]
    exact n.chars_withOneZero
  | text s => rfl
  | list items =>
    rw [Value.withOneZero, Json.Format.write, Json.Format.write, writeItems_withOneZero]
  | object members =>
    rw [Value.withOneZero, Json.Format.write, Json.Format.write, writeMembers_withOneZero]

theorem writeItems_withOneZero (items : List Value) :
    format.writeItems (Value.itemsWithOneZero items) = format.writeItems items := by
  match items with
  | [] => rfl
  | [item] => exact write_withOneZero item
  | item :: next :: rest =>
    have sameItem := write_withOneZero item
    have sameRest := writeItems_withOneZero (next :: rest)
    rw [Value.itemsWithOneZero] at sameRest ⊢
    rw [Value.itemsWithOneZero, Json.Format.writeItems, Json.Format.writeItems, sameItem, sameRest]

theorem writeMembers_withOneZero (members : Members) :
    format.writeMembers (Value.membersWithOneZero members) = format.writeMembers members := by
  match members with
  | [] => rfl
  | [(key, value)] =>
    have sameValue := write_withOneZero value
    rw [Value.membersWithOneZero, Value.membersWithOneZero, Json.Format.writeMembers,
      Json.Format.writeMembers, sameValue]
  | (key, value) :: next :: rest =>
    have sameValue := write_withOneZero value
    have sameRest := writeMembers_withOneZero (next :: rest)
    rw [Value.membersWithOneZero] at sameRest ⊢
    rw [Value.membersWithOneZero, Json.Format.writeMembers, Json.Format.writeMembers, sameValue,
      sameRest]

end

/-- Two payloads are the same text exactly if their values differ in signs of zeros only. -/
theorem encode_eq_iff {left right : Value} :
    encode left = encode right ↔ left.withOneZero = right.withOneZero := by
  constructor
  · intro same
    have sameChars : format.write left ++ [] = format.write right ++ [] := by
      rw [List.append_nil, List.append_nil]
      exact String.ofList_injective same
    exact (write_append_inj left right follows_nil follows_nil sameChars).1
  · intro same
    unfold encode chars
    rw [← write_withOneZero left, same, write_withOneZero]

/-- Members that are given in a row are written as an object is that has them. -/
theorem encodeMembers_named (members : Members) :
    encodeMembers members.named = encode (.object members) := by
  unfold encodeMembers encode chars Members.named
  rw [Json.Format.write, Json.Format.writeMembers_eq, List.map_map]
  rfl

/-- The payload encoding loses nothing but the sign of zeros: neither of a value of any depth, nor
of members in the order in which they are given. -/
theorem encode_eq_iff_withOneZero :
    (∀ left right : Value, encode left = encode right ↔ left.withOneZero = right.withOneZero) ∧
      ∀ left right : Members, encodeMembers left.named = encodeMembers right.named ↔
        Value.membersWithOneZero left = Value.membersWithOneZero right := by
  refine ⟨fun left right => encode_eq_iff, fun left right => ?_⟩
  rw [encodeMembers_named, encodeMembers_named, encode_eq_iff, Value.withOneZero,
    Value.withOneZero, Value.object.injEq]

end Payload

end ClusterAgent
