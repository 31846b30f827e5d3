import ClusterAgent.Json.Text
import ClusterAgent.Value

/-!
Contract: writing values as JSON.

The formats differ in their separators, in the characters that need no escape,
and in how numbers are spelled; one writer takes these from a record.

Owns: the writer on one line, the writer with indented lines, the compact format.
Does not own: the payload format.
-/

namespace ClusterAgent.Json

/-- What sets a format apart. -/
structure Format where
  comma : List Char
  colon : List Char
  plain : Char → Bool
  number : Number → List Char

mutual

def Format.write (format : Format) : Value → List Char
  | .null => "null".toList
  | .bool flag => if flag then "true".toList else "false".toList
  | .number number => format.number number
  | .text text => quote format.plain text.toList
  | .list items => '[' :: (format.writeItems items ++ [']'])
  | .object members => '{' :: (format.writeMembers members ++ ['}'])

def Format.writeItems (format : Format) : List Value → List Char
  | [] => []
  | [item] => format.write item
  | item :: next :: rest =>
    format.write item ++ format.comma ++ format.writeItems (next :: rest)

def Format.writeMembers (format : Format) : List (String × Value) → List Char
  | [] => []
  | [(key, value)] => quote format.plain key.toList ++ format.colon ++ format.write value
  | (key, value) :: next :: rest =>
    quote format.plain key.toList ++ format.colon ++ format.write value ++ format.comma ++
      format.writeMembers (next :: rest)

end

/-- What is written of one member. -/
def Format.writeMember (format : Format) (member : String × Value) : List Char :=
  quote format.plain member.1.toList ++ format.colon ++ format.write member.2

theorem Format.writeItems_eq (format : Format) (items : List Value) :
    format.writeItems items = format.comma.intercalate (items.map format.write) := by
  induction items with
  | nil => rfl
  | cons item rest inductionHypothesis =>
    cases rest with
    | nil => simp [writeItems]
    | cons next rest =>
      rw [writeItems, inductionHypothesis, List.map_cons, List.map_cons, List.map_cons,
        List.intercalate_cons_cons]

theorem Format.writeMembers_eq (format : Format) (members : List (String × Value)) :
    format.writeMembers members = format.comma.intercalate (members.map format.writeMember) := by
  induction members with
  | nil => rfl
  | cons member rest inductionHypothesis =>
    cases rest with
    | nil => simp [writeMembers, writeMember]
    | cons next rest =>
      rw [writeMembers, inductionHypothesis, List.map_cons, List.map_cons, List.map_cons,
        List.intercalate_cons_cons]
      rfl

/-- Only finite numbers can be told to a reader of plain JSON. -/
def finiteNumber : Number → List Char
  | .finite negative magnitude => Number.chars (.finite negative magnitude)
  | _ => "null".toList

/-- No blanks, and no escapes beyond those that JSON demands. -/
def compact : Format where
  comma := [',']
  colon := [':']
  plain := fun _ => true
  number := finiteNumber

private def newLine (depth : Nat) : List Char := '\n' :: List.replicate (2 * depth) ' '

mutual

/-- A value over several lines, two blanks deeper in each list and object that is not empty. -/
def writeIndented (depth : Nat) : Value → List Char
  | .list [] => "[]".toList
  | .object [] => ['{', '}']
  | .list items => '[' :: (writeIndentedItems (depth + 1) items ++ newLine depth ++ [']'])
  | .object members =>
    '{' :: (writeIndentedMembers (depth + 1) members ++ newLine depth ++ ['}'])
  | .null => compact.write .null
  | .bool flag => compact.write (.bool flag)
  | .number number => compact.write (.number number)
  | .text text => compact.write (.text text)

private def writeIndentedItems (depth : Nat) : List Value → List Char
  | [] => []
  | [item] => newLine depth ++ writeIndented depth item
  | item :: next :: rest =>
    newLine depth ++ writeIndented depth item ++ ',' :: writeIndentedItems depth (next :: rest)

private def writeIndentedMembers (depth : Nat) : List (String × Value) → List Char
  | [] => []
  | [(key, value)] =>
    newLine depth ++ quote compact.plain key.toList ++ ": ".toList ++ writeIndented depth value
  | (key, value) :: next :: rest =>
    newLine depth ++ quote compact.plain key.toList ++ ": ".toList ++ writeIndented depth value ++
      ',' :: writeIndentedMembers depth (next :: rest)

end

def compactText (value : Value) : String := String.ofList (compact.write value)

def indentedText (value : Value) : String := String.ofList (writeIndented 0 value)

end ClusterAgent.Json
