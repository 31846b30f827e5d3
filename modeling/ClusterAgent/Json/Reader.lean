import ClusterAgent.Json.Text
import ClusterAgent.Number.Literal
import ClusterAgent.Value

/-!
Contract: reading JSON texts.

The grammar is strict: one value with blanks around it, no comments, no trailing
commas, no leading zeros. Of a repeated key the last value counts, at the place
of the first.

Owns: the reader.
Does not own: what a reader of replies makes of a text that is not JSON.
-/

namespace ClusterAgent.Json

/-- The blanks that may stand between tokens. -/
def isSpace (c : Char) : Bool := c = ' ' || c = '\n' || c = '\r' || c = '\t'

def skipSpaces (text : List Char) : List Char := text.dropWhile isSpace

/-- JSON asks for digits before and after the point and for no leading zero. -/
def IsStrict (literal : Literal) : Prop :=
  literal.whole ≠ [] ∧ (literal.whole.head? ≠ some '0' ∨ literal.whole = ['0']) ∧
    literal.fraction ≠ some []

instance (literal : Literal) : Decidable (IsStrict literal) := by
  unfold IsStrict
  infer_instance

/-- Reads a number; a minus is the only sign. -/
def readNumber (text : List Char) : Option (Number × List Char) :=
  let (negative, unsigned) :=
    match text with
    | '-' :: rest => (true, rest)
    | rest => (false, rest)
  let (literal, rest) := Literal.scan unsigned
  if IsStrict literal then some (.ofDecimal negative literal.decimal, rest) else none

variable {τ : Type} [DecidableEq τ] [Textual τ]

def readWord (word : List Char) (value : Value τ) (text : List Char) :
    Option (Value τ × List Char) :=
  if word.isPrefixOf text then some (value, text.drop word.length) else none

mutual

/-- Reads the value at the front of a text; `fuel` bounds the number of steps. -/
def readValue : Nat → List Char → Option (Value τ × List Char)
  | 0, _ => none
  | fuel + 1, text =>
    match skipSpaces text with
    | '"' :: rest => (readQuoted rest).map fun (quoted, rest) => (.text quoted, rest)
    | '[' :: rest =>
      match skipSpaces rest with
      | ']' :: rest => some (.list [], rest)
      | rest => (readItems fuel rest).map fun (items, rest) => (.list items, rest)
    | '{' :: rest =>
      match skipSpaces rest with
      | '}' :: rest => some (.object [], rest)
      | rest =>
        (readMembers fuel rest).map fun (members, rest) => (.object (Members.ofList members), rest)
    | 'n' :: rest => readWord "null".toList .null ('n' :: rest)
    | 't' :: rest => readWord "true".toList (.bool true) ('t' :: rest)
    | 'f' :: rest => readWord "false".toList (.bool false) ('f' :: rest)
    | rest => (readNumber rest).map fun (number, rest) => (.number number, rest)

def readItems : Nat → List Char → Option (List (Value τ) × List Char)
  | 0, _ => none
  | fuel + 1, text => do
    let (item, rest) ← readValue fuel text
    match skipSpaces rest with
    | ',' :: rest =>
      let (items, rest) ← readItems fuel rest
      return (item :: items, rest)
    | ']' :: rest => return ([item], rest)
    | _ => none

def readMembers : Nat → List Char → Option (Members τ × List Char)
  | 0, _ => none
  | fuel + 1, text =>
    match skipSpaces text with
    | '"' :: rest => do
      let (key, rest) ← readQuoted rest
      match skipSpaces rest with
      | ':' :: rest =>
        let (value, rest) ← readValue fuel rest
        match skipSpaces rest with
        | ',' :: rest =>
          let (members, rest) ← readMembers fuel rest
          return ((key, value) :: members, rest)
        | '}' :: rest => return ([(key, value)], rest)
        | _ => none
      | _ => none
    | _ => none

end

/-- Reads a whole text. Every step but the first consumes a character or opens a value, so twice
the length is enough fuel. -/
def parseChars? (text : List Char) : Option (Value τ) :=
  match readValue (2 * text.length + 2) text with
  | some (value, rest) => if (skipSpaces rest).isEmpty then some value else none
  | none => none

def parse? (text : τ) : Option (Value τ) := parseChars? (Textual.chars text)

end ClusterAgent.Json
