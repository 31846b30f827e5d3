import ClusterAgent.Text.Kind

/-!
Contract: texts between quotation marks.

The quotation mark, the backslash and the controls are always escaped; a format
may escape more characters by their units, an astral character as two.

Owns: writing and reading one quoted text.
Does not own: the values around it.
-/

namespace ClusterAgent.Json

def hexDigit (digit : Nat) : Char :=
  if digit < 10 then Char.ofNat (48 + digit) else Char.ofNat (87 + digit)

/-- An escaped unit: four lower-case hexadecimal digits. -/
def unitEscape (unit : Nat) : List Char :=
  ['\\', 'u', hexDigit (unit / 0x1000 % 16), hexDigit (unit / 0x100 % 16),
    hexDigit (unit / 0x10 % 16), hexDigit (unit % 16)]

/-- The escape that every format uses for a character, where it has one. -/
def shortEscape? (c : Char) : Option (List Char) :=
  if c = '"' then some ['\\', '"']
  else if c = '\\' then some ['\\', '\\']
  else if c = '\x08' then some ['\\', 'b']
  else if c = '\x0c' then some ['\\', 'f']
  else if c = '\n' then some ['\\', 'n']
  else if c = '\r' then some ['\\', 'r']
  else if c = '\t' then some ['\\', 't']
  else none

/-- One character inside quotation marks; `plain` says which characters beyond the controls
stand for themselves. -/
def writeChar (plain : Char → Bool) (c : Char) : List Char :=
  match shortEscape? c with
  | some escape => escape
  | none =>
    if c.toNat < 0x20 || !plain c then (unitsOfChar c).flatMap unitEscape else [c]

def quote (plain : Char → Bool) (text : List Char) : List Char :=
  '"' :: (text.flatMap (writeChar plain) ++ ['"'])

def hexValue? (c : Char) : Option Nat :=
  if c.isDigit then some (c.toNat - 48)
  else if 'a' ≤ c ∧ c ≤ 'f' then some (c.toNat - 87)
  else if 'A' ≤ c ∧ c ≤ 'F' then some (c.toNat - 55)
  else none

/-- The unit that four hexadecimal digits name. -/
def unitValue? (a b c d : Char) : Option Nat := do
  let a ← hexValue? a
  let b ← hexValue? b
  let c ← hexValue? c
  let d ← hexValue? d
  return ((a * 16 + b) * 16 + c) * 16 + d

/-- The character that a letter after a backslash stands for. -/
def shortValue? (letter : Char) : Option Char :=
  match letter with
  | '"' => some '"'
  | '\\' => some '\\'
  | '/' => some '/'
  | 'b' => some '\x08'
  | 'f' => some '\x0c'
  | 'n' => some '\n'
  | 'r' => some '\r'
  | 't' => some '\t'
  | _ => none

/-- Reads up to the closing quotation mark: the codes of the text, and what follows. -/
def readCodes : List Char → Option (List Nat × List Char)
  | '"' :: rest => some ([], rest)
  | '\\' :: 'u' :: a :: b :: c :: d :: rest => do
    let unit ← unitValue? a b c d
    let (codes, rest) ← readCodes rest
    return (unit :: codes, rest)
  | '\\' :: letter :: rest => do
    let value ← shortValue? letter
    let (codes, rest) ← readCodes rest
    return (value.toNat :: codes, rest)
  | c :: rest => do
    if c.toNat < 0x20 || c = '\\' then none
    else
      let (codes, rest) ← readCodes rest
      return (c.toNat :: codes, rest)
  | [] => none

/-- Reads the text that follows an opening quotation mark. -/
def readQuoted {τ : Type} [Textual τ] (text : List Char) : Option (τ × List Char) :=
  (readCodes text).map fun (codes, rest) => (Textual.ofCodes codes, rest)

end ClusterAgent.Json
