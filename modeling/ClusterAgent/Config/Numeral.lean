import ClusterAgent.Failure
import ClusterAgent.Text.Blank

/-!
Contract: numbers as whoever starts a run may write them.

A number may be written with blanks around it, with a point or an exponent, or
in another base after `0x`, `0o` or `0b`. Nothing at all is zero. A value of
another kind counts as the number or the text that it stands for.

Owns: the reading.
Does not own: which numbers are ports or verbosities.
-/

namespace ClusterAgent.Numeral

/-- The value of a digit in any base up to sixteen. -/
def digitValue? (c : Char) : Option Nat :=
  if c.isDigit then some (c.toNat - 48)
  else if 'a' ≤ c ∧ c ≤ 'f' then some (c.toNat - 87)
  else if 'A' ≤ c ∧ c ≤ 'F' then some (c.toNat - 55)
  else none

/-- The value of one or more digits of a base. -/
def readDigits? (base : Nat) (digits : List Char) : Option Nat :=
  if digits.isEmpty then none
  else
    digits.foldlM (fun value c =>
      match digitValue? c with
      | some digit => if digit < base then some (value * base + digit) else none
      | none => none) 0

/-- The base that a marked number is written in, and its digits. -/
def takeBase? : List Char → Option (Nat × List Char)
  | '0' :: mark :: digits =>
    if mark = 'x' ∨ mark = 'X' then some (16, digits)
    else if mark = 'o' ∨ mark = 'O' then some (8, digits)
    else if mark = 'b' ∨ mark = 'B' then some (2, digits)
    else none
  | _ => none

/-- Reads a number; a text that is none gives the undefined number. -/
def read (text : String) : Number :=
  let trimmed := trimBlanks text.toList
  let (negative, unsigned) := takeSign trimmed
  if trimmed.isEmpty then .zero
  else if unsigned = "Infinity".toList then .infinity negative
  else
    match takeBase? trimmed with
    | some (base, digits) => ((readDigits? base digits).map Number.ofNat).getD .nan
    | none => (Number.ofLiteral? trimmed).getD .nan

/-- Reads a value of any kind. -/
def readValue : Value → Except Undeclared Number
  | .null => .ok .zero
  | .bool flag => .ok (if flag then .ofNat 1 else .zero)
  | .number number => .ok number
  | value => do return read (← requireText value.plainText?)

end ClusterAgent.Numeral
