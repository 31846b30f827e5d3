import ClusterAgent.AggregationError
import ClusterAgent.Number.Literal
import ClusterAgent.Text.Blank

/-!
Contract: resource quantities as a cluster writes them.

Processor time is counted in cores or, with a trailing `m`, in thousandths of
one; memory in bytes with a binary or decimal suffix; pods in whole numbers. The
words `inf`, `infinity` and `nan` are numbers in any letter case, so that a
missing limit can be written down.

Owns: the grammars and the suffix table, how a quantity is refused.
Does not own: which quantity an entity declares.
-/

namespace ClusterAgent

namespace Quantity

/-- Reads a number in any letter case, blanks around it aside. Only ASCII letters are lowered:
no other letter has one of the letters used here as its lower case. -/
def readNumber? (text : List Char) : Option Number :=
  let lowered := (trimBlanks text).map Char.toLower
  let (negative, word) := takeSign lowered
  if word = "inf".toList ∨ word = "infinity".toList then some (.infinity negative)
  else if word = "nan".toList then some .nan
  else Number.ofLiteral? lowered

/-- Reads an integer of any length, blanks around it aside. -/
def readCount? (text : List Char) : Option Number :=
  let (negative, digits) := takeSign (trimBlanks text)
  if digits ≠ [] ∧ digits.all Char.isDigit then
    some (.ofDecimal negative ⟨digitsValue digits, 0⟩)
  else none

/-- A thousandth, the value of the suffix `m`. -/
def milli : Number := .ofDecimal false ⟨1, -3⟩

def binaryStep (level : Nat) : Number := .ofNat (Nat.pow 1024 level)

def decimalStep (level : Nat) : Number := .ofNat (Nat.pow 1000 level)

/-- The suffixes of memory quantities with the numbers of bytes they stand for. -/
def memorySuffixes : List (String × Number) :=
  [("Ki", binaryStep 1), ("Mi", binaryStep 2), ("Gi", binaryStep 3), ("Ti", binaryStep 4),
    ("Pi", binaryStep 5), ("Ei", binaryStep 6), ("K", decimalStep 1), ("k", decimalStep 1),
    ("M", decimalStep 2), ("G", decimalStep 3), ("T", decimalStep 4), ("P", decimalStep 5),
    ("E", decimalStep 6)]

/-- A text without its last `count` characters. -/
def dropEnd (count : Nat) (text : List Char) : List Char := text.take (text.length - count)

/-- Reads cores: `500m` is half a core. -/
def readCpu? (text : List Char) : Option Number :=
  if ['m'] <:+ text then (readNumber? (dropEnd 1 text)).map milli.mul else readNumber? text

/-- Reads bytes: `4Ki` is 4096 bytes. -/
def readMemory? (text : List Char) : Option Number :=
  match memorySuffixes.find? fun (suffix, _) => suffix.toList.isSuffixOf text with
  | some (suffix, factor) => (readNumber? (dropEnd suffix.length text)).map factor.mul
  | none => readNumber? text

/-- Turns a refusal into the error that names the whole quantity. -/
private def orMalformed (quantity : String) : Option Number → Except AggregationError Number
  | some number => .ok number
  | none => .error (.malformedQuantity quantity)

def number (quantity : String) : Except AggregationError Number :=
  orMalformed quantity (readNumber? quantity.toList)

def cpu (quantity : String) : Except AggregationError Number :=
  orMalformed quantity (readCpu? quantity.toList)

def memory (quantity : String) : Except AggregationError Number :=
  orMalformed quantity (readMemory? quantity.toList)

def count (quantity : String) : Except AggregationError Number :=
  orMalformed quantity (readCount? quantity.toList)

end Quantity

/-! ## Acceptance and refusal -/

/-- A reader that refuses a quantity only as malformed. -/
def RefusesMalformed (reader : String → Except AggregationError Number) : Prop :=
  ∀ quantity, (∃ number, reader quantity = .ok number) ∨
    reader quantity = .error (.malformedQuantity quantity)

namespace Quantity

variable {quantity : String} {result : Number}

private theorem orMalformed_eq_ok {read : Option Number} :
    orMalformed quantity read = .ok result ↔ read = some result := by
  cases read with
  | none => simp [orMalformed]
  | some number => simp [orMalformed]

private theorem orMalformed_cases (quantity : String) (read : Option Number) :
    (∃ number, orMalformed quantity read = .ok number) ∨
      orMalformed quantity read = .error (.malformedQuantity quantity) := by
  cases read with
  | none => exact .inr rfl
  | some number => exact .inl ⟨number, rfl⟩

theorem number_eq_ok : number quantity = .ok result ↔ readNumber? quantity.toList = some result :=
  orMalformed_eq_ok

theorem cpu_eq_ok : cpu quantity = .ok result ↔ readCpu? quantity.toList = some result :=
  orMalformed_eq_ok

theorem memory_eq_ok : memory quantity = .ok result ↔ readMemory? quantity.toList = some result :=
  orMalformed_eq_ok

theorem count_eq_ok : count quantity = .ok result ↔ readCount? quantity.toList = some result :=
  orMalformed_eq_ok

theorem refusesMalformed_number : RefusesMalformed number :=
  fun quantity => orMalformed_cases quantity _

theorem refusesMalformed_cpu : RefusesMalformed cpu :=
  fun quantity => orMalformed_cases quantity _

theorem refusesMalformed_memory : RefusesMalformed memory :=
  fun quantity => orMalformed_cases quantity _

theorem refusesMalformed_count : RefusesMalformed count :=
  fun quantity => orMalformed_cases quantity _

end Quantity

end ClusterAgent
