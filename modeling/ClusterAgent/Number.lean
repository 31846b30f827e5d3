/-!
Contract: binary floating-point numbers of 64 bits, as exact data.

A finite magnitude is named by its rank among all finite magnitudes, so every
number has one representation and equality of numbers is equality of data.
Each operation works on exact natural numbers and rounds once, to the nearest
number and to the even one of two that are equally near.

Owns: the type, exact values, rounding, and the arithmetic of sums.
Does not own: decimal texts.
-/

namespace ClusterAgent

/-- How many magnitudes there are from one power of two to the next: `2 ^ 52`. -/
def binadeSize : Nat := 0x10000000000000

/-- A finite magnitude, counted from zero upwards. -/
structure Magnitude where
  rank : Nat
  inRange : rank < 2047 * binadeSize
deriving DecidableEq

namespace Magnitude

/-- Every finite number is a whole multiple of `2 ^ (-1074)`; this is the multiple. -/
def units (magnitude : Magnitude) : Nat :=
  if magnitude.rank < binadeSize then magnitude.rank
  else
    (binadeSize + magnitude.rank % binadeSize) * Nat.pow 2 (magnitude.rank / binadeSize - 1)

def zero : Magnitude := ⟨0, by decide⟩

end Magnitude

/-- A number of a payload: one undefined value, two infinities, and signed finite magnitudes. -/
inductive Number where
  | nan
  | infinity (negative : Bool)
  | finite (negative : Bool) (magnitude : Magnitude)
deriving DecidableEq

/-- How many units make one. -/
def unitsPerOne : Nat := Nat.pow 2 1074

/-- The quotient rounded to the nearest whole number, a half to the even one. -/
def divideToEven (dividend divisor : Nat) : Nat :=
  let quotient := dividend / divisor
  let twice := 2 * (dividend % divisor)
  if twice < divisor then quotient
  else if divisor < twice then quotient + 1
  else quotient + quotient % 2

/-- The rank nearest to `dividend / divisor` units, as if ranks went on past the last one. -/
def nearestRank (dividend divisor : Nat) : Nat :=
  let scale := (dividend / divisor).log2 - 52
  scale * binadeSize + divideToEven dividend (divisor * Nat.pow 2 scale)

namespace Number

def zero : Number := .finite false .zero

def negativeZero : Number := .finite true .zero

/-- The number nearest to `dividend / divisor` units of the given sign. -/
def ofUnits (negative : Bool) (dividend divisor : Nat) : Number :=
  if inRange : nearestRank dividend divisor < 2047 * binadeSize then
    .finite negative ⟨nearestRank dividend divisor, inRange⟩
  else .infinity negative

/-- The number nearest to a quotient of whole numbers of the given sign. -/
def ofQuotient (negative : Bool) (dividend divisor : Nat) : Number :=
  ofUnits negative (dividend * unitsPerOne) divisor

def ofNat (n : Nat) : Number := ofQuotient false n 1

def ofInt (n : Int) : Number := ofQuotient (decide (n < 0)) n.natAbs 1

/-- The exact value in units, where there is one. -/
def signedUnits? : Number → Option Int
  | .finite false magnitude => some magnitude.units
  | .finite true magnitude => some (-magnitude.units)
  | _ => none

def neg : Number → Number
  | .nan => .nan
  | .infinity negative => .infinity (!negative)
  | .finite negative magnitude => .finite (!negative) magnitude

/-- The rounded sum. Two zeros of negative sign add up to one; any other exact zero is positive. -/
def add : Number → Number → Number
  | .nan, _ => .nan
  | _, .nan => .nan
  | .infinity left, .infinity right => if left = right then .infinity left else .nan
  | .infinity left, .finite _ _ => .infinity left
  | .finite _ _, .infinity right => .infinity right
  | .finite left a, .finite right b =>
    if left = right then ofUnits left (a.units + b.units) 1
    else if a.units = b.units then zero
    else if a.units < b.units then ofUnits right (b.units - a.units) 1
    else ofUnits left (a.units - b.units) 1

def sub (left right : Number) : Number := left.add right.neg

def mul : Number → Number → Number
  | .nan, _ => .nan
  | _, .nan => .nan
  | .infinity left, .infinity right => .infinity (left != right)
  | .infinity left, .finite right b =>
    if b = .zero then .nan else .infinity (left != right)
  | .finite left a, .infinity right =>
    if a = .zero then .nan else .infinity (left != right)
  | .finite left a, .finite right b =>
    ofUnits (left != right) (a.units * b.units) unitsPerOne

def div : Number → Number → Number
  | .nan, _ => .nan
  | _, .nan => .nan
  | .infinity _, .infinity _ => .nan
  | .infinity left, .finite right _ => .infinity (left != right)
  | .finite left _, .infinity right => .finite (left != right) .zero
  | .finite left a, .finite right b =>
    if b = .zero then (if a = .zero then .nan else .infinity (left != right))
    else ofUnits (left != right) (a.units * unitsPerOne) b.units

/-- The nearest whole number, a half towards positive infinity. -/
def round : Number → Number
  | .nan => .nan
  | .infinity negative => .infinity negative
  | .finite false a => ofQuotient false ((2 * a.units + unitsPerOne) / (2 * unitsPerOne)) 1
  | .finite true a => ofQuotient true ((2 * a.units + unitsPerOne - 1) / (2 * unitsPerOne)) 1

/-- Equality of numbers as amounts: the two zeros are equal, and the undefined number is equal to
nothing. -/
def equals (left right : Number) : Bool :=
  match left, right with
  | .nan, _ => false
  | .finite _ a, .finite _ b => left = right || (a = .zero && b = .zero)
  | _, _ => left = right

/-- The exact value of a number that is whole. -/
def toInt? (number : Number) : Option Int :=
  match number.signedUnits? with
  | some units => if units % unitsPerOne = 0 then some (units / unitsPerOne) else none
  | none => none

/-- The exact value of a finite number. -/
def toRat? (number : Number) : Option Rat :=
  number.signedUnits?.map fun units => mkRat units unitsPerOne

end Number

end ClusterAgent
