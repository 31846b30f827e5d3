import ClusterAgent.Number

/-!
Contract: numbers as decimal texts.

A number is written with the fewest digits that read back as it, positionally
while the decimal point stays within 21 places to the right or 6 places to the
left of the first digit, and with an exponent otherwise.

Owns: the number nearest to a decimal, the digits of a number, their layout.
Does not own: which texts are decimals.
-/

namespace ClusterAgent

/-- A whole number times a power of ten. -/
structure Decimal where
  coefficient : Nat
  exponent : Int
deriving DecidableEq, Repr

namespace Number

/-- The number nearest to a decimal. Decimals far outside the range of finite numbers are told
by their size alone, so no power is taken that the answer does not need. -/
def ofDecimal (negative : Bool) (decimal : Decimal) : Number :=
  if decimal.coefficient = 0 then .finite negative .zero
  else if 400 < decimal.exponent then .infinity negative
  else if decimal.exponent + decimal.coefficient.log2 < -400 then .finite negative .zero
  else if 0 ≤ decimal.exponent then
    ofQuotient negative (decimal.coefficient * Nat.pow 10 decimal.exponent.toNat) 1
  else ofQuotient negative decimal.coefficient (Nat.pow 10 (-decimal.exponent).toNat)

end Number

/-- How many decimal digits a positive number has. -/
def decimalLength (n : Nat) : Nat :=
  let guess := n.log2 * 1233 / 4096
  if Nat.pow 10 (guess + 1) ≤ n then guess + 2 else guess + 1

namespace Magnitude

/-- One unit is `5 ^ 1074` in the last of 1074 decimal places. -/
private def unitInDecimals : Nat := Nat.pow 5 1074

/-- Every finite magnitude has a finite decimal expansion. -/
def expansion (magnitude : Magnitude) : Decimal :=
  ⟨magnitude.units * unitInDecimals, -1074⟩

/-- The places of the expansion are as many as the powers of two that a unit is divided by. The
number of places has no digits in the statement, so nothing takes a power of it. -/
theorem exists_places :
    ∃ places : Nat, 0 < places ∧ unitsPerOne = Nat.pow 2 places ∧
      ∀ magnitude : Magnitude,
        magnitude.expansion = ⟨magnitude.units * Nat.pow 5 places, -places⟩ := by
  have negated : (-1074 : Int) = -((1074 : Nat) : Int) := by decide
  unfold expansion unitInDecimals unitsPerOne
  rw [negated]
  generalize isPlaces : 1074 = places
  exact ⟨places, by omega, Eq.refl _, fun _ => Eq.refl _⟩

/-- Whether a decimal reads back as this magnitude. -/
def Denotes (magnitude : Magnitude) (decimal : Decimal) : Prop :=
  Number.ofDecimal false decimal = .finite false magnitude

instance (magnitude : Magnitude) (decimal : Decimal) : Decidable (magnitude.Denotes decimal) := by
  unfold Denotes
  infer_instance

/-- The two neighbours of a decimal among the decimals that end `dropped` digits earlier, the
nearer one first and the even one first if both are equally near. -/
def cutDecimal (decimal : Decimal) (dropped : Nat) : List Decimal :=
  let step := Nat.pow 10 dropped
  let lower := decimal.coefficient / step
  let exponent := decimal.exponent + dropped
  let twice := 2 * (decimal.coefficient % step)
  if twice < step ∨ (twice = step ∧ lower % 2 = 0) then
    [⟨lower, exponent⟩, ⟨lower + 1, exponent⟩]
  else [⟨lower + 1, exponent⟩, ⟨lower, exponent⟩]

/-- A decimal of at most 17 digits, and of as few as possible, that reads back as the magnitude;
the whole expansion should there be none. No digit kept means the next power of ten. -/
def shortest (magnitude : Magnitude) : Decimal :=
  let expansion := magnitude.expansion
  let length := decimalLength expansion.coefficient
  let candidates := (List.range 18).flatMap fun kept => cutDecimal expansion (length - kept)
  (candidates.find? fun decimal => magnitude.Denotes decimal).getD expansion

end Magnitude

namespace Decimal

/-- Where positional notation ends, for a first digit that stands `point` places before the
decimal point. -/
def isPositional (point : Int) : Bool := -6 < point && point ≤ 21

/-- The exponent form: one digit, the others after a point, and a signed exponent. -/
def scientificChars (digits : List Char) (exponent : Int) : List Char :=
  let fraction := digits.drop 1
  digits.take 1 ++ (if fraction.isEmpty then [] else '.' :: fraction) ++
    'e' :: (if exponent < 0 then '-' else '+') :: Nat.toDigits 10 exponent.natAbs

def chars (decimal : Decimal) : List Char :=
  let digits := Nat.toDigits 10 decimal.coefficient
  let point : Int := digits.length + decimal.exponent
  if !isPositional point then scientificChars digits (point - 1)
  else if digits.length ≤ point then digits ++ List.replicate (point.toNat - digits.length) '0'
  else if 0 < point then digits.take point.toNat ++ '.' :: digits.drop point.toNat
  else '0' :: '.' :: (List.replicate (-point).toNat '0' ++ digits)

end Decimal

namespace Number

/-- The text of a number. Both zeros are written alike. -/
def chars : Number → List Char
  | .nan => "NaN".toList
  | .infinity false => "Infinity".toList
  | .infinity true => "-Infinity".toList
  | .finite negative magnitude =>
    if magnitude = .zero then ['0']
    else if negative then '-' :: magnitude.shortest.chars
    else magnitude.shortest.chars

def text (number : Number) : String := String.ofList number.chars

end Number

end ClusterAgent
