import ClusterAgent.Number.Literal

/-!
Contract: dates and times of day as milliseconds since the start of 1970.

The accepted texts are a year, a month or a day, each of them alone or followed
by a time of day with an optional zone. A date alone is universal time, and a
time of day without a zone is local time. Every month takes 31 days and runs over
into the next, and midnight may be written as hour 24. Letters may be small, and
the colon of a zone may be missing.

Owns: the grammar, the calendar, local zones, and the range of representable times.
Does not own: what a reader does with a text that is no such date.
-/

namespace ClusterAgent.Calendar

def fixedDigits? (count : Nat) (text : List Char) : Option (Nat × List Char) :=
  let digits := text.take count
  if digits.length = count ∧ digits.all Char.isDigit then
    some (digitsValue digits, text.drop count)
  else none

/-- Four digits, or a sign and six; there is no negative year zero. -/
def readYear? : List Char → Option (Int × List Char)
  | '+' :: rest => (fixedDigits? 6 rest).map fun (year, rest) => (year, rest)
  | '-' :: rest =>
    match fixedDigits? 6 rest with
    | some (0, _) => none
    | some (year, rest) => some (-year, rest)
    | none => none
  | rest => (fixedDigits? 4 rest).map fun (year, rest) => (year, rest)

/-- Reads a mark and two digits from a range; without the mark, the least of the range. -/
def readPart? (mark : Char) (least greatest : Nat) (text : List Char) :
    Option (Nat × List Char) :=
  match text with
  | c :: rest =>
    if c = mark then do
      let (part, rest) ← fixedDigits? 2 rest
      if least ≤ part ∧ part ≤ greatest then some (part, rest) else none
    else some (least, text)
  | [] => some (least, [])

structure Date where
  year : Int
  month : Nat
  day : Nat
deriving DecidableEq, Repr

def readDate? (text : List Char) : Option (Date × List Char) := do
  let (year, afterYear) ← readYear? text
  match afterYear with
  | '-' :: _ =>
    let (month, afterMonth) ← readPart? '-' 1 12 afterYear
    let (day, rest) ← readPart? '-' 1 31 afterMonth
    return (⟨year, month, day⟩, rest)
  | rest => return (⟨year, 1, 1⟩, rest)

/-- A time of day in milliseconds. -/
structure TimeOfDay where
  hour : Nat
  minute : Nat
  second : Nat
  millisecond : Nat
deriving DecidableEq, Repr

/-- How many digits of a fraction count: it is read as nanoseconds. -/
def countedDigits : Nat := 9

/-- The milliseconds of the digits after the point, parts of one cut off. The number that the digits
form is filled up to nanoseconds; of a longer fraction, the number of nanoseconds is formed by the
first digits that count from the first one that is not zero. -/
def fractionMillis (digits : List Char) : Nat :=
  let value := digitsValue ((digits.dropWhile (· = '0')).take countedDigits)
  value * Nat.pow 10 (countedDigits - digits.length) / 1000000

def readFraction? : List Char → Option (List Char × List Char)
  | '.' :: rest =>
    let digits := rest.takeWhile Char.isDigit
    if digits = [] then none else some (digits, rest.dropWhile Char.isDigit)
  | rest => some ([], rest)

/-- Reads hours and minutes, and seconds if they are given. Hour 24 is only midnight, without any
part of a second. -/
def readTime? (text : List Char) : Option (TimeOfDay × List Char) := do
  let (hour, afterHour) ← fixedDigits? 2 text
  match afterHour with
  | ':' :: _ =>
    let (minute, afterMinute) ← readPart? ':' 0 59 afterHour
    let (second, afterSecond) ← readPart? ':' 0 59 afterMinute
    let (fraction, rest) ←
      match afterMinute with
      | ':' :: _ => readFraction? afterSecond
      | rest => some ([], rest)
    let isMidnight := minute = 0 ∧ second = 0 ∧ fraction.all (· = '0')
    if hour ≤ 23 ∨ (hour = 24 ∧ isMidnight) then
      return (⟨hour, minute, second, fractionMillis fraction⟩, rest)
    else none
  | _ => none

/-- The text after a colon, if it starts with one. -/
def skipColon : List Char → List Char
  | ':' :: rest => rest
  | text => text

/-- Reads a zone up to the end of the text, as minutes ahead of universal time; none if no zone is
given. -/
def readZone? : List Char → Option (Option Int)
  | [] => some none
  | ['Z'] => some (some 0)
  | ['z'] => some (some 0)
  | sign :: rest => do
    let (hours, afterHours) ← fixedDigits? 2 rest
    let (minutes, rest) ← fixedDigits? 2 (skipColon afterHours)
    let ahead : Int := 60 * hours + minutes
    if hours ≤ 23 ∧ minutes ≤ 59 ∧ rest = [] then
      if sign = '+' then some (some ahead)
      else if sign = '-' then some (some (-ahead))
      else none
    else none

def isLeapYear (year : Int) : Bool :=
  year % 4 = 0 && (year % 100 ≠ 0 || year % 400 = 0)

def daysBeforeYear (year : Int) : Int :=
  365 * (year - 1970) + (year - 1969).fdiv 4 - (year - 1901).fdiv 100 + (year - 1601).fdiv 400

def daysBeforeMonth (year : Int) (month : Nat) : Nat :=
  let common := [0, 31, 59, 90, 120, 151, 181, 212, 243, 273, 304, 334].getD (month - 1) 0
  if isLeapYear year ∧ 2 < month then common + 1 else common

def Date.daysSinceEpoch (date : Date) : Int :=
  daysBeforeYear date.year + daysBeforeMonth date.year date.month + (date.day - 1)

def TimeOfDay.millis (time : TimeOfDay) : Int :=
  ((time.hour * 60 + time.minute) * 60 + time.second) * 1000 + time.millisecond

/-- Times lie within 100 million days of the start of 1970. -/
def latestMillis : Int := 8640000000000000

/-- Milliseconds that are a time. -/
def inRange? (millis : Int) : Option Int :=
  if -latestMillis ≤ millis ∧ millis ≤ latestMillis then some millis else none

/-- Whole seconds of a time, rounded down. -/
def wholeSeconds (millis : Int) : Int := millis.fdiv 1000

/-- A zone by the clocks in it: how many seconds they are ahead of universal time when they show a
second since the start of 1970. -/
structure LocalZone where
  secondsAhead : Int → Int

namespace LocalZone

/-- The zone whose clocks show universal time. -/
def universal : LocalZone := ⟨fun _ => 0⟩

/-- The universal time at which the clocks of a zone show a time. -/
def toUniversal (zone : LocalZone) (millis : Int) : Int :=
  millis - zone.secondsAhead (wholeSeconds millis) * 1000

/-- The universal time of a time that is shown with the minutes ahead that are given, if any are. -/
def resolve (zone : LocalZone) (shown : Int) : Option Int → Int
  | some minutes => shown - minutes * 60000
  | none => zone.toUniversal shown

end LocalZone

/-- Milliseconds since the start of 1970 of the time that a text names, read in a zone. -/
def millis? (zone : LocalZone) (text : List Char) : Option Int := do
  let (date, rest) ← readDate? text
  let (time, ahead?) ←
    match rest with
    | [] => some (⟨0, 0, 0, 0⟩, some 0)
    | mark :: rest =>
      if mark = 'T' ∨ mark = 't' then do
        let (time, zoneText) ← readTime? rest
        let ahead? ← readZone? zoneText
        some (time, ahead?)
      else none
  inRange? (zone.resolve (date.daysSinceEpoch * 86400000 + time.millis) ahead?)

end ClusterAgent.Calendar
