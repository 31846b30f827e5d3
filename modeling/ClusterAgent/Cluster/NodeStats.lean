import ClusterAgent.Json.Reader
import ClusterAgent.Failure
import ClusterAgent.Platform

/-!
Contract: the statistics that a node reports about itself.

A reply holds samples, the latest one last. All samples are checked, and the
latest is kept as it was reported, with its time in whole seconds.

Owns: reading timestamps, checking replies, reducing a reply to its last sample.
Does not own: which node a reply belongs to.
-/

namespace ClusterAgent.NodeStats

open Textual (literal)

/-- The text without the first point that digits follow, and without those digits. -/
def dropFraction : List Char → List Char
  | '.' :: c :: rest =>
    if c.isDigit then rest.dropWhile Char.isDigit else '.' :: dropFraction (c :: rest)
  | c :: rest => c :: dropFraction rest
  | [] => []

section Readers

variable {τ : Type} [DecidableEq τ] [Textual τ]

/-- Whole seconds of a timestamp whose seconds may have any number of decimals. -/
def readTimestamp [Platform] (timestamp : τ) : Except (AggregationError τ) Int :=
  match Platform.millis? (dropFraction (Textual.chars timestamp)) with
  | some millis => .ok (Calendar.wholeSeconds millis)
  | none => .error (.malformedStats (.unreadableTimestamp timestamp))

mutual

/-- Whether a value holds no undefined number at any depth. -/
def isDefined : Value τ → Bool
  | .number number => number ≠ .nan
  | .list items => allDefined items
  | .object members => allMembersDefined members
  | .null => true
  | .bool _ => true
  | .text _ => true

def allDefined : List (Value τ) → Bool
  | [] => true
  | item :: rest => isDefined item && allDefined rest

def allMembersDefined : Members τ → Bool
  | [] => true
  | (_, value) :: rest => isDefined value && allMembersDefined rest

end

mutual

/-- A value as it is kept: no object gives a member the one reserved name. -/
def kept : Value τ → Value τ
  | .list items => .list (keptItems items)
  | .object members => .object (keptMembers members)
  | .null => .null
  | .bool flag => .bool flag
  | .number number => .number number
  | .text text => .text text

def keptItems : List (Value τ) → List (Value τ)
  | [] => []
  | item :: rest => kept item :: keptItems rest

def keptMembers : Members τ → Members τ
  | [] => []
  | (key, value) :: rest =>
    if key = literal "__proto__" then keptMembers rest
    else (key, kept value) :: keptMembers rest

end

/-- A sample that was checked: its timestamp as reported, and its other members. -/
structure Sample (τ : Type := String) where
  timestamp : τ
  others : Members τ

/-- Checks one sample; the first complaint is the answer otherwise. -/
def checkSample (sample : Value τ) : Except String (Sample τ) :=
  match sample with
  | .object members =>
    match members.lookup (literal "timestamp") with
    | some (.text timestamp) =>
      let others := members.filter fun member => member.1 ≠ literal "timestamp"
      if allMembersDefined others then .ok ⟨timestamp, keptMembers others⟩
      else .error "Invalid input"
    | found => .error (Schema.mismatch [] "string" found).message
  | found => .error (Schema.mismatch [] "object" (some found)).message

def checkReply (reply : Field τ) : Except String (List (Sample τ)) :=
  match reply with
  | some (.object members) =>
    match members.lookup (literal "stats") with
    | some (.list samples) => samples.mapM checkSample
    | found => .error (Schema.mismatch [] "array" found).message
  | found => .error (Schema.mismatch [] "object" found).message

/-- A sample with the time in seconds: keys that are array indices come first as always, and the
time is the first of the other members. -/
def Sample.snapshot (sample : Sample τ) (seconds : Int) : Members τ :=
  Members.overlay [(literal "timestamp", .number (.ofInt seconds))] sample.others

/-- What is said about a text that is not JSON. -/
def complaint [Platform] (text : τ) : τ :=
  Textual.ofCodes ((Platform.jsonComplaint (Textual.chars text)).map Char.toNat)

/-- A reply that is a text has to be decoded first. -/
def decode [Platform] (reply : Field τ) (node : τ) : Except (StatsFault τ) (Field τ) :=
  match reply with
  | some (.text text) =>
    match Json.parse? text with
    | some value => .ok (some value)
    | none => .error (.notJson node (complaint text))
  | reply => .ok reply

def lastSample [Platform] (reply : Field τ) (node : τ) : Except (StatsFault τ) (Sample τ) := do
  let decoded ← decode reply node
  let samples ← (checkReply decoded).mapError (.malformed node)
  match samples.getLast? with
  | some sample => .ok sample
  | none => .error (.noSamples node)

def latest [Platform] (reply : Field τ) (node : τ) :
    Except (AggregationError τ) (Members τ) := do
  let sample ← (lastSample reply node).mapError .malformedStats
  let seconds ← readTimestamp sample.timestamp
  return sample.snapshot seconds

end Readers

/-- The name that stands for a node without one. -/
def unnamed : String := "<unnamed>"

/-- The failure of a node whose name has no text: what would tell the name cannot be told. -/
def untold : AggregationError → Failure
  | .malformedStats fault =>
    if fault.node?.isSome then .undeclared .plainText else .aggregation (.malformedStats fault)
  | error => .aggregation error

/-- Reduces the reply of a node, whose name is needed only to complain. -/
def latestOf [Platform] (node : Field) (reply : Field) : Except Failure Members :=
  match node.plainText? unnamed with
  | some name => (latest reply name).mapError .aggregation
  | none => (latest reply "").mapError untold

end ClusterAgent.NodeStats
