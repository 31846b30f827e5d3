import ClusterAgent.Config.Numeral
import ClusterAgent.Json.Writer
import ClusterAgent.Text.UpperCase

/-!
Contract: the log of a run.

Each step of verbosity lets more entries through and adds detail to each line:
the label first, then the time, then the details. A message that holds a format
token is taken for one that has its details inside, and is written without them.

Owns: entries, thresholds, the line of an entry.
Does not own: which entries a run makes.
-/

namespace ClusterAgent

inductive Level where
  | warn
  | info
  | debug
deriving DecidableEq, Repr

namespace Level

def name : Level → String
  | warn => "warn"
  | info => "info"
  | debug => "debug"

/-- How far down a level is; higher numbers are less urgent. -/
def depth : Level → Nat
  | warn => 0
  | info => 1
  | debug => 2

end Level

/-- An entry as the run makes it. -/
structure LogEntry where
  level : Level
  message : String
  details : Members

/-- An entry as it reaches the line format; the level may be any text. -/
structure LogRecord where
  level : String
  message : String
  timestamp : Option String
  details : Members

structure LogStyle where
  threshold : Level
  showsLabel : Bool
  showsTime : Bool
  showsDetails : Bool

namespace LogStyle

/-- The style of a verbosity, which need not be whole. -/
def ofVerbosity (verbosity : Rat) : LogStyle where
  threshold := if 2 ≤ verbosity then .debug else if verbosity = 1 then .info else .warn
  showsLabel := 1 ≤ verbosity
  showsTime := 2 ≤ verbosity
  showsDetails := 3 ≤ verbosity

/-- The style of a verbosity that is any number. One without end shows as much as the highest one
that tells anything apart, and the undefined one as little as zero. -/
def ofNumber : Number → LogStyle
  | .infinity false => ofVerbosity 3
  | verbosity => ofVerbosity (verbosity.toRat?.getD 0)

/-- The style of a verbosity of any kind. What is read as one without being a number adds detail but
lets no more entries through. -/
def ofField : Field → Except Undeclared LogStyle
  | none => .ok (ofVerbosity 0)
  | some (.number verbosity) => .ok (ofNumber verbosity)
  | some value => do
    let style := ofNumber (← Numeral.readValue value)
    return if style.threshold = .info then { style with threshold := .warn } else style

/-- Whether an entry of a level is written. -/
def admits (style : LogStyle) (level : Level) : Bool := level.depth ≤ style.threshold.depth

end LogStyle

def logLabel : String := "k8s-special-agent"

namespace LogRecord

/-- The level of an entry given by its fields, which has to be a text. -/
private def levelOf : Field → Except Undeclared String
  | some (.text level) => .ok level
  | some .null => .error (.partOfNull "toUpperCase")
  | some _ => .error .level
  | none => .error (.partOfMissing "toUpperCase")

/-- The record of an entry given by its fields. A timestamp that was given is kept, and shown
if it is a text; the current time takes the place of one that was not. -/
def ofFields (now : String) (fields : Members) : Except Undeclared LogRecord := do
  return {
    level := ← levelOf (fields.lookup "level")
    message := ← requireText (Field.plainText? "undefined" (fields.lookup "message"))
    timestamp :=
      match (fields.lookup "timestamp").filter Value.isGiven with
      | none => some now
      | some (.text given) => some given
      | some _ => none
    details := fields.filter fun field =>
      field.1 ∉ ["level", "message", "label", "timestamp"] }

/-- Whether a text holds a format token, a percent sign and one of its letters. -/
def hasFormatToken : List Char → Bool
  | '%' :: mark :: rest => mark ∈ "scdjifoO%".toList || hasFormatToken (mark :: rest)
  | _ :: rest => hasFormatToken rest
  | [] => false

def ofEntry (now : String) (entry : LogEntry) : LogRecord where
  level := entry.level.name
  message := entry.message
  timestamp := some now
  details := if hasFormatToken entry.message.toList then [] else entry.details

def line (style : LogStyle) (record : LogRecord) : String :=
  let time := if style.showsTime then record.timestamp.toList else []
  let label := if style.showsLabel then [logLabel] else []
  let text := ": ".intercalate (upperCase record.level :: time ++ label ++ [record.message])
  if style.showsDetails ∧ record.details ≠ [] then
    s!"{text} {Json.compactText (.object record.details)}"
  else text

end LogRecord

/-- The lines that a log writes, each with its line end. -/
def logLines (style : LogStyle) (now : String) (entries : List LogEntry) : List String :=
  (entries.filter fun entry => style.admits entry.level).map fun entry =>
    (LogRecord.ofEntry now entry).line style ++ "\n"

end ClusterAgent
