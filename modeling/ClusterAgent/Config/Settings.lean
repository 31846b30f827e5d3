import ClusterAgent.Config.Arguments
import ClusterAgent.Config.Numeral

/-!
Contract: what a configuration is made from.

Settings may come from a command line, or as values of any kind. Each field is
checked for its kind before anything else about it.

Owns: the settings that options spell, the checks of single fields.
Does not own: which field is told first, the configuration.
-/

namespace ClusterAgent

/-- The fields of a configuration as they are given. -/
structure Settings where
  host : Field
  port : Option Number
  token : Field
  urlPrefix : Field
  pathPrefix : Field
  noCertCheck : Field
  debug : Field
  verbose : Field

namespace Settings

/-- A switch that is on or was never given. -/
private def switch (flag : Bool) : Field := if flag then some (.bool true) else none

/-- Reads a port, which has to have a number or a text. -/
private def readPort (port : Field) : Except Undeclared (Option Number) :=
  port.mapM Numeral.readValue

/-- The settings that options spell. -/
def ofOptions (options : Options) : Except Undeclared Settings := do
  return {
    host := options.host.map .text
    port := ← readPort options.port
    token := options.token
    urlPrefix := options.urlPrefix
    pathPrefix := options.pathPrefix
    noCertCheck := switch options.noCertCheck
    debug := switch options.debug
    verbose := some (.number (.ofNat options.verbose)) }

/-- The settings among members. -/
def ofMembers (members : Members) : Except Undeclared Settings := do
  return {
    host := members.lookup "host"
    port := ← readPort (members.lookup "port")
    token := members.lookup "token"
    urlPrefix := members.lookup "urlPrefix"
    pathPrefix := members.lookup "pathPrefix"
    noCertCheck := members.lookup "noCertCheck"
    debug := members.lookup "debug"
    verbose := members.lookup "verbose" }

end Settings

namespace ConfigField

/-- A refusal of a field. -/
def refuse {α : Type} (field : ConfigField) (fault : FieldFault) : Except ConfigurationError α :=
  .error (.invalidField field fault)

/-- A value that is a text. -/
def text (field : ConfigField) : Value → Except ConfigurationError String
  | .text text => .ok text
  | value => field.refuse (.mistyped "string" value.kindName)

/-- A value that is a text and not empty. -/
def nonempty (field : ConfigField) (value : Value) : Except ConfigurationError String := do
  let text ← field.text value
  if text = "" then field.refuse .emptyText else return text

/-- A text that has to be given. -/
def required (field : ConfigField) (missing : FieldFault) :
    Field → Except ConfigurationError String
  | none => field.refuse missing
  | some value => field.nonempty value

def optional (field : ConfigField) : Field → Except ConfigurationError (Option String)
  | none => .ok none
  | some value => some <$> field.nonempty value

/-- A switch, which is off if it is missing or null. -/
def switch (field : ConfigField) : Field → Except ConfigurationError Bool
  | none => .ok false
  | some .null => .ok false
  | some (.bool flag) => .ok flag
  | some value => field.refuse (.mistyped "boolean" value.kindName)

/-- A whole number in a range without end where there is no greatest. -/
def whole (field : ConfigField) (least : Nat) (greatest : Option Nat) (number : Number) :
    Except ConfigurationError Nat :=
  match number with
  | .nan => field.refuse (.mistyped "number" (.number .nan : Value).kindName)
  | number =>
    match number.toInt? with
    | none => field.refuse .notAnInteger
    | some n =>
      if n < least then field.refuse (.below least)
      else
        match greatest.filter (· < n.toNat) with
        | some greatest => field.refuse (.above greatest)
        | none => .ok n.toNat

end ConfigField

end ClusterAgent
