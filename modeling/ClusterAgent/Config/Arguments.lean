import ClusterAgent.Failure
import ClusterAgent.Value.Equality

/-!
Contract: the grammar of the command line.

An argument list is read from the left, one unit at a time: an option with its
value, a switch, or the one positional argument. A value may follow its option
or be attached to it by an equals sign. Some names take a value that is then
dropped, because no option keeps it. An argument has to be a text unless it is
the value of an option.

Owns: the classification of arguments, the options that a list spells.
Does not own: which options make a valid configuration.
-/

namespace ClusterAgent

/-- Options that keep a value. -/
inductive ValueOption where
  | port
  | token
  | urlPrefix
  | pathPrefix
deriving DecidableEq, Repr

/-- What a command line asks for. -/
structure Options where
  host : Option String
  port : Field
  token : Field
  urlPrefix : Field
  pathPrefix : Field
  noCertCheck : Bool
  debug : Bool
  verbose : Nat
  help : Bool
deriving DecidableEq

namespace Options

def empty : Options := ⟨none, none, none, none, none, false, false, 0, false⟩

/-- Gives an option a value; the last value counts. -/
def set (options : Options) (option : ValueOption) (value : Value) : Options :=
  match option with
  | .port => { options with port := some value }
  | .token => { options with token := some value }
  | .urlPrefix => { options with urlPrefix := some value }
  | .pathPrefix => { options with pathPrefix := some value }

end Options

/-- One argument as it stands. -/
inductive Argument where
  | option (flag : String) (keeps : Option ValueOption) (attached : Option String)
  | noCertCheck
  | debug
  | verbose (count : Nat)
  | help
  | positional (text : String)
  | refused (error : ConfigurationError)
deriving DecidableEq, Repr

namespace Argument

/-- The flags of options that keep a value. -/
def valueFlags : List (String × ValueOption) :=
  [("--port", .port), ("--token", .token), ("--url-prefix", .urlPrefix),
    ("--path-prefix", .pathPrefix)]

/-- The names that take a value and drop it. -/
def droppingNames : List String :=
  ["constructor", "__defineGetter__", "__defineSetter__", "hasOwnProperty", "__lookupGetter__",
    "__lookupSetter__", "isPrototypeOf", "propertyIsEnumerable", "toString", "valueOf",
    "__proto__", "toLocaleString"]

/-- The switches that an attached value is a mistake on. -/
def longSwitches : List String := ["--no-cert-check", "--debug", "--verbose", "--help"]

/-- Splits a long option at its first equals sign. -/
def splitAttached (argument : String) : String × Option String :=
  let text := argument.toList
  if "--".toList.isPrefixOf text ∧ '=' ∈ text then
    (String.ofList (text.takeWhile (· ≠ '=')),
      some (String.ofList ((text.dropWhile (· ≠ '=')).drop 1)))
  else (argument, none)

/-- The number of letters `v` after a single dash, where there is nothing else. -/
def verboseCount? (flag : String) : Option Nat :=
  match flag.toList with
  | '-' :: 'v' :: rest => if rest.all (· = 'v') then some (rest.length + 1) else none
  | _ => none

/-- A flag that takes no value. -/
def ofSwitch (flag : String) : Argument :=
  if flag = "--no-cert-check" then .noCertCheck
  else if flag = "--debug" then .debug
  else if flag = "--verbose" then .verbose 1
  else
    match verboseCount? flag with
    | some count => .verbose count
    | none =>
      if flag = "-h" ∨ flag = "--help" then .help
      else if flag.toList.head? = some '-' then .refused (.unrecognized flag)
      else .positional flag

/-- Classifies one argument. -/
def ofText (argument : String) : Argument :=
  let (flag, attached) := splitAttached argument
  match valueFlags.lookup flag with
  | some keeps => .option flag (some keeps) attached
  | none =>
    if flag ∈ droppingNames then .option flag none attached
    else
      match attached with
      | some value =>
        if flag ∈ longSwitches then .refused (.needlessValue flag value) else ofSwitch flag
      | none => ofSwitch flag

end Argument

namespace Options

/-- Gives the value of an option to whatever keeps it. -/
def keep (options : Options) (keeps : Option ValueOption) (value : Value) : Options :=
  match keeps with
  | some option => options.set option value
  | none => options

/-- An argument that is to be classified. -/
def requireArgument : Value → Except Undeclared String
  | .text argument => .ok argument
  | .null => .error (.partOfNull "startsWith")
  | _ => .error .argument

/-- Options that are read so far, and the flag of one whose value has to follow. -/
structure Progress where
  options : Options
  awaited : Option (String × Option ValueOption)

/-- Reads an argument that is no value of an option. -/
def readNext (options : Options) : Argument → Except ConfigurationError Progress
  | .option _ keeps (some value) => .ok ⟨options.keep keeps (.text value), none⟩
  | .option flag keeps none => .ok ⟨options, some (flag, keeps)⟩
  | .noCertCheck => .ok ⟨{ options with noCertCheck := true }, none⟩
  | .debug => .ok ⟨{ options with debug := true }, none⟩
  | .verbose count => .ok ⟨{ options with verbose := options.verbose + count }, none⟩
  | .help => .ok ⟨{ options with help := true }, none⟩
  | .positional text =>
    if options.host = none then .ok ⟨{ options with host := some text }, none⟩
    else .error (.unrecognized text)
  | .refused error => .error error

/-- Reads one more argument, which is a value if one has to follow. -/
def Progress.read (progress : Progress) (argument : Value) : Except Failure Progress :=
  match progress.awaited with
  | some (_, keeps) => .ok ⟨progress.options.keep keeps argument, none⟩
  | none => do
    let text ← (requireArgument argument).mapError .undeclared
    (progress.options.readNext (Argument.ofText text)).mapError .configuration

/-- The options that are read, unless a value is missing. -/
def Progress.finish (progress : Progress) : Except Failure Options :=
  match progress.awaited with
  | some (flag, _) => .error (.configuration (.missingValue flag))
  | none => .ok progress.options

/-- Reads an argument list. -/
def parse (arguments : List Value) : Except Failure Options := do
  (← arguments.foldlM Progress.read ⟨empty, none⟩).finish

end Options

end ClusterAgent
