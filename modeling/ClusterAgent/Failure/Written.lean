import ClusterAgent.Failure

/-!
Contract: failures that are written down.

A bare value is written under `value`. An error is written by its class, by the
arguments that its class is given, and by properties that it is given after
that. Arguments may be missing and may be of any kind: a message takes the text
of its argument, a code, a status or a key takes it as it is.

Owns: reading what is written down, the fields that each class starts with.
Does not own: what a failure does to a run.
-/

namespace ClusterAgent.Failure

/-- An argument inside a text. -/
private def told (argument : Field) : Except Undeclared String :=
  requireText (argument.plainText? "undefined")

/-- An argument that is a message of its own. -/
private def messageOf (argument : Field) : Except Undeclared String :=
  requireText (argument.plainText? "")

/-- Details of an error; there are always some. -/
private def detailsOf (argument : Field) : Value :=
  if argument.isGiven then argument.shown else .object []

/-- The code of an error as one of its fields. -/
private def codeField (code : Field) : Members := (code.map ("code", ·)).toList

/-- An error of aggregation about an argument. -/
private def aboutArgument (error : String → AggregationError) (argument : Field) :
    Except Undeclared Failure := do
  return .foreign ((error (← told argument)).object argument)

/-- Makes an error of a class. -/
def ofClass (className : String) (arguments : List Value) : Except Undeclared Failure := do
  let first : Field := arguments[0]?
  let second : Field := arguments[1]?
  match className with
  | "KubernetesError" =>
    return .api (.general (← messageOf first) second arguments[2]? (detailsOf arguments[3]?))
  | "AuthenticationError" => return .api (.authentication (← messageOf first) (detailsOf second))
  | "AuthorizationError" => return .api (.authorization (← messageOf first) (detailsOf second))
  | "ResourceNotFoundError" => return .api (.notFound (← messageOf first) (detailsOf second))
  | "ServerUnavailableError" => return .api (.unavailable (← messageOf first) (detailsOf second))
  | "NetworkError" => return .api (.network (← messageOf first) (detailsOf second))
  | "AggregationError" =>
    return .foreign ⟨some .aggregation, .text className, .text (← messageOf first),
      codeField second⟩
  | "MalformedQuantityError" => aboutArgument .malformedQuantity first
  | "DuplicateKeyError" => aboutArgument .duplicateKey first
  | "EmptyAggregationError" =>
    let what ← requireText (first.plainText? "records")
    return .foreign ((AggregationError.emptyAggregation what).object none)
  | "IdentityMismatchError" =>
    let left ← told first
    let right ← told second
    return .foreign ((AggregationError.identityMismatch left right).object none)
  | "MalformedStatsError" =>
    return .foreign ⟨some .aggregation, .text className, .text (← messageOf first),
      codeField (some (.text "MALFORMED_STATS"))⟩
  | "ConfigurationError" =>
    return .foreign ⟨some .configuration, .text className, .text (← messageOf first), []⟩
  | _ => return .foreign (.plain (← messageOf first) [])

/-- Gives an error properties; a bare value takes none. -/
def withFields (failure : Failure) (fields : Members) : Failure :=
  match failure with
  | .api error => .api (fields.foldl (fun error field => error.withField field.1 field.2) error)
  | .foreign error =>
    .foreign (fields.foldl (fun error field => error.withField field.1 field.2) error)
  | failure => failure

/-- Reads an error that is written down; without arguments, its message is its argument. -/
def ofWrittenError (spec : Members) : Except Undeclared Failure := do
  let message :=
    match spec.lookup "message" with
    | none => .text ""
    | some .null => .text ""
    | some message => message
  let arguments :=
    match spec.lookup "args" with
    | some (.list arguments) => arguments
    | _ => [message]
  let failure ← ofClass ((spec.text? "class").getD "Error") arguments
  return failure.withFields (spec.inside "props")

/-- Reads a failure that is written down. -/
def ofWritten (spec : Value) : Except Undeclared Failure :=
  let members := spec.members?.getD []
  match members.lookup "value" with
  | some thrown => .ok (.value thrown)
  | none => ofWrittenError members

/-- The failure of an operation that is to fail as it is written down. An error that cannot be made
is a failure of its own. -/
def raised (spec : Value) : Failure :=
  match ofWritten spec with
  | .ok failure => failure
  | .error cause => .undeclared cause

end ClusterAgent.Failure
