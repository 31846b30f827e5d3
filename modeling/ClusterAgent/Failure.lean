import ClusterAgent.AggregationError
import ClusterAgent.ConfigurationError
import ClusterAgent.Schema

/-!
Contract: everything that a collection cycle can fail with.

A failure is one of the agent's own errors, an error or a bare value that came
from the cluster's interface, a reply of the wrong form, or a value of a type
that an entity never declares. An error that came from outside may carry fields
of any kind, its name and its message included.

Owns: the causes, their names, messages and visible fields, their plain texts.
Does not own: the classification of failures of the interface.
-/

namespace ClusterAgent

/-- The families that errors belong to. -/
inductive ErrorFamily where
  | api
  | aggregation
  | configuration
deriving DecidableEq, Repr

/-- An error as an object: what it is called, what it tells, and its further fields. -/
structure ErrorObject where
  family : Option ErrorFamily
  name : Value
  message : Value
  fields : Members

namespace ErrorObject

/-- An error of no family, under its plain name. -/
def plain (message : String) (fields : Members) : ErrorObject :=
  ⟨none, .text "Error", .text message, fields⟩

/-- All fields of an error but its name. -/
def members (error : ErrorObject) : Members := ("message", error.message) :: error.fields

/-- An error as one text: name and message, joined by a colon if neither is empty. -/
def plainText? (error : ErrorObject) : Option String :=
  if (error.fields.lookup Value.textMember).isSome then none
  else do
    let name ← error.name.plainText?
    let message ← error.message.plainText?
    if message = "" then return name
    if name = "" then return message
    return s!"{name}: {message}"

/-- Gives an error a field, which may be its name or its message. -/
def withField (error : ErrorObject) (key : String) (value : Value) : ErrorObject :=
  if key = "name" then { error with name := value }
  else if key = "message" then { error with message := value }
  else { error with fields := Members.set error.fields key value }

end ErrorObject

/-- The classes of failures of the cluster's interface. -/
inductive ApiErrorKind where
  | general
  | authentication
  | authorization
  | notFound
  | unavailable
  | network
deriving DecidableEq, Repr

def ApiErrorKind.name : ApiErrorKind → String
  | general => "KubernetesError"
  | authentication => "AuthenticationError"
  | authorization => "AuthorizationError"
  | notFound => "ResourceNotFoundError"
  | unavailable => "ServerUnavailableError"
  | network => "NetworkError"

/-- A classified failure of the cluster's interface. -/
structure ApiError where
  kind : ApiErrorKind
  name : Value
  message : Value
  code : Field
  statusCode : Field
  details : Value
  others : Members

namespace ApiError

/-- An error under the name of its class. -/
def ofKind
    (kind : ApiErrorKind)
    (message : String)
    (code statusCode : Field)
    (details : Value) :
    ApiError :=
  ⟨kind, .text kind.name, .text message, code, statusCode, details, []⟩

def authentication (message : String) (details : Value) : ApiError :=
  ofKind .authentication message (some (.text "AUTHENTICATION_ERROR"))
    (some (.number (.ofNat 401))) details

def authorization (message : String) (details : Value) : ApiError :=
  ofKind .authorization message (some (.text "AUTHORIZATION_ERROR"))
    (some (.number (.ofNat 403))) details

def notFound (message : String) (details : Value) : ApiError :=
  ofKind .notFound message (some (.text "RESOURCE_NOT_FOUND")) (some (.number (.ofNat 404))) details

def unavailable (message : String) (details : Value) : ApiError :=
  ofKind .unavailable message (some (.text "SERVER_UNAVAILABLE"))
    (some (.number (.ofNat 503))) details

def network (message : String) (details : Value) : ApiError :=
  ofKind .network message (some (.text "NETWORK_ERROR")) none details

def general (message : String) (code statusCode : Field) (details : Value) : ApiError :=
  ofKind .general message code statusCode details

/-- Gives an error a field. -/
def withField (error : ApiError) (key : String) (value : Value) : ApiError :=
  match key with
  | "name" => { error with name := value }
  | "message" => { error with message := value }
  | "code" => { error with code := some value }
  | "statusCode" => { error with statusCode := some value }
  | "details" => { error with details := value }
  | key => { error with others := Members.set error.others key value }

/-- An error with its fields apart from its class. -/
def object (error : ApiError) : ErrorObject where
  family := some .api
  name := error.name
  message := error.message
  fields :=
    [("code", error.code), ("statusCode", error.statusCode),
      ("details", some error.details)].filterMap (fun (key, field) => field.map (key, ·)) ++
      error.others

end ApiError

/-- A value of a type that the cluster's interface never declares, by what was asked of it. -/
inductive Undeclared where
  | amount
  | count
  | timestamp
  | level
  | argument
  | componentConditions
  | claimConditions
  | nodeConditions
  | containers
  | members
  | plainText
  | listing (operation : String)
  | partOfNull (part : String)
  | partOfMissing (part : String)
deriving DecidableEq, Repr

/-- Such a value is told by the operation that it does not have. -/
def Undeclared.message : Undeclared → String
  | amount => "value.endsWith is not a function"
  | count => "value.trim is not a function"
  | timestamp => "timestamp.replace is not a function"
  | level => "level.toUpperCase is not a function"
  | argument => "arg.startsWith is not a function"
  | componentConditions => "(status.conditions ?? []).map is not a function"
  | claimConditions => "pvc.status?.conditions?.map is not a function"
  | nodeConditions => "conditions.map is not a function"
  | containers => "this.containers is not iterable"
  | members => "Cannot convert undefined or null to object"
  | plainText => "Cannot convert object to primitive value"
  | listing operation => s!"{operation} is not a function"
  | partOfNull part => s!"Cannot read properties of null (reading '{part}')"
  | partOfMissing part => s!"Cannot read properties of undefined (reading '{part}')"

def requireText : Option String → Except Undeclared String
  | some text => .ok text
  | none => .error .plainText

namespace AggregationError

/-- The field that holds what an error is about. -/
def subjectKey? : AggregationError → Option String
  | malformedQuantity _ => some "quantity"
  | duplicateKey _ => some "key"
  | _ => none

/-- What an error is about. -/
def subject? : AggregationError → Field
  | malformedQuantity quantity => some (.text quantity)
  | duplicateKey key => some (.text key)
  | _ => none

/-- An error with its fields apart from its class; `subject` is what it is about. -/
def object (error : AggregationError) (subject : Field) : ErrorObject where
  family := some .aggregation
  name := .text error.name
  message := .text error.message
  fields :=
    ("code", .text error.code) ::
      (do return (← error.subjectKey?, ← subject) : Option (String × Value)).toList

end AggregationError

/-- An error with its fields apart from its class. -/
def ConfigurationError.object (error : ConfigurationError) : ErrorObject :=
  ⟨some .configuration, .text "ConfigurationError", .text error.message, []⟩

inductive Failure where
  | aggregation (error : AggregationError)
  | configuration (error : ConfigurationError)
  | api (error : ApiError)
  | foreign (error : ErrorObject)
  | rejected (issues : List Schema.Issue)
  | undeclared (cause : Undeclared)
  | value (thrown : Value)

namespace Failure

/-- A failure as an object; a bare value is none. -/
def error? : Failure → Option ErrorObject
  | aggregation error => some (error.object error.subject?)
  | configuration error => some error.object
  | api error => some error.object
  | foreign error => some error
  | rejected issues => some ⟨none, .text "SchemaError", .text (Schema.message issues), []⟩
  | undeclared cause => some ⟨none, .text "TypeError", .text cause.message, []⟩
  | value _ => none

/-- What is told of a failure: the message of an error, or the value as a text. -/
def message? : Failure → Option String
  | aggregation error => some error.message
  | configuration error => some error.message
  | api error => error.message.plainText?
  | foreign error => error.message.plainText?
  | rejected issues => some (Schema.message issues)
  | undeclared cause => some cause.message
  | value thrown => thrown.plainText?

/-- A failure as one text. -/
def plainText? : Failure → Option String
  | value thrown => thrown.plainText?
  | failure => failure.error?.bind ErrorObject.plainText?

/-- The fields of a failure that is an object; lists and errors are objects too. -/
def fields? : Failure → Option Members
  | value (.object members) => some members
  | value (.list _) => some []
  | value _ => none
  | failure => failure.error?.map ErrorObject.members

end Failure

end ClusterAgent
