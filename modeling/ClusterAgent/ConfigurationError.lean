/-!
Contract: what can be wrong with a command line or its environment.

Owns: the causes and the wording of each.
Does not own: the grammar of arguments and the rules of the configuration.
-/

namespace ClusterAgent

/-- Fields of the configuration that can be refused. -/
inductive ConfigField where
  | host
  | port
  | token
  | urlPrefix
  | pathPrefix
  | noCertCheck
  | caFile
  | debug
  | verbose
deriving DecidableEq, Repr

def ConfigField.name : ConfigField → String
  | host => "host"
  | port => "port"
  | token => "token"
  | urlPrefix => "urlPrefix"
  | pathPrefix => "pathPrefix"
  | noCertCheck => "noCertCheck"
  | caFile => "caFile"
  | debug => "debug"
  | verbose => "verbose"

/-- Why a field is refused. -/
inductive FieldFault where
  | hostMissing
  | tokenMissing
  | emptyText
  | mistyped (expected received : String)
  | notAnInteger
  | below (least : Nat)
  | above (greatest : Nat)
deriving DecidableEq, Repr

def FieldFault.message : FieldFault → String
  | hostMissing => "the HOST argument is required"
  | tokenMissing => "the --token option is required"
  | emptyText => "String must contain at least 1 character(s)"
  | mistyped expected received => s!"Expected {expected}, received {received}"
  | notAnInteger => "Expected integer, received float"
  | below least => s!"Number must be greater than or equal to {least}"
  | above greatest => s!"Number must be less than or equal to {greatest}"

inductive ConfigurationError where
  | missingValue (flag : String)
  | needlessValue (flag value : String)
  | unrecognized (argument : String)
  | invalidField (field : ConfigField) (fault : FieldFault)
deriving DecidableEq, Repr

def ConfigurationError.message : ConfigurationError → String
  | missingValue flag => s!"argument {flag}: expected one argument"
  | needlessValue flag value => s!"argument {flag}: ignored explicit argument '{value}'"
  | unrecognized argument => s!"unrecognized argument: {argument}"
  | invalidField field fault => s!"{field.name}: {fault.message}"

end ClusterAgent
