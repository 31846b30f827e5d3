import ClusterAgent.Config.Settings

/-!
Contract: the configuration of one run.

Owns: validation of settings and environment, the address of the cluster's
interface, the usage text.
Does not own: the grammar of the command line, the checks of single fields.
-/

namespace ClusterAgent

structure Config where
  host : String
  port : Nat
  token : String
  urlPrefix : Option String
  pathPrefix : String
  noCertCheck : Bool
  caFile : Option String
  debug : Bool
  verbose : Nat
deriving DecidableEq, Repr

/-- The part of the environment that a run looks at. -/
structure Environment where
  caBundle : Field

namespace Config

/-- Removes the slashes at both ends and puts one in front, unless there is nothing at all. -/
def normalizePathPrefix (path : String) : String :=
  let text := path.toList
  let trimmed := ((text.dropWhile (· = '/')).reverse.dropWhile (· = '/')).reverse
  if text.isEmpty then "" else String.ofList ('/' :: trimmed)

/-- The port that is used if none is given. -/
def defaultPort : Nat := 443

/-- A path prefix, which is empty if it is missing. -/
def checkPathPrefix : Field → Except ConfigurationError String
  | none => .ok ""
  | some value => normalizePathPrefix <$> ConfigField.pathPrefix.text value

/-- The verbosity, a whole number. -/
def checkVerbosity : Field → Except ConfigurationError Nat
  | none => .ok 0
  | some (.number number) => ConfigField.verbose.whole 0 none number
  | some value => ConfigField.verbose.refuse (.mistyped "number" value.kindName)

/-- Validates settings; the first field that is wrong is the one that is told. -/
def validate (settings : Settings) (environment : Environment) :
    Except ConfigurationError Config := do
  return {
    host := ← ConfigField.host.required .hostMissing settings.host
    port := ← ConfigField.port.whole 1 (some 65535) (settings.port.getD (.ofNat defaultPort))
    token := ← ConfigField.token.required .tokenMissing settings.token
    urlPrefix := ← ConfigField.urlPrefix.optional settings.urlPrefix
    pathPrefix := ← checkPathPrefix settings.pathPrefix
    noCertCheck := ← ConfigField.noCertCheck.switch settings.noCertCheck
    caFile := ← ConfigField.caFile.optional (environment.caBundle.filter Value.isGiven)
    debug := ← ConfigField.debug.switch settings.debug
    verbose := ← checkVerbosity settings.verbose }

/-- Validates the options of a command line. -/
def load (options : Options) (environment : Environment) : Except Failure Config := do
  let settings ← (Settings.ofOptions options).mapError .undeclared
  (validate settings environment).mapError .configuration

/-- The address of the cluster's interface. -/
def serverUrl (config : Config) : String :=
  let base := config.urlPrefix.getD s!"https://{config.host}"
  s!"{base}:{config.port}{config.pathPrefix}"

/-- What stands in place of the token wherever a configuration is shown. -/
def hiddenToken : String := "***"

/-- The configuration as details of a log entry, in the order of its fields. -/
def details (config : Config) : Members :=
  [("host", some (.text config.host)),
    ("port", some (.number (.ofNat config.port))),
    ("token", some (.text hiddenToken)),
    ("urlPrefix", config.urlPrefix.map .text),
    ("pathPrefix", some (.text config.pathPrefix)),
    ("noCertCheck", some (.bool config.noCertCheck)),
    ("caFile", config.caFile.map .text),
    ("debug", some (.bool config.debug)),
    ("verbose", some (.number (.ofNat config.verbose)))].filterMap
      fun (key, held) => held.map (key, ·)

def usage : String := "
Usage: k8s-special-agent [options] HOST

Collect cluster data from the Kubernetes API and print it as agent sections.

Arguments:
  HOST                  Kubernetes host to connect to

Options:
  --token <token>       Token for that user (required)
  --port <port>         Port to connect to (default: 443)
  --url-prefix <url>    Custom URL prefix for Kubernetes API calls
  --path-prefix <path>  Optional URL path prefix to prepend to Kubernetes API calls
  --no-cert-check       Disable certificate verification
  --debug               Debug mode: raise errors with stack traces
  -v, --verbose         Verbose mode (for even more output use -vvv)
  -h, --help            Show this help message
"

end Config

end ClusterAgent
