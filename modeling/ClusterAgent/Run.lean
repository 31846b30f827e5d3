import ClusterAgent.Collection.Client
import ClusterAgent.Config
import ClusterAgent.Report

/-!
Contract: one run of the agent, from its command line to its exit.

A run ends in one of three ways: it completes after one text on standard output,
it fails after one text on standard error, or it passes a failure on after
neither. Nothing is written before the whole report is rendered. A failure that
has no text cannot be told, and that is passed on in its place.

Owns: what a command line asks for, connecting, the outcome of a run.
Does not own: reading the command line, the data of a cycle, actual input and
output.
-/

namespace ClusterAgent

/-- What a command line asks for. -/
inductive Command where
  | help
  | collect (config : Config)

/-- Reads a command line. Whoever asks for help needs no valid configuration. -/
def Command.read (arguments : List Value) (environment : Environment) :
    Except Failure Command := do
  let options ← Options.parse arguments
  if options.help then return .help
  return .collect (← Config.load options environment)

/-- What the client of a run is set up with. -/
def Config.client (config : Config) : ClientConfig where
  server := some (.text config.serverUrl)
  token := some (.text config.token)
  skipTlsVerify := some (.bool config.noCertCheck)
  caFile := config.caFile.map .text

/-- How a run gets at its source. -/
abbrev Connector := Config → Journal Source

namespace Connector

def direct (cluster : Cluster) : Connector := fun _ => pure (.ofCluster cluster)

/-- Sets up the client and asks through it. -/
def throughClient (cluster : Cluster) : Connector := fun config => do
  Journal.log .info "Constructing API client"
  config.client.setUp
  return .throughClient cluster

end Connector

/-- Connects, collects and renders: the whole text of a report. -/
def reportCycle [Platform] (connect : Connector) (config : Config) : Journal String := do
  Journal.emit [.logged ⟨.debug, "parsed arguments", config.details⟩]
  let source ← connect config
  let inventory ← Inventory.collect .kept source
  let blocks ← inventory.report .kept
  return String.join (blocks.map (· ++ "\n"))

inductive Exit where
  | completed
  | failed
  | rethrown (failure : Failure)

def Exit.code : Exit → Nat
  | completed => 0
  | failed => 1
  | rethrown _ => 1

structure Run where
  exit : Exit
  stdout : List String
  stderr : List String
  events : List Event
  config : Option Config

namespace Run

/-- A text that is complete is written out. A failure is told, or passed on for debugging. -/
def finish (debug : Bool) (journal : Journal String) (config : Option Config) : Run :=
  match journal.outcome with
  | .ok text => ⟨.completed, [text], [], journal.events, config⟩
  | .error failure =>
    if debug then ⟨.rethrown failure, [], [], journal.events, config⟩
    else
      match requireText failure.message? with
      | .ok message => ⟨.failed, [], [message ++ "\n"], journal.events, config⟩
      | .error cause => ⟨.rethrown (.undeclared cause), [], [], journal.events, config⟩

/-- A run that shows how to use the agent. -/
def ofHelp : Run := finish false (pure Config.usage) none

/-- A run whose command line is refused. Without a configuration, any argument that reads as the
debug switch counts as one. -/
def ofRefusal (arguments : List Value) (failure : Failure) : Run :=
  finish (.text "--debug" ∈ arguments) (.ofExcept (.error failure)) none

/-- A run with a valid configuration. -/
def ofConfig [Platform] (connect : Connector) (config : Config) : Run :=
  finish config.debug (reportCycle connect config) (some config)

/-- The log of a run. It is kept from the moment there is a configuration. -/
def log (run : Run) (now : String) : List String :=
  match run.config with
  | some config => logLines (.ofVerbosity config.verbose) now (logEntries run.events)
  | none => []

def queries (run : Run) : List (String × String) := metricQueries run.events

end Run

def run [Platform] (connect : Connector) (arguments : List Value)
    (environment : Environment) : Run :=
  match Command.read arguments environment with
  | .ok .help => .ofHelp
  | .ok (.collect config) => .ofConfig connect config
  | .error failure => .ofRefusal arguments failure

end ClusterAgent
