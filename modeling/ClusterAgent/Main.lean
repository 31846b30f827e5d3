import ClusterAgent.Run
import ClusterAgent.Snapshot
import Std.Time.Format

/-!
Contract: the command line of the agent.

The cluster is read from standard input, as a snapshot in JSON; a run that does
not get as far as connecting reads nothing.

Owns: actual input and output, the clock.
Does not own: anything that decides what is written.
-/

namespace ClusterAgent

/-- How a run is refused whose input is no snapshot. -/
def unreadableSnapshot : Failure :=
  .foreign (.plain "the cluster snapshot on standard input is not a JSON object" [])

/-- Reaches the cluster that a text describes. -/
def Connector.throughText (text : String) : Connector :=
  match (Json.parse? text).bind Value.members? with
  | some snapshot => .throughClient (.ofSnapshot snapshot)
  | none => fun _ => .ofExcept (.error unreadableSnapshot)

/-- The time of the clock as log lines show it. -/
def clockText : IO String := do
  let now ← Std.Time.Timestamp.now
  return (Std.Time.DateTime.ofTimestampWithZone now Std.Time.TimeZone.UTC).format
    "uuuu-MM-dd'T'HH:mm:ss.SSS'Z'"

/-- Runs the agent as far as its command line allows. -/
def runProcess (arguments : List String) : IO Run := do
  let environment : Environment := ⟨(← IO.getEnv "REQUESTS_CA_BUNDLE").map .text⟩
  let arguments := arguments.map Value.text
  match Command.read arguments environment with
  | .ok .help => return .ofHelp
  | .error failure => return .ofRefusal arguments failure
  | .ok (.collect config) =>
    let text ← (← IO.getStdin).readToEnd
    return .ofConfig (.throughText text) config

end ClusterAgent

open ClusterAgent in
def main (arguments : List String) : IO UInt32 := do
  let run ← runProcess arguments
  let stdout ← IO.getStdout
  let stderr ← IO.getStderr
  for line in run.log (← clockText) do
    stderr.putStr line
  for text in run.stdout do
    stdout.putStr text
  for text in run.stderr do
    stderr.putStr text
  if let .rethrown failure := run.exit then
    stderr.putStrLn ("Unhandled error: " ++ failure.plainText?.getD "")
  return run.exit.code.toUInt32
