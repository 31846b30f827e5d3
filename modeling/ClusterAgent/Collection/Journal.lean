import ClusterAgent.Failure
import ClusterAgent.Log

/-!
Contract: what a run does on the way to its outcome.

A journal lists log entries and metric queries in the order in which they
happen. Calls that run at the same time all start before any of them settles,
and settle in the order in which they started; the first failure in that order
is the failure of all, unless some call never got under way. A log need not be
kept, and then no entry of it is made.

Owns: journals, calls, running calls one after the other and together, keeping a
log or none.
Does not own: which calls there are.
-/

namespace ClusterAgent

inductive Event where
  | logged (entry : LogEntry)
  | queried (namespaceName metric : String)

def Event.log (level : Level) (message : String) : Event := .logged ⟨level, message, []⟩

def logEntries (events : List Event) : List LogEntry :=
  events.filterMap fun
    | .logged entry => some entry
    | .queried _ _ => none

def metricQueries (events : List Event) : List (String × String) :=
  events.filterMap fun
    | .queried namespaceName metric => some (namespaceName, metric)
    | .logged _ => none

structure Journal (α : Type) where
  events : List Event
  outcome : Except Failure α

namespace Journal

variable {α β : Type}

def pure (value : α) : Journal α := ⟨[], .ok value⟩

/-- Goes on after success only. -/
def bind (journal : Journal α) (next : α → Journal β) : Journal β :=
  match journal.outcome with
  | .ok value => ⟨journal.events ++ (next value).events, (next value).outcome⟩
  | .error failure => ⟨journal.events, .error failure⟩

instance : Monad Journal where
  pure := Journal.pure
  bind := Journal.bind

def ofExcept (outcome : Except Failure α) : Journal α := ⟨[], outcome⟩

def emit (events : List Event) : Journal Unit := ⟨events, .ok ()⟩

def log (level : Level) (message : String) : Journal Unit := emit [.log level message]

end Journal

inductive Logging where
  | kept
  | omitted
deriving DecidableEq, Repr

namespace Logging

/-- Records an entry. One that cannot be made stops a log that is kept, and no other. -/
def record (logging : Logging) (entry : Except Undeclared LogEntry) :
    Except Undeclared (List Event) :=
  match logging with
  | kept => do return [.logged (← entry)]
  | omitted => .ok []

def log (logging : Logging) (level : Level) (message : String) : Journal Unit :=
  match logging with
  | kept => Journal.log level message
  | omitted => Journal.pure ()

end Logging

/-- One call: the events when it starts, the events when it settles, and its outcome. A call that
never gets under way has failed before any other call settles. -/
structure Call (α : Type) where
  isUnderWay : Bool
  started : List Event
  settled : List Event
  outcome : Except Failure α

namespace Call

variable {α β : Type}

/-- A call that leaves a trace when it starts, and none when it settles. -/
def after (started : List Event) (outcome : Except Failure α) : Call α :=
  ⟨true, started, [], outcome⟩

/-- A call that leaves no trace. -/
def silent (outcome : Except Failure α) : Call α := after [] outcome

/-- A call that never gets under way. -/
def stopped (cause : Undeclared) : Call α := ⟨false, [], [], .error (.undeclared cause)⟩

def map (f : α → β) (call : Call α) : Call β := { call with outcome := f <$> call.outcome }

/-- Any number of calls at the same time. -/
def all (calls : List (Call α)) : Call (List α) where
  isUnderWay := true
  started := calls.flatMap started
  settled := calls.flatMap settled
  outcome := do
    let _ ← (calls.filter fun call => !call.isUnderWay).mapM outcome
    calls.mapM outcome

def run (call : Call α) : Journal α := ⟨call.started ++ call.settled, call.outcome⟩

end Call

end ClusterAgent
