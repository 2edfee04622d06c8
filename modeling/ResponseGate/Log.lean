import ResponseGate.Decision
import ResponseGate.Input
import ResponseGate.Text.Quoted
import ResponseGate.Transcript.Record

/-!
Diagnostic events: what happened while a stop was judged, how grave it is, and how much of it is
written. Being more verbose adds events and never changes or reorders the others; from debug on,
each line also tells which stop it belongs to.
-/

namespace ResponseGate

/-- Levels of gravity, the gravest first. -/
inductive Level where
  | error
  | warn
  | info
  | debug
  | trace
  deriving DecidableEq, Repr

namespace Level

def rank : Level → Nat
  | error => 1
  | warn => 2
  | info => 3
  | debug => 4
  | trace => 5

/-- The name in a log line, filled up on the left to five characters. -/
def tag : Level → String
  | error => "ERROR"
  | warn => " WARN"
  | info => " INFO"
  | debug => "DEBUG"
  | trace => "TRACE"

end Level

/-- The parts of the gate that report events. -/
inductive Origin where
  | gate
  | decision
  | transcript
  deriving DecidableEq, Repr

def Origin.name : Origin → String
  | gate => "constitution_enforcer"
  | decision => "constitution_enforcer::verdict"
  | transcript => "constitution_enforcer::transcript"

inductive Event where
  | malformedLine (error : RecordError)
  | readFailed (fault : ReadFault)
  | unavailable (path : String) (fault : OpenFault)
  | matched (labels : List String)
  | skipping (reason : SkipReason)
  | nothingFound
  | rejecting (labels : List String)

namespace Event

def level : Event → Level
  | malformedLine _ => .trace
  | readFailed _ => .debug
  | unavailable _ _ => .debug
  | matched _ => .info
  | skipping _ => .debug
  | nothingFound => .debug
  | rejecting _ => .warn

def origin : Event → Origin
  | malformedLine _ => .transcript
  | readFailed _ => .transcript
  | unavailable _ _ => .transcript
  | matched _ => .decision
  | skipping _ => .gate
  | nothingFound => .gate
  | rejecting _ => .gate

/-- What happened, with its particulars. -/
def message : Event → String
  | malformedLine error => "skipping malformed transcript line err=" ++ error.message
  | readFailed fault => "transcript read failed mid-scan err=" ++ fault.message
  | unavailable path fault => "transcript unavailable path=" ++ path ++ " err=" ++ fault.message
  | matched labels => "deferral patterns matched matched=" ++ Text.quoteList labels
  | skipping reason => "approving without scan reason=" ++ reason.message
  | nothingFound => "no deferral language found"
  | rejecting labels => "rejecting response labels=" ++ Text.quoteList labels

end Event

/-! ### Verbosity -/

/-- The least grave level that is written, if any is. -/
abbrev Verbosity := Option Level

/-- The stop an event belongs to, with the names that stand in where a payload gives none. -/
structure Span where
  session : String := "unknown"
  event : String := "Stop"
  deriving DecidableEq, Repr

namespace Verbosity

/-- Silence, or a level by its name or number. -/
def ofName? (name : String) : Option Verbosity :=
  match name.map Char.toLower with
  | "off" | "0" => some none
  | "error" | "1" | "" => some (some .error)
  | "warn" | "2" => some (some .warn)
  | "info" | "3" => some (some .info)
  | "debug" | "4" => some (some .debug)
  | "trace" | "5" => some (some .trace)
  | _ => none

def admits (verbosity : Verbosity) (level : Level) : Bool :=
  verbosity.any fun least => level.rank ≤ least.rank

/-- The line of an event, without the line break. -/
def line (verbosity : Verbosity) (span : Span) (event : Event) : String :=
  let (before, after) :=
    if verbosity.admits .debug then
      ("stop_hook: ",
        " session=" ++ Text.quote span.session ++ " event=" ++ Text.quote span.event)
    else ("", "")
  event.level.tag ++ " " ++ before ++ event.origin.name ++ ": " ++ event.message ++ after

def admitted (verbosity : Verbosity) (events : List Event) : List Event :=
  events.filter fun event => verbosity.admits event.level

end Verbosity

end ResponseGate
