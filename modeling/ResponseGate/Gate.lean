import ResponseGate.Decision
import ResponseGate.Log
import ResponseGate.Payload
import ResponseGate.Transcript.Turn

/-!
The gate: one stop from payload to exit status. A payload that cannot be understood is refused;
anything that later prevents judging the response lets it stand.
-/

namespace ResponseGate

inductive Verdict where
  | refused (error : PayloadError)
  | skipped (reason : SkipReason)
  | judged (response : String) (decision : Decision)

/-- The exit status a host acts on. -/
def Verdict.exitCode : Verdict → Nat
  | refused _ => 1
  | skipped _ => 0
  | judged _ .approve => 0
  | judged _ (.reject _) => 2

/-- The line a host reads on the error channel, if there is one. -/
def Verdict.report? : Verdict → Option String
  | refused error => some error.message
  | skipped _ => none
  | judged _ .approve => none
  | judged _ (.reject report) => some report.message

/-- A verdict with everything that was reported on the way to it. -/
structure Outcome where
  verdict : Verdict
  span : Span
  events : List Event

/-- What the host sees of a stop: the exit status and the texts on the two output channels. -/
structure Reaction where
  exitCode : Nat
  output : String
  errors : String
  deriving DecidableEq, Repr

namespace Outcome

/-- The lines on the error channel: first the events that are written, then the report. -/
def errorLines (outcome : Outcome) (verbosity : Verbosity) : List String :=
  (verbosity.admitted outcome.events).map (verbosity.line outcome.span) ++
    outcome.verdict.report?.toList

/-- Every line ends in a line break, and nothing goes to the standard output. -/
def reaction (outcome : Outcome) (verbosity : Verbosity) : Reaction where
  exitCode := outcome.verdict.exitCode
  output := ""
  errors := String.join ((outcome.errorLines verbosity).map (· ++ "\n"))

end Outcome

namespace Gate

def spanOf (payload : Payload) : Span :=
  let unnamed : Span := {}
  ⟨payload.sessionId.getD unnamed.session, payload.hookEventName.getD unnamed.event⟩

def decisionEvents (response : String) : Decision → List Event
  | .approve => [.nothingFound]
  | .reject report =>
    [.matched (Decision.matchedLabels Catalogue.rules response), .rejecting report.labels]

/-- Judges what a search found. -/
def conclude (span : Span) (search : Search) : Outcome :=
  match search.extraction with
  | .nothing reason => ⟨.skipped reason, span, search.events ++ [.skipping reason]⟩
  | .response text =>
    let decision := Decision.scan text
    ⟨.judged text decision, span, search.events ++ decisionEvents text decision⟩

/-- A file by its path. No file is asked for under a name that none can have. -/
def openFile {m : Type → Type} [Monad m] (contents : String → m FileState) (path : String) :
    m FileState :=
  if path.toList.contains '\x00' then pure (.error .nulInName) else contents path

/-- Handles one stop, given a way to get at the contents of files. -/
def runWith {m : Type → Type} [Monad m] (contents : String → m FileState) (stream : Stream) :
    m Outcome :=
  match Payload.ofStream stream with
  | .error error => pure ⟨.refused error, {}, []⟩
  | .ok payload =>
    let span := spanOf payload
    match payload.resolve with
    | .skip reason => pure ⟨.skipped reason, span, [.skipping reason]⟩
    | .proceed path => do
      let file ← openFile contents path
      return conclude span (Search.file path file)

/-- Handles one stop when the files are known. -/
def run (contents : String → FileState) (stream : Stream) : Outcome :=
  Id.run (runWith (fun path => pure (contents path)) stream)

end Gate

end ResponseGate
