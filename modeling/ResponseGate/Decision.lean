import ResponseGate.Catalogue

/-!
Judging a response: the rules that match it decide whether it stands, and a rejection names their
labels on one line. Some responses stand without being judged.
-/

namespace ResponseGate

/-- Reasons to let a response stand without judging its text. -/
inductive SkipReason where
  | alreadyRetrying
  | noTranscriptPath
  | transcriptUnavailable
  | noAssistantTurn
  | emptyResponse
  deriving DecidableEq, Repr

def SkipReason.message : SkipReason → String
  | alreadyRetrying => "already retrying after a rejection"
  | noTranscriptPath => "no transcript path"
  | transcriptUnavailable => "transcript unavailable"
  | noAssistantTurn => "no assistant turn in transcript"
  | emptyResponse => "latest assistant turn has no text"

/-! ### Reports -/

/-- Which labels a rejection names. -/
structure Report where
  labels : List String
  deriving DecidableEq, Repr

namespace Report

/-- Most labels a report names. -/
def maxLabels : Nat := 5

/-- Each label once, where it first occurs, and no more than the limit. -/
def ofLabels (matched : List String) : Report :=
  ⟨matched.eraseDups.take maxLabels⟩

def opening : String :=
  "CONSTITUTION VIOLATION DETECTED. You MUST fix this and retry. Violations: "

def closing : String :=
  ". You are PROHIBITED from deferring requirements. " ++
    "Solve the problem NOW or state BLOCKER: [specific issue] and ask for a decision."

/-- The line the host shows when it sends the response back. -/
def message (report : Report) : String :=
  opening ++ String.intercalate ", " report.labels ++ closing

end Report

/-! ### Decisions -/

inductive Decision where
  | approve
  | reject (report : Report)
  deriving DecidableEq, Repr

namespace Decision

/-- The labels of the rules that match a text, in the order of the rules and with repetitions. -/
def matchedLabels (rules : List Rule) (text : String) : List String :=
  let letters := text.toList
  (rules.filter fun rule => rule.occursIn letters).map Rule.label

/-- A text is rejected as soon as one label was matched. -/
def ofMatched : List String → Decision
  | [] => approve
  | label :: others => reject (Report.ofLabels (label :: others))

def scanWith (rules : List Rule) (text : String) : Decision :=
  ofMatched (matchedLabels rules text)

def scan (text : String) : Decision :=
  scanWith Catalogue.rules text

end Decision

end ResponseGate
