import ResponseGate.Pattern.Basic

/-!
Rules and their catalogue. A rule is a phrase that may not occur in a response, and the label it is
reported under. The catalogue holds the phrases of deferral: hedging, promises for later, scope
dodging, shifting work to the reader, minimization, and unresolved code markers.
-/

namespace ResponseGate

structure Rule where
  pattern : Pattern
  label : String
  /-- Occurrences followed by this pattern do not count. -/
  unlessFollowedBy : Option Pattern := none

namespace Rule

/-- Whether an occurrence that ends here counts. What follows is judged without what precedes. -/
def counts (rule : Rule) (finish : Place) : Bool :=
  match rule.unlessFollowedBy with
  | none => true
  | some pattern => !pattern.matchesAt (Place.start finish.rest)

def holdsAt (rule : Rule) (place : Place) : Bool :=
  rule.pattern.matchThen place rule.counts

/-- Whether an occurrence that counts begins at this place or at a later one. -/
def occursFrom (rule : Rule) : Option Char → List Char → Bool
  | previous, [] => rule.holdsAt ⟨previous, []⟩
  | previous, c :: rest =>
    rule.holdsAt ⟨previous, c :: rest⟩ || rule.occursFrom (some c) rest

def occursIn (rule : Rule) (text : List Char) : Bool :=
  rule.occursFrom none text

/-- A rule matches a text when any occurrence of its pattern counts. -/
def isMatch (rule : Rule) (text : String) : Bool :=
  rule.occursIn text.toList

end Rule

/-! ### The catalogue

Order matters: it is the order of the report. -/

namespace Catalogue

open Pattern

def hedge (pattern : Pattern) (quoted : String) : Rule where
  pattern := whole pattern
  label := "Hedging: \"" ++ quoted ++ "\""

def deferral (pattern : Pattern) (quoted : String) : Rule where
  pattern := whole pattern
  label := "Deferral: \"" ++ quoted ++ "\""

def shift (quoted : String) : Rule where
  pattern := whole (phrase quoted)
  label := "Shifting: \"" ++ quoted ++ "\""

def minimization (pattern : Pattern) (quoted : String) : Rule where
  pattern := whole pattern
  label := "Minimization: \"" ++ quoted ++ "\""

/-- A marker counts directly after a comment sign or after white space that follows it. -/
def marker (sign word : String) : Rule where
  pattern := phrase sign ++ many .blank ++ phrase word ++ edge
  label := "Code marker: " ++ word

def hedging : List Rule :=
  [hedge (phrase "you might want to") "you might want to",
    hedge (phrase "you could also") "you could also",
    hedge (phrase "consider" ++ gap ++ oneOf "adding" ["implementing", "using"]) "consider",
    hedge (phrase "it would be good to") "it would be good to"]

/-- A word of one's own between "we can" and "later". -/
def weCanLater : Rule :=
  deferral (phrase "we can" ++ gap ++ oneOrMore .word ++ gap ++ phrase "later") "we can X later"

/-- One or two words of one's own between the promise and "later". -/
def iWillLater : Rule :=
  deferral (phrase "I" ++ oneOf "'ll" [" will"] ++ gap ++ oneOrMore .word ++
    optional (gap ++ oneOrMore .word) ++ gap ++ phrase "later") "I'll X later"

def ifNeeded : Rule :=
  deferral (phrase "if needed" ++ many .blank ++ optional (phrase "in the future")) "if needed"

def promises : List Rule :=
  [deferral (phrase "phase 2") "phase 2",
    deferral (phrase "future enhancement") "future enhancement",
    deferral (phrase "future iteration") "future iteration",
    deferral (phrase "can be" ++ gap ++ oneOf "added" ["implemented", "made"] ++ gap ++
      oneOf "later" ["more dynamic"]) "can be X later",
    weCanLater, iWillLater, ifNeeded,
    deferral (phrase "when needed") "when needed"]

def scopeDodging : List Rule :=
  [deferral (phrase "out of scope") "out of scope",
    deferral (phrase "beyond" ++ gap ++ optional (phrase "the" ++ gap) ++ phrase "scope")
      "beyond scope",
    deferral (phrase "not in scope") "not in scope",
    deferral (phrase "outside" ++ gap ++ optional (phrase "the" ++ gap) ++ phrase "scope")
      "outside scope"]

def shifting : List Rule :=
  [shift "you will need to", shift "you'll need to", shift "don't forget to", shift "make sure to"]

/-- A plan in the first person: at most one comma, white space, and the letter that begins it. -/
def firstPersonPlan : Pattern :=
  optional (phrase ",") ++ many .blank ++ phrase "I"

def forNow : Rule :=
  { minimization (phrase "for now") "for now" with unlessFollowedBy := firstPersonPlan }

def minimizing : List Rule :=
  [minimization (phrase "basic implementation") "basic implementation",
    minimization (phrase "simplified" ++ gap ++ phrase "version") "simplified version",
    forNow,
    minimization
      (phrase "use a" ++ gap ++ optional (phrase "reasonable" ++ gap) ++ phrase "default")
      "use a default",
    minimization (phrase "a simple" ++ gap ++ phrase "approach") "a simple approach"]

def codeMarkers : List Rule :=
  ["TODO", "FIXME", "PLACEHOLDER", "HACK", "XXX", "STUB"].map (marker "//") ++
    ["TODO", "FIXME"].map (marker "#")

def rules : List Rule :=
  hedging ++ promises ++ scopeDodging ++ shifting ++ minimizing ++ codeMarkers

end Catalogue

end ResponseGate
