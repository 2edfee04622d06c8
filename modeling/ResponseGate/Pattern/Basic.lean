import ResponseGate.Text.Character

/-!
Patterns for phrases in running text, and their matcher. A pattern is read from a place in a text;
since word edges look at the neighbouring characters, a place remembers the character before it.
-/

namespace ResponseGate

open Text

/-- The classes of characters a pattern can repeat. -/
inductive CharKind where
  | blank
  | word
  deriving DecidableEq, Repr

def CharKind.admits : CharKind → Char → Bool
  | .blank => isBlank
  | .word => isWord

/-- Phrases: letters are matched in any case, and an edge is a place where exactly one of the
neighbouring characters is a word character. -/
inductive Pattern where
  | empty
  | edge
  | literal (letters : List Char)
  | one (kind : CharKind)
  | many (kind : CharKind)
  | seq (first second : Pattern)
  | either (left right : Pattern)
  deriving Repr

/-- A place in a text: the character just before it, if any, and everything after it. -/
structure Place where
  previous : Option Char
  rest : List Char
  deriving DecidableEq, Repr

namespace Place

def start (text : List Char) : Place := ⟨none, text⟩

def atEdge (place : Place) : Bool :=
  place.previous.any isWord != place.rest.head?.any isWord

/-- The place after the given letters, when they stand here in some case. -/
def skip? : Place → List Char → Option Place
  | place, [] => some place
  | ⟨_, []⟩, _ :: _ => none
  | ⟨_, c :: rest⟩, letter :: letters =>
    if sameLetter c letter then skip? ⟨some c, rest⟩ letters else none

end Place

/-- Some number of characters of one kind, none included, and then what `accept` wants. -/
def CharKind.repeatThen (kind : CharKind) (accept : Place → Bool) : Option Char → List Char → Bool
  | previous, [] => accept ⟨previous, []⟩
  | previous, c :: rest =>
    accept ⟨previous, c :: rest⟩ || (kind.admits c && kind.repeatThen accept (some c) rest)

namespace Pattern

/-- Whether the pattern matches at a place so that `accept` holds of the place where it ends. Every
way of matching is tried. -/
def matchThen : Pattern → Place → (Place → Bool) → Bool
  | empty, place, accept => accept place
  | edge, place, accept => place.atEdge && accept place
  | literal letters, place, accept => (place.skip? letters).any accept
  | one kind, ⟨_, rest⟩, accept =>
    match rest with
    | [] => false
    | c :: rest => kind.admits c && accept ⟨some c, rest⟩
  | many kind, ⟨previous, rest⟩, accept => kind.repeatThen accept previous rest
  | seq first second, place, accept =>
    first.matchThen place fun middle => second.matchThen middle accept
  | either left right, place, accept => left.matchThen place accept || right.matchThen place accept

def matchesAt (pattern : Pattern) (place : Place) : Bool :=
  pattern.matchThen place fun _ => true

/-! ### Building patterns -/

instance : Append Pattern := ⟨seq⟩

/-- The letters of a text, in any case. -/
def phrase (text : String) : Pattern := literal text.toList

def oneOrMore (kind : CharKind) : Pattern := one kind ++ many kind

def optional (pattern : Pattern) : Pattern := either pattern empty

/-- One of several texts, each in any case. -/
def oneOf (first : String) : List String → Pattern
  | [] => phrase first
  | second :: others => either (phrase first) (oneOf second others)

/-- At least one white space character. -/
def gap : Pattern := oneOrMore .blank

/-- A pattern between word edges. -/
def whole (pattern : Pattern) : Pattern := edge ++ pattern ++ edge

end Pattern

end ResponseGate
