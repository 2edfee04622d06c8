import ResponseGate.Json.Token
import ResponseGate.Json.Value

/-!
JSON documents. Tokens are put together by a stack machine: each open array or object waits on the
stack until its closing bracket turns it into a value. A document is one value and nothing else.
-/

namespace ResponseGate.Json

/-- How many arrays and objects may be open at once. -/
def maxDepth : Nat := 127

/-- An array or an object around the value being read, with what it holds so far, latest first. -/
inductive Frame where
  | items (before : List Value)
  | member (before : Members) (key : String)

/-- What may come next, inside the given frames from the innermost outwards. -/
inductive Builder where
  | awaitValue (frames : List Frame)
  | awaitFirstItem (frames : List Frame)
  | afterItem (items : List Value) (frames : List Frame)
  | awaitFirstKey (frames : List Frame)
  | awaitKey (members : Members) (frames : List Frame)
  | afterKey (members : Members) (key : String) (frames : List Frame)
  | afterMember (members : Members) (frames : List Frame)
  | finished (value : Value)

namespace Builder

/-- Hands a complete value to the innermost frame. -/
def complete (value : Value) : List Frame → Builder
  | [] => finished value
  | .items before :: frames => afterItem (value :: before) frames
  | .member before key :: frames => afterMember ((key, value) :: before) frames

/-- Reads the first token of a value. -/
def begin? (frames : List Frame) : Token → Option Builder
  | .null => some (complete .null frames)
  | .boolean value => some (complete (.boolean value) frames)
  | .number value => some (complete (.number value) frames)
  | .string value => some (complete (.string value) frames)
  | .openArray => if frames.length < maxDepth then some (awaitFirstItem frames) else none
  | .openObject => if frames.length < maxDepth then some (awaitFirstKey frames) else none
  | _ => none

def step? : Builder → Token → Option Builder
  | awaitValue frames, token => begin? frames token
  | awaitFirstItem frames, .closeArray => some (complete (.array []) frames)
  | awaitFirstItem frames, token => begin? (.items [] :: frames) token
  | afterItem items frames, .comma => some (awaitValue (.items items :: frames))
  | afterItem items frames, .closeArray => some (complete (.array items.reverse) frames)
  | awaitFirstKey frames, .closeObject => some (complete (.object []) frames)
  | awaitFirstKey frames, .string name => some (afterKey [] name frames)
  | awaitKey members frames, .string name => some (afterKey members name frames)
  | afterKey members name frames, .colon => some (awaitValue (.member members name :: frames))
  | afterMember members frames, .comma => some (awaitKey members frames)
  | afterMember members frames, .closeObject => some (complete (.object members.reverse) frames)
  | _, _ => none

def finish? : Builder → Option Value
  | finished value => some value
  | _ => none

def run? (builder : Builder) (tokens : List Token) : Option Builder := tokens.foldlM step? builder

theorem run?_append (builder : Builder) (front back : List Token) :
    builder.run? (front ++ back) = (builder.run? front).bind (run? · back) := by
  simp only [run?, List.foldlM_append]
  rfl

theorem run?_cons (builder : Builder) (token : Token) (tokens : List Token) :
    builder.run? (token :: tokens) = (builder.step? token).bind (run? · tokens) := by
  simp only [run?, List.foldlM_cons]
  rfl

end Builder

namespace Value

def ofTokens? (tokens : List Token) : Option Value :=
  ((Builder.awaitValue []).run? tokens).bind Builder.finish?

def ofChars? (text : List Char) : Option Value := (tokens? text).bind ofTokens?

/-- Reads a text as one document. -/
def parse? (text : String) : Option Value := ofChars? text.toList

/-- Reads bytes as one document in UTF-8. -/
def parseBytes? (bytes : List UInt8) : Option Value :=
  (String.fromUTF8? ⟨bytes.toArray⟩).bind parse?

end Value

end ResponseGate.Json
