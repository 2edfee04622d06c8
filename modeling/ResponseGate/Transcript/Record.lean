import ResponseGate.Json.Document
import ResponseGate.Json.Mismatch

/-!
Transcript records: one line of the transcript is one JSON object, which says who spoke and what
blocks the message holds. Only text blocks are judged.
-/

namespace ResponseGate

inductive Role where
  | assistant
  | other
  deriving DecidableEq, Repr

inductive Block where
  | text (content : String)
  | other
  deriving DecidableEq, Repr

/-- A record as far as the gate reads it. The type is kept as given, the message as its blocks. -/
structure Record where
  type : Option String
  blocks : List Block
  deriving DecidableEq, Repr

inductive RecordError where
  | malformed
  | notAnObject
  | mistyped (mismatch : Json.Mismatch)
  /-- A message given by position had this many parts, and only one has a meaning. -/
  | tooManyParts (count : Nat)

def RecordError.message : RecordError → String
  | malformed => "<syntax>"
  | notAnObject => "transcript record is not a JSON object"
  | mistyped mismatch => mismatch.message
  | tooManyParts count =>
    "invalid length " ++ toString count ++ ", expected fewer elements in array"

/-- Text blocks are the objects whose type is given last as text; their text may be missing. -/
def Block.ofValue (value : Json.Value) : Block :=
  if (value.member? "type").bind Json.Value.asString? = some "text" then
    text (((value.member? "text").bind Json.Value.asString?).getD "")
  else other

/-- The blocks of a message's content. Content that is no array, or no content, holds none. -/
def Block.ofContent (content : Option Json.Value) : List Block :=
  (content.map Json.Value.items).getD [] |>.map Block.ofValue

namespace Record

/-- The blocks of a message, which is given by name or, as an array, by position. -/
def messageBlocks : Option Json.Value → Except RecordError (List Block)
  | none => .ok []
  | some .null => .ok []
  | some (.object members) => .ok (Block.ofContent (Json.Members.last? members "content"))
  | some (.array []) => .ok []
  | some (.array [content]) => .ok (Block.ofContent content)
  | some (.array parts) => .error (.tooManyParts parts.length)
  | some found => .error (.mistyped ⟨found, .message⟩)

/-- Checks the message before the type, which is the order of their keys. -/
def ofMembers (members : Json.Members) : Except RecordError Record := do
  let blocks ← messageBlocks (members.last? "message")
  let type ← (members.string? "type").mapError .mistyped
  return { type, blocks }

/-- Only objects are records. -/
def ofValue : Json.Value → Except RecordError Record
  | .object members => ofMembers members
  | _ => .error .notAnObject

def ofLine (line : List UInt8) : Except RecordError Record :=
  match Json.Value.parseBytes? line with
  | none => .error .malformed
  | some value => ofValue value

def role (record : Record) : Role :=
  if record.type = some "assistant" then .assistant else .other

/-- Every text block in order, each followed by a line break. -/
def text (record : Record) : String :=
  String.join (record.blocks.map fun
    | .text content => content ++ "\n"
    | .other => "")

end Record

end ResponseGate
