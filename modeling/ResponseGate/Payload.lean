import ResponseGate.Decision
import ResponseGate.Input
import ResponseGate.Json.Document
import ResponseGate.Json.Mismatch

/-!
The payload a host writes once per stop: one JSON object. Of its members only four matter, each may
be missing or null, and all others are ignored.
-/

namespace ResponseGate

structure Payload where
  transcriptPath : Option String
  /-- Set by the host when this stop already follows a rejection. -/
  stopHookActive : Option Bool
  sessionId : Option String
  hookEventName : Option String
  deriving DecidableEq, Repr

inductive PayloadError where
  | unreadable (fault : ReadFault)
  | malformed
  /-- The document is of another kind, which is named with its article. -/
  | notAnObject (kind : String)
  | mistyped (mismatch : Json.Mismatch)

/-- One line for the host. What breaks the JSON grammar is not described further. -/
def PayloadError.message : PayloadError → String
  | unreadable fault => "Error parsing input: " ++ fault.message
  | malformed => "Error parsing input: <syntax>"
  | notAnObject kind => "Error parsing input: expected a JSON object, got " ++ kind
  | mistyped mismatch => "Error parsing input: " ++ mismatch.message

/-- Where the payload leads: to a transcript, or to letting the response stand unread. -/
inductive Resolution where
  | skip (reason : SkipReason)
  | proceed (path : String)
  deriving DecidableEq, Repr

namespace Payload

/-- Checks the known members in the order of their keys, so the least wrong one is reported. -/
def ofMembers (members : Json.Members) : Except Json.Mismatch Payload := do
  let hookEventName ← members.string? "hook_event_name"
  let sessionId ← members.string? "session_id"
  let stopHookActive ← members.boolean? "stop_hook_active"
  let transcriptPath ← members.string? "transcript_path"
  return { transcriptPath, stopHookActive, sessionId, hookEventName }

def ofValue : Json.Value → Except PayloadError Payload
  | .object members => (ofMembers members).mapError .mistyped
  | .null => .error (.notAnObject "null")
  | .boolean _ => .error (.notAnObject "a boolean")
  | .number _ => .error (.notAnObject "a number")
  | .string _ => .error (.notAnObject "a string")
  | .array _ => .error (.notAnObject "an array")

def parse (text : String) : Except PayloadError Payload :=
  match Json.Value.parse? text with
  | none => .error .malformed
  | some value => ofValue value

/-- Reads a stream to its end. A failing device is reported before anything its bytes may hold. -/
def ofStream (stream : Stream) : Except PayloadError Payload :=
  match stream.failure with
  | some account => .error (.unreadable (.device account))
  | none =>
    match String.fromUTF8? stream.bytes with
    | none => .error (.unreadable .notUtf8)
    | some text => parse text

def alreadyRetrying (payload : Payload) : Bool := payload.stopHookActive.getD false

/-- A retry is never judged again, whatever else the payload says. -/
def resolve (payload : Payload) : Resolution :=
  if payload.alreadyRetrying then .skip .alreadyRetrying
  else
    match payload.transcriptPath with
    | none => .skip .noTranscriptPath
    | some path => if path.isEmpty then .skip .noTranscriptPath else .proceed path

end Payload

end ResponseGate
