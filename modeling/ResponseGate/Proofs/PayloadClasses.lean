import ResponseGate.Payload
import ResponseGate.Proofs.MistypedMembers
import ResponseGate.Proofs.ReadDocuments
import ResponseGate.Proofs.Utf8Text

/-!
The classes of payloads. What a stream is read as follows from its bytes and the way it ends, class
by class; among the members that are wrongly typed the least key is reported, in whatever order they
come.
-/

namespace ResponseGate

/-- A stream that ends by itself and holds a document of the grammar, in UTF-8. -/
def Stream.Delivers (stream : Stream) (value : Json.Value) : Prop :=
  stream.failure = none ∧
    ∃ text : String, stream.bytes = text.toUTF8 ∧ Json.Document text.toList value

theorem Stream.Delivers.document {stream : Stream} {value : Json.Value} {text : String}
    (delivers : stream.Delivers value) (decoded : stream.bytes = text.toUTF8) :
    Json.Document text.toList value := by
  obtain ⟨_, other, same, document⟩ := delivers
  obtain rfl : text = other := String.toByteArray_inj.mp (decoded.symm.trans same)
  exact document

theorem Stream.Delivers.unique {stream : Stream} {value other : Json.Value}
    (delivers : stream.Delivers value) (also : stream.Delivers other) : value = other := by
  obtain ⟨_, text, decoded, document⟩ := delivers
  have read := Json.Value.ofChars?_eq_some_iff.mpr document
  exact Option.some.inj
    (read.symm.trans (Json.Value.ofChars?_eq_some_iff.mpr (also.document decoded)))

namespace Payload

open Json (FieldType Members Mismatch Value Wanted)

/-! ### What a stream can be -/

/-- The kinds of documents that are no objects, as they are named with their articles. -/
inductive OtherKind : Value → String → Prop where
  | null : OtherKind .null "null"
  | boolean (value : Bool) : OtherKind (.boolean value) "a boolean"
  | number (value : Json.Number) : OtherKind (.number value) "a number"
  | string (value : String) : OtherKind (.string value) "a string"
  | array (items : List Value) : OtherKind (.array items) "an array"

/-- The members that are read, and what each of them wants. -/
def knownMembers : List (String × Wanted) :=
  [("hook_event_name", .string), ("session_id", .string), ("stop_hook_active", .boolean),
    ("transcript_path", .string)]

/-- Keys in the order of their bytes. -/
def Before (key other : String) : Prop := key.toUTF8.data.toList < other.toUTF8.data.toList

/-- The account of the least known member that is wrongly typed. -/
def LeastMistyped (members : Members) (mismatch : Mismatch) : Prop :=
  ∃ key, (key, mismatch.wanted) ∈ knownMembers ∧ members.Mistyped key mismatch ∧
    ∀ other found wanted, (other, wanted) ∈ knownMembers → members.Mistyped other ⟨found, wanted⟩ →
      other = key ∨ Before key other

/-- The fields of a payload hold what the known members of an object were given last. -/
structure FieldsOf (members : Members) (payload : Payload) : Prop where
  transcriptPath : members.Field "transcript_path" .string payload.transcriptPath
  stopHookActive : members.Field "stop_hook_active" .boolean payload.stopHookActive
  sessionId : members.Field "session_id" .string payload.sessionId
  hookEventName : members.Field "hook_event_name" .string payload.hookEventName

/-- A stream delivers an object with these fields. -/
def Accepted (stream : Stream) (payload : Payload) : Prop :=
  ∃ members, stream.Delivers (.object members) ∧ FieldsOf members payload

/-- What a stream has to be read as. -/
inductive Classified (stream : Stream) : Except PayloadError Payload → Prop where
  | failed {account : String} (failure : stream.failure = some account) :
    Classified stream (.error (.unreadable (.device account)))
  | notUtf8 (whole : stream.failure = none)
      (undecodable : ∀ text : String, stream.bytes ≠ text.toUTF8) :
    Classified stream (.error (.unreadable .notUtf8))
  | malformed {text : String} (whole : stream.failure = none) (decoded : stream.bytes = text.toUTF8)
      (ungrammatical : ∀ value, ¬ Json.Document text.toList value) :
    Classified stream (.error .malformed)
  | notAnObject {value : Value} {kind : String} (delivers : stream.Delivers value)
      (other : OtherKind value kind) :
    Classified stream (.error (.notAnObject kind))
  | mistyped {members : Members} {mismatch : Mismatch}
      (delivers : stream.Delivers (.object members))
      (least : LeastMistyped members mismatch) :
    Classified stream (.error (.mistyped mismatch))
  | accepted {payload : Payload} (accepted : Accepted stream payload) :
    Classified stream (.ok payload)

/-- The streams that are refused. -/
inductive Unacceptable (stream : Stream) : Prop where
  | unreadable {account : String} (failed : stream.failure = some account) : Unacceptable stream
  | notUtf8 (undecodable : ∀ text : String, stream.bytes ≠ text.toUTF8) : Unacceptable stream
  | malformed {text : String} (decoded : stream.bytes = text.toUTF8)
      (ungrammatical : ∀ value, ¬ Json.Document text.toList value) : Unacceptable stream
  | notAnObject {value : Value} (delivers : stream.Delivers value)
      (other : ∀ members, value ≠ .object members) : Unacceptable stream
  | mistyped {members : Members} {key : String} {mismatch : Mismatch}
      (delivers : stream.Delivers (.object members)) (known : (key, mismatch.wanted) ∈ knownMembers)
      (mistyped : members.Mistyped key mismatch) : Unacceptable stream

variable {members : Members} {mismatch : Mismatch} {payload : Payload} {stream : Stream}

/-! ### Kinds -/

theorem OtherKind.ne_object {value : Value} {kind : String} (other : OtherKind value kind) :
    ∀ members, value ≠ .object members := by
  rintro members rfl
  cases other

theorem ofValue_of_otherKind {value : Value} {kind : String} (other : OtherKind value kind) :
    ofValue value = .error (.notAnObject kind) := by
  cases other <;> rfl

theorem object_or_otherKind (value : Value) :
    (∃ members, value = .object members) ∨ ∃ kind, OtherKind value kind := by
  cases value with
  | object members => exact .inl ⟨members, rfl⟩
  | null => exact .inr ⟨_, .null⟩
  | boolean value => exact .inr ⟨_, .boolean value⟩
  | number value => exact .inr ⟨_, .number value⟩
  | string value => exact .inr ⟨_, .string value⟩
  | array items => exact .inr ⟨_, .array items⟩

/-! ### Members that are mistyped -/

theorem Before.asymm {key other : String} (before : Before key other) : ¬ Before other key :=
  fun after => List.lt_asymm before after

theorem lookup_of_known {key : String} {wanted : Wanted} (known : (key, wanted) ∈ knownMembers) :
    knownMembers.lookup key = some wanted := by
  simp only [knownMembers, List.mem_cons, List.not_mem_nil, or_false, Prod.mk.injEq] at known
  rcases known with ⟨rfl, rfl⟩ | ⟨rfl, rfl⟩ | ⟨rfl, rfl⟩ | ⟨rfl, rfl⟩
  all_goals rfl

/-- Only one mismatch is the least. -/
theorem LeastMistyped.unique {other : Mismatch} (least : LeastMistyped members mismatch)
    (also : LeastMistyped members other) : mismatch = other := by
  obtain ⟨found, wanted⟩ := mismatch
  obtain ⟨otherFound, otherWanted⟩ := other
  obtain ⟨key, known, mistyped, first⟩ := least
  obtain ⟨otherKey, otherKnown, otherMistyped, otherFirst⟩ := also
  have same : key = otherKey := by
    rcases first otherKey otherFound otherWanted otherKnown otherMistyped with same | before
    · exact same.symm
    · rcases otherFirst key found wanted known mistyped with same | after
      · exact same
      · exact absurd after before.asymm
  subst same
  have wants : wanted = otherWanted :=
    Option.some.inj ((lookup_of_known known).symm.trans (lookup_of_known otherKnown))
  have holds : found = otherFound := mistyped.given.unique otherMistyped.given
  rw [wants, holds]

/-- Of the known members the first that is mistyped is the least, for they are listed in order. -/
theorem leastMistyped_of_split {key : String} (earlier later : List (String × Wanted))
    (split : knownMembers = earlier ++ (key, mismatch.wanted) :: later)
    (mistyped : members.Mistyped key mismatch)
    (fine : ∀ known ∈ earlier, ∀ found, ¬ members.Mistyped known.1 ⟨found, known.2⟩) :
    LeastMistyped members mismatch := by
  have ordered : knownMembers.Pairwise fun known other => Before known.1 other.1 := by
    unfold Before
    decide +kernel
  rw [split] at ordered
  refine ⟨key, by simp [split], mistyped, ?_⟩
  intro other found wanted known wrong
  rw [split, List.mem_append, List.mem_cons] at known
  rcases known with before | same | after
  · exact absurd wrong (fine _ before found)
  · exact .inl (congrArg Prod.fst same)
  · have behind := List.rel_of_pairwise_cons (List.pairwise_append.mp ordered).2.1 after
    exact .inr behind

theorem leastMistyped_of_ofMembers (refused : ofMembers members = .error mismatch) :
    LeastMistyped members mismatch := by
  simp only [ofMembers, bind_eq_error_iff, Members.string?_eq_read?,
    Members.boolean?_eq_read?] at refused
  rcases refused with
    event | ⟨_, event, session | ⟨_, session, active | ⟨_, active, path | ⟨_, _, done⟩⟩⟩⟩
  · obtain ⟨wants, mistyped⟩ := FieldType.text.read?_eq_error_iff.mp event
    exact leastMistyped_of_split [] _ (by rw [wants]; rfl) mistyped (by simp)
  · obtain ⟨wants, mistyped⟩ := FieldType.text.read?_eq_error_iff.mp session
    refine leastMistyped_of_split [_] _ (by rw [wants]; rfl) mistyped ?_
    simpa using FieldType.text.not_mistyped_of_read? event
  · obtain ⟨wants, mistyped⟩ := FieldType.flag.read?_eq_error_iff.mp active
    refine leastMistyped_of_split [_, _] _ (by rw [wants]; rfl) mistyped ?_
    simpa using
      ⟨FieldType.text.not_mistyped_of_read? event, FieldType.text.not_mistyped_of_read? session⟩
  · obtain ⟨wants, mistyped⟩ := FieldType.text.read?_eq_error_iff.mp path
    refine leastMistyped_of_split [_, _, _] _ (by rw [wants]; rfl) mistyped ?_
    simpa using
      ⟨FieldType.text.not_mistyped_of_read? event, FieldType.text.not_mistyped_of_read? session,
      FieldType.flag.not_mistyped_of_read? active⟩
  · cases done

/-! ### Fields -/

/-- Each field of a payload is read from its own member. -/
theorem ofMembers_eq_ok_iff : ofMembers members = .ok payload ↔ FieldsOf members payload := by
  simp only [ofMembers, bind_eq_ok_iff, Members.string?_eq_read?, Members.boolean?_eq_read?,
    FieldType.read?_eq_ok_iff]
  constructor
  · rintro ⟨event, hookEventName, session, sessionId, active, stopHookActive, path,
      transcriptPath, made⟩
    cases made
    exact ⟨transcriptPath, stopHookActive, sessionId, hookEventName⟩
  · intro fields
    exact ⟨_, fields.hookEventName, _, fields.sessionId, _, fields.stopHookActive, _,
      fields.transcriptPath, rfl⟩

/-- Where all fields hold something, nothing known is mistyped. -/
theorem FieldsOf.not_mistyped {key : String} (fields : FieldsOf members payload)
    (known : (key, mismatch.wanted) ∈ knownMembers) : ¬ members.Mistyped key mismatch := by
  obtain ⟨found, wanted⟩ := mismatch
  simp only [knownMembers, List.mem_cons, List.not_mem_nil, or_false, Prod.mk.injEq] at known
  rcases known with ⟨rfl, rfl⟩ | ⟨rfl, rfl⟩ | ⟨rfl, rfl⟩ | ⟨rfl, rfl⟩
  · exact FieldType.text.not_mistyped fields.hookEventName found
  · exact FieldType.text.not_mistyped fields.sessionId found
  · exact FieldType.flag.not_mistyped fields.stopHookActive found
  · exact FieldType.text.not_mistyped fields.transcriptPath found

/-- The least mistyped member is reported, in whatever order the members come. -/
theorem ofMembers_eq_error_iff :
    ofMembers members = .error mismatch ↔ LeastMistyped members mismatch := by
  constructor
  · exact leastMistyped_of_ofMembers
  · intro least
    cases read : ofMembers members with
    | error other => rw [(leastMistyped_of_ofMembers read).unique least]
    | ok payload =>
      obtain ⟨key, known, mistyped, _⟩ := least
      exact absurd mistyped ((ofMembers_eq_ok_iff.mp read).not_mistyped known)

/-! ### Members that do not matter -/

theorem ofStream_of_text (text : String) : ofStream ⟨text.toUTF8, none⟩ = parse text := by
  have decoded : String.fromUTF8? text.toUTF8 = some text := Text.fromUTF8?_eq_some_iff.mpr rfl
  rw [ofStream, decoded]

theorem ofStream_of_delivers {value : Value} (delivers : stream.Delivers value) :
    ofStream stream = ofValue value := by
  obtain ⟨whole, text, decoded, document⟩ := delivers
  have same : stream = ⟨text.toUTF8, none⟩ := by
    cases stream
    cases whole
    cases decoded
    rfl
  rw [same, ofStream_of_text, parse, Value.parse?, Value.ofChars?_eq_some_iff.mpr document]

/-- Every class leads to its own result. -/
theorem ofStream_of_classified {result : Except PayloadError Payload}
    (classified : Classified stream result) : ofStream stream = result := by
  cases classified with
  | failed failure => rw [ofStream, failure]
  | notUtf8 whole undecodable =>
    cases decoded : String.fromUTF8? stream.bytes with
    | none => rw [ofStream, whole, decoded]
    | some text => exact absurd (Text.fromUTF8?_eq_some_iff.mp decoded) (undecodable text)
  | @malformed text whole decoded ungrammatical =>
    have unread : Value.parse? text = none := by
      cases read : Value.parse? text with
      | none => rfl
      | some value => exact absurd (Value.ofChars?_eq_some_iff.mp read) (ungrammatical value)
    have utf8 : String.fromUTF8? stream.bytes = some text := Text.fromUTF8?_eq_some_iff.mpr decoded
    rw [ofStream, whole, utf8]
    show parse text = _
    rw [parse, unread]
  | notAnObject delivers other => rw [ofStream_of_delivers delivers, ofValue_of_otherKind other]
  | mistyped delivers least =>
    rw [ofStream_of_delivers delivers, ofValue, ofMembers_eq_error_iff.mpr least]
    rfl
  | accepted accepted =>
    obtain ⟨members, delivers, fields⟩ := accepted
    rw [ofStream_of_delivers delivers, ofValue, ofMembers_eq_ok_iff.mpr fields]
    rfl

/-- Every stream is in a class. -/
theorem exists_classified (stream : Stream) : ∃ result, Classified stream result := by
  cases failure : stream.failure with
  | some account => exact ⟨_, .failed failure⟩
  | none =>
    by_cases decodable : ∃ text : String, stream.bytes = text.toUTF8
    · obtain ⟨text, decoded⟩ := decodable
      by_cases grammatical : ∃ value, Json.Document text.toList value
      · obtain ⟨value, document⟩ := grammatical
        have delivers : stream.Delivers value := ⟨failure, text, decoded, document⟩
        rcases object_or_otherKind value with ⟨members, rfl⟩ | ⟨kind, other⟩
        · cases read : ofMembers members with
          | error mismatch => exact ⟨_, .mistyped delivers (ofMembers_eq_error_iff.mp read)⟩
          | ok payload => exact ⟨_, .accepted ⟨members, delivers, ofMembers_eq_ok_iff.mp read⟩⟩
        · exact ⟨_, .notAnObject delivers other⟩
      · exact ⟨_, .malformed failure decoded fun value document => grammatical ⟨value, document⟩⟩
    · exact ⟨_, .notUtf8 failure fun text decoded => decodable ⟨text, decoded⟩⟩

theorem classified_of_ofStream {result : Except PayloadError Payload}
    (read : ofStream stream = result) : Classified stream result := by
  obtain ⟨other, classified⟩ := exists_classified stream
  rw [← read, ofStream_of_classified classified]
  exact classified

theorem ofStream_eq_ok_iff : ofStream stream = .ok payload ↔ Accepted stream payload := by
  constructor
  · intro read
    cases classified_of_ofStream read with
    | accepted accepted => exact accepted
  · intro accepted
    exact ofStream_of_classified (.accepted accepted)

/-- Nothing is refused without a reason, and nothing accepted with one. -/
theorem unacceptable_iff : Unacceptable stream ↔ ∃ error, ofStream stream = .error error := by
  constructor
  · intro unacceptable
    cases read : ofStream stream with
    | error error => exact ⟨error, rfl⟩
    | ok payload =>
      obtain ⟨members, delivers, fields⟩ := ofStream_eq_ok_iff.mp read
      cases unacceptable with
      | unreadable failed => cases delivers.1.symm.trans failed
      | notUtf8 undecodable =>
        obtain ⟨_, text, decoded, _⟩ := delivers
        exact absurd decoded (undecodable text)
      | malformed decoded ungrammatical =>
        exact absurd (delivers.document decoded) (ungrammatical _)
      | notAnObject also other => exact absurd (also.unique delivers) (other members)
      | mistyped also known mistyped =>
        obtain rfl := Value.object.inj (also.unique delivers)
        exact absurd mistyped (fields.not_mistyped known)
  · rintro ⟨error, read⟩
    cases classified_of_ofStream read with
    | failed failure => exact .unreadable failure
    | notUtf8 _ undecodable => exact .notUtf8 undecodable
    | malformed _ decoded ungrammatical => exact .malformed decoded ungrammatical
    | notAnObject delivers other => exact .notAnObject delivers other.ne_object
    | mistyped delivers least =>
      obtain ⟨key, known, mistyped, _⟩ := least
      exact .mistyped delivers known mistyped

example : ofStream ⟨"[\"\"]".toUTF8, none⟩ = .error (.notAnObject "an array") := by rfl

end Payload

end ResponseGate
