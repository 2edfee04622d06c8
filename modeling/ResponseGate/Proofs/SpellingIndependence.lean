import ResponseGate.Payload
import ResponseGate.Proofs.ReadDocuments
import ResponseGate.Proofs.Respellings
import ResponseGate.Transcript.Record

/-!
What a payload or a record is read as does not depend on its spelling: not on escapes and white
space, not on members that are dropped, not on the order of the others. If it is refused, the
account of what is wrong is the same too.
-/

namespace ResponseGate

open Json (EncodedDocument FieldType Members Mismatch Value)

/-! ### Results that are the same -/

/-- Results that are equal, or errors that are the same as far as they are told. -/
inductive Alike {ε α : Type} (same : ε → ε → Prop) : Except ε α → Except ε α → Prop where
  | ok (value : α) : Alike same (.ok value) (.ok value)
  | error {first second : ε} (told : same first second) : Alike same (.error first) (.error second)

/-- Mismatches with one text. -/
def SameMismatch (mismatch other : Mismatch) : Prop := mismatch.message = other.message

inductive PayloadError.Same : PayloadError → PayloadError → Prop where
  | mistyped {mismatch other : Mismatch} (told : SameMismatch mismatch other) :
      Same (.mistyped mismatch) (.mistyped other)

inductive RecordError.Same : RecordError → RecordError → Prop where
  | mistyped {mismatch other : Mismatch} (told : SameMismatch mismatch other) :
      Same (.mistyped mismatch) (.mistyped other)
  | tooManyParts (count : Nat) : Same (.tooManyParts count) (.tooManyParts count)

namespace Alike

variable {ε δ α β : Type} {same : ε → ε → Prop} {first second : Except ε α}

theorem bind (alike : Alike same first second) {next : α → Except ε β} {other : α → Except ε β}
    (behind : ∀ value, Alike same (next value) (other value)) :
    Alike same (first >>= next) (second >>= other) := by
  cases alike with
  | ok value => exact behind value
  | error told => exact .error told

theorem mapError {wrapped : δ → δ → Prop} (alike : Alike same first second) {wrap : ε → δ}
    (told : ∀ {error other}, same error other → wrapped (wrap error) (wrap other)) :
    Alike wrapped (first.mapError wrap) (second.mapError wrap) := by
  cases alike with
  | ok value => exact .ok value
  | error holds => exact .error (told holds)

end Alike

/-! ### Fields -/

variable {part : Part} {members others : Members} {key : String}

/-- What does not tell null from nothing does not tell what was filled from what was given. -/
theorem Json.Members.apply_filled {β : Type} (f : Option Value → β)
    (same : f (some .null) = f none) :
    f (members.filled? key) = f (members.last? key) := by
  rw [filled?]
  cases members.last? key with
  | none => rfl
  | some found =>
    cases found with
    | null => exact same.symm
    | _ => rfl

/-- A field is read alike where its type takes alike what is respelled. -/
theorem read?_alike {α : Type} {type : FieldType α}
    (taken : ∀ {value other}, Respelled part value other → type.unwrap? value = type.unwrap? other)
    (spelled : Option.Rel (Respelled part) (members.filled? key) (others.filled? key)) :
    Alike SameMismatch (type.read? members key) (type.read? others key) := by
  rw [FieldType.read?, FieldType.read?]
  generalize members.filled? key = first at spelled ⊢
  generalize others.filled? key = second at spelled ⊢
  cases spelled with
  | none => exact .ok none
  | @some value other same =>
    simp only [taken same]
    cases type.unwrap? other with
    | some content => exact .ok (some content)
    | none =>
      refine .error ?_
      unfold SameMismatch Mismatch.message
      rw [same.description_eq]

theorem string?_alike
    (spelled : Option.Rel (Respelled part) (members.filled? key) (others.filled? key)) :
    Alike SameMismatch (members.string? key) (others.string? key) := by
  rw [Members.string?_eq_read?, Members.string?_eq_read?]
  exact read?_alike Respelled.asString?_eq spelled

theorem boolean?_alike
    (spelled : Option.Rel (Respelled part) (members.filled? key) (others.filled? key)) :
    Alike SameMismatch (members.boolean? key) (others.boolean? key) := by
  rw [Members.boolean?_eq_read?, Members.boolean?_eq_read?]
  refine read?_alike (fun same => ?_) spelled
  cases same.matching <;> rfl

theorem Payload.ofMembers_alike
    (spelled : Respelled .payload (.object members) (.object others)) :
    Alike SameMismatch (ofMembers members) (ofMembers others) := by
  cases spelled.matching with
  | object each =>
    refine (string?_alike (each "hook_event_name" .unread rfl)).bind fun event => ?_
    refine (string?_alike (each "session_id" .unread rfl)).bind fun session => ?_
    refine (boolean?_alike (each "stop_hook_active" .unread rfl)).bind fun active => ?_
    refine (string?_alike (each "transcript_path" .unread rfl)).bind fun path => ?_
    exact .ok _

/-! ### Blocks -/

theorem bind_asString?_of_respelled
    (spelled : Option.Rel (Respelled part) (members.filled? key) (others.filled? key)) :
    (members.last? key).bind Value.asString? = (others.last? key).bind Value.asString? := by
  rw [← Members.apply_filled (·.bind Value.asString?) rfl,
    ← Members.apply_filled (·.bind Value.asString?) rfl]
  generalize members.filled? key = first at spelled ⊢
  generalize others.filled? key = second at spelled ⊢
  cases spelled with
  | none => rfl
  | some same => exact same.asString?_eq

theorem Block.ofValue_of_respelled {value other : Value} (spelled : Respelled .block value other) :
    Block.ofValue value = Block.ofValue other := by
  cases spelled.matching with
  | object each =>
    have type := bind_asString?_of_respelled (each "type" .unread rfl)
    have text := bind_asString?_of_respelled (each "text" .unread rfl)
    rw [Block.ofValue, Block.ofValue, Value.member?, Value.member?, Value.member?, Value.member?,
      type, text]
  | _ => rfl

theorem Block.map_ofValue_of_respelled {items others : List Value}
    (each : List.Forall₂ (Respelled .block) items others) :
    items.map Block.ofValue = others.map Block.ofValue := by
  induction each with
  | nil => rfl
  | cons first _ ih => rw [List.map_cons, List.map_cons, Block.ofValue_of_respelled first, ih]

theorem Block.ofContent_of_respelled {content other : Option Value}
    (spelled : Option.Rel (Respelled .content) content other) :
    Block.ofContent content = Block.ofContent other := by
  cases spelled with
  | none => rfl
  | some same =>
    cases same.matching with
    | array each => exact Block.map_ofValue_of_respelled each
    | _ => rfl

/-! ### Records -/

theorem Record.messageBlocks_alike {message other : Option Value}
    (spelled : Option.Rel (Respelled .message) message other) :
    Alike RecordError.Same (messageBlocks message) (messageBlocks other) := by
  cases spelled with
  | none => exact .ok []
  | some same =>
    cases same.matching with
    | null => exact .ok []
    | @object inner other each =>
      have content := Block.ofContent_of_respelled (each "content" .content rfl)
      rw [Members.apply_filled Block.ofContent rfl,
        Members.apply_filled Block.ofContent rfl] at content
      rw [messageBlocks, messageBlocks, content]
      exact .ok _
    | @array parts others each =>
      rcases each with _ | ⟨first, _ | ⟨second, more⟩⟩
      · exact .ok []
      · rw [messageBlocks, messageBlocks, Block.ofContent_of_respelled (.some first)]
        exact .ok _
      · simp only [messageBlocks, List.length_cons, more.length_eq]
        exact .error (.tooManyParts _)
    | _ => exact .error (.mistyped rfl)

theorem Record.ofMembers_alike (spelled : Respelled .record (.object members) (.object others)) :
    Alike RecordError.Same (ofMembers members) (ofMembers others) := by
  cases spelled.matching with
  | object each =>
    have message := messageBlocks_alike (each "message" .message rfl)
    rw [Members.apply_filled messageBlocks rfl, Members.apply_filled messageBlocks rfl] at message
    refine message.bind fun blocks => ?_
    refine ((string?_alike (each "type" .unread rfl)).mapError .mistyped).bind fun type => ?_
    exact .ok _

/-! ### Documents -/

/-- Spelling makes no difference. Where two documents become the same object by dropping members and
by moving them, and by reading their escapes and white space as a document is read, a payload has
the same fields, and a record the same role, blocks and text; or both are refused with the same
account. -/
theorem spelling_makes_no_difference :
    (∀ (text other : String) (members others : Members),
      Json.Document text.toList (.object members) → Json.Document other.toList (.object others) →
      Respelled .payload (.object members) (.object others) →
      Alike PayloadError.Same (Payload.parse text) (Payload.parse other)) ∧
    ∀ (line other : List UInt8) (members others : Members),
      EncodedDocument line (.object members) → EncodedDocument other (.object others) →
      Respelled .record (.object members) (.object others) →
      Alike RecordError.Same (Record.ofLine line) (Record.ofLine other) := by
  constructor
  · intro text other members others document also spelled
    rw [Payload.parse, Value.parse?, Value.ofChars?_eq_some_iff.mpr document, Payload.parse,
      Value.parse?, Value.ofChars?_eq_some_iff.mpr also]
    exact (Payload.ofMembers_alike spelled).mapError .mistyped
  · intro line other members others document also spelled
    rw [Record.ofLine, Value.parseBytes?_eq_some_iff.mpr document, Record.ofLine,
      Value.parseBytes?_eq_some_iff.mpr also]
    exact Record.ofMembers_alike spelled

/-- An escaped key, a text that is overridden, a null and a member nobody reads leave a turn as it
is. -/
theorem escaped_key_makes_no_difference :
    let line := ("\x7b\"message\":\x7b\"role\":[],\"content\":[\x7b\"text\":\"old\"," ++
      "\"\\u0074ype\":\"text\", \"text\":\"a\"\x7d]\x7d,\"id\":null," ++
      "\"type\":\"assistant\"\x7d").toUTF8.data.toList
    let plain := ("\x7b\"type\":\"assistant\",\"message\":" ++
      "\x7b\"content\":[\x7b\"type\":\"text\",\"text\":\"\\u0061\"\x7d]\x7d\x7d").toUTF8.data.toList
    Alike RecordError.Same (Record.ofLine line) (Record.ofLine plain) ∧
      Record.ofLine plain = .ok ⟨some "assistant", [.text "a"]⟩ := by
  intro line plain
  let text : Members := [("text", .string "old"), ("type", .string "text"), ("text", .string "a")]
  let message : Members := [("role", .array []), ("content", .array [.object text])]
  let members : Members :=
    [("message", .object message), ("id", .null), ("type", .string "assistant")]
  let block : Members := [("type", .string "text"), ("text", .string "a")]
  let others : Members := [("type", .string "assistant"),
    ("message", .object [("content", .array [.object block])])]
  have document : EncodedDocument line (.object members) :=
    Value.parseBytes?_eq_some_iff.mp (by unfold line members message text; rfl)
  have also : EncodedDocument plain (.object others) :=
    Value.parseBytes?_eq_some_iff.mp (by unfold plain others block; rfl)
  have blocks : Reordered (.object block) (.object block) :=
    .object (.refl _) rfl (.cons (.string _) (.cons (.string _) .nil))
  have messages : Reordered (.object [("content", .array [.object block])])
      (.object [("content", .array [.object block])]) :=
    .object (.refl _) rfl (.cons (.array (.cons blocks .nil)) .nil)
  have spelled : Respelled .record (.object members) (.object others) := by
    show Reordered (.object [("message", .object [("content", .array [.object block])]),
      ("type", .string "assistant")]) (.object others)
    exact .object (.swap _ _ _) rfl (.cons (.string _) (.cons messages .nil))
  refine ⟨spelling_makes_no_difference.2 line plain members others document also spelled, ?_⟩
  rw [Record.ofLine, Value.parseBytes?_eq_some_iff.mpr also]
  rfl

end ResponseGate
