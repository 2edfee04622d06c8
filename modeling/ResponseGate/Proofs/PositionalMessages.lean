import ResponseGate.Proofs.DecidingLines
import ResponseGate.Proofs.MistypedMembers

/-!
Messages that are neither missing nor objects. A line with such a message is no record and makes no
difference, but for one shape: an array of at most one part is read as a message given by position.
-/

namespace ResponseGate

open Json (Value Members)

variable {line : List UInt8} {members : Members} {found : Value} {blocks : List Block}
  {record : Record}

/-- The message is an array and stands for an object: its one part, if it has one, is the
content. -/
inductive Positional : Value → Option Value → Prop where
  | empty : Positional (.array []) none
  | single (content : Value) : Positional (.array [content]) (some content)

/-- The type is given last as a text or as nothing at all. -/
def TypeReadable (members : Members) : Prop :=
  ∀ type, members.GivenLast "type" type → type = .null ∨ ∃ text, type = .string text

theorem Record.messageBlocks_eq_ok_iff (filled : found ≠ .null)
    (unnamed : ∀ inner, found ≠ .object inner) :
    messageBlocks (some found) = .ok blocks ↔
      ∃ content, Positional found content ∧ blocks = Block.ofContent content := by
  constructor
  · intro read
    cases found with
    | null => exact absurd rfl filled
    | object inner => exact absurd rfl (unnamed inner)
    | array parts =>
      rcases parts with _ | ⟨content, _ | ⟨second, others⟩⟩
      · cases read
        exact ⟨none, .empty, rfl⟩
      · cases read
        exact ⟨some content, .single content, rfl⟩
      · cases read
    | _ => cases read
  · rintro ⟨content, positional, rfl⟩
    cases positional with
    | empty => rfl
    | single content => rfl

/-- Where a message is neither missing nor an object, position alone makes it one. -/
theorem Record.ofLine_eq_ok_iff_positional
    (parsed : Value.parseBytes? line = some (.object members))
    (given : members.GivenLast "message" found) (filled : found ≠ .null)
    (unnamed : ∀ inner, found ≠ .object inner) :
    ofLine line = .ok record ↔
      ∃ content, Positional found content ∧ record.blocks = Block.ofContent content ∧
        members.string? "type" = .ok record.type := by
  have read : ofLine line = ofMembers members := by
    rw [ofLine, parsed]
    rfl
  rw [read, ofMembers_eq_ok_iff, Members.last?_eq_some_iff.mpr given,
    messageBlocks_eq_ok_iff filled unnamed]
  simp only [← exists_and_right, and_assoc]

/-- Only position lets such a message count. A line whose message is given last as neither null nor
an object is rejected unless that message is an array of at most one part and the type can be read;
then the part is its content. Inserting or deleting the line never makes a difference, unless
besides its type is given last as the assistant's. -/
theorem only_positional_messages_count (parsed : Value.parseBytes? line = some (.object members))
    (given : members.GivenLast "message" found) (filled : found ≠ .null)
    (unnamed : ∀ inner, found ≠ .object inner) :
    ((∃ error, Record.ofLine line = .error error) ↔
      ¬ ((∃ content, Positional found content) ∧ TypeReadable members)) ∧
    (Overlooked line ↔
      ¬ ((∃ content, Positional found content) ∧
        members.GivenLast "type" (.string "assistant"))) ∧
    ∀ content record, Positional found content → Record.ofLine line = .ok record →
      record.blocks = Block.ofContent content := by
  have reads (record : Record) := @Record.ofLine_eq_ok_iff_positional line members found record
    parsed given filled unnamed
  refine ⟨?_, ?_, ?_⟩
  · have readable : TypeReadable members ↔ ∃ type, members.string? "type" = .ok type :=
      Members.string?_eq_ok_iff.symm
    rw [readable]
    constructor
    · rintro ⟨error, failed⟩ ⟨⟨content, positional⟩, type, success⟩
      have accepted :=
        (reads ⟨type, Block.ofContent content⟩).mpr ⟨content, positional, rfl, success⟩
      rw [failed] at accepted
      cases accepted
    · intro refused
      cases read : Record.ofLine line with
      | error error => exact ⟨error, rfl⟩
      | ok record =>
        obtain ⟨content, positional, _, success⟩ := (reads record).mp read
        exact absurd ⟨⟨content, positional⟩, record.type, success⟩ refused
  · rw [overlooked_iff]
    constructor
    · rintro none ⟨⟨content, positional⟩, type⟩
      have success := Members.string?_eq_some_iff.mpr type
      have accepted := (reads ⟨some "assistant", Block.ofContent content⟩).mpr
        ⟨content, positional, rfl, success⟩
      exact none _ ⟨accepted, rfl⟩
    · rintro refused record ⟨read, type⟩
      obtain ⟨content, positional, _, success⟩ := (reads record).mp read
      rw [type] at success
      exact refused ⟨⟨content, positional⟩, Members.string?_eq_some_iff.mp success⟩
  · intro content record positional read
    obtain ⟨other, also, blocks, _⟩ := (reads record).mp read
    cases positional with
    | empty =>
      cases also
      exact blocks
    | single content =>
      cases also
      exact blocks

/-- A message of two parts is none, whoever speaks. -/
theorem two_parts_are_overlooked :
    let line := "\x7b\"type\":\"assistant\",\"message\":[[],null]\x7d".toUTF8.data.toList
    (∃ error, Record.ofLine line = .error error) ∧ Overlooked line := by
  intro line
  have parsed : Value.parseBytes? line = some (.object
      [("type", .string "assistant"), ("message", .array [.array [], .null])]) := by
    unfold line
    rfl
  have given : Members.GivenLast [("type", .string "assistant"),
      ("message", .array [.array [], .null])] "message" (.array [.array [], .null]) :=
    ⟨[("type", .string "assistant")], [], rfl, by simp⟩
  have many : ¬ ∃ content, Positional (.array [.array [], .null]) content := by
    rintro ⟨content, positional⟩
    cases positional
  have counts := only_positional_messages_count parsed given (by simp) (by simp)
  exact ⟨counts.1.mpr fun both => many both.1, counts.2.1.mpr fun both => many both.1⟩

/-- An empty array behind a turn hides it, and an array of one part is judged in its place. -/
theorem short_arrays_hide_a_turn :
    let older := ("\x7b\"type\":\"assistant\",\"message\":" ++
      "\x7b\"content\":[\x7b\"type\":\"text\",\"text\":\"old\"\x7d]\x7d\x7d").toUTF8.data.toList
    let empty := "\x7b\"type\":\"assistant\",\"message\":[]\x7d".toUTF8.data.toList
    let single := ("\x7b\"type\":\"assistant\",\"message\":" ++
      "[[\x7b\"type\":\"text\",\"text\":\"new\"\x7d]]\x7d").toUTF8.data.toList
    (∃ members parts, Value.parseBytes? empty = some (.object members) ∧
        Members.GivenLast members "message" (.array parts)) ∧
      (∃ record, Record.ofLine empty = .ok record) ∧
      (Search.lines [.ok older]).extraction = .response "old\n" ∧
      (Search.lines [.ok empty, .ok older]).extraction = .nothing .emptyResponse ∧
      (Search.lines [.ok single, .ok older]).extraction = .response "new\n" := by
  intro older empty single
  have parsed : Value.parseBytes? empty = some (.object
      [("type", .string "assistant"), ("message", .array [])]) := by
    unfold empty
    rfl
  refine ⟨⟨_, [], parsed, ⟨[("type", .string "assistant")], [], rfl, by simp⟩⟩, ?_, ?_, ?_, ?_⟩
  · rw [Record.ofLine, parsed]
    exact ⟨_, rfl⟩
  · decide +kernel
  · decide +kernel
  · decide +kernel

end ResponseGate
