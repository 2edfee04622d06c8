import ResponseGate.Proofs.TurnSelection

/-!
The turns of a content: the assistant records among its lines. What is appended behind the end of a
line adds its turns to those before, and a search is decided by the last turn of all.
-/

namespace ResponseGate

/-! ### Records of the assistant -/

/-- The line is a record of the assistant. -/
def Record.IsTurn (line : List UInt8) (record : Record) : Prop :=
  Record.ofLine line = .ok record ∧ record.type = some "assistant"

/-- The record of the last line of a content that is a record of the assistant. -/
def NewestTurn (bytes : List UInt8) (record : Record) : Prop :=
  ∃ before line after, forwardLines bytes = before ++ line :: after ∧ Record.IsTurn line record ∧
    ∀ later ∈ after, ∀ other, ¬ Record.IsTurn later other

theorem Record.role_eq_assistant_iff {record : Record} :
    record.role = .assistant ↔ record.type = some "assistant" := by
  unfold role
  split <;> simp_all

theorem Record.assistant?_eq_some_iff {line : List UInt8} {record : Record} :
    Record.assistant? line = some record ↔ Record.IsTurn line record := by
  unfold Record.assistant? Record.IsTurn
  cases Record.ofLine line with
  | error error => simp [Except.toOption]
  | ok found =>
    simp only [Except.toOption, Option.filter_eq_some_iff, Option.some.injEq, decide_eq_true_eq,
      Except.ok.injEq, Record.role_eq_assistant_iff]

theorem lastAssistant?_eq_some_iff_newestTurn {bytes : List UInt8} {record : Record} :
    lastAssistant? bytes = some record ↔ NewestTurn bytes record := by
  simp only [lastAssistant?_eq_some_iff, NewestTurn, Option.eq_none_iff_forall_ne_some, ne_eq,
    Record.assistant?_eq_some_iff]

/-- A record is what its message and its type are read as. -/
theorem Record.ofMembers_eq_ok_iff {members : Json.Members} {record : Record} :
    ofMembers members = .ok record ↔
      messageBlocks (members.last? "message") = .ok record.blocks ∧
        members.string? "type" = .ok record.type := by
  rw [ofMembers]
  cases messageBlocks (members.last? "message") with
  | error error => simp [bind, Except.bind]
  | ok blocks =>
    cases members.string? "type" with
    | error mismatch => simp [bind, Except.bind, Except.mapError]
    | ok type =>
      obtain ⟨kind, inner⟩ := record
      simp [bind, Except.bind, Except.mapError, pure, Except.pure, and_comm]

/-! ### All turns -/

/-- What is appended next begins a line of its own. -/
def EndsLine (content : List UInt8) : Prop := content = [] ∨ content.getLast? = some lineFeed

/-- The assistant records of a content, in order. -/
def turns (content : List UInt8) : List Record :=
  (forwardLines content).filterMap Record.assistant?

variable {content : List UInt8}

theorem Record.assistant?_nil : Record.assistant? [] = none := by
  rw [Record.assistant?, Record.ofLine_of_blank rfl]
  rfl

theorem turns_append_feed (first last : List UInt8) :
    turns (first ++ lineFeed :: last) = turns first ++ turns last := by
  rw [turns, forwardLines_append_feed, List.filterMap_append, turns, turns]

theorem turns_of_unbroken (unbroken : lineFeed ∉ content) :
    turns content = (Record.assistant? (trimReturn content)).toList := by
  rw [turns, forwardLines_of_unbroken unbroken, List.filterMap_cons]
  cases Record.assistant? (trimReturn content) <;> rfl

theorem turns_nil : turns [] = [] := by
  rw [turns_of_unbroken List.not_mem_nil]
  exact congrArg Option.toList Record.assistant?_nil

theorem EndsLine.turns_append (ends : EndsLine content) (added : List UInt8) :
    turns (content ++ added) = turns content ++ turns added := by
  rcases ends with rfl | last
  · rw [turns_nil, List.nil_append, List.nil_append]
  · obtain ⟨before, rfl⟩ := List.getLast?_eq_some_iff.mp last
    rw [List.append_assoc, List.singleton_append, turns_append_feed, turns_append_feed, turns_nil,
      List.append_nil]

theorem turns_intercalate {lines : List (List UInt8)} (filled : lines ≠ [])
    (unbroken : ∀ line ∈ lines, lineFeed ∉ line) :
    turns ([lineFeed].intercalate lines) =
      lines.filterMap fun line => Record.assistant? (trimReturn line) := by
  rw [turns, forwardLines, List.splitOn_intercalate lineFeed unbroken filled, List.filterMap_map]
  rfl

/-- A search over a content, told by its turns. -/
theorem Search.extraction_of_turns (path : String) (bytes : ByteArray) (chunk : Nat) :
    (Search.source path (Source.ofBytes bytes) chunk).extraction =
      ((turns bytes.data.toList).getLast?.map fun record => .ofText record.text).getD
        (.nothing .noAssistantTurn) := by
  simp only [Search.extraction_source, Record.text_eq_joinTexts, Extraction.ofText_joinTexts]
  rfl

end ResponseGate
