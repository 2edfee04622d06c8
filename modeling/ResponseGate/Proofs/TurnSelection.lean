import ResponseGate.Proofs.BlankLines
import ResponseGate.Proofs.ReverseLines

/-!
Which line a search is decided by. Seen newest first, the first read fault or assistant record
decides; seen forward over a whole content, the last assistant record does.
-/

namespace ResponseGate

/-! ### What one line says -/

/-- The texts of the text blocks, in order. -/
def Record.texts (record : Record) : List String :=
  record.blocks.filterMap fun
    | .text content => some content
    | .other => none

/-- Texts in order, each followed by a line break. -/
def joinTexts (texts : List String) : String :=
  String.join (texts.map (· ++ "\n"))

theorem Record.text_eq_joinTexts (record : Record) : record.text = joinTexts record.texts := by
  have blocks (blocks : List Block) :
      String.join (blocks.map fun
        | .text content => content ++ "\n"
        | .other => "") =
      joinTexts (blocks.filterMap fun
        | .text content => some content
        | .other => none) := by
    induction blocks with
    | nil => rfl
    | cons block rest ih =>
      cases block with
      | text content => simp [joinTexts, String.join_cons] at ih ⊢; rw [ih]
      | other => simpa [String.join_cons] using ih
  exact blocks record.blocks

/-- What an assistant record with these texts amounts to, judged alone. -/
def Extraction.ofTexts : List String → Extraction
  | [] => nothing .emptyResponse
  | texts => response (joinTexts texts)

/-- The line breaks alone make a text with a block nonempty. -/
theorem Extraction.ofText_joinTexts (texts : List String) :
    Extraction.ofText (joinTexts texts) = .ofTexts texts := by
  cases texts with
  | nil => rfl
  | cons first others =>
    have filled : (joinTexts (first :: others)).isEmpty = false := by
      simp [joinTexts, String.join_cons]
    rw [ofText, filled]
    rfl

/-- The assistant record a line holds, if it holds one. -/
def Record.assistant? (line : List UInt8) : Option Record :=
  (Record.ofLine line).toOption.filter fun record => record.role = .assistant

/-- What a line or a read fault decides by itself. A blank line is treated like any other. -/
def decision? : Except ReadFault (List UInt8) → Option Extraction
  | .error _ => some (.nothing .transcriptUnavailable)
  | .ok line => (Record.assistant? line).map fun record => .ofTexts record.texts

/-- The lines a search passes over. -/
inductive Passed : Except ReadFault (List UInt8) → Prop where
  | blank {line : List UInt8} (blank : line.all Text.isBlankByte = true) : Passed (.ok line)
  | malformed {line : List UInt8} {error : RecordError} (read : Record.ofLine line = .error error) :
      Passed (.ok line)
  | other {line : List UInt8} {record : Record} (read : Record.ofLine line = .ok record)
      (role : record.role = .other) : Passed (.ok line)

theorem decision?_of_record {line : List UInt8} {record : Record}
    (read : Record.ofLine line = .ok record) :
    decision? (.ok line) =
      if record.role = .assistant then some (.ofTexts record.texts) else none := by
  simp only [decision?, Record.assistant?, read, Except.toOption, Option.filter]
  by_cases role : record.role = .assistant <;> simp [role]

theorem decision?_of_error {line : List UInt8} {error : RecordError}
    (read : Record.ofLine line = .error error) : decision? (.ok line) = none := by
  simp [decision?, Record.assistant?, read, Except.toOption]

theorem Passed.decision? {line : Except ReadFault (List UInt8)} (passed : Passed line) :
    ResponseGate.decision? line = none := by
  cases passed with
  | blank blank => exact decision?_of_error (Record.ofLine_of_blank blank)
  | malformed read => exact decision?_of_error read
  | other read role => rw [decision?_of_record read, role]; rfl

/-- What a finding ends the search with, if it ends it. -/
def Finding.extraction? : Finding → Option Extraction
  | skipped _ => none
  | decided extraction _ => some extraction

/-- Passing over blank lines unread changes nothing, for they hold no record. -/
theorem Finding.extraction?_ofLine (line : Except ReadFault (List UInt8)) :
    (Finding.ofLine line).extraction? = decision? line := by
  cases line with
  | error fault => rfl
  | ok line =>
    unfold Finding.ofLine
    dsimp only
    split
    · rename_i blank
      rw [decision?_of_error (Record.ofLine_of_blank blank)]
      rfl
    · split
      · rename_i error read
        rw [decision?_of_error read]
        rfl
      · rename_i record read
        rw [decision?_of_record read, Finding.ofRecord]
        cases role : record.role with
        | assistant =>
          simp [Finding.extraction?, Record.text_eq_joinTexts, Extraction.ofText_joinTexts]
        | other => rfl

/-! ### Whole searches -/

theorem Search.extraction_linesFrom (noted : List Event)
    (lines : List (Except ReadFault (List UInt8))) :
    (Search.linesFrom noted lines).extraction =
      (lines.findSome? decision?).getD (.nothing .noAssistantTurn) := by
  induction lines generalizing noted with
  | nil => rfl
  | cons line older ih =>
    rw [List.findSome?_cons, ← Finding.extraction?_ofLine]
    cases found : Finding.ofLine line with
    | skipped event => simp only [Search.linesFrom, found, Finding.extraction?, ih]
    | decided extraction event =>
      simp [Search.linesFrom, found, Finding.extraction?, Search.conclude]

theorem Search.extraction_lines (lines : List (Except ReadFault (List UInt8))) :
    (Search.lines lines).extraction =
      (lines.findSome? decision?).getD (.nothing .noAssistantTurn) :=
  Search.extraction_linesFrom [] lines

/-- A search stops early and yet reports what a search over everything the reader gives reports. -/
theorem Reader.searchFrom_eq_linesFrom (noted : List Event) (reader : Reader) :
    reader.searchFrom noted = Search.linesFrom noted reader.results := by
  fun_induction Reader.searchFrom noted reader with
  | case1 noted reader ended given =>
    rw [Reader.results]
    split <;> simp_all [Search.linesFrom]
  | case2 noted reader line later given extraction event found =>
    rw [Reader.results]
    split <;> simp_all [Search.linesFrom]
  | case3 noted reader line later given event found ih =>
    rw [Reader.results]
    split <;> simp_all [Search.linesFrom]

/-- The last assistant record of a content. -/
def lastAssistant? (bytes : List UInt8) : Option Record :=
  ((forwardLines bytes).filterMap Record.assistant?).getLast?

theorem lastAssistant?_eq_some_iff {bytes : List UInt8} {record : Record} :
    lastAssistant? bytes = some record ↔
      ∃ before line after, forwardLines bytes = before ++ line :: after ∧
        Record.assistant? line = some record ∧ ∀ later ∈ after, Record.assistant? later = none := by
  rw [lastAssistant?, List.getLast?_filterMap, List.findSome?_eq_some_iff]
  constructor
  · rintro ⟨after, line, before, split, found, none⟩
    refine ⟨before.reverse, line, after.reverse, ?_, found, ?_⟩
    · simpa using congrArg List.reverse split
    · intro later member
      exact none later (List.mem_reverse.mp member)
  · rintro ⟨before, line, after, split, found, none⟩
    refine ⟨after.reverse, line, before.reverse, ?_, found, ?_⟩
    · simp [split]
    · intro later member
      exact none later (List.mem_reverse.mp member)

/-- What a search over lines finds in them, newest first, seen forward. -/
theorem findSome?_reverse_eq_getLast? (lines : List (List UInt8)) :
    (lines.reverse.map Except.ok).findSome? decision? =
      (lines.filterMap Record.assistant?).getLast?.map fun record => .ofTexts record.texts := by
  rw [List.getLast?_filterMap, List.findSome?_map, List.map_findSome?]
  rfl

theorem Reader.extraction_search (reader : Reader) :
    reader.search.extraction =
      (reader.results.findSome? decision?).getD (.nothing .noAssistantTurn) := by
  rw [← Search.extraction_linesFrom]
  exact congrArg Search.extraction (Reader.searchFrom_eq_linesFrom [] reader)

/-- A content is judged by its last assistant record alone, however it is cut into chunks. -/
theorem Search.extraction_source (path : String) (bytes : ByteArray) (chunk : Nat) :
    (Search.source path (Source.ofBytes bytes) chunk).extraction =
      ((lastAssistant? bytes.data.toList).map fun record => .ofTexts record.texts).getD
        (.nothing .noAssistantTurn) := by
  obtain ⟨reader, opened, results⟩ := Reader.results_of_ofBytes bytes chunk
  rw [Search.source, opened]
  dsimp only
  rw [Reader.extraction_search, results, findSome?_reverse_eq_getLast?, lastAssistant?]

/-- The newest turn. Of lines and read faults given newest first, the first that decides by itself
decides the search, whatever comes after it, and passed lines may come and go anywhere. Over a
content and any chunk size the search is decided by the last assistant record alone. -/
theorem newest_decision_is_extracted :
    (∀ lines, (Search.lines lines).extraction =
      (lines.findSome? decision?).getD (.nothing .noAssistantTurn)) ∧
    (∀ before line older replaced, (decision? line).isSome = true →
      (Search.lines (before ++ line :: older)).extraction =
        (Search.lines (before ++ line :: replaced)).extraction) ∧
    (∀ before passed older, (∀ line ∈ passed, Passed line) →
      (Search.lines (before ++ passed ++ older)).extraction =
        (Search.lines (before ++ older)).extraction) ∧
    ∀ path bytes chunk, (Search.source path (Source.ofBytes bytes) chunk).extraction =
      ((lastAssistant? bytes.data.toList).map fun record => .ofTexts record.texts).getD
        (.nothing .noAssistantTurn) := by
  refine ⟨Search.extraction_lines, ?_, ?_, Search.extraction_source⟩
  · intro before line older replaced decides
    obtain ⟨extraction, decided⟩ := Option.isSome_iff_exists.mp decides
    simp only [Search.extraction_lines, List.findSome?_append, List.findSome?_cons, decided]
  · intro before passed older all
    have none : passed.findSome? decision? = none :=
      List.findSome?_eq_none_iff.mpr fun line member => (all line member).decision?
    simp only [Search.extraction_lines, List.findSome?_append, none, Option.or_none]

/-- A torn record and a form feed are passed, and the turn behind them hides the fault before it. -/
theorem torn_line_is_passed :
    let turn : Except ReadFault (List UInt8) :=
      .ok "\x7b\"type\":\"assistant\",\"message\":\x7b\"content\":[]\x7d\x7d".toUTF8.data.toList
    let torn : Except ReadFault (List UInt8) := .ok "\x7b\"type\":\"assist".toUTF8.data.toList
    let feed : Except ReadFault (List UInt8) := .ok [0x0C]
    (decision? turn).isSome = true ∧ Passed torn ∧ Passed feed ∧
      (Search.lines ([] ++ [torn, feed] ++ [turn, .error .endedEarly])).extraction =
        .nothing .emptyResponse := by
  intro turn torn feed
  have decides : (decision? turn).isSome = true := by decide +kernel
  have unparsed :
      (Json.Value.parseBytes? "\x7b\"type\":\"assist".toUTF8.data.toList).isNone = true := by
    decide +kernel
  have tornRead : Record.ofLine "\x7b\"type\":\"assist".toUTF8.data.toList = .error .malformed := by
    rw [Record.ofLine, Option.isNone_iff_eq_none.mp unparsed]
  have tornPassed : Passed torn := .malformed tornRead
  have feedPassed : Passed feed := .blank rfl
  refine ⟨decides, tornPassed, feedPassed, ?_⟩
  have skipped : ∀ line ∈ [torn, feed], Passed line := by
    simp [tornPassed, feedPassed]
  rw [newest_decision_is_extracted.2.2.1 [] [torn, feed] [turn, .error .endedEarly] skipped,
    newest_decision_is_extracted.2.1 [] turn [.error .endedEarly] [] decides,
    newest_decision_is_extracted.1]
  decide +kernel

end ResponseGate
