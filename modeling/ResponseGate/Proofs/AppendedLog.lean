import ResponseGate.Proofs.TornDocuments
import ResponseGate.Proofs.Turns

/-!
Transcripts that are only appended to. A write that is cut short adds no turn and takes none away,
and a whole one adds its own, so a stop judges the newest turn that was written to its end.
-/

namespace ResponseGate

/-! ### Entries -/

/-- One record as it is written: an object on a line of its own. -/
structure LogEntry where
  bytes : List UInt8
  record : Record
  opened : bytes.head? = some 0x7B
  closed : bytes.getLast? = some 0x7D
  unbroken : lineFeed ∉ bytes
  read : Record.ofLine bytes = .ok record

/-- A write that stopped before the end of an entry. Nothing at all may have been written. -/
def LogEntry.Cut (entry : LogEntry) (written : List UInt8) : Prop :=
  written <+: entry.bytes ∧ written ≠ entry.bytes

/-- What the entry amounts to by itself, if the assistant wrote it. -/
def LogEntry.judgement? (entry : LogEntry) : Option Extraction :=
  if entry.record.role = .assistant then some (.ofText entry.record.text) else none

namespace LogEntry

variable {entry : LogEntry} {written : List UInt8}

theorem trimReturn_bytes (entry : LogEntry) : trimReturn entry.bytes = entry.bytes := by
  refine trimReturn_eq_iff.mpr (.inr ⟨rfl, ?_⟩)
  rw [entry.closed]
  decide

theorem Cut.unbroken (cut : entry.Cut written) : lineFeed ∉ written :=
  fun feed => entry.unbroken (cut.1.subset feed)

theorem Cut.trimReturn (cut : entry.Cut written) : entry.Cut (trimReturn written) := by
  have begins := trimReturn_prefix written
  refine ⟨begins.trans cut.1, ?_⟩
  intro whole
  rw [whole] at begins
  exact cut.2 (cut.1.eq_of_length_le begins.length_le)

/-- No part of an entry is a record. -/
theorem Cut.assistant?_eq_none (cut : entry.Cut written) : Record.assistant? written = none := by
  have unread : Json.Value.parseBytes? written = none := by
    have read := entry.read
    rw [Record.ofLine] at read
    split at read
    · cases read
    · rename_i value accepted
      exact Json.Value.parseBytes?_of_prefix entry.opened entry.closed accepted cut.1 cut.2
  rw [Record.assistant?, Record.ofLine, unread]
  rfl

theorem Cut.turns_eq_nil (cut : entry.Cut written) : turns written = [] := by
  rw [turns_of_unbroken cut.unbroken, cut.trimReturn.assistant?_eq_none]
  rfl

/-! ### Whole entries -/

/-- How a line may end: not at all, or as the lines of either kind of file do. -/
def lineEndings : List (List UInt8) := [[], [lineFeed], [carriageReturn, lineFeed]]

theorem turns_of_whole (entry : LogEntry) {ending : List UInt8} (member : ending ∈ lineEndings) :
    turns (entry.bytes ++ ending) = (Record.assistant? entry.bytes).toList := by
  have unbroken : lineFeed ∉ entry.bytes ++ [carriageReturn] := by
    intro feed
    rcases List.mem_append.mp feed with inside | last
    · exact entry.unbroken inside
    · simp [lineFeed, carriageReturn] at last
  simp only [lineEndings, List.mem_cons, List.not_mem_nil, or_false] at member
  rcases member with rfl | rfl | rfl
  · rw [List.append_nil, turns_of_unbroken entry.unbroken, entry.trimReturn_bytes]
  · rw [turns_append_feed, turns_nil, List.append_nil, turns_of_unbroken entry.unbroken,
      entry.trimReturn_bytes]
  · rw [List.append_cons, turns_append_feed, turns_nil, List.append_nil, turns_of_unbroken unbroken,
      trimReturn_append_return]

theorem judgement?_eq (entry : LogEntry) :
    entry.judgement? = (Record.assistant? entry.bytes).map fun record => .ofText record.text := by
  rw [judgement?, Record.assistant?, entry.read]
  by_cases role : entry.record.role = .assistant <;> simp [Except.toOption, Option.filter, role]

end LogEntry

/-! ### Runs -/

/-- An entry written to its end, as a line. -/
structure LogWrite where
  entry : LogEntry
  ending : List UInt8
  ends : ending = [lineFeed] ∨ ending = [carriageReturn, lineFeed]

namespace LogWrite

def bytes (write : LogWrite) : List UInt8 := write.entry.bytes ++ write.ending

def apply (file : FileState) (write : LogWrite) : FileState := file.append ⟨write.bytes.toArray⟩

theorem endsLine (write : LogWrite) (before : List UInt8) : EndsLine (before ++ write.bytes) := by
  right
  rcases write.ends with same | same <;> simp [bytes, same]

theorem turns_bytes (write : LogWrite) :
    turns write.bytes = (Record.assistant? write.entry.bytes).toList := by
  apply write.entry.turns_of_whole
  rcases write.ends with same | same <;> simp [LogEntry.lineEndings, same]

/-- One write brings the turn of its entry, and leaves a content that ends a line. -/
theorem apply_ok (write : LogWrite) {before : ByteArray} (ends : EndsLine before.data.toList) :
    ∃ after : ByteArray, write.apply (.ok before) = .ok after ∧ EndsLine after.data.toList ∧
      turns after.data.toList =
        turns before.data.toList ++ (Record.assistant? write.entry.bytes).toList := by
  refine ⟨before ++ ⟨write.bytes.toArray⟩, rfl, ?_, ?_⟩
  · rw [ByteArray.data_append, Array.toList_append]
    exact write.endsLine _
  · rw [ByteArray.data_append, Array.toList_append, ends.turns_append, write.turns_bytes]

/-- Any number of writes brings the turns of their entries, in order. -/
theorem foldl_apply_ok (writes : List LogWrite) {start : ByteArray}
    (ends : EndsLine start.data.toList) :
    ∃ after : ByteArray, writes.foldl apply (.ok start) = .ok after ∧ EndsLine after.data.toList ∧
      turns after.data.toList = turns start.data.toList ++
        writes.filterMap fun write => Record.assistant? write.entry.bytes := by
  induction writes generalizing start with
  | nil => exact ⟨start, rfl, ends, by simp⟩
  | cons write writes ih =>
    obtain ⟨middle, applied, middleEnds, middleTurns⟩ := write.apply_ok ends
    obtain ⟨after, ran, afterEnds, afterTurns⟩ := ih middleEnds
    refine ⟨after, by rw [List.foldl_cons, applied, ran], afterEnds, ?_⟩
    rw [afterTurns, middleTurns, List.append_assoc, List.filterMap_cons]
    cases Record.assistant? write.entry.bytes <;> rfl

end LogWrite

/-- Only writes that reached their end count. On a content that ends a line, a part of an entry
leaves the search as it was, and a whole one, with or without an end of line, decides it if the
assistant wrote it. Hence after any number of lines appended and at last a part of one, a stop
judges the newest assistant entry appended, and what stood in the file before only if there is
none. -/
theorem only_whole_writes_count (path : String) :
    (∀ (chunk : Nat) (content : List UInt8) (entry : LogEntry), EndsLine content →
      let extraction (bytes : List UInt8) :=
        (Search.source path (Source.ofBytes ⟨bytes.toArray⟩) chunk).extraction
      (∀ written, entry.Cut written → extraction (content ++ written) = extraction content) ∧
      ∀ ending ∈ LogEntry.lineEndings, extraction (content ++ entry.bytes ++ ending) =
        entry.judgement?.getD (extraction content)) ∧
    ∀ (start : ByteArray) (writes : List LogWrite) (entry : LogEntry) (written : List UInt8),
      EndsLine start.data.toList → entry.Cut written →
      (Search.file path
          ((writes.foldl LogWrite.apply (.ok start)).append ⟨written.toArray⟩)).extraction =
        (writes.filterMap fun write => write.entry.judgement?).getLast?.getD
          (Search.file path (.ok start)).extraction := by
  constructor
  · intro chunk content entry ends extraction
    constructor
    · intro written cut
      simp only [extraction, Search.extraction_of_turns, ends.turns_append, cut.turns_eq_nil,
        List.append_nil]
    · intro ending member
      simp only [extraction, Search.extraction_of_turns, List.append_assoc, ends.turns_append,
        LogEntry.turns_of_whole entry member, LogEntry.judgement?_eq]
      cases Record.assistant? entry.bytes <;> simp
  · intro start writes entry written ends cut
    obtain ⟨after, ran, afterEnds, afterTurns⟩ := LogWrite.foldl_apply_ok writes ends
    have judged : (writes.filterMap fun write => write.entry.judgement?) =
        (writes.filterMap fun write => Record.assistant? write.entry.bytes).map
          fun record => Extraction.ofText record.text := by
      simp only [LogEntry.judgement?_eq, List.map_filterMap]
    have appended : FileState.append (.ok after) ⟨written.toArray⟩ =
        .ok (after ++ ⟨written.toArray⟩) := rfl
    rw [ran, appended, judged, List.getLast?_map]
    simp only [Search.file, Search.extraction_of_turns, ByteArray.data_append, Array.toList_append,
      afterEnds.turns_append, cut.turns_eq_nil, afterTurns, List.append_nil, List.getLast?_append]
    cases (writes.filterMap fun write => Record.assistant? write.entry.bytes).getLast? <;> simp

/-- A write that stops inside a character. Before the first whole write it leaves the old turn in
force, and after it the new one. -/
theorem cut_character_is_passed :
    let old := ("\x7b\"type\":\"assistant\",\"message\":" ++
      "\x7b\"content\":[\x7b\"type\":\"text\",\"text\":\"old\"\x7d]\x7d\x7d\n").toUTF8.data.toList
    let new := ("\x7b\"type\":\"assistant\",\"message\":" ++
      "\x7b\"content\":[\x7b\"type\":\"text\",\"text\":\"é\"\x7d]\x7d\x7d").toUTF8.data.toList
    let cut := new.take 67
    ∃ entry : LogEntry, entry.bytes = new ∧ EndsLine old ∧ entry.Cut cut ∧
      (Search.source "log" (Source.ofBytes ⟨(old ++ cut).toArray⟩) 16).extraction =
        .response "old\n" ∧
      (Search.file "log" (([⟨entry, [lineFeed], .inl rfl⟩].foldl LogWrite.apply
        (.ok ⟨old.toArray⟩)).append ⟨cut.toArray⟩)).extraction = .response "é\n" := by
  intro old new cut
  have found : (Record.ofLine new).toOption = some ⟨some "assistant", [.text "é"]⟩ := by
    decide +kernel
  have read : Record.ofLine new = .ok ⟨some "assistant", [.text "é"]⟩ := by
    cases result : Record.ofLine new with
    | error error => simp [result, Except.toOption] at found
    | ok record => simpa [result, Except.toOption] using found
  let entry : LogEntry :=
    { bytes := new
      record := ⟨some "assistant", [.text "é"]⟩
      opened := by decide +kernel
      closed := by decide +kernel
      unbroken := by decide +kernel
      read }
  have shorter : cut ≠ new := by decide +kernel
  have judged : (if (Record.mk (some "assistant") [.text "é"]).role = .assistant then
      some (Extraction.ofText (Record.mk (some "assistant") [.text "é"]).text) else none) =
      some (.response "é\n") := by decide +kernel
  have speaks : entry.judgement? = some (.response "é\n") := judged
  have ends : EndsLine old := .inr (by decide +kernel)
  have torn : entry.Cut cut := ⟨List.take_prefix 67 new, shorter⟩
  refine ⟨entry, rfl, ends, torn, ?_, ?_⟩
  · have spared := ((only_whole_writes_count "log").1 16 old entry ends).1 cut torn
    dsimp only at spared
    rw [spared, Search.extraction_source]
    decide +kernel
  · rw [(only_whole_writes_count "log").2 ⟨old.toArray⟩ [⟨entry, [lineFeed], .inl rfl⟩] entry
      cut ends
      torn, List.filterMap_cons, speaks]
    rfl

end ResponseGate
