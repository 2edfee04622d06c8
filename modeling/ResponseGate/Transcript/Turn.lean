import ResponseGate.Log
import ResponseGate.Text.Character
import ResponseGate.Transcript.Reader

/-!
The newest assistant turn. Lines are looked at newest first; the first assistant record or failed
read decides, and every line before it is skipped.
-/

namespace ResponseGate

/-- What the search for the newest turn ends with. -/
inductive Extraction where
  | response (text : String)
  | nothing (reason : SkipReason)
  deriving DecidableEq, Repr

/-- A turn without a text block has no text. -/
def Extraction.ofText (text : String) : Extraction :=
  if text.isEmpty then nothing .emptyResponse else response text

/-- What a line means for the search, and the event it is reported with. -/
inductive Finding where
  | skipped (event : Option Event)
  | decided (extraction : Extraction) (event : Option Event)

/-- A record decides when the assistant wrote it. -/
def Finding.ofRecord (record : Record) : Finding :=
  match record.role with
  | .assistant => decided (.ofText record.text) none
  | .other => skipped none

/-- Blank lines are skipped in silence and lines that are no records with an event. -/
def Finding.ofLine : Except ReadFault (List UInt8) → Finding
  | .error fault => decided (.nothing .transcriptUnavailable) (some (.readFailed fault))
  | .ok line =>
    if line.all Text.isBlankByte then skipped none
    else
      match Record.ofLine line with
      | .error error => skipped (some (.malformedLine error))
      | .ok record => ofRecord record

/-- The outcome of a search with the events it reported, in order. -/
structure Search where
  extraction : Extraction
  events : List Event

namespace Search

/-- Ends a search. Events noted so far come latest first. -/
def conclude (extraction : Extraction) (noted : List Event) : Search :=
  ⟨extraction, noted.reverse⟩

def linesFrom (noted : List Event) : List (Except ReadFault (List UInt8)) → Search
  | [] => conclude (.nothing .noAssistantTurn) noted
  | line :: older =>
    match Finding.ofLine line with
    | .decided extraction event => conclude extraction (event.toList ++ noted)
    | .skipped event => linesFrom (event.toList ++ noted) older

/-- Searches lines given newest first. -/
def lines (lines : List (Except ReadFault (List UInt8))) : Search := linesFrom [] lines

end Search

namespace Reader

/-- Bounds the lines a reader can still give. -/
def remaining (reader : Reader) : Nat :=
  if reader.finished then 0 else reader.offset + reader.tail.length + 1

private theorem size_fill {reader filled : Reader} (success : reader.fill = (.ok (), filled)) :
    filled.offset + filled.tail.length = reader.offset := by
  unfold fill at success
  dsimp only at success
  split at success
  · simp at success
  · split at success
    · simp at success
    · rename_i found source read
      have full := Source.length_of_readExactly read
      simp only [Prod.mk.injEq, true_and] at success
      subst success
      simp only [List.length_reverse, full]
      omega

private theorem length_takeLine? {reader later : Reader} {line : List UInt8}
    (taken : reader.takeLine? = some (line, later)) :
    later.offset = reader.offset ∧ later.tail.length < reader.tail.length := by
  unfold takeLine? at taken
  split at taken
  · simp at taken
  · rename_i feed older split
    have whole := congrArg List.length
      (List.takeWhile_append_dropWhile (p := (· != lineFeed)) (l := reader.tail))
    rw [split, List.length_append, List.length_cons] at whole
    simp only [Option.some.injEq, Prod.mk.injEq] at taken
    rw [← taken.2]
    exact ⟨rfl, by dsimp only; omega⟩

private theorem seekLine_shrinks (reader : Reader) :
    reader.seekLine.2.finished = true ∨
      reader.seekLine.2.offset + reader.seekLine.2.tail.length <
        reader.offset + reader.tail.length := by
  fun_induction seekLine reader with
  | case1 reader line later taken =>
    have shorter := length_takeLine? taken
    exact .inr (by dsimp only; omega)
  | case2 => left; rfl
  | case3 => left; rfl
  | case4 reader _ unread filled success ih =>
    have kept := size_fill success
    rcases ih with finished | shorter
    · exact .inl finished
    · exact .inr (by omega)

/-- Every line given leaves fewer to give. -/
theorem remaining_next_lt {reader later : Reader} {result : Except ReadFault (List UInt8)}
    (given : reader.next = (some result, later)) : later.remaining < reader.remaining := by
  unfold next at given
  split at given
  · simp at given
  · rename_i open_
    simp only [Prod.mk.injEq, Option.some.injEq] at given
    have shrinks := reader.seekLine_shrinks
    rw [given.2] at shrinks
    unfold remaining
    rcases shrinks with finished | shorter
    · simp [finished, open_]
    · simp only [open_, Bool.false_eq_true, ↓reduceIte]
      split <;> omega

/-- Everything a reader still gives, in the order it gives it. -/
def results (reader : Reader) : List (Except ReadFault (List UInt8)) :=
  match _given : reader.next with
  | (none, _) => []
  | (some result, later) => result :: later.results
termination_by reader.remaining
decreasing_by exact remaining_next_lt _given

def searchFrom (noted : List Event) (reader : Reader) : Search :=
  match _given : reader.next with
  | (none, _) => .conclude (.nothing .noAssistantTurn) noted
  | (some line, later) =>
    match Finding.ofLine line with
    | .decided extraction event => .conclude extraction (event.toList ++ noted)
    | .skipped event => later.searchFrom (event.toList ++ noted)
termination_by reader.remaining
decreasing_by exact remaining_next_lt _given

/-- Searches the lines of a reader, and reads no further than the line that decides. -/
def search (reader : Reader) : Search := reader.searchFrom []

end Reader

namespace Search

/-- Searches a source from its end. -/
def source (path : String) (source : Source) (chunk : Nat := Reader.defaultChunk) : Search :=
  match Reader.ofSource source chunk with
  | .error fault =>
    ⟨.nothing .transcriptUnavailable, [.unavailable path (.unseekable fault)]⟩
  | .ok reader => reader.search

/-- Searches the file a path leads to. -/
def file (path : String) : FileState → Search
  | .error fault => ⟨.nothing .transcriptUnavailable, [.unavailable path fault]⟩
  | .ok bytes => source path (Source.ofBytes bytes)

end Search

end ResponseGate
