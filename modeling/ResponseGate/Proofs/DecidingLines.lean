import ResponseGate.Proofs.Turns

/-!
Lines that decide a search and lines that it overlooks. A line that is a turn ends every search that
comes to it and hides everything before it; one that is none may come and go anywhere in a
transcript.
-/

namespace ResponseGate

variable {line : List UInt8}

/-- What a content of the given lines, not yet without their carriage returns, is judged as. -/
def Extraction.ofContent (path : String) (chunk : Nat) (lines : List (List UInt8)) : Extraction :=
  (Search.source path (Source.ofBytes ⟨([lineFeed].intercalate lines).toArray⟩) chunk).extraction

/-- Every search that comes to the line ends there. A whole content is judged by the last turn in
it, which is this line or a later one. -/
structure Deciding (line : List UInt8) : Prop where
  search : ∀ newer older, (Search.lines (newer ++ .ok line :: older)).extraction =
    (Search.lines (newer ++ [.ok line])).extraction
  content : ∀ path chunk raw before after, trimReturn raw = line →
    (∀ bytes ∈ before ++ raw :: after, lineFeed ∉ bytes) →
    ∃ first turn last record, raw :: after = first ++ turn :: last ∧
      Record.IsTurn (trimReturn turn) record ∧
      (∀ later ∈ last, ∀ other, ¬ Record.IsTurn (trimReturn later) other) ∧
      Extraction.ofContent path chunk (before ++ raw :: after) = .ofTexts record.texts

/-- A search does not change when the line is inserted or deleted, wherever that is. -/
structure Overlooked (line : List UInt8) : Prop where
  search : ∀ newer older, (Search.lines (newer ++ .ok line :: older)).extraction =
    (Search.lines (newer ++ older)).extraction
  content : ∀ path chunk raw before after, trimReturn raw = line →
    (∀ bytes ∈ before ++ raw :: after, lineFeed ∉ bytes) →
    Extraction.ofContent path chunk (before ++ raw :: after) =
      Extraction.ofContent path chunk (before ++ after)

theorem Extraction.ofContent_eq (path : String) (chunk : Nat) {lines : List (List UInt8)}
    (unbroken : ∀ line ∈ lines, lineFeed ∉ line) :
    Extraction.ofContent path chunk lines =
      ((lines.filterMap fun line => Record.assistant? (trimReturn line)).getLast?.map
        fun record => .ofTexts record.texts).getD (.nothing .noAssistantTurn) := by
  have joined : turns ([lineFeed].intercalate lines) =
      lines.filterMap fun line => Record.assistant? (trimReturn line) := by
    cases lines with
    | nil => exact turns_nil
    | cons first others => exact turns_intercalate (List.cons_ne_nil _ _) unbroken
  rw [Extraction.ofContent, Search.extraction_of_turns, joined]
  simp only [Record.text_eq_joinTexts, Extraction.ofText_joinTexts]

/-- The last turn at or behind a place where one stands. -/
theorem Record.exists_last_turn {raw : List UInt8} {record : Record}
    (found : Record.assistant? (trimReturn raw) = some record) (after : List (List UInt8)) :
    ∃ first turn last final, raw :: after = first ++ turn :: last ∧
      Record.assistant? (trimReturn turn) = some final ∧
      ∀ later ∈ last, Record.assistant? (trimReturn later) = none := by
  cases search : after.reverse.findSome? fun bytes => Record.assistant? (trimReturn bytes) with
  | none =>
    refine ⟨[], raw, after, record, rfl, found, ?_⟩
    intro later member
    exact List.findSome?_eq_none_iff.mp search later (List.mem_reverse.mpr member)
  | some final =>
    obtain ⟨last, turn, first, split, holds, none⟩ := List.findSome?_eq_some_iff.mp search
    refine ⟨raw :: first.reverse, turn, last.reverse, final, ?_, holds, ?_⟩
    · have forward : after = first.reverse ++ turn :: last.reverse := by
        simpa using congrArg List.reverse split
      rw [forward]
      rfl
    · intro later member
      exact none later (List.mem_reverse.mp member)

theorem deciding_of_turn {record : Record} (turn : Record.IsTurn line record) : Deciding line := by
  have found := Record.assistant?_eq_some_iff.mpr turn
  refine ⟨?_, ?_⟩
  · intro newer older
    simp [Search.extraction_lines, List.findSome?_append, decision?, found]
  · intro path chunk raw before after trimmed unbroken
    rw [← trimmed] at found
    obtain ⟨first, turn, last, final, split, holds, none⟩ := Record.exists_last_turn found after
    refine ⟨first, turn, last, final, split, Record.assistant?_eq_some_iff.mp holds, ?_, ?_⟩
    · intro later member other turn
      have speaks := Record.assistant?_eq_some_iff.mpr turn
      rw [none later member] at speaks
      cases speaks
    · rw [Extraction.ofContent_eq path chunk unbroken, split, List.filterMap_append,
        List.filterMap_append, List.filterMap_cons, holds, List.filterMap_eq_nil_iff.mpr none]
      simp

/-- Overlooked lines are those that are no turn. -/
theorem overlooked_iff : Overlooked line ↔ ∀ record, ¬ Record.IsTurn line record := by
  simp only [← Record.assistant?_eq_some_iff, ← Option.eq_none_iff_forall_ne_some]
  constructor
  · intro overlooked
    cases found : Record.assistant? line with
    | none => rfl
    | some record =>
      have alone := overlooked.search [] []
      simp only [Search.extraction_lines, List.nil_append, List.findSome?_cons, decision?, found,
        Option.map_some] at alone
      cases texts : record.texts <;> simp [texts, Extraction.ofTexts] at alone
  · intro none
    refine ⟨?_, ?_⟩
    · intro newer older
      simp [Search.extraction_lines, List.findSome?_append, decision?, none]
    · intro path chunk raw before after trimmed unbroken
      have others : ∀ bytes ∈ before ++ after, lineFeed ∉ bytes := by
        intro bytes member
        refine unbroken bytes ?_
        rcases List.mem_append.mp member with early | late
        · exact List.mem_append_left _ early
        · exact List.mem_append_right _ (List.mem_cons_of_mem raw late)
      rw [Extraction.ofContent_eq path chunk unbroken, Extraction.ofContent_eq path chunk others,
        List.filterMap_append, List.filterMap_append, List.filterMap_cons, trimmed, none]

end ResponseGate
