import Mathlib.Algebra.Order.Floor.Div
import ResponseGate.Proofs.ReaderFaults
import ResponseGate.Proofs.TurnSelection

/-!
How much of a transcript a search needs. It reads back to the line feed in front of the newest
assistant line, or to the beginning if there is no such line feed; a failure before that ends the
search without a turn, and a failure behind it is never met.
-/

namespace ResponseGate

/-- The search is decided by what stands behind the offset: the line feed there is the one in front
of the newest assistant line, or it is the beginning and no line behind the first is an assistant
line. -/
inductive DecidedFrom (data : List UInt8) : Nat → Prop where
  | feed {older rest line : List UInt8} {newer : List (List UInt8)} {record : Record}
      (split : data = older ++ lineFeed :: rest) (lines : forwardLines rest = line :: newer)
      (turn : Record.assistant? line = some record)
      (skipped : ∀ later ∈ newer, Record.assistant? later = none) : DecidedFrom data older.length
  | beginning (skipped : ∀ later ∈ (forwardLines data).tail, Record.assistant? later = none) :
      DecidedFrom data 0

variable {data : List UInt8} {start boundary : Nat}

theorem exists_decidedFrom (data : List UInt8) : ∃ start, DecidedFrom data start := by
  induction data with
  | nil => exact ⟨0, .beginning (by simp [forwardLines_of_unbroken])⟩
  | cons byte data ih =>
    obtain ⟨start, decided⟩ := ih
    cases decided with
    | @feed older rest line newer record split lines turn skipped =>
      exact ⟨(byte :: older).length, .feed (by rw [split]; rfl) lines turn skipped⟩
    | beginning skipped =>
      by_cases feed : byte = lineFeed
      · subst feed
        obtain ⟨line, newer, lines⟩ := List.exists_cons_of_ne_nil (forwardLines_ne_nil data)
        rw [lines] at skipped
        cases turn : Record.assistant? line with
        | some record => exact ⟨[].length, .feed rfl lines turn skipped⟩
        | none =>
          refine ⟨0, .beginning ?_⟩
          rw [forwardLines_cons_feed, lines]
          intro later member
          rcases List.mem_cons.mp member with rfl | behind
          · exact turn
          · exact skipped later behind
      · exact ⟨0, .beginning (by rw [tail_forwardLines_cons feed]; exact skipped)⟩

theorem DecidedFrom.start_le (decided : DecidedFrom data start) : start ≤ data.length := by
  cases decided with
  | feed split =>
    rw [split, List.length_append]
    exact Nat.le_add_right _ _
  | beginning => exact Nat.zero_le _

theorem getLast?_of_turn {earlier newer : List (List UInt8)} {line : List UInt8} {record : Record}
    (turn : Record.assistant? line = some record)
    (skipped : ∀ later ∈ newer, Record.assistant? later = none) :
    ((earlier ++ line :: newer).filterMap Record.assistant?).getLast? = some record := by
  rw [List.filterMap_append, List.filterMap_cons_some turn, List.filterMap_eq_nil_iff.mpr skipped,
    List.getLast?_concat]

/-- The lines from the offset on, or from before it, have the same last assistant record as all. -/
theorem DecidedFrom.last_of_le (decided : DecidedFrom data start) (enough : boundary ≤ start) :
    ((linesSince data boundary).filterMap Record.assistant?).getLast? = lastAssistant? data := by
  cases decided with
  | feed split lines turn skipped =>
    rw [lastAssistant?, split, linesSince_append_feed enough, forwardLines_append_feed, lines,
      getLast?_of_turn turn skipped, getLast?_of_turn turn skipped]
  | beginning =>
    rw [Nat.eq_zero_of_le_zero enough, linesSince_zero, lastAssistant?]

theorem DecidedFrom.isSome_of_pos (decided : DecidedFrom data start) (positive : 0 < start) :
    (lastAssistant? data).isSome := by
  cases decided with
  | feed split lines turn skipped =>
    rw [lastAssistant?, split, forwardLines_append_feed, lines, getLast?_of_turn turn skipped]
    rfl
  | beginning => exact absurd positive (Nat.lt_irrefl 0)

/-- No line that begins behind the offset is an assistant line, but for the one right behind it. -/
theorem DecidedFrom.none_of_lt (decided : DecidedFrom data start) (late : start < boundary) :
    (linesSince data boundary).filterMap Record.assistant? = [] := by
  apply List.filterMap_eq_nil_iff.mpr
  intro later member
  rw [linesSince_of_ne_zero (Nat.ne_of_gt (Nat.zero_lt_of_lt late))] at member
  cases decided with
  | @feed older rest line newer record split lines turn skipped =>
    have outside : (older ++ [lineFeed]).length ≤ boundary := by
      rw [List.length_append]
      exact late
    have cut : data.drop boundary = rest.drop (boundary - (older ++ [lineFeed]).length) := by
      rw [split, List.append_cons, List.drop_append, List.drop_of_length_le outside,
        List.nil_append]
    have suffix := tail_forwardLines_drop_suffix rest (boundary - (older ++ [lineFeed]).length)
    rw [cut] at member
    rw [lines] at suffix
    exact skipped later (suffix.subset member)
  | beginning skipped =>
    exact skipped later ((tail_forwardLines_drop_suffix data boundary).subset member)

/-- Bytes before the offset do not bear on the decision. -/
theorem DecidedFrom.replace (decided : DecidedFrom data start) (enough : boundary ≤ start)
    {front : List UInt8} (length : front.length = boundary) :
    lastAssistant? (front ++ data.drop boundary) = lastAssistant? data := by
  cases decided with
  | feed split lines turn skipped =>
    rw [lastAssistant?, lastAssistant?, split, List.drop_append_of_le_length enough,
      ← List.append_assoc, forwardLines_append_feed, forwardLines_append_feed, lines,
      getLast?_of_turn turn skipped, getLast?_of_turn turn skipped]
  | beginning skipped =>
    rw [Nat.eq_zero_of_le_zero enough] at length ⊢
    rw [List.length_eq_zero_iff.mp length]
    rfl

theorem Search.extraction_of_failure (path : String) (bytes : ByteArray) (chunk : Nat)
    (failure : Failure) :
    let boundary := failure.boundary bytes.data.toList.length (max chunk 1)
    (Search.source path (failure.source bytes) chunk).extraction =
      (((linesSince bytes.data.toList boundary).filterMap Record.assistant?).getLast?.map
        fun record => .ofTexts record.texts).getD
        (.nothing (if boundary = 0 then .noAssistantTurn else .transcriptUnavailable)) := by
  intro boundary
  obtain ⟨reader, opened, results⟩ := Reader.results_of_failure bytes chunk failure
  rw [Search.source, opened]
  dsimp only
  rw [Reader.extraction_search, results, List.findSome?_append, findSome?_reverse_eq_getLast?]
  cases ((linesSince bytes.data.toList boundary).filterMap Record.assistant?).getLast? with
  | some record => rfl
  | none =>
    by_cases whole : boundary = 0
    · rw [if_pos whole, if_pos whole]
      rfl
    · rw [if_neg whole, if_neg whole]
      rfl

/-- A failure counts from the number of chunks on that reach back to the deciding line feed. -/
theorem Search.extraction_of_boundary (path : String) (bytes : ByteArray) (chunk : Nat)
    (failure : Failure) (decided : DecidedFrom bytes.data.toList start) :
    let boundary := failure.boundary bytes.data.toList.length (max chunk 1)
    (Search.source path (failure.source bytes) chunk).extraction =
      if boundary ≤ start then (Search.source path (Source.ofBytes bytes) chunk).extraction
      else .nothing .transcriptUnavailable := by
  intro boundary
  rw [Search.extraction_of_failure]
  by_cases enough : boundary ≤ start
  · rw [if_pos enough, decided.last_of_le enough, Search.extraction_source]
    by_cases whole : boundary = 0
    · rw [if_pos whole]
    · have positive : 0 < start := Nat.lt_of_lt_of_le (Nat.pos_of_ne_zero whole) enough
      obtain ⟨record, found⟩ := Option.isSome_iff_exists.mp (decided.isSome_of_pos positive)
      rw [found]
      rfl
  · have late : start < boundary := Nat.lt_of_not_le enough
    rw [if_neg enough, decided.none_of_lt late, if_neg (Nat.ne_of_gt (Nat.zero_lt_of_lt late))]
    rfl

/-- Faults have a threshold. The chunks needed are those that reach back to the line feed in front
of the newest assistant line, or to the beginning. A failure at one of them leaves nothing to judge;
a later one changes nothing, and neither do other bytes in front of these chunks. -/
theorem failure_ends_search_iff_chunk_needed :
    (∀ data, ∃ start, DecidedFrom data start) ∧
    ∀ (path : String) (bytes : ByteArray) (chunk start : Nat),
      DecidedFrom bytes.data.toList start →
      let data := bytes.data.toList
      let needed := (data.length - start) ⌈/⌉ max chunk 1
      let reach := data.length - needed * max chunk 1
      let sound := (Search.source path (Source.ofBytes bytes) chunk).extraction
      (∀ before account, ∀ failure ∈ [Failure.read before account, Failure.seek before account],
        (Search.source path (failure.source bytes) chunk).extraction =
          if needed ≤ before then sound else .nothing .transcriptUnavailable) ∧
      (∀ account,
        let unopened := { Source.ofBytes bytes with seekFault := some ⟨0, account⟩ }
        (Search.source path unopened chunk).extraction = .nothing .transcriptUnavailable) ∧
      (∀ failure : Failure,
        let found := (Search.source path (failure.source bytes) chunk).extraction
        found = sound ∨ found = .nothing .transcriptUnavailable) ∧
      ∀ front : List UInt8, front.length = reach →
        (Search.source path (Source.ofBytes ⟨(front ++ data.drop reach).toArray⟩)
          chunk).extraction = sound := by
  refine ⟨exists_decidedFrom, ?_⟩
  intro path bytes chunk start decided data needed reach sound
  have threshold (before : Nat) : needed ≤ before ↔ data.length - before * max chunk 1 ≤ start := by
    have inside : start ≤ data.length := decided.start_le
    rw [ceilDiv_le_iff_le_mul (Nat.le_max_right chunk 1), Nat.mul_comm]
    omega
  refine ⟨?_, ?_, ?_, ?_⟩
  · intro before account failure member
    have boundary : failure.boundary data.length (max chunk 1) =
        data.length - before * max chunk 1 := by
      simp only [List.mem_cons, List.not_mem_nil, or_false] at member
      rcases member with rfl | rfl
      · rfl
      · rfl
    rw [Search.extraction_of_boundary path bytes chunk failure decided, boundary]
    exact if_congr (threshold before).symm rfl rfl
  · intro account
    rfl
  · intro failure found
    have cases := Search.extraction_of_boundary path bytes chunk failure decided
    by_cases enough : failure.boundary data.length (max chunk 1) ≤ start
    · exact .inl (cases.trans (if_pos enough))
    · exact .inr (cases.trans (if_neg enough))
  · intro front length
    have enough : reach ≤ start := (threshold needed).mp (Nat.le_refl _)
    have whole : sound = _ := Search.extraction_source path bytes chunk
    rw [whole, Search.extraction_source, ← decided.replace enough length]

/-- A line feed that begins the third chunk from the end. Without that chunk there is nothing to
judge; a fourth one is never read, though an older turn stands in it. -/
theorem third_chunk_decides :
    let older := "\x7b\"type\":\"assistant\"\x7d".toUTF8.data.toList
    let turn := ("\x7b\"type\":\"assistant\",\"message\":" ++
      "\x7b\"content\":[\x7b\"type\":\"text\",\"text\":\"ok\"\x7d]\x7d\x7d").toUTF8.data.toList
    let bytes : ByteArray := ⟨(older ++ lineFeed :: (turn ++ [lineFeed, 0x78])).toArray⟩
    DecidedFrom bytes.data.toList 20 ∧
      (Search.source "log" ((Failure.read 2 "gone").source bytes) 25).extraction =
        .nothing .transcriptUnavailable ∧
      (Search.source "log" ((Failure.seek 3 "gone").source bytes) 25).extraction =
        .response "ok\n" := by
  intro older turn bytes
  have decided : DecidedFrom bytes.data.toList 20 :=
    @DecidedFrom.feed _ older _ turn [[0x78]] ⟨some "assistant", [.text "ok"]⟩ rfl
      (by decide +kernel) (by decide +kernel) (by decide +kernel)
  obtain ⟨threshold, _⟩ := failure_ends_search_iff_chunk_needed.2 "log" bytes 25 20 decided
  refine ⟨decided, ?_, ?_⟩
  · rw [threshold 2 "gone" _ (by simp)]
    exact if_neg (by decide +kernel)
  · rw [threshold 3 "gone" _ (by simp), if_pos (by decide +kernel), Search.extraction_source]
    decide +kernel

end ResponseGate
