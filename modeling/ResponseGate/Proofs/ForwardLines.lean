import Mathlib.Data.List.Forall2
import ResponseGate.Transcript.Reader

/-!
The lines of a content, first to last, by one forward split, and those among them that begin behind
an offset. Nothing here knows of chunks.
-/

namespace ResponseGate

/-- The pieces between the line feeds, each without the one carriage return it may end in. -/
def forwardLines (bytes : List UInt8) : List (List UInt8) :=
  (bytes.splitOn lineFeed).map trimReturn

/-- The lines are the pieces between the line feeds: each is the whole piece, or what stands in
front of the carriage return at its end, and nothing else is a line. -/
theorem forwardLines_eq_iff {bytes : List UInt8} {lines : List (List UInt8)} :
    forwardLines bytes = lines ↔
      List.Forall₂ (fun piece line =>
        piece = line ++ [carriageReturn] ∨ piece = line ∧ line.getLast? ≠ some carriageReturn)
        (bytes.splitOn lineFeed) lines := by
  simp only [← trimReturn_eq_iff]
  rw [forwardLines, ← List.forall₂_map_left_iff, List.forall₂_eq_eq_eq]

theorem trimReturn_append_return (line : List UInt8) :
    trimReturn (line ++ [carriageReturn]) = line :=
  trimReturn_eq_iff.mpr (.inl rfl)

theorem returned_or_bare (piece : List UInt8) :
    piece = trimReturn piece ++ [carriageReturn] ∨ piece = trimReturn piece :=
  (trimReturn_eq_iff.mp rfl).imp_right And.left

theorem trimReturn_prefix (line : List UInt8) : trimReturn line <+: line := by
  rcases returned_or_bare line with returned | bare
  · exact ⟨[carriageReturn], returned.symm⟩
  · exact ⟨[], by rw [List.append_nil, ← bare]⟩

theorem forwardLines_append_feed (first last : List UInt8) :
    forwardLines (first ++ lineFeed :: last) = forwardLines first ++ forwardLines last := by
  simp [forwardLines, List.splitOn_append_cons_self]

theorem forwardLines_of_unbroken {bytes : List UInt8} (unbroken : lineFeed ∉ bytes) :
    forwardLines bytes = [trimReturn bytes] := by
  simp [forwardLines, List.splitOn_eq_singleton unbroken]

theorem forwardLines_cons_feed (bytes : List UInt8) :
    forwardLines (lineFeed :: bytes) = [] :: forwardLines bytes := by
  rw [← List.nil_append (lineFeed :: bytes), forwardLines_append_feed,
    forwardLines_of_unbroken List.not_mem_nil]
  rfl

/-- Any other byte in front belongs to the first line. -/
theorem tail_forwardLines_cons {byte : UInt8} (other : byte ≠ lineFeed) (bytes : List UInt8) :
    (forwardLines (byte :: bytes)).tail = (forwardLines bytes).tail := by
  simp only [forwardLines, List.splitOn_cons_eq_if_modifyHead, beq_iff_eq, other, ↓reduceIte,
    ← List.map_tail]
  cases bytes.splitOn lineFeed <;> rfl

theorem forwardLines_ne_nil (bytes : List UInt8) : forwardLines bytes ≠ [] := by
  simp [forwardLines, List.splitOn_ne_nil]

/-- Line feeds separate lines and do not end them. -/
theorem length_forwardLines (bytes : List UInt8) :
    (forwardLines bytes).length = bytes.count lineFeed + 1 := by
  induction bytes with
  | nil => rfl
  | cons byte rest ih =>
    by_cases feed : byte = lineFeed
    · subst feed
      rw [forwardLines_cons_feed, List.length_cons, ih, List.count_cons_self]
    · have length := congrArg List.length (tail_forwardLines_cons feed rest)
      rw [List.length_tail, List.length_tail, ih, Nat.add_sub_cancel] at length
      have positive := List.length_pos_iff.mpr (forwardLines_ne_nil (byte :: rest))
      rw [List.count_cons_of_ne feed]
      omega

/-- Bytes in front of others end in their first piece, and leave the pieces after it alone. -/
theorem tail_forwardLines_append_suffix (front back : List UInt8) :
    (forwardLines back).tail <:+ (forwardLines (front ++ back)).tail := by
  induction front with
  | nil => exact List.suffix_refl _
  | cons byte front ih =>
    rw [List.cons_append]
    by_cases feed : byte = lineFeed
    · rw [feed, forwardLines_cons_feed]
      exact ih.trans (List.tail_suffix _)
    · rw [tail_forwardLines_cons feed]
      exact ih

theorem tail_forwardLines_drop_suffix (bytes : List UInt8) (offset : Nat) :
    (forwardLines (bytes.drop offset)).tail <:+ (forwardLines bytes).tail := by
  have suffix := tail_forwardLines_append_suffix (bytes.take offset) (bytes.drop offset)
  rwa [List.take_append_drop] at suffix

/-! ### Lines that begin late -/

/-- The lines that begin after a line feed at the offset or behind it. The first line of all begins
without a line feed; only the offset 0 leaves it in. -/
def linesSince (data : List UInt8) (offset : Nat) : List (List UInt8) :=
  if offset = 0 then forwardLines data else (forwardLines (data.drop offset)).tail

@[simp] theorem linesSince_zero (data : List UInt8) : linesSince data 0 = forwardLines data := rfl

theorem linesSince_of_ne_zero {offset : Nat} (positive : offset ≠ 0) (data : List UInt8) :
    linesSince data offset = (forwardLines (data.drop offset)).tail := if_neg positive

/-- They are lines of the whole data, and the last ones. -/
theorem linesSince_suffix (data : List UInt8) (offset : Nat) :
    linesSince data offset <:+ forwardLines data := by
  by_cases start : offset = 0
  · exact start ▸ List.suffix_refl _
  · rw [linesSince_of_ne_zero start]
    exact (tail_forwardLines_drop_suffix data offset).trans (List.tail_suffix _)

theorem length_linesSince {offset : Nat} (positive : offset ≠ 0) (data : List UInt8) :
    (linesSince data offset).length = (data.drop offset).count lineFeed := by
  rw [linesSince_of_ne_zero positive, List.length_tail, length_forwardLines, Nat.add_sub_cancel]

theorem linesSince_of_length_le {data : List UInt8} {offset : Nat} (outside : data.length ≤ offset)
    (positive : offset ≠ 0) : linesSince data offset = [] := by
  rw [linesSince_of_ne_zero positive, List.drop_of_length_le outside]
  rfl

theorem linesSince_append_feed {first : List UInt8} {offset : Nat} (inside : offset ≤ first.length)
    (last : List UInt8) :
    linesSince (first ++ lineFeed :: last) offset =
      linesSince first offset ++ forwardLines last := by
  by_cases start : offset = 0
  · rw [start, linesSince_zero, linesSince_zero, forwardLines_append_feed]
  · rw [linesSince_of_ne_zero start, linesSince_of_ne_zero start,
      List.drop_append_of_le_length inside, forwardLines_append_feed,
      List.tail_append_of_ne_nil (forwardLines_ne_nil _)]

end ResponseGate
