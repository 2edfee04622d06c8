import Mathlib.Data.List.Forall2
import ResponseGate.Proofs.WrittenTurns

/-!
Line endings. A carriage return at its end changes nothing about what a line is taken for. So a
content is searched with the same result, and with the same events on the way, whether its lines end
in line feeds alone or in both characters.
-/

namespace ResponseGate

/-- The bytes with a carriage return in front of every line feed. -/
def withReturns (bytes : List UInt8) : List UInt8 :=
  bytes.flatMap fun byte => if byte = lineFeed then [carriageReturn, lineFeed] else [byte]

/-- The same bytes, or the bytes with one carriage return behind them. -/
inductive Returned (piece : List UInt8) : List UInt8 → Prop where
  | same : Returned piece piece
  | added : Returned piece (piece ++ [carriageReturn])

theorem Returned.cons {piece returned : List UInt8} (byte : UInt8)
    (alike : Returned piece returned) :
    Returned (byte :: piece) (byte :: returned) := by
  cases alike with
  | same => exact .same
  | added => exact .added

/-- A byte in front belongs to the first piece on either side. -/
theorem Returned.modifyHead {pieces others : List (List UInt8)}
    (alike : List.Forall₂ Returned pieces others) (byte : UInt8) :
    List.Forall₂ Returned (pieces.modifyHead (byte :: ·)) (others.modifyHead (byte :: ·)) := by
  cases alike with
  | nil => exact .nil
  | cons here rest => exact .cons (here.cons byte) rest

theorem splitOn_withReturns (bytes : List UInt8) :
    List.Forall₂ Returned (bytes.splitOn lineFeed) ((withReturns bytes).splitOn lineFeed) := by
  induction bytes with
  | nil => exact .cons .same .nil
  | cons byte bytes ih =>
    by_cases feed : byte = lineFeed
    · have other : carriageReturn ≠ lineFeed := by decide
      have longer : withReturns (byte :: bytes) =
          carriageReturn :: lineFeed :: withReturns bytes := by
        simp [withReturns, feed]
      rw [longer, feed]
      simp only [List.splitOn_cons_eq_if_modifyHead, beq_self_eq_true, beq_iff_eq, other,
        ↓reduceIte, List.modifyHead_cons]
      exact .cons .added ih
    · have longer : withReturns (byte :: bytes) = byte :: withReturns bytes := by
        simp [withReturns, feed]
      rw [longer]
      simp only [List.splitOn_cons_eq_if_modifyHead, beq_iff_eq, feed, ↓reduceIte]
      exact Returned.modifyHead ih byte

/-! ### What a line is taken for -/

theorem all_isBlankByte_trimReturn (line : List UInt8) :
    (trimReturn line).all Text.isBlankByte = line.all Text.isBlankByte := by
  rcases returned_or_bare line with returned | bare
  · have blank : Text.isBlankByte carriageReturn = true := rfl
    have all := congrArg (List.all · Text.isBlankByte) returned
    simpa [blank] using all.symm
  · rw [← bare]

/-- One carriage return, trimmed or not, makes no difference, whether the line is blank, torn or a
record. -/
theorem Finding.ofLine_trimReturn (line : List UInt8) :
    Finding.ofLine (.ok (trimReturn line)) = Finding.ofLine (.ok line) := by
  simp only [Finding.ofLine, Record.ofLine, all_isBlankByte_trimReturn,
    Json.Value.parseBytes?_of_trimReturn]

theorem Returned.ofLine_eq {piece returned : List UInt8} (alike : Returned piece returned) :
    Finding.ofLine (.ok (trimReturn returned)) = Finding.ofLine (.ok (trimReturn piece)) := by
  cases alike with
  | same => rfl
  | added => rw [trimReturn_append_return, Finding.ofLine_trimReturn]

/-! ### Searches -/

/-- A search knows no more of its lines than what each of them is taken for. -/
theorem Search.linesFrom_congr {lines others : List (Except ReadFault (List UInt8))}
    (same : List.Forall₂ (fun line other => Finding.ofLine line = Finding.ofLine other)
      lines others)
    (noted : List Event) : Search.linesFrom noted lines = Search.linesFrom noted others := by
  induction same generalizing noted with
  | nil => rfl
  | cons here _ ih =>
    rw [Search.linesFrom, Search.linesFrom, here]
    split
    · rfl
    · exact ih _

theorem Search.source_eq_lines (path : String) (bytes : ByteArray) (chunk : Nat) :
    Search.source path (Source.ofBytes bytes) chunk =
      Search.lines ((forwardLines bytes.data.toList).reverse.map .ok) := by
  obtain ⟨reader, opened, results⟩ := Reader.results_of_ofBytes bytes chunk
  rw [Search.source, opened]
  dsimp only
  rw [Reader.search, Reader.searchFrom_eq_linesFrom, results, Search.lines]

/-- Line endings make no difference. For all bytes, whatever line feeds and carriage returns they
hold already, and for all chunk sizes, a search comes to the same end and reports the same events
after a carriage return is put in front of every line feed. -/
theorem line_endings_make_no_difference (path : String) (bytes : ByteArray) (chunk other : Nat) :
    let returned : ByteArray := ⟨(withReturns bytes.data.toList).toArray⟩
    (Search.source path (Source.ofBytes returned) chunk).extraction =
      (Search.source path (Source.ofBytes bytes) other).extraction ∧
    (Search.source path (Source.ofBytes returned) chunk).events =
      (Search.source path (Source.ofBytes bytes) other).events := by
  intro returned
  have alike : List.Forall₂ (fun line other => Finding.ofLine line = Finding.ofLine other)
      ((forwardLines returned.data.toList).reverse.map .ok)
      ((forwardLines bytes.data.toList).reverse.map .ok) := by
    apply List.forall₂_map_left_iff.mpr
    apply List.forall₂_map_right_iff.mpr
    apply List.forall₂_reverse_iff.mpr
    apply List.forall₂_map_left_iff.mpr
    apply List.forall₂_map_right_iff.mpr
    exact (splitOn_withReturns bytes.data.toList).flip.imp fun _ _ => Returned.ofLine_eq
  rw [Search.source_eq_lines, Search.source_eq_lines, Search.lines, Search.lines,
    Search.linesFrom_congr alike]
  exact ⟨rfl, rfl⟩

end ResponseGate
