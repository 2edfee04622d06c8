import ResponseGate.Proofs.ForwardLines
import ResponseGate.Proofs.ReaderInvariant

/-!
Whole runs of a reader over a source without faults: call after call they give the lines of a
forward split in reverse, and then nothing.
-/

namespace ResponseGate.Reader

variable {data : List UInt8} {stop : Nat} {reader later : Reader}

/-- A reader after some number of calls. -/
def after (reader : Reader) : Nat → Reader
  | 0 => reader
  | calls + 1 => reader.next.2.after calls

theorem next_of_finished (finished : reader.finished = true) : reader.next = (none, reader) := by
  simp [next, finished]

theorem next_of_unfinished (unfinished : reader.finished = false) :
    reader.next = (some reader.seekLine.1, reader.seekLine.2) := by
  simp [next, unfinished]

theorem after_of_finished (finished : reader.finished = true) (calls : Nat) :
    reader.after calls = reader := by
  induction calls with
  | zero => rfl
  | succ calls ih => rw [after, next_of_finished finished, ih]

/-- What a reader still gives is what its calls give, one by one; a call that gives nothing is
followed by no other result. -/
theorem getElem?_results (reader : Reader) (calls : Nat) :
    reader.results[calls]? = (reader.after calls).next.1 := by
  induction calls generalizing reader with
  | zero =>
    rw [results, after]
    split <;> simp_all
  | succ calls ih =>
    rw [results, after]
    split
    · rename_i ended given
      have finished : reader.finished = true := by
        by_contra unfinished
        rw [next_of_unfinished (by simpa using unfinished)] at given
        simp at given
      rw [next_of_finished finished, after_of_finished finished, next_of_finished finished]
      rfl
    · rename_i result later given
      rw [given, List.getElem?_cons_succ, ih]

/-- A reader is opened when the seek to the end is spared. It stands there and holds nothing. -/
theorem ofSource_eq_ok_iff {source : Source} {chunk : Nat} :
    Reader.ofSource source chunk = .ok reader ↔
      ∃ left, Fault.strike source.seekFault = (none, left) ∧
        reader =
          { source :=
              { source with
                seekFault := left
                position := source.content.length + source.overstated }
            chunk := max chunk 1
            chunk_pos := Nat.le_max_right chunk 1
            offset := source.content.length + source.overstated } := by
  unfold ofSource Source.seekEnd
  dsimp only
  cases struck : Fault.strike source.seekFault with
  | mk account left =>
    cases account with
    | some account => simp [Source.seek_of_struck struck, Except.map]
    | none =>
      rw [Source.seek_of_spared struck]
      constructor
      · intro opened
        cases opened
        exact ⟨left, rfl, rfl⟩
      · rintro ⟨_, same, rfl⟩
        cases same
        rfl

/-- A reader at the end of a source that states its end truly and lets it be sought. -/
theorem ofSource_of_spared {source : Source} {left : Option Fault}
    (spared : Fault.strike source.seekFault = (none, left)) (truthful : source.overstated = 0)
    (chunk : Nat) :
    ∃ reader, Reader.ofSource source chunk = .ok reader ∧
      reader.Holds source.content source.content.length ∧ reader.finished = false ∧
      reader.offset = source.content.length ∧ reader.chunk = max chunk 1 ∧
      reader.source.readFault = source.readFault ∧ reader.source.seekFault = left := by
  have offset : source.content.length + source.overstated = source.content.length := by
    rw [truthful, Nat.add_zero]
  exact ⟨_, ofSource_eq_ok_iff.mpr ⟨left, spared, rfl⟩, .atEnd rfl offset rfl rfl, rfl, offset, rfl,
    rfl, rfl⟩

theorem ofSource_of_faultless {source : Source} (faultless : source.Faultless)
    (truthful : source.overstated = 0) (chunk : Nat) :
    ∃ reader, Reader.ofSource source chunk = .ok reader ∧
      reader.Holds source.content source.content.length ∧
      reader.finished = false ∧ reader.source.Faultless := by
  have spared : Fault.strike source.seekFault = (none, none) := by rw [faultless.seeks]; rfl
  obtain ⟨reader, opened, holds, unfinished, _, _, reads, seeks⟩ :=
    ofSource_of_spared spared truthful chunk
  exact ⟨reader, opened, holds, unfinished, reads.trans faultless.reads, seeks⟩

/-- Successive calls give the lines of what is left, the last one first, and nothing after them. -/
theorem Holds.next_after (holds : reader.Holds data stop) (unfinished : reader.finished = false)
    (faultless : reader.source.Faultless) (calls : Nat) :
    (reader.after calls).next.1 =
      ((forwardLines (data.take stop)).reverse[calls]?).map .ok := by
  induction calls generalizing reader stop with
  | zero =>
    obtain ⟨line, later, given, _⟩ := holds.seekLine_of_faultless faultless
    rw [after, next_of_unfinished unfinished, given]
    cases holds.seekLine unfinished given with
    | line split unbroken =>
      rw [split, forwardLines_append_feed, forwardLines_of_unbroken unbroken]
      simp
    | first unbroken =>
      rw [forwardLines_of_unbroken unbroken]
      rfl
  | succ calls ih =>
    obtain ⟨line, later, given, kept⟩ := holds.seekLine_of_faultless faultless
    rw [after, next_of_unfinished unfinished, given]
    cases holds.seekLine unfinished given with
    | line split unbroken earlier _ ongoing =>
      rw [ih earlier ongoing kept, split, forwardLines_append_feed,
        forwardLines_of_unbroken unbroken]
      simp
    | first unbroken _ _ finished =>
      rw [after_of_finished finished, next_of_finished finished, forwardLines_of_unbroken unbroken]
      rfl

/-- Everything a reader gives over bytes without faults. -/
theorem results_of_ofBytes (bytes : ByteArray) (chunk : Nat) :
    ∃ reader, Reader.ofSource (Source.ofBytes bytes) chunk = .ok reader ∧
      reader.results = (forwardLines bytes.data.toList).reverse.map .ok := by
  have sound : (Source.ofBytes bytes).Faultless := ⟨rfl, rfl⟩
  obtain ⟨reader, opened, holds, unfinished, faultless⟩ := ofSource_of_faultless sound rfl chunk
  refine ⟨reader, opened, List.ext_getElem? fun calls => ?_⟩
  rw [getElem?_results, holds.next_after unfinished faultless, List.take_length, List.getElem?_map]
  rfl

/-- For all bytes and every chunk size the calls on a reader give the lines of the forward split in
reverse order, call by call, and every call after them gives nothing. -/
theorem calls_give_lines_in_reverse (bytes : ByteArray) (chunk : Nat) :
    ∃ reader, Reader.ofSource (Source.ofBytes bytes) chunk = .ok reader ∧
      reader.results = (forwardLines bytes.data.toList).reverse.map .ok ∧
      (∀ calls, (reader.after calls).next.1 =
        ((forwardLines bytes.data.toList).reverse[calls]?).map .ok) ∧
      reader.results.length = bytes.data.toList.count lineFeed + 1 := by
  obtain ⟨reader, opened, results⟩ := results_of_ofBytes bytes chunk
  refine ⟨reader, opened, results, ?_, ?_⟩
  · intro calls
    rw [← getElem?_results, results, List.getElem?_map]
  · rw [results, List.length_map, List.length_reverse, length_forwardLines]

end ResponseGate.Reader
