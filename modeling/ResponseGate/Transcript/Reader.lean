import ResponseGate.Transcript.Source

/-!
Reading lines from the end. The reader takes fixed-size chunks of a source, the last one first, and
gives the lines last to first; older chunks are read only when a line begins in them. Lines are
separated by line feeds, and one carriage return at the end of a line is not part of it, so a source
that ends in a line feed has an empty last line.
-/

namespace ResponseGate

def lineFeed : UInt8 := 0x0A

def carriageReturn : UInt8 := 0x0D

/-- A line without the carriage return it may end in. -/
def trimReturn (line : List UInt8) : List UInt8 :=
  if line.getLast? = some carriageReturn then line.dropLast else line

/-- The line is what stands in front of the one carriage return at the end of the piece, or all of
the piece where it ends in none. -/
theorem trimReturn_eq_iff {piece line : List UInt8} :
    trimReturn piece = line ↔
      piece = line ++ [carriageReturn] ∨ piece = line ∧ line.getLast? ≠ some carriageReturn := by
  unfold trimReturn
  split
  · rename_i last
    obtain ⟨before, rfl⟩ := List.getLast?_eq_some_iff.mp last
    rw [List.dropLast_concat]
    constructor
    · rintro rfl
      exact .inl rfl
    · rintro (same | ⟨rfl, other⟩)
      · exact List.append_cancel_right same
      · exact absurd last other
  · rename_i other
    constructor
    · rintro rfl
      exact .inr ⟨rfl, other⟩
    · rintro (rfl | ⟨same, _⟩)
      · exact absurd List.getLast?_concat other
      · exact same

/-- A reader part way through its source. What it has read and not yet given out lies in `tail` and
`carry`; what lies before `offset` has not been read. -/
structure Reader where
  source : Source
  chunk : Nat
  chunk_pos : 0 < chunk
  offset : Nat
  /-- The earliest chunk read, last byte first, as far as it is not given out. -/
  tail : List UInt8 := []
  /-- Pieces of the current line from the chunks that follow, in file order. None holds a line
  feed. -/
  carry : List (List UInt8) := []
  finished : Bool := false

namespace Reader

def defaultChunk : Nat := 8 * 1024

/-- Begins at the end of a source. A chunk size of zero counts as one. -/
def ofSource (source : Source) (chunk : Nat := defaultChunk) : Except ReadFault Reader :=
  match source.seekEnd with
  | (.error fault, _) => .error fault
  | (.ok offset, source) =>
    .ok { source, chunk := max chunk 1, chunk_pos := Nat.le_max_right chunk 1, offset }

/-- The bytes read and not yet given out, in file order. -/
def held (reader : Reader) : List UInt8 := reader.tail.reverse ++ reader.carry.flatten

/-- The line that ends what the reader holds and begins with the given bytes of its chunk, which
come last byte first. -/
def lineFrom (reader : Reader) (piece : List UInt8) : List UInt8 :=
  trimReturn (piece.reverse ++ reader.carry.flatten)

/-- Reads the chunk before the current one. The offset moves first, also when the source fails. -/
def fill (reader : Reader) : Except ReadFault Unit × Reader :=
  let length := min reader.offset reader.chunk
  let offset := reader.offset - length
  match reader.source.seek offset with
  | (.error fault, source) => (.error fault, { reader with source, offset })
  | (.ok (), source) =>
    match source.readExactly length with
    | (.error fault, source) => (.error fault, { reader with source, offset })
    | (.ok found, source) =>
      let carry := if reader.tail.isEmpty then reader.carry else reader.tail.reverse :: reader.carry
      (.ok (), { reader with source, offset, carry, tail := found.reverse })

theorem offset_of_fill (reader : Reader) :
    reader.fill.2.offset = reader.offset - min reader.offset reader.chunk := by
  unfold fill
  dsimp only
  split
  · rfl
  · split <;> rfl

theorem offset_fill_lt {reader : Reader} (unread : reader.offset ≠ 0) :
    reader.fill.2.offset < reader.offset := by
  have positive := reader.chunk_pos
  rw [offset_of_fill]
  omega

/-- Gives out the line after the last line feed of the current chunk, if it holds one. -/
def takeLine? (reader : Reader) : Option (List UInt8 × Reader) :=
  match reader.tail.dropWhile (· != lineFeed) with
  | [] => none
  | _ :: older =>
    some (reader.lineFrom (reader.tail.takeWhile (· != lineFeed)),
      { reader with tail := older, carry := [] })

/-- Gives out everything held, which is the first line once nothing is left to read. -/
def takeFirst (reader : Reader) : List UInt8 × Reader :=
  (reader.lineFrom reader.tail, { reader with tail := [], carry := [], finished := true })

/-- Gives the next line, reading chunks until one holds a line feed or nothing is left to read. A
fault ends the reader. -/
def seekLine (reader : Reader) : Except ReadFault (List UInt8) × Reader :=
  match reader.takeLine? with
  | some (line, reader) => (.ok line, reader)
  | none =>
    if _unread : reader.offset = 0 then (.ok reader.takeFirst.1, reader.takeFirst.2)
    else
      match _filled : reader.fill with
      | (.error fault, reader) => (.error fault, { reader with finished := true })
      | (.ok (), reader) => reader.seekLine
termination_by reader.offset
decreasing_by
  have earlier := offset_fill_lt _unread
  rw [_filled] at earlier
  exact earlier

/-- One call: a line or a fault, or nothing once the reader is finished. -/
def next (reader : Reader) : Option (Except ReadFault (List UInt8)) × Reader :=
  if reader.finished then (none, reader)
  else
    let (result, reader) := reader.seekLine
    (some result, reader)

/-- One call, with the reads it makes on the source in the order it makes them. -/
def nextWithReads (reader : Reader) :
    Option (Except ReadFault (List UInt8)) × List (Nat × Nat) × Reader :=
  let (result, later) := { reader with source := reader.source.forgetReads }.next
  (result, later.source.reads.reverse, later)

end Reader

end ResponseGate
