import Mathlib.Data.List.TakeWhile
import ResponseGate.Proofs.SourceReads
import ResponseGate.Transcript.Turn

/-!
What a reader holds. At every moment the bytes not yet given out are a beginning of the content: an
unread part before the offset, and after it the part that is read and held. Filling moves bytes
from the one part to the other; giving a line cuts the end off.
-/

namespace ResponseGate.Reader

/-- Everything of the data from `stop` on is given out, and what lies between the offset and `stop`
is held. Only the earliest chunk can hold a line feed. -/
structure Holds (data : List UInt8) (stop : Nat) (reader : Reader) : Prop where
  content : reader.source.content = data
  offset_le : reader.offset ≤ stop
  stop_le : stop ≤ data.length
  held : reader.held = (data.take stop).drop reader.offset
  carried : ∀ piece ∈ reader.carry, piece ≠ [] ∧ lineFeed ∉ piece

variable {data : List UInt8} {stop : Nat} {reader later : Reader}

/-- What is left to give out is the unread part followed by the held one. -/
theorem Holds.left (holds : reader.Holds data stop) :
    data.take stop = data.take reader.offset ++ reader.held := by
  have unread : (data.take stop).take reader.offset = data.take reader.offset := by
    rw [List.take_take, Nat.min_eq_left holds.offset_le]
  rw [holds.held, ← unread, List.take_append_drop]

theorem Holds.unbroken_carry (holds : reader.Holds data stop) :
    lineFeed ∉ reader.carry.flatten := by
  intro member
  obtain ⟨piece, carried, feed⟩ := List.mem_flatten.mp member
  exact (holds.carried piece carried).2 feed

theorem Holds.unbroken_held (holds : reader.Holds data stop) (unbroken : lineFeed ∉ reader.tail) :
    lineFeed ∉ reader.held := by
  intro feed
  rcases List.mem_append.mp feed with tail | carried
  · exact unbroken (List.mem_reverse.mp tail)
  · exact holds.unbroken_carry carried

/-- At the end of its source a reader that holds nothing has everything left. -/
theorem Holds.atEnd (content : reader.source.content = data) (offset : reader.offset = data.length)
    (tail : reader.tail = []) (carry : reader.carry = []) : reader.Holds data data.length := by
  refine ⟨content, Nat.le_of_eq offset, Nat.le_refl _, ?_, by simp [carry]⟩
  rw [Reader.held, tail, carry, offset, List.take_length, List.drop_length]
  rfl

/-! ### Filling -/

/-- A fill that succeeds puts the bytes before the offset in front of what is held. -/
theorem fill_ok (success : reader.fill = (.ok (), later)) :
    later.source.content = reader.source.content ∧
      later.held =
        (reader.source.content.drop (reader.offset - min reader.offset reader.chunk)).take
        (min reader.offset reader.chunk) ++ reader.held ∧
      later.carry = (if reader.tail.isEmpty then reader.carry
        else reader.tail.reverse :: reader.carry) ∧
      later.finished = reader.finished := by
  unfold fill at success
  dsimp only at success
  split at success
  · simp at success
  · rename_i sought seek
    split at success
    · simp at success
    · rename_i found read exact
      obtain ⟨soughtContent, soughtPosition⟩ := Source.content_of_seek seek
      obtain ⟨readContent, bytes⟩ := Source.content_of_readExactly exact
      simp only [Prod.mk.injEq, true_and] at success
      subst later
      rw [soughtContent, soughtPosition] at bytes
      refine ⟨readContent.trans soughtContent, ?_, rfl, rfl⟩
      subst found
      cases tail : reader.tail <;> simp [held, tail]

/-- Filling keeps what is left to give out, once the current chunk has no line feed left. -/
theorem Holds.fill (holds : reader.Holds data stop) (unbroken : lineFeed ∉ reader.tail)
    (success : reader.fill = (.ok (), later)) : later.Holds data stop := by
  obtain ⟨content, held, carry, _⟩ := fill_ok success
  have offset : later.offset = reader.offset - min reader.offset reader.chunk := by
    rw [← offset_of_fill, success]
  refine ⟨content.trans holds.content, ?_, holds.stop_le, ?_, ?_⟩
  · have before := holds.offset_le
    omega
  · have start : later.offset + min reader.offset reader.chunk = reader.offset := by omega
    rw [held, holds.content, ← offset, holds.left, List.drop_append_of_le_length, List.drop_take]
    · rw [← start, Nat.add_sub_cancel_left, start]
    · have bound := Nat.le_trans holds.offset_le holds.stop_le
      rw [List.length_take]
      omega
  · intro piece member
    rw [carry] at member
    split at member
    · exact holds.carried piece member
    · rename_i occupied
      rcases List.mem_cons.mp member with same | old
      · subst piece
        refine ⟨?_, by simpa using unbroken⟩
        simpa using occupied
      · exact holds.carried piece old

/-- A reader that holds its data never asks for bytes that are not there. -/
theorem Holds.chunk_inside (holds : reader.Holds data stop) :
    (reader.offset - min reader.offset reader.chunk) + min reader.offset reader.chunk ≤
      reader.source.content.length := by
  have bound := Nat.le_trans holds.offset_le holds.stop_le
  rw [holds.content]
  omega

/-- Without faults a fill goes well, with one read in the log. -/
theorem Holds.fill_of_faultless (holds : reader.Holds data stop)
    (faultless : reader.source.Faultless) :
    ∃ later, reader.fill = (.ok (), later) ∧ later.source.Faultless ∧
      later.source.reads =
        (reader.offset - min reader.offset reader.chunk, min reader.offset reader.chunk) ::
          reader.source.reads := by
  unfold Reader.fill
  dsimp only
  rw [faultless.seek]
  dsimp only
  have sought : Source.Faultless
      { reader.source with position := reader.offset - min reader.offset reader.chunk } :=
    ⟨faultless.reads, faultless.seeks⟩
  rw [sought.readExactly holds.chunk_inside]
  exact ⟨_, rfl, ⟨faultless.reads, faultless.seeks⟩, rfl⟩

/-! ### Giving a line -/

theorem unbroken_of_takeLine?_none (none : reader.takeLine? = none) : lineFeed ∉ reader.tail := by
  unfold takeLine? at none
  split at none
  · rename_i empty
    intro feed
    have passed := List.dropWhile_eq_nil_iff.mp empty lineFeed feed
    simp at passed
  · simp at none

/-- A line that is given ends what is held; the line feed before it goes with it. -/
theorem takeLine?_some {line : List UInt8} (taken : reader.takeLine? = some (line, later)) :
    ∃ young older, reader.tail = young ++ lineFeed :: older ∧ lineFeed ∉ young ∧
      line = reader.lineFrom young ∧ later = { reader with tail := older, carry := [] } := by
  unfold takeLine? at taken
  split at taken
  · simp at taken
  · rename_i feed older split
    simp only [Option.some.injEq, Prod.mk.injEq] at taken
    have whole : reader.tail.takeWhile (· != lineFeed) ++ reader.tail.dropWhile (· != lineFeed) =
        reader.tail := List.takeWhile_append_dropWhile
    rw [split] at whole
    have found : feed = lineFeed := by
      have stopped := @List.head_dropWhile_not _ (· != lineFeed) reader.tail (by simp [split])
      simpa [split] using stopped
    subst feed
    refine ⟨_, older, whole.symm, ?_, taken.1.symm, taken.2.symm⟩
    intro member
    have passed := List.all_eq_true.mp List.all_takeWhile lineFeed member
    simp at passed

/-- What one call that gives a line does to a reader that holds its data: it gives the last line of
what is left, and either goes on before the line feed in front of it or is finished. -/
inductive Gives (data : List UInt8) (stop : Nat) : List UInt8 → Reader → Prop where
  | line {start : Nat} {last : List UInt8} {later : Reader}
      (split : data.take stop = data.take start ++ lineFeed :: last) (unbroken : lineFeed ∉ last)
      (holds : later.Holds data start) (carry : later.carry = [])
      (unfinished : later.finished = false) :
      Gives data stop (trimReturn last) later
  | first {later : Reader} (unbroken : lineFeed ∉ data.take stop)
      (holds : later.Holds data 0) (carry : later.carry = []) (finished : later.finished = true) :
      Gives data stop (trimReturn (data.take stop)) later

theorem Holds.takeLine? (holds : reader.Holds data stop) (unfinished : reader.finished = false)
    {line : List UInt8} (taken : reader.takeLine? = some (line, later)) :
    Gives data stop line later := by
  obtain ⟨young, older, tail, unbroken, rfl, rfl⟩ := takeLine?_some taken
  have left : data.take stop = (data.take reader.offset ++ older.reverse) ++
      lineFeed :: (young.reverse ++ reader.carry.flatten) := by
    rw [holds.left, Reader.held, tail]
    simp
  have unread : (data.take reader.offset).length = reader.offset := by
    rw [List.length_take]
    exact Nat.min_eq_left (Nat.le_trans holds.offset_le holds.stop_le)
  have lengths := congrArg List.length left
  rw [List.length_take, Nat.min_eq_left holds.stop_le] at lengths
  simp only [List.length_append, List.length_cons, List.length_reverse, unread] at lengths
  have front : data.take (reader.offset + older.length) =
      data.take reader.offset ++ older.reverse := by
    have shorter : reader.offset + older.length ≤ stop := by omega
    rw [← Nat.min_eq_left shorter, ← List.take_take, left, List.take_left' (by simp [unread])]
  have split : data.take stop = data.take (reader.offset + older.length) ++
      lineFeed :: (young.reverse ++ reader.carry.flatten) := by rw [left, front]
  refine .line split ?_ ?_ rfl unfinished
  · intro feed
    rcases List.mem_append.mp feed with piece | carried
    · exact unbroken (List.mem_reverse.mp piece)
    · exact holds.unbroken_carry carried
  · have bound := holds.stop_le
    refine ⟨holds.content, Nat.le_add_right _ _, by omega, ?_, by simp⟩
    dsimp only
    rw [front, List.drop_left' unread]
    simp [Reader.held]

theorem Holds.takeFirst (holds : reader.Holds data stop) (unbroken : lineFeed ∉ reader.tail)
    (read : reader.offset = 0) : Gives data stop reader.takeFirst.1 reader.takeFirst.2 := by
  have left : data.take stop = reader.held := by rw [holds.left, read]; rfl
  have line : reader.takeFirst.1 = trimReturn (data.take stop) := by rw [left]; rfl
  rw [line]
  refine .first ?_ ?_ rfl rfl
  · rw [left]
    exact holds.unbroken_held unbroken
  · refine ⟨holds.content, Nat.le_of_eq read, Nat.zero_le _, ?_, by simp [Reader.takeFirst]⟩
    simp [Reader.takeFirst, Reader.held]

/-! ### One call -/

/-- Whatever the source does, a line that is given is the last one left. -/
theorem Holds.seekLine (holds : reader.Holds data stop) (unfinished : reader.finished = false)
    {line : List UInt8} (given : reader.seekLine = (.ok line, later)) :
    Gives data stop line later := by
  fun_induction Reader.seekLine reader with
  | case1 reader found next taken =>
    simp only [Prod.mk.injEq, Except.ok.injEq] at given
    obtain ⟨rfl, rfl⟩ := given
    exact holds.takeLine? unfinished taken
  | case2 reader none read =>
    simp only [Prod.mk.injEq, Except.ok.injEq] at given
    obtain ⟨rfl, rfl⟩ := given
    exact holds.takeFirst (unbroken_of_takeLine?_none none) read
  | case3 => simp at given
  | case4 reader none unread filled success ih =>
    apply ih (holds.fill (unbroken_of_takeLine?_none none) success) _ given
    rw [(fill_ok success).2.2.2, unfinished]

/-- Without faults every call gives a line, and the source stays without faults. -/
theorem Holds.seekLine_of_faultless (holds : reader.Holds data stop)
    (faultless : reader.source.Faultless) :
    ∃ line later, reader.seekLine = (.ok line, later) ∧ later.source.Faultless := by
  fun_induction Reader.seekLine reader with
  | case1 reader line next taken =>
    obtain ⟨young, older, _, _, _, rfl⟩ := takeLine?_some taken
    exact ⟨line, _, rfl, faultless⟩
  | case2 reader none read => exact ⟨_, _, rfl, faultless⟩
  | case3 reader none unread fault filled failure =>
    obtain ⟨later, success, _⟩ := holds.fill_of_faultless faultless
    simp [success] at failure
  | case4 reader none unread filled success ih =>
    obtain ⟨later, same, kept, _⟩ := holds.fill_of_faultless faultless
    rw [success] at same
    cases same
    exact ih (holds.fill (unbroken_of_takeLine?_none none) success) kept

end ResponseGate.Reader
