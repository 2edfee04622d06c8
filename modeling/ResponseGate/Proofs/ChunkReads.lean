import Mathlib.Algebra.Order.Floor.Div
import Mathlib.Order.Bounds.Basic
import ResponseGate.Proofs.LineFeeds
import ResponseGate.Proofs.ReaderFaults

/-!
Which chunks a reader reads, and when. Chunks are counted from the end. A call reads as many of them
as reach back to the line feed in front of the line it gives, or to the beginning for the first
line, and no more; all calls together read every byte once.
-/

namespace ResponseGate

/-! ### Chunks from the end -/

/-- Offset and length of a chunk, counted from the end. The earliest chunk may be shorter. -/
def chunkRead (length size index : Nat) : Nat × Nat :=
  (length - (index + 1) * size, min size (length - index * size))

/-- How many chunks reach back to an offset. -/
def chunksTo (length size offset : Nat) : Nat := (length - offset) ⌈/⌉ size

section Chunks

variable {length size index offset count : Nat}

theorem chunksTo_le_iff (positive : 0 < size) :
    chunksTo length size offset ≤ count ↔ length - count * size ≤ offset := by
  rw [chunksTo, ceilDiv_le_iff_le_mul positive, Nat.mul_comm]
  omega

theorem chunksTo_self (positive : 0 < size) : chunksTo length size length = 0 := by
  apply Nat.eq_zero_of_le_zero
  rw [chunksTo_le_iff positive]
  exact Nat.sub_le _ _

theorem chunksTo_le_chunksTo (length : Nat) (positive : 0 < size) {earlier : Nat}
    (before : earlier ≤ offset) : chunksTo length size offset ≤ chunksTo length size earlier := by
  rw [chunksTo_le_iff positive]
  exact Nat.le_trans ((chunksTo_le_iff positive).mp (Nat.le_refl _)) before

/-- From a position between two chunks on, the chunks still needed are the fewest that reach. -/
theorem isLeast_chunksTo (positive : 0 < size) {made : Nat}
    (enough : made ≤ chunksTo length size offset) :
    IsLeast {count | length - made * size - count * size ≤ offset}
      (chunksTo length size offset - made) := by
  have reaches (count : Nat) : length - made * size - count * size ≤ offset ↔
      chunksTo length size offset ≤ made + count := by
    rw [chunksTo_le_iff positive, Nat.add_mul, Nat.sub_sub]
  constructor
  · exact (reaches _).mpr (by omega)
  · intro count reached
    have bound := (reaches count).mp reached
    omega

theorem chunkRead_end : (chunkRead length size index).1 + (chunkRead length size index).2 =
    length - index * size := by
  rw [chunkRead, Nat.succ_mul]
  omega

/-- A byte lies in the last of the chunks that reach back to it. -/
theorem covers_iff (positive : 0 < size) :
    ((chunkRead length size index).1 ≤ offset ∧
      offset < (chunkRead length size index).1 + (chunkRead length size index).2) ↔
      chunksTo length size offset = index + 1 := by
  rw [chunkRead_end, ← Nat.not_le, ← chunksTo_le_iff positive]
  change length - (index + 1) * size ≤ offset ∧ _ ↔ _
  rw [← chunksTo_le_iff positive]
  omega

end Chunks

/-- The chunks that reach back to the beginning lie inside the data and hold every byte once. -/
theorem chunks_partition {length size : Nat} (positive : 0 < size) :
    let chunks := (List.range (length ⌈/⌉ size)).map (chunkRead length size)
    (∀ read ∈ chunks, 0 < read.2 ∧ read.1 + read.2 ≤ length) ∧
      ∀ offset < length,
        chunks.countP (fun read => read.1 ≤ offset ∧ offset < read.1 + read.2) = 1 := by
  intro chunks
  have whole : length ⌈/⌉ size = chunksTo length size 0 := rfl
  refine ⟨?_, ?_⟩
  · intro read member
    obtain ⟨index, inside, rfl⟩ := List.mem_map.mp member
    rw [List.mem_range, whole, ← Nat.not_le, chunksTo_le_iff positive] at inside
    rw [chunkRead_end]
    refine ⟨?_, Nat.sub_le _ _⟩
    exact Nat.lt_min.mpr ⟨positive, Nat.pos_of_ne_zero fun none => inside (Nat.le_of_eq none)⟩
  · intro offset inside
    have first : 0 < chunksTo length size offset := by
      rw [← Nat.not_le, chunksTo_le_iff positive]
      omega
    have among : chunksTo length size offset - 1 ∈ List.range (length ⌈/⌉ size) := by
      have bound := chunksTo_le_chunksTo length positive (Nat.zero_le offset)
      rw [List.mem_range, whole]
      omega
    rw [List.countP_map, ← List.count_eq_one_of_mem List.nodup_range among, List.count]
    apply List.countP_congr
    intro index _
    rw [Function.comp_apply, decide_eq_true_iff, covers_iff positive, beq_iff_eq]
    omega

namespace Reader

variable {data : List UInt8} {size first last stop : Nat} {reader later : Reader}

/-! ### The log of a reader -/

/-- The log holds the chunks from number `first` up to number `last`, this one not included, and the
reader has read as far back as these chunks reach. -/
structure HasRead (length size first last : Nat) (reader : Reader) : Prop where
  chunk : reader.chunk = size
  first_le : first ≤ last
  offset : reader.offset = length - last * size
  log : reader.source.reads.reverse =
    (List.range' first (last - first)).map (chunkRead length size)

theorem HasRead.positive {length : Nat} (read : reader.HasRead length size first last) : 0 < size :=
  read.chunk ▸ reader.chunk_pos

/-- A fill reads the next chunk. -/
theorem HasRead.fill (read : reader.HasRead data.length size first last)
    (success : reader.fill = (.ok (), later))
    (logged : later.source.reads =
      (reader.offset - min reader.offset reader.chunk, min reader.offset reader.chunk) ::
        reader.source.reads) :
    later.HasRead data.length size first (last + 1) := by
  have offset := offset_of_fill reader
  have chunk := chunk_of_fill reader
  rw [success] at offset chunk
  refine ⟨chunk.trans read.chunk, Nat.le_succ_of_le read.first_le, ?_, ?_⟩
  · rw [offset, read.offset, read.chunk, Nat.succ_mul]
    omega
  · have next : (reader.offset - min reader.offset reader.chunk, min reader.offset reader.chunk) =
        chunkRead data.length size last := by
      rw [chunkRead, read.offset, read.chunk, Nat.succ_mul, Nat.min_comm]
      congr 1
      omega
    rw [logged, next, List.reverse_cons, read.log, Nat.succ_sub read.first_le, List.range'_concat,
      List.map_append, List.map_singleton, Nat.one_mul, Nat.add_sub_cancel' read.first_le]

/-- A reader that stands at an offset or before it, and has read no more than is needed for that,
has read just what is needed. -/
theorem HasRead.exact {offset : Nat} (read : reader.HasRead data.length size first last)
    (holds : reader.Holds data offset) (needed : last ≤ chunksTo data.length size offset) :
    reader.HasRead data.length size first (chunksTo data.length size offset) := by
  have reached : chunksTo data.length size offset ≤ last := by
    rw [chunksTo_le_iff read.positive, ← read.offset]
    exact holds.offset_le
  rwa [← Nat.le_antisymm needed reached]

/-! ### One call -/

theorem Gives.holds {line : List UInt8} (gives : Gives data stop line later) :
    later.Holds data (endAfter (data.take stop) 1) := by
  cases gives with
  | line split unbroken holds =>
    rw [split, endAfter_append_feed unbroken, endAfter_zero, List.length_take_of_le holds.stop_le]
    exact holds
  | first unbroken holds =>
    rw [endAfter_of_unbroken unbroken]
    exact holds

theorem Gives.line_of_feed {line : List UInt8} {feed : Nat} (gives : Gives data stop line later)
    (found : (lineFeeds (data.take stop)).head? = some feed) :
    line = trimReturn ((data.take stop).drop (feed + 1)) := by
  cases gives with
  | line split unbroken holds =>
    rw [split, lineFeeds_append_feed unbroken, List.head?_cons, Option.some.injEq] at found
    rw [split, List.append_cons, List.drop_left' (by rw [← found, List.length_append]; rfl)]
  | first unbroken =>
    rw [lineFeeds_of_unbroken unbroken] at found
    cases found

theorem Gives.line_of_no_feed {line : List UInt8} (gives : Gives data stop line later)
    (none : lineFeeds (data.take stop) = []) : line = trimReturn (data.take stop) := by
  cases gives with
  | line split unbroken =>
    rw [split, lineFeeds_append_feed unbroken] at none
    cases none
  | first => rfl

/-- A call reads chunks until it comes to the line feed in front of its line, or to the
beginning. -/
theorem HasRead.seekLine (read : reader.HasRead data.length size first last)
    (holds : reader.Holds data stop) (unfinished : reader.finished = false)
    (faultless : reader.source.Faultless)
    (needed : last ≤ chunksTo data.length size (endAfter (data.take stop) 1)) {line : List UInt8}
    (given : reader.seekLine = (.ok line, later)) :
    later.HasRead data.length size first
      (chunksTo data.length size (endAfter (data.take stop) 1)) := by
  have gives := (holds.seekLine unfinished given).holds
  fun_induction Reader.seekLine reader generalizing last with
  | case1 reader found next taken =>
    simp only [Prod.mk.injEq, Except.ok.injEq] at given
    obtain ⟨rfl, rfl⟩ := given
    obtain ⟨young, older, _, _, _, rfl⟩ := takeLine?_some taken
    have same : HasRead data.length size first last { reader with tail := older, carry := [] } :=
      ⟨read.chunk, read.first_le, read.offset, read.log⟩
    exact same.exact gives needed
  | case2 reader none beginning =>
    simp only [Prod.mk.injEq, Except.ok.injEq] at given
    obtain ⟨rfl, rfl⟩ := given
    have same : reader.takeFirst.2.HasRead data.length size first last :=
      ⟨read.chunk, read.first_le, read.offset, read.log⟩
    exact same.exact gives needed
  | case3 => simp at given
  | case4 reader none unread filled success ih =>
    have unbroken := unbroken_of_takeLine?_none none
    obtain ⟨later, same, kept, logged⟩ := holds.fill_of_faultless faultless
    rw [success] at same
    cases same
    -- No line feed stands behind the offset, so the next chunk is needed too.
    have held : lineFeed ∉ (data.take stop).drop reader.offset := by
      rw [← holds.held]
      exact holds.unbroken_held unbroken
    have more : last + 1 ≤ chunksTo data.length size (endAfter (data.take stop) 1) := by
      apply Nat.lt_of_not_le
      rw [chunksTo_le_iff read.positive, ← read.offset, Nat.not_le]
      exact endAfter_one_lt unread held
    exact ih (read.fill success logged) (holds.fill unbroken success)
      ((fill_ok success).2.2.2.trans unfinished) kept more given

/-- Between two calls everything from `stop` on is given, and the chunks read are those that reach
back to it. The log begins with the chunk number `first`. -/
structure Rests (data : List UInt8) (size first stop : Nat) (reader : Reader) : Prop where
  holds : reader.Holds data stop
  faultless : reader.source.Faultless
  read : reader.HasRead data.length size first (chunksTo data.length size stop)

theorem Rests.seekLine (rests : reader.Rests data size first stop)
    (unfinished : reader.finished = false) :
    ∃ line later, reader.seekLine = (.ok line, later) ∧ Gives data stop line later ∧
      later.Rests data size first (endAfter (data.take stop) 1) := by
  obtain ⟨line, later, given, kept⟩ := rests.holds.seekLine_of_faultless rests.faultless
  have gives := rests.holds.seekLine unfinished given
  have earlier : endAfter (data.take stop) 1 ≤ stop :=
    Nat.le_trans (endAfter_le _ 1) (List.length_take_le _ _)
  have needed := chunksTo_le_chunksTo data.length rests.read.positive earlier
  exact ⟨line, later, given, gives, gives.holds, kept,
    rests.read.seekLine rests.holds unfinished rests.faultless needed given⟩

/-! ### Runs of calls -/

/-- So it stays, call after call, until every line is given. -/
theorem Rests.after (rests : reader.Rests data size first stop)
    (unfinished : reader.finished = false) (calls : Nat) :
    (reader.after calls).Rests data size first (endAfter (data.take stop) calls) ∧
      ((reader.after calls).finished = false ↔ calls ≤ (data.take stop).count lineFeed) := by
  induction calls generalizing reader stop with
  | zero =>
    rw [endAfter_zero, List.length_take_of_le rests.holds.stop_le]
    exact ⟨rests, fun _ => Nat.zero_le _, fun _ => unfinished⟩
  | succ calls ih =>
    obtain ⟨line, later, given, gives, kept⟩ := rests.seekLine unfinished
    rw [Reader.after, next_of_unfinished unfinished, given]
    cases gives with
    | @line start last _ split unbroken holds _ ongoing =>
      rw [split, endAfter_append_feed unbroken, endAfter_zero,
        List.length_take_of_le holds.stop_le] at kept
      rw [split, endAfter_append_feed unbroken, List.count_append, List.count_cons_self,
        List.count_eq_zero.mpr unbroken, Nat.zero_add, Nat.add_le_add_iff_right]
      exact ih kept ongoing
    | first unbroken _ _ finished =>
      rw [endAfter_of_unbroken unbroken] at kept ⊢
      rw [after_of_finished finished, List.count_eq_zero.mpr unbroken]
      exact ⟨kept, by simp [finished]⟩

theorem Rests.forgetReads (rests : reader.Rests data size first stop) :
    Rests data size (chunksTo data.length size stop) stop
      { reader with source := reader.source.forgetReads } := by
  obtain ⟨content, offset_le, stop_le, held, carried⟩ := rests.holds
  refine ⟨⟨content, offset_le, stop_le, held, carried⟩,
    ⟨rests.faultless.reads, rests.faultless.seeks⟩,
    ⟨rests.read.chunk, Nat.le_refl _, rests.read.offset, ?_⟩⟩
  rw [Nat.sub_self]
  rfl

theorem nextWithReads_of_finished (finished : reader.finished = true) :
    reader.nextWithReads = (none, [], { reader with source := reader.source.forgetReads }) := by
  have ended : Reader.finished { reader with source := reader.source.forgetReads } = true :=
    finished
  rw [Reader.nextWithReads, next_of_finished ended]
  rfl

/-- One call in a run: the line it gives, and the chunks it reads. -/
theorem Rests.nextWithReads (rests : reader.Rests data size first stop)
    (unfinished : reader.finished = false) :
    let upTo := chunksTo data.length size
    ∃ line later, reader.nextWithReads.1 = some (.ok line) ∧ Gives data stop line later ∧
      reader.nextWithReads.2.1 =
        (List.range' (upTo stop) (upTo (endAfter (data.take stop) 1) - upTo stop)).map
          (chunkRead data.length size) := by
  intro upTo
  have ongoing : Reader.finished { reader with source := reader.source.forgetReads } = false :=
    unfinished
  obtain ⟨line, later, given, gives, kept⟩ := rests.forgetReads.seekLine ongoing
  rw [Reader.nextWithReads, next_of_unfinished ongoing, given]
  exact ⟨line, later, rfl, gives, kept.read.log⟩

/-! ### All calls on a reader over bytes -/

theorem Rests.ofBytes (bytes : ByteArray) (chunk : Nat) :
    ∃ reader, Reader.ofSource (Source.ofBytes bytes) chunk = .ok reader ∧
      reader.finished = false ∧
      reader.Rests bytes.data.toList (max chunk 1) 0 bytes.data.toList.length := by
  refine ⟨_, rfl, rfl, .atEnd rfl rfl rfl rfl, ⟨rfl, rfl⟩, ?_⟩
  rw [chunksTo_self (Nat.le_max_right chunk 1)]
  exact ⟨rfl, Nat.le_refl 0, by rw [Nat.zero_mul]; rfl, rfl⟩

theorem Rests.log (rests : reader.Rests data size 0 stop) :
    reader.source.reads.reverse =
      (List.range (chunksTo data.length size stop)).map (chunkRead data.length size) := by
  rw [rests.read.log, Nat.sub_zero, List.range_eq_range']

theorem Rests.after_whole (rests : reader.Rests data size 0 data.length)
    (unfinished : reader.finished = false) (calls : Nat) :
    (reader.after calls).Rests data size 0 (endAfter data calls) ∧
      ((reader.after calls).finished = false ↔ calls ≤ data.count lineFeed) := by
  have state := rests.after unfinished calls
  rwa [List.take_length] at state

theorem Rests.nothing_later (rests : reader.Rests data size 0 data.length)
    (unfinished : reader.finished = false) {call : Nat} (late : data.count lineFeed < call) :
    (reader.after call).nextWithReads.1 = none ∧ (reader.after call).nextWithReads.2.1 = [] ∧
      (reader.after call).offset = 0 := by
  obtain ⟨state, ongoing⟩ := rests.after_whole unfinished call
  have finished : (reader.after call).finished = true := by
    by_contra left
    exact Nat.not_le_of_lt late (ongoing.mp (by simpa using left))
  have offset := state.holds.offset_le
  rw [endAfter_of_count_lt late] at offset
  rw [nextWithReads_of_finished finished]
  exact ⟨rfl, rfl, Nat.eq_zero_of_le_zero offset⟩

/-- The reads of any call, also of one that comes after the first line. -/
theorem Rests.reads_of_call (rests : reader.Rests data size 0 data.length)
    (unfinished : reader.finished = false) (call : Nat) :
    let upTo (calls : Nat) := chunksTo data.length size (endAfter data calls)
    (reader.after call).nextWithReads.2.1 =
      (List.range' (upTo call) (upTo (call + 1) - upTo call)).map (chunkRead data.length size) := by
  intro upTo
  obtain ⟨state, ongoing⟩ := rests.after_whole unfinished call
  by_cases left : call ≤ data.count lineFeed
  · obtain ⟨line, later, _, _, reads⟩ := state.nextWithReads (ongoing.mpr left)
    rw [reads, endAfter_take]
  · have late : data.count lineFeed < call := Nat.lt_of_not_le left
    have same : upTo (call + 1) = upTo call := by
      simp only [upTo, endAfter_of_count_lt late, endAfter_of_count_lt (Nat.lt_succ_of_lt late)]
    rw [(rests.nothing_later unfinished late).2.1, same, Nat.sub_self]
    rfl

/-- A call reads the fewest chunks that bring the reader to where its line begins. -/
theorem Rests.isLeast_reads_of_call (rests : reader.Rests data size 0 data.length)
    (unfinished : reader.finished = false) (call : Nat) :
    IsLeast {count | (reader.after call).offset - count * size ≤ endAfter data (call + 1)}
      (reader.after call).nextWithReads.2.1.length := by
  have needed := chunksTo_le_chunksTo data.length rests.read.positive
    (endAfter_succ_le data call)
  rw [rests.reads_of_call unfinished call, List.length_map, List.length_range',
    (rests.after_whole unfinished call).1.read.offset]
  exact isLeast_chunksTo rests.read.positive needed

/-- The calls together read one chunk after the other. -/
theorem Rests.reads_of_calls (rests : reader.Rests data size 0 data.length)
    (unfinished : reader.finished = false) (calls : Nat) :
    (List.range calls).flatMap (fun call => (reader.after call).nextWithReads.2.1) =
      (List.range (chunksTo data.length size (endAfter data calls))).map
        (chunkRead data.length size) := by
  induction calls with
  | zero =>
    rw [endAfter_zero, chunksTo_self rests.read.positive]
    rfl
  | succ calls ih =>
    have further := chunksTo_le_chunksTo data.length rests.read.positive
      (endAfter_succ_le data calls)
    have joined := @List.range'_append_1 0 (chunksTo data.length size (endAfter data calls))
      (chunksTo data.length size (endAfter data (calls + 1)) -
        chunksTo data.length size (endAfter data calls))
    rw [Nat.zero_add, Nat.add_sub_cancel' further, ← List.range_eq_range',
      ← List.range_eq_range'] at joined
    rw [List.range_succ, List.flatMap_append, ih, List.flatMap_singleton,
      rests.reads_of_call unfinished, ← List.map_append, joined]

/-- The line that begins behind a line feed is the bytes from there on. -/
theorem Rests.line_behind_feed (rests : reader.Rests data size 0 data.length)
    (unfinished : reader.finished = false) {call feed : Nat}
    (found : (lineFeeds data)[call]? = some feed) :
    (reader.after call).nextWithReads.1 =
      some (.ok (trimReturn ((data.take (endAfter data call)).drop (feed + 1)))) := by
  obtain ⟨state, ongoing⟩ := rests.after_whole unfinished call
  have next : (lineFeeds (data.take (endAfter data call))).head? = some feed := by
    rw [lineFeeds_take, List.head?_drop, found]
  have left : call ≤ data.count lineFeed := by
    obtain ⟨inside, _⟩ := List.getElem?_eq_some_iff.mp found
    rw [length_lineFeeds] at inside
    exact Nat.le_of_lt inside
  obtain ⟨line, later, given, gives, _⟩ := state.nextWithReads (ongoing.mpr left)
  rw [given, gives.line_of_feed next]

theorem Rests.first_line (rests : reader.Rests data size 0 data.length)
    (unfinished : reader.finished = false) :
    (reader.after (data.count lineFeed)).nextWithReads.1 =
      some (.ok (trimReturn (data.take (endAfter data (data.count lineFeed))))) := by
  obtain ⟨state, ongoing⟩ := rests.after_whole unfinished (data.count lineFeed)
  have last : lineFeeds (data.take (endAfter data (data.count lineFeed))) = [] := by
    rw [lineFeeds_take, List.drop_of_length_le (Nat.le_of_eq (length_lineFeeds data))]
  obtain ⟨line, later, given, gives, _⟩ := state.nextWithReads (ongoing.mpr (Nat.le_refl _))
  rw [given, gives.line_of_no_feed last]

/-- For all bytes and every chunk size: the calls on a reader read one chunk after the other, the
last one first and each as it is needed. A call that gives the line behind a line feed reads the
fewest chunks that reach back to it, the call that gives the first line those that reach back to the
beginning, and later calls none. All calls together read every byte once. -/
theorem reads_are_lazy_and_exact (bytes : ByteArray) (chunk : Nat) :
    let data := bytes.data.toList
    let size := max chunk 1
    let feeds := data.count lineFeed
    ∃ reader, Reader.ofSource (Source.ofBytes bytes) chunk = .ok reader ∧
      let made (call : Nat) := (reader.after call).nextWithReads.2.1
      (∀ calls,
        let log := (reader.after calls).source.reads.reverse
        log = (List.range calls).flatMap made ∧
        log = (List.range log.length).map (chunkRead data.length size) ∧
        (reader.after calls).offset = data.length - log.length * size) ∧
      (∀ call feed, (lineFeeds data)[call]? = some feed →
        (reader.after call).nextWithReads.1 =
          some (.ok (trimReturn ((data.take (endAfter data call)).drop (feed + 1)))) ∧
        IsLeast {count | (reader.after call).offset - count * size ≤ feed} (made call).length) ∧
      (reader.after feeds).nextWithReads.1 =
        some (.ok (trimReturn (data.take (endAfter data feeds)))) ∧
      IsLeast {count | (reader.after feeds).offset - count * size ≤ 0} (made feeds).length ∧
      (∀ call, feeds < call →
        (reader.after call).nextWithReads.1 = none ∧ made call = [] ∧
          (reader.after call).offset = 0) ∧
      let drained := (List.range (feeds + 1)).flatMap made
      drained.length = data.length ⌈/⌉ size ∧
      (∀ read ∈ drained, 0 < read.2 ∧ read.1 + read.2 ≤ data.length) ∧
      ∀ offset < data.length,
        drained.countP (fun read => read.1 ≤ offset ∧ offset < read.1 + read.2) = 1 := by
  intro data size feeds
  obtain ⟨reader, opened, unfinished, rests⟩ := Rests.ofBytes bytes chunk
  refine ⟨reader, opened, ?_⟩
  intro made
  have positive : 0 < size := rests.read.positive
  refine ⟨?_, ?_, rests.first_line unfinished, ?_, ?_, ?_⟩
  · intro calls log
    have state := (rests.after_whole unfinished calls).1
    have length : log.length = chunksTo data.length size (endAfter data calls) := by
      have counted := congrArg List.length state.log
      rwa [List.length_map, List.length_range] at counted
    rw [length]
    exact ⟨state.log.trans (rests.reads_of_calls unfinished calls).symm, state.log,
      state.read.offset⟩
  · intro call feed found
    have stops : endAfter data (call + 1) = feed := by
      rw [endAfter_succ, found]
      rfl
    exact ⟨rests.line_behind_feed unfinished found,
      stops ▸ rests.isLeast_reads_of_call unfinished call⟩
  · have beginning := rests.isLeast_reads_of_call unfinished feeds
    rwa [endAfter_of_count_lt (Nat.lt_succ_self feeds)] at beginning
  · intro call late
    exact rests.nothing_later unfinished late
  · intro drained
    have whole : drained =
        (List.range (data.length ⌈/⌉ size)).map (chunkRead data.length size) := by
      have all := rests.reads_of_calls unfinished (feeds + 1)
      rwa [endAfter_of_count_lt (Nat.lt_succ_self feeds)] at all
    rw [whole]
    exact ⟨by rw [List.length_map, List.length_range], chunks_partition positive⟩

/-- Two line feeds in a row on the two sides of a chunk border. -/
theorem border_between_feeds_is_read_when_needed :
    let bytes : ByteArray := "ab\n\nc".toUTF8
    ∃ reader, Reader.ofSource (Source.ofBytes bytes) 2 = .ok reader ∧
      (lineFeeds bytes.data.toList)[1]? = some 2 ∧
      (reader.after 1).nextWithReads.1 = some (.ok []) ∧
      (List.range 3).flatMap (fun call => (reader.after call).nextWithReads.2.1) =
        [(3, 2), (1, 2), (0, 1)] ∧
      (reader.after 3).nextWithReads.2.1 = [] := by
  intro bytes
  obtain ⟨reader, opened, order, behind, _, _, ended, total, _⟩ := reads_are_lazy_and_exact bytes 2
  have feeds : bytes.data.toList.count lineFeed = 2 := by decide +kernel
  have feed : (lineFeeds bytes.data.toList)[1]? = some 2 := by decide +kernel
  have chunks : bytes.data.toList.length ⌈/⌉ max 2 1 = 3 := by decide +kernel
  refine ⟨reader, opened, feed, ?_, ?_, ?_⟩
  · rw [(behind 1 2 feed).1]
    decide +kernel
  · obtain ⟨log, reads, _⟩ := order 3
    rw [feeds, chunks] at total
    rw [log, total] at reads
    exact reads
  · exact (ended 3 (by rw [feeds]; decide)).2.1

end Reader

end ResponseGate
