import ResponseGate.Proofs.ReverseLines

/-!
Readers over sources that fail. A failure ends the lines: before it come the lines that begin behind
a line feed of the chunks already read, whole and last to first; then the fault, and then nothing.
-/

namespace ResponseGate

namespace Source

/-- So many more chunks can be read, and then the seek or the read for the next one fails. -/
inductive FailsAfter (source : Source) (chunks : Nat) : ReadFault → Prop where
  | read {account : String} (reads : source.readFault = some ⟨chunks, account⟩)
      (seeks : source.seekFault = none) : FailsAfter source chunks (.device account)
  | seek {account : String} (reads : source.readFault = none)
      (seeks : source.seekFault = some ⟨chunks, account⟩) :
      FailsAfter source chunks (.device account)

variable {source : Source} {chunks : Nat} {fault : ReadFault}

theorem FailsAfter.refuses (fails : source.FailsAfter 0 fault) (offset length : Nat) :
    (∃ later, source.seek offset = (.error fault, later)) ∨
      ∃ sought later, source.seek offset = (.ok (), sought) ∧
        sought.readExactly length = (.error fault, later) := by
  cases fails with
  | @read account reads seeks =>
    right
    have spared : Fault.strike source.seekFault = (none, none) := by rw [seeks]; rfl
    have struck : Fault.strike source.readFault = (some account, none) := by rw [reads]; rfl
    obtain ⟨later, failed⟩ :=
      readExactly_of_struck { source with seekFault := none, position := offset } struck
    exact ⟨_, later, seek_of_spared spared, failed⟩
  | @seek account reads seeks =>
    left
    have struck : Fault.strike source.seekFault = (some account, none) := by rw [seeks]; rfl
    exact ⟨_, seek_of_struck struck⟩

/-- Each chunk that is read brings the failure one operation nearer. -/
theorem FailsAfter.allows (fails : source.FailsAfter (chunks + 1) fault) {offset length : Nat}
    (inside : offset + length ≤ source.content.length) :
    ∃ sought found later, source.seek offset = (.ok (), sought) ∧
      sought.readExactly length = (.ok found, later) ∧ later.FailsAfter chunks fault := by
  cases fails with
  | @read account reads seeks =>
    have free : Fault.strike source.seekFault = (none, none) := by rw [seeks]; rfl
    have spared : Fault.strike source.readFault = (none, some ⟨chunks, account⟩) := by
      rw [reads]; rfl
    have found :=
      readExactly_of_spared { source with seekFault := none, position := offset } spared inside
    exact ⟨_, _, _, seek_of_spared free, found, .read rfl rfl⟩
  | @seek account reads seeks =>
    have spared : Fault.strike source.seekFault = (none, some ⟨chunks, account⟩) := by
      rw [seeks]; rfl
    have free : Fault.strike source.readFault = (none, none) := by rw [reads]; rfl
    have found := readExactly_of_spared
      { source with seekFault := some ⟨chunks, account⟩, position := offset } free inside
    exact ⟨_, _, _, seek_of_spared spared, found, .seek rfl rfl⟩

end Source

namespace Reader

variable {data : List UInt8} {stop boundary : Nat} {fault : ReadFault} {reader later : Reader}

/-- Chunks can be read down to the boundary. Unless that is the beginning, reading on from there
fails. -/
def StopsAt (boundary : Nat) (fault : ReadFault) (reader : Reader) : Prop :=
  ∃ chunks, reader.source.FailsAfter chunks fault ∧ reader.offset - chunks * reader.chunk = boundary

theorem StopsAt.boundary_le (stops : reader.StopsAt boundary fault) : boundary ≤ reader.offset := by
  obtain ⟨chunks, _, rfl⟩ := stops
  exact Nat.sub_le _ _

/-! ### One call -/

theorem chunk_of_fill (reader : Reader) : reader.fill.2.chunk = reader.chunk := by
  unfold fill
  dsimp only
  split
  · rfl
  · split <;> rfl

/-- At the boundary a fill fails; before it a fill goes well, and the boundary stays. -/
theorem Holds.fill_of_stopsAt (holds : reader.Holds data stop)
    (stops : reader.StopsAt boundary fault) :
    (reader.offset = boundary ∧ ∃ later, reader.fill = (.error fault, later)) ∨
      ∃ later, reader.fill = (.ok (), later) ∧ later.StopsAt boundary fault := by
  obtain ⟨chunks, fails, rfl⟩ := stops
  cases chunks with
  | zero =>
    left
    refine ⟨by rw [Nat.zero_mul, Nat.sub_zero], ?_⟩
    unfold Reader.fill
    dsimp only
    rcases fails.refuses (reader.offset - min reader.offset reader.chunk)
      (min reader.offset reader.chunk) with ⟨source, failed⟩ | ⟨sought, source, reached, failed⟩
    · rw [failed]
      exact ⟨_, rfl⟩
    · rw [reached]
      dsimp only
      rw [failed]
      exact ⟨_, rfl⟩
  | succ chunks =>
    right
    obtain ⟨sought, found, source, reached, read, nearer⟩ := fails.allows holds.chunk_inside
    have filled : ∃ later, reader.fill = (.ok (), later) ∧ later.source = source := by
      unfold Reader.fill
      dsimp only
      rw [reached]
      dsimp only
      rw [read]
      exact ⟨_, rfl, rfl⟩
    obtain ⟨later, success, rfl⟩ := filled
    have offset := offset_of_fill reader
    have chunk := chunk_of_fill reader
    rw [success] at offset chunk
    refine ⟨later, success, chunks, nearer, ?_⟩
    rw [offset, chunk, Nat.succ_mul]
    omega

/-- A call gives a line, or it meets the failure with no line feed left behind the boundary. -/
theorem Holds.seekLine_of_stopsAt (holds : reader.Holds data stop)
    (stops : reader.StopsAt boundary fault) :
    (∃ line later, reader.seekLine = (.ok line, later) ∧ later.StopsAt boundary fault) ∨
      (∃ later, reader.seekLine = (.error fault, later) ∧ later.finished = true) ∧
        boundary ≠ 0 ∧ boundary ≤ stop ∧ lineFeed ∉ (data.take stop).drop boundary := by
  fun_induction Reader.seekLine reader with
  | case1 reader line next taken =>
    obtain ⟨young, older, _, _, _, rfl⟩ := takeLine?_some taken
    exact .inl ⟨line, _, rfl, stops⟩
  | case2 reader none read => exact .inl ⟨_, _, rfl, stops⟩
  | case3 reader none unread found filled failure =>
    rcases holds.fill_of_stopsAt stops with ⟨reached, later, failed⟩ | ⟨later, success, _⟩
    · rw [failure] at failed
      cases failed
      refine .inr ⟨⟨_, rfl, rfl⟩, reached ▸ unread, reached ▸ holds.offset_le, ?_⟩
      rw [← reached, ← holds.held]
      exact holds.unbroken_held (unbroken_of_takeLine?_none none)
    · rw [failure] at success
      cases success
  | case4 reader none unread filled success ih =>
    rcases holds.fill_of_stopsAt stops with ⟨_, later, failed⟩ | ⟨later, same, kept⟩
    · rw [success] at failed
      cases failed
    · rw [success] at same
      cases same
      exact ih (holds.fill (unbroken_of_takeLine?_none none) success) kept

/-! ### Whole runs -/

theorem results_of_finished (finished : reader.finished = true) : reader.results = [] := by
  rw [results]
  split
  · rfl
  · rename_i given
    rw [next_of_finished finished] at given
    cases given

theorem results_of_unfinished (unfinished : reader.finished = false) :
    reader.results = reader.seekLine.1 :: reader.seekLine.2.results := by
  rw [results]
  split
  · rename_i given
    rw [next_of_unfinished unfinished] at given
    cases given
  · rename_i given
    rw [next_of_unfinished unfinished] at given
    cases given
    rfl

/-- What is given up to a failure, and the failure itself where it is reached. -/
theorem Holds.results_of_stopsAt (holds : reader.Holds data stop)
    (unfinished : reader.finished = false) (stops : reader.StopsAt boundary fault) :
    reader.results = (linesSince (data.take stop) boundary).reverse.map .ok ++
      (if boundary = 0 then [] else [.error fault]) := by
  induction size : reader.remaining using Nat.strong_induction_on generalizing reader stop with
  | _ size ih =>
    rw [results_of_unfinished unfinished]
    rcases holds.seekLine_of_stopsAt stops with
      ⟨line, later, given, kept⟩ | ⟨⟨later, given, ended⟩, positive, inside, unbroken⟩
    · have fewer : later.remaining < reader.remaining :=
        remaining_next_lt (by rw [next_of_unfinished unfinished, given])
      rw [given]
      cases holds.seekLine unfinished given with
      | @line start last _ split unbroken earlier carry ongoing =>
        have behind : boundary ≤ (data.take start).length := by
          rw [List.length_take, Nat.min_eq_left earlier.stop_le]
          exact Nat.le_trans kept.boundary_le earlier.offset_le
        rw [ih later.remaining (size ▸ fewer) earlier ongoing kept rfl, split,
          linesSince_append_feed behind, forwardLines_of_unbroken unbroken]
        simp
      | first unbroken earlier carry finished =>
        have reached : boundary = 0 :=
          Nat.eq_zero_of_le_zero (Nat.le_trans kept.boundary_le earlier.offset_le)
        rw [results_of_finished finished, reached, linesSince_zero,
          forwardLines_of_unbroken unbroken]
        rfl
    · rw [given, results_of_finished ended, linesSince_of_ne_zero positive,
        forwardLines_of_unbroken unbroken, if_neg positive]
      rfl

/-! ### Injected failures -/

/-- A source that tells its end truly and then fails gives the lines the chunks before hold, and the
fault. -/
theorem results_of_failsAfter (source : Source) {left : Option Fault} {chunks : Nat}
    (spared : Fault.strike source.seekFault = (none, left)) (truthful : source.overstated = 0)
    (fails : Source.FailsAfter { source with seekFault := left } chunks fault) (chunk : Nat) :
    let boundary := source.content.length - chunks * max chunk 1
    ∃ reader, Reader.ofSource source chunk = .ok reader ∧
      reader.results = (linesSince source.content boundary).reverse.map .ok ++
        (if boundary = 0 then [] else [.error fault]) := by
  intro boundary
  obtain ⟨reader, opened, holds, unfinished, offset, size, sameReads, sameSeeks⟩ :=
    ofSource_of_spared spared truthful chunk
  have later : reader.source.FailsAfter chunks fault := by
    cases fails with
    | read reads seeks => exact .read (sameReads.trans reads) (sameSeeks.trans seeks)
    | seek reads seeks => exact .seek (sameReads.trans reads) (sameSeeks.trans seeks)
  have stops : reader.StopsAt boundary fault := ⟨chunks, later, by rw [offset, size]⟩
  have results := holds.results_of_stopsAt unfinished stops
  rw [List.take_length] at results
  exact ⟨reader, opened, results⟩

/-- A chunk that reaches beyond the end of the source comes up short. -/
theorem fill_of_outside (reader : Reader) (faultless : reader.source.Faultless)
    (outside : reader.source.content.length < reader.offset) :
    ∃ later, reader.fill = (.error .endedEarly, later) := by
  have asked : 0 < min reader.offset reader.chunk := by
    have positive := reader.chunk_pos
    omega
  unfold fill
  dsimp only
  rw [faultless.seek]
  dsimp only
  have sought : Source.Faultless
      { reader.source with position := reader.offset - min reader.offset reader.chunk } :=
    ⟨faultless.reads, faultless.seeks⟩
  have reach : reader.source.content.length <
      (reader.offset - min reader.offset reader.chunk) + min reader.offset reader.chunk := by omega
  obtain ⟨source, short⟩ := sought.readExactly_short asked reach
  rw [short]
  exact ⟨_, rfl⟩

theorem seekLine_of_fill_error (empty : reader.tail = []) (unread : reader.offset ≠ 0)
    (failed : reader.fill = (.error fault, later)) :
    reader.seekLine = (.error fault, { later with finished := true }) := by
  have none : reader.takeLine? = none := by simp [takeLine?, empty]
  rw [seekLine]
  split
  · rename_i taken
    rw [none] at taken
    cases taken
  · rw [dif_neg unread]
    split
    · rename_i failure
      rw [failed] at failure
      cases failure
      rfl
    · rename_i success
      rw [failed] at success
      cases success

/-- A source that promises more bytes than it has gives no line. -/
theorem results_of_overstated {source : Source} (faultless : source.Faultless)
    (overstated : 0 < source.overstated) (chunk : Nat) :
    ∃ reader, Reader.ofSource source chunk = .ok reader ∧
      reader.results = [.error .endedEarly] := by
  unfold ofSource Source.seekEnd
  dsimp only
  rw [faultless.seek]
  refine ⟨_, rfl, ?_⟩
  have outside : source.content.length < source.bytes.size + source.overstated := by
    have size : source.content.length = source.bytes.size := rfl
    omega
  have sought : Source.Faultless
      { source with position := source.bytes.size + source.overstated } :=
    ⟨faultless.reads, faultless.seeks⟩
  obtain ⟨later, failed⟩ := fill_of_outside ⟨_, max chunk 1, Nat.le_max_right chunk 1,
    source.bytes.size + source.overstated, [], [], false⟩ sought outside
  have unread : source.bytes.size + source.overstated ≠ 0 :=
    Nat.ne_of_gt (Nat.zero_lt_of_lt outside)
  rw [results_of_unfinished rfl, seekLine_of_fill_error rfl unread failed, results_of_finished rfl]

end Reader

/-- A failure of one operation of a source. The seek of the constructor is not counted. -/
inductive Failure where
  | read (before : Nat) (account : String)
  | seek (before : Nat) (account : String)
  /-- The end is reported this many bytes too far ahead. -/
  | overstatement (excess : Nat) (positive : 0 < excess)

namespace Failure

/-- The bytes as a source that fails so. -/
def source (bytes : ByteArray) : Failure → Source
  | read before account => { Source.ofBytes bytes with readFault := some ⟨before, account⟩ }
  | seek before account => { Source.ofBytes bytes with seekFault := some ⟨before + 1, account⟩ }
  | overstatement excess _ => { Source.ofBytes bytes with overstated := excess }

def fault : Failure → ReadFault
  | read _ account => .device account
  | seek _ account => .device account
  | overstatement _ _ => .endedEarly

/-- How far back the chunks reach that are read before the failure. -/
def boundary (length chunk : Nat) : Failure → Nat
  | read before _ => length - before * chunk
  | seek before _ => length - before * chunk
  | overstatement excess _ => length + excess

end Failure

namespace Reader

/-- Everything a reader gives over a source that fails. -/
theorem results_of_failure (bytes : ByteArray) (chunk : Nat) (failure : Failure) :
    let boundary := failure.boundary bytes.data.toList.length (max chunk 1)
    ∃ reader, Reader.ofSource (failure.source bytes) chunk = .ok reader ∧
      reader.results = (linesSince bytes.data.toList boundary).reverse.map .ok ++
        (if boundary = 0 then [] else [.error failure.fault]) := by
  intro boundary
  cases failure with
  | read before account =>
    exact results_of_failsAfter ((Failure.read before account).source bytes) rfl rfl
      (.read rfl rfl) chunk
  | seek before account =>
    exact results_of_failsAfter ((Failure.seek before account).source bytes) rfl rfl
      (.seek rfl rfl) chunk
  | overstatement excess positive =>
    have sound : ((Failure.overstatement excess positive).source bytes).Faultless := ⟨rfl, rfl⟩
    obtain ⟨reader, opened, results⟩ := results_of_overstated sound positive chunk
    have outside : bytes.data.toList.length ≤ boundary := Nat.le_add_right _ _
    have late : boundary ≠ 0 := Nat.ne_of_gt (Nat.add_pos_right _ positive)
    refine ⟨reader, opened, ?_⟩
    rw [results, linesSince_of_length_le outside late, if_neg late]
    rfl

/-- A reader over a source that fails. It gives the lines that begin behind a line feed of the
chunks read before the failure, which are the first ones it would give without it; then, unless
these chunks are all, the fault once; and every call after that gives nothing. -/
theorem calls_under_failure (bytes : ByteArray) (chunk : Nat) (failure : Failure) :
    let data := bytes.data.toList
    let boundary := failure.boundary data.length (max chunk 1)
    let given := (linesSince data boundary).reverse
    ∃ reader, Reader.ofSource (failure.source bytes) chunk = .ok reader ∧
      (∀ calls, (reader.after calls).next.1 =
        (given.map .ok ++ if boundary = 0 then [] else [.error failure.fault])[calls]?) ∧
      given <+: (forwardLines data).reverse ∧
      (boundary = 0 → given = (forwardLines data).reverse) ∧
      (boundary ≠ 0 → given.length = (data.drop boundary).count lineFeed) ∧
      (∀ excess positive, failure = .overstatement excess positive → given = []) := by
  intro data boundary given
  obtain ⟨reader, opened, results⟩ := results_of_failure bytes chunk failure
  refine ⟨reader, opened, ?_, ?_, ?_, ?_, ?_⟩
  · intro calls
    rw [← getElem?_results, results]
  · exact List.reverse_prefix.mpr (linesSince_suffix data boundary)
  · intro all
    exact congrArg (fun offset => (linesSince data offset).reverse) all
  · intro late
    rw [List.length_reverse, length_linesSince late]
  · rintro excess positive rfl
    have late : boundary ≠ 0 := Nat.ne_of_gt (Nat.add_pos_right _ positive)
    have none : linesSince data boundary = [] :=
      linesSince_of_length_le (Nat.le_add_right _ _) late
    exact congrArg List.reverse none

/-- The last line is in the chunk that is read; the one before it begins outside, and the fault
takes its place. -/
theorem line_across_fault_is_withheld :
    let bytes : ByteArray := "a\nb\nc".toUTF8
    ∃ reader, Reader.ofSource ((Failure.read 1 "gone").source bytes) 2 = .ok reader ∧
      (reader.after 0).next.1 = some (.ok [0x63]) ∧
      (reader.after 1).next.1 = some (.error (.device "gone")) ∧
      ∀ calls, (reader.after (calls + 2)).next.1 = none := by
  intro bytes
  obtain ⟨reader, opened, calls, _⟩ := calls_under_failure bytes 2 (.read 1 "gone")
  have boundary : (Failure.read 1 "gone").boundary bytes.data.toList.length (max 2 1) = 3 := by
    decide +kernel
  have given : linesSince bytes.data.toList 3 = [[0x63]] := by decide +kernel
  simp only [boundary, given] at calls
  refine ⟨reader, opened, ?_, ?_, ?_⟩
  · rw [calls]
    rfl
  · rw [calls]
    rfl
  · intro later
    rw [calls]
    rfl

end Reader

end ResponseGate
