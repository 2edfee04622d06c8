import ResponseGate.Transcript.Source

/-!
What seeks and exact reads give, seen through the content of the source as a list. A read that
succeeds gives the bytes at the position, also on a source that may fail; an operation that no fault
strikes succeeds wherever there are bytes enough.
-/

namespace ResponseGate.Source

/-- The bytes of a source, first to last. -/
def content (source : Source) : List UInt8 := source.bytes.data.toList

/-- No operation on the source is told to fail. Its end may still be overstated. -/
structure Faultless (source : Source) : Prop where
  reads : source.readFault = none
  seeks : source.seekFault = none

private theorem extract_toList (bytes : ByteArray) (start length : Nat) :
    (bytes.extract start (start + length)).data.toList =
      (bytes.data.toList.drop start).take length := by
  simp [ByteArray.data_extract, List.extract_eq_take_drop]

theorem content_of_seek {source later : Source} {offset : Nat}
    (success : source.seek offset = (.ok (), later)) :
    later.content = source.content ∧ later.position = offset := by
  unfold seek at success
  split at success
  · simp at success
  · simp only [Prod.mk.injEq, true_and] at success
    subst later
    exact ⟨rfl, rfl⟩

theorem content_of_read {source later : Source} {length : Nat} {found : List UInt8}
    (success : source.read length = (.ok found, later)) :
    later.content = source.content ∧ found = (source.content.drop source.position).take length := by
  unfold read at success
  dsimp only at success
  split at success
  · simp at success
  · simp only [Prod.mk.injEq, Except.ok.injEq] at success
    obtain ⟨same, rfl⟩ := success
    exact ⟨rfl, by rw [← same, extract_toList]; rfl⟩

/-- An exact read that succeeds was one whole read. -/
theorem content_of_readExactly {source later : Source} {length : Nat} {found : List UInt8}
    (success : source.readExactly length = (.ok found, later)) :
    later.content = source.content ∧ found = (source.content.drop source.position).take length := by
  unfold readExactly at success
  split at success
  · simp at success
  · rename_i first after once
    split at success
    · simp only [Prod.mk.injEq, Except.ok.injEq] at success
      obtain ⟨rfl, rfl⟩ := success
      exact content_of_read once
    · split at success
      · simp at success
      · split at success <;> simp at success

/-! ### What a fault leaves through -/

variable {source : Source} {offset length : Nat} {left : Option Fault}

theorem seek_of_spared (spared : Fault.strike source.seekFault = (none, left)) :
    source.seek offset = (.ok (), { source with seekFault := left, position := offset }) := by
  rw [seek, spared]

theorem seek_of_struck {account : String}
    (struck : Fault.strike source.seekFault = (some account, left)) :
    source.seek offset = (.error (.device account), { source with seekFault := left }) := by
  rw [seek, struck]

theorem read_of_spared (spared : Fault.strike source.readFault = (none, left)) :
    source.read length = (.ok ((source.content.drop source.position).take length),
      { source with
        readFault := left
        position := source.position + ((source.content.drop source.position).take length).length
        reads := (source.position, length) :: source.reads }) := by
  simp only [read, spared, content, ← extract_toList]
  rfl

theorem readExactly_of_spared (source : Source)
    (spared : Fault.strike source.readFault = (none, left))
    (inside : source.position + length ≤ source.content.length) :
    source.readExactly length = (.ok ((source.content.drop source.position).take length),
      { source with
        readFault := left
        position := source.position + length
        reads := (source.position, length) :: source.reads }) := by
  have full : ((source.content.drop source.position).take length).length = length := by
    rw [List.length_take, List.length_drop]
    omega
  unfold readExactly
  rw [read_of_spared spared]
  dsimp only
  rw [if_pos full, full]

theorem readExactly_of_struck (source : Source) {account : String}
    (struck : Fault.strike source.readFault = (some account, left)) :
    ∃ later, source.readExactly length = (.error (.device account), later) := by
  unfold readExactly read
  dsimp only
  rw [struck]
  exact ⟨_, rfl⟩

/-! ### Without faults -/

namespace Faultless

theorem seek (faultless : source.Faultless) (offset : Nat) :
    source.seek offset = (.ok (), { source with position := offset }) := by
  have spared : Fault.strike source.seekFault = (none, source.seekFault) := by
    rw [faultless.seeks]
    rfl
  rw [seek_of_spared spared]

theorem read (faultless : source.Faultless) (length : Nat) :
    source.read length = (.ok ((source.content.drop source.position).take length),
      { source with
        position := source.position + ((source.content.drop source.position).take length).length
        reads := (source.position, length) :: source.reads }) := by
  have spared : Fault.strike source.readFault = (none, source.readFault) := by
    rw [faultless.reads]
    rfl
  rw [read_of_spared spared]

/-- Bytes that are there are read at once, with one entry in the log. -/
theorem readExactly (faultless : source.Faultless) {length : Nat}
    (inside : source.position + length ≤ source.content.length) :
    source.readExactly length = (.ok ((source.content.drop source.position).take length),
      { source with
        position := source.position + length
        reads := (source.position, length) :: source.reads }) := by
  have spared : Fault.strike source.readFault = (none, source.readFault) := by
    rw [faultless.reads]
    rfl
  rw [readExactly_of_spared source spared inside]

/-- Past the end no read is exact. -/
theorem readExactly_short (faultless : source.Faultless) {length : Nat} (asked : 0 < length)
    (outside : source.content.length < source.position + length) :
    ∃ later, source.readExactly length = (.error .endedEarly, later) := by
  have short : ((source.content.drop source.position).take length).length ≠ length := by
    rw [List.length_take, List.length_drop]
    omega
  unfold Source.readExactly
  rw [faultless.read length]
  dsimp only
  rw [if_neg short]
  split
  · exact ⟨_, rfl⟩
  · have after : Source.Faultless
        { source with
          position := source.position + ((source.content.drop source.position).take length).length
          reads := (source.position, length) :: source.reads } := ⟨faultless.reads, faultless.seeks⟩
    rw [after.read]
    exact ⟨_, rfl⟩

end Faultless

end ResponseGate.Source
