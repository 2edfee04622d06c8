import ResponseGate.Input

/-!
Sources of bytes that are read by position. A source keeps a log of the reads made on it and can be
told to fail: at one read, at one seek, or by promising more bytes than it has.
-/

namespace ResponseGate

/-- An operation that is to fail: how many of its kind go well before it, and the account it
gives. -/
structure Fault where
  after : Nat
  account : String
  deriving DecidableEq, Repr

/-- Counts one operation: whether it fails now, and what is left to fail later. -/
def Fault.strike : Option Fault → Option String × Option Fault
  | none => (none, none)
  | some ⟨0, account⟩ => (some account, none)
  | some ⟨after + 1, account⟩ => (none, some ⟨after, account⟩)

structure Source where
  bytes : ByteArray
  /-- How many bytes more than there are a seek to the end reports. -/
  overstated : Nat := 0
  readFault : Option Fault := none
  seekFault : Option Fault := none
  position : Nat := 0
  /-- Offset and length asked for of every read, latest first. -/
  reads : List (Nat × Nat) := []

namespace Source

def ofBytes (bytes : ByteArray) : Source := { bytes }

/-- Moves to an offset, which may lie beyond the end. -/
def seek (source : Source) (offset : Nat) : Except ReadFault Unit × Source :=
  match Fault.strike source.seekFault with
  | (some account, later) => (.error (.device account), { source with seekFault := later })
  | (none, later) => (.ok (), { source with seekFault := later, position := offset })

/-- Moves to the end and tells its offset. -/
def seekEnd (source : Source) : Except ReadFault Nat × Source :=
  let offset := source.bytes.size + source.overstated
  let (result, source) := source.seek offset
  (result.map fun _ => offset, source)

/-- Reads up to `length` bytes from the current position: as many as there are. -/
def read (source : Source) (length : Nat) : Except ReadFault (List UInt8) × Source :=
  let source := { source with reads := (source.position, length) :: source.reads }
  match Fault.strike source.readFault with
  | (some account, later) => (.error (.device account), { source with readFault := later })
  | (none, later) =>
    let found := source.bytes.extract source.position (source.position + length)
    (.ok found.data.toList, { source with readFault := later, position :=
      source.position + found.size })

/-- Reads exactly `length` bytes. A read that comes up short is followed by one for the rest, which
finds the end of the source. -/
def readExactly (source : Source) (length : Nat) : Except ReadFault (List UInt8) × Source :=
  match source.read length with
  | (.error fault, source) => (.error fault, source)
  | (.ok found, source) =>
    if found.length = length then (.ok found, source)
    else if found.isEmpty then (.error .endedEarly, source)
    else
      match source.read (length - found.length) with
      | (.error fault, source) => (.error fault, source)
      | (.ok _, source) => (.error .endedEarly, source)

/-- The same source with an empty log. -/
def forgetReads (source : Source) : Source := { source with reads := [] }

/-- What a successful exact read gives has the length asked for. -/
theorem length_of_readExactly {source later : Source} {length : Nat} {found : List UInt8}
    (success : source.readExactly length = (.ok found, later)) : found.length = length := by
  unfold readExactly at success
  split at success
  · simp at success
  · split at success
    · rename_i full
      simp only [Prod.mk.injEq, Except.ok.injEq] at success
      rw [← success.1, full]
    · split at success
      · simp at success
      · split at success <;> simp at success

end Source

end ResponseGate
