/-!
What is read: streams that arrive, files that are opened by their paths, and the ways in which
either can fail. Between stops a host changes the files.
-/

namespace ResponseGate

/-- Failures to read bytes. -/
inductive ReadFault where
  /-- The device's own account of a failure. -/
  | device (account : String)
  | notUtf8
  /-- The source ended before the bytes it had promised. -/
  | endedEarly
  deriving DecidableEq, Repr

def ReadFault.message : ReadFault → String
  | device account => account
  | notUtf8 => "stream did not contain valid UTF-8"
  | endedEarly => "failed to fill whole buffer"

/-- Bytes that arrive, and the device's account of the failure if they do not end by themselves. -/
structure Stream where
  bytes : ByteArray
  failure : Option String := none

/-! ### Files -/

/-- Why a path leads to no file that can be read. -/
inductive OpenFault where
  | notFound
  /-- No file has a name with a NUL character in it. -/
  | nulInName
  /-- The system's own account of why it does not open the file. -/
  | refused (account : String)
  /-- The file is open, but its end cannot be found. -/
  | unseekable (fault : ReadFault)
  deriving DecidableEq, Repr

def OpenFault.message : OpenFault → String
  | notFound => "No such file or directory (os error 2)"
  | nulInName => "file name contained an unexpected NUL byte"
  | refused account => account
  | unseekable fault => fault.message

/-- The content of a file, or why it cannot be opened. -/
abbrev FileState := Except OpenFault ByteArray

namespace FileState

def bytes (file : FileState) : ByteArray := file.toOption.getD .empty

/-- Adds bytes at the end, creating the file if need be. -/
def append (file : FileState) (added : ByteArray) : FileState := .ok (file.bytes ++ added)

/-- Sets the length: cuts the end off, or fills up with zero bytes. -/
def resize (file : FileState) (size : Nat) : FileState :=
  let kept := file.bytes.extract 0 size
  .ok (kept ++ ⟨Array.replicate (size - kept.size) 0⟩)

def remove (_ : FileState) : FileState := .error .notFound

end FileState

end ResponseGate
