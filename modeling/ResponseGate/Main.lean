import ResponseGate.Gate

/-!
The command line: a payload on standard input, an exit status, and the error channel.
-/

namespace ResponseGate.Main

/-- The environment variable that sets the verbosity. -/
def logVariable : String := "CONSTITUTION_ENFORCER_LOG"

/-- What the system calls an error, by its number, where that is known. -/
def errorName? : Nat → Option String
  | 1 => some "Operation not permitted"
  | 2 => some "No such file or directory"
  | 5 => some "Input/output error"
  | 13 => some "Permission denied"
  | 20 => some "Not a directory"
  | 21 => some "Is a directory"
  | 24 => some "Too many open files"
  | 36 => some "File name too long"
  | 40 => some "Too many levels of symbolic links"
  | _ => none

/-- The system's account of an error: its name and its number, which may come with a minus sign. -/
def account : IO.Error → String
  | .permissionDenied _ code details | .inappropriateType _ code details
  | .invalidArgument _ code details | .resourceExhausted _ code details
  | .noSuchThing _ code details | .alreadyExists _ code details
  | .otherError code details | .resourceBusy code details | .hardwareFault code details =>
    let number := code.toInt32.toInt.natAbs
    (errorName? number).getD details ++ " (os error " ++ toString number ++ ")"
  | error => toString error

/-- Reads a stream to its end, or to its failure. -/
partial def readAll (input : IO.FS.Stream) (bytes : ByteArray) : IO Stream := do
  match ← (input.read 65536).toBaseIO with
  | .error error => return ⟨bytes, some (account error)⟩
  | .ok piece => if piece.isEmpty then return ⟨bytes, none⟩ else readAll input (bytes ++ piece)

def openFault : IO.Error → OpenFault
  | .noFileOrDirectory _ _ _ => .notFound
  | error => .refused (account error)

def contents (path : String) : IO FileState := do
  match ← (IO.FS.readBinFile path).toBaseIO with
  | .ok bytes => return .ok bytes
  | .error error => return .error (openFault error)

def verbosity : IO Verbosity := do
  return ((← IO.getEnv logVariable).bind Verbosity.ofName?).getD none

end ResponseGate.Main

open ResponseGate in
def main : IO UInt32 := do
  let verbosity ← Main.verbosity
  let stream ← Main.readAll (← IO.getStdin) .empty
  let outcome ← Gate.runWith Main.contents stream
  let reaction := outcome.reaction verbosity
  IO.print reaction.output
  IO.eprint reaction.errors
  return reaction.exitCode.toUInt32
