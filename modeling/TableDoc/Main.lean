import TableDoc.CommandLine.Run

/-!
# The command

Runs the command on the real system.
-/

namespace TableDoc.CommandLine

/-- The fault that an error of the system stands for. -/
def faultOf : IO.Error → FileFault
  | .noFileOrDirectory _ _ _ => .notFound
  | .alreadyExists _ n words | .invalidArgument _ n words | .permissionDenied _ n words
  | .resourceExhausted _ n words | .inappropriateType _ n words | .noSuchThing _ n words
  | .interrupted _ n words => ⟨n.toNat, words⟩
  | .otherError n words | .resourceBusy n words | .resourceVanished n words
  | .unsupportedOperation n words | .hardwareFault n words | .unsatisfiedConstraints n words
  | .illegalOperation n words | .protocolError n words | .timeExpired n words =>
    ⟨n.toNat, words⟩
  | .unexpectedEof => ⟨5, "Input/output error"⟩
  | .userError words => ⟨5, words⟩

/-- The value of an action, or the fault that it ended with. -/
def faulty {α : Type} (action : IO α) : IO (Except FileFault α) := do
  match ← action.toBaseIO with
  | .ok a => return .ok a
  | .error e => return .error (faultOf e)

/-- All bytes that a stream still gives. -/
partial def bytesOf (stream : IO.FS.Stream) (taken : ByteArray) : IO ByteArray := do
  let more ← stream.read 65536
  if more.isEmpty then return taken else bytesOf stream (taken ++ more)

/-- The real system. -/
def system : Host IO where
  standardInput := do
    return (← bytesOf (← IO.getStdin) .empty).toList.map UInt8.toNat
  readFile p := do
    return (← faulty (IO.FS.readBinFile p.toText)).map fun b => b.toList.map UInt8.toNat
  writeFile p text := faulty (IO.FS.writeFile p.toText text)

/-- The line that tells an event. -/
def eventLine (e : Event) : String := e.teller ++ " " ++ e.level.word ++ " " ++ e.message

end TableDoc.CommandLine

open TableDoc in
/-- Runs the command with the arguments of the process. -/
def main (argv : List String) : IO UInt32 := do
  let env : Environment :=
    ⟨← IO.getEnv Environment.dialectVariable, ← IO.getEnv Environment.verboseVariable⟩
  let report ← CommandLine.run CommandLine.system env argv
  IO.print report.output
  IO.eprint report.complaint
  for e in report.events do
    IO.eprintln (CommandLine.eventLine e)
  return report.status.toUInt32
