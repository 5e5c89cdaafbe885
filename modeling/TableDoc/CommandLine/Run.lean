import TableDoc.CommandLine.Arguments
import TableDoc.CommandLine.Host
import TableDoc.Script
import TableDoc.Settings
import TableDoc.Text.Utf8

/-!
# Runs of the command

A run reads its arguments, settles its settings, reads the input, converts it and delivers the
document, and each of these may end it. The document goes to one place only, and only when all of
it is known; a run that ends early has written nothing.
-/

namespace TableDoc.CommandLine

/-- What a run leaves behind besides the file that it may have written. -/
structure Report where
  /-- The exit status. -/
  status : Nat
  /-- What goes to the standard output. -/
  output : String := ""
  /-- What goes to the standard error, besides events. -/
  complaint : String := ""
  /-- The events that are told. -/
  events : List Event := []
deriving DecidableEq, Repr, Inhabited

/-! ## Settings -/

/-- The values that options give. -/
def Choices.values (c : Choices) : List (String × Json) :=
  let path (p : Option String) : Json := Json.ofText? (p.filter (!·.isEmpty))
  [("input_path", path c.input), ("output_path", path c.output),
   ("dialect", Json.ofText? c.dialect), ("verbose", if c.verbose then .bool true else .null)]

/-- The number of bytes of a displayed value that a complaint shows in full. -/
def displayLimit : Nat := 50

/-- The longest run of first characters within so many bytes. -/
def firstBytes : Nat → List Char → List Char
  | _, [] => []
  | limit, c :: rest =>
    if c.utf8Size ≤ limit then c :: firstBytes (limit - c.utf8Size) rest else []

/-- A displayed value, its middle left out where it is long. -/
def shortened (s : String) : String :=
  if s.utf8ByteSize ≤ displayLimit then s
  else
    let half := (displayLimit + 1) / 2
    let cs := s.toList
    String.ofList (firstBytes half cs) ++ "..." ++
      String.ofList (firstBytes (half - 1) cs.reverse).reverse

/-- The value that failed, as a complaint shows it. -/
def givenValue? : Cause → Option String
  | .unknownDialect given _ => some given
  | _ => none

/-- The name of a step on the way to a failure. -/
def stepName : Step → String
  | .field name => name
  | .item index => toString index

/-- The lines of a complaint about one failure. -/
def failureText (f : Failure) : String :=
  let value := match givenValue? f.cause with
    | some s => ", input_value=" ++ shortened (Text.display s) ++ ", input_type=str"
    | none => ""
  String.intercalate "." (f.place.map stepName) ++ "\n  " ++ f.cause.message ++ " [type=" ++
    f.cause.word ++ value ++ "]\n"

/-- The complaint about settings that can not be used. -/
def settingsComplaint (fs : List Failure) : String :=
  "Invalid configuration: " ++ toString fs.length ++
    (if fs.length == 1 then " validation error" else " validation errors") ++
    " for ConverterConfig\n" ++ String.join (fs.map failureText)

/-! ## Steps -/

/-- The bytes of the input. -/
def inputBytes {m : Type → Type} [Monad m] (h : Host m) (s : Settings) :
    m (Except String (List Nat)) := do
  match s.inputPath with
  | none => return .ok (← h.standardInput)
  | some path => return (← h.readFile (.ofText path)).mapError (·.message path)

/-- The text of the input. -/
def inputText {m : Type → Type} [Monad m] (h : Host m) (s : Settings) :
    m (Except String String) := do
  match ← inputBytes h s with
  | .error reason => return .error reason
  | .ok bytes => return (Text.ofUtf8 bytes).mapError Text.Utf8Fault.message

/-- Delivers a document to its one place; `none` is the standard output. -/
def deliver {m : Type → Type} [Monad m] (h : Host m) (s : Settings) (document : String) :
    m (Except String String) := do
  match s.outputPath with
  | none => return .ok document
  | some path =>
    match ← h.writeFile (.ofText path) document with
    | .error f => return .error (f.message path)
    | .ok () => return .ok ""

/-- Converts the input and delivers the document. The events are all that happened. -/
def convert {m : Type → Type} [Monad m] (h : Host m) (s : Settings) : m Report := do
  match ← inputText h s with
  | .error reason => return { status := 1, events := [.unreadableInput reason] }
  | .ok sql =>
    let events := Script.eventsIn s.dialect sql
    match Script.documentIn s.dialect sql with
    | .error (.unknownDialect name) =>
      -- the settings of a run have a name that is known
      return { status := 1, complaint := Dialect.unknownMessage name ++ "\n" }
    | .error (.emptyIndex e) =>
      return { status := 1, events := events ++ [.unusableIndex e.message] }
    | .ok document => match ← deliver h s document with
      | .error reason => return { status := 1, events := events ++ [.unwritableOutput reason] }
      | .ok output => return { status := 0, output := output, events := events }

/-- The report with the events that the settings let be told. -/
def Report.tell (s : Settings) (r : Report) : Report :=
  { r with events := r.events.filter fun e => s.verbose || e.isLoud }

/-! ## Runs -/

/-- Runs the command with arguments in an environment. -/
def run {m : Type → Type} [Monad m] (h : Host m) (env : Environment) (argv : List String) :
    m Report :=
  match Request.ofArguments argv with
  | .error f => return { status := 2, complaint := complaint f }
  | .ok .help => return { status := 0, output := helpText }
  | .ok (.convert c) => match Settings.resolve env c.values with
    | .error fs => return { status := 1, complaint := settingsComplaint fs }
    | .ok s => return (← convert h s).tell s

end TableDoc.CommandLine
