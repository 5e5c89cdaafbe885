import TableDoc.Json.Validation
import TableDoc.Text.Blank
import TableDoc.Text.Path

/-!
# Settings

The settings of one run: where to read, where to write, the dialect, and how much to tell. They
come from given values, which win, and from the environment; a given null counts as not given, and
so does an empty text of the environment.
-/

namespace TableDoc

namespace Dialect

/-- The names of dialects that settings can have. -/
def supported : List String := ["mysql", "postgres"]

/-- These names, as messages list them. -/
def nameList : String := String.intercalate ", " supported

/-- The name that a setting stands for: blanks around it and letter case do not count, and one
dialect has a longer name as well. -/
def settingName (s : String) : String :=
  let word := Text.lower (Text.trim s)
  if word == "postgresql" then "postgres" else word

end Dialect

/-- The settings of one run. -/
structure Settings where
  /-- The file to read, if not the standard input. -/
  inputPath : Option String := none
  /-- The file to write, if not the standard output. -/
  outputPath : Option String := none
  /-- The name of the dialect of the statements. -/
  dialect : String := "mysql"
  /-- Whether every record is told. -/
  verbose : Bool := false
  /-- The encoding of files. -/
  encoding : String := "utf-8"
deriving DecidableEq, Repr, Inhabited

/-- What the environment says about the settings. -/
structure Environment where
  /-- The text for the dialect. -/
  dialect : Option String := none
  /-- The text for the verbosity. -/
  verbose : Option String := none
deriving DecidableEq, Repr, Inhabited

namespace Environment

/-- The variable for the dialect. -/
def dialectVariable : String := "CREATETABLE2MARKDOWN_DIALECT"

/-- The variable for the verbosity. -/
def verboseVariable : String := "CREATETABLE2MARKDOWN_VERBOSE"

/-- The words that turn verbosity on; any other word turns it off. -/
def onWords : List String := ["1", "true", "yes", "on"]

/-- Whether a text of the environment turns verbosity on. -/
def isOn (s : String) : Bool := onWords.contains (Text.lower (Text.trim s))

/-- The values that the environment gives. -/
def values (e : Environment) : List (String × Json) :=
  (match e.dialect with
    | some s => if s.isEmpty then [] else [("dialect", .text s)]
    | none => []) ++
  (match e.verbose with
    | some s => if s.isEmpty then [] else [("verbose", .bool (isOn s))]
    | none => [])

end Environment

namespace Settings

/-- A path in normal form. -/
def toPath : Json → Checked (Option String)
  | .null => .ok none
  | .text s => .ok (some (Text.Path.normal s))
  | _ => Checked.fail .notPath

/-- The name of the dialect that a text stands for. -/
def toDialect : Json → Checked String
  | .text s =>
    if Dialect.supported.contains (Dialect.settingName s) then .ok (Dialect.settingName s)
    else Checked.fail (.unknownDialect s Dialect.nameList)
  | _ => Checked.fail .notText

/-- The settings that members describe. -/
def ofMembers (ms : List (String × Json)) : Checked Settings :=
  Checked.ok Settings.mk
    |>.app (Json.optional "input_path" none toPath ms)
    |>.app (Json.optional "output_path" none toPath ms)
    |>.app (Json.optional "dialect" "mysql" toDialect ms)
    |>.app (Json.optional "verbose" false Json.toTruth ms)
    |>.app (Json.optional "encoding" "utf-8" Json.toText ms)

/-- The given values that are not null. -/
def present (given : List (String × Json)) : List (String × Json) :=
  given.filter fun m => match m.2 with
    | .null => false
    | _ => true

/-- The settings of an environment and of given values, which win. -/
def resolve (e : Environment) (given : List (String × Json)) : Checked Settings :=
  ofMembers (e.values ++ present given)

/-- The object of some settings. -/
def toJson (s : Settings) : Json :=
  .object
    [("input_path", Json.ofText? s.inputPath), ("output_path", Json.ofText? s.outputPath),
     ("dialect", .text s.dialect), ("verbose", .bool s.verbose),
     ("encoding", .text s.encoding)]

end Settings

end TableDoc
