import TableDoc.Settings
import TableDoc.Text.Quoted

/-!
# Arguments of the command

The arguments are options and nothing else. A short option may carry its value at once, short
options without values may share one dash, and a long option may be cut short as long as one option
alone begins so. Two dashes end the options. Asking for help ends the reading, and so does the
first fault; arguments that no option takes are a fault only at the end.
-/

namespace TableDoc.CommandLine

/-- An option of the command. -/
inductive Flag where
  | help
  | input
  | output
  | verbose
  | dialect
deriving DecidableEq, Repr

/-- The spellings of the options. -/
def Flag.spellings : List (String × Flag) :=
  [("-h", .help), ("--help", .help), ("-i", .input), ("-o", .output), ("-v", .verbose),
   ("-d", .dialect), ("--dialect", .dialect)]

/-- The option of exactly this spelling. -/
def Flag.ofSpelling? (s : String) : Option Flag := spellings.lookup s

/-- Whether a value belongs to the option. -/
def Flag.takesValue : Flag → Bool
  | .input | .output | .dialect => true
  | .help | .verbose => false

/-- The option as faults name it, with all its spellings. -/
def Flag.label (f : Flag) : String :=
  String.intercalate "/" ((spellings.filter (·.2 == f)).map Prod.fst)

/-- Why the arguments can not be read. -/
inductive ArgumentFault where
  | missingValue (flag : Flag)
  | unexpectedValue (flag : Flag) (value : String)
  | ambiguous (written : String) (candidates : List String)
  | unrecognized (written : List String)
deriving DecidableEq, Repr

/-- The message for a fault. -/
def ArgumentFault.message : ArgumentFault → String
  | .missingValue f => "argument " ++ f.label ++ ": expected one argument"
  | .unexpectedValue f v =>
    "argument " ++ f.label ++ ": ignored explicit argument " ++ Text.display v
  | .ambiguous w cs =>
    "ambiguous option: " ++ w ++ " could match " ++ String.intercalate ", " cs
  | .unrecognized ws => "unrecognized arguments: " ++ String.intercalate " " ws

/-! ## Single arguments -/

/-- What one argument is on its own. -/
inductive Argument where
  | plain (written : String)
  | option (flag : Flag) (isLong : Bool) (value : Option String)
  | unknown (written : String)
deriving DecidableEq, Repr

/-- Whether the characters after a dash are a number, so that they are no option. -/
def isNumber (cs : List Char) : Bool :=
  let whole := cs.takeWhile Text.isDigit
  match cs.drop whole.length with
  | [] => !whole.isEmpty
  | '.' :: decimals => !decimals.isEmpty && decimals.all Text.isDigit
  | _ => false

/-- The characters before and after the first equals sign. -/
def cutAtEquals (cs : List Char) : List Char × Option String :=
  let front := cs.takeWhile (· != '=')
  match cs.drop front.length with
  | _ :: value => (front, some (String.ofList value))
  | [] => (front, none)

/-- Spellings, options and values that an argument can stand for when it is no full spelling. -/
def readings (cs : List Char) : List (String × Argument) :=
  match cs with
  | '-' :: '-' :: _ =>
    let (front, value) := cutAtEquals cs
    (Flag.spellings.filter fun s => front.isPrefixOf s.1.toList).map fun s =>
      (s.1, .option s.2 true value)
  | '-' :: c :: value =>
    Flag.spellings.filterMap fun s =>
      if s.1.toList == ['-', c] then
        some (s.1, .option s.2 false (some (String.ofList value)))
      else if cs.isPrefixOf s.1.toList then some (s.1, .option s.2 true none)
      else none
  | _ => []

/-- Whether a spelling has two dashes. -/
def isLong (s : String) : Bool := "--".toList.isPrefixOf s.toList

/-- What one argument is: an option only if it begins with a dash and something follows. -/
def Argument.ofText (s : String) : Except ArgumentFault Argument :=
  let cs := s.toList
  if cs.head? != some '-' then .ok (.plain s)
  else match Flag.ofSpelling? s with
    | some f => .ok (.option f (isLong s) none)
    | none =>
      let (front, value) := cutAtEquals cs
      let spelling := String.ofList front
      match cs.length == 1, value, Flag.ofSpelling? spelling with
      | true, _, _ => .ok (.plain s)
      | false, some v, some f => .ok (.option f (isLong spelling) (some v))
      | false, _, _ =>
        match readings cs with
        | [r] => .ok r.2
        | r :: others => .error (.ambiguous s ((r :: others).map Prod.fst))
        | [] => .ok (if isNumber (cs.drop 1) || cs.contains ' ' then .plain s else .unknown s)

/-- All arguments up to two dashes, and the two dashes with what follows. -/
def Argument.ofTexts : List String → Except ArgumentFault (List Argument × List String)
  | [] => .ok ([], [])
  | s :: rest =>
    if s == "--" then .ok ([], s :: rest)
    else do
      let a ← ofText s
      let (others, after) ← ofTexts rest
      return (a :: others, after)

/-! ## Choices -/

/-- What the options ask for. -/
structure Choices where
  input : Option String := none
  output : Option String := none
  verbose : Bool := false
  dialect : Option String := none
  /-- Arguments that no option takes. -/
  extra : List String := []
deriving DecidableEq, Repr, Inhabited

/-- What the arguments ask for. -/
inductive Request where
  | help
  | convert (choices : Choices)
deriving DecidableEq, Repr

/-- The options behind one dash: those that are complete, and the last with its value. -/
structure Cluster where
  complete : List Flag
  last : Flag
  value : Option String
deriving DecidableEq, Repr

/-- Reads the value of a short option: an option without values shares its dash with others. -/
def Cluster.ofShort (f : Flag) : List Char → Except ArgumentFault Cluster
  | [] =>
    if f.takesValue then .ok ⟨[], f, some ""⟩ else .error (.unexpectedValue f "")
  | c :: rest =>
    if f.takesValue then .ok ⟨[], f, some (String.ofList (c :: rest))⟩
    else match Flag.ofSpelling? (String.ofList ['-', c]) with
      | none => .error (.unexpectedValue f (String.ofList (c :: rest)))
      | some g =>
        if rest.isEmpty then .ok ⟨[f], g, none⟩
        else do
          let more ← ofShort g rest
          return { more with complete := f :: more.complete }

/-- The options of one argument. -/
def Cluster.ofOption (f : Flag) (isLong : Bool) : Option String → Except ArgumentFault Cluster
  | none => .ok ⟨[], f, none⟩
  | some v =>
    if isLong then
      if f.takesValue then .ok ⟨[], f, some v⟩ else .error (.unexpectedValue f v)
    else ofShort f v.toList

/-- Records an option with its value. -/
def Choices.put (c : Choices) (f : Flag) (value : String) : Choices :=
  match f with
  | .input => { c with input := some value }
  | .output => { c with output := some value }
  | .dialect => { c with dialect := some value }
  | .verbose => { c with verbose := true }
  | .help => c

/-- Records the options of one argument whose last has the value. -/
def Choices.putAll (c : Choices) (k : Cluster) (value : String) : Choices :=
  (k.complete.foldl (fun c f => c.put f "") c).put k.last value

/-- Whether the options ask for help. -/
def Cluster.asksHelp (k : Cluster) : Bool := k.last == .help || k.complete.contains .help

/-- Takes the arguments in order; `after` are the arguments from two dashes on. -/
def Request.follow (after : List String) (c : Choices) :
    List Argument → Except ArgumentFault Request
  | [] =>
    let extra := c.extra ++ after
    if extra.isEmpty then .ok (.convert c) else .error (.unrecognized extra)
  | .plain s :: rest => follow after { c with extra := c.extra ++ [s] } rest
  | .unknown s :: rest => follow after { c with extra := c.extra ++ [s] } rest
  | .option f isLong value :: rest => do
    let k ← Cluster.ofOption f isLong value
    if k.last.takesValue && k.value.isNone then
      match rest with
      | .plain s :: later =>
        if k.asksHelp then return .help else follow after (c.putAll k s) later
      | _ => .error (.missingValue k.last)
    else if k.asksHelp then return .help
    else follow after (c.putAll k (k.value.getD "")) rest

/-- What arguments ask for. -/
def Request.ofArguments (argv : List String) : Except ArgumentFault Request := do
  let (arguments, after) ← Argument.ofTexts argv
  Request.follow after {} arguments

/-! ## Texts -/

/-- The name of the command. -/
def programName : String := "createtable2markdown"

/-- The line that sums up the options. -/
def usage : String :=
  "usage: " ++ programName ++ " [-h] [-i INPUT] [-o OUTPUT] [-v] [-d DIALECT]\n"

/-- The text that explains the options. -/
def helpText : String :=
  usage ++ "\nConvert CREATE TABLE statements into Markdown tables\n\noptions:\n" ++
    "  -h, --help            show this help message and exit\n" ++
    "  -i INPUT              input file, default = stdin\n" ++
    "  -o OUTPUT             output file, default = stdout\n" ++
    "  -v                    verbose, log diagnostics to stderr\n" ++
    "  -d DIALECT, --dialect DIALECT\n" ++
    "                        SQL dialect (" ++ Dialect.nameList ++ "), default = mysql\n"

/-- The complaint about arguments that can not be read. -/
def complaint (f : ArgumentFault) : String :=
  usage ++ programName ++ ": error: " ++ f.message ++ "\n"

end TableDoc.CommandLine
