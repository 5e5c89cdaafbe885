/-!
# Events

What a run has to tell besides its result: which statements and entries it passed over and why,
what it read, and why it stopped. Every event has a level, and a quiet run tells only those from
the level of warnings up.
-/

namespace TableDoc

/-- How much an event matters. -/
inductive Level where
  | debug
  | warning
  | error
deriving DecidableEq, Repr, Inhabited

/-- The word for a level. -/
def Level.word : Level → String
  | .debug => "DEBUG"
  | .warning => "WARNING"
  | .error => "ERROR"

/-- Something that a run has to tell. -/
inductive Event where
  /-- A statement creates a table and can not be read. -/
  | unreadableTable
  /-- Any other statement can not be read. -/
  | unreadableQuery
  /-- There is no statement, only comments. -/
  | noStatement
  /-- A statement creates nothing; its class. -/
  | createsNothing (cls : String)
  /-- A statement creates something else, of this kind, or a table without a column list. -/
  | createsOther (kind : String)
  /-- A column list has other entries in its text than were read. -/
  | entryCounts (table : String) (declared read : Nat)
  /-- An entry of a column list is neither column nor index; its class. -/
  | ignoredEntry (cls table : String)
  /-- A table was read. -/
  | readTable (table : String) (columns indexes : Nat)
  /-- All statements were read. -/
  | foundTables (count : Nat)
  /-- The input can not be read. -/
  | unreadableInput (reason : String)
  /-- An index can not be shown. -/
  | unusableIndex (reason : String)
  /-- The output can not be written. -/
  | unwritableOutput (reason : String)
deriving DecidableEq, Repr, Inhabited

namespace Event

/-- The level of an event. -/
def level : Event → Level
  | unreadableTable => .warning
  | unreadableInput _ | unusableIndex _ | unwritableOutput _ => .error
  | _ => .debug

/-- The part of the program that tells an event. -/
def teller : Event → String
  | entryCounts _ _ _ | ignoredEntry _ _ => "createtable2markdown.adapters.base"
  | foundTables _ => "createtable2markdown.core.converter"
  | unreadableInput _ | unusableIndex _ | unwritableOutput _ => "createtable2markdown.cli"
  | _ => "createtable2markdown.core.parser"

/-- The text of an event. -/
def message : Event → String
  | unreadableTable => "Skipping CREATE TABLE the parser can not read"
  | unreadableQuery => "Can not parse query"
  | noStatement => "Query holds no statement"
  | createsNothing cls => "Query is not DDL: " ++ cls
  | createsOther kind => "Query is not CREATE TABLE: CREATE " ++ kind
  | entryCounts table declared read =>
    "Column list of table " ++ table ++ " has " ++ toString declared ++ " entries in source but " ++
      toString read ++ " parsed, using parsed text"
  | ignoredEntry cls table => "Ignoring " ++ cls ++ " definition in table " ++ table
  | readTable table columns indexes =>
    "Parsed table " ++ table ++ " (" ++ toString columns ++ " columns, " ++ toString indexes ++
      " indexes)"
  | foundTables count => "Found " ++ toString count ++ " CREATE TABLE statements"
  | unreadableInput reason => "Can not read input: " ++ reason
  | unusableIndex reason => "Invalid index definition: " ++ reason
  | unwritableOutput reason => "Can not write output: " ++ reason

/-- Whether a quiet run tells an event. -/
def isLoud (e : Event) : Bool := e.level != .debug

end Event

end TableDoc
