import TableDoc.Document
import TableDoc.Extraction
import TableDoc.Sql.Grammar

/-!
# Scripts

A script is a text of statements with semicolons between them. Every semicolon cuts, also one
inside a literal or a comment. Each fragment is read on its own, so that one that can not be read
does not keep the others from being read; the document of a script has a block for each table. The
dialect is chosen by its name, and a name that no dialect has is a fault.
-/

namespace TableDoc

open Sql

/-! ## Fragments -/

/-- What reading a fragment gives. -/
inductive Reading where
  /-- There is nothing to read. -/
  | blank
  /-- The fragment can not be read. -/
  | unreadable
  /-- There is no statement, only comments. -/
  | noStatement
  /-- A statement of another kind. -/
  | other (cls : String)
  /-- A statement that creates something else. -/
  | created (kind : String)
  /-- A table, with the wordings of the entries in the text. -/
  | table (schema : TableSchema) (declared : List Wording)
deriving Repr, Inhabited

namespace Fragment

/-- What follows a word, any letter case, and at least one blank. -/
def afterWord? (word : String) (cs : List Char) : Option (List Char) :=
  if (cs.take word.length).map Char.toUpper == word.toList then
    match cs.drop word.length with
    | c :: rest => if Text.isBlank c then some (rest.dropWhile Text.isBlank) else none
    | [] => none
  else none

/-- Whether a word stands here, any letter case, and ends. -/
def startsWithWord (word : String) (cs : List Char) : Bool :=
  (cs.take word.length).map Char.toUpper == word.toList &&
    !(cs.drop word.length).head?.any Text.isWordChar

/-- Whether a fragment begins with the words that create a table. -/
def announcesTable (fragment : String) : Bool :=
  match afterWord? "CREATE" (fragment.toList.dropWhile Text.isBlank) with
  | none => false
  | some cs => startsWithWord "TABLE" ((afterWord? "TEMPORARY" cs).getD cs)

/-- Reads a fragment. -/
def read (d : Dialect) (fragment : String) : Reading :=
  if Text.isBlankText fragment then .blank
  else match parse d fragment, declaredWordings d fragment with
    | .error _, _ | _, .error _ => .unreadable
    | .ok none, _ => .noStatement
    | .ok (some (.other cls)), _ => .other cls
    | .ok (some (.create kind)), _ => .created kind
    | .ok (some (.term t)), _ => .other t.className
    | .ok (some (.createTable schema)), .ok declared => .table schema declared

/-- The table that a fragment declares. -/
def table? (d : Dialect) (fragment : String) : Option TableSpec :=
  match read d fragment with
  | .table schema declared => some (schema.toSpec d declared)
  | _ => none

/-- What is to be told about a fragment. -/
def events (d : Dialect) (fragment : String) : List Event :=
  match read d fragment with
  | .blank => []
  | .unreadable => [if announcesTable fragment then .unreadableTable else .unreadableQuery]
  | .noStatement => [.noStatement]
  | .other cls => [.createsNothing cls]
  | .created kind => [.createsOther kind]
  | .table schema declared =>
    let t := schema.toSpec d declared
    schema.events d declared ++ [.readTable t.name t.columns.length t.indexes.length]

end Fragment

/-! ## Scripts -/

/-- Why a script has no document in the dialect of a name. -/
inductive ConversionFault where
  /-- No dialect has the name. -/
  | unknownDialect (name : String)
  /-- An index declares no column. -/
  | emptyIndex (index : EmptyIndex)
deriving DecidableEq, Repr

namespace Script

/-- The characters cut at every semicolon. -/
def cut : List Char → List (List Char)
  | [] => [[]]
  | c :: rest =>
    if c == ';' then [] :: cut rest
    else match cut rest with
      | [] => [[c]]
      | first :: others => (c :: first) :: others

/-- The fragments of a script, blank ones included. -/
def fragments (script : String) : List String := (cut script.toList).map String.ofList

/-- The tables that a script declares. -/
def tables (d : Dialect) (script : String) : List TableSpec :=
  (fragments script).filterMap (Fragment.table? d)

/-- What is to be told about reading a script. -/
def events (d : Dialect) (script : String) : List Event :=
  (fragments script).flatMap (Fragment.events d) ++ [.foundTables (tables d script).length]

/-- The document of a script. -/
def document (d : Dialect) (script : String) : Except EmptyIndex String := do
  let definitions ← (tables d script).mapM TableSpec.toDefinition
  return Document.render definitions

/-- What is to be told about reading a script in the dialect of exactly this name. -/
def eventsIn (name script : String) : List Event :=
  match Dialect.ofName? name with
  | some d => events d script
  | none => []

/-- The document of a script in the dialect of exactly this name. -/
def documentIn (name script : String) : Except ConversionFault String :=
  match Dialect.ofName? name with
  | some d => (document d script).mapError .emptyIndex
  | none => .error (.unknownDialect name)

/-! ## Step by step -/

/-- A fragment with its table and the block of the table. -/
structure Step where
  fragment : String
  table : Option (TableSpec × Except EmptyIndex String)

/-- The steps of a script, one for each fragment. -/
def steps (d : Dialect) (script : String) : List Step :=
  (fragments script).map fun f =>
    ⟨f, (Fragment.table? d f).map fun t => (t, t.toDefinition.map Document.block)⟩

end Script

end TableDoc
