import TableDoc.Declaration
import TableDoc.Event
import TableDoc.Sql.Clause
import TableDoc.Sql.Printer
import TableDoc.TableSpec

/-!
# From schemas to specifications

A schema is what the grammar made of a column list; a specification is what a document needs of
it. Each entry gives a column, indexes, or nothing. The text of the entries, cut from the statement
itself, only refines the result: it supplies the wording of defaults and of indexes, and only where
it has as many entries as the schema.
-/

namespace TableDoc

open Sql

/-! ## Wordings -/

/-- What the text of an entry says in its own words. -/
structure Wording where
  /-- The text of the default value. -/
  default : Option String := none
  /-- The words for the index. -/
  index : Option String := none
deriving DecidableEq, Repr, Inhabited

/-- The wording of an entry of a statement. -/
def Declaration.wording (sql : String) (e : Declaration) : Wording :=
  ⟨(e.defaultText? sql).filter (!·.isEmpty), e.indexWording?⟩

/-- The wordings of the entries of a statement, in the order of their text. -/
def declaredWordings (d : Dialect) (sql : String) : Except LexicalFault (List Wording) := do
  return (Declaration.ofTokens (← tokens d sql)).map (Declaration.wording sql)

namespace Sql.TableSchema

/-- Whether a text has an entry for each entry of the schema. -/
def agrees (s : TableSchema) (declared : List Wording) : Bool :=
  declared.length == s.entries.length

/-- The entries, each with its wording; without one for each entry no wording counts. -/
def worded (s : TableSchema) (declared : List Wording) : List (Entry × Wording) :=
  if s.agrees declared then s.entries.zip declared else s.entries.map (·, {})

end Sql.TableSchema

/-! ## Columns -/

namespace Sql

/-- The content of a literal, and any other term as its dialect writes it. -/
def Term.content (d : Dialect) : Term → String
  | .text s | .number s => s
  | t => t.print d

/-- The text before the first parenthesis. -/
def beforeParen (s : String) : String :=
  Text.trim (String.ofList (s.toList.takeWhile (· != '(')))

/-- The word of a type in small letters, and whether the type is unsigned. A nested type is its own
word. -/
def typeWord (d : Dialect) (head : TypeHead) (args sizes : List Term) : String × Bool :=
  let written := (Term.type head args sizes).print d
  let word := if head.isNested then Text.lower written else Text.lower (beforeParen written)
  match d, head with
  | .mysql, .builtin t => match t.signedWord? with
    | some w => (w, true)
    | none => (word, false)
  | _, _ => (word, false)

end Sql

namespace ColumnSpec

/-- The column with the word, the size or the values of its type. -/
def withType (d : Dialect) (c : ColumnSpec) : Term → ColumnSpec
  | .type head args sizes =>
    let (word, unsigned) := typeWord d head args sizes
    let c := { c with typeName := word, unsigned := unsigned }
    let shown := args.map (Term.print d)
    if head.isNested || shown.isEmpty then c
    else match head with
      | .builtin t =>
        if t.isEnumerated then { c with enumValues := shown }
        else { c with length := some (String.intercalate "," shown) }
      | _ => { c with length := some (String.intercalate "," shown) }
  | _ => c

/-- The column after one more clause; of two clauses of one kind the later counts. The default is
shown in its own wording unless it is a literal. -/
def withClause (d : Dialect) (w : Wording) (c : ColumnSpec) : Clause → ColumnSpec
  | .nullability allowed => { c with notNull := !allowed }
  | .autoIncrement => { c with autoIncrement := true }
  | .default value _ =>
    let text := if value.isLiteral then value.content d else w.default.getD (value.content d)
    { c with default := some text }
  | .comment value => { c with comment := some (value.content d) }
  | .charset value => { c with charset := some value.label }
  | .collation value => { c with collate := some value.label }
  | _ => c

end ColumnSpec

namespace Sql.ColumnDefinition

/-- Whether the database counts the values up without being told so in a clause of its own: in one
dialect by the type, or because the values are generated. -/
def countsByItself (d : Dialect) (c : ColumnDefinition) : Bool :=
  match d with
  | .mysql => false
  | .postgres =>
    let serial := match c.type with
      | some (.type (.builtin t) _ _) => t.isSerial
      | _ => false
    serial || c.clauses.any fun
      | .identity => true
      | _ => false

/-- The specification of a column. -/
def toSpec (d : Dialect) (w : Wording) (c : ColumnDefinition) : ColumnSpec :=
  let named : ColumnSpec := ⟨c.name, "", none, [], false, none, none, false, false, none, none⟩
  let typed := match c.type with
    | some t => named.withType d t
    | none => named
  let spec := c.clauses.foldl (ColumnSpec.withClause d w) typed
  { spec with autoIncrement := spec.autoIncrement || c.countsByItself d }

end Sql.ColumnDefinition

/-! ## Indexes -/

namespace Sql

/-- A member of an index without the order in which it counts. -/
def Term.unordered : Term → Term
  | .phrase "ordered" _ [t] => t
  | t => t

/-- The name under which an index lists a member: the column's name, else the first name inside,
else the member as its dialect writes it. -/
def Term.memberName (d : Dialect) (t : Term) : String :=
  let t := t.unordered
  match t with
  | .column _ _ | .name _ | .anonymous _ _ => t.label
  | t => match t.firstName? with
    | some n => n.text
    | none => t.print d

/-- The first of some names that is not empty, else the name that the database gives. -/
def indexName (d : Dialect) (table : String) (own constraint : Option String)
    (columns : List String) : String :=
  match own.filter (!·.isEmpty), constraint with
  | some n, _ => n
  | none, some n => n
  | none, none => d.unnamedIndexName table columns

/-- The index that a clause declares for a table, given the name of its constraint. -/
def Clause.index? (d : Dialect) (table : String) (constraint : Option String) :
    Clause → Option IndexSpec
  | .primaryKey members =>
    some ⟨d.primaryKeyName table constraint, "primary key", members.map (Term.memberName d)⟩
  | .uniqueKey n members =>
    let columns := members.map (Term.memberName d)
    some ⟨indexName d table (n.map Term.label) constraint columns, "unique key", columns⟩
  | .index kind n members =>
    let columns := members.map (Term.memberName d)
    let kind := match kind with
      | some w => Text.lower w ++ " key"
      | none => "key"
    some ⟨indexName d table (n.map Term.label) constraint columns, kind, columns⟩
  | _ => none

/-- The indexes that an entry declares for a table. -/
def Entry.plainIndexes (d : Dialect) (table : String) : Entry → List IndexSpec
  | .clause c => (c.index? d table none).toList
  | .constraint n cs =>
    cs.filterMap (Clause.index? d table (if n.isEmpty then none else some n))
  | _ => []

/-- The indexes that an entry declares, a single one that is no primary key in its own wording. -/
def Entry.indexes (d : Dialect) (table : String) (e : Entry) (w : Wording) : List IndexSpec :=
  match e.plainIndexes d table with
  | [i] => if i.kind == "primary key" then [i] else [{ i with kind := w.index.getD i.kind }]
  | is => is

/-- The column that an entry declares. -/
def Entry.column? (d : Dialect) (e : Entry) (w : Wording) : Option ColumnSpec :=
  match e with
  | .column c => some (c.toSpec d w)
  | _ => none

/-- Whether an entry declares neither a column nor an index. -/
def Entry.isIgnored (d : Dialect) (table : String) (e : Entry) : Bool :=
  match e with
  | .column _ => false
  | e => (e.plainIndexes d table).isEmpty

/-! ## Tables -/

namespace TableSchema

/-- The specification of a table, given the wordings that its statement declares. -/
def toSpec (d : Dialect) (s : TableSchema) (declared : List Wording) : TableSpec :=
  let entries := s.worded declared
  ⟨s.name, entries.filterMap fun e => e.1.column? d e.2,
    entries.flatMap fun e => e.1.indexes d s.name e.2⟩

/-- What is to be told about the entries of a table. -/
def events (d : Dialect) (s : TableSchema) (declared : List Wording) : List Event :=
  (if s.agrees declared then []
    else [.entryCounts s.name declared.length s.entries.length]) ++
  (s.entries.filter (Entry.isIgnored d s.name)).map fun e => .ignoredEntry e.className s.name

end TableSchema

end Sql

end TableDoc
