import TableDoc.Sql.Term
import TableDoc.Sql.Token

/-!
# Clauses, columns, entries and statements

What the column list of a statement holds. A clause says one thing about a column or about the
table; a column definition is a name, perhaps a type, and clauses; a constraint gives a name to
clauses. Of a statement that creates no table only the class counts.
-/

namespace TableDoc.Sql

/-- One thing that is said about a column or a table. -/
inductive Clause where
  /-- Whether null is allowed. -/
  | nullability (allowed : Bool)
  /-- The database counts the values up. -/
  | autoIncrement
  /-- The values are generated, unless they are computed from others. -/
  | identity
  /-- The default value, and the tokens that it was read from. -/
  | default (value : Term) (read : List Token)
  /-- A comment. -/
  | comment (value : Term)
  /-- The character set. -/
  | charset (value : Term)
  /-- The collation. -/
  | collation (value : Term)
  /-- A primary key on listed columns. -/
  | primaryKey (members : List Term)
  /-- A unique index on listed columns, with its name if it has one. -/
  | uniqueKey (name : Option Term) (members : List Term)
  /-- An index on listed columns, with the word for its kind and its name. -/
  | index (kind : Option String) (name : Option Term) (members : List Term)
  /-- Anything else, by its class. -/
  | other (cls : String)
deriving Repr, Inhabited

/-- The word under which messages speak of a clause. -/
def Clause.className : Clause → String
  | nullability _ => "notnullcolumnconstraint"
  | autoIncrement => "autoincrementcolumnconstraint"
  | identity => "generatedasidentitycolumnconstraint"
  | default _ _ => "defaultcolumnconstraint"
  | comment _ => "commentcolumnconstraint"
  | charset _ => "charactersetcolumnconstraint"
  | collation _ => "collatecolumnconstraint"
  | primaryKey _ => "primarykey"
  | uniqueKey _ _ => "uniquecolumnconstraint"
  | index _ _ _ => "indexcolumnconstraint"
  | other cls => cls

/-- A column as its definition declares it. -/
structure ColumnDefinition where
  name : String
  type : Option Term
  clauses : List Clause
deriving Repr, Inhabited

/-- An entry of a column list. -/
inductive Entry where
  /-- A column definition. -/
  | column (c : ColumnDefinition)
  /-- A clause about the table. -/
  | clause (c : Clause)
  /-- Clauses about the table under a name. -/
  | constraint (name : String) (clauses : List Clause)
  /-- A term. -/
  | term (t : Term)
deriving Repr, Inhabited

/-- The word under which messages speak of an entry. -/
def Entry.className : Entry → String
  | column _ => "columndef"
  | clause c => c.className
  | constraint _ _ => "constraint"
  | term t => t.className

/-- An entry as the member of an index. -/
def Entry.member : Entry → Term
  | column c => .name ⟨c.name, false⟩
  | term t => t
  | e => .phrase e.className [""] []

/-- The table that a statement creates, with the entries of its column list. -/
structure TableSchema where
  name : String
  entries : List Entry
deriving Repr, Inhabited

/-- A statement. -/
inductive Statement where
  /-- Creates a table with a column list. -/
  | createTable (schema : TableSchema)
  /-- Creates something else, of the kind that the word names. -/
  | create (kind : String)
  /-- Is a query or an expression. -/
  | term (t : Term)
  /-- Does something else, by its class. -/
  | other (cls : String)
deriving Repr, Inhabited

/-- The word under which messages speak of a statement. -/
def Statement.className : Statement → String
  | createTable _ | create _ => "create"
  | term t => t.className
  | other cls => cls

/-- A statement as a term, which shows no more than the class of one that is none. -/
def Statement.toTerm : Statement → Term
  | term t => t
  | s => .phrase s.className [""] []

end TableDoc.Sql
