import TableDoc.Dialect

/-!
# Specifications of tables

What a `CREATE TABLE` statement declares: a table with columns and indexes, all texts as the
statement or its rendering gives them.
-/

namespace TableDoc

/-- A column as it is declared. -/
structure ColumnSpec where
  /-- The column's name. -/
  name : String
  /-- The word of the type, in small letters. -/
  typeName : String := ""
  /-- The arguments of the type, such as `10,2`. -/
  length : Option String := none
  /-- The allowed values of an enumerated type, as literals. -/
  enumValues : List String := []
  /-- Whether the type is unsigned. -/
  unsigned : Bool := false
  /-- The character set. -/
  charset : Option String := none
  /-- The collation. -/
  collate : Option String := none
  /-- Whether the column refuses null. -/
  notNull : Bool := false
  /-- Whether the database counts the values up. -/
  autoIncrement : Bool := false
  /-- The default value. -/
  default : Option String := none
  /-- The comment. -/
  comment : Option String := none
deriving DecidableEq, Repr, Inhabited

/-- An index as it is declared. -/
structure IndexSpec where
  /-- The index's name. -/
  name : String
  /-- The category, such as `unique key`. -/
  kind : String
  /-- The member columns in order. -/
  columns : List String := []
deriving DecidableEq, Repr, Inhabited

/-- A table as it is declared. -/
structure TableSpec where
  /-- The table's name. -/
  name : String
  /-- The columns in order. -/
  columns : List ColumnSpec := []
  /-- The indexes in order. -/
  indexes : List IndexSpec := []
deriving DecidableEq, Repr, Inhabited

/-! ## Names given by the database -/

namespace Dialect

/-- The name of a table's primary key, given the name of its constraint. -/
def primaryKeyName (d : Dialect) (table : String) (constraint : Option String) : String :=
  match d with
  | .mysql => "PRIMARY"
  | .postgres => match constraint with
    | some name => if name.isEmpty then table ++ "_pkey" else name
    | none => table ++ "_pkey"

/-- The name that the database gives an index declared without one. -/
def unnamedIndexName (d : Dialect) (table : String) (columns : List String) : String :=
  match d with
  | .mysql => columns.headD ""
  | .postgres => String.intercalate "_" (table :: columns ++ ["key"])

end Dialect

end TableDoc
