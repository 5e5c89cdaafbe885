import TableDoc.TableSpec
import TableDoc.Text.Quoted

/-!
# Definitions of tables

The rows of a document: six cells for a column and three for an index, each a text. A specification
becomes a definition cell by cell; an index without columns has no row, and then neither has its
table.
-/

namespace TableDoc

/-- One row of the table of columns. -/
structure ColumnRow where
  name : String
  type : String := ""
  notNull : String := ""
  autoIncrement : String := ""
  default : String := ""
  comment : String := ""
deriving DecidableEq, Repr, Inhabited

/-- One row of the table of indexes. -/
structure IndexRow where
  name : String
  type : String := ""
  columns : String := ""
deriving DecidableEq, Repr, Inhabited

/-- The rows of one table. -/
structure TableDefinition where
  name : String
  columns : List ColumnRow := []
  indexes : List IndexRow := []
deriving DecidableEq, Repr, Inhabited

/-- An index that declares no column. -/
structure EmptyIndex where
  name : String
deriving DecidableEq, Repr, Inhabited

/-- The message for an index that declares no column. -/
def EmptyIndex.message (e : EmptyIndex) : String :=
  "Index " ++ Text.display e.name ++ " has no columns"

/-- The cells of a column row in the order of the table. -/
def ColumnRow.cells (r : ColumnRow) : List String :=
  [r.name, r.type, r.notNull, r.autoIncrement, r.default, r.comment]

/-- The cells of an index row in the order of the table. -/
def IndexRow.cells (r : IndexRow) : List String := [r.name, r.type, r.columns]

/-! ## From specifications -/

namespace ColumnSpec

/-- The type cell: word, allowed values, size, sign, then character set and collation at once. -/
def typeCell (c : ColumnSpec) : String :=
  let values :=
    if c.enumValues.isEmpty then "" else "(" ++ String.intercalate ", " c.enumValues ++ ")"
  let size := match c.length with
    | some l => if l.isEmpty then "" else "(" ++ l ++ ")"
    | none => ""
  let sign := if c.unsigned then " unsigned" else ""
  c.typeName ++ values ++ size ++ sign ++ c.charset.getD "" ++ c.collate.getD ""

/-- The row of a column. -/
def toRow (c : ColumnSpec) : ColumnRow where
  name := c.name
  type := c.typeCell
  notNull := if c.notNull then "not null" else ""
  autoIncrement := if c.autoIncrement then "auto_increment" else ""
  default := c.default.getD ""
  comment := c.comment.getD ""

end ColumnSpec

/-- The row of an index that has columns. -/
def IndexSpec.toRow (i : IndexSpec) : Except EmptyIndex IndexRow :=
  if i.columns.isEmpty then .error ⟨i.name⟩
  else .ok ⟨i.name, i.kind, String.intercalate ", " i.columns⟩

/-- The rows of a table, in the order of its declaration. -/
def TableSpec.toDefinition (t : TableSpec) : Except EmptyIndex TableDefinition := do
  let indexes ← t.indexes.mapM IndexSpec.toRow
  return ⟨t.name, t.columns.map ColumnSpec.toRow, indexes⟩

end TableDoc
