import TableDoc.Definition

/-!
# Documents

A document is one block after another, a block for each table: a heading, a table with a row for
each column, a second heading and a table with a row for each index. Lines end in a line feed.
-/

namespace TableDoc

namespace Document

/-- The header of the table of columns. -/
def columnHeader : List String :=
  ["name", "type", "not null", "auto_increment", "default", "comment"]

/-- The header of the table of indexes. -/
def indexHeader : List String := ["name", "type", "columns"]

/-- A row: every cell ends in a bar, and a bar stands before the first. -/
def rowLine (cells : List String) : String :=
  "|" ++ String.join (cells.map (· ++ "|"))

/-- The line under a header of this many cells. -/
def rule (width : Nat) : String :=
  "|" ++ String.join (List.replicate width "---|")

/-- The lines of a table. -/
def tableLines (header : List String) (rows : List (List String)) : List String :=
  rowLine header :: rule header.length :: rows.map rowLine

/-- The lines of a block without the blank line at its end. -/
def blockLines (t : TableDefinition) : List String :=
  [t.name ++ " Table's Definition", ""] ++
    tableLines columnHeader (t.columns.map ColumnRow.cells) ++
    ["", t.name ++ " Table's Indexes", ""] ++
    tableLines indexHeader (t.indexes.map IndexRow.cells)

/-- The block of a table, which ends in a blank line. -/
def block (t : TableDefinition) : String :=
  String.intercalate "\n" (blockLines t) ++ "\n\n"

/-- The document of some tables. -/
def render (ts : List TableDefinition) : String :=
  String.join (ts.map block)

end Document

end TableDoc
