import TableDoc.Definition
import TableDoc.Json.Validation

/-!
# Specifications and definitions as structured values

Each specification and each definition is written as an object with a member for every field, and
read from an object whose members are validated.
-/

namespace TableDoc

open Json

namespace ColumnSpec

/-- The object of a column. -/
def toJson (c : ColumnSpec) : Json :=
  .object
    [("name", .text c.name), ("type_name", .text c.typeName), ("length", ofText? c.length),
     ("enum_values", ofTexts c.enumValues), ("unsigned", .bool c.unsigned),
     ("charset", ofText? c.charset), ("collate", ofText? c.collate),
     ("not_null", .bool c.notNull), ("auto_increment", .bool c.autoIncrement),
     ("default", ofText? c.default), ("comment", ofText? c.comment)]

/-- The column that members describe. -/
def ofMembers (ms : List (String × Json)) : Checked ColumnSpec :=
  Checked.ok ColumnSpec.mk
    |>.app (required "name" toText ms)
    |>.app (optional "type_name" "" toText ms)
    |>.app (optional "length" none toText? ms)
    |>.app (optional "enum_values" [] (Json.toList toText) ms)
    |>.app (optional "unsigned" false toTruth ms)
    |>.app (optional "charset" none toText? ms)
    |>.app (optional "collate" none toText? ms)
    |>.app (optional "not_null" false toTruth ms)
    |>.app (optional "auto_increment" false toTruth ms)
    |>.app (optional "default" none toText? ms)
    |>.app (optional "comment" none toText? ms)

/-- The column that a value describes. -/
def ofJson (j : Json) : Checked ColumnSpec := toMembers "ColumnSpec" j >>= ofMembers

end ColumnSpec

namespace IndexSpec

/-- The object of an index. -/
def toJson (i : IndexSpec) : Json :=
  .object [("name", .text i.name), ("kind", .text i.kind), ("columns", ofTexts i.columns)]

/-- The index that members describe. -/
def ofMembers (ms : List (String × Json)) : Checked IndexSpec :=
  Checked.ok IndexSpec.mk
    |>.app (required "name" toText ms)
    |>.app (required "kind" toText ms)
    |>.app (optional "columns" [] (Json.toList toText) ms)

/-- The index that a value describes. -/
def ofJson (j : Json) : Checked IndexSpec := toMembers "IndexSpec" j >>= ofMembers

end IndexSpec

namespace TableSpec

/-- The object of a table. -/
def toJson (t : TableSpec) : Json :=
  .object
    [("name", .text t.name), ("columns", .array (t.columns.map ColumnSpec.toJson)),
     ("indexes", .array (t.indexes.map IndexSpec.toJson))]

/-- The table that members describe. -/
def ofMembers (ms : List (String × Json)) : Checked TableSpec :=
  Checked.ok TableSpec.mk
    |>.app (required "name" toText ms)
    |>.app (optional "columns" [] (Json.toList ColumnSpec.ofJson) ms)
    |>.app (optional "indexes" [] (Json.toList IndexSpec.ofJson) ms)

/-- The table that a value describes. -/
def ofJson (j : Json) : Checked TableSpec := toMembers "TableSpec" j >>= ofMembers

end TableSpec

namespace ColumnRow

/-- The object of a column row. -/
def toJson (r : ColumnRow) : Json :=
  .object
    [("name", .text r.name), ("type", .text r.type), ("not_null", .text r.notNull),
     ("auto_increment", .text r.autoIncrement), ("default", .text r.default),
     ("comment", .text r.comment)]

/-- The column row that members describe. -/
def ofMembers (ms : List (String × Json)) : Checked ColumnRow :=
  Checked.ok ColumnRow.mk
    |>.app (required "name" toText ms)
    |>.app (optional "type" "" toText ms)
    |>.app (optional "not_null" "" toText ms)
    |>.app (optional "auto_increment" "" toText ms)
    |>.app (optional "default" "" toText ms)
    |>.app (optional "comment" "" toText ms)

/-- The column row that a value describes. -/
def ofJson (j : Json) : Checked ColumnRow := toMembers "ColumnRow" j >>= ofMembers

end ColumnRow

namespace IndexRow

/-- The object of an index row. -/
def toJson (r : IndexRow) : Json :=
  .object [("name", .text r.name), ("type", .text r.type), ("columns", .text r.columns)]

/-- The index row that members describe. -/
def ofMembers (ms : List (String × Json)) : Checked IndexRow :=
  Checked.ok IndexRow.mk
    |>.app (required "name" toText ms)
    |>.app (optional "type" "" toText ms)
    |>.app (optional "columns" "" toText ms)

/-- The index row that a value describes. -/
def ofJson (j : Json) : Checked IndexRow := toMembers "IndexRow" j >>= ofMembers

end IndexRow

namespace TableDefinition

/-- The object of a table definition. -/
def toJson (t : TableDefinition) : Json :=
  .object
    [("name", .text t.name), ("columns", .array (t.columns.map ColumnRow.toJson)),
     ("indexes", .array (t.indexes.map IndexRow.toJson))]

/-- The table definition that members describe. -/
def ofMembers (ms : List (String × Json)) : Checked TableDefinition :=
  Checked.ok TableDefinition.mk
    |>.app (required "name" toText ms)
    |>.app (optional "columns" [] (Json.toList ColumnRow.ofJson) ms)
    |>.app (optional "indexes" [] (Json.toList IndexRow.ofJson) ms)

/-- The table definition that a value describes. -/
def ofJson (j : Json) : Checked TableDefinition := toMembers "TableDefinition" j >>= ofMembers

end TableDefinition

end TableDoc
