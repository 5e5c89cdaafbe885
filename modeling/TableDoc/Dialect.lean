/-!
# Dialects

The two SQL dialects that a statement can be read in, and the error for a name of any other.
-/

namespace TableDoc

/-- A SQL dialect. -/
inductive Dialect where
  | mysql
  | postgres
deriving DecidableEq, Repr, Inhabited

namespace Dialect

/-- The name under which a dialect is chosen. -/
def name : Dialect → String
  | .mysql => "mysql"
  | .postgres => "postgres"

/-- The dialects that a script can be read in, each under its name. -/
def named : List (String × Dialect) := [("mysql", .mysql), ("postgres", .postgres)]

/-- The dialect of exactly this name. -/
def ofName? (s : String) : Option Dialect := named.lookup s

/-- The message for a name that no dialect has. -/
def unknownMessage (s : String) : String :=
  "Unsupported SQL dialect: " ++ s ++ ". Supported dialects: " ++
    String.intercalate ", " (named.map Prod.fst)

/-- A dialect is found by its own name. -/
theorem ofName?_name (d : Dialect) : ofName? d.name = some d := by cases d <;> decide

end Dialect

end TableDoc
