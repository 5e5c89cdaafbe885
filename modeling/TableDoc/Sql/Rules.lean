import TableDoc.Sql.Clause
import TableDoc.Sql.Literal

/-!
# Rules that call each other

Expressions hold types and queries, types and queries hold expressions, and all hold themselves.
`Rules` is the record of what they call each other by, one level of nesting down; each module gives
one level, and the levels are tied together by a number that a statement's tokens bound.
-/

namespace TableDoc.Sql

/-- Where a data type is read. -/
structure TypePlace where
  /-- Whether arguments may turn the type into a call. -/
  inValue : Bool := false
  /-- Whether the type belongs to a column definition. -/
  inSchema : Bool := false
  /-- Whether a name may stand for a type. -/
  byName : Bool := true
deriving Repr

/-- What the parts of a statement call each other by. -/
structure Rules where
  /-- A data type. -/
  types : TypePlace → Reader (Option Term)
  /-- A literal, a call or a name. -/
  field : Reader (Option Term)
  /-- A call. -/
  call : Reader (Option Term)
  /-- A column, a literal or a call, with what follows it closely. -/
  column : Reader (Option Term)
  /-- A literal of a type, a column or anything that binds closer than an operator. -/
  typed : Reader (Option Term)
  /-- A signed or negated operand. -/
  unary : Reader (Option Term)
  /-- A product. -/
  product : Reader (Option Term)
  /-- A sum. -/
  sum : Reader (Option Term)
  /-- Operators on bits and texts. -/
  bitwise : Reader (Option Term)
  /-- An equation. -/
  equality : Reader (Option Term)
  /-- An alternative of conditions, the loosest operator. -/
  disjunction : Reader (Option Term)
  /-- A query. -/
  query : Reader (Option Term)
  /-- A query that may stand in parentheses, without what is joined to it. -/
  nested : Reader (Option Term)
  /-- A query with the clauses that follow it. -/
  modified : Term → Reader Term
  /-- A source of rows, with its name. -/
  source : Reader Term
  /-- One more source, with what joins it. -/
  join : Reader (Option Unit)
  /-- The name of a column with what may define it. -/
  parameter : Reader (Option Unit)
  /-- The column list of a table. -/
  columns : Reader (Option (List Entry))
  /-- A property of what is created. -/
  property : Reader (Option Unit)
  /-- A statement; one that is no query shows its class alone. -/
  statement : Reader (Option Term)

/-- The rules below the deepest level: everything is too deep. -/
def Rules.bottom : Rules where
  types _ := Reader.fail .tooDeep
  field := Reader.fail .tooDeep
  call := Reader.fail .tooDeep
  column := Reader.fail .tooDeep
  typed := Reader.fail .tooDeep
  unary := Reader.fail .tooDeep
  product := Reader.fail .tooDeep
  sum := Reader.fail .tooDeep
  bitwise := Reader.fail .tooDeep
  equality := Reader.fail .tooDeep
  disjunction := Reader.fail .tooDeep
  query := Reader.fail .tooDeep
  nested := Reader.fail .tooDeep
  modified _ := Reader.fail .tooDeep
  source := Reader.fail .tooDeep
  join := Reader.fail .tooDeep
  parameter := Reader.fail .tooDeep
  columns := Reader.fail .tooDeep
  property := Reader.fail .tooDeep
  statement := Reader.fail .tooDeep

end TableDoc.Sql
