import TableDoc.Sql.Statement

/-!
# The grammar

The levels of nesting tied together, and what a text says by them. Each level of nesting takes a
token, or a character of a name in quotes that stands for a type, so a statement is never nested
deeper than these numbers, and that many levels read all of it.
-/

namespace TableDoc.Sql

open Reader

/-! ## Levels -/

/-- One level of nesting above another. -/
def Rules.above (d : Dialect) (r : Rules) : Rules where
  types := dataType d r
  field := field? d r false
  call := call? d r {}
  column := column? d r
  typed := typed? d r
  unary := unary? d r
  product := product? d r
  sum := sum? d r
  bitwise := bitwise? d r
  equality := equality? d r
  disjunction := disjunction? d r
  query := query? d r
  nested := nestedQuery? d r true
  modified := Sql.modified d r
  source := Sql.source d r
  join := join? d r
  parameter := parameterDefinition? d r
  columns := columnList? d r
  property := property? d r
  statement := do return (← statement? d r).map Statement.toTerm

/-- The rules for so many levels of nesting. -/
def Rules.levels (d : Dialect) : Nat → Rules
  | 0 => .bottom
  | n + 1 => .above d (levels d n)

/-- The number of levels that one token may need. A quoted name may hold the text of a type. -/
def Token.depth (t : Token) : Nat :=
  match t.kind with
  | .quotedName => t.text.length + 2
  | _ => 2

/-- The number of levels that some tokens may need. -/
def depth (ts : List Token) : Nat := ts.foldl (fun n t => n + t.depth) 8

/-- The rules that read a statement of these tokens. -/
def Rules.forTokens (d : Dialect) (ts : List Token) : Rules := levels d (depth ts)

/-! ## Fragments -/

/-- The tokens of each statement, cut at semicolons. A semicolon with a comment of its own is a
statement between the two. -/
def cutStatements : List Token → List (List Token)
  | [] => [[]]
  | t :: rest =>
    match cutStatements rest with
    | [] => [[t]]
    | first :: others =>
      if t.isSign .semicolon then
        if t.remarked then [] :: [t] :: first :: others else [] :: first :: others
      else (t :: first) :: others

/-- The statement of all these tokens; `none` where there is no token. -/
def readStatement (d : Dialect) (ts : List Token) : Except SyntaxFault (Option Statement) := do
  let (s, c) ← (firstStatement? d (Rules.forTokens d ts)).run ⟨none, ts⟩
  if c.rest.isEmpty then return s else throw .leftover

/-- Why a text can not be read. -/
inductive Fault where
  | lexical (f : LexicalFault)
  | syntactic (f : SyntaxFault)
deriving Repr

/-- The first statement of a text; every statement of the text has to be readable. -/
def parse (d : Dialect) (sql : String) : Except Fault (Option Statement) := do
  let ts ← (tokens d sql).mapError .lexical
  let ss ← ((cutStatements ts).mapM (readStatement d)).mapError .syntactic
  return ss.findSome? id

end TableDoc.Sql
