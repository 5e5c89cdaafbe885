import TableDoc.Sql.Alteration
import TableDoc.Sql.Change
import TableDoc.Sql.Session

/-!
# Statements

A statement that creates a table is read with its column list; of any other the class is told, or
the kind of what it creates. The first word tells what kind of statement it is; where no such word
stands, the statement is an expression or a query.
-/

namespace TableDoc.Sql

open Reader

/-- A statement that is an expression or a query, with the clauses that follow it. -/
def termStatement? (d : Dialect) (r : Rules) : Reader (Option Statement) := do
  let t ← firstOf [wholeTable? d r, r.expression d]
  match ← match t with
    | some t => some <$> extend (unionAfter? r) t
    | none => r.query with
  | some t => return some (.term (← r.modified t))
  | none => return none

/-- The words that begin a statement of their own kind. -/
def statementWords (d : Dialect) : List Keyword :=
  [.alter, .analyze, .begin, .cache, .comment, .commit, .copy, .create, .delete, .desc, .describe,
   .drop, .grant, .insert, .kill, .load, .lock, .merge, .pivot, .pragma, .revoke, .rollback,
   .set, .truncate, .uncache, .unpivot, .update, .use] ++
    match d with
    | .mysql => [.showWord]
    | .postgres => []

/-- Whether a token begins a statement of its own kind. -/
def opensStatement (d : Dialect) (t : Token) : Bool :=
  (statementWords d).any t.isKeyword || t.isSign .semicolon

/-- The call that a word for emptying tables makes before a parenthesis. -/
def callStatement (d : Dialect) (r : Rules) : Reader Statement := do
  return .term (← required "call" (call? d r {}))

/-- A statement after its first word, which begins a kind of its own; `start` is the place before
that word. -/
def statementAfter (d : Dialect) (r : Rules) (start : Cursor) (k : Keyword) : Reader Statement := do
  match k with
  | .alter => alterAfter d r
  | .analyze => analyzeAfter d r
  | .begin => beginAfter
  | .cache => cacheAfter d r
  | .comment => commentAfter d r
  | .commit => endAfter "commit"
  | .copy => if ← copyRows d r then return .other "copy" else asCommand
  | .create => createAfter d r
  | .delete => deleteAfter d r
  | .desc | .describe => describeAfter d r (opensStatement d)
  | .drop => dropAfter d r
  | .grant => grantAfter d r true
  | .insert => insertAfter d r
  | .kill =>
    let _ ← oneOf? ["CONNECTION", "QUERY"]
    let _ ← required "process" (primary? d r)
    return .other "kill"
  | .load =>
    if ← word "DATA" then
      loadRows d r
      return .other "loaddata"
    else asCommand
  | .merge => mergeAfter d r
  | .pivot | .unpivot => pivotAfter d r
  | .pragma =>
    let _ ← required "expression" (r.expression d)
    return .other "pragma"
  | .revoke => grantAfter d r false
  | .rollback => endAfter "rollback"
  | .set => if ← sessionSettings d r then return .other "set" else return .other "command"
  | .showWord => showAfter d r
  | .truncate =>
    if ← sees (·.isSign .lParen) then
      backTo start
      callStatement d r
    else truncateAfter d r
  | .uncache => uncacheAfter d r
  | .update => updateAfter d r
  | .use => useAfter d r
  | _ => asCommand

/-- A statement, if there is one. -/
def statement? (d : Dialect) (r : Rules) : Reader (Option Statement) := do
  let start ← get
  match ← peek with
  | none => return none
  | some t => match t.kind with
    | .keyword k =>
      if k.isOpaque d then
        skip
        return some (← asCommand)
      else if (statementWords d).contains k then
        skip
        return some (← statementAfter d r start k)
      else termStatement? d r
    | .sign .semicolon =>
      skip
      return some (.other "semicolon")
    | _ => termStatement? d r

/-- The first statement of a fragment. A condition without parentheses at its front is kept as a
command. -/
def firstStatement? (d : Dialect) (r : Rules) : Reader (Option Statement) := do
  let conditional ← sees fun t => t.kind == .word && t.isWord "IF"
  if conditional && !(← peekSecond).any (·.isSign .lParen) then return some (← asCommand)
  else statement? d r

end TableDoc.Sql
