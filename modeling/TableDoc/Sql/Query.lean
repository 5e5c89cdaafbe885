import TableDoc.Sql.Source

/-!
# Queries

A query is read for its extent and its class. It is a selection, a list of rows or a whole table,
alone or in parentheses, with clauses behind it, joined to other queries, and behind queries that
it names.
-/

namespace TableDoc.Sql

open Reader

/-! ## Groups -/

/-- A choice of groups that stands for many, after the word `WITH` or with its own columns. -/
def groupMany? (r : Rules) (marked : Bool) : Reader Bool := do
  if ← accept fun t => t.isKeyword .cube || t.isKeyword .rollup then
    unless marked do
      let _ ← wrappedList r.bitwise
    return true
  else return false

/-- The sets of columns after the words for them, nested at most so deep. -/
def groupSets? (r : Rules) : Nat → Reader Bool
  | 0 => fail .tooDeep
  | depth + 1 => do
    if ← keyword .groupingSets then
      let _ ← wrappedList do
        if ← groupSets? r depth then return some ()
        else if ← groupMany? r false then return some ()
        else return (← r.bitwise).map fun _ => ()
      return true
    else return false

/-- Some of what rows are grouped by; `none` where nothing more of it follows. -/
def groupPart? (r : Rules) : Reader (Option Unit) := do
  let start := (← get).rest.length
  let _ ← commaList do
    if ← sees fun t => t.isKeyword .cube || t.isKeyword .rollup then return none
    else r.disjunction
  let before ← get
  let marked ← keyword .withClause
  unless ← groupMany? r marked do
    unless ← groupSets? r (before.rest.length + 1) do
      let _ ← word "TOTALS"
  let after := (← get).rest.length
  if before.rest.length ≤ after + 1 then
    backTo before
    return none
  else return if start == after then none else some ()

/-! ## Clauses -/

/-- A lock on the rows that a query reads. -/
def lock? (d : Dialect) (r : Rules) : Reader (Option Unit) := do
  if ← anyWords [["FOR", "UPDATE"], ["FOR", "SHARE"], ["LOCK", "IN", "SHARE", "MODE"],
      ["FOR", "KEY", "SHARE"], ["FOR", "NO", "KEY", "UPDATE"]] then
    if ← word "OF" then
      let _ ← commaList (some <$> listedTable d r)
    unless ← word "NOWAIT" do
      if ← word "WAIT" then
        let _ ← primary? d r
      else
        let _ ← words ["SKIP", "LOCKED"]
    return some ()
  else return none

/-- A window that a query names. -/
def namedWindow? (r : Rules) : Reader (Option Term) := do
  let n ← required "window" anyName?
  let _ ← keyword .asAlias
  return some (← windowAfter r n)

/-- How rows lead to each other, from the rows to start with or after the words for it. -/
def hierarchy (r : Rules) (started : Bool) : Reader Unit := do
  if started then
    let _ ← required "condition" r.disjunction
    let _ ← keyword .connectBy
  let _ ← word "NOCYCLE"
  let _ ← word "PRIOR"
  let _ ← required "condition" r.disjunction
  if !started && (← keyword .startWith) then
    let _ ← required "condition" r.disjunction

/-- The words of the clauses that may follow the sources of a query. -/
def clauseWords : List Keyword :=
  [.whereClause, .having, .qualify, .groupBy, .window, .orderBy, .limit, .fetch, .offset,
   .forClause, .lock, .tablesample, .usingClause, .clusterBy, .distributeBy, .sortBy, .connectBy,
   .startWith]

/-- Whether a token is the word of a clause. -/
def opensClause (t : Token) : Bool := clauseWords.any t.isKeyword

/-- A clause that begins with a word, the next token, and the words under which it counts; without
such a word there is no clause. -/
def clauseOf (d : Dialect) (r : Rules) (k : Keyword) : Reader (List Keyword) := do
  match k with
  | .whereClause | .having | .qualify =>
    skip
    let _ ← required "condition" r.disjunction
    return [k]
  | .groupBy =>
    skip
    let _ ← accept fun t => t.isKeyword .all || t.isKeyword .distinct
    unless ← sees opensClause do
      let _ ← many (groupPart? r)
    return [k]
  | .window =>
    skip
    let _ ← commaList (namedWindow? r)
    return [k]
  | .orderBy => return if (← ordering? r).isSome then [k] else []
  | .limit | .fetch =>
    return match ← limit? r with
      | some true => [.limit, .offset]
      | some false => [.limit]
      | none => []
  | .offset => return if ← offset? r then [k] else []
  | .forClause | .lock => return if (← many (lock? d r)).isEmpty then [] else [.lock]
  | .tablesample | .usingClause => return if ← sampling r true then [.tablesample] else []
  | .clusterBy | .distributeBy | .sortBy =>
    skip
    let _ ← commaList (ordered? r r.disjunction)
    return [k]
  | .connectBy | .startWith =>
    skip
    hierarchy r (k == .startWith)
    return [.connectBy]
  | _ => return []

/-- One more clause after those that were given; no clause may be given twice. -/
def moreClauses? (d : Dialect) (r : Rules) (given : List Keyword) :
    Reader (Option (List Keyword)) := do
  match (← peek).map Token.kind with
  | some (.keyword k) => match ← clauseOf d r k with
    | [] => return none
    | ks =>
      if ks.any given.contains then fail (.expected "another clause")
      else return some (given ++ ks)
  | _ => return none

/-- Whether clauses may follow a term of a class. -/
def takesClauses (cls : String) : Bool :=
  ["select", "union", "except", "intersect", "subquery", "table", "values"].contains cls

/-- A query or a table with what is joined to it and the clauses that follow it. The term shows
that something follows, and no more of it. -/
def modified (d : Dialect) (r : Rules) (t : Term) : Reader Term := do
  if !takesClauses t.className then return t
  else
    let joins ← many (join? d r)
    let laterals ← many (lateral? d r)
    let clauses ← extend (moreClauses? d r) []
    if joins.isEmpty && laterals.isEmpty && clauses.isEmpty then return t
    else return match t with
      | .phrase cls frame parts =>
        .phrase cls (frame.dropLast ++ [frame.getLastD "" ++ " …"]) parts
      | t => t

/-! ## Selections -/

/-- Words on how a selection is carried out. -/
def selectionHints (d : Dialect) : Reader Unit := do
  if d == .mysql then
    let _ ← many (oneOf? ["HIGH_PRIORITY", "STRAIGHT_JOIN", "SQL_SMALL_RESULT", "SQL_BIG_RESULT",
      "SQL_BUFFER_RESULT", "SQL_NO_CACHE", "SQL_CALC_FOUND_ROWS"])

/-- The sources of a selection, where they stand. -/
def sources? (d : Dialect) (r : Rules) : Reader (Option Unit) := do
  if ← keyword .fromClause then
    let _ ← source d r
    return some ()
  else return none

/-- A selection after its first word; `sourced` tells whether its sources have been given. -/
def selection (d : Dialect) (r : Rules) (sourced : Bool) : Reader Term := do
  let alone := (← peekSecond).all (·.isSign .dot)
  let all ← accept fun t => !alone && t.isKeyword .all
  let distinct ← accept fun t => !alone && t.isKeyword .distinct
  if ← keyword .asAlias then
    let _ ← oneOf? ["STRUCT", "VALUE"]
  if distinct && (← keyword .on) then
    let _ ← row? d r
  selectionHints d
  let items ← commaList (r.expression d)
  if all && distinct then fail (.expected "ALL or DISTINCT")
  if ← keyword .into then
    let _ ← keyword .temporary
    let _ ← word "UNLOGGED"
    let _ ← keyword .table
    let _ ← listedTable d r
  unless sourced do
    let _ ← sources? d r
  modified d r (.framed "select" (.inl "SELECT " :: Term.listed items))

/-! ## Named queries -/

/-- A query with its name, before the main query. -/
def namedQuery (r : Rules) : Reader Unit := do
  let _ ← required "name" (sourceNameOf r (·.isName))
  if ← words ["USING", "KEY"] then
    let _ ← wrappedList anyName?
  unless ← keyword .asAlias do fail (.expected "AS")
  unless ← words ["NOT", "MATERIALIZED"] do
    let _ ← word "MATERIALIZED"
  let _ ← wrapped (required "query" r.statement)

/-- How a recursive query is searched. -/
def searchOrder : Reader Unit := do
  let _ ← word "SEARCH"
  if (← oneOf? ["BREADTH", "DEPTH", "CYCLE"]).isSome then
    let _ ← words ["FIRST", "BY"]
    let _ ← required "column" anyName?
    unless ← word "SET" do fail (.expected "SET")
    let _ ← required "column" anyName?
    if ← word "USING" then
      let _ ← anyName?

/-- A query without the parentheses that enclose nothing else. -/
def unwrapped : Term → Term
  | .phrase "subquery" ["(", ")"] [t] => unwrapped t
  | t => t

/-- Whether named queries may stand before a statement of a class. -/
def followsNames (cls : String) : Bool :=
  ["select", "union", "except", "intersect", "subquery", "insert", "update", "delete", "merge",
    "create"].contains cls

/-- Named queries and the statement behind them, after the word for them. -/
def namedQueries (r : Rules) : Reader Term := do
  let _ ← keyword .recursive
  namedQuery r
  let _ ← many do
    let comma ← sign .comma
    if (← keyword .withClause) || comma then
      namedQuery r
      return some ()
    else return none
  searchOrder
  let t := unwrapped (← required "statement" r.statement)
  if followsNames t.className then return t else fail (.expected "query")

/-! ## Queries -/

/-- A whole table as a query. -/
def wholeTable? (d : Dialect) (r : Rules) : Reader (Option Term) := do
  if !((← peekSecond).any (·.isName)) then return none
  else if ← keyword .table then
    let _ ← source d r
    return some (← modified d r (.phrase "select" ["TABLE"] []))
  else return none

/-- A query that stands without parentheses and is joined to no other. -/
def plainQuery? (d : Dialect) (r : Rules) : Reader (Option Term) := do
  if ← keyword .withClause then return some (← namedQueries r)
  else
    let sourced := (← sources? d r).isSome
    if sourced then
      let _ ← many (join? d r)
    if ← keyword .select then return some (← selection d r sourced)
    else if ← sees (·.isKeyword .values) then rowList? d r
    else if sourced then return some (← modified d r (.phrase "select" ["SELECT *"] []))
    else if ← sees (·.isKeyword .describe) then r.statement
    else wholeTable? d r

/-- A query that may stand in parentheses, and then may be named; it is joined to no other. -/
def nestedQuery? (d : Dialect) (r : Rules) (mayName : Bool) : Reader (Option Term) := do
  if ← sign .lParen then
    let inner ← r.nested
    let inner ← match inner with
      | none => pure none
      | some q => some <$> (extend (unionAfter? r) q >>= modified d r)
    closing
    match inner with
    | none => return none
    | some q =>
      let n ← if mayName then sourceNameOf r (canNameSource d) else pure none
      let _ ← sampling r false
      return some (.framed "subquery" ([.inl "(", .inr q, .inl ")"] ++
        n.toList.flatMap fun n => [.inl " AS ", .inr n]))
  else plainQuery? d r

/-- A query. -/
def query? (d : Dialect) (r : Rules) : Reader (Option Term) := do
  let named ← sees (·.isKeyword .withClause)
  match ← plainQuery? d r with
  | none => return none
  | some q => if named then return some q else return some (← extend (unionAfter? r) q)

/-- A query that gives the rows of a table: it may stand in parentheses. -/
def rowQuery? (d : Dialect) (r : Rules) : Reader (Option Term) := do
  match ← nestedQuery? d r false with
  | none => return none
  | some q => return some (← extend (unionAfter? r) q >>= modified d r)

end TableDoc.Sql
