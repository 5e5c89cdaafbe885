import TableDoc.Sql.Operator

/-!
# Sources

Where the rows of a query come from: tables, calls, lists of rows and queries in parentheses, each
with the name it may be given, and what joins them.
-/

namespace TableDoc.Sql

open Reader

/-! ## Tables -/

/-- One name of the names that lead to a table. -/
def tablePart? : Reader (Option Term) := firstOf [plainName?, textName?]

/-- The names behind the points after a first one; the last of them must be there. -/
def tablePathFrom (part : Reader (Option Term)) (first : Term) : Reader (List Term) := do
  let more ← many do
    if ← sign .dot then return some ((← part).getD (.word "")) else return none
  match (first :: more).getLast? with
  | some (.word "") => fail (.missing "table name")
  | _ => return first :: more

/-- The names that lead to a table. -/
def tablePath? : Reader (Option (List Term)) := do
  match ← tablePart? with
  | none =>
    if ← sees (·.isSign .dot) then some <$> tablePathFrom tablePart? (.word "empty")
    else return none
  | some n => return some (← tablePathFrom tablePart? n)

/-- The names that lead to a table, which must be there. -/
def tablePath : Reader (List Term) := required "table name" tablePath?

/-- The name of a table, the last of the names that lead to it. -/
def tableName (path : List Term) : String := (path.getLast?.map Term.label).getD ""

/-- The names that lead to a table, or a call that gives one. -/
def tableOrCall (d : Dialect) (r : Rules) : Reader (List Term) := do
  let part := firstOf [braced? (call? d r { bare := false }), tablePart?]
  match ← part with
  | some t => tablePathFrom part t
  | none =>
    if ← sees (·.isSign .dot) then tablePathFrom part (.word "empty")
    else fail (.missing "table name")

/-! ## Names of sources -/

/-- Whether a token can name a source without the word for it. -/
def canNameSource (d : Dialect) (t : Token) : Bool :=
  t.isName && match t.kind with
    | .keyword k => match k with
      | .anti | .asOf | .full | .left | .lock | .natural | .right | .semi | .window => false
      | .force | .ignore | .use => d != .mysql
      | _ => true
    | _ => true

/-- The name that a source may be given, with its columns; a token of a kind may be the name
without the word for that. -/
def sourceNameOf (r : Rules) (p : Token → Bool) : Reader (Option Term) := do
  if ← seesLimit r then return none
  else
    let marked ← keyword .asAlias
    let n ← firstOf [nameOf? (if marked then (!·.isReserved) else p), textName?]
    let start ← get
    if ← sign .lParen then
      let columns ← commaList r.parameter
      if columns.isEmpty then backTo start else closing
    return n

/-- The name that a source may be given, and its columns. -/
def sourceName (d : Dialect) (r : Rules) : Reader Unit := do
  let _ ← sourceNameOf r (canNameSource d)

/-! ## Parts of tables -/

/-- The partitions of a table that count. -/
def partitionChoice (r : Rules) : Reader Bool := do
  if (← oneOf? ["PARTITION", "SUBPARTITION"]).isSome then
    let _ ← wrappedList r.disjunction
    return true
  else return false

/-- The state of a table at a time or in a version. -/
def versionChoice (r : Rules) : Reader Unit := do
  if ← accept fun t => t.isKeyword .forTimestamp || t.isKeyword .forVersion then
    if ← accept fun t => t.isKeyword .fromClause || t.isKeyword .between then
      let _ ← r.bitwise
      let _ ← oneOf? ["TO", "AND"]
      let _ ← r.bitwise
    else if ← words ["CONTAINED", "IN"] then
      let _ ← wrappedList r.bitwise
    else unless ← keyword .all do
      let _ ← words ["AS", "OF"]
      let _ ← r.typed

/-- The part of the rows that is drawn by chance; whether there is a choice of it. -/
def sampling (r : Rules) (asClause : Bool) : Reader Bool := do
  let begins ← do
    if ← keyword .tablesample then pure true
    else if asClause then words ["USING", "SAMPLE"] else pure false
  if !begins then return false
  else
    unless (← freeWord?).isSome do
      let _ ← keyword .row
    let round ← sign .lParen
    let _ ← r.product
    if ← word "BUCKET" then
      let _ ← take? (·.kind == .number)
      let _ ← words ["OUT", "OF"]
      let _ ← take? (·.kind == .number)
      let _ ← keyword .on
      let _ ← r.field
    else
      let _ ← accept fun t => t.isKeyword .percent || t.isKeyword .rows ||
        t.isKeyword .modulo || t.isSign .percent || t.isSign .remainder
    if round then closing
    if ← sign .lParen then
      let _ ← freeWord?
      if ← sign .comma then
        let _ ← take? (·.kind == .number)
      closing
    else if (← oneOf? ["SEED", "REPEATABLE"]).isSome then
      let _ ← wrapped (take? (·.kind == .number))
    return true

/-- Hints on the indexes of a table. -/
def indexHints (d : Dialect) (r : Rules) : Reader Unit := do
  if ← sequence [(·.isKeyword .withClause), (·.isSign .lParen)] then
    let _ ← commaList (firstOf [r.call, anyVariable?])
    closing
  else
    let _ ← many do
      if ← accept fun t => d == .mysql && [Keyword.force, .ignore, .use].any t.isKeyword then
        let _ ← accept fun t => t.isKeyword .index || t.isKeyword .key
        if ← keyword .forClause then
          let _ ← anyWord?
        let _ ← wrappedList anyName?
        return some ()
      else return none

/-- A table with the columns that may be listed after it. -/
def listedTable (d : Dialect) (r : Rules) : Reader (List Term) := do
  let _ ← keyword .only
  let path ← tablePath
  let _ ← extend (bracketAfter? d r) (.word "table")
  let _ ← sign .star
  if ← sees fun t => d == .mysql && t.isKeyword .partition then
    let _ ← partitionChoice r
  let _ ← r.columns
  return path

/-! ## Sources -/

/-- One row of a list of rows, in parentheses or alone. -/
def row? (d : Dialect) (r : Rules) : Reader (Option Term) := do
  if ← sign .lParen then
    let items ← commaList (r.expression d)
    closing
    return some (.framed "tuple" ([.inl "("] ++ Term.listed items ++ [.inl ")"]))
  else r.expression d

/-- Rows that are listed one by one, with their name. -/
def rowList? (d : Dialect) (r : Rules) : Reader (Option Term) := do
  let derived ← sequence [(·.isSign .lParen), (·.isKeyword .values)]
  let plain ← do
    if derived then pure false
    else if ← word "VALUES" then pure true else words ["FORMAT", "VALUES"]
  if !derived && !plain then return none
  else
    let rows ← commaList (row? d r)
    sourceName d r
    if derived then closing
    sourceName d r
    if rows.isEmpty then fail (.missing "row")
    else return some (.framed "values" (.inl "VALUES " :: Term.listed rows))

/-- A source that may look at the sources before it, after the word for it. -/
def lateralAfter (d : Dialect) (r : Rules) (applied : Bool) : Reader Unit := do
  let q ← do
    if ← sign .lParen then
      let q ← r.source
      let q ← extend (unionAfter? r) q
      let q ← r.modified q
      closing
      pure (some q)
    else r.query
  let view ← do
    if applied then pure false
    else
      let view ← keyword .view
      let _ ← keyword .outer
      pure view
  if q.isNone then
    let part := firstOf [unnested? r, braced? (call? d r {}), plainName?]
    let first ← required "source" part
    let _ ← tablePathFrom part first
  if view then
    let _ ← plainName?
    if ← keyword .asAlias then
      let _ ← commaList anyName?
  else
    let _ ← words ["WITH", "ORDINALITY"]
    sourceName d r

/-- A source that may look at the sources before it. -/
def lateral? (d : Dialect) (r : Rules) : Reader (Option Term) := do
  let applied ← do
    if ← keywords [.cross, .apply] then pure true else keywords [.outer, .apply]
  if applied || (← accept fun t => !applied && t.isKeyword .lateral) then
    lateralAfter d r applied
    return some (.phrase "lateral" ["LATERAL"] [])
  else return none

/-- What follows the names that lead to a table. -/
def tableAfter (d : Dialect) (r : Rules) (canName : Token → Bool) : Reader Unit := do
  let _ ← extend (bracketAfter? d r) (.word "table")
  let _ ← sign .star
  if ← sees fun t => d == .mysql && t.isKeyword .partition then
    let _ ← partitionChoice r
  versionChoice r
  let _ ← sourceNameOf r canName
  let _ ← words ["NOT", "INDEXED"]
  indexHints d r
  let _ ← sampling r false
  if ← words ["WITH", "ORDINALITY"] then sourceName d r

/-- What a parenthesis, which has been taken, encloses where a source is asked for. -/
def sourceParen (d : Dialect) (r : Rules) : Reader Term := do
  let inner ← r.source
  let inner ← extend (unionAfter? r) inner
  let inner ← r.modified inner
  closing
  sourceName d r
  let _ ← sampling r false
  return .phrase "subquery" ["(", ")"] [inner]

/-- A source, where a token of a kind may name it without the word for that. -/
def sourceWith (d : Dialect) (r : Rules) (canName : Token → Bool) : Reader Term := do
  match ← firstOf [lateral? d r, spread?, rowList? d r] with
  | some t => return t
  | none =>
    if ← sign .lParen then sourceParen d r
    else match ← r.query with
      | some q => return q
      | none =>
        if ← words ["ROWS", "FROM"] then
          let _ ← wrappedList (some <$> r.source)
        else
          let _ ← keyword .only
          let _ ← tableOrCall d r
        tableAfter d r canName
        return .phrase "table" ["TABLE"] []
where
  /-- A row set that is spread over rows, with its name. -/
  spread? : Reader (Option Term) := do
    match ← unnested? r with
    | none => return none
    | some u =>
      sourceName d r
      if ← words ["WITH", "OFFSET"] then
        let _ ← keyword .asAlias
        let _ ← plainName?
      return some u

/-- A source, with its name. -/
def source (d : Dialect) (r : Rules) : Reader Term := sourceWith d r (canNameSource d)

/-! ## Joins -/

/-- The words that join two sources: the method, and the kind of rows that are kept. -/
structure JoinWords where
  byMethod : Bool
  kind : Option Keyword
deriving Repr

/-- The words that join two sources. -/
def joinWords : Reader JoinWords := do
  let byMethod ← accept fun t => t.isKeyword .asOf || t.isKeyword .natural
  let _ ← accept fun t => [Keyword.left, .right, .full].any t.isKeyword
  let kind ← take? fun t =>
    [Keyword.anti, .cross, .inner, .outer, .semi, .straightJoin].any t.isKeyword
  return ⟨byMethod, kind.bind fun t => match t.kind with
    | .keyword k => some k
    | _ => none⟩

/-- The condition that joins two sources; whether there is one. -/
def joinCondition (r : Rules) : Reader Bool := do
  if ← keyword .on then
    let _ ← required "condition" r.disjunction
    return true
  else if ← keyword .usingClause then
    if ← sees (·.isSign .lParen) then
      let _ ← wrappedList r.column
    else
      let _ ← r.column
    return true
  else return false

/-- One more source with what joins it. A comma joins as well; after a comma no source need
follow. -/
def join? (d : Dialect) (r : Rules) : Reader (Option Unit) := do
  if ← sign .comma then return (← attempt (some <$> source d r)).map fun _ => ()
  else
    let start ← get
    let ws ← joinWords
    let _ ← word "DIRECTED"
    let joined := (← keyword .join) || ws.kind == some .straightJoin
    unless joined do backTo start
    let applied ← do
      if joined then pure false
      else
        let applied := (← keywords [.cross, .apply]) || (← keywords [.outer, .apply])
        backTo start
        pure applied
    if !joined && !applied then return none
    else
      let _ ← source d r
      if !(← joinCondition r) && !ws.byMethod && !applied && ws.kind != some .cross then
        let before ← get
        let inner ← many r.join
        unless !inner.isEmpty && (← joinCondition r) do backTo before
      return some ()

end TableDoc.Sql
