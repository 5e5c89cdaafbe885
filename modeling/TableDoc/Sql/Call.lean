import TableDoc.Sql.DataType
import TableDoc.Sql.Function
import TableDoc.Sql.Order

/-!
# Arguments and windows

What stands between the parentheses of a call, and what may follow them: the order of a group, the
rows that count, and the window over which a call looks.
-/

namespace TableDoc.Sql

open Reader

/-! ## Arguments -/

/-- The names before an arrow, alone or in parentheses. -/
def arrowNames? : Reader (Option (List Term)) := do
  if ← sign .lParen then
    let ns ← commaList anyName?
    if ← sign .rParen then return some ns else return none
  else return (← anyName?).map fun n => [n]

/-- An argument that is a function of names, or that is given by name. -/
def arrow? (r : Rules) : Reader (Option Term) := orBack do
  match ← arrowNames? with
  | none => return none
  | some ns =>
    if ← sign .arrow then
      let body ← required "body" r.disjunction
      let front : List Term.Piece := match ns with
        | [n] => [.inr n]
        | ns => [.inl "("] ++ Term.listed ns ++ [.inl ")"]
      return some (.framed "lambda" (front ++ [.inl " -> ", .inr body]))
    else if ← sign .fatArrow then
      let value ← required "value" r.disjunction
      let n := (ns.head?.map Term.label).getD ""
      return some (.framed "kwarg" [.inr (.word n), .inl " => ", .inr value])
    else return none

/-- A term with the word on nulls that may follow it. -/
def withNulls (t : Option Term) : Reader (Option Term) := do
  let marked (cls shown : String) : Reader (Option Term) := do
    match t with
    | some t => return some (.framed cls [.inr t, .inl shown])
    | none => fail (.missing "expression")
  if ← words ["IGNORE", "NULLS"] then marked "ignorenulls" " IGNORE NULLS"
  else if ← words ["RESPECT", "NULLS"] then marked "respectnulls" " RESPECT NULLS"
  else return t

/-- A term with the bound on the rows of its group that may follow it. -/
def withBound (r : Rules) (t : Option Term) : Reader (Option Term) := do
  if ← keyword .having then
    let side := (← oneOf? ["MAX", "MIN"]).getD "MIN"
    let bound ← required "bound" r.typed
    match t with
    | some t => return some (.framed "havingmax"
        [.inr t, .inl (" HAVING " ++ side ++ " "), .inr bound])
    | none => fail (.missing "expression")
  else return t

/-- A term with the limit that may follow it. -/
def withLimit (r : Rules) (t : Option Term) : Reader (Option Term) := do
  match ← limit? r with
  | some _ => return some (.framed "limit" (t.toList.map .inr))
  | none => return t

/-- An operator that joins two queries. -/
def unionWord? : Reader (Option String) := do
  let found ← take? fun t => t.isKeyword .union || t.isKeyword .except || t.isKeyword .intersect
  return found.map fun t => t.capitals

/-- What a second query makes of a query. -/
def unionAfter? (r : Rules) (a : Term) : Reader (Option Term) := do
  let start ← get
  let _ ← accept fun t => t.isKeyword .asOf || t.isKeyword .natural
  let _ ← accept fun t => [Keyword.left, .right, .full].any t.isKeyword
  let _ ← accept fun t =>
    [Keyword.anti, .cross, .inner, .outer, .semi, .straightJoin].any t.isKeyword
  match ← unionWord? with
  | none => backTo start; return none
  | some w =>
    let all ← do
      if ← keyword .distinct then pure false else keyword .all
    let byName ← do
      if ← words ["BY", "NAME"] then pure true else words ["STRICT", "CORRESPONDING"]
    let byName := (← word "CORRESPONDING") || byName
    if byName then
      if ← accept fun t => t.isKeyword .on || t.isWord "BY" then
        let _ ← wrappedList r.typed
    let b ← required "query" r.nested
    return some (.framed (Text.lower w)
      [.inr a, .inl (" " ++ w ++ (if all then " ALL " else " ")), .inr b])

/-- A query, or an expression with the name it may be given. -/
def queryOr? (r : Rules) (expression : Reader (Option Term)) : Reader (Option Term) := do
  match ← r.query with
  | some q => return some q
  | none => match ← expression with
    | some t => return some (← extend (unionAfter? r) t)
    | none => return none

/-- An argument of a call. -/
def argument? (d : Dialect) (r : Rules) (mayName : Bool) : Reader (Option Term) := do
  match ← arrow? r with
  | some t => return some t
  | none =>
    let t ← do
      if ← keyword .distinct then
        let ts ← commaList r.disjunction
        pure (some (Term.framed "distinct" (.inl "DISTINCT " :: Term.listed ts)))
      else queryOr? r (if mayName then r.named d else r.disjunction)
    withNulls t >>= withBound r >>= inOrder r >>= withNulls >>= withLimit r

/-! ## Windows -/

/-- Words that name a window but never do so inside its parentheses. -/
def opensFrame (t : Token) : Bool := t.isKeyword .rows || t.kind == .typeName .range

/-- One end of the rows that a window holds. -/
def windowEnd (r : Rules) : Reader Unit := do
  unless ← word "UNBOUNDED" do
    unless ← words ["CURRENT", "ROW"] do
      let _ ← r.bitwise
  let _ ← oneOf? ["PRECEDING", "FOLLOWING"]

/-- The rows that a window holds. -/
def windowFrame (r : Rules) : Reader Unit := do
  if ← accept fun t => opensFrame t || t.isWord "GROUPS" then
    let _ ← keyword .between
    windowEnd r
    if ← keyword .and then windowEnd r
    if ← word "EXCLUDE" then
      for ws in [["NO", "OTHERS"], ["CURRENT", "ROW"], ["GROUP"], ["TIES"]] do
        if ← words ws then return
      fail (.expected "rows")

/-- What a window is cut by, if it is cut. -/
def partitions (r : Rules) : Reader (List Term) := do
  if ← keyword .partitionBy then commaList r.disjunction else return []

/-- The inside of a window after its parenthesis, up to and with the end. -/
def windowBody (r : Rules) : Reader (List Term.Piece) := do
  let n ← nameOf? fun t => t.isName && !opensFrame t
  let _ ← keyword .first
  let _ ← word "LAST"
  let cut ← partitions r
  let order ← ordering? r
  windowFrame r
  closing
  return Term.joined " " <|
    (n.toList.map fun n => [.inr n]) ++
    (if cut.isEmpty then [] else [.inl "PARTITION BY " :: Term.listed cut]) ++
    (order.toList.map fun items => .inl "ORDER BY " :: Term.listed items)

/-- A window after the word for it: a name, or a body in parentheses. -/
def windowAfter (r : Rules) (t : Term) : Reader Term := do
  if ← sign .lParen then
    let body ← windowBody r
    return .framed "window" ([.inr t, .inl " OVER ("] ++ body ++ [.inl ")"])
  else
    let n ← plainName?
    return .framed "window" ([.inr t, .inl " OVER "] ++ n.toList.map .inr)

/-- A call with the group, the rows and the window that may follow it. -/
def withWindow (r : Rules) (t : Term) : Reader Term := do
  let t ← do
    if ← words ["WITHIN", "GROUP"] then
      let order ← wrapped (ordering? r)
      let body := match order with
        | some items => .inl "ORDER BY " :: Term.listed items
        | none => []
      pure (Term.framed "withingroup" ([.inr t, .inl " WITHIN GROUP ("] ++ body ++ [.inl ")"]))
    else pure t
  let t ← do
    if ← sequence [(·.isKeyword .filter), (·.isSign .lParen)] then
      let _ ← keyword .whereClause
      let condition ← required "condition" r.disjunction
      closing
      pure (Term.framed "filter"
        [.inr t, .inl " FILTER(WHERE ", .inr condition, .inl ")"])
    else pure t
  let t := (← withNulls (some t)).getD t
  let t ← do
    if ← keyword .overClause then windowAfter r t else pure t
  extend (fun t => do
    if ← keyword .overClause then return some (← windowAfter r t) else return none) t

end TableDoc.Sql
