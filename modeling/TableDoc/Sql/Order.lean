import TableDoc.Sql.Rules

/-!
# Orders, limits and names of results

What may follow a term or a query: the order of its rows, how many of them count, and the name that
the result is given.
-/

namespace TableDoc.Sql

open Reader

/-! ## Orders -/

/-- How gaps in an order are filled, after the words for it. -/
def filling (r : Rules) : Reader Unit := do
  if ← keyword .fromClause then
    let _ ← r.bitwise
  if ← word "TO" then
    let _ ← r.bitwise
  if ← word "STEP" then
    let _ ← r.bitwise
  if ← word "INTERPOLATE" then
    if ← sees (·.isSign .lParen) then
      let _ ← wrappedList do
        match ← anyName? with
        | none => return none
        | some n =>
          if ← keyword .asAlias then
            let _ ← r.disjunction
          return some n

/-- An item with the order in which it counts. -/
def ordered? (r : Rules) (item : Reader (Option Term)) : Reader (Option Term) := do
  match ← item with
  | none => return none
  | some t =>
    let ascending ← keyword .asc
    let descending ← keyword .desc
    let first ← words ["NULLS", "FIRST"]
    let last ← words ["NULLS", "LAST"]
    if ← words ["WITH", "FILL"] then filling r
    return some (.framed "ordered" [.inr t, .inl (if descending && !ascending then " DESC" else ""),
      .inl (if first then " NULLS FIRST" else if last then " NULLS LAST" else "")])

/-- The items of an order, if one is given. -/
def ordering? (r : Rules) : Reader (Option (List Term)) := do
  if ← keyword .orderBy then
    let items ← commaList (ordered? r r.disjunction)
    if items.isEmpty then fail (.missing "order") else return some items
  else return none

/-- A term in the order that follows it, if one is given. -/
def inOrder (r : Rules) (t : Option Term) : Reader (Option Term) := do
  match ← ordering? r with
  | none => return t
  | some items => return some (.framed "order"
      ((t.toList.map .inr) ++ [.inl " ORDER BY "] ++ Term.listed items))

/-! ## Limits -/

/-- How many rows a limit allows. A percent sign behind the number belongs to the limit. -/
def limitAmount (r : Rules) : Reader (Option Term) := do
  let start ← get
  match ← attempt r.sum with
  | some (.phrase "mod" _ _) => backTo start; r.product
  | some t => return some t
  | none => r.product

/-- What the number of a limit counts. -/
def limitOptions : Reader Unit := do
  let _ ← accept fun t => t.isKeyword .percent || t.isSign .percent || t.isSign .remainder ||
    t.isKeyword .modulo
  let _ ← accept fun t => t.isKeyword .row || t.isKeyword .rows
  let _ ← word "ONLY"
  let _ ← words ["WITH", "TIES"]

/-- The values for each of which a limit counts anew. -/
def limitGroups (r : Rules) : Reader Unit := do
  if ← word "BY" then
    let _ ← commaList r.bitwise

/-- A limit on the number of rows, if there is one, and whether it passes rows over as well. -/
def limit? (r : Rules) : Reader (Option Bool) := do
  if ← keyword .limit then
    let amount ← limitAmount r
    limitOptions
    let passes ← sign .comma
    let amount ← if passes then r.sum else pure amount
    limitGroups r
    if amount.isNone then fail (.missing "limit") else return some passes
  else if ← keyword .fetch then
    let _ ← accept fun t => t.isKeyword .first || t.isKeyword .next
    unless ← sees fun t => t.isKeyword .row || t.isKeyword .rows || t.isKeyword .percent do
      let _ ← r.product
    limitOptions
    return some false
  else return none

/-- The number of rows that are passed over; whether there is one. -/
def offset? (r : Rules) : Reader Bool := do
  if ← keyword .offset then
    let _ ← required "offset" r.sum
    let _ ← accept fun t => t.isKeyword .row || t.isKeyword .rows
    limitGroups r
    return true
  else return false

/-- Whether a word that may be a name begins a limit here. -/
def seesLimit (r : Rules) : Reader Bool := do
  if ← sees fun t => t.isKeyword .limit || t.isKeyword .offset then
    let start ← get
    let limited ← attempt (limit? r)
    backTo start
    let moved ← attempt do return if ← offset? r then some () else none
    backTo start
    return limited.isSome || moved.isSome
  else return false

/-! ## Names of results -/

/-- A text as a name. -/
def textName? : Reader (Option Term) := do
  return (← take? (·.kind == .text)).map fun t => .name ⟨t.text, true⟩

/-- A name without the word for it: a name, or in one dialect a text. -/
def looseName? (d : Dialect) : Reader (Option Term) := do
  match ← plainName? with
  | some n => return some n
  | none => match d with
    | .mysql => textName?
    | .postgres => return none

/-- A term with the names that may follow it. Without the word for it a name counts only where
`explicit` does not ask for the word. -/
def withName (d : Dialect) (r : Rules) (explicit : Bool) (t : Option Term) :
    Reader (Option Term) := do
  if ← seesLimit r then return t
  else
    let marked ← keyword .asAlias
    if explicit && !marked then return t
    else if ← sign .lParen then
      let ns ← commaList (if marked then anyName? else plainName?)
      closing
      match t with
      | none => fail (.missing "expression")
      | some t => return some (.framed "aliases"
          ([.inr t, .inl " AS ("] ++ Term.listed ns ++ [.inl ")"]))
    else
      let n ← if marked then anyName? else looseName? d
      match t, n with
      | some t, some n => return some (.framed "alias" [.inr t, .inl " AS ", .inr n])
      | none, some _ => fail (.missing "expression")
      | t, none => return t

namespace Rules

/-- An expression with the name after `AS`, if there is one. -/
def named (d : Dialect) (r : Rules) : Reader (Option Term) := do
  withName d r true (← r.disjunction)

/-- An expression, with the name it may be given. -/
def expression (d : Dialect) (r : Rules) : Reader (Option Term) := do
  withName d r false (← r.disjunction)

end Rules

end TableDoc.Sql
