import TableDoc.Sql.Operand

/-!
# Operators

Operators from the tightest to the loosest: signs, powers, products, sums, bits and texts, ranges,
comparisons, equations, conjunctions, alternatives. Operators of one level are read from the left;
each takes what binds tighter on both sides.
-/

namespace TableDoc.Sql

open Reader

/-- The operators of one level: the class and the written form of each. -/
abbrev Level := Token → Option (String × String)

/-- A term with an operator between two operands. -/
def binary (cls shown : String) (a b : Term) : Term :=
  .phrase cls ["", " " ++ shown ++ " ", ""] [a, b]

/-- One more operator of a level after a term. -/
def operatorAfter? (level : Level) (operand : Reader (Option Term)) (a : Term) :
    Reader (Option Term) := do
  match ← take? fun t => (level t).isSome with
  | none => return none
  | some t =>
    let b ← required "operand" operand
    return (level t).map fun (cls, shown) => binary cls shown a b

/-- Operands with the operators of one level between them. -/
def chain (level : Level) (operand : Reader (Option Term)) : Reader (Option Term) := do
  match ← operand with
  | some a => return some (← extend (operatorAfter? level operand) a)
  | none =>
    if ← sees fun t => (level t).isSome then fail (.missing "operand") else return none

/-- Whether a token is one of these operators. -/
def isOperator (shown : List String) (t : Token) : Bool :=
  t.isSign .otherOperator && shown.contains t.text

/-! ## Signs, powers and products -/

/-- A time zone after a term, which one dialect reads and does not write. -/
def zoneAfter? (d : Dialect) (r : Rules) (t : Term) : Reader (Option Term) := do
  if ← words ["AT", "TIME", "ZONE"] then
    let z ← required "time zone" r.unary
    return some (match d with
      | .mysql => .phrase "attimezone" ["", ""] [t]
      | .postgres => .phrase "attimezone" ["", " AT TIME ZONE ", ""] [t, z])
  else return none

/-- A negated term; two signs keep apart. -/
def negative (t : Term) : Term :=
  match t with
  | .phrase "neg" _ _ => .phrase "neg" ["- ", ""] [t]
  | t => .phrase "neg" ["-", ""] [t]

/-- An operand with its sign. -/
def unary? (d : Dialect) (r : Rules) : Reader (Option Term) := do
  if ← sign .plus then r.unary
  else if ← sign .dash then return some (negative (← required "operand" r.unary))
  else if ← accept fun t => d == .mysql && t.isSign .tilde then
    return some (.phrase "bitwisenot" ["~", ""] [← required "operand" r.unary])
  else if ← accept (isOperator ["|/"]) then
    return some (.phrase "sqrt" ["SQRT(", ")"] [← required "operand" r.unary])
  else if ← accept (isOperator ["||/"]) then
    return some (.phrase "cbrt" ["CBRT(", ")"] [← required "operand" r.unary])
  else if ← accept fun t => t.isKeyword .not || t.isSign .bang then
    return some (.phrase "not" ["NOT ", ""] [← required "operand" r.equality])
  else match ← typed? d r with
    | some t => return some (← extend (zoneAfter? d r) t)
    | none => return none

/-- Powers, in the dialect that has a sign for them. -/
def power? (d : Dialect) (r : Rules) : Reader (Option Term) :=
  match d with
  | .mysql => unary? d r
  | .postgres => chain (fun t => if t.isSign .caret then some ("pow", "^") else none) (unary? d r)

/-- The operators of products. -/
def productLevel : Level := fun t =>
  if t.isSign .star then some ("mul", "*")
  else if t.isSign .slash then some ("div", "/")
  else if t.isKeyword .div then some ("intdiv", "DIV")
  else if isOperator ["<->"] t then some ("distance", "<->")
  else if isOperator ["<<->>"] t then some ("distancend", "<<->>")
  else none

/-- One more operator of products after a term. A word for one that no operand follows is none. -/
def productAfter? (operand : Reader (Option Term)) (a : Term) : Reader (Option Term) := do
  let start ← get
  match ← take? fun t => (productLevel t).isSome with
  | none => return none
  | some t => match ← operand with
    | some b => return (productLevel t).map fun (cls, shown) => binary cls shown a b
    | none =>
      if t.isKeyword .div then
        backTo start
        return none
      else fail (.missing "operand")

/-- Products. -/
def product? (d : Dialect) (r : Rules) : Reader (Option Term) := do
  match ← power? d r with
  | none => if ← sees (·.isSign .slash) then fail (.missing "operand") else return none
  | some a => return some (← extend (productAfter? (power? d r)) a)

/-- The operators of sums, among which is the choice of a collation. -/
def sumLevel : Level := fun t =>
  if t.isSign .dash then some ("sub", "-")
  else if t.isSign .plus then some ("add", "+")
  else if t.isSign .percent || t.isSign .remainder || t.isKeyword .modulo then some ("mod", "%")
  else if t.isKeyword .collate then some ("collate", "COLLATE")
  else none

/-- Sums. -/
def sum? (d : Dialect) (r : Rules) : Reader (Option Term) := chain sumLevel (product? d r)

/-! ## Bits, ranges and comparisons -/

/-- The operators on bits and texts of a dialect. -/
def bitwiseLevel (d : Dialect) : Level := fun t =>
  if t.isSign .amp then some ("bitwiseand", "&")
  else if t.isSign .pipe then some ("bitwiseor", "|")
  else if t.isSign .caret && d == .mysql then some ("bitwisexor", "^")
  else if t.isSign .hash && d == .postgres then some ("bitwisexor", "#")
  else if t.isSign .doublePipe && d == .postgres then some ("dpipe", "||")
  else if t.isSign .doubleQuestion then some ("coalesce", "??")
  else none

/-- A shift of bits after a term. -/
def shiftAfter? (operand : Reader (Option Term)) (a : Term) : Reader (Option Term) := do
  if ← sequence [(·.isSign .lt), (·.isSign .lt)] then
    return some (binary "bitwiseleftshift" "<<" a (← required "operand" operand))
  else if ← sequence [(·.isSign .gt), (·.isSign .gt)] then
    return some (binary "bitwiserightshift" ">>" a (← required "operand" operand))
  else return none

/-- Operators on bits and texts. -/
def bitwise? (d : Dialect) (r : Rules) : Reader (Option Term) := do
  match ← sum? d r with
  | none =>
    if ← sees fun t => (bitwiseLevel d t).isSome then fail (.missing "operand") else return none
  | some a => return some (← extend (fun a => firstOf
      [operatorAfter? (bitwiseLevel d) (sum? d r) a, shiftAfter? (sum? d r) a]) a)

/-- The operators that compare a text with a pattern, or a value with a range or an array. -/
def patternLevel (d : Dialect) : Level := fun t =>
  if t.isKeyword .like || t.isSign .likeSign then some ("like", "LIKE")
  else if t.isKeyword .ilike || t.isSign .ilikeSign then some ("ilike", "ILIKE")
  else if t.isKeyword .rlike then
    some ("regexplike", if d == .mysql then "RLIKE" else "~")
  else if t.isSign .tilde && d == .postgres then some ("regexplike", "~")
  else if t.isSign .regexSign then some ("regexpilike", "~*")
  else if t.isSign .doubleAmp && d == .postgres then some ("arrayoverlaps", "&&")
  else if t.isSign .doubleAt && d == .postgres then some ("matchagainst", "@@")
  else if isOperator ["?&", "?|", "#-", "-|-", "&<", "&>", "@?"] t then some ("operator", t.text)
  else if t.isKeyword .glob || t.isSign .globSign then some ("glob", "GLOB")
  else if t.isKeyword .similarTo then some ("similarto", "SIMILAR TO")
  else if t.isKeyword .overlaps then some ("overlaps", "OVERLAPS")
  else if t.isSign .containsLeft then some ("arraycontainsall", "@>")
  else if t.isSign .containsRight then some ("arraycontainedby", "<@")
  else none

/-- A row set that is spread over rows, if one stands here. -/
def unnested? (r : Rules) : Reader (Option Term) := do
  if ← sequence [(·.isKeyword .unnest), (·.isSign .lParen)] then
    let items ← commaList r.equality
    closing
    let _ ← words ["WITH", "ORDINALITY"]
    if ← words ["WITH", "OFFSET"] then
      let _ ← keyword .asAlias
      let _ ← plainName?
    return some (.call "unnest" "UNNEST" items)
  else return none

/-- The list or the query after `IN`. -/
def inAfter (r : Rules) (a : Term) : Reader Term := do
  match ← unnested? r with
  | some u => return .framed "in" [.inr a, .inl " IN ", .inr u]
  | none =>
    let round ← sign .lParen
    if round || (← accept fun t => !round && t.isSign .lBracket) then
      let items ← commaList (queryOr? r r.disjunction)
      let items ← match items with
        | [.phrase cls f ps] =>
          if ["select", "union", "except", "intersect", "values"].contains cls then
            pure [← r.modified (.phrase cls f ps)]
          else pure items
        | _ => pure items
      if round then closing else must .rBracket "closing bracket"
      return .framed "in" ([.inr a, .inl " IN ("] ++ Term.listed items ++ [.inl ")"])
    else
      let f ← r.column
      return .framed "in" ([.inr a, .inl " IN "] ++ f.toList.map .inr)

/-- An operator between parentheses with the operand behind it. -/
def spelledOperator? (r : Rules) (a : Term) : Reader (Option Term) := do
  if ← sign .lParen then
    let ts ← many (take? (!·.isSign .rParen))
    closing
    let b ← required "operand" r.bitwise
    return some (binary "operator" ("OPERATOR(" ++ String.join (ts.map Token.text) ++ ")") a b)
  else return none

/-- What follows `IS`. -/
def isAfter? (d : Dialect) (r : Rules) (a : Term) : Reader (Option Term) := do
  let negated ← keyword .not
  let test (b : Term) : Reader (Option Term) := do
    let test := binary "is" "IS" a b
    return some (← withSuffixes d r (if negated then .phrase "not" ["NOT ", ""] [test] else test))
  if ← words ["DISTINCT", "FROM"] then
    let b ← required "operand" r.bitwise
    return some (if negated then binary "nullsafeeq" "IS NOT DISTINCT FROM" a b
      else binary "nullsafeneq" "IS DISTINCT FROM" a b)
  else if ← accept fun t => t.kind == .typeName .json then
    let form ← oneOf? ["VALUE", "SCALAR", "ARRAY", "OBJECT"]
    let _ ← oneOf? ["WITH", "WITHOUT"]
    let _ ← keyword .unique
    let _ ← word "KEYS"
    test (.word ("JSON" ++ (form.map (" " ++ ·)).getD ""))
  else match ← r.bitwise with
    | none => return none
    | some b => test b

/-- The range of values after `BETWEEN`. -/
def betweenAfter (r : Rules) (a : Term) : Reader Term := do
  let side ← oneOf? ["SYMMETRIC", "ASYMMETRIC"]
  let low ← required "lower bound" r.bitwise
  let _ ← keyword .and
  let high ← required "upper bound" r.bitwise
  let side := (side.map (· ++ " ")).getD ""
  return .phrase "between" ["", " BETWEEN " ++ side, " AND ", ""] [a, low, high]

/-- What goes through the members of a list, after the word for it. -/
def eachAfter? (r : Rules) (a : Term) : Reader (Option Term) := do
  let member ← r.column
  if ← sign .comma then
    let _ ← r.column
  if ← keyword .inList then
    let whole ← r.column
    if ← word "IF" then
      let _ ← r.disjunction
    return some (.framed "comprehension" ([.inr a, .inl " FOR "] ++ member.toList.map .inr ++
      [.inl " IN "] ++ whole.toList.map .inr))
  else return none

/-- A test after `a`, with what has to follow its word. -/
def rangeAfter? (d : Dialect) (r : Rules) (a : Term) : Reader (Option Term) := do
  match ← operatorAfter? (patternLevel d) r.bitwise a with
  | some t =>
    if ← keyword .escape then
      let e ← required "escape character" (firstOf [textLiteral?, do
        return (← take? (·.isKeyword .null)).map fun _ => .phrase "null" ["NULL"] []])
      return some (.phrase "escape" ["", " ESCAPE ", ""] [t, e])
    else return some t
  | none =>
    if ← keyword .between then return some (← betweenAfter r a)
    else if ← keyword .inList then return some (← inAfter r a)
    else if ← keyword .operator then return some ((← spelledOperator? r a).getD a)
    else if ← keyword .soundsLike then
      let b ← required "operand" r.sum
      let sound (t : Term) := Term.call "soundex" "SOUNDEX" [t]
      return some (binary "eq" "=" (sound a) (sound b))
    else if ← keyword .memberOf then
      let b ← required "list" (wrapped (r.expression d))
      return some (.framed "jsonarraycontains" [.inr a, .inl " MEMBER OF(", .inr b, .inl ")"])
    else if ← keyword .is then isAfter? d r a
    else if ← keyword .forClause then eachAfter? r a
    else return none

/-- The test for null that a single word or a negated one makes. -/
def nullTest? (negated : Bool) (a : Term) : Reader (Option Term) := do
  let test := Term.phrase "is" ["", " IS NULL"] [a]
  if ← keyword .isNull then return some test
  else if negated then
    if ← keyword .null then return some test else return none
  else return none

/-- An operand with the tests that follow it. A word for a test that then is none ends the tests;
what has been taken before it stays taken. -/
def range? (d : Dialect) (r : Rules) : Reader (Option Term) := do
  match ← bitwise? d r with
  | none => return none
  | some a =>
    let negated ← accept fun t => t.isKeyword .not || t.isSign .bang
    let start ← get
    match ← rangeAfter? d r a with
    | none =>
      if start.rest != (← get).rest then
        backTo start
        return some a
      else
        let t := (← nullTest? negated a).getD a
        some <$> rangeEnd d r negated t
    | some t => some <$> rangeEnd d r negated t
where
  /-- What may follow a first test. -/
  rangeEnd (d : Dialect) (r : Rules) (negated : Bool) (t : Term) : Reader Term := do
    let t ← do
      if ← keyword .notNull then
        pure (.phrase "not" ["NOT ", " IS NULL"] [t])
      else pure t
    let t := if negated then .phrase "not" ["NOT ", ""] [t] else t
    let place ← get
    if ← keyword .is then
      match ← isAfter? d r t with
      | some t => return t
      | none => backTo place; return t
    else return t

/-- The comparisons by order. -/
def orderLevel : Level := fun t =>
  if t.isSign .gt then some ("gt", ">")
  else if t.isSign .gte then some ("gte", ">=")
  else if t.isSign .lt then some ("lt", "<")
  else if t.isSign .lte then some ("lte", "<=")
  else none

/-- The comparisons by equality. -/
def equalLevel : Level := fun t =>
  if t.isSign .eq then some ("eq", "=")
  else if t.isSign .neq then some ("neq", "<>")
  else if t.isSign .nullSafeEq then some ("nullsafeeq", "<=>")
  else none

/-- The operators that hold when both sides do. -/
def bothLevel (d : Dialect) : Level := fun t =>
  if t.isKeyword .and then some ("and", "AND")
  else if t.isSign .doubleAmp && d == .mysql then some ("and", "AND")
  else if t.isKeyword .xor && d == .mysql then some ("xor", "XOR")
  else none

/-- The operators that hold when either side does. -/
def eitherLevel (d : Dialect) : Level := fun t =>
  if t.isKeyword .or then some ("or", "OR")
  else if t.isSign .doublePipe && d == .mysql then some ("or", "OR")
  else none

/-- Equations. -/
def equality? (d : Dialect) (r : Rules) : Reader (Option Term) :=
  chain equalLevel (chain orderLevel (range? d r))

/-- Alternatives of conditions, and at the very end an assignment. -/
def disjunction? (d : Dialect) (r : Rules) : Reader (Option Term) :=
  chain (fun t => if t.isSign .colonEq then some ("propertyeq", ":=") else none)
    (chain (eitherLevel d) (chain (bothLevel d) (equality? d r)))

end TableDoc.Sql
