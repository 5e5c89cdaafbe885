import TableDoc.Sql.CallForm

/-!
# Operands

What stands between operators: literals, calls, names and columns, parentheses, and what follows
them closely, such as a subscript, a point or a cast.
-/

namespace TableDoc.Sql

open Reader

/-! ## Calls -/

/-- A call of the first of some functions that takes the arguments. -/
def knownCall (d : Dialect) (fs : List Function) (args : List Term) : Reader Term :=
  match fs.find? (·.takes args) with
  | some f => return match f.style d with
    | .call shown => .call f.cls shown args
    | .bare shown => .phrase f.cls [shown] []
  | none => fail (.argumentCount ((fs.head?.map Function.cls).getD ""))

/-- A condition with what holds under it, in a `CASE`. -/
def caseBranch? (r : Rules) : Reader (Option Term) := do
  if ← keyword .whenBranch then
    let condition ← required "condition" r.disjunction
    let _ ← keyword .thenBranch
    let value ← required "value" r.disjunction
    return some (.phrase "if" ["WHEN ", " THEN ", ""] [condition, value])
  else return none

/-- A `CASE` after its word. -/
def caseTerm (r : Rules) : Reader Term := do
  let subject ← r.disjunction
  let branches ← many (caseBranch? r)
  if branches.isEmpty then fail (.missing "branch")
  else
    let default ← do
      if ← keyword .elseBranch then r.disjunction else pure none
    unless ← keyword .endBlock do
      fail (.expected "END")
    return .framed "case" ([.inl "CASE"] ++
      ((subject.toList ++ branches).flatMap fun t => [.inl " ", .inr t]) ++
      (default.toList.flatMap fun t => [.inl " ELSE ", .inr t]) ++ [.inl " END"])

/-- An `IF` after its word: a call, or a condition with its two values. -/
def ifTerm? (d : Dialect) (r : Rules) : Reader (Option Term) := do
  if ← sign .lParen then
    let args ← commaList (r.named d)
    closing
    if args.length < 2 || 3 < args.length then fail (.argumentCount "if")
    else return some (.call "if" "IF" args)
  else match ← r.disjunction with
    | none => return none
    | some condition =>
      let _ ← keyword .thenBranch
      let value ← required "value" r.disjunction
      let other ← do
        if ← keyword .elseBranch then r.disjunction else pure none
      let _ ← keyword .endBlock
      return some (.call "if" "IF" (condition :: value :: other.toList))

/-- A function that is written without parentheses. -/
def bareFunction? (d : Dialect) (t : Token) : Option Term :=
  match t.kind with
  | .keyword .currentTimestamp => match Function.currentTimestamp.style d with
    | .call shown => some (.phrase "currenttimestamp" [shown ++ "()"] [])
    | .bare shown => some (.phrase "currenttimestamp" [shown] [])
  | .keyword .currentDate => some (.phrase "currentdate" ["CURRENT_DATE"] [])
  | .keyword .currentTime => some (.phrase "currenttime" ["CURRENT_TIME"] [])
  | .keyword .currentUser => match Function.currentUser.style d with
    | .call shown => some (.phrase "currentuser" [shown ++ "()"] [])
    | .bare shown => some (.phrase "currentuser" [shown] [])
  | .keyword .localTime => some (.phrase "localtime" ["LOCALTIME"] [])
  | .keyword .localTimestamp => some (.phrase "localtimestamp" ["LOCALTIMESTAMP"] [])
  | .keyword .sessionUser => some (.phrase "sessionuser" ["SESSION_USER"] [])
  | .keyword .currentCatalog => some (.phrase "currentcatalog" ["CURRENT_CATALOG"] [])
  | .keyword .currentSchema => match d with
    | .postgres => some (.phrase "currentschema" ["CURRENT_SCHEMA"] [])
    | .mysql => none
  | _ => none

/-- The word for a test of a query, whose argument may be a query alone. -/
def queryTest? (t : Token) : Option String :=
  match t.kind with
  | .keyword .all => some "all"
  | .keyword .any | .keyword .some => some "any"
  | .keyword .existsTest => some "exists"
  | _ => none

/-- Whether a query may begin here. -/
def seesQuery : Reader Bool :=
  sees fun t => t.isKeyword .select || t.isKeyword .withClause || t.isKeyword .fromClause

/-- Where a call is read. -/
structure CallPlace where
  /-- Whether every word may name a function. -/
  anyWord : Bool := false
  /-- Whether no function has a class or words of its own. -/
  plain : Bool := false
  /-- Whether a function may stand without parentheses. -/
  bare : Bool := true
deriving Repr

/-- Calls whose inside has words of its own, by name in capitals. -/
def specialBody? (d : Dialect) (r : Rules) (name : String) : Option (Reader Term) :=
  match name with
  | "CAST" => some (castBody "cast" d r)
  | "TRY_CAST" | "SAFE_CAST" => some (castBody "trycast" d r)
  | "CONVERT" => some (convertBody "cast" d r)
  | "TRY_CONVERT" => some (convertBody "trycast" d r)
  | "CEIL" | "FLOOR" => some (roundingBody d r (Text.lower name))
  | "CHAR" | "CHR" => some (charBody r)
  | "DECODE" => some (decodeBody r)
  | "EXTRACT" => some (extractBody r r.call)
  | "JSON_OBJECT" => some (objectBody r "jsonobject" name r.column)
  | "JSON_OBJECTAGG" => some (objectBody r "jsonobjectagg" name r.column)
  | "JSON_TABLE" => some (documentTableBody r)
  | "MATCH" => some (matchBody r)
  | "NORMALIZE" => some (normalizeBody r)
  | "OVERLAY" => some (overlayBody r)
  | "POSITION" => some (positionBody d r)
  | "STRING_AGG" => some (stringGroupBody r)
  | "SUBSTRING" => some (substringBody r)
  | "TRIM" => some (trimBody r)
  | "XMLELEMENT" => some (elementBody r)
  | "XMLTABLE" => some (elementTableBody r)
  | name => match d, name with
    | .mysql, "GROUP_CONCAT" => some (groupTextBody d r r.field)
    | .mysql, "JSON_VALUE" => some (documentValueBody r)
    | .mysql, "SUBSTR" => some (substringBody r)
    | .mysql, "VALUES" => some do
      let n ← anyName?
      return .anonymous ⟨"VALUES", false⟩ n.toList
    | .postgres, "DATE_PART" => some (datePartBody r)
    | .postgres, "JSON_AGG" => some (documentGroupBody d r)
    | .postgres, "JSONB_EXISTS" => some (documentTestBody r)
    | _, _ => none

/-- The arguments and the end of a call of the function named by a token; `afterLike` tells whether
a pattern is asked for. -/
def callAfter (d : Dialect) (r : Rules) (plain afterLike : Bool) (t : Token) : Reader Term := do
  match if plain then none else specialBody? d r t.capitals with
  | some body =>
    let c ← body
    closing
    withWindow r c
  | none =>
    match queryTest? t, ← seesQuery, afterLike with
    | some cls, true, _ =>
      let q ← required "query" r.query
      closing
      return .phrase cls [t.capitals ++ "(", ")"] [q]
    | some cls, false, true =>
      let items ← commaList (r.expression d)
      closing
      return .framed cls ([.inl (t.capitals ++ " (")] ++ Term.listed items ++ [.inl ")"])
    | _, _, _ =>
      let fs := if plain then [] else Function.ofName d t.capitals
      let args ← commaList (argument? d r (fs.isEmpty || t.capitals == "STRUCT"))
      let c ← if fs.isEmpty then pure (.anonymous ⟨t.text, t.kind == .quotedName⟩ args)
        else knownCall d fs args
      closing
      withWindow r c

/-- A function whose word alone begins it, after the word; `none` where the word is a name. -/
def wordFunction? (d : Dialect) (r : Rules) (word : String) :
    Option (Reader (Option Term)) :=
  match word with
  | "CASE" => some do
    if ← sees (·.isSign .dot) then return none else return some (← caseTerm r)
  | "IF" => some (ifTerm? d r)
  | "ANY" => some do
    let inner ← required "expression" r.bitwise
    return some (.phrase "any" ["ANY ", ""] [inner])
  | "CONNECT_BY_ROOT" => some do
    let inner ← required "column" r.column
    return some (.phrase "connectbyroot" ["CONNECT_BY_ROOT ", ""] [inner])
  | "NEXT" => some do
    if ← words ["VALUE", "FOR"] then
      let n ← required "sequence" r.column
      if ← keyword .overClause then
        let _ ← wrapped (ordering? r)
      return some (.phrase "nextvaluefor" ["NEXT VALUE FOR ", ""] [n])
    else return none
  | "VARIADIC" => if d == .postgres then some do
      let inner ← required "expression" r.bitwise
      return some (.phrase "variadic" ["VARIADIC ", ""] [inner])
    else none
  | _ => none

/-- A call at a place. -/
def call? (d : Dialect) (r : Rules) (place : CallPlace) :
    Reader (Option Term) := do
  let start ← get
  match ← peek with
  | none => return none
  | some t =>
    let own := if place.bare && !t.isQuoted then wordFunction? d r t.capitals else none
    match own with
    | some body =>
      skip
      match ← body with
      | some c => return some (← withWindow r c)
      | none => backTo start; return none
    | none =>
      if !((← peekSecond).any (·.isSign .lParen)) then
        match if place.bare then bareFunction? d t else none with
        | some f => skip; return some f
        | none => return none
      else if (if place.anyWord then t.isReserved else !t.isCallable d) then return none
      else
        let afterLike := start.prev.any fun u => u.isKeyword .like || u.isKeyword .ilike
        skip
        skip
        return some (← callAfter d r place.plain afterLike t)

/-- A call that may stand between braces, after the word for it. -/
def braced? (call : Reader (Option Term)) : Reader (Option Term) := do
  let braces ← sequence [(·.isSign .lBrace), (·.isWord "FN")]
  let c ← call
  if braces then
    let _ ← sign .rBrace
  return c

/-! ## Parentheses -/

/-- What an opening parenthesis, which has been taken, encloses. -/
def parenBody (d : Dialect) (r : Rules) : Reader Term := do
  match ← r.query with
  | some q =>
    let q ← r.modified q
    closing
    let joined := ["select", "union", "except", "intersect"].contains q.className
    return .phrase (if joined then "subquery" else "paren") ["(", ")"] [q]
  | none =>
    let items ← commaList (r.expression d)
    let trailing := (← last).any (·.isSign .comma)
    let tuple := Term.framed "tuple" ([.inl "("] ++ Term.listed items ++ [.inl ")"])
    match items with
    | [] =>
      if ← sign .rParen then return .phrase "tuple" ["()"] []
      else if trailing then closing; return tuple
      else fail (.missing "expression")
    | [.phrase "subquery" f ps] =>
      let q ← r.modified (.phrase "subquery" f ps)
      let q ← extend (unionAfter? r) q >>= r.modified
      closing
      return .phrase "subquery" ["(", ")"] [q]
    | [t] =>
      closing
      if trailing then return tuple else withWindow r (.phrase "paren" ["(", ")"] [t])
    | _ => closing; return tuple

/-! ## Literals -/

/-- The columns that a star leaves out, replaces or renames. -/
def starParts (d : Dialect) (r : Rules) : Reader Unit := do
  for ws in [["EXCEPT", "EXCLUDE"], ["REPLACE"], ["RENAME"]] do
    if (← oneOf? ws).isSome then
      if ← sees (·.isSign .lParen) then
        let _ ← wrappedList (r.expression d)
      else
        let _ ← r.named d

/-- A literal or what stands in parentheses. -/
def primary? (d : Dialect) (r : Rules) : Reader (Option Term) := do
  match ← literal? d with
  | some (.phrase "star" f ps) =>
    starParts d r
    return some (.phrase "star" f ps)
  | some t => return some t
  | none =>
    if ← sign .lParen then return some (← parenBody d r) else return none

/-- A literal, a call or a name; `anyWord` says whether keywords are names as well. -/
def field? (d : Dialect) (r : Rules) (anyWord : Bool) :
    Reader (Option Term) :=
  firstOf [primary? d r, braced? (call? d r { anyWord := anyWord }),
    if anyWord then anyName? else plainName?]

/-! ## What follows closely -/

/-- An array of the items. -/
def arrayOf (d : Dialect) (items : List Term) : Term :=
  match d with
  | .mysql => .call "array" "ARRAY" items
  | .postgres => .framed "array" ([.inl "ARRAY["] ++ Term.listed items ++ [.inl "]"])

/-- One item between brackets, or a range of them. -/
def subscript? (d : Dialect) (r : Rules) : Reader (Option Term) := do
  let first ← r.named d
  if ← sign .colon then
    let last ← do
      if ← sequence [(·.isSign .dash), (·.isSign .colon)] then pure none else r.disjunction
    if ← sign .colon then
      let _ ← r.unary
    return some (.framed "slice"
      ((first.toList.map .inr) ++ [.inl ":"] ++ last.toList.map .inr))
  else return first

/-- A date or time between braces, after the brace that opens. -/
def bracedTime? : Reader (Option Term) := do
  match ← take? fun t => t.kind == .word && ["D", "T", "TS"].contains t.capitals with
  | none => return none
  | some t =>
    let text ← required "text" textLiteral?
    must .rBrace "closing brace"
    let (cls, shown) := match t.capitals with
      | "D" => ("date", "DATE(")
      | "T" => ("time", "TIME(")
      | _ => ("timestamp", "TIMESTAMP(")
    return some (.phrase cls [shown, ")"] [text])

/-- What stands between braces, after the brace that opens. -/
def braceBody (d : Dialect) (r : Rules) : Reader Term := do
  match ← bracedTime? with
  | some t => return t
  | none =>
    let items ← commaList (subscript? d r)
    must .rBrace "closing brace"
    return .call "struct" "STRUCT" items

/-- What an opening bracket or brace after a term makes of it. -/
def bracketAfter? (d : Dialect) (r : Rules) (t : Term) : Reader (Option Term) := do
  if ← sign .lBracket then
    let items ← commaList (subscript? d r)
    must .rBracket "closing bracket"
    if ["ARRAY", "LIST"].contains (Text.upper t.label) then return some (arrayOf d items)
    else return some (.framed "bracket" ([.inr t, .inl "["] ++ Term.listed items ++ [.inl "]"]))
  else if ← sign .lBrace then return some (← braceBody d r)
  else return none

/-- A column as the path that leads to it. -/
def asPath (t : Term) : Term :=
  match t with
  | .column qs last => (qs ++ [last]).tail.foldl (fun a b => .phrase "dot" ["", ".", ""] [a, b])
    (qs.headD last)
  | t => t

/-- What a point after a term makes of it. -/
def pointAfter? (d : Dialect) (r : Rules) (t : Term) : Reader (Option Term) := do
  if ← sign .dot then
    match ← call? d r { anyWord := true, plain := true } with
    | some f => return some (.phrase "dot" ["", ".", ""] [asPath t, f])
    | none =>
      let f ← required "name" (firstOf [primary? d r, anyName?])
      match t with
      | .column qs last =>
        if qs.length < 3 then return some (.column (qs ++ [last]) f)
        else return some (.phrase "dot" ["", ".", ""] [t, f])
      | t => return some (.phrase "dot" ["", ".", ""] [t, f])
  else return none

/-- What a cast after a term makes of it. -/
def castAfter? (d : Dialect) (r : Rules) (t : Term) : Reader (Option Term) := do
  if ← sign .doubleColon then
    let type ← required "type" (r.types {})
    return some (castOf d t type)
  else return none

/-- The operators that take a part out of a document. -/
def extraction? (t : Token) : Option String :=
  if t.isSign .arrow then some "jsonextract"
  else if t.isSign .doubleArrow then some "jsonextractscalar"
  else if t.isSign .hashArrow then some "jsonbextract"
  else if t.isSign .doubleHashArrow then some "jsonbextractscalar"
  else if t.isSign .question then some "jsonbcontains"
  else none

/-- A name as a column, and any other term as it is. -/
def asColumn (t : Term) : Term :=
  match t with
  | .name n => .column [] (.name n)
  | t => t

/-- What an operator for a part of a document makes of a term. -/
def extractionAfter? (d : Dialect) (r : Rules) (t : Term) :
    Reader (Option Term) := do
  match ← take? fun u => (extraction? u).isSome with
  | none => return none
  | some u =>
    let f ← required "path" (firstOf [field? d r false, r.bitwise])
    let f ← match f with
      | .name n => extend (fun t => firstOf [pointAfter? d r t, bracketAfter? d r t,
          castAfter? d r t]) (.column [] (.name n))
      | f => pure f
    return some (.phrase ((extraction? u).getD "") ["", " " ++ u.text ++ " ", ""] [t, f])

/-- A term with everything that follows it closely. -/
def withSuffixes (d : Dialect) (r : Rules) (t : Term) : Reader Term :=
  extend (fun t => firstOf [bracketAfter? d r t, pointAfter? d r t, castAfter? d r t,
    extractionAfter? d r t]) t

/-- The word `VALUES` as a column, in the dialect where a parenthesis has to follow it otherwise. -/
def valuesName? (d : Dialect) : Reader (Option Term) := do
  if d == .postgres && !((← peekSecond).any (·.isSign .lParen)) then
    return (← take? (·.isKeyword .values)).map fun t => .name ⟨t.text, false⟩
  else return none

/-- A column, a literal or a call, with everything that follows it closely. -/
def column? (d : Dialect) (r : Rules) : Reader (Option Term) := do
  match ← firstOf [field? d r false, valuesName? d] with
  | some t => return some (← withSuffixes d r (asColumn t))
  | none =>
    if ← sign .lBracket then
      let items ← commaList (subscript? d r)
      must .rBracket "closing bracket"
      return some (← withSuffixes d r (arrayOf d items))
    else if ← sign .lBrace then return some (← withSuffixes d r (← braceBody d r))
    else return none

/-! ## Intervals -/

/-- A number with letters after it at the front of a text, and what is left. -/
def countedUnitAt? (cs : List Char) : Option (String × String × List Char) :=
  let (mark, cs) := match cs.dropWhile Text.isBlank with
    | '-' :: rest => (['-'], rest)
    | rest => ([], rest)
  let whole := cs.takeWhile Char.isDigit
  let (part, cs) := match cs.dropWhile Char.isDigit with
    | '.' :: rest => ('.' :: rest.takeWhile Char.isDigit, rest.dropWhile Char.isDigit)
    | rest => ([], rest)
  let cs := cs.dropWhile Text.isBlank
  let unit := cs.takeWhile Char.isAlpha
  if whole.isEmpty || part == ['.'] || unit.isEmpty then none
  else some (String.ofList (mark ++ whole ++ part), Text.upper (String.ofList unit),
    cs.dropWhile Char.isAlpha)

/-- The first number with letters after it in a text, and what is left after them. -/
def countedUnit? : List Char → Option (String × String × List Char)
  | [] => none
  | c :: rest => (countedUnitAt? (c :: rest)).orElse fun _ => countedUnit? rest

/-- Whether a text counts days and then the parts of a day, as in `1 02:30`. -/
def isDayTime (cs : List Char) : Bool :=
  let cs := match cs.dropWhile Text.isBlank with
    | '-' :: rest | '+' :: rest => rest.dropWhile Text.isBlank
    | rest => rest
  let rest := cs.dropWhile Char.isDigit
  cs.head?.any Char.isDigit && rest.head?.any Text.isBlank &&
    (rest.dropWhile Text.isBlank).head?.any Char.isDigit

/-- The unit of an interval by the word that the dialect writes: one dialect has no plural. -/
def writtenUnit (d : Dialect) (unit : Term) : Term :=
  match d, unit with
  | .mysql, .word w => .word (TimeUnit.singular w)
  | _, _ => unit

/-- The amount of an interval, in parentheses unless it is a column, a literal or a negative. -/
def writtenAmount (amount : Term) : List Term.Piece :=
  match amount with
  | .column _ _ | .text _ | .number _ | .phrase "neg" _ _ | .phrase "paren" _ _ => [.inr amount]
  | t => [.inl "(", .inr t, .inl ")"]

/-- An interval of an amount in a unit, or in a span of units to a last one. One dialect writes
amount and unit in one text. -/
def intervalOf (d : Dialect) (amount : Term) (unit last? : Option Term) : Term :=
  let units := (unit.toList ++ last?.toList).map (writtenUnit d)
  match d with
  | .mysql =>
    let shown := Term.joined " TO " (units.map fun u => [.inr u])
    .framed "interval" ([.inl "INTERVAL "] ++ writtenAmount amount ++
      (if units.isEmpty then [] else .inl " " :: shown))
  | .postgres =>
    let amount := match amount with
      | .phrase "neg" _ [.number s] => "-" ++ s
      | t => t.label
    let shown := String.join (unit.toList.map fun u => " " ++ u.print d)
    .phrase "interval" [match last? with
      | none =>
        if amount.isEmpty then "INTERVAL" ++ shown else "INTERVAL '" ++ amount ++ shown ++ "'"
      | some v => (if amount.isEmpty then "INTERVAL" else "INTERVAL '" ++ amount ++ "'") ++ shown ++
        " TO " ++ v.print d] []

/-- A unit by any word, written out and in capitals. -/
def unitWord? : Reader (Option Term) := do
  return (← anyVariable?).map fun u => .word (TimeUnit.written (Text.upper u.label))

/-- The unit after the amount of an interval: a call, or any word. -/
def intervalWord? (d : Dialect) (r : Rules) : Reader (Option Term) := do
  match ← call? d r {} with
  | some f => return some f
  | none => if ← sees (·.isKeyword .asAlias) then return none else unitWord?

/-- Whether a span of two units stands here. -/
def seesSpan : Reader Bool := do
  let start ← get
  let span ← attempt do
    match ← anyWord? with
    | none => return none
    | some _ => if ← word "TO" then anyWord? else return none
  backTo start
  return span.isSome

/-- The amount and the unit of an interval. Where the text of the amount holds units, no word after
it is one; where it counts the parts of a day, only a span of units is. -/
def intervalParts (d : Dialect) (r : Rules) (amount : Term) : Reader (Term × Option Term) := do
  let start ← get
  let omitted ← match d, amount with
    | .postgres, .text s => if isDayTime s.toList then pure !(← seesSpan) else pure false
    | _, _ => pure false
  let unit ← if omitted then pure none else intervalWord? d r
  match amount with
  | .number s => return (.text s, unit)
  | .text s => match countedUnit? s.toList with
    | some (count, u, rest) =>
      if unit.isSome then backTo start
      return if (countedUnit? rest).isNone then (.text count, some (.word (TimeUnit.written u)))
        else (amount, none)
    | none => return (amount, unit)
  | _ => return (amount, unit)

/-- An interval after the word for it. -/
def intervalAfter? (d : Dialect) (r : Rules) : Reader (Option Term) := do
  match ← if ← sees (·.kind == .text) then primary? d r else r.sum with
  | none => return none
  | some t =>
    let bare := match t with
      | .column [] (.name n) => !n.quoted
      | _ => false
    if bare && (← peek).any (fun u => !TimeUnit.isUnit d u.capitals) then return none
    else
      let (amount, unit) ← intervalParts d r t
      let last? ← do
        if ← word "TO" then intervalWord? d r else pure none
      return some (intervalOf d amount unit last?)

/-- One more interval of a sum, without a word of its own. -/
def intervalMore? (d : Dialect) (r : Rules) : Reader (Option Term) := do
  let start ← get
  let _ ← sign .plus
  if ← sees fun t => t.kind == .text || t.kind == .number then
    return some (← required "interval" (intervalAfter? d r))
  else
    backTo start
    return none

/-- An interval, or a sum of intervals under one word. -/
def interval? (d : Dialect) (r : Rules) : Reader (Option Term) := orBack do
  if ← accept fun t => t.kind == .typeName .interval then
    match ← intervalAfter? d r with
    | none => return none
    | some t =>
      let more ← many (intervalMore? d r)
      return some (more.foldl (fun a b => .phrase "add" ["", " + ", ""] [a, b]) t)
  else return none

/-! ## Literals of a type -/

/-- The literal that a type stands before, or the type itself where it has arguments. -/
def typeLiteral? (d : Dialect) (r : Rules) : Reader (Option Term) := orBack do
  let before := (← get).rest.length
  match ← dataType d r ⟨true, false, false⟩ with
  | none => return none
  | some type =>
    let after ← get
    match ← primary? d r with
    | some t =>
      if t.isLiteral then
        let t ← withSuffixes d r t
        return some (match type with
          | .type (.builtin .json) _ _ => .phrase "parsejson" ["", ""] [t]
          | type => castOf d t type)
      else backTo after
    | none => pure ()
    match type with
    | .type _ (_ :: _) _ =>
      if before - after.rest.length > 1 then return some (← withSuffixes d r type)
      else return none
    | _ => return none

/-- A column of bytes after the word for it, in the dialect where that word is an operator. -/
def bytesOf? (d : Dialect) (r : Rules) : Reader (Option Term) := orBack do
  if ← sees fun t => d == .mysql && t.kind == .typeName .binary then
    match ← dataType d r ⟨true, false, false⟩ with
    | none => return none
    | some type =>
      let t ← required "column" (column? d r)
      return some (castOf d t type)
  else return none

/-- An interval, a literal of a type, or a column. -/
def typed? (d : Dialect) (r : Rules) : Reader (Option Term) := do
  match ← bytesOf? d r with
  | some t => return some t
  | none => match ← interval? d r with
    | some t => return some (← withSuffixes d r t)
    | none => match ← typeLiteral? d r with
      | some t => return some t
      | none => column? d r

end TableDoc.Sql
