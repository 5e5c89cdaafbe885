import TableDoc.Sql.Call

/-!
# Calls with words of their own

Some calls hold words between their arguments, such as `CAST(a AS b)` or `TRIM(a FROM b)`. Each
function here reads what stands between the parentheses; the one that opens has been taken and the
one that closes is left.
-/

namespace TableDoc.Sql

open Reader

/-! ## Casts -/

/-- The type that a cast writes: one dialect casts to a few types only. -/
def castTarget (d : Dialect) (t : Term) : Term :=
  match d, t with
  | .mysql, .type (.builtin n) args sizes =>
    match n with
    | .longtext | .longblob | .mediumblob | .mediumtext | .text | .tinyblob | .tinytext
    | .varchar => .type (.builtin .char) args sizes
    | .bigint | .boolean | .int | .smallint | .tinyint | .mediumint => .word "SIGNED"
    | .ubigint | .uint | .usmallint | .utinyint | .umediumint => .word "UNSIGNED"
    | _ => t
  | _, _ => t

/-- A cast of a term to a type, of the class of casts that fail or of those that give null. -/
def castWith (cls : String) (d : Dialect) (t type : Term) : Term :=
  match d, type with
  | .mysql, .type (.builtin .timestamptz) _ _ | .mysql, .type (.builtin .timestampltz) _ _ =>
    .phrase cls ["TIMESTAMP(", ")"] [t]
  | _, _ => .phrase cls ["CAST(", " AS ", ")"] [t, castTarget d type]

/-- A cast of a term to a type. -/
def castOf (d : Dialect) (t type : Term) : Term := castWith "cast" d t type

/-- A text in another character set. -/
def recoded (cls : String) (t charset : Term) : Term :=
  .phrase cls ["CAST(", " AS CHAR CHARACTER SET ", ")"] [t, charset]

/-- The words for a character set. -/
def charsetWords : Reader Bool := do
  if ← keyword .charset then return true
  else
    for w in ["CHARACTER", "CHAR"] do
      if ← words [w, "SET"] then return true
    return false

/-- The name of a character set, a word or `BINARY`. -/
def charsetName? : Reader (Option Term) := do
  match ← freeWord? with
  | some t => return some t
  | none => return (← take? (·.kind == .typeName .binary)).map fun t => .word t.text

/-- Whether a type holds dates or times. -/
def Term.isTemporal : Term → Bool
  | .type (.builtin t) _ _ => t.isTimestamp || t == .date || t == .datetime
  | _ => false

/-- The form of a text that a cast reads, after the word for it. -/
def castForm (r : Rules) (cls : String) (d : Dialect) (t : Term) (type : Option Term) :
    Reader Term := do
  let form ← required "form" textLiteral?
  if ← words ["AT", "TIME", "ZONE"] then
    let _ ← r.unary
  let type := type.getD (.type (.builtin .unknown) [] [])
  match type with
  | .type (.builtin .date) _ _ => return .call "strtodate" "TO_DATE" [t, form]
  | type => return if type.isTemporal then .call "strtotime" "TO_TIMESTAMP" [t, form]
    else castWith cls d t type

/-- The inside of `CAST`. -/
def castBody (cls : String) (d : Dialect) (r : Rules) : Reader Term := do
  let t ← required "expression" r.disjunction
  if ← keyword .asAlias then
    let type ← r.types {}
    if ← keyword .default then
      let _ ← r.bitwise
      let _ ← words ["ON", "CONVERSION", "ERROR"]
    if ← accept fun t => t.isKeyword .format || t.isSign .comma then castForm r cls d t type
    else
      let type ← required "type" (pure type)
      match type with
      | .type (.builtin .char) _ _ =>
        if ← charsetWords then
          return recoded cls t (← required "character set" wordOrText?)
      | _ => pure ()
      for w in ["RENAME", "ADD"] do
        if ← words [w, "FIELDS"] then return castWith cls d t type
      return castWith cls d t type
  else if ← sign .comma then
    let type ← required "type" textLiteral?
    return .framed "casttostrtype" [.inl "CAST(", .inr t, .inl " AS ", .inr type, .inl ")"]
  else fail (.expected "AS")

/-- The inside of `CONVERT`. -/
def convertBody (cls : String) (d : Dialect) (r : Rules) : Reader Term := do
  let t ← required "expression" r.bitwise
  if ← keyword .usingClause then
    return recoded cls t (← required "character set" charsetName?)
  else
    must .comma "type"
    return castWith cls d t (← required "type" (r.types {}))

/-! ## Texts -/

/-- The inside of `CHAR`: codes of characters, and perhaps their character set. -/
def charBody (r : Rules) : Reader Term := do
  let codes ← commaList r.disjunction
  let charset ← do
    if ← keyword .usingClause then charsetName? else pure none
  if codes.isEmpty then fail (.argumentCount "chr")
  else return .framed "chr" ([.inl "CHAR("] ++ Term.listed codes ++
    (charset.toList.flatMap fun c => [.inl " USING ", .inr c]) ++ [.inl ")"])

/-- The inside of `DECODE`: a text and its character set, or cases and their values. -/
def decodeBody (r : Rules) : Reader Term := do
  let args ← commaList r.disjunction
  if args.length < 2 then fail (.argumentCount "decode")
  else return .call (if args.length < 3 then "decode" else "decodecase") "DECODE" args

/-- The inside of `SUBSTRING`. -/
def substringBody (r : Rules) : Reader Term := do
  let args ← commaList r.bitwise
  let bounds ← extend (fun (b : Option Term × Option Term) => do
    if ← keyword .fromClause then return some (← r.bitwise, b.2)
    else if ← keyword .forClause then
      let length ← r.bitwise
      return some (some (b.1.getD (.number "1")), length)
    else return none) (none, none)
  let args := args ++ bounds.1.toList ++ bounds.2.toList
  if args.isEmpty || 3 < args.length then fail (.argumentCount "substring")
  else return .call "substring" "SUBSTRING" args

/-- The inside of `TRIM`. What is trimmed off stands before `FROM`, or after a comma. -/
def trimBody (r : Rules) : Reader Term := do
  let side ← oneOf? ["LEADING", "TRAILING", "BOTH"]
  let first ← r.bitwise
  let (whole, part) ← do
    if ← keyword .fromClause then
      let whole ← r.bitwise
      pure (whole, first)
    else if ← sign .comma then
      let part ← r.bitwise
      pure (first, part)
    else pure (first, none)
  if ← keyword .collate then
    let _ ← r.bitwise
  match whole with
  | none => fail (.argumentCount "trim")
  | some whole =>
    let side := (side.map (· ++ " ")).getD ""
    return .framed "trim" ([.inl ("TRIM(" ++ side)] ++
      (part.toList.flatMap fun p => [.inr p, .inl " FROM "]) ++ [.inr whole, .inl ")"])

/-- The inside of `POSITION`. -/
def positionBody (d : Dialect) (r : Rules) : Reader Term := do
  let args ← commaList r.bitwise
  let whole ← do
    if ← keyword .inList then r.bitwise else pure none
  match args, whole with
  | part :: _, some whole | [part, whole], none | part :: whole :: _, none =>
    return match d with
      | .mysql => .call "strposition" "LOCATE" [part, whole]
      | .postgres => .framed "strposition"
        [.inl "POSITION(", .inr part, .inl " IN ", .inr whole, .inl ")"]
  | _, _ => fail (.argumentCount "strposition")

/-- The inside of `NORMALIZE`. -/
def normalizeBody (r : Rules) : Reader Term := do
  let t ← required "text" r.bitwise
  let form ← do
    if ← sign .comma then freeWord? else pure none
  return .call "normalize" "NORMALIZE" (t :: form.toList)

/-- The inside of `OVERLAY`. -/
def overlayBody (r : Rules) : Reader Term := do
  let part (w : String) : Reader (Option Term) := do
    if ← accept fun t => t.isSign .comma || t.isWord w then r.bitwise else return none
  let t ← required "text" r.bitwise
  let other ← required "text" (part "PLACING")
  let start ← required "start" (part "FROM")
  let length ← part "FOR"
  return .framed "overlay" ([.inl "OVERLAY(", .inr t, .inl " PLACING ", .inr other,
    .inl " FROM ", .inr start] ++ (length.toList.flatMap fun l => [.inl " FOR ", .inr l]) ++
    [.inl ")"])

/-- The inside of `MATCH … AGAINST`. -/
def matchBody (r : Rules) : Reader Term := do
  let columns ← commaList r.typed
  let _ ← words [")", "AGAINST", "("]
  let text ← required "text" textLiteral?
  let mode ← do
    if ← words ["IN", "NATURAL", "LANGUAGE", "MODE"] then
      if ← words ["WITH", "QUERY", "EXPANSION"] then
        pure " IN NATURAL LANGUAGE MODE WITH QUERY EXPANSION"
      else pure " IN NATURAL LANGUAGE MODE"
    else if ← words ["IN", "BOOLEAN", "MODE"] then pure " IN BOOLEAN MODE"
    else if ← words ["WITH", "QUERY", "EXPANSION"] then pure " WITH QUERY EXPANSION"
    else pure ""
  if columns.isEmpty then fail (.argumentCount "matchagainst")
  else return .framed "matchagainst" ([.inl "MATCH("] ++ Term.listed columns ++
    [.inl ") AGAINST(", .inr text, .inl (mode ++ ")")])

/-! ## Times and numbers -/

/-- The inside of `EXTRACT`; `call` reads a function. -/
def extractBody (r : Rules) (call : Reader (Option Term)) : Reader Term := do
  let unit ← required "unit" (firstOf [call, do
    return (← wordOrText?).map fun t => match t with
      | .word w => .word (Text.upper w)
      | t => t])
  unless ← accept fun t => t.isKeyword .fromClause || t.isSign .comma do
    fail (.expected "FROM")
  let t ← required "expression" r.bitwise
  return .phrase "extract" ["EXTRACT(", " FROM ", ")"] [unit, t]

/-- The inside of `DATE_PART`. -/
def datePartBody (r : Rules) : Reader Term := do
  let unit ← required "unit" r.typed
  let _ ← sign .comma
  let t ← required "expression" r.bitwise
  let unit := match unit with
    | .column _ _ | .text _ | .number _ => .word unit.label
    | t => t
  return .phrase "extract" ["EXTRACT(", " FROM ", ")"] [unit, t]

/-- The inside of `CEIL` and `FLOOR`. -/
def roundingBody (d : Dialect) (r : Rules) (cls : String) : Reader Term := do
  let args ← commaList (argument? d r false)
  let unit ← do
    if ← word "TO" then freeWord? else pure none
  return .framed cls ([.inl (Text.upper cls ++ "(")] ++ Term.listed (args.take 2) ++
    (unit.toList.flatMap fun u => [.inl " TO ", .inr u]) ++ [.inl ")"])

/-! ## Documents -/

/-- The words on the form of a document that may follow it. -/
def documentForm : Reader Unit := do
  let _ ← words ["FORMAT", "JSON"]

/-- What happens in a case such as an empty result. -/
def onCase (r : Rules) (case : String) (choices : List String) : Reader Unit := do
  for w in choices do
    if ← words [w, "ON", case] then return
  let start ← get
  if ← keyword .default then
    let _ ← r.bitwise
    unless ← words ["ON", case] do backTo start

/-- What happens if a document has no value at a path, or a wrong one. -/
def onCases (r : Rules) : Reader Unit := do
  for case in ["EMPTY", "ERROR", "NULL"] do
    onCase r case ["ERROR", "NULL", "TRUE", "FALSE", "EMPTY"]

/-- A key of a document with its value; `column` reads a column. -/
def keyValue? (r : Rules) (column : Reader (Option Term)) : Reader (Option Term) := do
  let _ ← word "KEY"
  let key ← column
  let _ ← accept fun t => t.isSign .colon || t.isSign .comma || t.isKeyword .is
  let _ ← word "VALUE"
  let value ← r.bitwise
  documentForm
  match key, value with
  | none, none => return none
  | some k, some v => return some (.framed "jsonkeyvalue" [.inr k, .inl ": ", .inr v])
  | _, _ => fail (.missing "value")

/-- The inside of `JSON_OBJECT`. -/
def objectBody (r : Rules) (cls shown : String) (column : Reader (Option Term)) :
    Reader Term := do
  let members ← do
    if ← sign .star then pure [Term.phrase "star" ["*"] []]
    else commaList (keyValue? r column)
  onCase r "NULL" ["NULL", "ABSENT"]
  unless ← words ["WITH", "UNIQUE"] do
    let _ ← words ["WITHOUT", "UNIQUE"]
  let _ ← word "KEYS"
  if ← word "RETURNING" then
    let _ ← r.typed
    documentForm
  if ← word "ENCODING" then
    let _ ← freeWord?
  return .call cls shown members

/-- The columns of a document that is read as a table, nested at most so deep. -/
def documentColumns : Nat → Rules → Reader Unit
  | 0, _ => fail .tooDeep
  | depth + 1, r => do
    let _ ← word "COLUMNS"
    let item : Reader (Option Unit) := do
      let nested ← word "NESTED"
      let n ← if nested then pure none else anyName?
      unless nested do
        let _ ← words ["FOR", "ORDINALITY"]
        let _ ← r.types ⟨false, false, false⟩
      documentForm
      let path ← word "PATH"
      if path then
        let _ ← textLiteral?
      if nested then documentColumns depth r
      return if nested || path || n.isSome then some () else none
    if ← sees (·.isSign .lParen) then
      let _ ← wrappedList item
    else
      let _ ← commaList item

/-- The inside of `JSON_TABLE`. -/
def documentTableBody (r : Rules) : Reader Term := do
  let t ← required "document" r.bitwise
  documentForm
  if ← sign .comma then
    let _ ← textLiteral?
  onCase r "ERROR" ["ERROR", "NULL"]
  onCase r "EMPTY" ["ERROR", "NULL"]
  documentColumns (← get).rest.length r
  return .call "jsontable" "JSON_TABLE" [t]

/-- The inside of `JSON_VALUE`. -/
def documentValueBody (r : Rules) : Reader Term := do
  let t ← required "document" r.bitwise
  let _ ← sign .comma
  let path ← required "path" r.bitwise
  let type ← do
    if ← keyword .returning then r.typed else pure none
  onCases r
  return .framed "jsonvalue" ([.inl "JSON_VALUE("] ++ Term.listed [t, path] ++
    (type.toList.flatMap fun t => [.inl " RETURNING ", .inr t]) ++ [.inl ")"])

/-- The inside of `JSON_AGG`. -/
def documentGroupBody (d : Dialect) (r : Rules) : Reader Term := do
  let t ← required "expression" (argument? d r false)
  let t ← inOrder r (some t)
  return .call "jsonarrayagg" "JSON_AGG" t.toList

/-- The inside of `JSONB_EXISTS`. -/
def documentTestBody (r : Rules) : Reader Term := do
  let t ← required "document" r.bitwise
  must .comma "path"
  let path ← required "path" r.bitwise
  return .call "jsonbexists" "JSONB_EXISTS" [t, path]

/-- The inside of `XMLELEMENT`. -/
def elementBody (r : Rules) : Reader Term := do
  let n ← do
    if ← word "EVALNAME" then required "name" r.bitwise
    else
      let _ ← word "NAME"
      required "name" anyName?
  let content ← do
    if ← sign .comma then commaList r.bitwise else pure []
  return .framed "xmlelement" ([.inl "XMLELEMENT(NAME ", .inr n] ++
    (content.flatMap fun t => [.inl ", ", .inr t]) ++ [.inl ")"])

/-- The inside of `XMLTABLE`. -/
def elementTableBody (r : Rules) : Reader Term := do
  if ← words ["XMLNAMESPACES", "("] then
    let _ ← commaList (withAlias r)
    let _ ← words [")", ","]
  let t ← required "path" textLiteral?
  if ← word "PASSING" then
    let _ ← words ["BY", "VALUE"]
    let _ ← commaList r.typed
  let _ ← words ["RETURNING", "SEQUENCE", "BY", "REF"]
  if ← word "COLUMNS" then
    let _ ← commaList r.parameter
  return .call "xmltable" "XMLTABLE" [t]
where
  /-- A text with the name it may be given. -/
  withAlias (r : Rules) : Reader (Option Term) := do
    let _ ← keyword .default
    match ← textLiteral? with
    | none => return none
    | some t =>
      if ← keyword .asAlias then
        let _ ← r.typed
      return some t

/-! ## Groups -/

/-- The inside of `GROUP_CONCAT`; `field` reads what separates the texts. -/
def groupTextBody (d : Dialect) (r : Rules) (field : Reader (Option Term)) : Reader Term := do
  let args ← commaList (argument? d r false)
  let gap ← do
    if ← keyword .separator then field else pure none
  if args.isEmpty then fail (.argumentCount "groupconcat")
  else return .framed "groupconcat" ([.inl "GROUP_CONCAT("] ++ Term.listed args ++
    [.inl " SEPARATOR "] ++ (match gap with
      | some g => [.inr g]
      | none => [.inl "','"]) ++ [.inl ")"])

/-- The inside of `STRING_AGG`. -/
def stringGroupBody (r : Rules) : Reader Term := do
  let args ← do
    if ← keyword .distinct then
      let t ← required "expression" r.disjunction
      let more ← do
        if ← sign .comma then commaList r.disjunction else pure []
      pure (Term.framed "distinct" [.inl "DISTINCT ", .inr t] :: more)
    else commaList r.disjunction
  if ← words ["ON", "OVERFLOW"] then
    unless ← word "ERROR" do
      let _ ← word "TRUNCATE"
      let _ ← textLiteral?
      unless ← words ["WITH", "COUNT"] do
        let _ ← words ["WITHOUT", "COUNT"]
  match args with
  | [] => fail (.argumentCount "groupconcat")
  | first :: rest =>
    let closed ← sees (·.isSign .rParen)
    let inGroup ← do
      if closed then sequence [(·.isSign .rParen), (·.isWord "WITHIN"), (·.isWord "GROUP")]
      else pure false
    if inGroup then must .lParen "opening parenthesis"
    if closed && !inGroup && 3 < args.length then fail (.argumentCount "groupconcat")
    let first ← inOrder r (some first) >>= withLimit r
    return .call "groupconcat" "STRING_AGG" (first.toList ++ rest)

end TableDoc.Sql
