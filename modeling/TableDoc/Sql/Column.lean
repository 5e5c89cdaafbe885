import TableDoc.Sql.Index

/-!
# Column definitions and clauses

How the entries of a column list are read. A clause begins with a word of its own; which words
begin one depends on the dialect and on whether the clause stands for itself or follows a column or
the name of a constraint.
-/

namespace TableDoc.Sql

open Reader

/-! ## Clauses of columns -/

/-- A condition on the values after its word. -/
def checkAfter (r : Rules) : Reader Clause := do
  let _ ← wrapped (required "condition" r.disjunction)
  let _ ← word "ENFORCED"
  return .other "checkcolumnconstraint"

/-- How values are counted up, after the word for it. With a start, a step or an order they are
generated. -/
def countedAfter (r : Rules) : Reader Clause := do
  let bounds ← do
    if ← sees (·.isSign .lParen) then wrappedList r.bitwise
    else if ← word "START" then
      let start ← r.bitwise
      let _ ← word "INCREMENT"
      let step ← r.bitwise
      pure (start.toList ++ step.toList)
    else pure []
  let order ← oneOf? ["ORDER", "NOORDER"]
  return if bounds.isEmpty && order.isNone then .autoIncrement else .identity

/-- The bounds of generated values, or the expression that they are computed by; whether it is the
latter. -/
def generatedBounds (r : Rules) (identity : Bool) : Reader Bool := do
  if ← sign .lParen then
    let started ← keyword .startWith
    if started then
      let _ ← r.bitwise
    if ← words ["INCREMENT", "BY"] then
      let _ ← r.bitwise
    if ← word "MINVALUE" then
      let _ ← r.bitwise
    if ← word "MAXVALUE" then
      let _ ← r.bitwise
    let _ ← anyWords [["CYCLE"], ["NO", "CYCLE"]]
    let computed ← do
      if identity then
        if !started && (← sees (·.kind == .number)) then
          let _ ← commaList r.bitwise
        pure false
      else pure (← r.disjunction).isSome
    closing
    return computed
  else return false

/-- Generated values after the word for them: counted, or computed and kept. -/
def generatedAfter (d : Dialect) (r : Rules) : Reader Clause := do
  if ← words ["BY", "DEFAULT"] then
    let _ ← keywords [.on, .null]
  else
    let _ ← word "ALWAYS"
  let _ ← keyword .asAlias
  let row ← word "ROW"
  let computed ← do
    if row then
      unless ← word "START" do
        let _ ← keyword .endBlock
      let _ ← word "HIDDEN"
      pure false
    else
      let identity ← word "IDENTITY"
      generatedBounds r identity
  if ← accept fun t => t.isWord "STORED" || (d == .mysql && t.isWord "VIRTUAL") then
    if computed then return .other "computedcolumnconstraint" else fail (.missing "expression")
  else return if row then .other "generatedasrowcolumnconstraint" else .identity

/-- What may not be null, after `NOT`. -/
def notAfter? : Reader (Option Clause) := do
  if ← word "NULL" then return some (.nullability false)
  else if ← word "CASESPECIFIC" then return some (.other "casespecificcolumnconstraint")
  else if ← words ["FOR", "REPLICATION"] then
    return some (.other "notforreplicationcolumnconstraint")
  else return none

/-- What changes a value, after `ON`. -/
def onAfter (d : Dialect) (r : Rules) : Reader Clause := do
  if ← keyword .update then
    let _ ← required "function" (call? d r {})
    return .other "onupdatecolumnconstraint"
  else
    let _ ← required "name" anyName?
    return .other "onproperty"

/-- A default value after its word, with the tokens that it is read from. -/
def defaultAfter (r : Rules) : Reader Clause := do
  let before := (← get).rest
  let value ← required "default" r.bitwise
  let after := (← get).rest
  return .default value (before.take (before.length - after.length))

/-- A choice of what to take over from another table. -/
def likeOption? : Reader (Option Unit) := do
  match ← oneOf? ["INCLUDING", "EXCLUDING"] with
  | none => return none
  | some _ =>
    let _ ← required "option" anyName?
    return some ()

/-- A table to be like, after the word for it. -/
def likeAfter (d : Dialect) (r : Rules) : Reader Unit := do
  let _ ← listedTable d r
  let _ ← many likeOption?

/-- How a table is cut by a function of a column, after the word for it, if its list follows. -/
def cutBy? (d : Dialect) (r : Rules) (cls : String) : Reader (Option Clause) := do
  if ← sees (·.isSign .lParen) then
    let args ← wrappedList (firstOf [primary? d r, r.column])
    if args.length < 2 then fail (.missing "argument") else return some (.other cls)
  else return none

/-- A clause about a column after its word. -/
def columnClauseAfter (d : Dialect) (r : Rules) (w : String) : Reader (Option Clause) := do
  match w with
  | "UNIQUE" => return some (← uniqueAfter d r)
  | "BUCKET" => cutBy? d r "partitionedbybucket"
  | "TRUNCATE" => cutBy? d r "partitionbytruncate"
  | "CHECK" => return some (← checkAfter r)
  | "EXCLUDE" =>
    indexParameters d r
    return some (.other "excludecolumnconstraint")
  | "FOREIGN KEY" => return some (← foreignAfter d r)
  | "LIKE" =>
    likeAfter d r
    return some (.other "likeproperty")
  | "PERIOD" =>
    if ← words ["FOR", "SYSTEM_TIME"] then
      let _ ← wrappedList anyName?
      return some (.other "periodforsystemtimeconstraint")
    else return none
  | "PRIMARY KEY" => return some (← primaryAfter d r)
  | "FULLTEXT" | "SPATIAL" => return some (← indexAfter d r (some w))
  | "INDEX" | "KEY" => return some (← indexAfter d r none)
  | "AUTOINCREMENT" | "AUTO_INCREMENT" | "IDENTITY" => return some (← countedAfter r)
  | "CHARACTER" | "CHAR" =>
    if ← keyword .set then
      return some (.charset (← required "character set" wordOrText?))
    else return none
  | "CHARSET" => return some (.charset (← required "character set" wordOrText?))
  | "ASCII" => return some (.charset (.word "latin1"))
  | "UNICODE" => return some (.charset (.word "ucs2"))
  | "COLLATE" =>
    match ← quotedName? with
    | some n => return some (.collation (.name n))
    | none => return some (.collation (← required "collation" (column? d r)))
  | "CLUSTERED" | "NONCLUSTERED" =>
    let _ ← wrappedList (ordered? r r.disjunction)
    return some (.other (Text.lower w ++ "columnconstraint"))
  | "TTL" =>
    let _ ← r.bitwise
    return some (.other "mergetreettl")
  | "COMMENT" => return some (.comment (← required "comment" textLiteral?))
  | "DEFAULT" => return some (← defaultAfter r)
  | "ENCODE" =>
    let _ ← required "encoding" freeWord?
    return some (.other "encodecolumnconstraint")
  | "EPHEMERAL" =>
    let _ ← r.bitwise
    return some (.other "ephemeralcolumnconstraint")
  | "FORMAT" | "TITLE" =>
    let _ ← required "text" wordOrText?
    return some (.other (if w == "TITLE" then "titlecolumnconstraint"
      else "dateformatcolumnconstraint"))
  | "INLINE" =>
    let _ ← word "LENGTH"
    let _ ← required "length" r.bitwise
    return some (.other "inlinelengthcolumnconstraint")
  | "PATH" =>
    let _ ← required "path" textLiteral?
    return some (.other "pathcolumnconstraint")
  | "COMPRESS" =>
    if ← sees (·.isSign .lParen) then
      let _ ← wrappedList r.bitwise
    else
      let _ ← r.bitwise
    return some (.other "compresscolumnconstraint")
  | "GENERATED" => return some (← generatedAfter d r)
  | "NOT" => notAfter?
  | "NULL" => return some (.nullability true)
  | "ON" => return some (← onAfter d r)
  | "REFERENCES" =>
    referenced d r
    return some (.other "reference")
  | "WITH" =>
    let _ ← wrappedList r.property
    return some (.other "properties")
  | _ => return some (.other (Text.lower w ++ "columnconstraint"))

/-- An index among the clauses of a column, where its list may be missing. -/
def bareIndex? (d : Dialect) (r : Rules) : Reader (Option Clause) := do
  match ← attempt (do return some (← indexAfter d r none)) with
  | some c => return some c
  | none => return some (.other "indexcolumnconstraint")

/-- A clause that begins with one of some words. -/
def clauseAmong? (d : Dialect) (r : Rules) (ws : List String) (inColumn : Bool) :
    Reader (Option Clause) := orBack do
  match ← oneOf? ws with
  | none => return none
  | some w =>
    if inColumn && (w == "KEY" || w == "INDEX") then bareIndex? d r
    else
      let c ← columnClauseAfter d r w
      let isBare := ["CHARACTER", "CHAR"].contains w
      if c.isNone && inColumn && !isBare then fail (.missing "clause")
      else return c

/-- Whether a constraint stands here without its name, in the dialect where that may be missing. -/
def seesUnnamed (d : Dialect) : Reader Bool :=
  sees fun t => d == .mysql && t.kind != .quotedName && t.kind != .text &&
    ["CHECK", "FOREIGN KEY", "PRIMARY KEY", "UNIQUE"].contains t.capitals

/-- A clause of a column, which a constraint may name. -/
def columnClause? (d : Dialect) (r : Rules) : Reader (Option Clause) := do
  let n ← do
    if ← keyword .constraint then
      if ← seesUnnamed d then pure none else anyName?
    else pure none
  match ← clauseAmong? d r (columnWords d) true with
  | some c => return some c
  | none => return n.map fun _ => .other "identifier"

/-! ## Column definitions -/

/-- How the values of a column are computed from others, after the word for it, in the column that
has no type yet. -/
def computedAfter (r : Rules) : Reader Clause := do
  let _ ← required "expression" r.disjunction
  let _ ← oneOf? ["PERSISTED", "STORED", "VIRTUAL"]
  unless ← word "AUTO" do
    let _ ← r.types {}
  let _ ← keywords [.not, .null]
  return .other "computedcolumnconstraint"

/-- How the values of a column are computed from others. -/
def computed? (r : Rules) (typed : Bool) : Reader (Option Clause) := do
  let wrapped := typed && (← peekSecond).any (·.isSign .lParen)
  if ← accept fun t => !typed && t.isKeyword .asAlias then return some (← computedAfter r)
  else if (← oneOf? ["ALIAS", "MATERIALIZED"]).isSome then return some (← computedAfter r)
  else if ← accept fun t => wrapped && t.isKeyword .asAlias then
    let _ ← required "expression" r.disjunction
    let _ ← oneOf? ["STORED", "VIRTUAL"]
    return some (.other "computedcolumnconstraint")
  else return none

/-- The direction of a parameter before its type. -/
def direction? (r : Rules) : Reader (Option (Option Term)) := do
  if ← sees fun t => t.isKeyword .inList || t.isKeyword .out then
    let _ ← keyword .inList
    let _ ← keyword .out
    return some (← r.types {})
  else return none

/-- The place of a column among the others. -/
def columnPlace (r : Rules) : Reader Unit := do
  if (← oneOf? ["FIRST", "AFTER"]).isSome then
    let _ ← r.column

/-- A column definition after what stands for its name, or that alone where nothing follows. -/
def columnAfter (d : Dialect) (r : Rules) (n : Option Term) :
    Reader (Option (Term ⊕ ColumnDefinition)) := do
  let definition (type : Option Term) (clauses : List Clause) :
      Reader (Option (Term ⊕ ColumnDefinition)) := do
    match n with
    | some n => return some (.inr ⟨n.ownText, type, clauses⟩)
    | none => fail (.missing "column name")
  let type ← r.types ⟨false, true, true⟩
  if ← words ["FOR", "ORDINALITY"] then definition none []
  else
    let first ← computed? r type.isSome
    let directed ← if first.isNone && type.isNone then direction? r else pure none
    let clauses ← many (columnClause? d r)
    let type := (directed.getD none).or type
    if type.isNone && first.isNone && directed.isNone && clauses.isEmpty then
      return n.map .inl
    else
      columnPlace r
      definition type (first.toList ++ clauses)

/-- A column definition, or the term alone that would have been its name. -/
def columnOrTerm? (d : Dialect) (r : Rules) : Reader (Option (Term ⊕ ColumnDefinition)) := do
  columnAfter d r (← field? d r true)

/-- The name of a parameter, with what may define it. -/
def parameterDefinition? (d : Dialect) (r : Rules) : Reader (Option Unit) := do
  let ends ← (do return (← peekSecond).all fun t => t.isSign .comma || t.isSign .rParen)
  let _ ← accept fun t => d == .postgres && !ends &&
    [Keyword.inList, .out, .inOut, .variadic].any t.isKeyword
  let n ← anyName?
  let _ ← keyword .asAlias
  return (← columnAfter d r n).map fun _ => ()

/-! ## Entries -/

/-- A clause about the table. -/
def tableClause? (d : Dialect) (r : Rules) : Reader (Option Clause) := do
  if ← sees (·.kind == .quotedName) then return none
  else clauseAmong? d r (tableWords d) false

/-- A clause under a name. -/
def namedClause? (d : Dialect) (r : Rules) : Reader (Option Clause) := do
  let quoted ← sees (·.kind == .quotedName)
  match ← if quoted then pure none else clauseAmong? d r (columnWords d) false with
  | some c => return some c
  | none => return (← call? d r {}).map fun t => .other t.className

/-- A constraint: a name and what it names. In one dialect the name may be missing. -/
def constraint? (d : Dialect) (r : Rules) : Reader (Option Entry) := do
  if ← keyword .constraint then
    if ← seesUnnamed d then return (← tableClause? d r).map .clause
    else
      let n ← required "name" anyName?
      let clauses ← many (namedClause? d r)
      if clauses.isEmpty then fail (.missing "constraint")
      else return some (.constraint n.label clauses)
  else return (← tableClause? d r).map .clause

/-- An entry of a column list. -/
def listItem? (d : Dialect) (r : Rules) : Reader (Option Entry) := do
  match ← constraint? d r with
  | some e => return some e
  | none => return (← columnOrTerm? d r).map fun
    | .inl t => .term t
    | .inr c => .column c

/-- The column list of a table, if one stands here: a query in parentheses is none. -/
def columnList? (d : Dialect) (r : Rules) : Reader (Option (List Entry)) := do
  let start ← get
  if ← sign .lParen then
    if ← sees fun t => t.isSign .lParen || t.isKeyword .withClause || t.isKeyword .select then
      backTo start
      return none
    else
      let es ← commaList (listItem? d r)
      closing
      return some es
  else return none

end TableDoc.Sql
