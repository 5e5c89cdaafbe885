import TableDoc.Sql.Property

/-!
# What is created

A statement that creates something names it and says what it is made of: a table or a view its
columns or a query, a function its parameters and its body, an index its members, a trigger what
sets it off. A statement with words that no rule reads is kept as a command.
-/

namespace TableDoc.Sql

open Reader

/-! ## Kinds -/

/-- The kind of thing that a statement creates, from the word for it. -/
def creatable? (d : Dialect) : Reader (Option String) := do
  let start ← get
  if ← keywords [.table, .function] then
    backTo start
    skip
  let own (t : Token) : Bool := d == .postgres && t.isWord "TYPE" && !t.isQuoted
  let creates (t : Token) : Bool := match t.kind with
    | .keyword k => k.isCreatable
    | _ => own t
  return (← take? creates).map Token.capitals

/-- A statement that is kept as a command from here on. -/
def asCommand : Reader Statement := do
  skipAll
  return .other "command"

/-- A statement of a class; a command where words are left over. -/
def orCommand (cls : String) : Reader Statement := do
  if ← atEnd then return .other cls else asCommand

/-! ## Functions and triggers -/

/-- The body of a function where it is no text between dollar signs. -/
def functionBody (d : Dialect) (r : Rules) : Reader Unit := do
  if ← keyword .command then skipAll
  else
    let _ ← keyword .begin
    let returns ← word "RETURN"
    if ← accept (·.kind == .text) then
      let _ ← properties d r
    else
      let body ← r.statement
      if returns && body.isNone then fail (.missing "value")
    let _ ← word "END"

/-- A function after the word for it: its name, its parameters, its properties and its body. -/
def function (d : Dialect) (r : Rules) : Reader Unit := do
  let _ ← tablePath
  if ← sign .lParen then
    let _ ← commaList r.parameter
    closing
  let _ ← properties d r
  let given ← do
    if ← keyword .asAlias then accept (·.kind == .dollarText) else pure false
  let _ ← properties d r
  unless given do functionBody d r

/-- What sets a trigger off. -/
def triggerEvents (r : Rules) : Reader Unit := do
  let event : Reader Unit := do
    match ← oneOf? ["INSERT", "UPDATE", "DELETE", "TRUNCATE"] with
    | none => fail (.missing "event")
    | some w =>
      if w == "UPDATE" && (← word "OF") then
        let _ ← commaList r.column
  event
  let _ ← many do
    if ← keyword .or then
      event
      return some ()
    else return none

/-- The names for the old and the new rows. -/
def triggerRows : Reader Unit := do
  if ← word "REFERENCING" then
    let _ ← many do
      if ← anyWords [["OLD", "TABLE"], ["NEW", "TABLE"], ["OLD", "ROW"], ["NEW", "ROW"]] then
        let _ ← keyword .asAlias
        let _ ← anyName?
        return some ()
      else return none

/-- A trigger after the word for it; whether all that must be there is. -/
def trigger (d : Dialect) (r : Rules) : Reader Bool := do
  let _ ← required "name" anyName?
  if ← choice [("BEFORE", []), ("AFTER", []), ("INSTEAD", [["OF"]])] then
    triggerEvents r
    unless ← keyword .on do fail (.expected "ON")
    let _ ← tablePath
    if ← keyword .fromClause then
      let _ ← tablePath
    let _ ← anyWords [["NOT", "DEFERRABLE"], ["DEFERRABLE"]]
    let _ ← anyWords [["INITIALLY", "IMMEDIATE"], ["INITIALLY", "DEFERRED"]]
    triggerRows
    if ← keyword .forClause then
      let _ ← word "EACH"
      let _ ← oneOf? ["ROW", "STATEMENT"]
    if ← keyword .whenBranch then
      let _ ← wrapped r.disjunction
    if ← keyword .execute then
      if ← accept fun t => t.isKeyword .function || t.isKeyword .procedure then
        return (← call? d r {}).isSome
    return false
  else return false

/-! ## Indexes -/

/-- An index after the word for it; whether it stands here. -/
def createdIndex (d : Dialect) (r : Rules) : Reader Bool := do
  let anonymous ← keyword .on
  let n ← if anonymous then pure none else anyName?
  if n.isNone && !anonymous then return false
  else
    let _ ← keyword .on
    let _ ← keyword .table
    let _ ← tablePath
    indexParameters d r
    return true

/-- An index after the definition of a table. -/
def trailingIndex? (d : Dialect) (r : Rules) : Reader (Option Unit) := do
  let _ ← keyword .unique
  let _ ← word "PRIMARY"
  let _ ← word "AMP"
  let found ← keyword .index
  if found then
    let _ ← anyName?
    indexParameters d r
  let _ ← properties d r
  if found then
    let _ ← sign .comma
    return some ()
  else return none

/-! ## Tables and the like -/

/-- What a type of the user's own is made of. -/
def typeBody (r : Rules) : Reader Unit := do
  if (← r.columns).isNone then
    let _ ← r.types {}

/-- What is created with the names that lead to it: its columns, its properties, and the query or
the table that its rows come from. -/
def listedBody (d : Dialect) (r : Rules) (kind : String) : Reader (Option TableSchema) := do
  let path ← tablePath
  let _ ← sign .comma
  let _ ← many (earlyProperty? d r)
  let list ← r.columns
  let _ ← properties d r
  let marked ← keyword .asAlias
  unless ← sees fun t => t.isKeyword .select || t.isKeyword .withClause || t.isSign .lParen do
    let _ ← properties d r
  if kind == "SEQUENCE" then
    let _ ← r.types {}
    let _ ← properties d r
  else if kind == "TYPE" then
    if marked then typeBody r
  else
    let q ← rowQuery? d r
    if q.isNone && marked then
      let _ ← attempt tablePath?
  if kind == "TABLE" then
    let _ ← properties d r
    let _ ← many (trailingIndex? d r)
  else if kind == "VIEW" then
    let _ ← words ["WITH", "NO", "SCHEMA", "BINDING"]
  let _ ← word "SHALLOW"
  if (← oneOf? ["CLONE", "COPY"]).isSome then
    let _ ← listedTable d r
  return list.map fun es => ⟨tableName path, es⟩

/-! ## Statements -/

/-- What is created by a statement after the word for its kind; `none` where the statement is a
command. -/
def created? (d : Dialect) (r : Rules) (kind : String) : Reader (Option Statement) := do
  let known (found : Bool) (kind : String) : Reader (Option Statement) := do
    if !found && (← atEnd) then fail (.missing kind)
    else return if found then some (.create kind) else none
  match kind with
  | "FUNCTION" | "PROCEDURE" =>
    function d r
    return some (.create kind)
  | "INDEX" => known (← createdIndex d r) kind
  | "TRIGGER" => return if ← trigger d r then some (.create kind) else none
  | "CONSTRAINT" =>
    if ← keyword .trigger then return if ← trigger d r then some (.create "TRIGGER") else none
    else known false kind
  | "COLUMN" | "FOREIGN KEY" => known false kind
  | kind => match kind, ← listedBody d r kind with
    | "TABLE", some schema => return some (.createTable schema)
    | _, _ => return some (.create kind)

/-- A statement that creates something, after its first word. -/
def createAfter (d : Dialect) (r : Rules) : Reader Statement := do
  unless ← keywords [.or, .replace] do
    let _ ← keywords [.or, .alter]
  let _ ← words ["OR", "REFRESH"]
  let _ ← keyword .unique
  let _ ← anyWords [["CLUSTERED", "COLUMNSTORE"], ["NONCLUSTERED", "COLUMNSTORE"],
    ["COLUMNSTORE"]]
  let kind ← match ← creatable? d with
    | some k => pure (some k)
    | none =>
      if ← properties d r then creatable? d else pure none
  match kind with
  | none => asCommand
  | some kind =>
    let _ ← word "CONCURRENTLY"
    ifNotExists
    let s ← created? d r kind
    let ended := (← atEnd) || (← sees fun t => t.isSign .rParen || t.isSign .comma)
    match s with
    | some s => if ended then return s else asCommand
    | none => asCommand

end TableDoc.Sql
