import TableDoc.Sql.Creation

/-!
# What is altered

Statements that alter, remove or describe in words what has been created. An action that no rule
reads makes the whole statement a command.
-/

namespace TableDoc.Sql

open Reader

/-! ## Removal -/

/-- The things that are removed: names that lead to them, or a column. -/
def removed (r : Rules) (kind : String) : Reader Unit := do
  if kind == "COLUMN" then
    let _ ← required "column" r.column
  else
    let _ ← tablePath
    let _ ← many (orBack do
      if ← sign .comma then return (← tablePath?).map fun _ => () else return none)

/-- Removes something, after the first word. -/
def dropAfter (d : Dialect) (r : Rules) : Reader Statement := do
  let _ ← keyword .temporary
  let _ ← word "MATERIALIZED"
  let _ ← word "ICEBERG"
  match ← creatable? d with
  | none => asCommand
  | some kind =>
    let _ ← word "CONCURRENTLY"
    ifExists
    removed r kind
    if ← keyword .on then onAction r
    if ← sees (·.isSign .lParen) then
      let _ ← wrappedList (r.types {})
    let _ ← word "CASCADE"
    let _ ← word "RESTRICT"
    let _ ← word "CONSTRAINTS"
    let _ ← word "PURGE"
    return .other "drop"

/-! ## Actions on a table -/

/-- A column that is added, with its place; `none` where no column is defined. -/
def addedColumn? (d : Dialect) (r : Rules) : Reader (Option Unit) := orBack do
  let _ ← keyword .column
  ifNotExists
  match ← columnOrTerm? d r with
  | some (.inr _) =>
    columnPlace r
    return some ()
  | _ => return none

/-- Whether a token begins what is added to the clauses of a table. -/
def opensConstraint (t : Token) : Bool :=
  [Keyword.constraint, .foreignKey, .index, .key, .primaryKey, .unique].any t.isKeyword

/-- One more thing that is added. -/
def addition? (d : Dialect) (r : Rules) : Reader (Option Unit) := do
  let again ← word "ADD"
  if ← sees opensConstraint then
    let added ← commaList (constraint? d r)
    if added.isEmpty then fail (.missing "constraint") else return some ()
  else
    let afterWord := again || (← last).any (·.isWord "ADD")
    match ← if afterWord then addedColumn? d r else pure none with
    | some _ => return some ()
    | none =>
      ifNotExists
      let start ← get
      let listed ← sequence [(·.isKeyword .partition), (·.isSign .lParen)]
      backTo start
      if listed then
        let _ ← field? d r true
        return some ()
      else return none

/-- What is added, after the word for it; whether there is any. -/
def addAction (d : Dialect) (r : Rules) : Reader Bool := do
  if !(← sees opensConstraint) && (← word "COLUMNS") then
    match ← r.columns with
    | some _ => return true
    | none =>
      return !(← commaList (addedColumn? d r)).isEmpty
  else return !(← commaList (addition? d r)).isEmpty

/-- One thing that is removed from a table, with the word for it. Where the kind is not named, all
that follows is taken as it stands. -/
def removal? (d : Dialect) (r : Rules) : Reader (Option Unit) := do
  if ← keyword .drop then
    let _ ← dropAfter d r
    return some ()
  else return none

/-- What is removed from a table, after the word for it; whether there is any. -/
def dropAction (d : Dialect) (r : Rules) : Reader Bool := do
  let start ← get
  ifExists
  if ← sees (·.isKeyword .partition) then
    return !(← commaList do
      return if ← partitionChoice r then some () else none).isEmpty
  else
    backTo start
    let _ ← dropAfter d r
    let _ ← many do
      if ← sign .comma then return some (← removal? d r) else return none
    return true

/-- How a column changes, after its name. -/
def columnChange (r : Rules) : Reader Unit := do
  if ← anyWords [["DROP", "DEFAULT"], ["DROP", "NOT", "NULL"], ["SET", "NOT", "NULL"],
      ["SET", "VISIBLE"], ["SET", "INVISIBLE"]] then return
  else if ← words ["SET", "DEFAULT"] then
    let _ ← r.disjunction
  else if ← keyword .comment then
    let _ ← textLiteral?
  else
    let _ ← words ["SET", "DATA"]
    let _ ← word "TYPE"
    let _ ← r.types {}
    if ← keyword .collate then
      let _ ← required "collation" r.sum
    if ← keyword .usingClause then
      let _ ← required "expression" r.disjunction

/-- A change of a column or of an index, after the word for it. -/
def alterAction (d : Dialect) (r : Rules) : Reader Bool := do
  if ← accept fun t => d == .mysql && t.isKeyword .index then
    let _ ← required "index" (field? d r true)
    let _ ← oneOf? ["VISIBLE", "INVISIBLE"]
  else
    let _ ← keyword .column
    let _ ← required "column" (field? d r true)
    columnChange r
  return true

/-- A column that is defined anew, after the word for that; `renamed` tells whether its old name
comes first. -/
def redefineAction (d : Dialect) (r : Rules) (renamed : Bool) : Reader Bool := do
  let _ ← keyword .column
  if renamed then
    let _ ← required "column" (field? d r true)
  match ← columnOrTerm? d r with
  | some (.inr _) =>
    columnPlace r
    return true
  | _ => return false

/-- A new name, after the word for it. -/
def renameAction (d : Dialect) (r : Rules) : Reader Bool := do
  let pair (n : Reader (Option Term)) : Reader Bool := do
    let old ← n
    let directed ← word "TO"
    let new ← n
    return old.isSome && directed && new.isSome
  if ← keyword .column then
    ifExists
    pair r.column
  else if ← accept fun t => d == .mysql && (t.isKeyword .index || t.isKeyword .key) then
    pair anyName?
  else
    let _ ← word "TO"
    let _ ← listedTable d r
    return true

/-- Settings of a table, after the word for them. -/
def setAction (d : Dialect) (r : Rules) : Reader Bool := do
  let value : Reader Bool := do
    let _ ← field? d r false
    return true
  if (← sees (·.isSign .lParen)) || (← words ["TABLE", "PROPERTIES"]) then
    let _ ← wrappedList r.disjunction
    return true
  else if (← oneOf? ["LOGGED", "UNLOGGED"]).isSome then return true
  else if ← word "WITHOUT" then
    let _ ← oneOf? ["CLUSTER", "OIDS"]
    return true
  else if ← anyWords [["LOCATION"], ["ACCESS", "METHOD"], ["TABLESPACE"], ["FILE", "FORMAT"],
      ["FILEFORMAT"]] then value
  else if ← anyWords [["TAG"], ["TAGS"]] then
    let _ ← commaList r.disjunction
    return true
  else
    if ← word "SERDE" then
      let _ ← field? d r false
    if ← sees (·.isSign .lParen) then
      let _ ← wrapped (properties d r)
    else
      let _ ← properties d r
    return true

/-- The action that a word begins, if there is one. -/
def actionOf? (d : Dialect) (r : Rules) (w : String) : Option (Reader Bool) :=
  match w with
  | "ADD" => some (addAction d r)
  | "ALTER" => some (alterAction d r)
  | "AS" => some do return (← r.query).isSome
  | "CLUSTER BY" => some do
    let _ ← wrappedList (ordered? r r.disjunction)
    return true
  | "DELETE" => some do
    let _ ← clauseOf d r .whereClause
    return true
  | "DROP" => some (dropAction d r)
  | "RENAME" => some (renameAction d r)
  | "SET" => some (setAction d r)
  | "SWAP" => some do
    if ← keyword .withClause then
      let _ ← listedTable d r
    return true
  | "MODIFY" => if d == .mysql then some (redefineAction d r false) else none
  | "CHANGE" => if d == .mysql then some (redefineAction d r true) else none
  | _ => none

/-- An action on what is altered; whether there is one. -/
def action (d : Dialect) (r : Rules) : Reader Bool := do
  let start ← get
  match (← peek).map Token.capitals, ← peekSecond with
  | some w, some _ => match actionOf? d r w with
    | some body =>
      skip
      body
    | none =>
      let given ← if d == .mysql then commaList (property? d r) else pure []
      if given.isEmpty then backTo start
      return !given.isEmpty
  | _, _ => return false

/-! ## Statements -/

/-- Alters something, after the first word; a command where an action can not be read. -/
def alterAfter (d : Dialect) (r : Rules) : Reader Statement := do
  let _ ← word "ICEBERG"
  match ← oneOf? ["INDEX", "SESSION", "TABLE", "VIEW"] with
  | none => asCommand
  | some kind =>
    ifExists
    unless kind == "SESSION" do
      let _ ← listedTable d r
      let _ ← words ["WITH", "CHECK"]
      if ← keyword .on then onAction r
    let acted ← action d r
    let _ ← words ["NOT", "VALID"]
    let _ ← commaList (property? d r)
    if acted then orCommand "alter" else asCommand

/-- The thing that is commented on, by its kind. -/
def commented (d : Dialect) (r : Rules) (kind : String) : Reader Unit := do
  match kind with
  | "FUNCTION" | "PROCEDURE" =>
    let _ ← tablePath
    if ← sign .lParen then
      let _ ← commaList r.parameter
      closing
  | "TABLE" =>
    let _ ← sourceWith d r fun t => canNameSource d t && !t.isKeyword .is
  | "COLUMN" =>
    let _ ← required "column" r.column
  | _ =>
    let _ ← required "name" anyName?

/-- The comment of a thing, after the first word. -/
def commentAfter (d : Dialect) (r : Rules) : Reader Statement := do
  ifExists
  let _ ← keyword .on
  let _ ← word "MATERIALIZED"
  match ← creatable? d with
  | none => asCommand
  | some kind =>
    commented d r kind
    let _ ← keyword .is
    let _ ← required "comment" textLiteral?
    return .other "comment"

end TableDoc.Sql
