import TableDoc.Sql.Query

/-!
# Indexes and keys

The clauses that list columns: indexes, unique indexes, primary keys and foreign keys, with their
members and their settings.
-/

namespace TableDoc.Sql

open Reader

/-! ## The words of clauses -/

/-- Words that begin a clause about the table. -/
def tableWords (d : Dialect) : List String :=
  ["BUCKET", "CHECK", "EXCLUDE", "FOREIGN KEY", "LIKE", "PERIOD", "PRIMARY KEY", "TRUNCATE",
   "UNIQUE"] ++
    match d with
    | .mysql => ["FULLTEXT", "INDEX", "KEY", "SPATIAL"]
    | .postgres => []

/-- Words that begin a clause about a column. -/
def columnWords (d : Dialect) : List String :=
  tableWords d ++
    ["AUTOINCREMENT", "AUTO_INCREMENT", "CASESPECIFIC", "CHAR", "CHARACTER", "CLUSTERED",
     "COLLATE", "COMMENT", "COMPRESS", "DEFAULT", "ENCODE", "EPHEMERAL", "FORMAT", "GENERATED",
     "IDENTITY", "INLINE", "NONCLUSTERED", "NOT", "NULL", "ON", "PATH", "REFERENCES", "TITLE",
     "TTL", "UPPERCASE", "WITH"] ++
    match d with
    | .mysql => ["ASCII", "BINARY", "CHARSET", "INVISIBLE", "SIGNED", "UNICODE", "ZEROFILL"]
    | .postgres => []

/-! ## Options -/

/-- What happens to rows that refer to a row that changes. -/
def keyAction : Reader Bool :=
  anyWords [["NO", "ACTION"], ["CASCADE"], ["RESTRICT"], ["SET", "NULL"], ["SET", "DEFAULT"]]

/-- An option of a key. -/
def keyOption? : Reader (Option Unit) := do
  if ← keyword .on then
    skip
    if ← keyAction then return some () else fail (.expected "action")
  else
    let taken ← anyWords [["NOT", "ENFORCED"], ["MATCH", "FULL"], ["MATCH", "PARTIAL"],
      ["MATCH", "SIMPLE"], ["INITIALLY", "DEFERRED"], ["INITIALLY", "IMMEDIATE"],
      ["USING", "BTREE"], ["USING", "HASH"], ["DEFERRABLE"], ["NORELY"], ["RELY"]]
    return if taken then some () else none

/-- The options of a key. -/
def keyOptions : Reader Unit := do
  let _ ← many keyOption?

/-- A setting after an index. -/
def indexOption? (d : Dialect) : Reader (Option Unit) := do
  if ← word "KEY_BLOCK_SIZE" then
    let _ ← sign .eq
    let _ ← take? (·.kind == .number)
    return some ()
  else if ← keyword .usingClause then
    let _ ← anyWord?
    return some ()
  else if ← words ["WITH", "PARSER"] then
    let _ ← anyVariable?
    return some ()
  else if ← keyword .comment then
    let _ ← textLiteral?
    return some ()
  else if (← oneOf? ["VISIBLE", "INVISIBLE"]).isSome then return some ()
  else if (← oneOf? ["ENGINE_ATTRIBUTE", "SECONDARY_ENGINE_ATTRIBUTE"]).isSome then
    let _ ← sign .eq
    let _ ← literal? d
    return some ()
  else return none

/-- The settings after an index. -/
def indexOptions (d : Dialect) : Reader Unit := do
  let _ ← many (indexOption? d)

/-! ## Members -/

/-- A member of an index with its operator. -/
def indexMember? (r : Rules) : Reader (Option Term) := do
  let member ← ordered? r do
    match ← r.disjunction with
    | none => return none
    | some t =>
      let ends ← sees fun t => t.isSign .comma || t.isSign .rParen || t.isKeyword .asc ||
        t.isKeyword .desc || t.isWord "NULLS" || t.isKeyword .withClause
      unless ends do
        let _ ← tablePath
      return some t
  if ← keyword .withClause then skip
  return member

/-- How an index is built, and on what. -/
def indexParameters (d : Dialect) (r : Rules) : Reader Unit := do
  let placed := words ["USING", "INDEX", "TABLESPACE"] >>= fun placed => do
    if placed then
      let _ ← anyVariable?
    return placed
  unless ← placed do
    if ← keyword .usingClause then
      let _ ← anyVariable?
  if ← sees (·.isSign .lParen) then
    let _ ← wrappedList (indexMember? r)
  if ← word "INCLUDE" then
    let _ ← wrappedList anyName?
  let _ ← partitions r
  if ← keyword .withClause then
    let _ ← wrappedList r.property
  let _ ← placed
  if ← keyword .whereClause then
    let _ ← required "condition" r.disjunction
  if ← keyword .on then
    let _ ← field? d r false

/-- A name with the number of characters that count. -/
def memberPrefix : Reader (Option Term) := do
  match ← anyName? with
  | none => return none
  | some n =>
    if ← sign .lParen then
      let _ ← take? (·.kind == .number)
      closing
    return some n

/-- A member of an index: a name with the number of characters that count, or an expression. -/
def keyMember? (r : Rules) : Reader (Option Term) := do
  let named := !(← sees (·.isSign .lParen)) && (← peekSecond).any (·.isSign .lParen)
  ordered? r (if named then memberPrefix else r.disjunction)

/-- Whether a token can name a list: it is no word that begins a clause. The words for a character
set alone begin none. -/
def canNameList (d : Dialect) (t : Token) : Bool :=
  t.kind == .quotedName || (t.isName &&
    (t.isWord "CHARACTER" || t.isWord "CHAR" || !(columnWords d).contains t.capitals))

/-- The name that a list may have, if one stands here. -/
def listName? (d : Dialect) : Reader (Option Term) := do
  if ← sees (canNameList d) then plainName? else return none

/-! ## Keys -/

/-- An index after its word, or after the words for its kind. -/
def indexAfter (d : Dialect) (r : Rules) (kind : Option String) : Reader Clause := do
  if kind.isSome then
    let _ ← oneOf? ["INDEX", "KEY"]
  let n ← if ← sees (·.isKeyword .usingClause) then pure none else plainName?
  if ← keyword .usingClause then
    let _ ← anyWord?
  let members ← wrappedList (keyMember? r)
  indexOptions d
  return .index kind n members

/-- A unique index in the dialect that names it and orders its members. -/
def orderedUnique (d : Dialect) (r : Rules) : Reader Clause := do
  let _ ← oneOf? ["KEY", "INDEX"]
  let n ← listName? d
  if ← sees (·.isKeyword .usingClause) then
    let _ ← indexOption? d
  if ← sees (·.isSign .lParen) then
    let members ← wrappedList (keyMember? r)
    indexOptions d
    return .uniqueKey n members
  else return .other "uniquecolumnconstraint"

/-- A unique index in the dialect that lists its members as a table does its columns. -/
def listedUnique (d : Dialect) (r : Rules) : Reader Clause := do
  let _ ← words ["NULLS", "NOT", "DISTINCT"]
  let list ← r.columns
  indexParameters d r
  keyOptions
  match list with
  | some es => return .uniqueKey none (es.map Entry.member)
  | none => return .other "uniquecolumnconstraint"

/-- A unique index after its word. -/
def uniqueAfter (d : Dialect) (r : Rules) : Reader Clause :=
  match d with
  | .mysql => orderedUnique d r
  | .postgres => listedUnique d r

/-- The members of a primary key with its settings. -/
def primaryMembers (d : Dialect) (r : Rules) : Reader (List Term) := do
  let members ← wrappedList (match d with
    | .mysql => memberPrefix
    | .postgres => field? d r false)
  if members.isEmpty then fail (.missing "column")
  if d == .mysql then indexOptions d
  indexParameters d r
  keyOptions
  if d == .mysql then indexOptions d
  return members

/-- A primary key after its words. -/
def primaryAfter (d : Dialect) (r : Rules) : Reader Clause := do
  let _ ← accept fun t => t.isKeyword .asc || t.isKeyword .desc
  let named := d == .mysql && (← peekSecond).any (·.isSign .lParen)
  if named then
    let _ ← listName? d
  if ← sees (·.isSign .lParen) then return .primaryKey (← primaryMembers d r)
  else
    keyOptions
    if d == .postgres then
      indexParameters d r
      keyOptions
    return .other "primarykeycolumnconstraint"

/-- A table that rows refer to, with the columns. -/
def referenced (d : Dialect) (r : Rules) : Reader Unit := do
  let _ ← listedTable d r
  keyOptions

/-- A foreign key after its words. -/
def foreignAfter (d : Dialect) (r : Rules) : Reader Clause := do
  if d == .mysql && !(← sees (·.isSign .lParen)) then
    let _ ← plainName?
  unless ← sees (·.isKeyword .references) do
    let _ ← wrappedList anyName?
  if ← keyword .references then referenced d r
  keyOptions
  return .other "foreignkey"

end TableDoc.Sql
