import TableDoc.Sql.Creation

/-!
# Statements about the session and the stored tables

Statements that describe, show, look after or empty what is stored, that grant rights, and that
begin and end transactions.
-/

namespace TableDoc.Sql

open Reader

/-! ## Descriptions -/

/-- A query, or a table with the columns that may be listed after it. -/
def queryOrListed (d : Dialect) (r : Rules) : Reader Unit := do
  if ← sign .lParen then
    let _ ← sourceParen d r
  else if (← r.query).isNone then
    let _ ← listedTable d r

/-- Describes a table or a statement, after the first word; `opens` tells which tokens begin a
statement. -/
def describeAfter (d : Dialect) (r : Rules) (opens : Token → Bool) : Reader Statement := do
  let _ ← creatable? d
  let start ← get
  if (← oneOf? ["ANALYZE", "EXTENDED", "FORMATTED", "HISTORY"]).isSome then
    if ← sees (·.isSign .dot) then backTo start
  if ← sees (·.isKeyword .format) then
    let _ ← property? d r
  if ← sees opens then
    let _ ← r.statement
  else queryOrListed d r
  let _ ← properties d r
  let _ ← partitionChoice r
  let _ ← words ["AS", "JSON"]
  return .other "describe"

/-- The things that can be shown, in the words for them, and whether a name follows, with the word
before that name. -/
def showable : List (List String × Option (Option String)) :=
  [(["BINARY", "LOGS"], none), (["MASTER", "LOGS"], none), (["BINLOG", "EVENTS"], none),
   (["CHARACTER", "SET"], none), (["CHARSET"], none), (["COLLATION"], none),
   (["FULL", "COLUMNS"], some (some "FROM")), (["COLUMNS"], some (some "FROM")),
   (["CREATE", "DATABASE"], some none), (["CREATE", "EVENT"], some none),
   (["CREATE", "FUNCTION"], some none), (["CREATE", "PROCEDURE"], some none),
   (["CREATE", "TABLE"], some none), (["CREATE", "TRIGGER"], some none),
   (["CREATE", "VIEW"], some none), (["DATABASES"], none), (["SCHEMAS"], none),
   (["ENGINE"], some none), (["STORAGE", "ENGINES"], none), (["ENGINES"], none),
   (["ERRORS"], none), (["EVENTS"], none), (["FUNCTION", "CODE"], some none),
   (["FUNCTION", "STATUS"], none), (["GRANTS"], some (some "FOR")),
   (["INDEX"], some (some "FROM")), (["MASTER", "STATUS"], none), (["OPEN", "TABLES"], none),
   (["PLUGINS"], none), (["PROCEDURE", "CODE"], some none), (["PROCEDURE", "STATUS"], none),
   (["PRIVILEGES"], none), (["FULL", "PROCESSLIST"], none), (["PROCESSLIST"], none),
   (["PROFILE"], none), (["PROFILES"], none), (["RELAYLOG", "EVENTS"], none),
   (["REPLICAS"], none), (["SLAVE", "HOSTS"], none), (["REPLICA", "STATUS"], none),
   (["SLAVE", "STATUS"], none), (["GLOBAL", "STATUS"], none), (["SESSION", "STATUS"], none),
   (["STATUS"], none), (["TABLE", "STATUS"], none), (["FULL", "TABLES"], none),
   (["TABLES"], none), (["TRIGGERS"], none), (["GLOBAL", "VARIABLES"], none),
   (["SESSION", "VARIABLES"], none), (["VARIABLES"], none), (["WARNINGS"], none)]

/-- What a profile of a query tells. -/
def profileParts : List (String × List (List String)) :=
  [("ALL", []), ("CPU", []), ("IPC", []), ("MEMORY", []), ("SOURCE", []), ("SWAPS", []),
   ("BLOCK", [["IO"]]), ("CONTEXT", [["SWITCHES"]]), ("PAGE", [["FAULTS"]])]

/-- The profile of a query, after the word for it. -/
def showProfile : Reader Unit := do
  let _ ← commaList do
    if ← atEnd then return none
    else if ← choice profileParts then return some ()
    else fail (.expected "part of a profile")
  for ws in [["FOR", "QUERY"], ["OFFSET"], ["LIMIT"]] do
    if ← words ws then
      let _ ← number?

/-- What narrows down what is shown, after the words for it and the name. -/
def showNarrowed (d : Dialect) (r : Rules) (shown : List String) : Reader Unit := do
  if ← word "IN" then
    let _ ← textLiteral?
  if shown.getLast? == some "EVENTS" && shown.length == 2 then
    if ← word "FROM" then
      let _ ← number?
  else if ← keyword .fromClause then
    let _ ← anyName?
  else if ← sign .dot then
    let _ ← anyName?
  if ← words ["FOR", "CHANNEL"] then
    let _ ← anyName?
  if ← word "LIKE" then
    let _ ← textLiteral?
  if ← sees (·.isKeyword .whereClause) then
    let _ ← clauseOf d r .whereClause
  if shown == ["PROFILE"] then showProfile
  else if ← word "LIMIT" then
    let _ ← commaList number?
  let _ ← oneOf? ["MUTEX"]
  let _ ← oneOf? ["STATUS"]
  if ← words ["FOR", "TABLE"] then
    let _ ← anyName?
  for ws in [["FOR", "GROUP"], ["FOR", "USER"], ["FOR", "ROLE"], ["INTO", "OUTFILE"]] do
    if ← words ws then
      let _ ← textLiteral?

/-- Shows something, after the first word; a command where that is nothing known. -/
def showAfter (d : Dialect) (r : Rules) : Reader Statement := do
  let found ← showable.findM? fun entry => words entry.1
  match found with
  | none => asCommand
  | some (shown, name) =>
    let _ ← word "JSON"
    match name with
    | some before =>
      if let some w := before then
        let _ ← word w
      let _ ← anyName?
    | none => pure ()
    showNarrowed d r shown
    return .other "show"

/-! ## Rights -/

/-- A right, in words up to a sign or `ON`, and the columns that it is limited to. -/
def privilege? (r : Rules) : Reader (Option Unit) := do
  let _ ← many (take? fun t => !(t.isKeyword .on || t.isSign .comma || t.isSign .lParen))
  if ← sees (·.isSign .lParen) then
    let _ ← wrappedList r.column
  return some ()

/-- One who is given a right. -/
def principal? : Reader (Option Term) := do
  let _ ← oneOf? ["ROLE", "GROUP"]
  anyName?

/-- Rights on something; whether they are followed by a word, and after it by all of the rest. -/
def rights (d : Dialect) (r : Rules) (direction : String) (rest : Reader Unit) :
    Reader Bool := do
  let _ ← commaList (privilege? r)
  let _ ← keyword .on
  let _ ← creatable? d
  match ← attempt tablePath? with
  | none => return false
  | some _ =>
    if ← word direction then
      let who ← commaList principal?
      rest
      if (← atEnd) && who.isEmpty then fail (.missing "user")
      atEnd
    else return false

/-- Grants or revokes rights, after the first word. -/
def grantAfter (d : Dialect) (r : Rules) (grants : Bool) : Reader Statement := do
  unless grants do
    let _ ← words ["GRANT", "OPTION", "FOR"]
  let rest : Reader Unit := do
    if grants then
      let _ ← words ["WITH", "GRANT", "OPTION"]
    else
      let _ ← oneOf? ["CASCADE", "RESTRICT"]
  let done ← rights d r (if grants then "TO" else "FROM") rest
  if done then return .other (if grants then "grant" else "revoke") else asCommand

/-! ## Upkeep -/

/-- How the values of columns are counted in an analysis, after the first word. -/
def analyzedHistogram (r : Rules) : Reader Unit := do
  unless ← words ["HISTOGRAM", "ON"] do fail (.missing "column")
  let columns ← commaList r.column
  if columns.isEmpty then fail (.missing "column")
  let _ ← many do
    if ← keyword .withClause then
      if (← oneOf? ["SYNC", "ASYNC"]).isSome then
        let _ ← word "MODE"
      else
        let _ ← number?
        let _ ← word "BUCKETS"
      return some ()
    else return none
  unless ← anyWords [["MANUAL", "UPDATE"], ["AUTO", "UPDATE"]] do
    if ← words ["USING", "DATA"] then
      let _ ← textLiteral?

/-- How the rows of a table are counted in an analysis, after the first word. -/
def analyzedStatistics (r : Rules) : Reader Unit := do
  let _ ← word "DELTA"
  unless ← word "STATISTICS" do fail (.expected "STATISTICS")
  unless ← word "NOSCAN" do
    if ← keyword .forClause then
      let _ ← words ["ALL", "COLUMNS"]
      if ← word "COLUMNS" then
        let _ ← commaList r.column
    else if ← word "SAMPLE" then
      let _ ← number?
      let _ ← keyword .percent

/-- What an analysis does, if it is said here. -/
def analyzed (r : Rules) : Reader Bool := do
  match ← oneOf? ["ALL", "COMPUTE", "DELETE", "DROP", "ESTIMATE", "LIST", "PREDICATE", "UPDATE",
      "VALIDATE"] with
  | none => return false
  | some w =>
    match w with
    | "COMPUTE" | "ESTIMATE" => analyzedStatistics r
    | "DROP" | "UPDATE" => analyzedHistogram r
    | "DELETE" =>
      let _ ← word "SYSTEM"
      let _ ← word "STATISTICS"
    | "LIST" =>
      let _ ← words ["CHAINED", "ROWS"]
    | "VALIDATE" =>
      if ← words ["REF", "UPDATE"] then
        let _ ← words ["SET", "DANGLING", "TO", "NULL"]
      else if ← word "STRUCTURE" then
        let _ ← anyWords [["CASCADE", "FAST"], ["CASCADE", "COMPLETE", "ONLINE"],
          ["CASCADE", "COMPLETE", "OFFLINE"]]
    | _ =>
      let _ ← word "COLUMNS"
    return true

/-- What is analysed; whether that includes what the analysis does. -/
def analyzedThing (d : Dialect) (r : Rules) : Reader Bool := do
  if ← accept fun t => t.isKeyword .table || t.isKeyword .index then
    let _ ← tablePath
    return false
  else if ← word "TABLES" then
    if ← accept fun t => t.isKeyword .fromClause || t.isKeyword .inList then
      let _ ← listedTable d r
    return false
  else if ← word "DATABASE" then
    let _ ← listedTable d r
    return false
  else if ← word "CLUSTER" then
    let _ ← source d r
    return false
  else if ← analyzed r then return true
  else
    let _ ← tablePath
    return false

/-- Analyses something, after the first word. -/
def analyzeAfter (d : Dialect) (r : Rules) : Reader Statement := do
  unless ← atEnd do
    let _ ← many do
      match ← oneOf? ["BUFFER_USAGE_LIMIT", "FULL", "LOCAL", "NO_WRITE_TO_BINLOG", "SAMPLE",
          "SKIP_LOCKED", "VERBOSE"] with
      | none => return none
      | some w =>
        if w == "BUFFER_USAGE_LIMIT" then
          let _ ← number?
        return some ()
    let _ ← analyzedThing d r
    let _ ← attempt do return if ← partitionChoice r then some () else none
    if (← oneOf? ["PARTITION", "SUBPARTITION"]).isSome then return ← asCommand
    let _ ← anyWords [["WITH", "SYNC", "MODE"], ["WITH", "ASYNC", "MODE"]]
    let _ ← analyzed r
    let _ ← properties d r
  return .other "analyze"

/-- Keeps the rows of a table at hand, after the first word. -/
def cacheAfter (d : Dialect) (r : Rules) : Reader Statement := do
  let _ ← word "LAZY"
  let _ ← keyword .table
  let _ ← listedTable d r
  if ← word "OPTIONS" then
    let _ ← wrapped do
      let _ ← textLiteral?
      let _ ← sign .eq
      textLiteral?
  let _ ← keyword .asAlias
  let _ ← nestedQuery? d r true
  return .other "cache"

/-- Keeps the rows of a table at hand no longer, after the first word. -/
def uncacheAfter (d : Dialect) (r : Rules) : Reader Statement := do
  unless ← keyword .table do fail (.expected "TABLE")
  ifExists
  let _ ← listedTable d r
  return .other "uncache"

/-- Empties tables, after the first word. -/
def truncateAfter (d : Dialect) (r : Rules) : Reader Statement := do
  let _ ← keyword .database
  let _ ← keyword .table
  ifExists
  let _ ← commaList (some <$> listedTable d r)
  if ← keyword .on then onAction r
  let _ ← anyWords [["RESTART", "IDENTITY"], ["CONTINUE", "IDENTITY"]]
  let _ ← oneOf? ["CASCADE", "RESTRICT"]
  let _ ← partitionChoice r
  orCommand "truncatetable"

/-! ## Sessions -/

/-- Chooses what names are looked up in, after the first word. -/
def useAfter (d : Dialect) (r : Rules) : Reader Statement := do
  let _ ← oneOf? ["ROLE", "WAREHOUSE", "DATABASE", "SCHEMA", "CATALOG"]
  let _ ← source d r
  return .other "use"

/-- Begins a transaction, after the first word. -/
def beginAfter : Reader Statement := do
  let _ ← oneOf? ["DEFERRED", "IMMEDIATE", "EXCLUSIVE"]
  let _ ← oneOf? ["TRANSACTION", "WORK"]
  let _ ← commaList (some <$> many (take? (·.kind == .word)))
  return .other "transaction"

/-- Ends a transaction, after the first word. -/
def endAfter (cls : String) : Reader Statement := do
  let _ ← oneOf? ["TRANSACTION", "WORK"]
  if ← word "TO" then
    let _ ← word "SAVEPOINT"
    let _ ← anyName?
  if ← keyword .and then
    let _ ← word "NO"
    let _ ← word "CHAIN"
  return .other cls

/-- Turns rows into columns or columns into rows, after the first word. -/
def pivotAfter (d : Dialect) (r : Rules) : Reader Statement := do
  let _ ← source d r
  if ← keyword .on then
    let _ ← commaList do
      match ← r.bitwise with
      | none => return none
      | some t =>
        if ← keyword .inList then return some (← inAfter r t) else withName d r true (some t)
  if ← keyword .usingClause then
    let _ ← commaList (r.column >>= withName d r false)
  if ← sees (·.isKeyword .groupBy) then
    let _ ← clauseOf d r .groupBy
  return .other "pivot"

end TableDoc.Sql
