import TableDoc.Sql.Column
import TableDoc.Sql.Setting

/-!
# Properties

What may stand around the column list of a table or before the word for what is created: words
with values of their own, and settings of the form `name = value`. Where a word begins a property
that then turns out to be none, the properties end; some words are given back then and others stay
taken.
-/

namespace TableDoc.Sql

open Reader

/-! ## Values -/

/-- A value after an optional equals sign. -/
def assigned? (d : Dialect) (r : Rules) : Reader (Option Term) := do
  let _ ← sign .eq
  let _ ← keyword .asAlias
  field? d r false

/-- Names in parentheses. -/
def wrappedNames : Reader Unit := do
  let _ ← wrappedList anyName?

/-- Gives back the word taken last, as there is no property. -/
def giveBack : Reader Bool := do
  let c ← get
  match c.prev with
  | some t => backTo ⟨none, t :: c.rest⟩
  | none => pure ()
  return false

/-- A character set after the words for it. -/
def charsetAfter : Reader Unit := do
  let _ ← sign .eq
  let _ ← required "character set" wordOrText?

/-! ## Partitions and places -/

/-- One partition of a table cut by ranges: its name, and perhaps its upper bounds. -/
def rangePartition? (d : Dialect) (r : Rules) : Reader (Option Unit) := do
  let _ ← keyword .partition
  let n ← anyName?
  if ← words ["VALUES", "LESS", "THAN"] then
    let _ ← wrappedList (r.expression d)
    return some ()
  else return n.map fun _ => ()

/-- One partition of a table cut by lists: its name and its values. -/
def listPartition? (d : Dialect) (r : Rules) : Reader (Option Unit) := do
  let _ ← keyword .partition
  let _ ← anyName?
  let _ ← words ["VALUES", "IN"]
  let _ ← wrappedList (r.expression d)
  return some ()

/-- What a table is cut by, with the partitions where they are listed. -/
def cutPartitions (r : Rules) (item : Reader (Option Unit)) : Reader Unit := do
  let _ ← wrappedList r.disjunction
  let start ← get
  let listed ← sequence [(·.isSign .lParen), (·.isWord "PARTITION")]
  backTo start
  if listed then
    let _ ← wrappedList item

/-- What a table is cut by, after the words for it. -/
def partitionedBy (d : Dialect) (r : Rules) : Reader Unit := do
  let _ ← sign .eq
  if (← r.columns).isNone then
    let t ← required "partition" (field? d r false)
    let _ ← extend (bracketAfter? d r) t

/-- How a table is cut into partitions, after the words for it. One dialect knows ranges and lists
alone. -/
def partitioned (d : Dialect) (r : Rules) : Reader Bool := do
  match d with
  | .mysql =>
    if ← word "RANGE" then
      cutPartitions r (rangePartition? d r)
      return true
    else if ← word "LIST" then
      cutPartitions r (listPartition? d r)
      return true
    else return false
  | .postgres =>
    partitionedBy d r
    return true

/-- One bound of the values of a partition. -/
def partitionBound? (r : Rules) : Reader (Option Unit) := do
  if (← oneOf? ["MINVALUE", "MAXVALUE"]).isSome then return some ()
  else return (← r.bitwise).map fun _ => ()

/-- The values that a partition holds. -/
def partitionValues (r : Rules) : Reader Unit := do
  if ← keyword .inList then
    let _ ← wrappedList r.bitwise
  else if ← keyword .fromClause then
    let _ ← wrappedList (partitionBound? r)
    let _ ← word "TO"
    let _ ← wrappedList (partitionBound? r)
  else if ← words ["WITH", "(", "MODULUS"] then
    let _ ← number?
    let _ ← words [",", "REMAINDER"]
    let _ ← number?
    closing
  else fail (.expected "bounds")

/-- The table that a partition belongs to and the values that it holds, after the first word. -/
def partitionOf (d : Dialect) (r : Rules) : Reader Bool := do
  if ← word "OF" then
    let _ ← listedTable d r
    if ← keyword .default then return true
    else if ← words ["FOR", "VALUES"] then
      partitionValues r
      return true
    else fail (.expected "values")
  else giveBack

/-- The columns that tell in which of so many buckets a row is kept, after the first word. -/
def clusteredBy (r : Rules) : Reader Unit := do
  let _ ← word "BY"
  let columns ← wrappedList r.column
  if columns.isEmpty then fail (.missing "column")
  if ← words ["SORTED", "BY"] then
    let _ ← wrappedList (ordered? r r.disjunction)
  let _ ← keyword .into
  let _ ← required "buckets" number?
  let _ ← word "BUCKETS"

/-- How rows are spread over places, after the first word. -/
def distributed (r : Rules) : Reader Unit := do
  if ← words ["BY", "HASH"] then wrappedNames
  else
    let _ ← words ["BY", "RANDOM"]
  if ← word "BUCKETS" then
    unless ← word "AUTO" do
      let _ ← number?
  let _ ← ordering? r

/-! ## Forms of storage -/

/-- How rows are written, after the words for it. -/
def rowForm : Reader Unit := do
  if ← word "SERDE" then
    let _ ← required "name" textLiteral?
  else
    let _ ← word "DELIMITED"
    let ended (ws : List String) : Reader Bool := do
      if ← words ws then
        let _ ← textLiteral?
        return true
      else return false
    if ← ended ["FIELDS", "TERMINATED", "BY"] then
      let _ ← ended ["ESCAPED", "BY"]
    let _ ← ended ["COLLECTION", "ITEMS", "TERMINATED", "BY"]
    let _ ← ended ["MAP", "KEYS", "TERMINATED", "BY"]
    let _ ← ended ["LINES", "TERMINATED", "BY"]
    let _ ← ended ["NULL", "DEFINED", "AS"]

/-- The form of a file after the first word. -/
def storedAs : Reader Unit := do
  if ← word "BY" then
    let _ ← required "handler" wordOrText?
  else
    let _ ← keyword .asAlias
    let input ← do
      if ← word "INPUTFORMAT" then textLiteral? else pure none
    let output ← do
      if ← word "OUTPUTFORMAT" then textLiteral? else pure none
    if input.isNone && output.isNone then
      let _ ← firstOf [wordOrText?, number?]

/-- Settings in parentheses after a name in parentheses. -/
def dictionary : Reader Unit := do
  let _ ← wrapped do
    let _ ← anyName?
    if ← sign .lParen then
      let _ ← many do
        let key ← anyName?
        let value ← firstOf [textLiteral?, number?, anyVariable?]
        return if key.isNone && value.isNone then none else some ()
      let _ ← sign .rParen

/-- A range of values in parentheses. -/
def valueRange : Reader Unit := do
  let value := firstOf [freeWord?, textLiteral?, number?]
  let _ ← wrapped do
    if ← word "MIN" then
      let _ ← value
      let _ ← word "MAX"
    let _ ← value

/-- How versions of rows are kept, after the word for it. -/
def versioning : Reader Unit := do
  let _ ← sign .eq
  unless ← word "OFF" do
    let _ ← keyword .on
    if ← sign .lParen then
      let _ ← many do
        if ← words ["HISTORY_TABLE", "="] then
          let _ ← tablePath
          let _ ← sign .comma
          return some ()
        else if ← words ["DATA_CONSISTENCY_CHECK", "="] then
          skip
          let _ ← sign .comma
          return some ()
        else return none
      closing

/-- What is done with rows after some time, after the word for it. -/
def timeToLive (d : Dialect) (r : Rules) : Reader Unit := do
  let _ ← commaList do
    match ← r.bitwise with
    | none => return none
    | some t =>
      unless ← word "DELETE" do
        if ← word "RECOMPRESS" then
          let _ ← r.bitwise
        else if ← anyWords [["TO", "DISK"], ["TO", "VOLUME"]] then
          let _ ← textLiteral?
      return some t
  if ← sees (·.isKeyword .whereClause) then
    let _ ← clauseOf d r .whereClause
  if ← sees (·.isKeyword .groupBy) then
    let _ ← clauseOf d r .groupBy
    if ← keyword .set then
      let _ ← commaList (sessionSetting? d r)

/-- A lock on what is read, after the word for it. -/
def locking : Reader Unit := do
  match ← oneOf? ["TABLE", "VIEW", "ROW", "DATABASE"] with
  | none => fail (.missing "kind")
  | some kind =>
    if kind != "ROW" then
      let _ ← tablePath
    let _ ← accept fun t => t.isKeyword .forClause || t.isKeyword .inList
    let type ← oneOf? ["ACCESS", "EXCL", "EXCLUSIVE", "SHARE", "READ", "WRITE", "CHECKSUM"]
    if type.isNone then fail (.missing "lock")
    let _ ← word "OVERRIDE"

/-! ## Other properties -/

/-- What a function returns, after the word for it. -/
def returned (d : Dialect) (r : Rules) : Reader Unit := do
  if ← keyword .table then
    if ← sign .lt then
      let _ ← commaList (typeField? d r)
      must .gt "closing angle bracket"
    else
      let _ ← r.columns
  else unless ← words ["NULL", "ON", "NULL", "INPUT"] do
    let _ ← r.types {}

/-- The user in whose name something runs, after the word for it. -/
def definer : Reader Bool := do
  let _ ← sign .eq
  let user ← anyName?
  let _ ← sign .at
  match ← anyName? with
  | some _ => return user.isSome
  | none => return (← accept fun t => t.isSign .remainder || t.isSign .percent) && user.isSome

/-- What happens to rows at the end of a transaction, or where they are kept, after the word for
it. -/
def onAction (r : Rules) : Reader Unit := do
  unless ← anyWords [["COMMIT", "PRESERVE", "ROWS"], ["COMMIT", "DELETE", "ROWS"]] do
    let n ← anyName?
    let columns ← r.columns
    if n.isNone && columns.isNone then fail (.missing "name")

/-- Properties in parentheses; whether there is any. -/
def wrappedProperties (r : Rules) : Reader Bool := do return !(← wrappedList r.property).isEmpty

/-- How a table is loaded apart from others, after the word `WITH`, which is given back where this
does not stand here. -/
def isolatedLoading : Reader Bool := do
  let start ← get
  let _ ← word "NO"
  let _ ← word "CONCURRENT"
  if ← words ["ISOLATED", "LOADING"] then
    let _ ← choice [("FOR", [["ALL"], ["INSERT"], ["NONE"]])]
    return true
  else
    backTo start
    giveBack

/-- Words for how a procedure runs. -/
def procedureWords : List String :=
  ["ENCRYPTION", "RECOMPILE", "SCHEMABINDING", "NATIVE_COMPILATION", "EXECUTE"]

/-- A property after the word `WITH`. -/
def withAfter (r : Rules) : Reader Bool := do
  if ← words ["(", "SYSTEM_VERSIONING"] then
    versioning
    closing
    return true
  else if ← sees (·.isSign .lParen) then wrappedProperties r
  else if ← word "JOURNAL" then
    let _ ← keyword .table
    let _ ← sign .eq
    let _ ← tablePath
    return true
  else if (← oneOf? ["ENCRYPTION", "SCHEMABINDING", "VIEW_METADATA"]).isSome then return true
  else if ← anyWords [["DATA"], ["NO", "DATA"]] then
    let _ ← anyWords [["AND", "STATISTICS"], ["AND", "NO", "STATISTICS"]]
    return true
  else if ← keyword .schema then
    if (← oneOf? ["BINDING", "COMPENSATION", "EVOLUTION"]).isNone then fail (.missing "binding")
    return true
  else if ← sees fun t => procedureWords.any t.isWord then
    let _ ← commaList (oneOf? procedureWords)
    return true
  else if (← peekSecond).isNone then return false
  else isolatedLoading

/-! ## Words -/

/-- Words that are a property on their own. -/
def flagWords : List String :=
  ["DETERMINISTIC", "DYNAMIC", "EMPTY", "EXTERNAL", "GLOBAL", "HEAP", "ICEBERG", "IMMUTABLE",
   "JOURNAL", "LOG", "MATERIALIZED", "MULTISET", "SECURE", "STABLE", "STREAMING", "STRICT", "TEMP",
   "TEMPORARY", "TRANSIENT", "UNLOGGED", "VOLATILE"]

/-- Words with a value after an optional equals sign. -/
def valueWords : List String :=
  ["ALGORITHM", "AUTO_INCREMENT", "COLLATE", "COMMENT", "DISTSTYLE", "ENGINE", "EXECUTE",
   "LANGUAGE", "LOCATION", "ROW_FORMAT"]

/-- Words with a value that may be missing. -/
def openWords : List String := ["FORMAT", "SHARING", "USING"]

/-- Words after which other words must follow for a property: a run of them, or none. -/
def phraseWords : List (String × List (List String)) :=
  [("CALLED", [["ON", "NULL", "INPUT"]]), ("CONTAINS", [["SQL"]]), ("MODIFIES", [["SQL", "DATA"]]),
   ("NO", [["PRIMARY", "INDEX"], ["SQL"]]), ("NOT", [["DETERMINISTIC"]]),
   ("READS", [["SQL", "DATA"]])]

/-- Words with a value of their own kind. -/
def ownWords : List String :=
  ["ALLOWED_VALUES", "AUTO", "BACKUP", "BLOCKCOMPRESSION", "CHARSET", "CHECKSUM", "CLUSTER BY",
   "CLUSTERED", "COPY", "DATABLOCKSIZE", "DATA_DELETION", "DEFINER", "DISTKEY", "DISTRIBUTED",
   "DUPLICATE", "ENVIRONMENT", "FALLBACK", "FREESPACE", "INHERITS", "INPUT", "LAYOUT", "LIFETIME",
   "LIKE", "LOCK", "LOCKING", "MERGEBLOCKRATIO", "ON", "ORDER BY", "OUTPUT", "PARTITION",
   "PARTITION BY", "PARTITIONED BY", "PARTITIONED_BY", "PRIMARY KEY", "RANGE", "REMOTE",
   "RETURNS", "ROW", "SAMPLE", "SECURITY", "SET", "SETTINGS", "SORTKEY", "SOURCE", "STORED",
   "SYSTEM_VERSIONING", "TABLESPACE", "TBLPROPERTIES", "TO", "TRANSFORM", "TTL", "WITH"]

/-- The word that begins a property, and whether it does so in a dialect. -/
def propertyWord? (d : Dialect) : Reader (Option String) := do
  if ← anyWords [["CHARACTER", "SET"], ["CHAR", "SET"]] then return some "CHARSET"
  else
    let own := ownWords.filter fun w => !(d == .postgres && w == "INPUT")
    oneOf? (flagWords ++ valueWords ++ openWords ++ own ++ phraseWords.map Prod.fst)

/-- A list that must hold something. -/
def filled {α : Type} (r : Reader (List α)) : Reader Unit := do
  if (← r).isEmpty then fail (.missing "item")

/-- A property after a word with a value of its own kind. -/
def ownAfter (d : Dialect) (r : Rules) (w : String) : Reader Bool := do
  let done (r : Reader Unit) : Reader Bool := do
    r
    return true
  match w with
  | "ALLOWED_VALUES" => done (filled (commaList (primary? d r)))
  | "AUTO" =>
    if ← word "REFRESH" then done (do let _ ← required "choice" anyVariable?) else giveBack
  | "BACKUP" => done (do let _ ← required "choice" anyVariable?)
  | "BLOCKCOMPRESSION" => done do
    let _ ← sign .eq
    for choice in ["ALWAYS", "MANUAL", "NEVER", "DEFAULT"] do
      let _ ← word choice
    if ← word "AUTOTEMP" then
      let _ ← r.columns
  | "CHARSET" => done charsetAfter
  | "CHECKSUM" => done do
    let _ ← sign .eq
    unless ← keyword .on do
      let _ ← word "OFF"
    let _ ← keyword .default
  | "CLUSTER BY" => done (filled (commaList (ordered? r r.disjunction)))
  | "CLUSTERED" => done (clusteredBy r)
  | "COPY" => if ← word "GRANTS" then return true else giveBack
  | "DATABLOCKSIZE" => done do
    let _ ← sign .eq
    let _ ← number?
    let _ ← oneOf? ["BYTES", "KBYTES", "KILOBYTES"]
  | "DATA_DELETION" => done do
    let _ ← sign .eq
    unless ← keyword .on do
      let _ ← word "OFF"
  | "DEFINER" => definer
  | "DISTKEY" => done (do let _ ← wrapped (required "column" anyName?))
  | "DISTRIBUTED" => done (distributed r)
  | "DUPLICATE" => done do
    let _ ← word "KEY"
    wrappedNames
  | "ENVIRONMENT" => done (filled (wrappedList r.disjunction))
  | "FALLBACK" => done (do let _ ← word "PROTECTION")
  | "FREESPACE" => done do
    let _ ← sign .eq
    let _ ← required "number" number?
    let _ ← keyword .percent
  | "INHERITS" => done (filled (wrappedList (some <$> r.source)))
  | "INPUT" | "OUTPUT" => done (do let _ ← required "columns" r.columns)
  | "LAYOUT" | "SOURCE" => done dictionary
  | "LIFETIME" | "RANGE" => done valueRange
  | "LIKE" => done (likeAfter d r)
  | "LOCK" => match d with
    | .mysql => done (do let _ ← required "lock" (assigned? d r))
    | .postgres => done locking
  | "LOCKING" => done locking
  | "MERGEBLOCKRATIO" => done do
    if ← sign .eq then
      let _ ← number?
      let _ ← keyword .percent
  | "ON" => done (onAction r)
  | "ORDER BY" => done (filled (commaList (ordered? r r.disjunction)))
  | "PARTITION" => partitionOf d r
  | "PARTITION BY" => partitioned d r
  | "PARTITIONED BY" | "PARTITIONED_BY" => done (partitionedBy d r)
  | "PRIMARY KEY" => done (do let _ ← primaryMembers d r)
  | "REMOTE" => done do
    let _ ← words ["WITH", "CONNECTION"]
    let _ ← tablePath
  | "RETURNS" => done (returned d r)
  | "ROW" => if ← keyword .format then done rowForm else return false
  | "SAMPLE" => done do
    unless ← word "BY" do fail (.expected "BY")
    let _ ← required "sample" r.bitwise
  | "SECURITY" => done do
    if (← oneOf? ["DEFINER", "INVOKER", "NONE"]).isNone then fail (.missing "user")
  | "SET" => match d with
    | .mysql => return true
    | .postgres => done (do let _ ← sessionSettings d r)
  | "SETTINGS" => done (filled (commaList r.disjunction))
  | "SORTKEY" => done wrappedNames
  | "STORED" => done storedAs
  | "SYSTEM_VERSIONING" => done versioning
  | "TABLESPACE" => done do
    let _ ← sign .eq
    let _ ← required "place" (field? d r false)
  | "TBLPROPERTIES" => wrappedProperties r
  | "TO" => done (do let _ ← tablePath)
  | "TRANSFORM" => done (filled (wrappedList (r.expression d)))
  | "TTL" => done (timeToLive d r)
  | "WITH" => withAfter r
  | _ => return false

/-- A property after its word; whether there is one. -/
def propertyAfter (d : Dialect) (r : Rules) (w : String) : Reader Bool := do
  if flagWords.contains w then return true
  else if valueWords.contains w then
    let _ ← required "value" (assigned? d r)
    return true
  else if openWords.contains w then
    let _ ← assigned? d r
    return true
  else match phraseWords.lookup w with
    | some runs => anyWords runs
    | none => ownAfter d r w

/-! ## Settings -/

/-- A setting of the form `name = value`. -/
def setting? (r : Rules) : Reader (Option Unit) := orBack do
  let key ← r.column
  if ← sign .eq then
    let _ ← required "value" (firstOf [r.bitwise, anyVariable?])
    if key.isNone then fail (.missing "name") else return some ()
  else return none

/-- Words that set how a sequence counts, each with the runs of words that must follow it. -/
def sequenceChoices : List (String × List (List String)) :=
  [("SCALE", [["EXTEND"], ["NOEXTEND"]]), ("SHARD", [["EXTEND"], ["NOEXTEND"]]),
   ("NO", [["CYCLE"], ["CACHE"], ["MAXVALUE"], ["MINVALUE"]])] ++
  (["SESSION", "GLOBAL", "KEEP", "NOKEEP", "ORDER", "NOORDER", "NOCACHE", "CYCLE", "NOCYCLE",
    "NOMINVALUE", "NOMAXVALUE", "NOSCALE", "NOSHARD"].map fun w => (w, []))

/-- A setting of how a sequence counts; a comma alone counts as one. -/
def sequenceSetting? (r : Rules) : Reader (Option Unit) := do
  let comma ← sign .comma
  if ← word "INCREMENT" then
    let _ ← word "BY"
    let _ ← sign .eq
    let _ ← r.sum
    return some ()
  else if (← oneOf? ["MINVALUE", "MAXVALUE"]).isSome then
    let _ ← r.sum
    return some ()
  else if ← accept fun t => t.isKeyword .startWith || t.isWord "START" then
    let _ ← sign .eq
    let _ ← r.sum
    return some ()
  else if ← word "CACHE" then
    let _ ← number?
    return some ()
  else if ← words ["OWNED", "BY"] then
    unless ← word "NONE" do
      let _ ← r.column
    return some ()
  else if ← choice sequenceChoices then return some ()
  else return if comma then some () else none

/-! ## Properties -/

/-- A property. -/
def property? (d : Dialect) (r : Rules) : Reader (Option Unit) := do
  let read (w : String) : Reader (Option Unit) := do
    return if ← propertyAfter d r w then some () else none
  match ← propertyWord? d with
  | some w => read w
  | none =>
    let marked ← keyword .default
    match ← if marked then propertyWord? d else pure none with
    | some w => read w
    | none =>
      if ← words ["COMPOUND", "SORTKEY"] then read "SORTKEY"
      else if ← words ["SQL", "SECURITY"] then read "SECURITY"
      else firstOf [sequenceSetting? r, setting? r]

/-- All properties that stand here; whether there is any. -/
def properties (d : Dialect) (r : Rules) : Reader Bool := do
  return !(← many (property? d r)).isEmpty

/-! ## Properties right after a name -/

/-- Words that may stand before the word of a property right after a table's name, each once and in
this order. -/
def earlyWords : List (List (List String)) :=
  [[["NO"]], [["DUAL"]], [["BEFORE"]], [["DEFAULT"]], [["LOCAL"], ["NOT", "LOCAL"]], [["AFTER"]],
   [["MIN"], ["MINIMUM"]], [["MAX"], ["MAXIMUM"]]]

/-- The words that may stand before the word of a property. -/
def wordsBefore (w : String) : List String :=
  match w with
  | "CHARSET" | "COLLATE" => ["DEFAULT"]
  | "DATABLOCKSIZE" => ["DEFAULT", "MIN", "MAX"]
  | "FALLBACK" | "LOG" => ["NO"]
  | "JOURNAL" => ["NO", "DUAL", "BEFORE", "LOCAL", "AFTER"]
  | "MERGEBLOCKRATIO" => ["NO", "DEFAULT"]
  | _ => []

/-- A property right after a table's name. Words before it that do not belong to it are a fault. -/
def earlyProperty? (d : Dialect) (r : Rules) : Reader (Option Unit) := do
  let _ ← sign .comma
  let before ← earlyWords.filterMapM fun runs => do
    return if ← anyWords runs then (runs.head?.bind List.head?) else none
  match ← propertyWord? d with
  | none => return none
  | some w =>
    if before.all (wordsBefore w).contains then
      return if ← propertyAfter d r w then some () else none
    else fail (.expected "property")

end TableDoc.Sql
