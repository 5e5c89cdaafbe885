import TableDoc.Sql.Property

/-!
# Changes of rows

Statements that add, change, remove, merge and copy the rows of tables.
-/

namespace TableDoc.Sql

open Reader

/-! ## Parts -/

/-- The rows that a statement gives back; whether it gives any. -/
def givenBack (d : Dialect) (r : Rules) : Reader Bool := do
  if ← keyword .returning then
    let _ ← commaList (r.expression d)
    if ← keyword .into then
      let _ ← tablePart?
    return true
  else return false

/-- A source with what is joined to it. -/
def joinedSource (d : Dialect) (r : Rules) (canName : Token → Bool) : Reader Unit := do
  let t ← sourceWith d r canName
  if t.className == "table" then
    let _ ← many (join? d r)

/-- A condition on the rows, if one is given. -/
def rowCondition (d : Dialect) (r : Rules) : Reader Unit := do
  if ← sees (·.isKeyword .whereClause) then
    let _ ← clauseOf d r .whereClause

/-- What is done in a case of conflict. -/
def conflictActions : List (String × List (List String)) :=
  ("DO", [["NOTHING"], ["UPDATE"]]) ::
    ["ABORT", "FAIL", "IGNORE", "REPLACE", "ROLLBACK", "UPDATE"].map fun w => (w, [])

/-- An action in a case of conflict; whether there is one. -/
def conflictAction : Reader Bool := do
  if ← atEnd then return false
  else if ← choice conflictActions then return true
  else fail (.expected "action")

/-- Columns with the values that they are given. -/
def assignments (r : Rules) : Reader Unit := do
  let _ ← commaList r.equality

/-! ## Insertion -/

/-- What happens where a row is there already. -/
def onConflict (d : Dialect) (r : Rules) : Reader Unit := do
  let conflict ← words ["ON", "CONFLICT"]
  if conflict || (← words ["ON", "DUPLICATE", "KEY"]) then
    if conflict then
      if ← words ["ON", "CONSTRAINT"] then
        let _ ← anyName?
      else if ← sees (·.isSign .lParen) then
        let _ ← wrappedList (indexMember? r)
    rowCondition d r
    let _ ← conflictAction
    if (← last).any (·.isKeyword .update) then
      let _ ← keyword .set
      assignments r
    rowCondition d r

/-- What rows are put into. -/
def insertTarget (d : Dialect) (r : Rules) : Reader Unit := do
  if ← keyword .or then
    let _ ← oneOf? ["ABORT", "FAIL", "IGNORE", "REPLACE", "ROLLBACK"]
  let _ ← keyword .into
  let _ ← keyword .table
  if ← keyword .function then
    let _ ← required "function" (call? d r {})
  else
    let _ ← keyword .only
    let _ ← tablePath
    let _ ← sign .star
    let _ ← partitionChoice r
    let _ ← r.columns
    if ← sees (·.isKeyword .asAlias) then sourceName d r

/-- The rows that are put in. -/
def insertRows (d : Dialect) (r : Rules) : Reader Unit := do
  if ← words ["STORED"] then storedAs
  let _ ← words ["BY", "NAME"]
  ifExists
  if ← keywords [.replace, .whereClause] then
    let _ ← r.disjunction
  if ← keyword .partitionBy then partitionedBy d r
  if ← word "SETTINGS" then
    let _ ← commaList r.disjunction
  let _ ← words ["DEFAULT", "VALUES"]
  if ← accept fun t => d == .mysql && t.isKeyword .set then assignments r
  else if (← rowList? d r).isNone then
    let _ ← rowQuery? d r

/-- Adds rows, after the first word. -/
def insertAfter (d : Dialect) (r : Rules) : Reader Statement := do
  let _ ← keyword .overwrite
  let _ ← keyword .ignore
  let _ ← word "LOCAL"
  if ← word "DIRECTORY" then
    let _ ← required "directory" wordOrText?
    if ← keywords [.row, .format] then rowForm
  else insertTarget d r
  let given ← givenBack d r
  insertRows d r
  onConflict d r
  unless given do
    let _ ← givenBack d r
  if ← keyword .table then
    let _ ← source d r
  return .other "insert"

/-! ## Change and removal -/

/-- One clause of a change of rows. -/
def updateClause? (d : Dialect) (r : Rules) : Reader (Option Unit) := do
  if ← keyword .set then
    assignments r
    return some ()
  else if ← givenBack d r then return some ()
  else if ← keyword .fromClause then
    joinedSource d r (canNameSource d)
    let _ ← many (join? d r)
    return some ()
  else if ← sees (·.isKeyword .whereClause) then
    rowCondition d r
    return some ()
  else if (← ordering? r).isSome then return some ()
  else if ← sees (·.isKeyword .limit) then
    let _ ← limit? r
    return some ()
  else return none

/-- Changes rows, after the first word. -/
def updateAfter (d : Dialect) (r : Rules) : Reader Statement := do
  joinedSource d r fun t => canNameSource d t && !t.isKeyword .set
  let _ ← many (updateClause? d r)
  return .other "update"

/-- Removes rows, after the first word. -/
def deleteAfter (d : Dialect) (r : Rules) : Reader Statement := do
  unless ← sees (·.isKeyword .fromClause) do
    let _ ← commaList (some <$> source d r)
  let given ← givenBack d r
  if ← keyword .fromClause then joinedSource d r (canNameSource d)
  if ← keyword .usingClause then
    let _ ← commaList (some <$> joinedSource d r (canNameSource d))
  if ← keyword .on then onAction r
  rowCondition d r
  unless given do
    let _ ← givenBack d r
  let _ ← ordering? r
  if ← sees (·.isKeyword .limit) then
    let _ ← limit? r
  return .other "delete"

/-! ## Merging -/

/-- What is done with rows that match, or with those that do not. -/
def mergeAction (d : Dialect) (r : Rules) : Reader Unit := do
  if ← keyword .insert then
    unless ← sign .star do
      unless ← word "ROW" do
        let _ ← row? d r
      if ← word "VALUES" then
        let _ ← row? d r
      rowCondition d r
  else if ← keyword .update then
    unless ← sign .star do
      if ← keyword .set then assignments r
      rowCondition d r
  else unless ← keyword .delete do
    unless ← conflictAction do fail (.missing "action")

/-- A case of rows that match, or of rows that do not. -/
def mergeBranch? (d : Dialect) (r : Rules) : Reader (Option Unit) := do
  if ← keyword .whenBranch then
    let _ ← keyword .not
    let _ ← word "MATCHED"
    let _ ← anyWords [["BY", "TARGET"], ["BY", "SOURCE"]]
    if ← keyword .and then
      let _ ← r.disjunction
    let _ ← keyword .thenBranch
    mergeAction d r
    return some ()
  else return none

/-- Merges rows of two sources, after the first word. -/
def mergeAfter (d : Dialect) (r : Rules) : Reader Statement := do
  let _ ← keyword .into
  let _ ← source d r
  let _ ← keyword .usingClause
  let _ ← source d r
  if ← keyword .on then
    let _ ← r.disjunction
  if ← keyword .usingClause then
    let _ ← wrappedList r.column
  let branches ← many (mergeBranch? d r)
  if branches.isEmpty then fail (.missing "branch")
  else
    let _ ← givenBack d r
    return .other "merge"

/-! ## Copies -/

/-- How a copy gets at files. -/
def copyCredentials (d : Dialect) (r : Rules) : Reader Unit := do
  let value : Reader Unit := do let _ ← field? d r false
  if ← words ["STORAGE_INTEGRATION", "="] then value
  if ← word "CREDENTIALS" then value
  if ← word "IAM_ROLE" then
    unless ← keyword .default do value
  if ← word "REGION" then value

/-- One option of a copy: a word and its value. -/
def copyOption? (d : Dialect) (r : Rules) : Reader (Option Unit) := do
  if (← atEnd) || (← sees (·.isSign .rParen)) then return none
  else
    let _ ← required "option" anyVariable?
    let _ ← sign .eq
    let _ ← keyword .asAlias
    match ← field? d r false with
    | some _ => pure ()
    | none =>
      let _ ← bracketAfter? d r (.word "")
    let _ ← sign .comma
    return some ()

/-- Copies rows between a table and files, after the first word; whether nothing is left over. -/
def copyRows (d : Dialect) (r : Rules) : Reader Bool := do
  let _ ← keyword .into
  if ← sees (·.isSign .lParen) then
    let _ ← required "query" (nestedQuery? d r false)
  else
    let _ ← listedTable d r
  unless ← keyword .fromClause do
    let _ ← word "TO"
  let _ ← commaList (field? d r false)
  copyCredentials d r
  let _ ← keyword .withClause
  let options := many (copyOption? d r)
  if ← sees (·.isSign .lParen) then
    let _ ← wrapped options
  else
    let _ ← options
  atEnd

/-- Loads rows from a file, after the words for it. -/
def loadRows (d : Dialect) (r : Rules) : Reader Unit := do
  let _ ← word "LOCAL"
  let _ ← word "INPATH"
  let file ← textLiteral?
  let _ ← keyword .overwrite
  let _ ← keywords [.into, .table]
  let _ ← listedTable d r
  if file.isNone then fail (.missing "file")
  let _ ← partitionChoice r
  if ← word "INPUTFORMAT" then
    let _ ← textLiteral?
  if ← word "SERDE" then
    let _ ← textLiteral?

end TableDoc.Sql
