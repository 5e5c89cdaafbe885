import TableDoc.Sql.Query

/-!
# Settings of the session

What `SET` sets: a variable, the character set, or how transactions keep apart. The value of a
variable is a statement of its own, or any word.
-/

namespace TableDoc.Sql

open Reader

/-- How transactions keep apart. -/
def transactionTraits : Reader Unit := do
  let _ ← word "TRANSACTION"
  let _ ← commaList do
    if ← atEnd then return none
    else if ← choice [("ISOLATION", [["LEVEL", "REPEATABLE", "READ"],
        ["LEVEL", "READ", "COMMITTED"], ["LEVEL", "READ", "UNCOMITTED"],
        ["LEVEL", "SERIALIZABLE"]]), ("READ", [["WRITE"], ["ONLY"]])] then return some ()
    else fail (.expected "characteristic")

/-- A variable with its value. -/
def variableSetting? (d : Dialect) (r : Rules) : Reader (Option Unit) := orBack do
  match ← firstOf [primary? d r, r.column] with
  | none => return none
  | some _ =>
    if ← accept fun t => t.isSign .eq || t.isSign .colonEq || t.isWord "TO" then
      if (← r.statement).isNone then
        let _ ← required "value" anyName?
      return some ()
    else return none

/-- The words that say for whom a variable is set. -/
def settingScopes : Dialect → List String
  | .mysql => ["GLOBAL", "LOCAL", "SESSION", "PERSIST", "PERSIST_ONLY"]
  | .postgres => ["GLOBAL", "LOCAL", "SESSION"]

/-- One setting of the session. -/
def sessionSetting? (d : Dialect) (r : Rules) : Reader (Option Unit) := do
  let value := firstOf [textLiteral?, field? d r false]
  if ← accept fun t => d == .mysql && t.isWord "NAMES" then
    let _ ← value
    if ← keyword .collate then
      let _ ← value
    return some ()
  else if d == .mysql && ((← keyword .charset) || (← words ["CHARACTER", "SET"])) then
    let _ ← value
    return some ()
  else match ← oneOf? (settingScopes d) with
    | some scope =>
      if ["GLOBAL", "SESSION"].contains scope && (← word "TRANSACTION") then
        transactionTraits
        return some ()
      else variableSetting? d r
    | none =>
      if ← word "TRANSACTION" then
        transactionTraits
        return some ()
      else variableSetting? d r

/-- Settings of the session up to the end; whether there is nothing else. Otherwise all of it is
taken as it stands. -/
def sessionSettings (d : Dialect) (r : Rules) : Reader Bool := do
  let _ ← commaList (sessionSetting? d r)
  if ← atEnd then return true
  else
    skipAll
    return false

end TableDoc.Sql
