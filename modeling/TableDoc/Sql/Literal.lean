import TableDoc.Sql.Reader
import TableDoc.Sql.Printer

/-!
# Names and literals

The terms of one or two tokens: names, placeholders, texts, numbers and the constants.
-/

namespace TableDoc.Sql

open Reader

/-! ## Names -/

/-- A name in quotes. -/
def quotedName? : Reader (Option Name) := do
  return (← take? (·.kind == .quotedName)).map fun t => ⟨t.text, true⟩

/-- A word that is no sign and no reserved keyword, whatever else it is. -/
def anyWord? : Reader (Option Token) := take? (!·.isReserved)

/-- What `@` names. -/
def parameter : Reader Term := do
  match ← quotedName? with
  | some n => return .phrase "parameter" ["@", ""] [.name n]
  | none =>
    let t ← required "parameter" anyWord?
    return .phrase "parameter" ["@", ""] [.word t.text]

/-- The name in parentheses after a percent sign, if there is one, and the letter that ends it. -/
def percentName : Reader String := do
  let n ← do
    if ← sign .lParen then
      let t ← take? fun t => t.kind == .quotedName || !t.isReserved
      closing
      pure ((t.map Token.text).getD "")
    else pure ""
  let _ ← word "S"
  return n

/-- A place that is filled in later: `?`, `:name`, `@name` or `%(name)s`. -/
def placeholder? : Reader (Option Term) := orBack do
  if ← sign .question then return some (.placeholder "?" "")
  else if ← sign .colon then
    return (← take? (·.isPlainName)).map fun t => .placeholder ":" t.text
  else if ← sign .percent then return some (.placeholder "%" (← percentName))
  else if ← sign .at then return some (← parameter)
  else return none

/-- A name in quotes, a placeholder, or a word of a kind. -/
def nameOf? (p : Token → Bool) : Reader (Option Term) := do
  match ← quotedName? with
  | some n => return some (.name n)
  | none => match ← placeholder? with
    | some t => return some t
    | none => return (← take? p).map fun t => .name ⟨t.text, t.kind == .text⟩

/-- A name, where keywords are told from names. -/
def plainName? : Reader (Option Term) := nameOf? (·.isName)

/-- A name, where any word will do. -/
def anyName? : Reader (Option Term) := nameOf? (!·.isReserved)

/-- A word that is neither keyword nor type. -/
def freeWord? : Reader (Option Term) := do
  match ← take? (·.kind == .word) with
  | some t => return some (.word t.text)
  | none => placeholder?

/-- A word, where any will do. -/
def anyVariable? : Reader (Option Term) := do
  match ← anyWord? with
  | some t => return some (.word t.text)
  | none => placeholder?

/-- A text literal, or a placeholder for one. -/
def textLiteral? : Reader (Option Term) := do
  match ← take? (·.kind == .text) with
  | some t => return some (.text t.text)
  | none => match ← take? (·.kind == .dollarText) with
    | some t => return some (.phrase "rawstring" [quotedText .postgres t.text] [])
    | none => match ← take? (·.kind == .nationalText) with
      | some t => return some (.phrase "national" ["N", ""] [.text t.text])
      | none => placeholder?

/-- A number, or a placeholder for one. -/
def number? : Reader (Option Term) := do
  match ← take? (·.kind == .number) with
  | some t => return some (.number t.text)
  | none => placeholder?

/-- A text, or any word. -/
def wordOrText? : Reader (Option Term) := firstOf [textLiteral?, anyVariable?]

/-! ## Literals -/

/-- Literals that one token spells. -/
def tokenLiteral? (d : Dialect) (t : Token) : Option Term :=
  match t.kind with
  | .text => some (.text t.text)
  | .number => some (.number t.text)
  | .nationalText => some (.phrase "national" ["N", ""] [.text t.text])
  | .hexText => some (.phrase "hexstring" ["x'" ++ t.text ++ "'"] [])
  | .bitText => some (.phrase "bitstring" ["b'" ++ t.text ++ "'"] [])
  | .byteText => some (.phrase "bytestring" ["e'" ++ t.text ++ "'"] [])
  | .dollarText => some (.phrase "rawstring" [quotedText d t.text] [])
  | .keyword .null => some (.phrase "null" ["NULL"] [])
  | .keyword .trueValue => some (.phrase "boolean" ["TRUE"] [])
  | .keyword .falseValue => some (.phrase "boolean" ["FALSE"] [])
  | .sign .star => some (.phrase "star" ["*"] [])
  | _ => none

/-- A literal of one token. -/
def singleLiteral? (d : Dialect) : Reader (Option Term) := do
  match ← take? fun t => (tokenLiteral? d t).isSome with
  | some t => return tokenLiteral? d t
  | none => return none

/-- The words and commas around the arguments of a call. -/
def callFrame (shown : String) (args : List Term) : List String :=
  match args with
  | [] => [shown ++ "()"]
  | _ :: more => (shown ++ "(") :: more.map (fun _ => ", ") ++ [")"]

/-- A text together with the texts right after it, which continue it. -/
def textRun (first : String) : Reader Term := do
  let more ← many do return (← take? (·.kind == .text)).map fun t => Term.text t.text
  let all := .text first :: more
  return if more.isEmpty then .text first else .phrase "concat" (callFrame "CONCAT" all) all

/-- A literal, a constant, a text in a named character set or a variable of the session. -/
def literal? (d : Dialect) : Reader (Option Term) := do
  match ← singleLiteral? d with
  | some (.text s) => return some (← textRun s)
  | some t => return some t
  | none =>
    if ← sequence [(·.isSign .dot), (·.kind == .number)] then
      return (← last).map fun t => .number ("0." ++ t.text)
    else match ← take? (·.kind == .introducer) with
      | some t => match ← singleLiteral? d with
        | some content => return some (.phrase "introducer" [t.text ++ " ", ""] [content])
        | none => return some (.name ⟨t.text, false⟩)
      | none =>
        if ← accept fun t => d == .mysql && t.isSign .doubleAt then
          let n ← required "variable" (firstOf [anyName?, singleLiteral? d])
          if ← sign .dot then
            let m ← required "variable" (firstOf [anyVariable?, singleLiteral? d])
            return some (.phrase "sessionparameter" ["@@", ".", ""] [n, m])
          else return some (.phrase "sessionparameter" ["@@", ""] [n])
        else return none

end TableDoc.Sql
