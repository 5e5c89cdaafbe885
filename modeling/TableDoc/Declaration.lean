import TableDoc.Sql.Lexer

/-!
# Declared entries of a column list

The column list of a statement, cut at its own commas into entries of tokens, and what one entry
says in its own words: the text of its `DEFAULT` expression and the wording of its index.
The list is the text between the first parenthesis and the one that closes it.
-/

namespace TableDoc

open Sql

/-- The tokens of one entry of a column list. -/
structure Declaration where
  tokens : List Token
deriving DecidableEq, Repr, Inhabited

namespace Declaration

/-! ## Entries -/

/-- The last entry, read in reverse: it counts only when it holds a token. -/
def lastEntry (reversed : List Token) : List Declaration :=
  if reversed.isEmpty then [] else [⟨reversed.reverse⟩]

/-- The entries of a list that is `depth` parentheses deep, after the tokens `reversed` of the
current entry in reverse. -/
def entriesFrom (depth : Int) (reversed : List Token) : List Token → List Declaration
  | [] => lastEntry reversed
  | t :: rest =>
    if t.isSign .lParen then
      if depth = 0 then entriesFrom 1 reversed rest
      else entriesFrom (depth + 1) (if 0 ≤ depth then t :: reversed else reversed) rest
    else if t.isSign .rParen then
      if depth = 1 then lastEntry reversed
      else entriesFrom (depth - 1) (if 2 ≤ depth then t :: reversed else reversed) rest
    else if t.isSign .comma && depth = 1 then ⟨reversed.reverse⟩ :: entriesFrom 1 [] rest
    else entriesFrom depth (if 1 ≤ depth then t :: reversed else reversed) rest

/-- The entries of the first parenthesised list of a statement: one for each comma of the list, and
one after the last comma unless nothing stands there. -/
def ofTokens (ts : List Token) : List Declaration := entriesFrom 0 [] ts

/-! ## Tokens outside parentheses -/

/-- Each token outside parentheses with its index, from index `i` and depth `depth` on. -/
def outerFrom (depth : Int) (i : Nat) : List Token → List (Nat × Token)
  | [] => []
  | t :: rest =>
    if t.isSign .lParen then outerFrom (depth + 1) (i + 1) rest
    else if t.isSign .rParen then outerFrom (depth - 1) (i + 1) rest
    else if depth = 0 then (i, t) :: outerFrom depth (i + 1) rest
    else outerFrom depth (i + 1) rest

/-- Each token of the entry outside parentheses with its index. -/
def outer (e : Declaration) : List (Nat × Token) := outerFrom 0 0 e.tokens

/-- Whether a token is one of the words and not quoted. -/
def isOneOf (words : List String) (t : Token) : Bool :=
  !t.isQuoted && words.contains t.capitals

/-! ## The default -/

/-- The words that end a `DEFAULT` expression and start the next attribute. -/
def defaultTerminators : List String :=
  ["NOT", "NULL", "AUTO_INCREMENT", "AUTOINCREMENT", "COMMENT", "PRIMARY", "UNIQUE", "KEY", "ON",
   "COLLATE", "CHARSET", "REFERENCES", "CHECK", "CONSTRAINT", "GENERATED", "INVISIBLE", "VISIBLE",
   "COLUMN_FORMAT", "STORAGE"]

/-- Whether `CHARACTER SET` stands at an index. -/
def characterSetAt (e : Declaration) (i : Nat) : Bool :=
  e.tokens[i]?.any (isOneOf ["CHARACTER"]) && e.tokens[i + 1]?.any (isOneOf ["SET"])

/-- Whether the token at an index starts an attribute that ends a `DEFAULT` expression. -/
def endsDefault (e : Declaration) (p : Nat × Token) : Bool :=
  isOneOf defaultTerminators p.2 || e.characterSetAt p.1

/-- The indexes from the first token of the `DEFAULT` expression to before the next attribute. The
first token belongs to the expression whatever it is. -/
def defaultRange? (e : Declaration) : Option (Nat × Nat) :=
  match e.outer.dropWhile (fun p => !isOneOf ["DEFAULT"] p.2) with
  | [] => none
  | (i, _) :: later =>
    let start := i + 1
    let stop := match later.find? (fun p => p.1 != start && e.endsDefault p) with
      | some p => p.1
      | none => e.tokens.length
    if start < stop then some (start, stop) else none

/-- The tokens of the `DEFAULT` expression. -/
def defaultTokens (e : Declaration) : List Token :=
  match e.defaultRange? with
  | some (start, stop) => (e.tokens.drop start).take (stop - start)
  | none => []

/-- The text of a statement from the first to the last of some tokens. -/
def textOf (sql : String) (ts : List Token) : Option String :=
  match ts.head?, ts.getLast? with
  | some first, some last =>
    some (String.ofList (Lexer.slice sql.toList first.start last.stop))
  | _, _ => none

/-- The `DEFAULT` expression as it is written in the statement. -/
def defaultText? (sql : String) (e : Declaration) : Option String :=
  textOf sql e.defaultTokens

/-! ## The index -/

/-- The words for an index. -/
def indexWords : List String := ["INDEX", "KEY"]

/-- The words for a kind of index, before which a word for an index may be left out. -/
def indexPrefixes : List String := ["UNIQUE", "FULLTEXT", "SPATIAL"]

/-- The words that define a constraint right after `CONSTRAINT`, where no name is given. -/
def definingWords : List String :=
  indexPrefixes ++ indexWords ++ ["PRIMARY", "FOREIGN", "CHECK"]

/-- The unquoted tokens of the entry after `CONSTRAINT` and an unquoted name. -/
def wordsAfterName (e : Declaration) : List Token :=
  match e.tokens.filter (fun t => !t.isQuoted) with
  | [] => []
  | first :: rest =>
    if isOneOf ["CONSTRAINT"] first then
      match rest with
      | [] => []
      | name :: later => if isOneOf definingWords name then name :: later else later
    else first :: rest

/-- The wording of an index that names its kind, in small letters: `unique index`, `key`. -/
def indexWording? (e : Declaration) : Option String :=
  match e.wordsAfterName with
  | [] => none
  | first :: rest =>
    let word := Text.lower first.text
    if isOneOf indexWords first then some word
    else if isOneOf indexPrefixes first then
      match rest with
      | second :: _ =>
        if isOneOf indexWords second then some (word ++ " " ++ Text.lower second.text)
        else some (word ++ " key")
      | [] => some (word ++ " key")
    else none

end Declaration

end TableDoc
