import TableDoc.Sql.TypeName
import TableDoc.Sql.Keyword
import TableDoc.Text.LetterCase

/-!
# Tokens

A token is a word, name, literal or sign of a statement together with the place where it stands.
Its text is the content: quotes are gone and escapes are resolved. The characters from `start` to
before `stop` are what was written.
-/

namespace TableDoc.Sql

/-- A sign of one or more characters. -/
inductive Sign where
  | lParen | rParen | lBracket | rBracket | lBrace | rBrace
  | amp | caret | colon | comma | dash | dot | eq | gt | lt | percent | remainder | bang | pipe
  | plus | semicolon | slash | backslash | star | tilde | question | at | hash | dollar | quoteMark
  | doubleColon | doublePipe | gte | lte | neq | colonEq | nullSafeEq | arrow | doubleArrow
  | fatArrow | hashArrow | doubleHashArrow | doubleAmp | doubleQuestion | likeSign | ilikeSign
  | globSign | regexSign | doubleAt | containsLeft | containsRight | otherOperator
deriving DecidableEq, Repr, Inhabited

/-- What a token is. -/
inductive TokenKind where
  | text
  | number
  | quotedName
  | nationalText
  | hexText
  | bitText
  | byteText
  | dollarText
  | introducer
  | word
  | keyword (k : Keyword)
  | typeName (t : TypeName)
  | sign (s : Sign)
deriving DecidableEq, Repr, Inhabited

/-- A token with its content and the place where it was written. -/
structure Token where
  kind : TokenKind
  text : String
  start : Nat
  stop : Nat
  /-- Whether the token is a semicolon with a comment of its own. -/
  remarked : Bool := false
deriving DecidableEq, Repr, Inhabited

namespace Token

/-- The content in capitals, as keywords are compared. -/
def capitals (t : Token) : String := Text.upper t.text

/-- Whether the token was written in quotes, so that it is never a keyword. -/
def isQuoted (t : Token) : Bool :=
  t.kind == .text || t.kind == .quotedName

/-- Whether the token is this sign. -/
def isSign (s : Sign) (t : Token) : Bool := t.kind == .sign s

/-- Whether the token is this keyword. -/
def isKeyword (k : Keyword) (t : Token) : Bool := t.kind == .keyword k

/-- Whether the token reads as this word in capitals and is no text literal. -/
def isWord (word : String) (t : Token) : Bool :=
  t.kind != .text && t.capitals == word

/-- The data type that the token names in a dialect. -/
def typeName? (d : Dialect) (t : Token) : Option TypeName :=
  match t.kind with
  | .typeName n => some n
  | .keyword .null => some .null
  | .keyword .set => if d == .mysql then some .set else none
  | .sign .quoteMark => some .unknown
  | _ => none

/-- Whether the token can be a name where keywords are told from names. -/
def isName (t : Token) : Bool :=
  match t.kind with
  | .word | .typeName _ | .quotedName | .sign .quoteMark => true
  | .keyword k => !k.isStrict
  | _ => false

/-- Whether the token can be a name without quotes, where keywords are told from names. -/
def isPlainName (t : Token) : Bool := t.isName && t.kind != .quotedName

/-- Whether the token stays what it is even where any word may be a name. -/
def isReserved (t : Token) : Bool :=
  match t.kind with
  | .sign s => match s with
    | .lParen | .rParen | .lBracket | .rBracket | .lBrace | .rBrace | .amp | .caret | .colon
    | .comma | .dash | .dot | .eq | .gt | .lt | .percent | .remainder | .bang | .pipe | .plus
    | .semicolon | .slash | .backslash | .star | .tilde | .question | .at | .hash
    | .quoteMark => true
    | _ => false
  | .keyword k => k.isReserved
  | .typeName .unknown => true
  | _ => false

/-- Whether the token names a function when a parenthesis follows. -/
def isCallable (d : Dialect) (t : Token) : Bool :=
  match t.kind with
  | .word | .typeName _ | .quotedName | .sign .quoteMark => true
  | .keyword k => k.isCallable d
  | _ => false

end Token

end TableDoc.Sql
