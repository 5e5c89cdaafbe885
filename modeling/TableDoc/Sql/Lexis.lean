import TableDoc.Sql.Token
import TableDoc.Text.Blank
import TableDoc.Text.CharClass

/-!
# How a dialect forms its tokens

`Lexis` is the record of a dialect's decisions: which characters quote a text or a name, which
escapes a text knows, what starts a comment, which operators have several characters and which
keywords have several words. The tables behind the two records are here as well.
-/

namespace TableDoc.Sql

/-! ## Signs -/

/-- The sign of a single character. -/
def Sign.ofChar? (c : Char) : Option Sign :=
  match c with
  | '(' => some .lParen | ')' => some .rParen | '[' => some .lBracket | ']' => some .rBracket
  | '\x7b' => some .lBrace | '\x7d' => some .rBrace | '&' => some .amp | '^' => some .caret
  | ':' => some .colon | ',' => some .comma | '-' => some .dash | '.' => some .dot
  | '=' => some .eq | '>' => some .gt | '<' => some .lt | '%' => some .remainder
  | '!' => some .bang | '|' => some .pipe | '+' => some .plus | ';' => some .semicolon
  | '/' => some .slash | '\\' => some .backslash | '*' => some .star | '~' => some .tilde
  | '?' => some .question | '@' => some .at | '#' => some .hash
  | '\'' => some .quoteMark | '\x60' => some .quoteMark | '"' => some .quoteMark
  | _ => none

/-- Operators of several characters that both dialects read. -/
def commonOperators : List (String × Sign) :=
  [("<<->>", .otherOperator), ("?::", .otherOperator), ("<=>", .nullSafeEq),
   ("->>", .doubleArrow), ("#>>", .doubleHashArrow), ("<->", .otherOperator),
   ("-|-", .otherOperator), ("~~~", .globSign), ("~~*", .ilikeSign), ("&<", .otherOperator),
   ("&>", .otherOperator), ("==", .eq), ("::", .doubleColon),
   ("||", .doublePipe), ("|>", .otherOperator), (">=", .gte), ("<=", .lte), ("<>", .neq),
   ("!=", .neq), (":=", .colonEq), ("->", .arrow), ("=>", .fatArrow), ("#>", .hashArrow),
   ("&&", .doubleAmp), ("??", .doubleQuestion), ("~~", .likeSign), ("~*", .regexSign)]

/-- The signs around the blocks of a template, which no statement holds. -/
def templateMarks : List (String × Sign) :=
  ["\x7b%+", "\x7b%-", "\x7b%", "+%\x7d", "-%\x7d", "%\x7d", "\x7b\x7b+", "\x7b\x7b-",
    "+\x7d\x7d", "-\x7d\x7d"].map (·, .otherOperator)

/-! ## Introducers -/

/-- The character sets that may stand before a text. -/
def introducerWords : List String :=
  ["_ARMSCII8", "_ASCII", "_BIG5", "_BINARY", "_CP1250", "_CP1251", "_CP1256", "_CP1257",
   "_CP850", "_CP852", "_CP866", "_CP932", "_DEC8", "_EUCJPMS", "_EUCKR", "_GB18030", "_GB2312",
   "_GBK", "_GEOSTD8", "_GREEK", "_HEBREW", "_HP8", "_KEYBCS2", "_KOI8R", "_KOI8U", "_LATIN1",
   "_LATIN2", "_LATIN5", "_LATIN7", "_MACCE", "_MACROMAN", "_SJIS", "_SWE7", "_TIS620", "_UCS2",
   "_UJIS", "_UTF8", "_UTF16", "_UTF16LE", "_UTF32", "_UTF8MB3", "_UTF8MB4"]

/-! ## The record -/

/-- A dialect's decisions on tokens. -/
structure Lexis where
  /-- The dialect itself. -/
  dialect : Dialect
  /-- Characters that quote a text. -/
  textQuotes : List Char
  /-- The character that quotes a name. -/
  nameQuote : Char
  /-- Whether a backslash escapes inside a text. -/
  backslashEscapes : Bool
  /-- Whether `#` starts a comment, and `--` only before a blank or a control. -/
  hashComments : Bool
  /-- Whether a comment may hold comments. -/
  nestedComments : Bool
  /-- Whether a word may begin with a digit. -/
  wordsStartWithDigit : Bool
  /-- Whether a dollar sign quotes a text, and continues a word without starting it. -/
  dollarQuotes : Bool
  /-- Whether a percent sign may stand for a value that is filled in later. -/
  percentPlaces : Bool
  /-- Operators of several characters, a longer one before its own beginning. -/
  operators : List (String × Sign)
  /-- Keywords of several words. -/
  phrases : List String
deriving Repr

namespace Lexis

/-- Keywords of several words that both dialects read. -/
def commonPhrases : List String :=
  ["CLUSTER BY", "CONNECT BY", "DISTRIBUTE BY", "FOR TIMESTAMP", "FOR VERSION", "FOREIGN KEY",
   "GROUP BY", "GROUPING SETS", "ORDER BY", "PARTITION BY", "PARTITIONED BY", "PRIMARY KEY",
   "SIMILAR TO", "SORT BY", "START WITH", "DOUBLE PRECISION", "CHAR VARYING",
   "CHARACTER VARYING"]

/-- Keywords with a sign inside, which need no blank behind them. -/
def signedPhrases : List String := ["USER-DEFINED"]

/-- Texts between either quote with backslash escapes, names between backticks. -/
def mysql : Lexis where
  dialect := .mysql
  textQuotes := ['\'', '"']
  nameQuote := '\x60'
  backslashEscapes := true
  hashComments := true
  nestedComments := false
  wordsStartWithDigit := true
  dollarQuotes := false
  percentPlaces := false
  operators := commonOperators ++ templateMarks ++ [("@@", .doubleAt)]
  phrases := commonPhrases ++
    ["LOCK TABLES", "MEMBER OF", "SIGNED INTEGER", "SOUNDS LIKE", "UNLOCK TABLES",
     "UNSIGNED INTEGER"]

/-- Texts between single quotes or dollar tags, names between double quotes. -/
def postgres : Lexis where
  dialect := .postgres
  textQuotes := ['\'']
  nameQuote := '"'
  backslashEscapes := false
  hashComments := false
  nestedComments := true
  wordsStartWithDigit := false
  dollarQuotes := true
  percentPlaces := true
  operators := ("||/", .otherOperator) :: commonOperators ++ templateMarks ++
    [("@@", .doubleAt), ("@>", .containsLeft), ("<@", .containsRight), ("@?", .otherOperator),
     ("?&", .otherOperator), ("?|", .otherOperator), ("#-", .otherOperator),
     ("|/", .otherOperator)]
  phrases := commonPhrases

/-- The decisions of a dialect. -/
def of : Dialect → Lexis
  | .mysql => mysql
  | .postgres => postgres

/-- The sign of a single character in a dialect. -/
def sign? (x : Lexis) (c : Char) : Option Sign :=
  if x.dollarQuotes && c == '$' then some .dollar
  else if x.percentPlaces && c == '%' then some .percent
  else Sign.ofChar? c

/-- Whether a word goes on with this character. -/
def continuesWord (x : Lexis) (c : Char) : Bool :=
  !Text.isBlank c && ((x.sign? c).isNone || (x.dollarQuotes && c == '$'))

/-- What a word is, by its capitals. -/
def wordKind (x : Lexis) (capitals : String) : TokenKind :=
  match Keyword.ofWord? x.dialect capitals with
  | some k => .keyword k
  | none => match TypeName.ofWord? x.dialect capitals with
    | some t => .typeName t
    | none =>
      if x.dialect == .mysql && introducerWords.contains capitals then .introducer else .word

end Lexis

end TableDoc.Sql
