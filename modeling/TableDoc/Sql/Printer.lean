import TableDoc.Dialect
import TableDoc.Sql.Term
import TableDoc.Text.LetterCase

/-!
# Rendered terms

A term as its dialect writes it: words in capitals, arguments after single blanks, texts and names
in the dialect's quotes.
-/

namespace TableDoc.Sql

/-! ## Quotes -/

/-- A character inside the quotes of a text: the quote is doubled, and where backslashes escape,
controls and the backslash are escaped. -/
def textChar (d : Dialect) (c : Char) : List Char :=
  if c == '\'' then ['\'', '\'']
  else match d with
    | .postgres => [c]
    | .mysql => match c with
      | '\x00' => ['\\', '0'] | '\x08' => ['\\', 'b'] | '\n' => ['\\', 'n']
      | '\r' => ['\\', 'r'] | '\t' => ['\\', 't'] | '\x1a' => ['\\', 'Z']
      | '\\' => ['\\', '\\'] | c => [c]

/-- A text in quotes. -/
def quotedText (d : Dialect) (s : String) : String :=
  "'" ++ String.ofList (s.toList.flatMap (textChar d)) ++ "'"

/-- The quote of names. -/
def nameQuote : Dialect → Char
  | .mysql => '\x60'
  | .postgres => '"'

/-- A name, in quotes where it was written in quotes. -/
def Name.print (d : Dialect) (n : Name) : String :=
  if n.quoted then
    let quote := nameQuote d
    String.ofList (quote :: n.text.toList.flatMap (fun c => if c == quote then [c, c] else [c]) ++
      [quote])
  else n.text

/-! ## Data types -/

/-- The words of a type before its arguments. -/
def TypeHead.print (d : Dialect) : TypeHead → String
  | .builtin t => match d, t.signedWord? with
    | .mysql, some w => Text.upper w
    | _, _ => t.rendered d
  | .custom path => String.intercalate "." (path.map (Name.print d))
  | .interval unit => "INTERVAL " ++ unit

/-- A data type with printed arguments and sizes. -/
def printType (d : Dialect) (head : TypeHead) (args sizes : List String) : String :=
  let inner := String.intercalate ", " args
  match d, head with
  | _, .builtin .interval => if args.isEmpty then "INTERVAL" else "INTERVAL " ++ inner
  | .mysql, .builtin t =>
    if t == .varchar && args.isEmpty then "TEXT"
    else
      let size := if sizes.isEmpty then "" else
        if t == .array then "[" ++ String.intercalate ", " sizes ++ "]"
        else "(" ++ String.intercalate ", " sizes ++ ")"
      head.print d ++
        (if args.isEmpty then "" else if t.isNested then "<" ++ inner ++ ">" ++ size
          else "(" ++ inner ++ ")") ++
        (if t.signedWord?.isSome then " UNSIGNED" else "")
  | .postgres, .builtin .array =>
    if args.isEmpty then "ARRAY" else inner ++ "[" ++ String.intercalate ", " sizes ++ "]"
  | .postgres, .builtin t =>
    if (t == .double || t == .float) && !args.isEmpty then "FLOAT(" ++ inner ++ ")"
    else head.print d ++
      (if args.isEmpty then "" else if t.isNested then "<" ++ inner ++ ">"
        else "(" ++ inner ++ ")")
  | _, _ => head.print d ++ (if args.isEmpty then "" else "(" ++ inner ++ ")")

/-! ## Terms -/

/-- A place that is filled in later. One dialect writes names between percent sign and letter. -/
def printPlaceholder (d : Dialect) (mark name : String) : String :=
  match d with
  | .mysql => mark ++ name
  | .postgres =>
    if mark == "?" then mark else if name.isEmpty then "%s" else "%(" ++ name ++ ")s"

/-- The sign in front of a parameter. -/
def parameterSign : Dialect → String
  | .mysql => "@"
  | .postgres => "$"

/-- The words of a frame with the parts between them. -/
def interleave : List String → List String → String
  | [], ps => String.join ps
  | w :: ws, p :: ps => w ++ p ++ interleave ws ps
  | w :: ws, [] => w ++ interleave ws []

namespace Term

mutual

/-- A term as its dialect writes it. -/
def print (d : Dialect) : Term → String
  | .text s => quotedText d s
  | .number s => s
  | .name n => n.print d
  | .word w => w
  | .placeholder mark n => printPlaceholder d mark n
  | .column qs last => String.intercalate "." (printAll d qs ++ [last.print d])
  | .anonymous f args =>
    (if f.quoted then f.print d else Text.upper f.text) ++ "(" ++
      String.intercalate ", " (printAll d args) ++ ")"
  | .type head args sizes => printType d head (printAll d args) (printAll d sizes)
  | .phrase "parameter" _ ps => parameterSign d ++ String.join (printAll d ps)
  | .phrase _ frame ps => interleave frame (printAll d ps)

/-- Some terms as their dialect writes them. -/
def printAll (d : Dialect) : List Term → List String
  | [] => []
  | t :: rest => t.print d :: printAll d rest

end

end Term

end TableDoc.Sql
