import TableDoc.Sql.TypeName

/-!
# Terms

A term is what stands for a value or a type in a statement: a literal, a name, a column, a call, a
data type, or any other expression as a phrase, which keeps the fixed words around its parts. Every
term has a class, the word under which messages speak of it.
-/

namespace TableDoc.Sql

/-- A name, and whether it was written in quotes. -/
structure Name where
  text : String
  quoted : Bool := false
deriving DecidableEq, Repr, Inhabited

/-- What stands in front of the arguments of a data type. -/
inductive TypeHead where
  | builtin (t : TypeName)
  | custom (path : List Name)
  | interval (unit : String)
deriving DecidableEq, Repr, Inhabited

/-- Whether the arguments are types themselves. -/
def TypeHead.isNested : TypeHead → Bool
  | .builtin t => t.isNested
  | _ => false

/-- An expression or a data type. -/
inductive Term where
  /-- A text literal by its content. -/
  | text (content : String)
  /-- A number as it was written. -/
  | number (digits : String)
  /-- A name on its own. -/
  | name (n : Name)
  /-- A word that is no name. -/
  | word (w : String)
  /-- A place that is filled in later: the mark that shows it, and its name if it has one. -/
  | placeholder (mark name : String)
  /-- A column behind the names that qualify it, the innermost last. -/
  | column (qualifiers : List Term) (last : Term)
  /-- A call of a function that has no class of its own. -/
  | anonymous (f : Name) (args : List Term)
  /-- A data type with its arguments and the sizes of a fixed array. -/
  | type (head : TypeHead) (args sizes : List Term)
  /-- Any other expression: its class, the words around its parts, and the parts. -/
  | phrase (cls : String) (frame : List String) (parts : List Term)
deriving Repr, Inhabited

namespace Term

/-- A piece of a phrase: words of its frame, or a part. -/
abbrev Piece := String ⊕ Term

/-- The words before, between and after the parts of some pieces, and the parts. -/
def split : List Piece → List String × List Term
  | [] => ([""], [])
  | .inl w :: rest =>
    let (frame, ps) := split rest
    ((w ++ frame.headD "") :: frame.tail, ps)
  | .inr t :: rest =>
    let (frame, ps) := split rest
    ("" :: frame, t :: ps)

/-- A phrase of a class from its pieces. -/
def framed (cls : String) (pieces : List Piece) : Term :=
  .phrase cls (split pieces).1 (split pieces).2

/-- Some pieces with a text between each two. -/
def joined (gap : String) : List (List Piece) → List Piece
  | [] => []
  | [ps] => ps
  | ps :: rest => ps ++ .inl gap :: joined gap rest

/-- Terms with commas between them. -/
def listed (ts : List Term) : List Piece := joined ", " (ts.map fun t => [.inr t])

/-- A call as it is written: a word and arguments in parentheses. -/
def call (cls shown : String) (args : List Term) : Term :=
  framed cls ([.inl (shown ++ "(")] ++ listed args ++ [.inl ")"])

/-- The word under which messages speak of a term. -/
def className : Term → String
  | text _ | number _ => "literal"
  | name _ => "identifier"
  | word _ => "var"
  | placeholder _ _ => "placeholder"
  | column _ _ => "column"
  | anonymous _ _ => "anonymous"
  | type _ _ _ => "datatype"
  | phrase c _ _ => c

/-- Whether the term is a text or a number. -/
def isLiteral : Term → Bool
  | text _ | number _ => true
  | _ => false

/-- The parts of a term, in the order in which they are searched. -/
def parts : Term → List Term
  | column qs last => last :: qs.reverse
  | anonymous f args => if f.quoted then name f :: args else args
  | type _ args sizes => args ++ sizes
  | phrase _ _ ps => ps
  | _ => []

/-- The text that a term gives directly; most terms give none. -/
def ownText : Term → String
  | text s | number s | word s => s
  | name n => n.text
  | phrase "star" _ _ => "*"
  | phrase "null" _ _ => "NULL"
  | _ => ""

/-- The text that a term gives where a name is asked for; most terms give none. -/
def label : Term → String
  | column _ last => last.ownText
  | anonymous f _ => f.text
  | placeholder _ n => if n.isEmpty then "?" else n
  | phrase "dot" _ [_, last] => last.label
  | phrase "parameter" _ [inner] => inner.ownText
  | phrase "cast" _ (inner :: _) => inner.label
  | t => t.ownText

/-- The first name exactly `depth` levels inside a term. -/
def nameAt? : Nat → Term → Option Name
  | 0, .name n => some n
  | 0, _ => none
  | depth + 1, t => t.parts.findSome? (nameAt? depth)

/-- The first name inside a term, searched level by level, down to `depth` levels. -/
def nameWithin? (depth : Nat) (t : Term) : Option Name :=
  (List.range (depth + 1)).findSome? fun level => nameAt? level t

mutual

/-- The number of levels of a term. -/
def height : Term → Nat
  | .column qs last => max (heights qs) last.height + 1
  | .anonymous _ args => heights args + 2
  | .type _ args sizes => max (heights args) (heights sizes) + 1
  | .phrase _ _ ps => heights ps + 1
  | _ => 1

/-- The number of levels of the highest of some terms. -/
def heights : List Term → Nat
  | [] => 0
  | t :: rest => max t.height (heights rest)

end

/-- The first name inside a term, searched level by level. -/
def firstName? (t : Term) : Option Name := nameWithin? t.height t

end Term

end TableDoc.Sql
