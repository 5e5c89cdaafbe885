import TableDoc.Sql.Token

/-!
# Reading a statement

A reader looks at the tokens that are left, takes some of them and gives a value, or stops with a
fault. Giving `none` means that what was asked for does not stand here; the caller goes on with
something else. What is repeated is read at most once more than there are tokens left.
-/

namespace TableDoc.Sql

/-- Why a statement can not be read. -/
inductive SyntaxFault where
  /-- A sign or word that must follow does not. -/
  | expected (what : String)
  /-- A part that must be given is not. -/
  | missing (what : String)
  /-- Something else stands where the statement should have ended. -/
  | leftover
  /-- A type has no unsigned form. -/
  | noUnsignedForm
  /-- A function has too few or too many arguments. -/
  | argumentCount (function : String)
  /-- Parts are nested deeper than there are tokens. -/
  | tooDeep
deriving DecidableEq, Repr

/-- A place between two tokens of a statement. -/
structure Cursor where
  prev : Option Token := none
  rest : List Token
deriving DecidableEq, Repr, Inhabited

/-- Reads a value from the tokens that are left. -/
abbrev Reader (α : Type) := StateT Cursor (Except SyntaxFault) α

namespace Reader

/-- Stops with a fault. -/
def fail {α : Type} (f : SyntaxFault) : Reader α := throw f

/-- The token that comes next. -/
def peek : Reader (Option Token) := do return (← get).rest.head?

/-- The token after the next one. -/
def peekSecond : Reader (Option Token) := do return (← get).rest[1]?

/-- The token taken last. -/
def last : Reader (Option Token) := do return (← get).prev

/-- Whether no token is left. -/
def atEnd : Reader Bool := do return (← get).rest.isEmpty

/-- Whether the next token is of a kind. -/
def sees (p : Token → Bool) : Reader Bool := do return (← peek).any p

/-- Takes the next token if it is of a kind. -/
def take? (p : Token → Bool) : Reader (Option Token) := do
  match (← get).rest with
  | t :: rest => if p t then set (Cursor.mk (some t) rest); return some t else return none
  | [] => return none

/-- Takes the next token if it is of a kind, and says whether it was. -/
def accept (p : Token → Bool) : Reader Bool := do return (← take? p).isSome

/-- Goes back to a place. -/
def backTo (c : Cursor) : Reader Unit := set c

/-- Takes the next token, whatever it is. -/
def skip : Reader Unit := do let _ ← take? fun _ => true

/-- Takes a sign. -/
def sign (s : Sign) : Reader Bool := accept (·.isSign s)

/-- Takes a keyword. -/
def keyword (k : Keyword) : Reader Bool := accept (·.isKeyword k)

/-- Takes a word by its capitals. -/
def word (w : String) : Reader Bool := accept (·.isWord w)

/-- Takes one of some words by its capitals, and gives the capitals. -/
def oneOf? (ws : List String) : Reader (Option String) := do
  return (← take? fun t => t.kind != .text && ws.contains t.capitals).map Token.capitals

/-- Takes all of some kinds of token in order, or none of them. -/
def sequence (ps : List (Token → Bool)) : Reader Bool := do
  let start ← get
  match ps with
  | [] => return true
  | p :: rest =>
    if ← accept p then
      if ← sequence rest then return true
      backTo start
    return false

/-- Takes some words in order, or none of them. -/
def words (ws : List String) : Reader Bool := sequence (ws.map fun w t => t.isWord w)

/-- Takes the first of some runs of words that stands here. -/
def anyWords : List (List String) → Reader Bool
  | [] => return false
  | ws :: rest => do
    if ← words ws then return true else anyWords rest

/-- Takes some keywords in order, or none of them. -/
def keywords (ks : List Keyword) : Reader Bool := sequence (ks.map fun k t => t.isKeyword k)

/-- Takes a word that opens a choice, with one of the runs of words that must follow it; a word
without such runs stands alone. -/
def choice (options : List (String × List (List String))) : Reader Bool := do
  let start ← get
  match (← peek).bind fun t => options.lookup t.capitals with
  | none => return false
  | some runs =>
    skip
    if runs.isEmpty || (← anyWords runs) then return true
    else
      backTo start
      return false

/-- Takes all tokens that are left. -/
def skipAll : Reader Unit := do
  let c ← get
  set (Cursor.mk (c.rest.getLast?.or c.prev) [])

/-- Takes the words for a thing that may be missing. -/
def ifExists : Reader Unit := do
  let _ ← words ["IF", "EXISTS"]

/-- Takes the words for a thing that may be there already. -/
def ifNotExists : Reader Unit := do
  let _ ← words ["IF", "NOT", "EXISTS"]

/-- Requires what was read. -/
def required {α : Type} (what : String) (r : Reader (Option α)) : Reader α := do
  match ← r with
  | some a => return a
  | none => fail (.missing what)

/-- Requires a sign. -/
def must (s : Sign) (what : String) : Reader Unit := do
  unless ← sign s do fail (.expected what)

/-- Requires the parenthesis that closes a list. -/
def closing : Reader Unit := must .rParen "closing parenthesis"

/-- The first of some readers that gives a value. -/
def firstOf {α : Type} : List (Reader (Option α)) → Reader (Option α)
  | [] => return none
  | r :: rest => do
    match ← r with
    | some a => return some a
    | none => firstOf rest

/-- Reads a value; where that fails, or gives none, nothing has been taken. -/
def attempt {α : Type} (r : Reader (Option α)) : Reader (Option α) := fun c =>
  match r c with
  | .ok (some a, c') => .ok (some a, c')
  | .ok (none, _) => .ok (none, c)
  | .error _ => .ok (none, c)

/-- Reads a value; where there is none, nothing has been taken. -/
def orBack {α : Type} (r : Reader (Option α)) : Reader (Option α) := do
  let start ← get
  match ← r with
  | some a => return some a
  | none => backTo start; return none

/-- Reads items until there is none, at most `fuel` of them. -/
def manyFrom {α : Type} (item : Reader (Option α)) : Nat → Reader (List α)
  | 0 => return []
  | fuel + 1 => do
    match ← item with
    | some a => return a :: (← manyFrom item fuel)
    | none => return []

/-- Reads items until there is none. -/
def many {α : Type} (item : Reader (Option α)) : Reader (List α) := do
  manyFrom item ((← get).rest.length + 1)

/-- Extends a value as long as there is an extension, at most `fuel` times. -/
def extendFrom {α : Type} (more : α → Reader (Option α)) : Nat → α → Reader α
  | 0, a => return a
  | fuel + 1, a => do
    match ← more a with
    | some b => extendFrom more fuel b
    | none => return a

/-- Extends a value as long as there is an extension. -/
def extend {α : Type} (more : α → Reader (Option α)) (a : α) : Reader α := do
  extendFrom more ((← get).rest.length + 1) a

/-- Reads items with commas between them; between two commas an item may be missing. -/
def commaList {α : Type} (item : Reader (Option α)) : Reader (List α) := do
  let first ← item
  let later ← many do
    if ← sign .comma then return some (← item) else return none
  return (first :: later).filterMap id

/-- Reads what stands between parentheses. -/
def wrapped {α : Type} (r : Reader α) : Reader α := do
  must .lParen "opening parenthesis"
  let a ← r
  closing
  return a

/-- Reads items with commas between them in parentheses. -/
def wrappedList {α : Type} (item : Reader (Option α)) : Reader (List α) :=
  wrapped (commaList item)

end Reader

end TableDoc.Sql
