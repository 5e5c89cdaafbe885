import TableDoc.Sql.Rules
import TableDoc.Sql.Lexer
import TableDoc.Sql.TimeUnit

/-!
# Data types

A data type is a word that its dialect knows, or in one dialect a name of the user's own, then
arguments, a choice of time zone, a sign and the marks of an array. Where the arguments turn out to
be something else, the whole is no type and nothing has been taken.
-/

namespace TableDoc.Sql

open Reader

/-! ## The head -/

/-- The type that a word spells. -/
def spelledType? (d : Dialect) (s : String) : Option TypeName :=
  match tokens d s with
  | .ok [t] => t.typeName? d
  | _ => none

/-- The names behind the points after a name. -/
def pathFrom (n : Name) : Reader (List Name) := do
  let more ← many do
    if ← sign .dot then
      match ← anyName? with
      | some (.name m) => return some m
      | _ => fail (.missing "name")
    else return none
  return n :: more

/-- The type that a text spells from its first word on, which is a type; what follows the type does
not count. -/
def spelledWhole (r : Rules) (ts : List Token) : Reader Term := do
  let start ← get
  backTo ⟨none, ts⟩
  let t ← required "type" (r.types ⟨false, true, false⟩)
  backTo start
  return t

/-- What begins a type: its head, or a name that spells all of a type. -/
abbrev Beginning := TypeHead ⊕ Term

/-- The word or name that begins a type. A name in quotes counts by the tokens of its content; one
dialect tells its one-byte character by the quotes. -/
def typeBeginning? (d : Dialect) (r : Rules) (byName : Bool) : Reader (Option Beginning) := do
  match ← take? fun t => (t.typeName? d).isSome with
  | some t => return (t.typeName? d).map fun n => .inl (.builtin n)
  | none =>
    if !byName then return none
    else
      let start ← get
      let own (n : Name) : Reader (Option Beginning) := do
        match d with
        | .postgres => return some (.inl (.custom (← pathFrom n)))
        | .mysql => backTo start; return none
      match ← nameOf? (·.kind == .word) with
      | some (.name n) =>
        if d == .postgres && n == ⟨"char", true⟩ then own n
        else match tokens d n.text with
          | .ok (t :: more) => match t.typeName? d, more with
            | some w, [] => return some (.inl (.builtin w))
            | some _, _ => return some (.inr (← spelledWhole r (t :: more)))
            | none, _ => own n
          | _ => own n
      | _ => return none

/-! ## Arguments -/

/-- A size: an operand, after which one word is skipped. A bare name is a word in capitals. -/
def typeSize? (r : Rules) : Reader (Option Term) := do
  match ← r.typed with
  | none => return none
  | some t =>
    let _ ← anyVariable?
    match t with
    | .column [] (.name n) => return some (.word (Text.upper n.text))
    | t => return some t

/-- A field of a structured type: a name and a type, or a type alone. A name counts only before the
word of a type. -/
def typeField? (d : Dialect) (r : Rules) : Reader (Option Term) := do
  let field ← attempt do
    match ← anyName? with
    | none => return none
    | some n =>
      let _ ← sign .colon
      if ← sees fun t => (t.typeName? d).isSome then
        return (← r.types ⟨false, true, true⟩).map fun t =>
          .phrase "columndef" ["", " ", ""] [n, t]
      else return none
  match field with
  | some f => return some f
  | none => r.types {}

/-- The sizes of a vector: with two of them the first is the word for the type of its members. -/
def vectorSizes (d : Dialect) (args : List Term) : Reader (List Term) :=
  match args with
  | [member, size] => match spelledType? d member.ownText with
    | some t => return [.type (.builtin t) [] [], size]
    | none => fail (.missing "type")
  | args => return args

/-- The arguments between the brackets of a type. -/
def typeArguments (d : Dialect) (r : Rules) (p : TypePlace) (head : TypeHead) :
    Reader (List Term) :=
  match head with
  | .builtin t =>
    if t.isStruct then commaList (typeField? d r)
    else if t.isNested then commaList (r.types p)
    else if t.isEnumerated then commaList r.equality
    else commaList (typeSize? r)
  | _ => commaList (typeSize? r)

/-! ## What follows the arguments -/

/-- The choice of time zone after a type of time, and the type that it makes. -/
def timeZone (t : TypeName) : Reader (Option TypeName) := do
  if ← words ["WITH", "TIME", "ZONE"] then
    return some (if t.isTimeOfDay then .timetz else .timestamptz)
  else if ← words ["WITH", "LOCAL", "TIME", "ZONE"] then return some .timestampltz
  else if ← words ["WITHOUT", "TIME", "ZONE"] then return some t
  else return none

/-- A word in capitals. -/
def capitalWord? : Reader (Option String) := do
  return (← take? (·.kind == .word)).map Token.capitals

/-- The unit of an interval type, or its span of units. -/
def intervalUnit? (d : Dialect) : Reader (Option String) := do
  if ← sees fun t => t.kind == .word && TimeUnit.isUnit d t.capitals then
    match ← capitalWord? with
    | none => return none
    | some u =>
      if ← word "TO" then
        let v ← required "unit" capitalWord?
        return some (TimeUnit.written u ++ " TO " ++ v)
      else return some (TimeUnit.written u)
  else return none

/-- The unsigned form of a type where the word for it follows. -/
def withSign (head : TypeHead) : Reader TypeHead := do
  match head with
  | .builtin t =>
    if ← word "UNSIGNED" then
      match t.unsigned? with
      | some u => return .builtin u
      | none => fail .noUnsignedForm
    else return head
  | head => return head

/-- Whether the token taken last names the type of arrays. -/
def afterArrayWord (d : Dialect) : Reader Bool := do
  return (← last).any fun t => t.typeName? d == some .array

/-- One more pair of array brackets after a type, or the first after the word for an array, which
`spelled` tells. The sizes of a fixed array are read in a column definition alone; elsewhere what
has been taken since `start` is given back. -/
def arrayMark (d : Dialect) (r : Rules) (inSchema : Bool) (start : Cursor) :
    Term × Bool → Reader (Option (Term × Bool))
  | (t, spelled) => do
    if ← atEnd then return none
    let afterArray ← afterArrayWord d
    let bracket ← sign .lBracket
    if !bracket && !spelled then return none
    if afterArray then
      if ← sign .rBracket then return none
    let sizes ← commaList r.disjunction
    if !sizes.isEmpty && !inSchema then backTo start; return none
    let _ ← sign .rBracket
    return some (.type (.builtin .array) [t] sizes, false)

/-- The marks that make arrays and lists of a type. -/
def arrayMarks (d : Dialect) (r : Rules) (inSchema : Bool) (t : Term) : Reader Term := do
  let t ← extend (fun t => do
    if ← accept (fun u => u.typeName? d == some .list) then
      return some (.type (.builtin .list) [t] [])
    else return none) t
  let start ← get
  let spelled ← accept fun u => u.typeName? d == some .array
  return (← extend (arrayMark d r inSchema start) (t, spelled)).1

/-! ## The type -/

/-- The arguments of a type in parentheses; `none` where the parenthesis is not closed. -/
def roundArguments? (d : Dialect) (r : Rules) (p : TypePlace) (head : TypeHead) :
    Reader (Option (Option (List Term))) := do
  if ← sign .lParen then
    let args ← typeArguments d r p head
    let args ← if head == .builtin .vector then vectorSizes d args else pure args
    if ← sign .rParen then return some (some args) else return none
  else return some none

/-- The arguments of a nested type between angle brackets, and the values of a literal of it. A
structure without values is no literal. -/
def angleArguments? (d : Dialect) (r : Rules) (p : TypePlace) (head : TypeHead) :
    Reader (Option (List Term × Option (List Term))) := do
  if head.isNested then
    if ← sign .lt then
      let args ← typeArguments d r p head
      must .gt "closing angle bracket"
      let start ← get
      if ← accept fun t => t.isSign .lBracket || t.isSign .lParen then
        let values ← commaList r.disjunction
        let structured := match head with
          | .builtin t => t.isStruct
          | _ => false
        if structured && values.isEmpty then
          backTo start
          return some (args, none)
        let _ ← accept fun t => t.isSign .rBracket || t.isSign .rParen
        return some (args, some values)
      else return some (args, none)
  return none

/-- A type of pairs, after the bracket that opens it. -/
def mapPairs? (r : Rules) (p : TypePlace) : Reader (Option Term) := do
  let key ← r.types p
  if ← sign .fatArrow then
    let value ← r.types p
    if ← sign .rBracket then
      return some (.type (.builtin .map) (key.toList ++ value.toList) [])
    else return none
  else return none

/-- The values of a literal of a type, cast to it. -/
def literalOf (type : Term) (values : List Term) : Term :=
  .phrase "cast" ["CAST(", " AS ", ")"] [.phrase "array" (("ARRAY(" :: (values.drop 1).map fun _ =>
    ", ") ++ [")"]) values, type]

/-- What follows the arguments of a data type. -/
def typeEnd? (d : Dialect) (r : Rules) (p : TypePlace) (start : Cursor) (head : TypeHead)
    (round : Option (List Term)) : Reader (Option Term) := do
  let angle ← angleArguments? d r p head
  let args := match angle with
    | some (args, _) => args
    | none => round.getD []
  let zoned ← match head with
    | .builtin t => if t.isTimestamp then timeZone t else pure none
    | _ => pure none
  let unit ← if head == .builtin .interval then intervalUnit? d else pure none
  let isCall := round.isSome && p.inValue && zoned.isNone
  if isCall && !(← sees (·.kind == .text)) then
    backTo start
    return none
  let head ← match zoned, unit, head with
    | some t, _, .builtin u => if t == u then withSign head else pure (.builtin t)
    | _, some u, _ => pure (.interval u)
    | _, none, .builtin .interval => pure head
    | _, _, head => withSign head
  if head == .builtin .nullable && args.isEmpty then
    backTo start
    return none
  let t := Term.type head args []
  let t := match angle with
    | some (_, some values) => literalOf t values
    | _ => t
  return some (← arrayMarks d r p.inSchema t)

/-- What follows the head of a data type; `start` is the place before the head. -/
def typeAfter? (d : Dialect) (r : Rules) (p : TypePlace) (start : Cursor) (head : TypeHead) :
    Reader (Option Term) := do
  if ← accept fun t => head == .builtin .map && t.isSign .lBracket then
    match ← mapPairs? r p with
    | some t => return some t
    | none => backTo start; return none
  else match ← roundArguments? d r p head with
    | none => backTo start; return none
    | some round => match head, round with
      | .builtin .nullable, some [t] => return some t
      | _, _ => typeEnd? d r p start head round

/-- A data type at a place. Nothing follows a handle on an object of the database. -/
def dataType (d : Dialect) (r : Rules) (p : TypePlace) : Reader (Option Term) := do
  let start ← get
  let _ ← words ["SYSUDTLIB", "."]
  match ← typeBeginning? d r p.byName with
  | none => return none
  | some (.inr t) => return some t
  | some (.inl head) => match head with
    | .builtin t =>
      if t.isHandle then return some (.type head [] []) else typeAfter? d r p start head
    | _ => typeAfter? d r p start head

end TableDoc.Sql
