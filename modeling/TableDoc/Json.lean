/-!
# Structured values

The values that specifications and definitions are exchanged as: null, truth values, decimal
numbers, texts, arrays and objects. An object keeps its members in order, and of members with one
key the last counts.
-/

namespace TableDoc

/-- A structured value. The number with mantissa `m` and `e` decimals is `m / 10 ^ e`. -/
inductive Json where
  | null
  | bool (b : Bool)
  | number (mantissa : Int) (decimals : Nat)
  | text (s : String)
  | array (items : List Json)
  | object (members : List (String × Json))
deriving Repr, Inhabited

namespace Json

/-- The member of an object with this key. -/
def member? (key : String) (members : List (String × Json)) : Option Json :=
  members.reverse.lookup key

/-- A text, or null for none. -/
def ofText? : Option String → Json
  | some s => .text s
  | none => .null

/-- An array of texts. -/
def ofTexts (ss : List String) : Json := .array (ss.map .text)

end Json

end TableDoc
