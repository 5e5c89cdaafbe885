import TableDoc.Json
import TableDoc.Text.LetterCase

/-!
# Validation

A structured value is read as a specification field by field. Every failure is reported with the
place where it was found, in the order in which the fields are declared; a value is given back only
when there is none. Members that no field takes are ignored.
-/

namespace TableDoc

/-- One step from a value to a part of it. -/
inductive Step where
  | field (name : String)
  | item (index : Nat)
deriving DecidableEq, Repr

/-- What is wrong with a value. -/
inductive Cause where
  | missing
  | notText
  | notList
  | notTruth
  | unreadableTruth
  | notObject (model : String)
  | notPath
  | unknownDialect (given : String) (supported : String)
deriving DecidableEq, Repr

/-- The word that classes a cause. -/
def Cause.word : Cause → String
  | .missing => "missing"
  | .notText => "string_type"
  | .notList => "list_type"
  | .notTruth => "bool_type"
  | .unreadableTruth => "bool_parsing"
  | .notObject _ => "model_type"
  | .notPath => "path_type"
  | .unknownDialect _ _ => "value_error"

/-- The message for a cause. -/
def Cause.message : Cause → String
  | .missing => "Field required"
  | .notText => "Input should be a valid string"
  | .notList => "Input should be a valid list"
  | .notTruth => "Input should be a valid boolean"
  | .unreadableTruth => "Input should be a valid boolean, unable to interpret input"
  | .notObject model => "Input should be a valid dictionary or instance of " ++ model
  | .notPath => "Input is not a valid path for <class 'pathlib.Path'>"
  | .unknownDialect given supported =>
    "Value error, Unsupported SQL dialect: " ++ given ++ ". Supported: " ++ supported

/-- A failure and the place where it was found. -/
structure Failure where
  place : List Step
  cause : Cause
deriving DecidableEq, Repr

/-- A value, or all failures that were found in reading it. -/
abbrev Checked (α : Type) := Except (List Failure) α

namespace Checked

/-- A value without failures. -/
def ok {α : Type} (a : α) : Checked α := Except.ok a

/-- A failure at the value itself. -/
def fail {α : Type} (c : Cause) : Checked α := .error [⟨[], c⟩]

/-- What was found one step inside a value. -/
def under {α : Type} (s : Step) : Checked α → Checked α
  | .ok a => .ok a
  | .error fs => .error (fs.map fun f => { f with place := s :: f.place })

/-- Applies what one part gave to what the next part gave, and keeps the failures of both. -/
def app {α β : Type} : Checked (α → β) → Checked α → Checked β
  | .ok f, .ok a => .ok (f a)
  | .ok _, .error fs => .error fs
  | .error fs, .ok _ => .error fs
  | .error fs, .error gs => .error (fs ++ gs)

/-- Reads every item of a list, from index `i` on. -/
def itemsFrom {α : Type} (read : Json → Checked α) (i : Nat) : List Json → Checked (List α)
  | [] => .ok []
  | j :: rest => app (app (ok List.cons) (under (.item i) (read j))) (itemsFrom read (i + 1) rest)

end Checked

namespace Json

/-- A text. -/
def toText : Json → Checked String
  | .text s => .ok s
  | _ => Checked.fail .notText

/-- A text or null. -/
def toText? : Json → Checked (Option String)
  | .null => .ok none
  | .text s => .ok (some s)
  | _ => Checked.fail .notText

/-- The words for false. -/
def falseWords : List String := ["0", "off", "f", "false", "n", "no"]

/-- The words for true. -/
def trueWords : List String := ["1", "on", "t", "true", "y", "yes"]

/-- A truth value, the number zero or one, or a word for either. -/
def toTruth : Json → Checked Bool
  | .bool b => .ok b
  | .number m e =>
    let one := Int.ofNat (Nat.pow 10 e)
    if m % one != 0 then Checked.fail .notTruth
    else if m == 0 then .ok false
    else if m == one then .ok true
    else Checked.fail .unreadableTruth
  | .text s =>
    let word := String.ofList (s.toList.map Char.toLower)
    if falseWords.contains word then .ok false
    else if trueWords.contains word then .ok true
    else Checked.fail .unreadableTruth
  | _ => Checked.fail .notTruth

/-- A list of values of one kind. -/
def toList {α : Type} (read : Json → Checked α) : Json → Checked (List α)
  | .array items => Checked.itemsFrom read 0 items
  | _ => Checked.fail .notList

/-- The members of an object of the named model. -/
def toMembers (model : String) : Json → Checked (List (String × Json))
  | .object members => .ok members
  | _ => Checked.fail (.notObject model)

/-- A field that must be given. -/
def required {α : Type} (key : String) (read : Json → Checked α)
    (members : List (String × Json)) : Checked α :=
  Checked.under (.field key) <| match member? key members with
    | some j => read j
    | none => Checked.fail .missing

/-- A field with a value of its own where it is not given. -/
def optional {α : Type} (key : String) (absent : α) (read : Json → Checked α)
    (members : List (String × Json)) : Checked α :=
  match member? key members with
  | some j => Checked.under (.field key) (read j)
  | none => .ok absent

end Json

end TableDoc
