/-!
# Paths

A path is a root, which is empty, one slash or two, and names between slashes. Its normal form has
no empty name and no single dot; a path without root and names is a dot.
-/

namespace TableDoc.Text

/-- A path: its root and the names from there. -/
structure Path where
  root : String
  names : List String
deriving DecidableEq, Repr, Inhabited

namespace Path

/-- The characters cut at every slash. -/
def cut : List Char → List (List Char)
  | [] => [[]]
  | c :: rest =>
    match cut rest with
    | [] => [[c]]
    | first :: others => if c == '/' then [] :: first :: others else (c :: first) :: others

/-- The names that count: a name that is empty or a single dot leads nowhere. -/
def namesOf (cs : List Char) : List String :=
  ((cut cs).filter fun n => n != [] && n != ['.']).map String.ofList

/-- The root of a path: two slashes differ from one, three or more do not. -/
def rootOf : List Char → String
  | '/' :: '/' :: '/' :: _ => "/"
  | '/' :: '/' :: _ => "//"
  | '/' :: _ => "/"
  | _ => ""

/-- The path that a text writes. -/
def ofText (s : String) : Path := ⟨rootOf s.toList, namesOf s.toList⟩

/-- The text of a path in normal form. -/
def toText (p : Path) : String :=
  if p.root.isEmpty && p.names.isEmpty then "." else p.root ++ String.intercalate "/" p.names

/-- A text as a path in normal form. -/
def normal (s : String) : String := (ofText s).toText

end Path

end TableDoc.Text
