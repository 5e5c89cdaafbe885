import TableDoc.CommandLine.Host

/-!
# Folders

A host of its own: a folder of files and a standard input, all held as bytes. Relative paths start
in the folder. What lies above the folder is only directories without files.
-/

namespace TableDoc.CommandLine

/-- A folder of files, and a standard input. A file is known by the names that lead to it. -/
structure Folder where
  files : List (List String × List Nat)
  input : List Nat := []
deriving DecidableEq, Repr, Inhabited

namespace Folder

/-- The bytes of the file at some names. -/
def file? (f : Folder) (names : List String) : Option (List Nat) := f.files.lookup names

/-- Whether the names lead to the folder itself or to a folder in it. -/
def isDirectory (f : Folder) (names : List String) : Bool :=
  names.isEmpty || f.files.any fun e => names.isPrefixOf e.1 && names != e.1

/-- Makes some bytes the whole content of a file. -/
def put (f : Folder) (names : List String) (content : List Nat) : Folder :=
  if (f.file? names).isSome then
    { f with files := f.files.map fun e => if e.1 == names then (names, content) else e }
  else { f with files := f.files ++ [(names, content)] }

/-- Where a path leads. -/
inductive Spot where
  | directory
  /-- A file, or the place for one. -/
  | file (names : List String)
deriving DecidableEq, Repr

/-- The number of bytes that a name of a path may have. -/
def nameLimit : Nat := 255

/-- Where names lead from a directory; `none` is a directory above the folder. -/
def locateFrom (f : Folder) : Option (List String) → List String → Except FileFault Spot
  | _, [] => .ok .directory
  | here, ".." :: rest =>
    match here with
    | none | some [] => locateFrom f none rest
    | some names => locateFrom f (some names.dropLast) rest
  | none, n :: _ => .error (if n.utf8ByteSize > nameLimit then .nameTooLong else .notFound)
  | some names, n :: rest =>
    let there := names ++ [n]
    if n.utf8ByteSize > nameLimit then .error .nameTooLong
    else if f.isDirectory there then locateFrom f (some there) rest
    else if rest.isEmpty then .ok (.file there)
    else .error (if (f.file? there).isSome then .notDirectory else .notFound)

/-- Where a path leads. -/
def locate (f : Folder) (p : Text.Path) : Except FileFault Spot :=
  locateFrom f (if p.root.isEmpty then some [] else none) p.names

/-- Reads the file that a path leads to. -/
def read (f : Folder) (p : Text.Path) : Except FileFault (List Nat) := do
  match ← f.locate p with
  | .directory => throw .isDirectory
  | .file names => match f.file? names with
    | some bytes => return bytes
    | none => throw .notFound

/-- Writes the file that a path leads to. -/
def write (f : Folder) (p : Text.Path) (text : String) : Except FileFault Folder := do
  match ← f.locate p with
  | .directory => throw .isDirectory
  | .file names => return f.put names (text.toUTF8.toList.map UInt8.toNat)

/-- The host that a folder is. -/
def host : Host (StateM Folder) where
  standardInput := do return (← get).input
  readFile p := do return (← get).read p
  writeFile p text := do
    match (← get).write p text with
    | .ok f => set f; return .ok ()
    | .error e => return .error e

end Folder

end TableDoc.CommandLine
