import TableDoc.Text.Path
import TableDoc.Text.Quoted

/-!
# Hosts

What a run needs of the system around it: the bytes of the standard input, the bytes of a file, and
a place for a text to go. A host may refuse a file, and says why.
-/

namespace TableDoc.CommandLine

/-- Why a file can not be opened, by number and in words. -/
structure FileFault where
  number : Nat
  words : String
deriving DecidableEq, Repr, Inhabited

namespace FileFault

/-- There is no such file. -/
def notFound : FileFault := ⟨2, "No such file or directory"⟩

/-- The path goes through a file. -/
def notDirectory : FileFault := ⟨20, "Not a directory"⟩

/-- The path leads to a directory. -/
def isDirectory : FileFault := ⟨21, "Is a directory"⟩

/-- A name of the path is too long. -/
def nameTooLong : FileFault := ⟨36, "File name too long"⟩

/-- The message for a fault with a path. -/
def message (f : FileFault) (path : String) : String :=
  "[Errno " ++ toString f.number ++ "] " ++ f.words ++ ": " ++ Text.display path

end FileFault

/-- The system around a run, with effects in `m`. -/
structure Host (m : Type → Type) where
  /-- The bytes of the standard input. -/
  standardInput : m (List Nat)
  /-- The bytes of a file. -/
  readFile : Text.Path → m (Except FileFault (List Nat))
  /-- Makes a text the whole content of a file, which need not be there before. -/
  writeFile : Text.Path → String → m (Except FileFault Unit)

end TableDoc.CommandLine
