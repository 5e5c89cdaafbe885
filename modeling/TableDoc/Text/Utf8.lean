import TableDoc.Text.Quoted

/-!
# Texts from bytes

Bytes are read as UTF-8, and strictly: no overlong form, no surrogate, nothing beyond the last code
point and nothing cut off. A fault names the bytes that could not be read. Line ends of every
system become line feeds.
-/

namespace TableDoc.Text

/-- Why bytes are not UTF-8. -/
inductive Utf8Cause where
  | startByte
  | continuationByte
  | endOfData
deriving DecidableEq, Repr

/-- Bytes that are not UTF-8: the place of the first, the first itself, their number, the cause. -/
structure Utf8Fault where
  place : Nat
  byte : Nat
  count : Nat
  cause : Utf8Cause
deriving DecidableEq, Repr

/-- The words for a cause. -/
def Utf8Cause.words : Utf8Cause → String
  | .startByte => "invalid start byte"
  | .continuationByte => "invalid continuation byte"
  | .endOfData => "unexpected end of data"

/-- The message for a fault. -/
def Utf8Fault.message (f : Utf8Fault) : String :=
  let what :=
    if f.count == 1 then
      "byte 0x" ++ String.ofList (hexDigits 2 f.byte) ++ " in position " ++ toString f.place
    else
      "bytes in position " ++ toString f.place ++ "-" ++ toString (f.place + f.count - 1)
  "'utf-8' codec can't decode " ++ what ++ ": " ++ f.cause.words

namespace Utf8

/-- The number of bytes after a first byte, and the bits that it holds itself. -/
def lead? (b : Nat) : Option (Nat × Nat) :=
  if b < 0x80 then some (0, b)
  else if 0xc2 ≤ b && b < 0xe0 then some (1, b - 0xc0)
  else if 0xe0 ≤ b && b < 0xf0 then some (2, b - 0xe0)
  else if 0xf0 ≤ b && b < 0xf5 then some (3, b - 0xf0)
  else none

/-- The range of the second byte after a first one: it shuts out overlong forms, surrogates and
what lies beyond the last code point. -/
def secondRange (b : Nat) : Nat × Nat :=
  if b == 0xe0 then (0xa0, 0xbf) else if b == 0xed then (0x80, 0x9f)
  else if b == 0xf0 then (0x90, 0xbf) else if b == 0xf4 then (0x80, 0x8f) else (0x80, 0xbf)

/-- The code point of `more` further bytes after the bits `bits` in `taken` bytes, and what
follows; or why not, with the number of bytes that were looked at. -/
def continued (range : Nat × Nat) (taken bits : Nat) :
    Nat → List Nat → Except (Nat × Utf8Cause) (Nat × List Nat)
  | 0, rest => .ok (bits, rest)
  | _ + 1, [] => .error (taken, .endOfData)
  | more + 1, b :: rest =>
    if range.1 ≤ b && b ≤ range.2 then
      continued (0x80, 0xbf) (taken + 1) (bits * 0x40 + b % 0x40) more rest
    else .error (taken, .continuationByte)

/-- The characters of bytes from a place on. Each character takes a byte, so as much fuel as there
are bytes is enough. -/
def charsFrom : Nat → Nat → List Nat → Except Utf8Fault (List Char)
  | _, _, [] => .ok []
  | 0, _, _ :: _ => .ok []
  | fuel + 1, place, b :: rest =>
    match lead? b with
    | none => .error ⟨place, b, 1, .startByte⟩
    | some (more, bits) =>
      match continued (secondRange b) 1 bits more rest with
      | .error (count, cause) => .error ⟨place, b, count, cause⟩
      | .ok (code, rest) => do
        let later ← charsFrom fuel (place + more + 1) rest
        return Char.ofNat code :: later

end Utf8

/-- The characters with every line end as a line feed. -/
def unifyLineEnds : List Char → List Char
  | '\r' :: '\n' :: rest => '\n' :: unifyLineEnds rest
  | '\r' :: rest => '\n' :: unifyLineEnds rest
  | c :: rest => c :: unifyLineEnds rest
  | [] => []

/-- The text of bytes, its line ends unified. -/
def ofUtf8 (bytes : List Nat) : Except Utf8Fault String := do
  let cs ← Utf8.charsFrom bytes.length 0 bytes
  return String.ofList (unifyLineEnds cs)

end TableDoc.Text
