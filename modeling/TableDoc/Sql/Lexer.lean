import TableDoc.Sql.Lexis

/-!
# Reading tokens

`tokens` cuts a statement into its tokens. Each step looks at the rest of the statement and says
which lexeme stands there and how many characters it takes; blanks and comments are lexemes without
a token. A statement whose last quote or comment is never closed has no tokens at all, nor has one
with a numeral whose digits do not fit its base.
-/

namespace TableDoc.Sql

/-- Why a statement has no tokens. -/
inductive LexicalFault where
  | unclosedQuote
  | unclosedComment
  | foreignDigit
deriving DecidableEq, Repr

/-- What stands at one place of a statement. -/
inductive Lexeme where
  | blank
  | comment
  | token (kind : TokenKind) (text : String)
deriving Repr

/-- A lexeme and the number of characters it takes. -/
abbrev Scan := Except LexicalFault (Lexeme × Nat)

namespace Lexer

/-! ## Numerals -/

/-- Whether a character is a digit of the base. -/
def isBaseDigit (base : Nat) (c : Char) : Bool :=
  if base == 2 then c == '0' || c == '1'
  else Text.isDigit c || ('a' ≤ c && c ≤ 'f') || ('A' ≤ c && c ≤ 'F')

/-- Digits of the base with single underscores between them. -/
def isDigitRun (base : Nat) : List Char → Bool
  | [] => false
  | [c] => isBaseDigit base c
  | c :: '_' :: rest => isBaseDigit base c && isDigitRun base rest
  | c :: rest => isBaseDigit base c && isDigitRun base rest

/-- The characters without a base mark such as `0x` in front. -/
def dropBaseMark (base : Nat) : List Char → List Char
  | '0' :: m :: rest =>
    if (base == 16 && (m == 'x' || m == 'X')) || (base == 2 && (m == 'b' || m == 'B')) then
      match rest with
      | '_' :: rest => rest
      | rest => rest
    else '0' :: m :: rest
  | cs => cs

/-- Whether the characters spell a numeral of the base, blanks, sign and mark allowed. -/
def isNumeral (base : Nat) (cs : List Char) : Bool :=
  match Text.trimChars cs with
  | '+' :: rest | '-' :: rest => isDigitRun base (dropBaseMark base rest)
  | rest => isDigitRun base (dropBaseMark base rest)

/-- The number of characters that continue a number after its first digit. A point is taken once,
an exponent mark once and a sign only after the mark. -/
def numberTail (afterParameter : Bool) : List Char → Bool → Nat → Nat
  | [], _, _ => 0
  | c :: rest, point, marks =>
    if Text.isDigit c then numberTail afterParameter rest point marks + 1
    else if c == '.' && !point then
      if afterParameter then 0 else numberTail afterParameter rest true marks + 1
    else if (c == '-' || c == '+') && marks == 1 then
      if rest.head?.any Text.isDigit then numberTail afterParameter rest point 2 + 1 else 0
    else if (c == 'e' || c == 'E') && marks == 0 then numberTail afterParameter rest point 1 + 1
    else 0

/-- The number of characters up to the next blank or sign. -/
def plainTail (x : Lexis) (cs : List Char) : Nat :=
  (cs.takeWhile fun c => !Text.isBlank c && (x.sign? c).isNone).length

/-- A number, or a word that begins with one. -/
def number (x : Lexis) (afterParameter : Bool) (cs : List Char) : Lexeme × Nat :=
  match cs with
  | '0' :: m :: rest =>
    if m == 'x' || m == 'X' || m == 'b' || m == 'B' then
      let width := plainTail x rest + 2
      let base := if m == 'x' || m == 'X' then 16 else 2
      let written := cs.take width
      if isNumeral base written then
        (.token (if base == 16 then .hexText else .bitText) (String.ofList (written.drop 2)),
          width)
      else (.token .quotedName (String.ofList written), width)
    else decimal cs
  | _ => decimal cs
where
  /-- A number in base ten. -/
  decimal (cs : List Char) : Lexeme × Nat :=
    let width := numberTail afterParameter (cs.drop 1) false 0 + 1
    let rest := cs.drop width
    if x.wordsStartWithDigit && rest.head?.any Text.isWordStart then
      let width := width + plainTail x rest
      (.token .word (String.ofList (cs.take width)), width)
    else (.token .number (String.ofList (cs.take width)), width)

/-! ## Quotes -/

/-- The character that a backslash and this letter stand for. -/
def escapedControl? : Char → Option Char
  | '0' => some '\x00'
  | 'b' => some '\x08'
  | 'n' => some '\n'
  | 'r' => some '\r'
  | 't' => some '\t'
  | 'Z' => some '\x1a'
  | '\\' => some '\\'
  | _ => none

/-- Characters before which a backslash stays as it is. -/
def keepsBackslash (c : Char) : Bool := c == '%' || c == '_'

/-- Content up to the closing quote, and the number of characters with the quote. -/
abbrev Quoted := Option (List Char × Nat)

/-- The content goes on with `cs` after `width` characters. -/
def Quoted.push (cs : List Char) (width : Nat) (q : Quoted) : Quoted :=
  q.map fun r => (cs ++ r.1, r.2 + width)

/-- A text up to `close`: a doubled quote stands for itself, and where backslashes escape they
stand for controls or for the next character. -/
def textBody (x : Lexis) (close : Char) : List Char → Quoted
  | [] => none
  | [c] => if c == close then some ([], 1) else none
  | c :: d :: rest =>
    if c == '\\' && x.backslashEscapes then
      match escapedControl? d with
      | some e => (textBody x close rest).push [e] 2
      | none =>
        if d == close || !keepsBackslash d then (textBody x close rest).push [d] 2
        else (textBody x close (d :: rest)).push [c] 1
    else if c == close then
      if d == close then (textBody x close rest).push [close] 2 else some ([], 1)
    else if x.textQuotes.contains c && d == c then (textBody x close rest).push [c, d] 2
    else (textBody x close (d :: rest)).push [c] 1

/-- A name up to `close`: a doubled quote stands for itself, and where backslashes escape they
stand for controls. -/
def nameBody (x : Lexis) (close : Char) : List Char → Quoted
  | [] => none
  | [c] => if c == close then some ([], 1) else none
  | c :: d :: rest =>
    if c == '\\' && x.backslashEscapes && (escapedControl? d).isSome then
      (nameBody x close rest).push (escapedControl? d).toList 2
    else if c == close then
      if d == close then (nameBody x close rest).push [close] 2 else some ([], 1)
    else (nameBody x close (d :: rest)).push [c] 1

/-- A text of bytes up to a single quote: a backslash or a quote before either escapes. -/
def bytesBody : List Char → Quoted
  | [] => none
  | [c] => if c == '\'' then some ([], 1) else none
  | c :: d :: rest =>
    if c == '\\' && d == '\'' then (bytesBody rest).push [d] 2
    else if c == '\\' && d == '\\' then (bytesBody rest).push [c, d] 2
    else if c == '\'' then
      if d == '\'' then (bytesBody rest).push [d] 2 else some ([], 1)
    else (bytesBody (d :: rest)).push [c] 1

/-- Everything before the first place where `close` stands. -/
def before? (close : List Char) : List Char → Option (List Char)
  | [] => if close.isEmpty then some [] else none
  | c :: rest =>
    if close.isPrefixOf (c :: rest) then some []
    else (before? close rest).map (c :: ·)

/-- A text between single quotes with a mark in front. -/
def marked (x : Lexis) (kind : TokenKind) (body : List Char) (base : Option Nat) : Scan :=
  let read := if kind == .byteText then bytesBody body else textBody x '\'' body
  match read with
  | none => .error .unclosedQuote
  | some (content, width) =>
    if base.any (fun b => !content.isEmpty && !isNumeral b content) then .error .foreignDigit
    else .ok (.token kind (String.ofList content), width + 2)

/-- A text between two equal dollar tags, or a lone dollar sign where no tag can stand. -/
def dollar (cs : List Char) : Scan :=
  let rest := cs.drop 1
  let lone : Scan := .ok (.token (.sign .at) "$", 1)
  match before? ['$'] rest with
  | none => if rest.isEmpty then .error .unclosedQuote else lone
  | some tag =>
    if !tag.isEmpty && (tag.all Text.isDigit || tag.any Text.isBlank) then lone
    else
      let fence := '$' :: tag ++ ['$']
      match before? fence (cs.drop fence.length) with
      | none => .error .unclosedQuote
      | some content =>
        .ok (.token .dollarText (String.ofList content), content.length + 2 * fence.length)

/-! ## Comments -/

/-- The two characters that open and the two that close a comment. -/
structure Fence where
  front : Char × Char
  back : Char × Char

/-- The signs of a comment. -/
def Fence.signs : Fence := ⟨('/', '*'), ('*', '/')⟩

/-- The signs of a comment of a template. -/
def Fence.template : Fence := ⟨('\x7b', '#'), ('#', '\x7d')⟩

/-- The number of characters after the front of a comment up to and with its back. Where comments
nest, the front of an inner one counts from the second character on. -/
def blockTail (nested : Bool) (f : Fence) : Nat → List Char → Option Nat
  | depth, a :: b :: c :: rest =>
    let closes := (a, b) == f.back
    if closes && depth == 0 then some 2
    else
      let depth := if closes then depth - 1 else depth
      if nested && (b, c) == f.front then (blockTail nested f (depth + 1) rest).map (· + 3)
      else (blockTail nested f depth (b :: c :: rest)).map (· + 1)
  | depth, [a, b] => if (a, b) == f.back && depth == 0 then some 2 else none
  | _, _ => none

/-- The number of characters to the end of the line. -/
def lineTail (cs : List Char) : Nat :=
  (cs.takeWhile (!Text.isBreak ·)).length

/-- A comment after its front. -/
def block (x : Lexis) (f : Fence) (rest : List Char) : Scan :=
  match blockTail x.nestedComments f 0 rest with
  | some width => .ok (.comment, width + 2)
  | none => .error .unclosedComment

/-- A comment, if one starts here. -/
def comment? (x : Lexis) (cs : List Char) : Option Scan :=
  match cs with
  | '/' :: '*' :: rest => some (block x .signs rest)
  | '\x7b' :: '#' :: rest => some (block x .template rest)
  | '-' :: '-' :: rest =>
    if x.hashComments && rest.head?.any (fun c => !Text.isBlank c && !Text.isControl c) then none
    else some (.ok (.comment, lineTail rest + 2))
  | '#' :: rest => if x.hashComments then some (.ok (.comment, lineTail rest + 1)) else none
  | _ => none

/-! ## Words and signs -/

/-- The number of characters that spell a keyword of several words, any blanks between them. -/
def phraseWidth? : List Char → List Char → Option Nat
  | [], _ => some 0
  | ' ' :: phrase, c :: rest =>
    if Text.isBlank c then
      let blanks := (rest.takeWhile Text.isBlank).length
      (phraseWidth? phrase (rest.drop blanks)).map (· + blanks + 1)
    else none
  | p :: phrase, c :: rest =>
    if Text.upperChar c == [p] then (phraseWidth? phrase rest).map (· + 1) else none
  | _ :: _, [] => none

/-- A keyword of several words that ends before a blank, a sign or the end, or one with a sign
inside. -/
def phrase? (x : Lexis) (cs : List Char) : Option (Lexeme × Nat) :=
  (x.phrases ++ Lexis.signedPhrases).findSome? fun phrase =>
    match phraseWidth? phrase.toList cs with
    | some width =>
      if Lexis.signedPhrases.contains phrase ||
          (cs.drop width).head?.all fun c => Text.isBlank c || (x.sign? c).isSome then
        some (.token (x.wordKind phrase) phrase, width)
      else none
    | none => none

/-- An operator of several characters. -/
def operator? (x : Lexis) (cs : List Char) : Option (Lexeme × Nat) :=
  x.operators.findSome? fun o =>
    if o.1.toList.isPrefixOf cs then some (.token (.sign o.2) o.1, o.1.length) else none

/-- A text with a mark in front of its quote, if one starts here. -/
def marked? (x : Lexis) (cs : List Char) : Option Scan :=
  match cs with
  | m :: q :: rest =>
    if (m == 'n' || m == 'N') && x.textQuotes.contains q then
      some <| match textBody x q rest with
        | none => .error .unclosedQuote
        | some (content, width) =>
          .ok (.token .nationalText (String.ofList content), width + 2)
    else if q != '\'' then none
    else if m == 'x' || m == 'X' then some (marked x .hexText rest (some 16))
    else if m == 'b' || m == 'B' then some (marked x .bitText rest (some 2))
    else if (m == 'e' || m == 'E') && x.dialect == .postgres then
      some (marked x .byteText rest none)
    else none
  | _ => none

/-- A word or keyword. -/
def word (x : Lexis) (afterParameter : Bool) (c : Char) (rest : List Char) : Lexeme × Nat :=
  let written := String.ofList (c :: rest.takeWhile x.continuesWord)
  let kind := if afterParameter then .word else x.wordKind (Text.upper written)
  (.token kind written, written.length)

/-- The lexeme at the head of the rest of a statement. -/
def lexeme (x : Lexis) (afterParameter : Bool) (c : Char) (rest : List Char) : Scan :=
  let cs := c :: rest
  if Text.isBlank c then .ok (.blank, 1)
  else if Text.isDigit c then .ok (number x afterParameter cs)
  else if c == x.nameQuote then
    match nameBody x c rest with
    | none => .error .unclosedQuote
    | some (content, width) => .ok (.token .quotedName (String.ofList content), width + 1)
  else if x.textQuotes.contains c then
    match textBody x c rest with
    | none => .error .unclosedQuote
    | some (content, width) => .ok (.token .text (String.ofList content), width + 1)
  else if x.dollarQuotes && c == '$' then dollar cs
  else match marked? x cs with
    | some scan => scan
    | none => match operator? x cs with
      | some found => .ok found
      | none => match comment? x cs with
        | some scan => scan
        | none => match phrase? x cs with
          | some found => .ok found
          | none => match x.sign? c with
            | some s => .ok (.token (.sign s) (String.singleton c), 1)
            | none => .ok (word x afterParameter c rest)

/-- What is kept in mind of the characters before a place. -/
structure Passed where
  /-- Whether the last token was the sign of a parameter. -/
  parameter : Bool := false
  /-- Whether the line is still that of the last token or of a comment of its own. -/
  sameLine : Bool := false
  /-- Whether a comment waits for the next token. -/
  comment : Bool := false

/-- Whether a comment begins before the line ends. -/
def commentOnLine (x : Lexis) (cs : List Char) : Bool :=
  (comment? x (cs.dropWhile fun c => Text.isBlank c && !Text.isBreak c)).isSome

/-- The tokens of the rest of a statement that starts at `start`. Every lexeme takes a character,
so as much fuel as there are characters is enough. A comment belongs to the last token on its line
or, if there is none, to the next token; at the very end it belongs to the last one anyway. -/
def run (x : Lexis) : Nat → Passed → Nat → List Char → Except LexicalFault (List Token)
  | _, _, _, [] => .ok []
  | 0, _, _, _ :: _ => .ok []
  | fuel + 1, passed, start, c :: rest => do
    let (found, width) ← lexeme x passed.parameter c rest
    let width := max width 1
    let tail := rest.drop (width - 1)
    match found with
    | .blank =>
      let sameLine := passed.sameLine && !Text.isBreak c
      run x fuel { passed with sameLine := sameLine } (start + width) tail
    | .comment =>
      let comment := passed.comment || !passed.sameLine
      run x fuel { passed with comment := comment } (start + width) tail
    | .token kind text =>
      let later ← run x fuel ⟨kind == .sign .at, true, false⟩ (start + width) tail
      let remarked := kind == .sign .semicolon && (passed.comment || commentOnLine x tail ||
        (later.isEmpty && !tail.all Text.isBlank))
      return ⟨kind, text, start, start + width, remarked⟩ :: later

/-! ## Statements kept as text -/

/-- The characters of `cs` from `start` to before `stop`. -/
def slice (cs : List Char) (start stop : Nat) : List Char :=
  (cs.drop start).take (stop - start)

/-- The tokens up to and with the first one that a semicolon follows at once, and the others. -/
def upToSemicolon (cs : List Char) : List Token → List Token × List Token
  | [] => ([], [])
  | t :: rest =>
    if (cs.drop t.stop).head? == some ';' then ([t], rest)
    else
      let (taken, left) := upToSemicolon cs rest
      (t :: taken, left)

/-- Where a statement begins with a keyword that keeps the rest of it as text, the tokens after the
keyword become one text token. -/
def keepAsText (x : Lexis) (cs : List Char) : Nat → Bool → List Token → List Token
  | 0, _, ts => ts
  | _ + 1, _, [] => []
  | fuel + 1, first, t :: rest =>
    let opens := match t.kind with
      | .keyword k => first && k.isOpaque x.dialect && (cs.drop t.stop).head? != some ';'
      | _ => false
    let startsNext := t.isSign .semicolon || t.isKeyword .begin
    if opens then
      let (taken, left) := upToSemicolon cs rest
      let cut := taken.getLast?.any fun l => (cs.drop l.stop).head? == some ';'
      let stop := if left.isEmpty && !cut then cs.length
        else (taken.getLast?.map Token.stop).getD t.stop
      let kept := Text.trimChars (slice cs t.stop stop)
      let place := (taken.getLast?.map Token.start).getD t.stop
      let later := keepAsText x cs fuel false left
      if kept.isEmpty then t :: later
      else t :: ⟨.text, String.ofList kept, place, stop, false⟩ :: later
    else t :: keepAsText x cs fuel startsNext rest

end Lexer

/-- The tokens of a statement. -/
def tokens (d : Dialect) (sql : String) : Except LexicalFault (List Token) := do
  let cs := sql.toList
  let found ← Lexer.run (Lexis.of d) cs.length {} 0 cs
  return Lexer.keepAsText (Lexis.of d) cs found.length true found

end TableDoc.Sql
