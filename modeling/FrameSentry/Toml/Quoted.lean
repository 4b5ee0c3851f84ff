import FrameSentry.Text.Numeral

/-! The four kinds of quoted text in TOML: basic and literal, on one line or on several. Basic text has
    escapes, literal text has none. Each reader begins after the opening quotes and gives back what follows
    the closing ones. -/

namespace FrameSentry.Toml

/-- A character that may stand in text and comments as it is: a tab, or anything that is no control
    character. -/
def isPlain (c : Char) : Bool := c = '\t' || (0x20 ≤ c.toNat && c.toNat ≠ 0x7F)

/-- The character whose number some hexadecimal digits write. -/
def codePoint? (digits : List Char) : Option Char :=
  if digits.all (Numeral.isDigit 16) then
    let n := Numeral.value 16 digits
    if n.isValidChar then some (Char.ofNat n) else none
  else none

/-- The character that a letter stands for after a backslash. -/
def escape? : Char → Option Char
  | 'b' => some '\x08'
  | 't' => some '\t'
  | 'n' => some '\n'
  | 'f' => some '\x0c'
  | 'r' => some '\r'
  | 'e' => some '\x1b'
  | '"' => some '"'
  | '\\' => some '\\'
  | _ => none

/-- Text with one more character in front, if that character could be read. -/
def prepend (c : Option Char) (r : Option (List Char × List Char)) : Option (List Char × List Char) :=
  match c, r with
  | some c, some (text, rest) => some (c :: text, rest)
  | _, _ => none

/-- Basic text on one line. -/
def readBasic : List Char → Option (List Char × List Char)
  | [] => none
  | '"' :: rest => some ([], rest)
  | '\\' :: 'x' :: a :: b :: rest => prepend (codePoint? [a, b]) (readBasic rest)
  | '\\' :: 'u' :: a :: b :: c :: d :: rest => prepend (codePoint? [a, b, c, d]) (readBasic rest)
  | '\\' :: 'U' :: a :: b :: c :: d :: e :: f :: g :: h :: rest =>
    prepend (codePoint? [a, b, c, d, e, f, g, h]) (readBasic rest)
  | '\\' :: c :: rest => prepend (escape? c) (readBasic rest)
  | c :: rest => if isPlain c && c ≠ '\\' then prepend (some c) (readBasic rest) else none

/-- Literal text on one line. -/
def readLiteral : List Char → Option (List Char × List Char)
  | [] => none
  | '\'' :: rest => some ([], rest)
  | c :: rest => if isPlain c then prepend (some c) (readLiteral rest) else none

/-- Nothing but spaces and tabs stands before the end of the line. -/
def endsLine : List Char → Bool
  | '\n' :: _ => true
  | '\r' :: '\n' :: _ => true
  | c :: rest => (c = ' ' || c = '\t') && endsLine rest
  | [] => false

/-- A line break right after the opening quotes is left out. -/
def dropFirstBreak : List Char → List Char
  | '\n' :: rest => rest
  | '\r' :: '\n' :: rest => rest
  | s => s

/-- Basic text on several lines. One or two quotes may stand before the closing ones. While `skipping`, blanks
    and line breaks are left out, as they are after a backslash at the end of a line. -/
def readBasicLines (skipping : Bool) : List Char → Option (List Char × List Char)
  | [] => none
  | '"' :: '"' :: '"' :: '"' :: '"' :: rest => some (['"', '"'], rest)
  | '"' :: '"' :: '"' :: '"' :: rest => some (['"'], rest)
  | '"' :: '"' :: '"' :: rest => some ([], rest)
  | '\\' :: 'x' :: a :: b :: rest => prepend (codePoint? [a, b]) (readBasicLines false rest)
  | '\\' :: 'u' :: a :: b :: c :: d :: rest => prepend (codePoint? [a, b, c, d]) (readBasicLines false rest)
  | '\\' :: 'U' :: a :: b :: c :: d :: e :: f :: g :: h :: rest =>
    prepend (codePoint? [a, b, c, d, e, f, g, h]) (readBasicLines false rest)
  | '\r' :: '\n' :: rest =>
    if skipping then readBasicLines true rest
    else prepend (some '\r') (prepend (some '\n') (readBasicLines false rest))
  | '\\' :: c :: rest =>
    if endsLine (c :: rest) then readBasicLines true (c :: rest)
    else prepend (escape? c) (readBasicLines false rest)
  | c :: rest =>
    if skipping && (c = ' ' || c = '\t' || c = '\n') then readBasicLines true rest
    else if (isPlain c && c ≠ '\\') || c = '\n' then prepend (some c) (readBasicLines false rest)
    else none

/-- Literal text on several lines. One or two quotes may stand before the closing ones. -/
def readLiteralLines : List Char → Option (List Char × List Char)
  | [] => none
  | '\'' :: '\'' :: '\'' :: '\'' :: '\'' :: rest => some (['\'', '\''], rest)
  | '\'' :: '\'' :: '\'' :: '\'' :: rest => some (['\''], rest)
  | '\'' :: '\'' :: '\'' :: rest => some ([], rest)
  | '\r' :: '\n' :: rest => prepend (some '\r') (prepend (some '\n') (readLiteralLines rest))
  | c :: rest => if isPlain c || c = '\n' then prepend (some c) (readLiteralLines rest) else none

/-- Quoted text on one line, at its opening quote. -/
def readQuotedLine : List Char → Option (List Char × List Char)
  | '"' :: rest => readBasic rest
  | '\'' :: rest => readLiteral rest
  | _ => none

/-- Quoted text of any kind, at its opening quotes. -/
def readQuoted : List Char → Option (List Char × List Char)
  | '"' :: '"' :: '"' :: rest => readBasicLines false (dropFirstBreak rest)
  | '\'' :: '\'' :: '\'' :: rest => readLiteralLines (dropFirstBreak rest)
  | s => readQuotedLine s

end FrameSentry.Toml
