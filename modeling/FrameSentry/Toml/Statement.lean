import FrameSentry.Toml.Quoted
import FrameSentry.Toml.Scalar

/-! The statements of a TOML text, one on a line: a table header, a header of one more table of an array, or
    a key with its value. A key is a path of names with dots between them. An array or a table in braces may
    go over several lines, with comments between its parts, and may have a comma after its last part. -/

namespace FrameSentry.Toml

/-- A value as it is written. The entries of a table in braces still have their paths. -/
inductive Literal where
  | scalar (value : Value)
  | array (items : List Literal)
  | table (entries : List (List String × Literal))
deriving Repr

/-- A statement. -/
inductive Statement where
  | header (path : List String)
  | arrayHeader (path : List String)
  | entry (path : List String) (value : Literal)
deriving Repr

/-- No path has more names, and no value more brackets around it. -/
def depthLimit : Nat := 80

/-! ### Blanks and comments -/

def isSpace (c : Char) : Bool := c = ' ' || c = '\t'

/-- A text without the spaces and tabs at its front. -/
def skipSpaces (s : List Char) : List Char := s.dropWhile isSpace

/-- A text without the blanks, line breaks and comments at its front. Refused if a comment holds a control
    character. -/
def skipTrivia : (inComment : Bool) → List Char → Option (List Char)
  | _, [] => some []
  | _, '\n' :: rest => skipTrivia false rest
  | _, '\r' :: '\n' :: rest => skipTrivia false rest
  | true, c :: rest => if isPlain c then skipTrivia true rest else none
  | false, c :: rest =>
    if isSpace c then skipTrivia false rest
    else if c = '#' then skipTrivia true rest
    else some (c :: rest)

/-- Nothing but a comment stands before the end of the line. -/
def atLineEnd (s : List Char) : Bool :=
  match skipSpaces s with
  | [] => true
  | '\n' :: _ => true
  | '\r' :: '\n' :: _ => true
  | c :: _ => c = '#'

/-! ### Paths -/

/-- A character that may stand in a name without quotes. -/
def isNameChar (c : Char) : Bool := c.isAlphanum || c = '_' || c = '-'

/-- A name, in quotes or without. -/
def readName (s : List Char) : Option (String × List Char) :=
  match readQuotedLine s with
  | some (name, rest) => some (String.ofList name, rest)
  | none =>
    let name := s.takeWhile isNameChar
    if name.isEmpty then none else some (String.ofList name, s.dropWhile isNameChar)

/-- A path of at most so many names, and what stands after the blanks that follow it. -/
def readPath : (most : Nat) → List Char → Option (List String × List Char)
  | 0, _ => none
  | most + 1, s => do
    let (name, rest) ← readName s
    match skipSpaces rest with
    | '.' :: rest =>
      let (path, rest) ← readPath most (skipSpaces rest)
      return (name :: path, rest)
    | rest => return ([name], rest)

/-! ### Values -/

/-- A character that ends a bare scalar. A quote does not. -/
def endsScalar (c : Char) : Bool :=
  isSpace c || c = '\n' || c = '\r' || c = ',' || c = ']' || c = '}' || c = '#' || c = '=' || c = '[' ||
    c = '{'

/-- The part of a text before the first character that ends a bare scalar, and the rest. -/
def splitScalar (s : List Char) : List Char × List Char :=
  (s.takeWhile fun c => !endsScalar c, s.dropWhile fun c => !endsScalar c)

/-- The text of a bare scalar. A date may be followed by one space and a time. -/
def bareText (s : List Char) : List Char × List Char :=
  let (text, rest) := splitScalar s
  match rest with
  | ' ' :: c :: after =>
    if isDate text && Numeral.isDigit 10 c then
      let (time, rest) := splitScalar (c :: after)
      (text ++ ' ' :: time, rest)
    else (text, rest)
  | rest => (text, rest)

def readBareScalar (s : List Char) : Option (Literal × List Char) :=
  let (text, rest) := bareText s
  (readScalar text).map fun v => (.scalar v, rest)

mutual

/-- A value with at most `depth` brackets around its innermost part. -/
def readValue : (fuel depth : Nat) → List Char → Option (Literal × List Char)
  | 0, _, _ => none
  | fuel + 1, depth, s =>
    match s, depth with
    | '"' :: _, _ | '\'' :: _, _ =>
      (readQuoted s).map fun (text, rest) => (.scalar (.text (String.ofList text)), rest)
    | '[' :: _, 0 | '{' :: _, 0 => none
    | '[' :: rest, depth + 1 =>
      (readItems fuel depth rest).map fun (items, rest) => (.array items, rest)
    | '{' :: rest, depth + 1 =>
      (readEntries fuel depth rest).map fun (entries, rest) => (.table entries, rest)
    | s, _ => readBareScalar s

/-- The items of an array, up to its closing bracket. -/
def readItems : (fuel depth : Nat) → List Char → Option (List Literal × List Char)
  | 0, _, _ => none
  | fuel + 1, depth, s => do
    match ← skipTrivia false s with
    | ']' :: rest => return ([], rest)
    | s =>
      let (item, rest) ← readValue fuel depth s
      match ← skipTrivia false rest with
      | ',' :: rest =>
        let (items, rest) ← readItems fuel depth rest
        return (item :: items, rest)
      | ']' :: rest => return ([item], rest)
      | _ => none

/-- The entries of a table in braces, up to its closing brace. -/
def readEntries : (fuel depth : Nat) → List Char → Option (List (List String × Literal) × List Char)
  | 0, _, _ => none
  | fuel + 1, depth, s => do
    match ← skipTrivia false s with
    | '}' :: rest => return ([], rest)
    | s =>
      let (path, rest) ← readPath depthLimit s
      let rest ← oneChar (· == '=') (← skipTrivia false rest)
      let (value, rest) ← readValue fuel depth (← skipTrivia false rest)
      match ← skipTrivia false rest with
      | ',' :: rest =>
        let (entries, rest) ← readEntries fuel depth rest
        return ((path, value) :: entries, rest)
      | '}' :: rest => return ([(path, value)], rest)
      | _ => none

end

/-! ### Statements -/

/-- A path between brackets; the opening ones are read. -/
def readHeaderPath (closing : List Char) (s : List Char) : Option (List String × List Char) := do
  let (path, rest) ← readPath depthLimit (skipSpaces s)
  if closing.isPrefixOf rest then some (path, rest.drop closing.length) else none

/-- The statement at the front of a line. -/
def readStatement (fuel : Nat) (s : List Char) : Option (Statement × List Char) :=
  match s with
  | '[' :: '[' :: rest => (readHeaderPath [']', ']'] rest).map fun (path, rest) => (.arrayHeader path, rest)
  | '[' :: rest => (readHeaderPath [']'] rest).map fun (path, rest) => (.header path, rest)
  | s => do
    let (path, rest) ← readPath depthLimit s
    let rest ← oneChar (· == '=') rest
    let (value, rest) ← readValue fuel depthLimit (skipSpaces rest)
    return (.entry path value, rest)

/-- The statements of a text. Each takes at least one character, and each bracket at most two steps, so the
    length of the text is fuel enough here and twice that for the values. -/
def readStatements : (fuel : Nat) → List Char → Option (List Statement)
  | 0, _ => none
  | fuel + 1, s => do
    match ← skipTrivia false s with
    | [] => return []
    | s =>
      let (statement, rest) ← readStatement (2 * fuel) s
      if atLineEnd rest then
        let statements ← readStatements fuel rest
        return statement :: statements
      else none

/-- The statements of a whole text, which may begin with a byte order mark. -/
def statements (text : String) : Option (List Statement) :=
  let s := match text.toList with
    | '\ufeff' :: rest => rest
    | s => s
  readStatements (s.length + 1) s

end FrameSentry.Toml
