import FrameSentry.Toml.Moment
import FrameSentry.Toml.Value

/-! The bare scalars of TOML: truth values, integers in four bases, decimal numbers, dates and times. Single
    underscores may stand between digits. -/

namespace FrameSentry.Toml

/-- The characters of a text, each with the one after it. -/
def neighbours (s : List Char) : List (Char × Char) := s.zip (s.drop 1)

/-- Every underscore stands between two digits. -/
def underscoresFit (isDigit : Char → Bool) (s : List Char) : Bool :=
  s.head? != some '_' && s.getLast? != some '_' &&
    (neighbours s).all fun (a, b) => (a != '_' || isDigit b) && (b != '_' || isDigit a)

/-- A text without its underscores. -/
def dropUnderscores (s : List Char) : List Char := s.filter (· ≠ '_')

/-- The number that digits of a base write; there is none without a digit. -/
def natural? (base : Nat) (digits : List Char) : Option Int :=
  if digits.isEmpty || !digits.all (Numeral.isDigit base) then none else some (Numeral.value base digits)

/-- A sign, if there is one, and the rest. -/
def splitSign (s : List Char) : Bool × List Char :=
  match s with
  | '-' :: rest => (true, rest)
  | '+' :: rest => (false, rest)
  | s => (false, s)

/-- A number with its sign. -/
def signed (negative : Bool) (n : Int) : Int := if negative then -n else n

/-- An integer in a base other than ten, after the mark of its base. It has only digits of the base, but
    perhaps none at all. -/
def readBased (base : Nat) (s : List Char) : Option (Option Int) :=
  if s.all (fun c => Numeral.isDigit base c || c = '_') && underscoresFit (Numeral.isDigit base) s then
    some (natural? base (dropUnderscores s))
  else none

/-- A decimal integer, with or without a sign, and without leading zeros. An underscore may be followed by
    other characters than digits, as long as a hexadecimal digit stands on either side of each underscore; then
    the text is taken for an integer, but writes no number. -/
def readInteger (s : List Char) : Option (Option Int) :=
  let (negative, text) := splitSign s
  let follows := match text.dropWhile (Numeral.isDigit 10) with
    | [] => !text.isEmpty
    | c :: _ => c = '_'
  if follows && (text.length = 1 || text.head? != some '0') && underscoresFit (Numeral.isDigit 16) s then
    some ((natural? 10 (dropUnderscores text)).map (signed negative))
  else none

/-- Digits at the front, with or without underscores, and what follows them. There is at least one. -/
def readDigits (s : List Char) : Option (List Char × List Char) :=
  let inRun (c : Char) : Bool := Numeral.isDigit 10 c || c = '_'
  let digits := dropUnderscores (s.takeWhile inRun)
  if digits.isEmpty then none else some (digits, s.dropWhile inRun)

/-- The digits after a point at the front, if there is one, and what follows them. -/
def readPlaces (s : List Char) : Option (List Char × List Char) :=
  match s with
  | '.' :: rest => readDigits rest
  | s => some ([], s)

/-- The power of ten after a mark at the front, if there is one, and what follows it. -/
def readExponent (s : List Char) : Option (Int × List Char) :=
  match s with
  | 'e' :: rest | 'E' :: rest => do
    let (negative, rest) := splitSign rest
    let (digits, rest) ← readDigits rest
    return (signed negative (Numeral.value 10 digits), rest)
  | s => some (0, s)

/-- A decimal number without its sign: a whole part without leading zeros, a fraction and an exponent. -/
def readUnsignedDecimal (s : List Char) : Option Decimal := do
  let (whole, rest) ← readDigits s
  let (places, rest) ← readPlaces rest
  let (exponent, rest) ← readExponent rest
  if rest.isEmpty && (whole.length = 1 || s.head? != some '0') then
    some ⟨Numeral.value 10 (whole ++ places), exponent - places.length⟩
  else none

/-- A decimal number, with or without a sign. -/
def readDecimal (s : List Char) : Option Decimal :=
  if underscoresFit (Numeral.isDigit 10) s then readUnsignedDecimal (splitSign s).2 else none

/-- A character that only a decimal number has: a point, or the mark of an exponent. -/
def isDecimalMark (c : Char) : Bool := c = '.' || c = 'e' || c = 'E'

/-- A number. The mark of a base comes without a sign. -/
def readNumber (s : List Char) : Option Value :=
  match s with
  | '0' :: 'x' :: rest => (readBased 16 rest).map .integer
  | '0' :: 'o' :: rest => (readBased 8 rest).map .integer
  | '0' :: 'b' :: rest => (readBased 2 rest).map .integer
  | s =>
    let (_, text) := splitSign s
    if text = ['i', 'n', 'f'] || text = ['n', 'a', 'n'] then some (.decimal none)
    else if text.any isDecimalMark then (readDecimal s).map fun d => .decimal (some d)
    else (readInteger s).map .integer

/-- What a bare scalar writes. -/
def readScalar (s : List Char) : Option Value :=
  if s = ['t', 'r', 'u', 'e'] then some (.flag true)
  else if s = ['f', 'a', 'l', 's', 'e'] then some (.flag false)
  else if isMoment s then some (.moment (String.ofList s))
  else readNumber s

end FrameSentry.Toml
