import FrameSentry.Text.Numeral

/-! Dates and times as they are written in TOML: a date, a time, or a date and a time with or without an
    offset. Days are those of the Gregorian calendar, and seconds may be left out. -/

namespace FrameSentry.Toml

/-- `count` decimal digits at the front and the number they write. -/
def fixedDigits (count : Nat) (s : List Char) : Option (Nat × List Char) :=
  let digits := s.take count
  if digits.length = count && digits.all (Numeral.isDigit 10) then
    some (Numeral.value 10 digits, s.drop count)
  else none

/-- A character at the front that satisfies a condition. -/
def oneChar (ok : Char → Bool) : List Char → Option (List Char)
  | c :: rest => if ok c then some rest else none
  | [] => none

def isLeapYear (year : Nat) : Bool := year % 4 = 0 && (year % 100 ≠ 0 || year % 400 = 0)

def daysInMonth (year month : Nat) : Nat :=
  if month = 2 then (if isLeapYear year then 29 else 28)
  else if month = 4 || month = 6 || month = 9 || month = 11 then 30
  else 31

/-- A year of four digits, a month and a day. -/
def readDate (s : List Char) : Option (List Char) := do
  let (year, s) ← fixedDigits 4 s
  let s ← oneChar (· == '-') s
  let (month, s) ← fixedDigits 2 s
  let s ← oneChar (· == '-') s
  let (day, s) ← fixedDigits 2 s
  if 1 ≤ month && month ≤ 12 && 1 ≤ day && day ≤ daysInMonth year month then some s else none

/-- A fraction of a second, if there is one: a point and one digit or more. -/
def readFraction (s : List Char) : Option (List Char) :=
  match s with
  | '.' :: rest =>
    let (digits, rest) := Numeral.span 10 rest
    if digits.isEmpty then none else some rest
  | s => some s

/-- The seconds of a time, if there are any. A minute may have a leap second. -/
def readSeconds (s : List Char) : Option (List Char) :=
  match s with
  | ':' :: rest => do
    let (second, s) ← fixedDigits 2 rest
    if second ≤ 60 then readFraction s else none
  | s => some s

/-- An hour, a minute, and seconds if there are any. -/
def readTime (s : List Char) : Option (List Char) := do
  let (hour, s) ← fixedDigits 2 s
  let s ← oneChar (· == ':') s
  let (minute, s) ← fixedDigits 2 s
  if hour ≤ 23 && minute ≤ 59 then readSeconds s else none

/-- The distance from universal time, if it is given. -/
def readOffset (s : List Char) : Option (List Char) :=
  match s with
  | [] => some []
  | c :: rest =>
    if c = 'Z' || c = 'z' then some rest
    else if c = '+' || c = '-' then do
      let (hour, s) ← fixedDigits 2 rest
      let s ← oneChar (· == ':') s
      let (minute, s) ← fixedDigits 2 s
      if hour ≤ 23 && minute ≤ 59 then some s else none
    else some (c :: rest)

/-- The whole of a text is a date. -/
def isDate (s : List Char) : Bool := readDate s == some []

/-- The whole of a text is a date, a time, or both. -/
def isMoment (s : List Char) : Bool :=
  isDate s || readTime s == some [] ||
    (do
      let s ← readDate s
      let s ← oneChar (fun c => c == 'T' || c == 't' || c == ' ') s
      let s ← readTime s
      readOffset s) == some []

end FrameSentry.Toml
