/-! Numerals: the digits of a base, the number they write, and the least digits that write a number.
    Only the ASCII digits and letters are digits. -/

namespace FrameSentry.Numeral

/-- The value of a digit in a base of at most sixteen, letters of either case. -/
def digit? (base : Nat) (c : Char) : Option Nat :=
  let d :=
    if '0' ≤ c ∧ c ≤ '9' then c.toNat - '0'.toNat
    else if 'a' ≤ c ∧ c ≤ 'f' then c.toNat - 'a'.toNat + 10
    else if 'A' ≤ c ∧ c ≤ 'F' then c.toNat - 'A'.toNat + 10
    else base
  if d < base then some d else none

/-- The character is a digit of the base. -/
def isDigit (base : Nat) (c : Char) : Bool := (digit? base c).isSome

/-- The number that a run of digits writes, the most significant first. -/
def value (base : Nat) (digits : List Char) : Nat :=
  digits.foldl (fun n c => n * base + (digit? base c).getD 0) 0

/-- The leading digits of a text and what follows them. -/
def span (base : Nat) (s : List Char) : List Char × List Char :=
  (s.takeWhile (isDigit base), s.dropWhile (isDigit base))

/-- An unsigned number below `limit` in decimal: one digit or more, after at most one plus sign.
    Leading zeros count for nothing. -/
def decimal? (limit : Nat) (s : List Char) : Option Nat :=
  let digits := match s with
    | '+' :: rest => rest
    | s => s
  if digits ≠ [] ∧ digits.all (isDigit 10) ∧ value 10 digits < limit then some (value 10 digits) else none

/-- The least digits that write `n`, in lower case. -/
def write (base n : Nat) : List Char := Nat.toDigits base n

end FrameSentry.Numeral
