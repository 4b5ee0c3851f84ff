/-! The values of a TOML document, and whether the numbers in them can be represented. -/

namespace FrameSentry.Toml

/-- A decimal number with a fraction or an exponent: digits times a power of ten. -/
structure Decimal where
  digits : Nat
  exponent : Int
deriving DecidableEq, Repr

/-- The least number that is rounded to infinity when it is read as a binary number of 64 bits: half a unit
    above the greatest one that is finite. -/
def overflowBound : Nat := ((1 <<< 54) - 1) <<< 970

/-- The number of digits that write a number, at most `fuel`. -/
def digitCount : (fuel : Nat) → Nat → Nat
  | 0, _ => 0
  | _ + 1, 0 => 0
  | fuel + 1, n => digitCount fuel (n / 10) + 1

/-- The number is rounded to infinity when it is read as a binary number of 64 bits. A power of ten is only
    computed where the count of digits does not settle the question. -/
def Decimal.overflows (d : Decimal) : Bool :=
  let magnitude := digitCount (d.digits.log2 + 1) d.digits + d.exponent
  if d.digits = 0 || magnitude ≤ 308 then false
  else if 310 ≤ magnitude then true
  else if 0 ≤ d.exponent then overflowBound ≤ d.digits * Nat.pow 10 d.exponent.toNat
  else overflowBound * Nat.pow 10 (-d.exponent).toNat ≤ d.digits

/-- A value. An integer is absent where what stands in its place writes no number; a decimal number is absent
    where infinity or no number is written; a date or a time is kept as its text. -/
inductive Value where
  | text (s : String)
  | integer (n : Option Int)
  | decimal (d : Option Decimal)
  | flag (b : Bool)
  | moment (s : String)
  | array (items : List Value)
  | table (entries : List (String × Value))
deriving Repr

mutual

/-- Every number in the value can be represented: an integer as one of 128 bits, signed or not, and a
    decimal number without becoming infinite. -/
def Value.inRange : Value → Bool
  | .integer n => n.any fun n => -(2 : Int) ^ 127 ≤ n && n < (2 : Int) ^ 128
  | .decimal (some d) => !d.overflows
  | .array items => allInRange items
  | .table entries => entriesInRange entries
  | _ => true

def allInRange : List Value → Bool
  | [] => true
  | v :: rest => v.inRange && allInRange rest

def entriesInRange : List (String × Value) → Bool
  | [] => true
  | (_, v) :: rest => v.inRange && entriesInRange rest

end

end FrameSentry.Toml
