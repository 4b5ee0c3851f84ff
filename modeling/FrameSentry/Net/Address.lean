import FrameSentry.Text.Numeral

/-! Internet addresses and their text. An address of version 4 is written as four decimal numbers with
    dots, one of version 6 as groups of hexadecimal digits with colons, the longest run of two zero
    groups or more left out. A socket address adds a port, and brackets around version 6. -/

namespace FrameSentry.Net

/-- An address of version 4, its bytes in the order of the wire. -/
structure Ipv4 where
  a : UInt8
  b : UInt8
  c : UInt8
  d : UInt8
deriving DecidableEq, Repr, Inhabited

/-- An address of version 6: eight groups of 16 bits. -/
structure Ipv6 where
  groups : List UInt16
deriving DecidableEq, Repr, Inhabited

/-- An address of either version. -/
inductive Ip where
  | v4 (address : Ipv4)
  | v6 (address : Ipv6)
deriving DecidableEq, Repr

/-- Where a listener waits: an address, its scope (zero if it has none) and a port. -/
structure SocketAddress where
  ip : Ip
  scope : UInt32
  port : UInt16
deriving DecidableEq, Repr

/-! ### Text -/

/-- Four decimal numbers with dots between them. -/
def Ipv4.text (x : Ipv4) : String :=
  s!"{x.a.toNat}.{x.b.toNat}.{x.c.toNat}.{x.d.toNat}"

namespace Ipv6

/-- The number of zero groups at the front. -/
def zeroRun (groups : List UInt16) : Nat := (groups.takeWhile (· == 0)).length

/-- The first place at which the longest run of zero groups begins, and the length of the run. -/
def longestZeroRun (groups : List UInt16) : Nat × Nat :=
  (List.range groups.length).foldl (fun best i =>
    let run := zeroRun (groups.drop i)
    if best.2 < run then (i, run) else best) (0, 0)

/-- Groups in hexadecimal with colons between them. -/
def joined (groups : List UInt16) : String :=
  ":".intercalate (groups.map fun g => String.ofList (Numeral.write 16 g.toNat))

/-- The version 4 address that stands for itself in version 6, after ten zero bytes and two of ones. -/
def mapped? (x : Ipv6) : Option Ipv4 :=
  match x.groups with
  | [0, 0, 0, 0, 0, 0xFFFF, g, h] =>
    some ⟨UInt8.ofNat (g.toNat / 256), UInt8.ofNat g.toNat, UInt8.ofNat (h.toNat / 256), UInt8.ofNat h.toNat⟩
  | _ => none

/-- The shortest text: a mapped address ends in dotted form, and the longest run of two zero groups or
    more is left out. -/
def text (x : Ipv6) : String :=
  match x.mapped? with
  | some v4 => s!"::ffff:{v4.text}"
  | none =>
    let (start, run) := longestZeroRun x.groups
    if 1 < run then s!"{joined (x.groups.take start)}::{joined (x.groups.drop (start + run))}"
    else joined x.groups

end Ipv6

/-- The text of an address. -/
def Ip.text : Ip → String
  | .v4 x => x.text
  | .v6 x => x.text

/-- The address that stands for every interface. -/
def Ip.isUnspecified : Ip → Bool
  | .v4 x => x == ⟨0, 0, 0, 0⟩
  | .v6 x => x.groups.all (· == 0)

/-- Version 6 stands in brackets, with its scope after a percent sign unless that is zero. -/
def SocketAddress.text (x : SocketAddress) : String :=
  match x.ip with
  | .v4 ip => s!"{ip.text}:{x.port.toNat}"
  | .v6 ip =>
    let scope := if x.scope = 0 then "" else s!"%{x.scope.toNat}"
    s!"[{ip.text}{scope}]:{x.port.toNat}"

/-! ### Reading

A reader takes what it can from the front of a text and gives back the rest, or refuses. -/

/-- One digit or more, no more than `most`, no zero before other digits unless allowed, and a value
    below `limit`. -/
def readNumber (base : Nat) (most : Option Nat) (leadingZero : Bool) (limit : Nat) (s : List Char) :
    Option (Nat × List Char) :=
  let (digits, rest) := Numeral.span base s
  let n := Numeral.value base digits
  if digits = [] then none
  else if most.any (· < digits.length) then none
  else if !leadingZero && digits.head? == some '0' && 1 < digits.length then none
  else if n < limit then some (n, rest) else none

/-- The character `c` at the front. -/
def readChar (c : Char) : List Char → Option (List Char)
  | x :: rest => if x = c then some rest else none
  | [] => none

/-- A number of at most three digits, below 256 and without leading zeros. -/
def readOctet (s : List Char) : Option (UInt8 × List Char) :=
  (readNumber 10 (some 3) false 256 s).map fun (n, rest) => (UInt8.ofNat n, rest)

/-- Four octets with dots between them. -/
def readIpv4 (s : List Char) : Option (Ipv4 × List Char) := do
  let (a, s) ← readOctet s
  let (b, s) ← readChar '.' s >>= readOctet
  let (c, s) ← readChar '.' s >>= readOctet
  let (d, s) ← readChar '.' s >>= readOctet
  return (⟨a, b, c, d⟩, s)

/-- A group of one to four hexadecimal digits. -/
def readGroup (s : List Char) : Option (UInt16 × List Char) :=
  (readNumber 16 (some 4) true 65536 s).map fun (n, rest) => (UInt16.ofNat n, rest)

/-- What stands at the front, after a colon unless it is the first of its list. -/
def afterColon {α : Type} (first : Bool) (read : List Char → Option (α × List Char)) (s : List Char) :
    Option (α × List Char) :=
  if first then read s else readChar ':' s >>= read

/-- As many groups as stand at the front, at most `room`. A dotted address in the place of two groups
    ends the list, and the second answer says that there was one. -/
def readGroups : (room : Nat) → (first : Bool) → List Char → List UInt16 × Bool × List Char
  | 0, _, s => ([], false, s)
  | room + 1, first, s =>
    match if room = 0 then none else afterColon first readIpv4 s with
    | some (x, rest) =>
      ([UInt16.ofNat (x.a.toNat * 256 + x.b.toNat), UInt16.ofNat (x.c.toNat * 256 + x.d.toNat)], true, rest)
    | none =>
      match afterColon first readGroup s with
      | some (g, rest) =>
        let (groups, dotted, rest) := readGroups room false rest
        (g :: groups, dotted, rest)
      | none => ([], false, s)

/-- Eight groups, or fewer around one double colon, which stands for one zero group or more. A dotted
    address may stand only at the end. -/
def readIpv6 (s : List Char) : Option (Ipv6 × List Char) :=
  let (head, dotted, rest) := readGroups 8 true s
  if head.length = 8 then some (⟨head⟩, rest)
  else if dotted then none
  else
    match readChar ':' rest >>= readChar ':' with
    | none => none
    | some rest =>
      let (tail, _, rest) := readGroups (7 - head.length) true rest
      some (⟨head ++ List.replicate (8 - head.length - tail.length) 0 ++ tail⟩, rest)

/-- A colon and a decimal port. -/
def readPort (s : List Char) : Option (UInt16 × List Char) := do
  let s ← readChar ':' s
  let (n, s) ← readNumber 10 none true 65536 s
  return (UInt16.ofNat n, s)

/-- A percent sign and a decimal scope, or nothing, which is the scope zero. -/
def readScope (s : List Char) : Option (UInt32 × List Char) :=
  match s with
  | '%' :: rest => (readNumber 10 none true 4294967296 rest).map fun (n, rest) => (UInt32.ofNat n, rest)
  | s => some (0, s)

/-- A version 4 address and a port. -/
def readSocketV4 (s : List Char) : Option (SocketAddress × List Char) := do
  let (ip, s) ← readIpv4 s
  let (port, s) ← readPort s
  return (⟨.v4 ip, 0, port⟩, s)

/-- A bracketed version 6 address, with or without a scope, and a port. -/
def readSocketV6 (s : List Char) : Option (SocketAddress × List Char) := do
  let s ← readChar '[' s
  let (ip, s) ← readIpv6 s
  let (scope, s) ← readScope s
  let s ← readChar ']' s
  let (port, s) ← readPort s
  return (⟨.v6 ip, scope, port⟩, s)

/-- What a reader makes of a whole text; nothing may be left over. -/
def readWhole {α : Type} (read : List Char → Option (α × List Char)) (s : String) : Option α :=
  match read s.toList with
  | some (x, []) => some x
  | _ => none

/-- The address that a text writes, of either version. -/
def Ip.parse? (s : String) : Option Ip :=
  (readWhole readIpv4 s).map .v4 <|> (readWhole readIpv6 s).map .v6

/-- The socket address that a text writes, of either version. -/
def SocketAddress.parse? (s : String) : Option SocketAddress :=
  readWhole readSocketV4 s <|> readWhole readSocketV6 s

end FrameSentry.Net
