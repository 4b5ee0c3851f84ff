import FrameSentry.Frame.Classification

/-! Eight counters of what becomes of frames. The first five count every frame once, by its outcome; the
    last three count attempts to capture a matching frame. A counter is a word of 64 bits. -/

namespace FrameSentry

/-- What a counter counts. -/
inductive Outcome where
  | truncated
  | unsupportedLinkType
  | unsupportedTransport
  | noMatch
  | matched
  | captured
  | reserveFailed
  | copyFailed
deriving DecidableEq, Repr

namespace Outcome

/-- The outcomes in the order of their counters. -/
def all : List Outcome :=
  [truncated, unsupportedLinkType, unsupportedTransport, noMatch, matched, captured, reserveFailed, copyFailed]

def label : Outcome → String
  | truncated => "truncated"
  | unsupportedLinkType => "unsupported_link_type"
  | unsupportedTransport => "unsupported_transport"
  | noMatch => "no_match"
  | matched => "matched"
  | captured => "captured"
  | reserveFailed => "reserve_failed"
  | copyFailed => "copy_failed"

/-- The place of the outcome's counter among the eight. -/
def index : Outcome → Nat
  | truncated => 0
  | unsupportedLinkType => 1
  | unsupportedTransport => 2
  | noMatch => 3
  | matched => 4
  | captured => 5
  | reserveFailed => 6
  | copyFailed => 7

def ofIndex? (i : Nat) : Option Outcome := all[i]?

end Outcome

/-- The counter of a frame that cannot be classified; a classified frame has none of these. -/
def Classification.failure? : Classification → Option Outcome
  | .truncated => some .truncated
  | .unsupportedLinkType => some .unsupportedLinkType
  | .unsupportedTransport => some .unsupportedTransport
  | .classified _ => none

/-- The sum of two words, or the greatest word if the sum is greater. -/
def saturatingAdd (a b : UInt64) : UInt64 :=
  if a.toNat + b.toNat < wordLimit then a + b else UInt64.ofNat (wordLimit - 1)

/-- The sum of some words, or the greatest word if the sum is greater. -/
def saturatingSum (l : List UInt64) : UInt64 := l.foldl saturatingAdd 0

theorem saturatingAdd_toNat (a b : UInt64) : (saturatingAdd a b).toNat = min (a.toNat + b.toNat) (wordLimit - 1) := by
  unfold saturatingAdd
  split
  · rename_i hab
    rw [UInt64.toNat_add]
    unfold wordLimit at *
    omega
  · rename_i hab
    rw [UInt64.toNat_ofNat']
    unfold wordLimit at *
    omega

/-- The eight counters. -/
structure Counters where
  truncated : UInt64
  unsupportedLinkType : UInt64
  unsupportedTransport : UInt64
  noMatch : UInt64
  matched : UInt64
  captured : UInt64
  reserveFailed : UInt64
  copyFailed : UInt64
deriving DecidableEq, Repr, Inhabited

namespace Counters

/-- Nothing counted yet. -/
def zero : Counters := ⟨0, 0, 0, 0, 0, 0, 0, 0⟩

/-- The counter of an outcome. -/
def get (c : Counters) : Outcome → UInt64
  | .truncated => c.truncated
  | .unsupportedLinkType => c.unsupportedLinkType
  | .unsupportedTransport => c.unsupportedTransport
  | .noMatch => c.noMatch
  | .matched => c.matched
  | .captured => c.captured
  | .reserveFailed => c.reserveFailed
  | .copyFailed => c.copyFailed

/-- The counters with the one of an outcome set to `n`. -/
def set (c : Counters) (n : UInt64) : Outcome → Counters
  | .truncated => { c with truncated := n }
  | .unsupportedLinkType => { c with unsupportedLinkType := n }
  | .unsupportedTransport => { c with unsupportedTransport := n }
  | .noMatch => { c with noMatch := n }
  | .matched => { c with matched := n }
  | .captured => { c with captured := n }
  | .reserveFailed => { c with reserveFailed := n }
  | .copyFailed => { c with copyFailed := n }

/-- The counters in their order. -/
def toList (c : Counters) : List UInt64 := Outcome.all.map c.get

/-- The counters of a list in their order; missing ones are zero and surplus ones are left out. -/
def ofList (l : List UInt64) : Counters :=
  ⟨l.getD 0 0, l.getD 1 0, l.getD 2 0, l.getD 3 0, l.getD 4 0, l.getD 5 0, l.getD 6 0, l.getD 7 0⟩

/-- One more of an outcome. -/
def bump (c : Counters) (o : Outcome) : Counters := c.set (c.get o + 1) o

/-- Only the counter of the outcome changes; it wraps around. -/
theorem get_bump (c : Counters) (o o' : Outcome) : (c.bump o).get o' = c.get o' + if o = o' then 1 else 0 := by
  by_cases ho : o = o'
  · subst ho
    rw [if_pos rfl]
    cases o <;> rfl
  · rw [if_neg ho, UInt64.add_zero]
    cases o <;> cases o' <;> first | rfl | exact absurd rfl ho

/-- One more of the outcome at a place; a place that has no counter counts nothing. -/
def bumpAt (c : Counters) (i : Nat) : Counters :=
  match Outcome.ofIndex? i with
  | none => c
  | some o => c.bump o

/-- The number of frames seen: the five outcomes of classifying and matching. -/
def frames (c : Counters) : UInt64 :=
  saturatingSum [c.truncated, c.unsupportedLinkType, c.unsupportedTransport, c.noMatch, c.matched]

/-- The counters summed over processors, from the values of each counter in order. -/
def sumPerCpu (rows : List (List UInt64)) : Counters := ofList (rows.map saturatingSum)

theorem get_sumPerCpu (row : Outcome → List UInt64) (o : Outcome) :
    (sumPerCpu (Outcome.all.map row)).get o = saturatingSum (row o) := by
  cases o <;> rfl

end Counters
end FrameSentry
