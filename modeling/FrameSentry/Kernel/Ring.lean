import FrameSentry.Capture.Record

/-! The ring through which the kernel hands records over. A record takes its bytes and a header, rounded up to
    a multiple of eight, until it is read. A new record is refused unless what is outstanding together with it
    stays below the size of the ring. -/

namespace FrameSentry

/-- The ring: its size, the bytes that are outstanding, and the records that wait, the oldest first. -/
structure Ring where
  size : Nat
  outstanding : Nat
  records : List Bytes
deriving DecidableEq, Repr

namespace Ring

/-- An empty ring. -/
def create (size : Nat) : Ring := ⟨size, 0, []⟩

/-- What the ring keeps in front of each record. -/
def headerSize : Nat := 8

/-- What a record of `n` bytes takes. -/
def cost (n : Nat) : Nat := (n + headerSize + 7) / 8 * 8

/-- A record of `n` bytes can be reserved. -/
def fits (r : Ring) (n : Nat) : Bool := r.outstanding + cost n < r.size

/-- Puts a record at the end. -/
def push (r : Ring) (record : Bytes) : Ring :=
  { r with outstanding := r.outstanding + cost record.length, records := r.records ++ [record] }

/-- Takes the oldest record. -/
def next? (r : Ring) : Option (Bytes × Ring) :=
  match r.records with
  | [] => none
  | record :: rest => some (record, { r with outstanding := r.outstanding - cost record.length, records := rest })

end Ring
end FrameSentry
