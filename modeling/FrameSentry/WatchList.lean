import FrameSentry.Error
import FrameSentry.Frame.Verdict

/-! The watch list: the ports whose frames the program looks for, each once and in ascending order. It is
    never empty, and port 0 is never on it. -/

namespace FrameSentry

/-- The ports that are watched, in ascending order. -/
structure WatchList where
  ports : List UInt16
deriving DecidableEq, Repr

namespace WatchList

/-- Keeps one of each run of equal elements. -/
def squeeze : List UInt16 → List UInt16
  | [] => []
  | [p] => [p]
  | p :: q :: rest => if p = q then squeeze (q :: rest) else p :: squeeze (q :: rest)

/-- The elements of a list in ascending order, each once. -/
def ascending (ports : List UInt16) : List UInt16 :=
  squeeze (ports.mergeSort fun p q => decide (p ≤ q))

theorem mem_squeeze {p : UInt16} (l : List UInt16) : p ∈ squeeze l ↔ p ∈ l := by
  fun_induction squeeze l with
  | case1 => rfl
  | case2 => rfl
  | case3 _ _ ih => simp [ih]
  | case4 _ _ _ _ ih => simp [ih]

theorem mem_ascending {p : UInt16} {ports : List UInt16} : p ∈ ascending ports ↔ p ∈ ports := by
  rw [ascending, mem_squeeze, List.mem_mergeSort]

/-- What is ascending is strictly so once runs of equal elements are squeezed. -/
theorem pairwise_squeeze {l : List UInt16} (hl : l.Pairwise (· ≤ ·)) : (squeeze l).Pairwise (· < ·) := by
  fun_induction squeeze l with
  | case1 => exact .nil
  | case2 => exact List.pairwise_singleton _ _
  | case3 _ _ ih => exact ih hl.of_cons
  | case4 p q rest hne ih =>
    obtain ⟨hp, hrest⟩ := List.pairwise_cons.mp hl
    have hpq : p < q := UInt16.lt_of_le_of_ne (hp q List.mem_cons_self) hne
    refine List.pairwise_cons.mpr ⟨fun x hx => ?_, ih hrest⟩
    rcases List.mem_cons.mp ((mem_squeeze _).mp hx) with rfl | hx
    · exact hpq
    · exact UInt16.lt_of_lt_of_le hpq ((List.pairwise_cons.mp hrest).1 x hx)

theorem pairwise_ascending (ports : List UInt16) : (ascending ports).Pairwise (· < ·) := by
  have hsorted : (ports.mergeSort fun p q => decide (p ≤ q)).Pairwise fun p q => decide (p ≤ q) = true :=
    List.pairwise_mergeSort (by simpa using fun _ _ _ => UInt16.le_trans) (by simpa using UInt16.le_total) ports
  exact pairwise_squeeze (by simpa using hsorted)

/-- The watch list of some ports. Refused if there is none, or if port 0 is among them. -/
def ofPorts (ports : List UInt16) : Except Error WatchList :=
  if ports.isEmpty then .error (.invalidValue "filter.ports" "at least one port must be watched")
  else if ports.contains 0 then .error (.invalidValue "filter.ports" "port 0 is not valid")
  else .ok ⟨ascending ports⟩

/-- The watch list of some ports has just these ports. -/
theorem mem_of_ofPorts {ports : List UInt16} {w : WatchList} (h : ofPorts ports = .ok w) {p : UInt16} :
    p ∈ w.ports ↔ p ∈ ports := by
  unfold ofPorts at h
  split at h
  · cases h
  split at h <;> cases h
  exact mem_ascending

/-- The ports of a watch list ascend, each once. -/
theorem pairwise_of_ofPorts {ports : List UInt16} {w : WatchList} (h : ofPorts ports = .ok w) :
    w.ports.Pairwise (· < ·) := by
  unfold ofPorts at h
  split at h
  · cases h
  split at h <;> cases h
  exact pairwise_ascending ports

/-- The watch list where none is given: port 8000. -/
def standard : WatchList := ⟨[8000]⟩

def size (w : WatchList) : Nat := w.ports.length

def contains (w : WatchList) (port : UInt16) : Bool := w.ports.contains port

/-- The ports in brackets with commas between them. -/
def text (w : WatchList) : String :=
  "[" ++ ", ".intercalate (w.ports.map fun p => toString p.toNat) ++ "]"

end WatchList
end FrameSentry
