import FrameSentry.Capture.Queue

/-! The consumer's side of a capture queue: a receiver that takes events and may hold some of them for a
    while under a name. A held event keeps its bytes until it is released, even when the receiver is gone. -/

namespace FrameSentry

/-- The receiver, which may be gone, and the events that it holds, each under a name of its own. -/
structure Receiver where
  alive : Bool
  held : List (String × Event)
deriving DecidableEq, Repr

/-- What the consumer's side does. -/
inductive ReceiverStep where
  | receive
  | poll
  | hold (id : String)
  | release (id : String)
  | drain
  | close
  | drop
deriving DecidableEq, Repr

/-- What a step of the consumer's side answers. -/
inductive ReceiverReply where
  | missing
  | done
  | event (event : Option Event)
  | pending
  | ready (event : Option Event)
  | holding (event : Event)
  | drained (events : List Event)
deriving DecidableEq, Repr

/-- The text of an event. -/
def Event.text (e : Event) : String :=
  s!"CaptureEvent \x7b length: {e.length.toNat}, payload_len: {e.payload.length} \x7d"

/-- The first value with a name, and the list without any of that name. -/
def pick? {α : Type} (id : String) (l : List (String × α)) : Option (α × List (String × α)) :=
  (l.lookup id).map fun a => (a, l.filter (·.1 != id))

section Named
variable {α : Type} {id name : String} {a b : α} {l : List (String × α)}

theorem lookup_cons_of_ne (h : id ≠ name) : ((name, b) :: l).lookup id = l.lookup id := by
  rw [List.lookup_cons, beq_false_of_ne h]

theorem mem_of_lookup (h : l.lookup id = some a) : (id, a) ∈ l := by
  obtain ⟨before, behind, rfl, -⟩ := List.lookup_eq_some_iff.mp h
  exact List.mem_append_right _ List.mem_cons_self

theorem not_named_of_lookup (h : l.lookup id = none) : id ∉ l.map (·.1) := by
  intro hid
  obtain ⟨x, hx, rfl⟩ := List.mem_map.mp hid
  simpa using List.lookup_eq_none_iff.mp h x hx

theorem filter_of_not_named (h : id ∉ l.map (·.1)) : l.filter (·.1 != id) = l := by
  rw [List.filter_eq_self]
  intro x hx
  rw [bne_iff_ne]
  rintro rfl
  exact h (List.mem_map_of_mem hx)

theorem lookup_filter_self : (l.filter (·.1 != id)).lookup id = none := by
  rw [List.lookup_eq_none_iff]
  intro x hx
  have := (List.mem_filter.mp hx).2
  rwa [bne_comm]

theorem lookup_filter_of_ne (h : id ≠ name) : (l.filter (·.1 != name)).lookup id = l.lookup id := by
  induction l with
  | nil => rfl
  | cons x l ih =>
    obtain ⟨here, b⟩ := x
    by_cases hhere : here = name
    · subst hhere
      rw [List.filter_cons_of_neg (by simp), ih, lookup_cons_of_ne h]
    · rw [List.filter_cons_of_pos (by simpa using hhere), List.lookup_cons, List.lookup_cons, ih]

end Named

namespace Queue

/-- Receives every event and releases each. -/
def drain (q : Queue) : List Event × Queue :=
  (q.events, { q with events := [], available := q.available + q.queuedCost })

end Queue

namespace Receiver

/-- A receiver that holds nothing. -/
def create : Receiver := ⟨true, []⟩

/-- Releases the held event of a name, if there is one. -/
def dropHeld (r : Receiver) (q : Queue) (id : String) : Receiver × Queue :=
  match pick? id r.held with
  | none => (r, q)
  | some (event, held) => ({ r with held }, q.release event)

/-- Takes the oldest event and holds it under a name; an event that was held under that name is released. -/
def hold (r : Receiver) (q : Queue) (id : String) : ReceiverReply × Receiver × Queue :=
  match q.receive? with
  | none => (.event none, r, q)
  | some (event, q) =>
    let (r, q) := r.dropHeld q id
    (.holding event, { r with held := (id, event) :: r.held }, q)

/-- Releases a held event, also when the receiver is gone. -/
def letGo (r : Receiver) (q : Queue) (id : String) : ReceiverReply × Receiver × Queue :=
  match r.held.lookup id with
  | none => (.missing, r, q)
  | some event => (.event (some event), r.dropHeld q id)

/-- What waiting for an event comes to at this moment: the oldest event, the end of the stream if nothing is
    queued and nothing can come, or else nothing yet. `sourced` says that someone can still commit. -/
def poll (r : Receiver) (q : Queue) (sourced : Bool) : ReceiverReply × Receiver × Queue :=
  match q.take? with
  | some (event, q) => (.ready (some event), r, q)
  | none => (if q.closed || !sourced then .ready none else .pending, r, q)

/-- One step of the consumer's side. Everything but releasing a held event needs the receiver. -/
def step (r : Receiver) (q : Queue) (sourced : Bool) (s : ReceiverStep) : ReceiverReply × Receiver × Queue :=
  match s, r.alive with
  | .release id, _ => r.letGo q id
  | _, false => (.missing, r, q)
  | .receive, true =>
    match q.take? with
    | none => (.event none, r, q)
    | some (event, q) => (.event (some event), r, q)
  | .poll, true => r.poll q sourced
  | .hold id, true => r.hold q id
  | .drain, true => (.drained q.drain.1, r, q.drain.2)
  | .close, true => (.done, r, q.close)
  | .drop, true => (.done, { r with alive := false }, q.abandon)

theorem dropHeld_cases (r : Receiver) (q : Queue) (id : String) :
    (r.held.lookup id = none ∧ r.dropHeld q id = (r, q)) ∨
      ∃ e, r.held.lookup id = some e ∧
        r.dropHeld q id = ({ r with held := r.held.filter (·.1 != id) }, q.release e) := by
  unfold dropHeld pick?
  cases r.held.lookup id with
  | none => exact Or.inl ⟨rfl, rfl⟩
  | some e => exact Or.inr ⟨e, rfl, rfl⟩

theorem dropHeld_held (r : Receiver) (q : Queue) (id : String) :
    (r.dropHeld q id).1.held = r.held.filter (·.1 != id) := by
  rcases r.dropHeld_cases q id with ⟨hnone, heq⟩ | ⟨e, -, heq⟩
  · rw [heq, filter_of_not_named (not_named_of_lookup hnone)]
  · rw [heq]

theorem dropHeld_closed (r : Receiver) (q : Queue) (id : String) : (r.dropHeld q id).2.closed = q.closed := by
  unfold dropHeld
  split <;> rfl

/-- A closed queue is never opened again. -/
theorem step_closed (r : Receiver) {q : Queue} (hq : q.closed = true) (sourced : Bool) (s : ReceiverStep) :
    (r.step q sourced s).2.2.closed = true := by
  have htake : ∀ {e q'}, q.take? = some (e, q') → q'.closed = true := fun h => by
    unfold Queue.take? Queue.receive? at h
    split at h <;> cases h
    exact hq
  unfold step
  split
  case h_1 =>
    unfold letGo
    split
    · exact hq
    · rw [← hq]
      exact dropHeld_closed r q _
  case h_2 => exact hq
  case h_3 =>
    split
    · exact hq
    · exact htake (by assumption)
  case h_4 =>
    unfold poll
    split
    · exact htake (by assumption)
    · exact hq
  case h_5 =>
    unfold hold
    split
    · exact hq
    · rename_i h
      unfold Queue.receive? at h
      split at h <;> cases h
      rw [← hq]
      exact dropHeld_closed r _ _
  case h_6 => exact hq
  case h_7 => rfl
  case h_8 => rfl

end Receiver
end FrameSentry
