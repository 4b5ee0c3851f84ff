import Mathlib.Algebra.Ring.Nat
import FrameSentry.Capture.Exchange

/-! The budget of a capture queue is conserved. Bytes move from the budget to a slot, from the slot to a queued
    event, from there to an event that the receiver holds, and back to the budget when the last of these is given
    up. Whatever the producers and the consumer do, in any order, what is available and what slots, queued events
    and held events have of the budget come to the capacity. -/

namespace FrameSentry

/-! ### Values under names -/

section Named
variable {α : Type} {id : String} {a : α} {l : List (String × α)}

theorem nodup_filter (hl : (l.map (·.1)).Nodup) : ((l.filter (·.1 != id)).map (·.1)).Nodup :=
  hl.sublist (List.filter_sublist.map _)

/-- To put a value in the place of the one of the same name leaves each name once. -/
theorem nodup_put (hl : (l.map (·.1)).Nodup) : (((id, a) :: l.filter (·.1 != id)).map (·.1)).Nodup :=
  List.nodup_cons.mpr ⟨by simp, nodup_filter hl⟩

/-- A sum over distinct names is the part of one name and that of the others. -/
theorem sum_lookup (w : α → Nat) (hl : (l.map (·.1)).Nodup) (h : l.lookup id = some a) :
    (l.map fun x => w x.2).sum = w a + ((l.filter (·.1 != id)).map fun x => w x.2).sum := by
  induction l with
  | nil => cases h
  | cons x l ih =>
    obtain ⟨name, b⟩ := x
    obtain ⟨hfresh, hrest⟩ := List.nodup_cons.mp hl
    by_cases hname : id = name
    · subst hname
      rw [List.lookup_cons_self] at h
      cases h
      rw [List.filter_cons_of_neg (by simp), filter_of_not_named hfresh, List.map_cons, List.sum_cons]
    · rw [lookup_cons_of_ne hname] at h
      have hothers := ih hrest h
      rw [List.filter_cons_of_pos (by simpa using Ne.symm hname), List.map_cons, List.sum_cons, List.map_cons,
        List.sum_cons, hothers]
      omega

end Named

/-! ### The queue -/

namespace Queue
variable {q q' : Queue}

/-- What neither a slot nor a held event has of the budget: what is available, and what the queued events have. -/
def free (q : Queue) : Nat := q.available + q.queuedCost

theorem queuedCost_eq_sum (q : Queue) : q.queuedCost = (q.events.map fun e => e.cost).sum := by
  unfold queuedCost
  induction q.events with
  | nil => rfl
  | cons e rest ih => rw [List.foldr_cons, ih, List.map_cons, List.sum_cons]

@[simp] theorem free_refund (q : Queue) (n : Nat) : (q.refund n).free = q.free + n := by
  show q.available + n + q.queuedCost = q.available + q.queuedCost + n
  omega

@[simp] theorem free_close (q : Queue) : q.close.free = q.free := rfl

@[simp] theorem free_drain (q : Queue) : q.drain.2.free = q.free := rfl

@[simp] theorem free_abandon (q : Queue) : q.abandon.free = q.free := rfl

theorem free_reserve {n : Nat} {slot : Slot} (h : q.reserve n = .ok (slot, q')) :
    q'.capacity = q.capacity ∧ q'.free + n = q.free := by
  obtain ⟨-, hroom, -, rfl⟩ := reserve_ok h
  refine ⟨rfl, ?_⟩
  show q.available - n + q.queuedCost + n = q.available + q.queuedCost
  omega

theorem queuedCost_append {e : Event} (h : q'.events = q.events ++ [e]) : q'.queuedCost = q.queuedCost + e.cost := by
  rw [queuedCost_eq_sum, queuedCost_eq_sum, h, List.map_append, List.sum_append]
  rfl

theorem queuedCost_cons {e : Event} (h : q.events = e :: q'.events) : q.queuedCost = e.cost + q'.queuedCost := by
  rw [queuedCost_eq_sum, queuedCost_eq_sum, h, List.map_cons, List.sum_cons]

/-- A commit leaves the slot's bytes with its event, or gives them back. -/
theorem commit_keeps (q : Queue) (s : Slot) :
    (q.commit s).2.capacity = q.capacity ∧ (q.commit s).2.free = q.free + s.reserved ∧
      ∀ e ∈ (q.commit s).2.events, e ∈ q.events ∨ e = ⟨s.length, s.payload, s.reserved⟩ := by
  unfold commit
  split
  · exact ⟨rfl, q.free_refund s.reserved, fun _ => Or.inl⟩
  · refine ⟨rfl, ?_, fun e he => (List.mem_append.mp he).imp_right List.mem_singleton.mp⟩
    unfold free
    rw [queuedCost_append (q := q) rfl, Nat.add_assoc]

theorem enqueue_keeps (q : Queue) (length : UInt32) (payload : Bytes) :
    (q.enqueue length payload).2.capacity = q.capacity ∧ (q.enqueue length payload).2.free = q.free ∧
      ∀ e ∈ (q.enqueue length payload).2.events,
        e ∈ q.events ∨ e = ⟨length, payload, Record.headerSize + payload.length⟩ := by
  rcases q.enqueue_cases length payload with ⟨_, -, heq⟩ | ⟨-, hroom, heq⟩
  · rw [heq]
    exact ⟨rfl, rfl, fun _ => Or.inl⟩
  · rw [heq]
    refine ⟨rfl, ?_, fun e he => (List.mem_append.mp he).imp_right List.mem_singleton.mp⟩
    unfold free
    rw [queuedCost_append (q := q) rfl]
    show q.available - (Record.headerSize + payload.length) + (q.queuedCost + (Record.headerSize + payload.length)) =
      q.available + q.queuedCost
    omega

theorem free_receive {e : Event} (h : q.receive? = some (e, q')) :
    q'.capacity = q.capacity ∧ q'.free + e.cost = q.free := by
  obtain ⟨rest, hevents, rfl⟩ := receive?_some h
  have hcost : q.queuedCost = e.cost + queuedCost { q with events := rest } := queuedCost_cons hevents
  refine ⟨rfl, ?_⟩
  show q.available + queuedCost { q with events := rest } + e.cost = q.available + q.queuedCost
  omega

theorem free_take {e : Event} (h : q.take? = some (e, q')) : q'.capacity = q.capacity ∧ q'.free = q.free := by
  obtain ⟨rest, hevents, rfl⟩ := take?_some h
  have hcost : q.queuedCost = e.cost + queuedCost { q with events := rest } := queuedCost_cons hevents
  refine ⟨rfl, ?_⟩
  rw [release, free_refund]
  show q.available + queuedCost { q with events := rest } + e.cost = q.available + q.queuedCost
  omega

end Queue

theorem Slot.fill_ok {s s' : Slot} {length : UInt32} {payload : Bytes} (h : s.fill length payload = .ok s') :
    payload.length ≤ s.reserved ∧ s' = { s with length, payload } := by
  unfold fill room at h
  split at h <;> cases h
  exact ⟨by omega, rfl⟩

/-! ### The receiver -/

namespace Receiver
variable {r r' r'' : Receiver} {q q' q'' : Queue}

/-- What the held events have of the budget. -/
def cost (r : Receiver) : Nat := (r.held.map fun e => e.2.cost).sum

/-- An event is queued or held. -/
def Has (r : Receiver) (q : Queue) (e : Event) : Prop := e ∈ q.events ∨ e ∈ r.held.map (·.2)

/-- What the consumer's side keeps: names stay distinct, no event is made, and what leaves the queue is held or
    available again. -/
structure Keeps (r : Receiver) (q : Queue) (r' : Receiver) (q' : Queue) : Prop where
  capacity : q'.capacity = q.capacity
  names : (r.held.map (·.1)).Nodup → (r'.held.map (·.1)).Nodup
  source : ∀ e, r'.Has q' e → r.Has q e
  free : (r.held.map (·.1)).Nodup → q'.free + r'.cost = q.free + r.cost

namespace Keeps

theorem refl (r : Receiver) (q : Queue) : Keeps r q r q := ⟨rfl, id, fun _ => id, fun _ => rfl⟩

/-- What happens to the queue alone. -/
theorem of_queue (r : Receiver) (hcapacity : q'.capacity = q.capacity) (hsource : ∀ e ∈ q'.events, e ∈ q.events)
    (hfree : q'.free = q.free) : Keeps r q r q' :=
  ⟨hcapacity, id, fun e he => he.imp_left (hsource e), fun _ => by rw [hfree]⟩

theorem take {e : Event} (h : q.take? = some (e, q')) : Keeps r q r q' := by
  obtain ⟨hcapacity, hfree⟩ := Queue.free_take h
  obtain ⟨rest, hevents, rfl⟩ := Queue.take?_some h
  refine of_queue r hcapacity (fun e' he' => ?_) hfree
  rw [hevents]
  exact List.mem_cons_of_mem _ he'

theorem dropHeld (r : Receiver) (q : Queue) (id : String) : Keeps r q (r.dropHeld q id).1 (r.dropHeld q id).2 := by
  rcases r.dropHeld_cases q id with ⟨-, heq⟩ | ⟨event, hlookup, heq⟩
  · rw [heq]
    exact refl r q
  · rw [heq]
    refine ⟨rfl, nodup_filter, fun e he => ?_, fun hnames => ?_⟩
    · rcases he with he | he
      · exact Or.inl he
      · obtain ⟨x, hx, rfl⟩ := List.mem_map.mp he
        exact Or.inr (List.mem_map_of_mem (List.mem_filter.mp hx).1)
    · have hsum := sum_lookup Event.cost hnames hlookup
      have hrefund : (q.release event).free = q.free + event.cost := q.free_refund event.cost
      unfold cost
      simp only [hrefund]
      omega

/-- The event that is held now was the oldest in the queue. -/
theorem hold (r : Receiver) (q : Queue) (id : String) : Keeps r q (r.hold q id).2.1 (r.hold q id).2.2 := by
  unfold Receiver.hold
  cases hreceive : q.receive? with
  | none => exact refl r q
  | some received =>
    obtain ⟨event, q'⟩ := received
    obtain ⟨hcapacity, hfree⟩ := Queue.free_receive hreceive
    obtain ⟨rest, hevents, hq'⟩ := Queue.receive?_some hreceive
    have hrest : q'.events = rest := by rw [hq']
    obtain ⟨hcapacity', hnames, hsource, hkeeps⟩ := dropHeld r q' id
    have hearlier : ∀ e, r.Has q' e → r.Has q e := fun e he => he.imp_left fun he => by
      rw [hevents, ← hrest]
      exact List.mem_cons_of_mem _ he
    refine ⟨hcapacity'.trans hcapacity, fun h => ?_, fun e he => ?_, fun h => ?_⟩
    · show ((_ :: (r.dropHeld q' id).1.held).map _).Nodup
      rw [dropHeld_held]
      exact nodup_put h
    · rcases he with he | he
      · exact hearlier e (hsource e (Or.inl he))
      · rcases List.mem_cons.mp he with rfl | he
        · exact Or.inl (by rw [hevents]; exact List.mem_cons_self)
        · exact hearlier e (hsource e (Or.inr he))
    · have := hkeeps h
      show (r.dropHeld q' id).2.free + (event.cost + (r.dropHeld q' id).1.cost) = _
      omega

end Keeps

theorem step_keeps (r : Receiver) (q : Queue) (sourced : Bool) (s : ReceiverStep) :
    Keeps r q (r.step q sourced s).2.1 (r.step q sourced s).2.2 := by
  unfold step
  split
  case h_1 id =>
    unfold letGo
    split
    · exact .refl r q
    · exact .dropHeld r q id
  case h_2 => exact .refl r q
  case h_3 =>
    split
    · exact .refl r q
    · rename_i htake
      exact .take htake
  case h_4 =>
    unfold poll
    split
    · rename_i htake
      exact .take htake
    · exact .refl r q
  case h_5 => exact .hold r q _
  case h_6 => exact .of_queue r rfl nofun rfl
  case h_7 => exact .of_queue r rfl (fun _ => id) rfl
  case h_8 => exact ⟨rfl, id, fun e he => he.imp_left nofun, fun _ => rfl⟩

end Receiver

/-! ### The exchange -/

namespace Exchange
variable {x : Exchange} {c n : Nat}

/-- Names are distinct, payloads are no longer than what was reserved for them, and of the capacity `c` all but `n`
    bytes are accounted for. -/
structure Short (x : Exchange) (c n : Nat) : Prop where
  capacity : x.queue.capacity = c
  slotNames : (x.slots.map (·.1)).Nodup
  heldNames : (x.receiver.held.map (·.1)).Nodup
  slots : ∀ s ∈ x.slots.map (·.2), s.payload.length ≤ s.reserved
  events : ∀ e, x.receiver.Has x.queue e → e.payload.length ≤ e.cost
  total : x.queue.free + (x.slots.map fun s => s.2.reserved).sum + x.receiver.cost + n = c

theorem short_create (capacity : Nat) (producer : String) :
    (create capacity producer).Short (min capacity Queue.capacityLimit) 0 where
  capacity := rfl
  slotNames := List.nodup_nil
  heldNames := List.nodup_nil
  slots := nofun
  events := fun _ he => he.elim nofun nofun
  total := rfl

namespace Short

/-- What happens to the queue alone; it may lose bytes, or find some that were lost. -/
theorem of_queue {q : Queue} {m : Nat} (hx : x.Short c n) (hcapacity : q.capacity = x.queue.capacity)
    (hfree : q.free + m = x.queue.free + n) (hevents : ∀ e ∈ q.events, e ∈ x.queue.events ∨ e.payload.length ≤ e.cost) :
    ({ x with queue := q } : Exchange).Short c m := by
  refine ⟨hcapacity.trans hx.capacity, hx.slotNames, hx.heldNames, hx.slots, fun e he => ?_, ?_⟩
  · rcases he with he | he
    · rcases hevents e he with he | hfits
      · exact hx.events e (Or.inl he)
      · exact hfits
    · exact hx.events e (Or.inr he)
  · have htotal := hx.total
    show q.free + (x.slots.map fun s => s.2.reserved).sum + x.receiver.cost + m = c
    omega

/-- The bytes of a slot that is taken out are lost until they are found elsewhere. -/
theorem remove {id : String} {slot : Slot} (hx : x.Short c n) (hlookup : x.slots.lookup id = some slot) :
    ({ x with slots := x.slots.filter (·.1 != id) } : Exchange).Short c (n + slot.reserved) := by
  refine ⟨hx.capacity, nodup_filter hx.slotNames, hx.heldNames, fun s hs => ?_, hx.events, ?_⟩
  · obtain ⟨y, hy, rfl⟩ := List.mem_map.mp hs
    exact hx.slots _ (List.mem_map_of_mem (List.mem_filter.mp hy).1)
  · have hsum := sum_lookup Slot.reserved hx.slotNames hlookup
    have htotal := hx.total
    show x.queue.free + ((x.slots.filter (·.1 != id)).map fun s => s.2.reserved).sum + x.receiver.cost +
      (n + slot.reserved) = c
    omega

theorem put {id : String} {slot : Slot} (hx : x.Short c (n + slot.reserved)) (hid : id ∉ x.slots.map (·.1))
    (hfits : slot.payload.length ≤ slot.reserved) : ({ x with slots := (id, slot) :: x.slots } : Exchange).Short c n := by
  refine ⟨hx.capacity, List.nodup_cons.mpr ⟨hid, hx.slotNames⟩, hx.heldNames, fun s hs => ?_, hx.events, ?_⟩
  · rcases List.mem_cons.mp hs with rfl | hs
    · exact hfits
    · exact hx.slots s hs
  · have htotal := hx.total
    show x.queue.free + (slot.reserved + (x.slots.map fun s => s.2.reserved).sum) + x.receiver.cost + n = c
    omega

theorem fits {id : String} {slot : Slot} (hx : x.Short c n) (hlookup : x.slots.lookup id = some slot) :
    slot.payload.length ≤ slot.reserved :=
  hx.slots slot (List.mem_map_of_mem (mem_of_lookup hlookup))

theorem dropSlot (hx : x.Short c n) (id : String) : (x.dropSlot id).Short c n := by
  rcases x.dropSlot_cases id with ⟨-, heq⟩ | ⟨slot, hlookup, heq⟩
  · rw [heq]
    exact hx
  · rw [heq]
    refine (hx.remove hlookup).of_queue rfl ?_ fun _ => Or.inl
    rw [Queue.discard, Queue.free_refund]
    show x.queue.free + slot.reserved + n = x.queue.free + (n + slot.reserved)
    omega

/-- The slot of the same name is given up while the new bytes are in no slot yet. -/
theorem reserve (hx : x.Short c 0) (id : String) (size : Nat) : (x.reserve id size).2.Short c 0 := by
  unfold Exchange.reserve
  cases hreserve : x.queue.reserve size with
  | error cause => exact hx
  | ok reserved =>
    obtain ⟨slot, q⟩ := reserved
    obtain ⟨hcapacity, hfree⟩ := Queue.free_reserve hreserve
    obtain ⟨-, -, rfl, hq⟩ := Queue.reserve_ok hreserve
    have hlost : ({ x with queue := q } : Exchange).Short c (0 + size) :=
      hx.of_queue hcapacity (by omega) fun e he => by rw [hq] at he; exact Or.inl he
    refine (hlost.dropSlot id).put ?_ (Nat.zero_le _)
    rw [dropSlot_slots]
    simp

theorem fill (hx : x.Short c 0) (id : String) (length : UInt32) (payload : Bytes) :
    (x.fill id length payload).2.Short c 0 := by
  unfold Exchange.fill
  cases hlookup : x.slots.lookup id with
  | none => exact hx
  | some slot =>
    cases hfill : slot.fill length payload with
    | error cause =>
      simp only [hfill]
      exact hx
    | ok filled =>
      obtain ⟨hfits, rfl⟩ := Slot.fill_ok hfill
      simp only [hfill]
      have hremoved := hx.remove hlookup
      exact @put _ c 0 id { slot with length, payload } hremoved (by simp) hfits

theorem commit (hx : x.Short c 0) (id : String) : (x.commit id).2.Short c 0 := by
  unfold Exchange.commit pick?
  cases hlookup : x.slots.lookup id with
  | none => exact hx
  | some slot =>
    obtain ⟨hcapacity, hfree, hevents⟩ := x.queue.commit_keeps slot
    have hfound : (x.queue.commit slot).2.free + 0 = x.queue.free + (0 + slot.reserved) := by omega
    refine (hx.remove hlookup).of_queue (q := (x.queue.commit slot).2) hcapacity hfound fun e he => ?_
    refine (hevents e he).imp_right ?_
    rintro rfl
    exact hx.fits hlookup

theorem enqueue (hx : x.Short c 0) (length : UInt32) (payload : Bytes) :
    ({ x with queue := (x.queue.enqueue length payload).2 } : Exchange).Short c 0 := by
  obtain ⟨hcapacity, hfree, hevents⟩ := x.queue.enqueue_keeps length payload
  refine hx.of_queue hcapacity (by rw [hfree]) fun e he => (hevents e he).imp_right ?_
  rintro rfl
  exact Nat.le_add_left _ _

/-- Which producers there are is of no account. -/
theorem withProducers (hx : x.Short c n) (producers : List String) : ({ x with producers } : Exchange).Short c n :=
  ⟨hx.capacity, hx.slotNames, hx.heldNames, hx.slots, hx.events, hx.total⟩

theorem withProducer (hx : x.Short c n) {act : ProducerReply × Exchange} (hact : act.2.Short c n) (producer : String) :
    (x.withProducer producer act).2.Short c n := by
  unfold Exchange.withProducer
  split
  · exact hact
  · exact hx

theorem produce (hx : x.Short c 0) (s : ProducerStep) : (x.produce s).2.Short c 0 := by
  cases s with
  | reserve id size producer => exact hx.withProducer (hx.reserve id size) producer
  | fill id length payload => exact hx.fill id length payload
  | commit id => exact hx.commit id
  | discard id =>
    unfold Exchange.produce
    simp only
    split
    · exact hx.dropSlot id
    · exact hx
  | enqueue length payload producer => exact hx.withProducer (hx.enqueue length payload) producer
  | clone id producer => exact hx.withProducer (hx.withProducers _) producer
  | drop producer => exact hx.withProducer (hx.withProducers _) producer

theorem consume (hx : x.Short c n) (s : ReceiverStep) : (x.consume s).2.Short c n := by
  obtain ⟨hcapacity, hnames, hsource, hfree⟩ := x.receiver.step_keeps x.queue x.isSourced s
  have hfree := hfree hx.heldNames
  have htotal := hx.total
  refine ⟨hcapacity.trans hx.capacity, hx.slotNames, hnames hx.heldNames, hx.slots, fun e he => hx.events e (hsource e he), ?_⟩
  show (x.receiver.step x.queue x.isSourced s).2.2.free + (x.slots.map fun s => s.2.reserved).sum +
    (x.receiver.step x.queue x.isSourced s).2.1.cost + n = c
  omega

theorem step (hx : x.Short c 0) (s : ExchangeStep) : (x.step s).2.Short c 0 := by
  cases s with
  | consumer s => exact hx.consume s
  | producer s => exact hx.produce s

end Short

/-! ### Runs -/

/-- The exchange after some steps. -/
def perform (x : Exchange) (steps : List ExchangeStep) : Exchange := steps.foldl (fun x s => (x.step s).2) x

theorem Short.perform (hx : x.Short c 0) (steps : List ExchangeStep) : (x.perform steps).Short c 0 := by
  induction steps generalizing x with
  | nil => exact hx
  | cons s rest ih => exact ih (hx.step s)

/-- Payloads that fit what was reserved for them fit it together. -/
theorem sum_le_sum_of_fits {α : Type} {l : List α} {w v : α → Nat} (h : ∀ a ∈ l, w a ≤ v a) :
    (l.map w).sum ≤ (l.map v).sum := by
  induction l with
  | nil => exact Nat.le_refl 0
  | cons a rest ih =>
    have hhere := h a List.mem_cons_self
    have hrest := ih fun b hb => h b (List.mem_cons_of_mem _ hb)
    rw [List.map_cons, List.sum_cons, List.map_cons, List.sum_cons]
    omega

/-- The budget of a queue is conserved. After any steps of any producers and of the consumer, with all that
    fail among them, what is available and what the slots, the queued events and the held events have of the budget
    come to the capacity. So the payloads never exceed it, and with no slot and no event alive all of it is
    available. -/
theorem budget_conserved (capacity : Nat) (producer : String) (steps : List ExchangeStep) :
    let x := (create capacity producer).perform steps
    x.queue.capacity = min capacity Queue.capacityLimit ∧
      x.queue.available + (x.slots.map fun s => s.2.reserved).sum + (x.queue.events.map fun e => e.cost).sum +
        (x.receiver.held.map fun e => e.2.cost).sum = x.queue.capacity ∧
      (x.slots.map fun s => s.2.payload.length).sum + (x.queue.events.map fun e => e.payload.length).sum +
        (x.receiver.held.map fun e => e.2.payload.length).sum ≤ x.queue.capacity ∧
      (x.slots = [] → x.queue.events = [] → x.receiver.held = [] → x.queue.available = x.queue.capacity) := by
  intro x
  have hx : x.Short (min capacity Queue.capacityLimit) 0 := (short_create capacity producer).perform steps
  have hbalance : x.queue.available + (x.slots.map fun s => s.2.reserved).sum + (x.queue.events.map fun e => e.cost).sum +
      (x.receiver.held.map fun e => e.2.cost).sum = x.queue.capacity := by
    have htotal := hx.total
    unfold Queue.free Receiver.cost at htotal
    rw [Queue.queuedCost_eq_sum] at htotal
    rw [hx.capacity, ← htotal]
    omega
  have hslots : (x.slots.map fun s => s.2.payload.length).sum ≤ (x.slots.map fun s => s.2.reserved).sum :=
    sum_le_sum_of_fits fun s hs => hx.slots s.2 (List.mem_map_of_mem hs)
  have hqueued : (x.queue.events.map fun e => e.payload.length).sum ≤ (x.queue.events.map fun e => e.cost).sum :=
    sum_le_sum_of_fits fun e he => hx.events e (Or.inl he)
  have hheld : (x.receiver.held.map fun e => e.2.payload.length).sum ≤ (x.receiver.held.map fun e => e.2.cost).sum :=
    sum_le_sum_of_fits fun e he => hx.events e.2 (Or.inr (List.mem_map_of_mem he))
  refine ⟨hx.capacity, hbalance, by omega, ?_⟩
  intro hnoslot hnoqueued hnoheld
  rw [hnoslot, hnoqueued, hnoheld] at hbalance
  exact hbalance

end Exchange
end FrameSentry
