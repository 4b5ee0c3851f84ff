import FrameSentry.Proofs.Capture.Budget

/-! What is committed is received, once and in the order of the commits. A ledger is kept from outside, of nothing
    but the steps and their answers: what the slot of each name would put into the queue, what the commits that
    succeeded have put there, and what was received. As long as the receiver is there, what was received and what is
    still queued is what was committed, also after the queue was closed; a slot that was given up is in the ledger no
    more, and none of its name can be committed before another is reserved. -/

namespace FrameSentry

/-- The event that a slot becomes when it is committed. -/
def Slot.event (s : Slot) : Event := ⟨s.length, s.payload, s.reserved⟩

/-! ### The ledger -/

/-- What is written down of the steps of an exchange and their answers. -/
structure Ledger where
  pending : String → Option Event
  committed : List Event
  received : List Event

namespace Ledger

def empty : Ledger := ⟨fun _ => none, [], []⟩

def setPending (l : Ledger) (id : String) (e : Option Event) : Ledger :=
  { l with pending := fun name => if name = id then e else l.pending name }

/-- A slot is empty when it is reserved and holds its last fill that succeeded. A commit ends it, and so does it to
    give the slot up; only if the commit succeeds it is written down. -/
def noteProducer (l : Ledger) : ProducerStep → ProducerReply → Ledger
  | .reserve id size _, .reserved _ => l.setPending id (some ⟨0, [], size⟩)
  | .fill id length payload, .filled none _ =>
    l.setPending id ((l.pending id).map fun e => { e with length, payload })
  | .commit id, .done => { l.setPending id none with committed := l.committed ++ (l.pending id).toList }
  | .commit id, _ => l.setPending id none
  | .discard id, _ => l.setPending id none
  | .enqueue length payload _, .done =>
    { l with committed := l.committed ++ [⟨length, payload, Record.headerSize + payload.length⟩] }
  | _, _ => l

/-- The events that a step of the consumer takes out of the queue. -/
def taken : ReceiverStep → ReceiverReply → List Event
  | .receive, .event e => e.toList
  | .poll, .ready e => e.toList
  | .hold _, .holding e => [e]
  | .drain, .drained events => events
  | _, _ => []

def note (l : Ledger) : ExchangeStep → ExchangeReply → Ledger
  | .producer s, .producer reply => l.noteProducer s reply
  | .consumer s, .consumer reply => { l with received := l.received ++ taken s reply }
  | _, _ => l

end Ledger

/-- The ledger after some steps. -/
def Exchange.ledger (x : Exchange) (l : Ledger) : List ExchangeStep → Ledger
  | [] => l
  | s :: rest => (x.step s).2.ledger (l.note s (x.step s).1) rest

theorem Exchange.ledger_append (x : Exchange) (l : Ledger) (steps more : List ExchangeStep) :
    x.ledger l (steps ++ more) = (x.perform steps).ledger (x.ledger l steps) more := by
  induction steps generalizing x l with
  | nil => rfl
  | cons s rest ih => exact ih (x.step s).2 (l.note s (x.step s).1)

/-! ### The consumer's side -/

namespace Receiver
variable {r : Receiver} {q : Queue}

theorem dropHeld_events (r : Receiver) (q : Queue) (id : String) :
    (r.dropHeld q id).1.alive = r.alive ∧ (r.dropHeld q id).2.events = q.events := by
  rcases r.dropHeld_cases q id with ⟨-, heq⟩ | ⟨e, -, heq⟩ <;> rw [heq] <;> exact ⟨rfl, rfl⟩

/-- The oldest events are taken; the others stay. -/
theorem step_taken (r : Receiver) (q : Queue) (sourced : Bool) (s : ReceiverStep)
    (halive : (r.step q sourced s).2.1.alive = true) : r.alive = true ∧
      Ledger.taken s (r.step q sourced s).1 ++ (r.step q sourced s).2.2.events = q.events := by
  revert halive
  unfold step
  split
  case h_1 id =>
    unfold letGo
    split
    · exact fun halive => ⟨halive, rfl⟩
    · obtain ⟨halive', hevents⟩ := r.dropHeld_events q id
      exact fun halive => ⟨halive'.symm.trans halive, hevents⟩
  case h_2 hgone =>
    intro halive
    rw [hgone] at halive
    cases halive
  case h_3 hr =>
    split
    · exact fun _ => ⟨hr, rfl⟩
    · rename_i htake
      obtain ⟨rest, hevents, rfl⟩ := Queue.take?_some htake
      exact fun _ => ⟨hr, hevents.symm⟩
  case h_4 hr =>
    unfold poll
    split
    · rename_i htake
      obtain ⟨rest, hevents, rfl⟩ := Queue.take?_some htake
      exact fun _ => ⟨hr, hevents.symm⟩
    · refine fun _ => ⟨hr, ?_⟩
      split <;> rfl
  case h_5 id hr =>
    unfold hold
    split
    · exact fun _ => ⟨hr, rfl⟩
    · rename_i event q' hreceive
      obtain ⟨rest, hevents, rfl⟩ := Queue.receive?_some hreceive
      obtain ⟨-, hdropped⟩ := r.dropHeld_events { q with events := rest } id
      refine fun _ => ⟨hr, ?_⟩
      show event :: (r.dropHeld { q with events := rest } id).2.events = q.events
      rw [hdropped, hevents]
  case h_6 hr => exact fun _ => ⟨hr, List.append_nil _⟩
  case h_7 hr => exact fun _ => ⟨hr, rfl⟩
  case h_8 => exact nofun

end Receiver

/-! ### The producers' side -/

namespace Exchange
variable {x : Exchange} {l : Ledger}

/-- The ledger tells the slots as they are, and while the receiver is there the events that are queued are those that
    were committed and not received. -/
structure Recorded (x : Exchange) (l : Ledger) : Prop where
  pending : ∀ id, l.pending id = (x.slots.lookup id).map Slot.event
  delivered : x.receiver.alive = true → l.received ++ x.queue.events = l.committed

theorem recorded_create (capacity : Nat) (producer : String) : (create capacity producer).Recorded .empty :=
  ⟨fun _ => rfl, fun _ => rfl⟩

theorem dropSlot_eq (x : Exchange) (id : String) :
    (x.dropSlot id).receiver = x.receiver ∧ (x.dropSlot id).queue.events = x.queue.events := by
  rcases x.dropSlot_cases id with ⟨-, heq⟩ | ⟨slot, -, heq⟩ <;> rw [heq] <;> exact ⟨rfl, rfl⟩

namespace Recorded

/-- What becomes of one name is written down; the other slots stay. -/
theorem setPending {x' : Exchange} {id : String} {e : Option Event} (hx : x.Recorded l)
    (hid : e = (x'.slots.lookup id).map Slot.event)
    (hothers : ∀ name, name ≠ id → x'.slots.lookup name = x.slots.lookup name)
    (hreceiver : x'.receiver = x.receiver) (hevents : x'.queue.events = x.queue.events) :
    x'.Recorded (l.setPending id e) := by
  refine ⟨fun name => ?_, fun halive => ?_⟩
  · by_cases hname : name = id
    · subst hname
      exact (if_pos rfl).trans hid
    · rw [hothers name hname, ← hx.pending name]
      exact if_neg hname
  · rw [hevents]
    exact hx.delivered (hreceiver ▸ halive)

theorem missing {id : String} (hx : x.Recorded l) (hnone : x.slots.lookup id = none) :
    x.Recorded (l.setPending id none) :=
  hx.setPending (by rw [hnone]; rfl) (fun _ _ => rfl) rfl rfl

theorem dropSlot (hx : x.Recorded l) (id : String) : (x.dropSlot id).Recorded (l.setPending id none) := by
  obtain ⟨hreceiver, hevents⟩ := x.dropSlot_eq id
  refine hx.setPending ?_ (fun name hname => ?_) hreceiver hevents
  · rw [dropSlot_slots, lookup_filter_self]
    rfl
  · rw [dropSlot_slots, lookup_filter_of_ne hname]

/-- A step that leaves the slots, the receiver and the queued events alone. -/
theorem of_eq {x' : Exchange} (hx : x.Recorded l) (hslots : x'.slots = x.slots) (hreceiver : x'.receiver = x.receiver)
    (hevents : x'.queue.events = x.queue.events) : x'.Recorded l :=
  ⟨fun id => hslots ▸ hx.pending id, fun halive => hevents ▸ hx.delivered (hreceiver ▸ halive)⟩

theorem reserve (hx : x.Recorded l) (id : String) (size : Nat) (producer : String) :
    (x.reserve id size).2.Recorded (l.noteProducer (.reserve id size producer) (x.reserve id size).1) := by
  unfold Exchange.reserve
  cases hreserve : x.queue.reserve size with
  | error cause => exact hx
  | ok reserved =>
    obtain ⟨slot, q⟩ := reserved
    obtain ⟨-, -, rfl, rfl⟩ := Queue.reserve_ok hreserve
    -- A slot of the same name is given up, which does not touch the queued events.
    obtain ⟨hreceiver, hevents⟩ := dropSlot_eq { x with queue := { x.queue with available := x.queue.available - size } } id
    refine hx.setPending ?_ (fun name hname => ?_) hreceiver hevents
    · show _ = (List.lookup id ((id, _) :: _)).map Slot.event
      rw [List.lookup_cons_self]
      rfl
    · show List.lookup name ((id, _) :: _) = _
      rw [lookup_cons_of_ne hname, dropSlot_slots, lookup_filter_of_ne hname]

theorem fill (hx : x.Recorded l) (id : String) (length : UInt32) (payload : Bytes) :
    (x.fill id length payload).2.Recorded (l.noteProducer (.fill id length payload) (x.fill id length payload).1) := by
  unfold Exchange.fill
  cases hlookup : x.slots.lookup id with
  | none => exact hx
  | some slot =>
    cases hfill : slot.fill length payload with
    | error cause =>
      simp only [hfill]
      exact hx
    | ok filled =>
      obtain ⟨-, rfl⟩ := Slot.fill_ok hfill
      simp only [hfill]
      refine hx.setPending ?_ (fun name hname => ?_) rfl rfl
      · rw [hx.pending id, hlookup, List.lookup_cons_self]
        rfl
      · rw [lookup_cons_of_ne hname, lookup_filter_of_ne hname]

/-- What the commit of a name answers, and what becomes of its slot. -/
theorem commit (hx : x.Recorded l) (id : String) :
    (x.commit id).2.Recorded (l.noteProducer (.commit id) (x.commit id).1) := by
  unfold Exchange.commit pick?
  cases hlookup : x.slots.lookup id with
  | none => exact hx.missing hlookup
  | some slot =>
    have hgone : ({ x with slots := x.slots.filter (·.1 != id) } : Exchange).Recorded (l.setPending id none) := by
      refine hx.setPending ?_ (fun name hname => lookup_filter_of_ne hname) rfl rfl
      rw [lookup_filter_self]
      rfl
    cases hclosed : x.queue.closed with
    | true =>
      simp only [Option.map_some, Queue.commit, hclosed]
      exact hgone.of_eq rfl rfl rfl
    | false =>
      simp only [Option.map_some, Queue.commit, hclosed]
      refine ⟨hgone.pending, fun halive => ?_⟩
      show l.received ++ (x.queue.events ++ [slot.event]) = l.committed ++ (l.pending id).toList
      rw [hx.pending id, hlookup, ← hx.delivered halive, List.append_assoc]
      rfl

theorem enqueue (hx : x.Recorded l) (length : UInt32) (payload : Bytes) (producer : String) :
    ({ x with queue := (x.queue.enqueue length payload).2 } : Exchange).Recorded
      (l.noteProducer (.enqueue length payload producer) (replyOf (x.queue.enqueue length payload).1)) := by
  rcases x.queue.enqueue_cases length payload with ⟨e, -, heq⟩ | ⟨-, -, heq⟩
  · rw [heq]
    exact hx.of_eq rfl rfl rfl
  · rw [heq]
    refine ⟨hx.pending, fun halive => ?_⟩
    show l.received ++ (x.queue.events ++ [_]) = l.committed ++ [_]
    rw [← hx.delivered halive, List.append_assoc]

/-- What a producer does that is not there is neither done nor written down. -/
theorem withProducer {s : ProducerStep} {producer : String} {act : ProducerReply × Exchange} (hx : x.Recorded l)
    (hact : act.2.Recorded (l.noteProducer s act.1)) (hmissing : l.noteProducer s .missing = l) :
    (x.withProducer producer act).2.Recorded (l.noteProducer s (x.withProducer producer act).1) := by
  unfold Exchange.withProducer
  split
  · exact hact
  · rw [hmissing]
    exact hx

theorem produce (hx : x.Recorded l) (s : ProducerStep) :
    (x.produce s).2.Recorded (l.noteProducer s (x.produce s).1) := by
  cases s with
  | reserve id size producer => exact hx.withProducer (hx.reserve id size producer) rfl
  | fill id length payload => exact hx.fill id length payload
  | commit id => exact hx.commit id
  | discard id =>
    unfold Exchange.produce
    simp only
    split
    · exact hx.dropSlot id
    · rename_i hnone
      exact hx.missing (Option.not_isSome_iff_eq_none.mp hnone)
  | enqueue length payload producer => exact hx.withProducer (hx.enqueue length payload producer) rfl
  | clone id producer => exact hx.withProducer (hx.of_eq rfl rfl rfl) rfl
  | drop producer => exact hx.withProducer (hx.of_eq rfl rfl rfl) rfl

theorem consume (hx : x.Recorded l) (s : ReceiverStep) :
    (x.consume s).2.Recorded { l with received := l.received ++ Ledger.taken s (x.consume s).1 } := by
  refine ⟨hx.pending, fun halive => ?_⟩
  obtain ⟨halive', htaken⟩ := x.receiver.step_taken x.queue x.isSourced s halive
  show (l.received ++ Ledger.taken s _) ++ _ = l.committed
  rw [List.append_assoc, ← hx.delivered halive', ← htaken]
  rfl

theorem step (hx : x.Recorded l) (s : ExchangeStep) : (x.step s).2.Recorded (l.note s (x.step s).1) := by
  cases s with
  | consumer s => exact hx.consume s
  | producer s => exact hx.produce s

theorem perform (hx : x.Recorded l) (steps : List ExchangeStep) : (x.perform steps).Recorded (x.ledger l steps) := by
  induction steps generalizing x l with
  | nil => exact hx
  | cons s rest ih => exact ih (hx.step s)

/-- A slot is committed as long as the ledger has it and the queue is open. -/
theorem commit_fst (hx : x.Recorded l) (id : String) : (x.commit id).1 =
    match l.pending id with
    | none => .missing
    | some _ => if x.queue.closed then .failed .closed else .done := by
  rw [hx.pending id]
  unfold Exchange.commit pick?
  cases x.slots.lookup id with
  | none => rfl
  | some slot =>
    simp only [Option.map_some, Queue.commit]
    cases x.queue.closed <;> rfl

end Recorded

/-! ### Receiving what is left -/

/-- What the consumer does is no commit. -/
theorem ledger_consumer (x : Exchange) (l : Ledger) (steps : List ReceiverStep) :
    (x.ledger l (steps.map .consumer)).committed = l.committed := by
  induction steps generalizing x l with
  | nil => rfl
  | cons s rest ih => exact ih (x.step (.consumer s)).2 (l.note (.consumer s) (x.step (.consumer s)).1)

/-- To receive as often as there are events empties the queue, closed or not. -/
theorem perform_receive {events : List Event} (x : Exchange) (halive : x.receiver.alive = true)
    (hevents : x.queue.events = events) :
    let x' := x.perform ((List.replicate events.length .receive).map .consumer)
    x'.receiver.alive = true ∧ x'.queue.events = [] := by
  induction events generalizing x with
  | nil => exact ⟨halive, hevents⟩
  | cons e rest ih =>
    have htake : x.queue.take? = some (e, { x.queue with events := rest }.release e) := by
      simp [Queue.take?, Queue.receive?, hevents]
    have hstep : (x.step (.consumer .receive)).2 = { x with queue := { x.queue with events := rest }.release e } := by
      simp [step, consume, Receiver.step, halive, htake]
    have hrest : (x.step (.consumer .receive)).2.receiver.alive = true ∧
        (x.step (.consumer .receive)).2.queue.events = rest := by
      rw [hstep]
      exact ⟨halive, rfl⟩
    exact ih _ hrest.1 hrest.2

/-- Every committed event is received once and in the order of the commits, and nothing else is. After any steps that
    leave the receiver alive, what it received and what is queued are just what the commits that succeeded put there,
    each with what the last fill that succeeded left in its slot. A commit succeeds only in an open queue and only for
    a slot that was reserved and not given up or committed since. And if the queue is closed then and all that is
    queued is received, what was received is all that was committed. -/
theorem delivery_follows_commits (capacity : Nat) (producer : String) (steps : List ExchangeStep)
    (halive : ((create capacity producer).perform steps).receiver.alive = true) :
    let x := (create capacity producer).perform steps
    let l := (create capacity producer).ledger .empty steps
    let rest := (ReceiverStep.close :: List.replicate x.queue.events.length .receive).map ExchangeStep.consumer
    l.received ++ x.queue.events = l.committed ∧
      (∀ id, (x.step (.producer (.commit id))).1 = .producer (match l.pending id with
        | none => .missing
        | some _ => if x.queue.closed then .failed .closed else .done)) ∧
      ((create capacity producer).ledger .empty (steps ++ rest)).received = l.committed := by
  intro x l rest
  have hx : x.Recorded l := (recorded_create capacity producer).perform steps
  refine ⟨hx.delivered halive, fun id => congrArg ExchangeReply.producer (hx.commit_fst id), ?_⟩
  rw [ledger_append]
  have hclosed : (x.step (.consumer .close)).2 = { x with queue := x.queue.close } := by
    simp only [step, consume, Receiver.step, show x.receiver.alive = true from halive]
  have hqueued : (x.step (.consumer .close)).2.queue.events = x.queue.events := by
    rw [hclosed]
    rfl
  have hreceived := perform_receive (x.step (.consumer .close)).2 (by rw [hclosed]; exact halive) hqueued
  have hrest := (hx.perform rest).delivered hreceived.1
  rw [show (x.perform rest).queue.events = [] from hreceived.2, List.append_nil] at hrest
  exact hrest.trans (x.ledger_consumer l (.close :: List.replicate x.queue.events.length .receive))

/-- Two producers have three slots open at once. One is filled, then filled with too much, and committed last; one is
    committed empty; one is given up. The first event is received before the queue is closed. -/
theorem delivery_follows_commits_interleaved :
    let steps : List ExchangeStep := [.producer (.clone "other" "main"), .producer (.reserve "a" 12 "main"),
      .producer (.reserve "b" 20 "other"), .producer (.reserve "c" 8 "main"), .producer (.fill "a" 60 [1, 2]),
      .producer (.fill "a" 9 (List.replicate 9 0)), .producer (.commit "b"), .producer (.discard "c"),
      .producer (.commit "a"), .consumer .receive]
    let rest := (ReceiverStep.close :: List.replicate 1 .receive).map ExchangeStep.consumer
    ((create 100 "main").ledger .empty steps).received = [⟨0, [], 20⟩] ∧
      (((create 100 "main").perform steps).step (.producer (.commit "c"))).1 = .producer .missing ∧
      ((create 100 "main").ledger .empty (steps ++ rest)).received = [⟨0, [], 20⟩, ⟨60, [1, 2], 12⟩] := by
  intro steps rest
  obtain ⟨hdelivered, hcommit, hrest⟩ := delivery_follows_commits 100 "main" steps (by decide)
  have hreceived : ((create 100 "main").ledger .empty steps).received = [⟨0, [], 20⟩] := by decide
  have hqueued : ((create 100 "main").perform steps).queue.events = [⟨60, [1, 2], 12⟩] := by decide
  have hpending : ((create 100 "main").ledger .empty steps).pending "c" = none := by decide
  have hgone := hcommit "c"
  rw [hpending] at hgone
  rw [hqueued] at hrest
  rw [hreceived, hqueued] at hdelivered
  exact ⟨hreceived, hgone, hrest.trans hdelivered.symm⟩

end Exchange
end FrameSentry
