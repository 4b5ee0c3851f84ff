import FrameSentry.Daemon.Consumer
import FrameSentry.Proofs.Capture.Budget

/-! How events are handled. The consumer takes the oldest event, tells of it in one log entry and one count, and
    releases it; so whatever it handles, it handles in the order of the queue, and the budget gets back what the events
    had of it. When it is to shut down it handles every event that was committed before, whichever of them it picks
    before the signal. -/

namespace FrameSentry

/-! ### What is told -/

/-- The log entry that tells of an event. -/
def Summary.entry (s : Summary) : LogEntry :=
  let sizes : List (String × FieldValue) := [("length", .number s.length.toNat), ("captured", .number s.captured)]
  match s.classification with
  | .classified frame =>
    ⟨.consumer, .info, "captured frame",
      frame.fields ++ sizes ++ [("payload_len", FieldValue.number (s.payloadLength.getD 0))]⟩
  | c => ⟨.consumer, .debug, "captured frame not re-classifiable", ("outcome", .text c.name) :: sizes⟩

/-- The count that tells of an event. -/
def Summary.update (s : Summary) : MetricUpdate :=
  ⟨Metrics.eventsConsumedTotal, [(Metrics.protocolLabel, s.protocolLabel)], .increment 1⟩

theorem Summary.entry_component (s : Summary) : s.entry.component = .consumer := by
  obtain ⟨length, captured, c, payloadLength⟩ := s
  cases c <;> rfl

/-- What is told of some events, one after the other: an entry and a count for each. -/
def Event.tellings (events : List Event) : Telemetry :=
  ⟨events.map fun e => e.summary.entry, events.map fun e => e.summary.update⟩

/-- The log entry that tells of the end of a consumer that was shut down. -/
def Consumer.drainedEntry (consumed : Nat) : LogEntry :=
  ⟨.consumer, .debug, "capture consumer drained", [("consumed", .number consumed)]⟩

namespace Telemetry

theorem append_assoc (t u v : Telemetry) : (t.append u).append v = t.append (u.append v) := by
  simp [append]

theorem append_tellings (events events' : List Event) :
    (Event.tellings events).append (Event.tellings events') = Event.tellings (events ++ events') := by
  simp [append, Event.tellings]

theorem append_tellings_nil (t : Telemetry) : t.append (Event.tellings []) = t := by
  simp [append, Event.tellings]

/-- What the consumer told: its log entries, and the counts of events. -/
def ofConsumer (t : Telemetry) : Telemetry :=
  ⟨t.logs.filter fun x => x.component = .consumer, t.metrics.filter fun u => u.name = Metrics.eventsConsumedTotal⟩

theorem ofConsumer_append (t u : Telemetry) : (t.append u).ofConsumer = t.ofConsumer.append u.ofConsumer := by
  simp [append, ofConsumer]

theorem tellConsumed_eq (t : Telemetry) (s : Summary) :
    t.tellConsumed s = t.append ⟨[s.entry], [s.update]⟩ := by
  obtain ⟨length, captured, c, payloadLength⟩ := s
  cases c <;> rfl

theorem ofConsumer_tellConsumed (t : Telemetry) (e : Event) :
    (t.tellConsumed e.summary).ofConsumer = t.ofConsumer.append (Event.tellings [e]) := by
  rw [tellConsumed_eq, ofConsumer_append]
  simp [ofConsumer, Event.tellings, e.summary.entry_component, Summary.update]

theorem ofConsumer_log (t : Telemetry) {c : Component} (hc : c ≠ .consumer) (level : Level) (message : String)
    (fields : List (String × FieldValue)) : (t.log c level message fields).ofConsumer = t.ofConsumer := by
  simp [log, ofConsumer, hc]

theorem ofConsumer_log_consumer (t : Telemetry) (level : Level) (message : String)
    (fields : List (String × FieldValue)) : (t.log .consumer level message fields).ofConsumer =
      t.ofConsumer.append ⟨[⟨.consumer, level, message, fields⟩], []⟩ := by
  simp [log, ofConsumer, append]

end Telemetry

/-! ### Handling -/

namespace Session
variable {x x' x'' : Session} {handled handled' : List Event}

/-- The consumer handled these events: they were the oldest in the queue, and it told of each. -/
structure Handles (x x' : Session) (handled : List Event) : Prop where
  queued : x.hooks.queue.events = handled ++ x'.hooks.queue.events
  capacity : x'.hooks.queue.capacity = x.hooks.queue.capacity
  closed : x'.hooks.queue.closed = x.hooks.queue.closed
  free : x'.hooks.queue.free = x.hooks.queue.free
  told : x'.hooks.telemetry.ofConsumer = x.hooks.telemetry.ofConsumer.append (Event.tellings handled)

theorem Handles.refl (x : Session) : x.Handles x [] :=
  ⟨rfl, rfl, rfl, rfl, (Telemetry.append_tellings_nil _).symm⟩

theorem Handles.trans (h₁ : x.Handles x' handled) (h₂ : x'.Handles x'' handled') :
    x.Handles x'' (handled ++ handled') := by
  refine ⟨?_, h₂.capacity.trans h₁.capacity, h₂.closed.trans h₁.closed, h₂.free.trans h₁.free, ?_⟩
  · rw [h₁.queued, h₂.queued, List.append_assoc]
  · rw [h₂.told, h₁.told, Telemetry.append_assoc, Telemetry.append_tellings]

theorem handleNext?_none (h : x.handleNext? = none) : x.hooks.queue.events = [] := by
  have htake := Option.map_eq_none_iff.mp h
  unfold Queue.take? Queue.receive? at htake
  cases hevents : x.hooks.queue.events with
  | nil => rfl
  | cons e rest =>
    rw [hevents] at htake
    cases htake

theorem handleNext?_some (h : x.handleNext? = some x') :
    ∃ e, x.hooks.queue.events = e :: x'.hooks.queue.events ∧ x.Handles x' [e] := by
  obtain ⟨⟨e, q⟩, htake, hx'⟩ := Option.map_eq_some_iff.mp h
  obtain ⟨hcapacity, hfree⟩ := Queue.free_take htake
  obtain ⟨rest, hevents, rfl⟩ := Queue.take?_some htake
  cases hx'
  exact ⟨e, hevents, hevents, hcapacity, rfl, hfree, x.hooks.telemetry.ofConsumer_tellConsumed e⟩

theorem handleSome_handles {n : Nat} (hn : x.hooks.queue.events.length ≤ n) :
    (handleSome n x).1 = x.hooks.queue.events.length ∧ x.Handles (handleSome n x).2 x.hooks.queue.events := by
  induction n generalizing x with
  | zero =>
    rw [List.length_eq_zero_iff.mp (Nat.le_zero.mp hn)]
    exact ⟨rfl, .refl x⟩
  | succ n ih =>
    unfold handleSome
    cases hnext : x.handleNext? with
    | none =>
      rw [handleNext?_none hnext]
      exact ⟨rfl, .refl x⟩
    | some x' =>
      obtain ⟨e, hevents, hfirst⟩ := handleNext?_some hnext
      rw [hevents, List.length_cons] at hn ⊢
      obtain ⟨hcount, hrest⟩ := ih (x := x') (Nat.le_of_succ_le_succ hn)
      exact ⟨congrArg (· + 1) hcount, hfirst.trans hrest⟩

theorem handleAll_handles (x : Session) :
    x.handleAll.1 = x.hooks.queue.events.length ∧ x.Handles x.handleAll.2 x.hooks.queue.events :=
  handleSome_handles (Nat.le_refl _)

theorem Handles.empty (h : x.Handles x' x.hooks.queue.events) : x'.hooks.queue.events = [] :=
  List.self_eq_append_right.mp h.queued

end Session

/-! ### The consumer's task -/

namespace Consumer
variable {x x' : Session} {handled : List Event}

/-- While the queue is open the task handles all that is queued, and waits. -/
theorem run_waiting {n : Nat} (hopen : x.hooks.queue.closed = false) : ∃ x', x.Handles x' x.hooks.queue.events ∧
    run true n x = (.waiting (n + x.hooks.queue.events.length), x') := by
  obtain ⟨hcount, hhandles⟩ := x.handleAll_handles
  refine ⟨_, hhandles, ?_⟩
  have hclosed := hhandles.closed.trans hopen
  unfold run
  simp [hclosed, hcount]

/-- The task shut down: it handled these events, told how many it had handled in all, and left a closed queue that is
    empty. -/
structure Finished (x x' : Session) (handled : List Event) (consumed : Nat) : Prop where
  empty : x'.hooks.queue.events = []
  closed : x'.hooks.queue.closed = true
  capacity : x'.hooks.queue.capacity = x.hooks.queue.capacity
  available : x'.hooks.queue.available = x.hooks.queue.free
  told : x'.hooks.telemetry.ofConsumer =
    x.hooks.telemetry.ofConsumer.append ((Event.tellings handled).append ⟨[drainedEntry consumed], []⟩)

theorem drain_finished (n : Nat) (x : Session) : (drain n x).1 = n + x.hooks.queue.events.length ∧
    Finished x (drain n x).2 x.hooks.queue.events (n + x.hooks.queue.events.length) := by
  obtain ⟨hcount, hhandles⟩ := Session.handleAll_handles { x with hooks := x.hooks.setQueue x.hooks.queue.close }
  have hempty := hhandles.empty
  have hfree := hhandles.free
  unfold drain
  simp only [hcount]
  refine ⟨rfl, rfl, rfl, hhandles.capacity, hhandles.free, ?_⟩
  show (Telemetry.log _ _ _ _ _).ofConsumer = _
  rw [Telemetry.ofConsumer_log_consumer, hhandles.told, Telemetry.append_assoc]
  rfl

/-- What was handled before the rest counts as handled too. -/
theorem Finished.prepend {x'' : Session} {handled' : List Event} {n : Nat} (h₁ : x.Handles x' handled)
    (h₂ : Finished x' x'' handled' n) : Finished x x'' (handled ++ handled') n := by
  refine ⟨h₂.empty, h₂.closed, h₂.capacity.trans h₁.capacity, h₂.available.trans h₁.free, ?_⟩
  rw [h₂.told, h₁.told, Telemetry.append_assoc, ← Telemetry.append_assoc (Event.tellings handled),
    Telemetry.append_tellings]

/-- Whatever the task picks before the signal, it handles every event that is queued. -/
theorem shutDown_finished (picks : List Bool) (n : Nat) (x : Session) :
    (shutDown picks n x).1 = n + x.hooks.queue.events.length ∧
      Finished x (shutDown picks n x).2 x.hooks.queue.events (n + x.hooks.queue.events.length) := by
  induction picks generalizing n x with
  | nil => exact drain_finished n x
  | cons pick picks ih =>
    cases pick with
    | false => exact drain_finished n x
    | true =>
      unfold shutDown
      split
      · rename_i x' hnext
        obtain ⟨e, hevents, hfirst⟩ := Session.handleNext?_some hnext
        obtain ⟨hcount, hrest⟩ := ih (n + 1) x'
        have htotal : n + (x'.hooks.queue.events.length + 1) = n + 1 + x'.hooks.queue.events.length := by omega
        rw [hevents, List.length_cons, htotal]
        exact ⟨hcount, hrest.prepend hfirst⟩
      · exact drain_finished n x

end Consumer
end FrameSentry
