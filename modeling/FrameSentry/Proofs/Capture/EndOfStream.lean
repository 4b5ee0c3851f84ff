import FrameSentry.Proofs.Capture.Delivery

/-! The end of the stream is final. A receiver that waits for an event gets the oldest that is queued. If there is none
    it waits on, as long as the queue is open and a producer is there, or a slot that one of them left behind. Otherwise
    the stream has ended, and whatever anyone does then, nothing is queued any more: a closed queue takes nothing, and
    where no producer and no slot is left nobody can commit, reserve a slot or make another producer. -/

namespace FrameSentry

/-! ### A closed queue -/

namespace Queue
variable {q : Queue}

theorem enqueue_refused (hq : q.closed = true) (length : UInt32) (payload : Bytes) :
    ∃ e, (q.enqueue length payload).1 = .error e := by
  obtain ⟨e, hreserve⟩ := reserve_refused hq (Record.headerSize + payload.length)
  exact ⟨e, by simp only [enqueue, hreserve]⟩

theorem receive?_of_empty (hq : q.events = []) : q.receive? = none := by
  simp only [receive?, hq]

theorem take?_of_empty (hq : q.events = []) : q.take? = none := by
  simp only [take?, receive?_of_empty hq, Option.map_none]

end Queue

/-! ### An empty queue -/

theorem Ledger.taken_missing (s : ReceiverStep) : taken s .missing = [] := by
  cases s <;> rfl

/-- The consumer takes nothing out of an empty queue, and puts nothing there. -/
theorem Receiver.step_empty (r : Receiver) {q : Queue} (hq : q.events = []) (sourced : Bool) (s : ReceiverStep) :
    Ledger.taken s (r.step q sourced s).1 = [] ∧ (r.step q sourced s).2.2.events = [] := by
  unfold step
  split
  case h_1 id =>
    refine ⟨rfl, ?_⟩
    unfold letGo
    split
    · exact hq
    · exact (r.dropHeld_events q id).2.trans hq
  case h_2 => exact ⟨Ledger.taken_missing _, hq⟩
  case h_3 =>
    rw [Queue.take?_of_empty hq]
    exact ⟨rfl, hq⟩
  case h_4 =>
    unfold poll
    rw [Queue.take?_of_empty hq]
    refine ⟨?_, hq⟩
    simp only
    split <;> rfl
  case h_5 =>
    unfold hold
    rw [Queue.receive?_of_empty hq]
    exact ⟨rfl, hq⟩
  case h_6 => exact ⟨hq, rfl⟩
  case h_7 => exact ⟨rfl, hq⟩
  case h_8 => exact ⟨rfl, rfl⟩

namespace Exchange
variable {x : Exchange}

/-! ### The end -/

/-- Nothing is queued, and nothing can be: the queue is closed, or every producer and every slot is gone. -/
structure Over (x : Exchange) : Prop where
  empty : x.queue.events = []
  silent : x.queue.closed = true ∨ x.isSourced = false

theorem isSourced_eq_true : x.isSourced = true ↔ x.producers ≠ [] ∨ x.slots ≠ [] := by
  simp [isSourced]

/-- Where nobody can commit, nothing that a producer or a slot would do is done. -/
theorem produce_of_not_sourced (hx : x.isSourced = false) (s : ProducerStep) : x.produce s = (.missing, x) := by
  obtain ⟨hproducers, hslots⟩ : x.producers = [] ∧ x.slots = [] := by simpa [isSourced] using hx
  have hwithout : ∀ (producer : String) (act : ProducerReply × Exchange), x.withProducer producer act = (.missing, x) :=
    fun producer act => by simp [withProducer, hproducers]
  cases s with
  | reserve id size producer => exact hwithout producer _
  | fill id length payload => simp [produce, fill, hslots]
  | commit id => simp [produce, commit, pick?, hslots]
  | discard id => simp [produce, hslots]
  | enqueue length payload producer => exact hwithout producer _
  | clone id producer => exact hwithout producer _
  | drop producer => exact hwithout producer _

theorem withProducer_cases (x : Exchange) (producer : String) (act : ProducerReply × Exchange) :
    x.withProducer producer act = act ∨ x.withProducer producer act = (.missing, x) := by
  unfold withProducer
  split
  · exact Or.inl rfl
  · exact Or.inr rfl

theorem withProducer_leaves {α : Type} (f : Exchange → α) (producer : String) {act : ProducerReply × Exchange}
    (hact : f act.2 = f x) : f (x.withProducer producer act).2 = f x := by
  rcases x.withProducer_cases producer act with heq | heq <;> rw [heq]
  exact hact

theorem dropSlot_closed (x : Exchange) (id : String) : (x.dropSlot id).queue.closed = x.queue.closed := by
  rcases x.dropSlot_cases id with ⟨-, heq⟩ | ⟨slot, -, heq⟩ <;> rw [heq]
  rfl

/-- The producers' side neither closes the queue nor touches the receiver. -/
theorem produce_leaves (x : Exchange) (s : ProducerStep) :
    (x.produce s).2.queue.closed = x.queue.closed ∧ (x.produce s).2.receiver = x.receiver := by
  let side : Exchange → Bool × Receiver := fun x => (x.queue.closed, x.receiver)
  suffices side (x.produce s).2 = side x from Prod.mk.inj this
  have hdrop : ∀ (x : Exchange) id, side (x.dropSlot id) = side x := fun x id =>
    Prod.ext (x.dropSlot_closed id) (x.dropSlot_eq id).1
  cases s with
  | reserve id size producer =>
    refine withProducer_leaves side producer ?_
    unfold reserve
    cases hreserve : x.queue.reserve size with
    | error cause => rfl
    | ok reserved =>
      obtain ⟨slot, q⟩ := reserved
      obtain ⟨-, -, -, rfl⟩ := Queue.reserve_ok hreserve
      exact hdrop _ id
  | fill id length payload =>
    unfold produce fill
    simp only
    split
    · rfl
    · split <;> rfl
  | commit id =>
    unfold produce commit Queue.commit
    simp only
    split
    · rfl
    · split <;> rfl
  | discard id =>
    unfold produce
    simp only
    split
    · exact hdrop x id
    · rfl
  | enqueue length payload producer =>
    exact withProducer_leaves side producer (Prod.ext (x.queue.enqueue_closed length payload) rfl)
  | clone id producer => exact withProducer_leaves side producer rfl
  | drop producer => exact withProducer_leaves side producer rfl

/-- On a closed queue the producers' side can do much, but queues nothing. -/
theorem produce_of_closed (hx : x.queue.closed = true) (s : ProducerStep) :
    (x.produce s).2.queue.events = x.queue.events := by
  let events : Exchange → List Event := fun x => x.queue.events
  cases s with
  | reserve id size producer =>
    obtain ⟨e, hreserve⟩ := Queue.reserve_refused hx size
    refine withProducer_leaves events producer ?_
    simp only [reserve, hreserve]
  | fill id length payload =>
    unfold produce fill
    simp only
    split
    · rfl
    · split <;> rfl
  | commit id =>
    unfold produce commit
    simp only
    split
    · rfl
    · simp only [Queue.commit_refused hx]
      rfl
  | discard id =>
    unfold produce
    simp only
    split
    · exact (x.dropSlot_eq id).2
    · rfl
  | enqueue length payload producer =>
    exact withProducer_leaves events producer (congrArg Queue.events (Queue.enqueue_of_closed hx length payload))
  | clone id producer => exact withProducer_leaves events producer rfl
  | drop producer => exact withProducer_leaves events producer rfl

namespace Over

theorem produce (hx : x.Over) (s : ProducerStep) : (x.produce s).2.Over := by
  rcases hx.silent with hclosed | hsilent
  · exact ⟨(produce_of_closed hclosed s).trans hx.empty, Or.inl ((x.produce_leaves s).1.trans hclosed)⟩
  · rw [produce_of_not_sourced hsilent s]
    exact hx

theorem consume (hx : x.Over) (s : ReceiverStep) : (x.consume s).2.Over :=
  ⟨(x.receiver.step_empty hx.empty x.isSourced s).2,
    hx.silent.imp_left fun hclosed => x.receiver.step_closed hclosed x.isSourced s⟩

theorem step (hx : x.Over) (s : ExchangeStep) : (x.step s).2.Over := by
  cases s with
  | consumer s => exact hx.consume s
  | producer s => exact hx.produce s

theorem perform (hx : x.Over) (steps : List ExchangeStep) : (x.perform steps).Over := by
  induction steps generalizing x with
  | nil => exact hx
  | cons s rest ih => exact ih (hx.step s)

theorem commit_fails (hx : x.Over) (id : String) : (x.produce (.commit id)).1 ≠ .done := by
  rcases hx.silent with hclosed | hsilent
  · unfold Exchange.produce Exchange.commit
    simp only
    split
    · nofun
    · simp only [Queue.commit_refused hclosed]
      nofun
  · rw [produce_of_not_sourced hsilent]
    nofun

theorem enqueue_fails (hx : x.Over) (length : UInt32) (payload : Bytes) (producer : String) :
    (x.produce (.enqueue length payload producer)).1 ≠ .done := by
  rcases hx.silent with hclosed | hsilent
  · obtain ⟨e, henqueue⟩ := Queue.enqueue_refused hclosed length payload
    show (x.withProducer producer (replyOf (x.queue.enqueue length payload).1, _)).1 ≠ .done
    rw [henqueue]
    rcases x.withProducer_cases producer (replyOf (.error e), _) with heq | heq <;> rw [heq] <;> nofun
  · rw [produce_of_not_sourced hsilent]
    nofun

end Over

/-! ### What the receiver is told -/

theorem consume_poll (halive : x.receiver.alive = true) : x.consume .poll =
    match x.queue.events with
    | [] => (if x.queue.closed || !x.isSourced then .ready none else .pending, x)
    | e :: rest => (.ready (some e), { x with queue := { x.queue with events := rest }.release e }) := by
  unfold consume
  cases hevents : x.queue.events with
  | nil =>
    have htake : x.queue.take? = none := by simp [Queue.take?, Queue.receive?, hevents]
    simp only [Receiver.step, Receiver.poll, halive, htake]
  | cons e rest =>
    have htake : x.queue.take? = some (e, { x.queue with events := rest }.release e) := by
      simp [Queue.take?, Queue.receive?, hevents]
    simp only [Receiver.step, Receiver.poll, halive, htake]

/-- The receiver is told of the end just when the stream is over. -/
theorem over_of_poll (halive : x.receiver.alive = true) (hend : (x.consume .poll).1 = .ready none) : x.Over := by
  rw [consume_poll halive] at hend
  cases hevents : x.queue.events with
  | nil =>
    simp only [hevents] at hend
    refine ⟨hevents, ?_⟩
    split at hend
    · rename_i hsilent
      simpa using hsilent
    · cases hend
  | cons e rest =>
    simp only [hevents] at hend
    cases hend

theorem Over.poll (hx : x.Over) (halive : x.receiver.alive = true) : x.consume .poll = (.ready none, x) := by
  have hsilent : (x.queue.closed || !x.isSourced) = true := by
    rcases hx.silent with h | h <;> simp [h]
  rw [consume_poll halive, hx.empty]
  simp only [hsilent, if_true]

theorem poll_pending (halive : x.receiver.alive = true) : (x.consume .poll).1 = .pending ↔
    x.queue.events = [] ∧ x.queue.closed = false ∧ (x.producers ≠ [] ∨ x.slots ≠ []) := by
  rw [consume_poll halive, ← isSourced_eq_true]
  cases x.queue.events with
  | nil => cases x.queue.closed <;> cases x.isSourced <;> simp
  | cons e rest => simp

theorem poll_event (halive : x.receiver.alive = true) (e : Event) :
    (x.consume .poll).1 = .ready (some e) ↔ x.queue.events.head? = some e := by
  rw [consume_poll halive]
  cases x.queue.events with
  | nil => cases x.queue.closed <;> cases x.isSourced <;> simp
  | cons e' rest => simp

/-- The end of the stream comes when it should, and then for good. After any steps of any producers, their slots and
    the receiver, which is alive, a receiver that waits for an event waits on just when nothing is queued, the queue is
    open and some producer or some slot that is not committed is there. It gets an event just when one is queued, open
    or closed, and that is the oldest. And once it was told of the end, then after whatever more is done no commit and
    no enqueue succeeds, no step of the consumer takes an event, and the receiver, if it is still there, is told of the
    end again. -/
theorem end_of_stream_final (capacity : Nat) (producer : String) (steps : List ExchangeStep)
    (halive : ((create capacity producer).perform steps).receiver.alive = true) :
    let x := (create capacity producer).perform steps
    let answer := (x.consume .poll).1
    (answer = .pending ↔
        x.queue.events = [] ∧ x.queue.closed = false ∧ (x.producers ≠ [] ∨ x.slots ≠ [])) ∧
      (∀ e, answer = .ready (some e) ↔ x.queue.events.head? = some e) ∧
      (answer = .ready none → ∀ more : List ExchangeStep,
        let x' := (x.consume .poll).2.perform more
        (∀ id, (x'.produce (.commit id)).1 ≠ .done) ∧
          (∀ length payload name, (x'.produce (.enqueue length payload name)).1 ≠ .done) ∧
          (∀ s, Ledger.taken s (x'.consume s).1 = []) ∧
          (x'.receiver.alive = true → (x'.consume .poll).1 = .ready none)) := by
  intro x answer
  refine ⟨poll_pending halive, poll_event halive, fun hend more => ?_⟩
  have hover : ((x.consume .poll).2.perform more).Over := ((over_of_poll halive hend).consume .poll).perform more
  exact ⟨hover.commit_fails, hover.enqueue_fails, fun s => (Receiver.step_empty _ hover.empty _ s).1,
    fun halive' => congrArg Prod.fst (hover.poll halive')⟩

/-- A slot outlives the only producer and keeps the stream going until it is committed and received. And a queue that is
    closed with one event in it and one slot not committed gives the event away, and then is at its end, though the
    producer is there and tries on. -/
theorem end_of_stream_final_slots :
    let left : List ExchangeStep := [.producer (.reserve "a" 12 "main"), .producer (.drop "main")]
    let committed : List ExchangeStep := left ++ [.producer (.commit "a")]
    let closed : List ExchangeStep := [.producer (.enqueue 60 [1, 2] "main"), .producer (.reserve "b" 20 "main"),
      .consumer .close]
    let ended : List ExchangeStep := closed ++ [.consumer .receive]
    let more : List ExchangeStep := [.producer (.commit "b"), .producer (.clone "other" "main")]
    let after := (((create 100 "main").perform ended).consume .poll).2.perform more
    (((create 100 "main").perform left).consume .poll).1 = .pending ∧
      (((create 100 "main").perform committed).consume .poll).1 = .ready (some ⟨0, [], 12⟩) ∧
      (((create 100 "main").perform closed).consume .poll).1 = .ready (some ⟨60, [1, 2], 6⟩) ∧
      after.producers = ["other", "main"] ∧ (after.produce (.enqueue 60 [1, 2] "other")).1 ≠ .done ∧
      (after.consume .poll).1 = .ready none := by
  intro left committed closed ended more after
  have hleft := end_of_stream_final 100 "main" left (by decide)
  have hcommitted := end_of_stream_final 100 "main" committed (by decide)
  have hclosed := end_of_stream_final 100 "main" closed (by decide)
  have hended := end_of_stream_final 100 "main" ended (by decide)
  obtain ⟨-, henqueue, -, hagain⟩ := hended.2.2 (by decide) more
  exact ⟨hleft.1.mpr (by decide), (hcommitted.2.1 _).mpr (by decide), (hclosed.2.1 _).mpr (by decide), by decide,
    henqueue 60 [1, 2] "other", hagain (by decide)⟩

end Exchange
end FrameSentry
