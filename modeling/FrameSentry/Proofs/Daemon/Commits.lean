import FrameSentry.Proofs.Daemon.Handling
import FrameSentry.Proofs.Engine.Reader
import FrameSentry.Proofs.Hook.Reported

/-! What producers commit. Every call of a hook commits at most one event, and so does every record that is forwarded;
    a settling engine commits what its readers find, one call after the other. What is committed is appended to the
    queue and nothing else happens to it, and none of this is told as the consumer tells. Into a closed queue nothing
    is committed. -/

namespace FrameSentry

/-! ### The queue -/

namespace Queue
variable {q q' q'' : Queue} {added added' : List Event}

/-- These events were committed, and whatever else was reserved was given back. -/
structure Receives (q q' : Queue) (added : List Event) : Prop where
  events : q'.events = q.events ++ added
  capacity : q'.capacity = q.capacity
  closed : q'.closed = q.closed
  free : q'.free = q.free
  refuses : q.closed = true → added = []

theorem Receives.refl (q : Queue) : q.Receives q [] := ⟨(List.append_nil _).symm, rfl, rfl, rfl, fun _ => rfl⟩

theorem Receives.trans (h₁ : q.Receives q' added) (h₂ : q'.Receives q'' added') : q.Receives q'' (added ++ added') := by
  refine ⟨?_, h₂.capacity.trans h₁.capacity, h₂.closed.trans h₁.closed, h₂.free.trans h₁.free, fun hq => ?_⟩
  · rw [h₂.events, h₁.events, List.append_assoc]
  · rw [h₁.refuses hq, h₂.refuses (h₁.closed.trans hq)]
    rfl

/-- A closed queue stays as it is. -/
theorem Receives.eq_of_closed (h : q.Receives q' added) (hq : q.closed = true) : q' = q := by
  have hevents : q'.events = q.events := by rw [h.events, h.refuses hq, List.append_nil]
  have hcost : q'.queuedCost = q.queuedCost := by rw [queuedCost_eq_sum, queuedCost_eq_sum, hevents]
  have havailable : q'.available = q.available := by
    have hfree : q'.available + q'.queuedCost = q.available + q.queuedCost := h.free
    omega
  have hcapacity := h.capacity
  have hclosed := h.closed
  cases q
  cases q'
  simp_all

/-- What is committed when a payload is put into the queue: its event, if that succeeds. -/
def committed (q : Queue) (length : UInt32) (payload : Bytes) : List Event :=
  match (q.enqueue length payload).1 with
  | .ok () => [⟨length, payload, Record.headerSize + payload.length⟩]
  | .error _ => []

theorem enqueue_receives (q : Queue) (length : UInt32) (payload : Bytes) :
    q.Receives (q.enqueue length payload).2 (q.committed length payload) := by
  obtain ⟨hcapacity, hfree, -⟩ := q.enqueue_keeps length payload
  unfold committed
  rcases q.enqueue_cases length payload with ⟨e, -, heq⟩ | ⟨hopen, -, heq⟩
  · rw [heq]
    exact .refl q
  · rw [heq] at hcapacity hfree ⊢
    exact ⟨rfl, hcapacity, rfl, hfree, fun hq => absurd hq (by rw [hopen]; nofun)⟩

/-- A reservation that is filled and committed. -/
theorem commit_receives {n : Nat} {slot slot' : Slot} (hreserve : q.reserve n = .ok (slot, q')) {length : UInt32}
    {payload : Bytes} (hfill : slot.fill length payload = .ok slot') :
    q'.commit slot' = (.ok (), (q'.commit slot').2) ∧ q.Receives (q'.commit slot').2 [⟨length, payload, n⟩] := by
  obtain ⟨-, hfree⟩ := free_reserve hreserve
  obtain ⟨hopen, -, hslot, -⟩ := reserve_ok hreserve
  obtain ⟨-, rfl⟩ := Slot.fill_ok hfill
  obtain ⟨-, hfree', -⟩ := commit_keeps q' { slot with length, payload }
  rw [commit_reserved hreserve] at hfree' ⊢
  rw [hslot] at hfree'
  exact ⟨rfl, rfl, rfl, rfl, hfree'.trans hfree, fun hq => absurd hq (by rw [hopen]; nofun)⟩

/-- A reservation that is given up. -/
theorem discard_receives {n : Nat} {slot : Slot} (hreserve : q.reserve n = .ok (slot, q')) :
    q.Receives (q'.discard slot) [] := by
  rw [discard_reserved hreserve]
  exact .refl q

/-- A closed queue refuses every reservation that its budget could serve. -/
theorem reserve_of_closed {q : Queue} (hclosed : q.closed = true) {n : Nat} (hn : n ≤ q.capacity)
    (hlimit : n < reservationLimit) : q.reserve n = .error .closed :=
  (reserve_eq_closed hlimit).mpr ⟨hclosed, hn⟩

theorem commit_of_closed {q : Queue} (hclosed : q.closed = true) (s : Slot) : (q.commit s).1 = .error .closed :=
  congrArg Prod.fst (commit_refused hclosed s)

end Queue

/-! ### Calls of the hooks -/

/-- These events were committed, and nothing was told as the consumer tells. -/
structure HookState.Receives (s s' : HookState) (added : List Event) : Prop where
  queue : s.queue.Receives s'.queue added
  told : s'.telemetry.ofConsumer = s.telemetry.ofConsumer

theorem HookState.Receives.refl (s : HookState) : s.Receives s [] := ⟨.refl _, rfl⟩

theorem HookState.Receives.trans {s s' s'' : HookState} {added added' : List Event} (h₁ : s.Receives s' added)
    (h₂ : s'.Receives s'' added') : s.Receives s'' (added ++ added') :=
  ⟨h₁.queue.trans h₂.queue, h₂.told.trans h₁.told⟩

/-- No report is told as the consumer tells. -/
theorem Telemetry.ofConsumer_tell (t : Telemetry) (d : Diagnostic) : (t.tell d).ofConsumer = t.ofConsumer := by
  cases d <;> simp [tell, countFrame, countCapture, count, log, ofConsumer, Metrics.framesTotal, Metrics.verdictsTotal,
    Metrics.capturesTotal, Metrics.kernelMalformedSamplesTotal, Metrics.eventsConsumedTotal]

theorem HookState.Reported.ofConsumer {s s' : HookState} (h : s.Reported s') :
    s'.telemetry.ofConsumer = s.telemetry.ofConsumer :=
  h.keeps Telemetry.ofConsumer_tell

/-- What is committed of a frame with this outcome. -/
def CaptureOutcome.committed (frame : Frame) : CaptureOutcome → List Event
  | .captured length n => [⟨length, frame.data.take n, Record.headerSize + n⟩]
  | .skipped _ | .dropped _ => []

namespace HookSettings

/-- What is committed of a record that is forwarded. -/
def recordCommitted (h : HookSettings) (sample : Bytes) (s : HookState) : List Event :=
  match Record.decode sample with
  | none => []
  | some (length, payload) => s.queue.committed length (payload.take (Record.clampCapture h.maxCapture))

variable (h : HookSettings)

theorem capture_receives (frame : Frame) (s : HookState) :
    s.Receives (h.capture frame s).2 ((h.capture frame s).1.committed frame) := by
  refine ⟨?_, (h.capture_reported frame s).ofConsumer⟩
  unfold capture drop
  simp only
  split
  · simpa [CaptureOutcome.committed] using .refl _
  rename_i slot q hreserve
  have hdiscard := Queue.discard_receives hreserve
  split
  · simpa [CaptureOutcome.committed] using hdiscard
  split
  · simpa [CaptureOutcome.committed] using hdiscard
  · rename_i slot' hfill
    obtain ⟨hcommit, hreceives⟩ := Queue.commit_receives hreserve hfill
    rw [hcommit]
    simpa [CaptureOutcome.committed] using hreceives

theorem onFrame_receives (frame : Frame) (s : HookState) :
    s.Receives (h.onFrame frame s).2 ((h.onFrame frame s).1.committed frame) := by
  have hobserved : s.Receives (h.observe frame s).2 [] :=
    ⟨by rw [h.observe_queue]; exact .refl _, (h.observe_reported frame s).ofConsumer⟩
  rw [h.onFrame_eq]
  split
  · exact hobserved.trans (h.capture_receives frame _)
  · exact hobserved

theorem forward_receives (sample : Bytes) (s : HookState) :
    s.Receives (h.forward sample s).2 (h.recordCommitted sample s) := by
  refine ⟨?_, (h.forward_reported s sample).ofConsumer⟩
  unfold recordCommitted
  cases hd : Record.decode sample with
  | none =>
    rw [show (h.forward sample s).2.queue = s.queue by simp [forward, hd]]
    exact .refl _
  | some r =>
    rw [(h.forward_decoded hd s).1]
    exact s.queue.enqueue_receives _ _

theorem enforce_receives (frame : Frame) (s : HookState) : s.Receives (h.enforce frame s).2 [] := by
  refine ⟨?_, (h.enforce_reported frame s).ofConsumer⟩
  rw [h.enforce_queue]
  exact .refl _

end HookSettings

/-- What a call in a session commits. -/
def Session.commits (h : HookSettings) (x : Session) : SessionStep → List Event
  | .onFrame frame | .handle frame => (h.onFrame frame x.hooks).1.committed frame
  | .forward sample => h.recordCommitted sample x.hooks
  | .enforce _ | .consume _ => []

theorem Session.step_receives (h : HookSettings) (x : Session) {s : SessionStep} (hs : ∀ r, s ≠ .consume r) :
    x.hooks.Receives (x.step h s).2.hooks (x.commits h s) := by
  cases s with
  | onFrame frame => exact h.onFrame_receives frame x.hooks
  | handle frame => exact h.onFrame_receives frame x.hooks
  | enforce frame => exact h.enforce_receives frame x.hooks
  | forward sample =>
    rw [x.step_forward h sample]
    exact h.forward_receives sample x.hooks
  | consume r => exact absurd rfl (hs r)

/-! ### The tasks of an engine -/

namespace Machine
variable {m m' m'' : Machine} {added added' : List Event}

/-- The hooks of the engine committed these events. -/
def Receives (m m' : Machine) (added : List Event) : Prop :=
  m.engine.session.hooks.Receives m'.engine.session.hooks added

theorem Receives.refl (m : Machine) : m.Receives m [] := HookState.Receives.refl _

theorem Receives.trans (h₁ : m.Receives m' added) (h₂ : m'.Receives m'' added') : m.Receives m'' (added ++ added') :=
  HookState.Receives.trans h₁ h₂

theorem Receives.log (m : Machine) {c : Component} (level : Level) (message : String)
    (fields : List (String × FieldValue)) (hc : c ≠ .consumer) : m.Receives (m.log c level message fields) [] :=
  ⟨.refl _, m.telemetry.ofConsumer_log hc level message fields⟩

/-- What is committed of the first records of a ring, up to the one at which the reader ends. -/
def recordCommits (load : Nat) : Nat → Machine → List Event
  | 0, _ => []
  | n + 1, m =>
    match (m.kernel.outlet load).ring.next? with
    | none => []
    | some (record, ring) =>
      m.engine.hookSettings.recordCommitted record m.engine.session.hooks ++
        match m.engine.hookSettings.forward record m.engine.session.hooks with
        | (.ok (), hooks) => recordCommits load n (m.taken load ring hooks)
        | (.error _, _) => []

/-- What is committed of what waits at a socket. -/
def frameCommits : List Incoming → Machine → List Event
  | [], _ => []
  | .frame data :: rest, m =>
    let (outcome, hooks) := m.engine.hookSettings.onFrame (received data) m.engine.session.hooks
    outcome.committed (received data) ++ frameCommits rest (m.setHooks hooks)
  | .failure reason :: rest, m =>
    frameCommits rest (m.log .loader .warn "packet socket recv failed" [("error", .text reason)])

/-- What a reader commits, if it can wait for its source. -/
def readCommits (t : Task) (m : Machine) : List Event :=
  match t.job, t.phase with
  | .readRing load, .waiting _ =>
    match m.kernel.fault? .waitRing with
    | some _ => []
    | none => recordCommits load (m.kernel.outlet load).ring.records.length m
  | .readSocket load, .waiting _ =>
    match m.kernel.fault? .waitSocket with
    | some _ => []
    | none =>
      let o := m.kernel.outlet load
      frameCommits o.inbox { m with kernel := m.kernel.setOutlet load { o with inbox := [] } }
  | _, _ => []

/-- What tasks commit when each takes its turn to read. -/
def turnCommits : List Task → Machine → List Event
  | [], _ => []
  | t :: rest, m => readCommits t m ++ turnCommits rest (readTask t m).2

/-- What the engine's tasks commit when they run until they wait. To begin and to poll commits nothing. -/
def settleCommits (m : Machine) : List Event :=
  let m := (m.eachTask beginTask).eachTask pollTask
  turnCommits m.engine.tasks m

theorem forwardRecords_receives (load n : Nat) (m : Machine) :
    m.Receives (forwardRecords load n m).2 (recordCommits load n m) := by
  induction n generalizing m with
  | zero => exact .refl m
  | succ n ih =>
    have hforwarded : ∀ {sample ring hooks r}, m.engine.hookSettings.forward sample m.engine.session.hooks = (r, hooks) →
        m.Receives (m.taken load ring hooks)
          (m.engine.hookSettings.recordCommitted sample m.engine.session.hooks) := by
      intro sample ring hooks r hforward
      have hreceives := m.engine.hookSettings.forward_receives sample m.engine.session.hooks
      rw [hforward] at hreceives
      exact hreceives
    unfold recordCommits
    rcases forwardRecords_cases load n m with
      ⟨hnext, h⟩ | ⟨sample, ring, hooks, hnext, ⟨hforward, h⟩ | ⟨e, hforward, h⟩⟩
    · rw [h, hnext]
      exact .refl m
    · simp only [h, hnext, hforward]
      exact (hforwarded hforward).trans (ih _)
    · simp only [h, hnext, hforward]
      exact (hforwarded hforward).trans (.log _ _ _ _ (by decide))

theorem observeFrames_receives (items : List Incoming) (m : Machine) :
    m.Receives (observeFrames items m) (frameCommits items m) := by
  induction items generalizing m with
  | nil => exact .refl m
  | cons item rest ih =>
    cases item with
    | frame data =>
      have hframe : m.Receives (m.setHooks (m.engine.hookSettings.onFrame (received data) m.engine.session.hooks).2) _ :=
        m.engine.hookSettings.onFrame_receives (received data) m.engine.session.hooks
      exact hframe.trans (ih _)
    | failure reason => exact (Receives.log m _ _ _ (by decide)).trans (ih _)

theorem readTask_receives (t : Task) (m : Machine) : m.Receives (readTask t m).2 (readCommits t m) := by
  obtain ⟨job, phase, owned⟩ := t
  cases phase with
  | fresh => cases job <;> exact .refl m
  | finished => cases job <;> exact .refl m
  | waiting wake =>
    cases job with
    | readRing load =>
      unfold readCommits
      rcases awaitSource_cases .waitRing "ring buffer poll failed" (drainRing load) ⟨.readRing load, .waiting wake, owned⟩
        m with ⟨hf, h⟩ | ⟨reason, hf, h⟩
      · simp only [hf]
        exact (congrArg Prod.snd h) ▸ forwardRecords_receives load _ m
      · simp only [hf]
        exact (congrArg Prod.snd h) ▸ .log m _ _ _ (by decide)
    | readSocket load =>
      unfold readCommits
      rcases awaitSource_cases .waitSocket "packet socket poll failed" (drainSocket load)
        ⟨.readSocket load, .waiting wake, owned⟩ m with ⟨hf, h⟩ | ⟨reason, hf, h⟩
      · have hdrained : m.Receives (drainSocket load ⟨.readSocket load, .waiting wake, owned⟩ m).2 _ :=
          observeFrames_receives (m.kernel.outlet load).inbox
            { m with kernel := m.kernel.setOutlet load { m.kernel.outlet load with inbox := [] } }
        simp only [hf]
        exact (congrArg Prod.snd h) ▸ hdrained
      · simp only [hf]
        exact (congrArg Prod.snd h) ▸ .log m _ _ _ (by decide)
    | pollCounters interval => exact .refl m

theorem turns_receives (tasks : List Task) (m : Machine) :
    m.Receives (turns readTask tasks m).2 (turnCommits tasks m) := by
  induction tasks generalizing m with
  | nil => exact .refl m
  | cons t rest ih => exact (readTask_receives t m).trans (ih _)

theorem beginTask_receives (t : Task) (m : Machine) : m.Receives (beginTask t m).2 [] := by
  have hreader : ∀ c message, m.Receives (beginReader c message t m).2 [] := by
    intro c message
    unfold beginReader
    split
    · exact .log m _ _ _ (by decide)
    · exact .refl m
  unfold beginTask
  split
  · exact .refl m
  split
  · exact hreader _ _
  · exact hreader _ _
  · exact .refl m

theorem readCounters_receives (outcomes : List Outcome) (m : Machine) : m.Receives (readCounters outcomes m).2 [] := by
  induction outcomes generalizing m with
  | nil => exact .refl m
  | cons o rest ih =>
    have hread : m.Receives (m.readCounter o).2 [] := by
      unfold readCounter
      split
      · exact .refl m
      · exact .log m _ _ _ (by decide)
    exact hread.trans (ih _)

theorem poll_receives (m : Machine) : m.Receives m.poll [] := by
  have hmetrics : ∀ (t : Telemetry) (c : Counters),
      Telemetry.ofConsumer { t with metrics := t.metrics ++ Metrics.kernelFrames c } = t.ofConsumer := by
    intro t c
    simp [Telemetry.ofConsumer, Metrics.kernelFrames, Outcome.all, Metrics.kernelFramesTotal,
      Metrics.eventsConsumedTotal]
  have hread := readCounters_receives Outcome.all m
  unfold poll
  generalize readCounters Outcome.all m = read at hread ⊢
  exact hread.trans ⟨.refl _, hmetrics _ _⟩

theorem pollTask_receives (t : Task) (m : Machine) : m.Receives (pollTask t m).2 [] := by
  have htimes : ∀ n (m : Machine), m.Receives (m.pollTimes n) [] := by
    intro n
    induction n with
    | zero => exact .refl
    | succ n ih => exact fun m => (poll_receives m).trans (ih m.poll)
  unfold pollTask
  split
  · exact htimes _ m
  · exact .refl m

theorem eachTask_receives {turn : Task → Machine → Task × Machine} (hturn : ∀ t m, Receives m (turn t m).2 [])
    (m : Machine) : m.Receives (m.eachTask turn) [] :=
  (turns_induct (I := fun m' => m.Receives m' []) (R := fun _ _ => True) m.engine.tasks
    (fun t _ m' h => ⟨h.trans (hturn t m'), trivial⟩) (.refl m)).1

theorem settle_receives (m : Machine) : m.Receives m.settle m.settleCommits :=
  ((eachTask_receives beginTask_receives m).trans (eachTask_receives pollTask_receives _)).trans (turns_receives _ _)

/-- When its queue is closed, a settling engine leaves it as it is. -/
theorem settle_of_closed (hq : m.queue.closed = true) : m.settle.queue = m.queue :=
  (settle_receives m).queue.eq_of_closed hq

end Machine
end FrameSentry
