import FrameSentry.Daemon.Orchestrator
import FrameSentry.Proofs.Daemon.Commits
import FrameSentry.Proofs.Engine.Lifecycle

/-! A daemon that shuts down handles everything that was committed, and each event once. Up to then producers commit
    and the consumer's task, when the daemon has started, handles events, in any order; what was committed is at every
    moment what was handled followed by what is queued. The shutdown stops the engine, and then, whether the task picks
    the events that are ready or the signal, it handles the rest and leaves a closed and empty queue, which stays so. -/

namespace FrameSentry

/-- A start commits nothing, and none of what it tells is told as the consumer tells. -/
theorem Machine.start_receives (h : Host) (m : Machine) : m.Receives (m.start h).2 [] := by
  constructor
  case queue =>
    rw [(m.start_same h).queue]
    exact .refl _
  case told =>
    obtain ⟨entries, htold, hentries⟩ := start_told h m
    have hnone : entries.filter (fun x => x.component = .consumer) = [] := by
      rw [List.filter_eq_nil_iff]
      intro x hx
      rcases hentries x hx with hx | hx <;> simp [hx]
    show (m.start h).2.telemetry.ofConsumer = m.telemetry.ofConsumer
    rw [htold]
    simp [Telemetry.ofConsumer, hnone]

namespace Orchestrator

/-! ### Building -/

/-- A daemon that is built has an engine just if its configuration, which is valid, enables it. -/
theorem build_ok {exporter : Exporter} {c : Config} {fs : Files} {t t' : Telemetry} {o : Orchestrator}
    (hb : build exporter c fs t = (.ok o, t')) :
    c.validate = .ok () ∧ ∃ t₁,
      (c.engine.enabled = false ∧ o = around c none t₁) ∨
        (c.engine.enabled = true ∧ ∃ rules e,
          Engine.build (some (List.foldl EngineSettings.addRule (.ofConfig c) rules)) none .telling = .ok e ∧
            o = around c (some e) t₁) := by
  unfold build at hb
  split at hb
  · cases hb
  rename_i hvalid
  split at hb
  · cases hb
  split at hb
  · cases hb
  rename_i engine t₁ hchoose
  cases hb
  refine ⟨hvalid, t₁, ?_⟩
  unfold chooseEngine at hchoose
  split at hchoose
  · rename_i henabled
    split at hchoose
    · cases hchoose
    rename_i hbuild
    unfold buildEngine at hbuild
    split at hbuild
    · cases hbuild
    split at hbuild
    · cases hbuild
    rename_i hengine
    cases hbuild
    cases hchoose
    exact Or.inr ⟨henabled, _, _, hengine, rfl⟩
  · rename_i hdisabled
    cases hchoose
    exact Or.inl ⟨by simpa using hdisabled, rfl⟩

/-! ### Moves -/

/-- What can happen to a daemon: a step of the orchestrator at a host; a call of whoever has a hook or the reader's end
    of the queue; or that the consumer's task handles one event. The last two are what a step comes to in smaller parts,
    so that with them each party can go on while another is in the middle of its work. -/
inductive Move where
  | step (h : Host) (s : OrchestratorStep)
  | call (s : SessionStep)
  | handle

/-- The consumer's task, if it waits, handles the oldest event, if there is one. -/
def handleOne (o : Orchestrator) : Orchestrator :=
  match o.consumer, o.machine with
  | .task (.waiting n), some m =>
    match m.engine.session.handleNext? with
    | some session =>
      { o with machine := some (m.setEngine { m.engine with session }), consumer := .task (.waiting (n + 1)) }
    | none => o
  | _, _ => o

def move (o : Orchestrator) : Move → Orchestrator
  | .step h s => (o.step h s).2
  | .call s => o.onMachine fun m => (m.onSession s).2
  | .handle => o.handleOne

/-- The daemon after some moves. -/
def perform (o : Orchestrator) (moves : List Move) : Orchestrator := moves.foldl move o

/-- What the tasks of the engine commit when everything settles. The consumer commits nothing. -/
def settleCommits (o : Orchestrator) : List Event := (o.machine.map fun m => m.settleCommits).getD []

/-- What a move commits. -/
def moveCommits (o : Orchestrator) : Move → List Event
  | .step _ .settle => o.settleCommits
  | .step _ (.tick seconds) => o.settleCommits ++ (o.settle.onMachine (·.pass seconds)).settleCommits
  | .step _ _ => []
  | .call s => (o.machine.map fun m => m.engine.session.commits m.engine.hookSettings s).getD []
  | .handle => []

/-- Every event whose commit succeeds in a run, in order. -/
def commits : Orchestrator → List Move → List Event
  | _, [] => []
  | o, x :: rest => o.moveCommits x ++ commits (o.move x) rest

namespace Move

/-- The move is not one of the receiver, which the consumer's task has for itself. -/
def Outside (x : Move) : Prop := ∀ r, x ≠ .call (.consume r)

/-- The move can happen before the shutdown. -/
structure Before (x : Move) : Prop where
  outside : x.Outside
  running : ∀ h picks, x ≠ .step h (.shutDown picks)

theorem before_step {h : Host} {s : OrchestratorStep} (hs : ∀ picks, s ≠ .shutDown picks) : (step h s).Before where
  outside _ hx := by cases hx
  running _ picks hx := by
    cases hx
    exact hs picks rfl

end Move

/-- The consumer's task waits, after it has handled some events; or the daemon has not started, and there is no task. -/
def Awaits (started : Bool) (handled : Nat) (slot : ConsumerSlot) : Prop :=
  slot = .task (.waiting handled) ∨ started = false ∧ handled = 0 ∧ slot = .held

variable {o₀ o o' : Orchestrator} {started : Bool} {m m' : Machine} {ledger handled added : List Event}

/-- The consumer's task takes its turn after those of the engine. -/
theorem settle_of_machine (hm : o.machine = some m) : o.settle =
    let (consumer, session) := runConsumer o.consumer m.settle.engine.session
    { o with machine := some (m.settle.setEngine { m.settle.engine with session }), consumer } := by
  unfold settle
  rw [hm]

/-! ### Before the shutdown -/

/-- A daemon before its shutdown, and how it was built. What was committed since is what the consumer handled, of which
    it told, followed by what is queued; the queue is open, and its budget is that of the configuration. -/
structure Serving (o₀ : Orchestrator) (started : Bool) (ledger : List Event) (o : Orchestrator) (m : Machine)
    (handled : List Event) : Prop where
  machine : o.machine = some m
  consumer : Awaits started handled.length o.consumer
  opened : m.queue.closed = false
  capacity : m.queue.capacity = o₀.config.capture.ringBufferSize
  budget : m.queue.free = m.queue.capacity
  committed : ledger = handled ++ m.queue.events
  told : m.telemetry.ofConsumer = o₀.telemetry.ofConsumer.append (Event.tellings handled)

namespace Serving

theorem receives (hs : o₀.Serving started ledger o m handled) (hr : m.Receives m' added)
    (hmachine : o'.machine = some m') (hconsumer : Awaits started handled.length o'.consumer) :
    o₀.Serving started (ledger ++ added) o' m' handled := by
  refine ⟨hmachine, hconsumer, hr.queue.closed.trans hs.opened, hr.queue.capacity.trans hs.capacity, ?_, ?_,
    hr.told.trans hs.told⟩
  · exact (hr.queue.free.trans hs.budget).trans hr.queue.capacity.symm
  · rw [hs.committed, List.append_assoc]
    exact congrArg (handled ++ ·) hr.queue.events.symm

theorem keeps (hs : o₀.Serving started ledger o m handled) (hr : m.Receives m' []) (hmachine : o'.machine = some m')
    {begun : Bool} (hconsumer : Awaits begun handled.length o'.consumer) :
    o₀.Serving begun ledger o' m' handled := by
  have hbegun : o₀.Serving begun ledger { o with consumer := o'.consumer } m handled :=
    { hs with consumer := hconsumer }
  rw [← List.append_nil ledger]
  exact hbegun.receives hr hmachine hconsumer

theorem handles (hs : o₀.Serving started ledger o m handled) {session : Session} {events : List Event}
    (hh : m.engine.session.Handles session events)
    (hmachine : o'.machine = some (m.setEngine { m.engine with session }))
    (hconsumer : o'.consumer = .task (.waiting (handled.length + events.length))) :
    o₀.Serving started ledger o' (m.setEngine { m.engine with session }) (handled ++ events) := by
  refine ⟨hmachine, Or.inl (by rw [hconsumer, List.length_append]), hh.closed.trans hs.opened,
    hh.capacity.trans hs.capacity, ?_, ?_, ?_⟩
  · exact (hh.free.trans hs.budget).trans hh.capacity.symm
  · rw [hs.committed, List.append_assoc]
    exact congrArg (handled ++ ·) hh.queued
  · rw [← Telemetry.append_tellings, ← Telemetry.append_assoc, ← hs.told]
    exact hh.told

theorem settle (hs : o₀.Serving started ledger o m handled) :
    ∃ m' handled', o₀.Serving started (ledger ++ o.settleCommits) o.settle m' handled' := by
  have hengine : o₀.Serving started (ledger ++ m.settleCommits) { o with machine := some m.settle } m.settle handled :=
    hs.receives m.settle_receives rfl hs.consumer
  have hcommits : o.settleCommits = m.settleCommits := by
    unfold settleCommits
    rw [hs.machine]
    rfl
  rw [hcommits, settle_of_machine hs.machine]
  -- The task handles what the engine has just committed too; without a task it stays in the queue.
  rcases hs.consumer with hslot | ⟨-, -, hslot⟩ <;> rw [hslot]
  · obtain ⟨session, hhandles, hrun⟩ := Consumer.run_waiting (n := handled.length) hengine.opened
    simp only [runConsumer, hrun]
    exact ⟨_, _, hengine.handles hhandles rfl rfl⟩
  · have hconsumer := hs.consumer
    rw [hslot] at hconsumer
    exact ⟨m.settle, handled, hengine.keeps (.refl _) rfl hconsumer⟩

theorem handleOne (hs : o₀.Serving started ledger o m handled) :
    ∃ m' handled', o₀.Serving started ledger o.handleOne m' handled' := by
  unfold Orchestrator.handleOne
  rcases hs.consumer with hslot | ⟨-, -, hslot⟩
  · rw [hslot, hs.machine]
    simp only
    split
    · obtain ⟨e, -, hhandles⟩ := Session.handleNext?_some (by assumption)
      exact ⟨_, _, hs.handles hhandles rfl rfl⟩
    · exact ⟨m, handled, hs⟩
  · rw [hslot]
    exact ⟨m, handled, hs⟩

/-- A start changes nothing of what was committed, and once one succeeds there is a consumer's task. -/
theorem start (hs : o₀.Serving started ledger o m handled) (h : Host) :
    ∃ m', o₀.Serving started ledger (o.start h).2 m' handled ∧
      ((o.start h).1 = .ok () → o₀.Serving true ledger (o.start h).2 m' handled) := by
  have hreceives := m.start_receives h
  unfold Orchestrator.start
  rw [hs.machine]
  rcases hm : m.start h with ⟨e | _, m'⟩ <;> rw [hm] at hreceives <;> simp only [hm]
  · exact ⟨m', hs.keeps hreceives rfl hs.consumer, by simp⟩
  · have hserving : ∀ begun slot, slot = ConsumerSlot.task (.waiting handled.length) →
        o₀.Serving begun ledger { o with machine := some m', consumer := slot } m' handled :=
      fun _ _ hslot => hs.keeps hreceives rfl (Or.inl hslot)
    -- The first start makes the task, and a later one finds it.
    rcases hs.consumer with hslot | ⟨-, hn, hslot⟩ <;> simp only [hslot]
    · exact ⟨m', hserving _ _ rfl, fun _ => hserving _ _ rfl⟩
    · have hfirst : ConsumerSlot.task (.waiting 0) = .task (.waiting handled.length) := by rw [hn]
      exact ⟨m', hserving _ _ hfirst, fun _ => hserving _ _ hfirst⟩

theorem onMachine (hs : o₀.Serving started ledger o m handled) (f : Machine → Machine) (hr : m.Receives (f m) added) :
    o₀.Serving started (ledger ++ added) (o.onMachine f) (f m) handled :=
  hs.receives hr (by rw [Orchestrator.onMachine, hs.machine]; rfl) hs.consumer

theorem inject (hs : o₀.Serving started ledger o m handled) (packet : Frame) (d : Direction) (cpu : Nat) :
    ∃ m', o₀.Serving started ledger (o.inject packet d cpu).2 m' handled := by
  have hreceives : m.Receives (m.inject packet d cpu).2 [] := .refl m
  unfold Orchestrator.inject
  rw [hs.machine]
  exact ⟨_, hs.keeps hreceives rfl hs.consumer⟩

theorem tick (hs : o₀.Serving started ledger o m handled) (h : Host) (seconds : Nat) : ∃ m' handled',
    o₀.Serving started (ledger ++ o.moveCommits (.step h (.tick seconds))) (o.tick seconds) m' handled' := by
  obtain ⟨m₁, handled₁, hs₁⟩ := hs.settle
  have hpass := hs₁.onMachine (·.pass seconds) (.refl m₁)
  rw [List.append_nil] at hpass
  obtain ⟨m₂, handled₂, hs₂⟩ := hpass.settle
  rw [List.append_assoc] at hs₂
  exact ⟨m₂, handled₂, hs₂⟩

theorem move (hs : o₀.Serving started ledger o m handled) {x : Move} (hx : x.Before) :
    ∃ m' handled', o₀.Serving started (ledger ++ o.moveCommits x) (o.move x) m' handled' := by
  have hquiet {o' m' handled'} (hs' : o₀.Serving started ledger o' m' handled') :
      o₀.Serving started (ledger ++ []) o' m' handled' := by
    rwa [List.append_nil]
  cases x with
  | step h s =>
    cases s with
    | start =>
      obtain ⟨m', hs', -⟩ := hs.start h
      exact ⟨m', handled, hquiet hs'⟩
    | shutDown picks => exact absurd rfl (hx.running h picks)
    | health => exact ⟨m, handled, hquiet hs⟩
    | inject packet d cpu =>
      obtain ⟨m', hs'⟩ := hs.inject packet d cpu
      exact ⟨m', handled, hquiet hs'⟩
    | sample bytes => exact ⟨_, handled, hs.onMachine _ (.refl m)⟩
    | disturb c reason => exact ⟨_, handled, hs.onMachine _ (.refl m)⟩
    | failSocket load reason => exact ⟨_, handled, hs.onMachine _ (.refl m)⟩
    | settle => exact hs.settle
    | tick seconds => exact hs.tick h seconds
  | call s =>
    have hcall : m.Receives (m.onSession s).2 (m.engine.session.commits m.engine.hookSettings s) :=
      m.engine.session.step_receives m.engine.hookSettings fun r hr => hx.outside r (congrArg Move.call hr)
    have hcommits : o.moveCommits (.call s) = m.engine.session.commits m.engine.hookSettings s := by
      unfold moveCommits
      rw [hs.machine]
      rfl
    rw [hcommits]
    exact ⟨_, handled, hs.onMachine _ hcall⟩
  | handle =>
    obtain ⟨m', handled', hs'⟩ := hs.handleOne
    exact ⟨m', handled', hquiet hs'⟩

/-- However the moves interleave, what they commit is handled in its order. -/
theorem perform (hs : o₀.Serving started ledger o m handled) {moves : List Move} (hmoves : ∀ x ∈ moves, x.Before) :
    ∃ m' handled', o₀.Serving started (ledger ++ o.commits moves) (o.perform moves) m' handled' := by
  induction moves generalizing o m handled ledger with
  | nil => exact ⟨m, handled, by rw [commits, List.append_nil]; exact hs⟩
  | cons x rest ih =>
    obtain ⟨m₁, handled₁, hs₁⟩ := hs.move (hmoves x List.mem_cons_self)
    obtain ⟨m₂, handled₂, hs₂⟩ := ih hs₁ fun y hy => hmoves y (List.mem_cons_of_mem _ hy)
    rw [List.append_assoc] at hs₂
    exact ⟨m₂, handled₂, hs₂⟩

theorem around {c : Config} {e : Engine} (hqueue : e.session.hooks.queue = .create c.capture.ringBufferSize)
    (hring : c.capture.ringBufferSize ≤ Config.ringBufferBound) (t : Telemetry) :
    ∃ m, (around c (some e) t).Serving false [] (around c (some e) t) m [] := by
  have hcapacity : min c.capture.ringBufferSize Queue.capacityLimit = c.capture.ringBufferSize :=
    Nat.min_eq_left (Nat.le_trans hring (by decide))
  refine ⟨_, rfl, Or.inr ⟨rfl, rfl, rfl⟩, ?_, ?_, ?_, ?_, (Telemetry.append_tellings_nil _).symm⟩
  · exact congrArg Queue.closed hqueue
  · exact (congrArg Queue.capacity hqueue).trans hcapacity
  · exact (congrArg Queue.free hqueue).trans (congrArg Queue.capacity hqueue).symm
  · exact congrArg Queue.events hqueue.symm

/-- A daemon that is built with the engine enabled serves from then on. -/
theorem built {exporter : Exporter} {c : Config} {fs : Files} {t t' : Telemetry}
    (hb : build exporter c fs t = (.ok o, t')) (henabled : c.engine.enabled = true) : o.config = c ∧ c.capture.ringBufferSize ≤ Config.ringBufferBound ∧
      ∃ m, o.Serving false [] o m [] := by
  obtain ⟨hvalid, t₁, ⟨hdisabled, -⟩ | ⟨-, rules, e, hengine, rfl⟩⟩ := build_ok hb
  · rw [henabled] at hdisabled
    cases hdisabled
  · have hring := Config.validate_ring hvalid
    refine ⟨rfl, hring, around ?_ hring _⟩
    rw [Engine.build_session hengine, EngineSettings.addRule_capture]
    rfl

end Serving

/-! ### The shutdown -/

/-- What the consumer's task returns when the daemon is shut down. -/
def consumed (picks : List Bool) (o : Orchestrator) : Option Nat :=
  o.machine.bind fun m => (endConsumer picks o.consumer (stopEngine m).2.engine.session).1

/-- The queue of the engine, if there is one. -/
def queue? (o : Orchestrator) : Option Queue := o.machine.map fun m => m.queue

/-- The consumer is gone, and the queue closed. -/
structure Over (q : Queue) (o : Orchestrator) : Prop where
  queue : o.queue? = some q
  consumer : o.consumer = .gone
  closed : q.closed = true

/-- The log entry that tells of the end of the consumer's task. -/
def finishedEntry (consumed : Nat) : LogEntry :=
  ⟨.orchestrator, .info, "capture consumer finished", [("consumed", .number consumed)]⟩

theorem stopEngine_receives (m : Machine) : (stopEngine m).1 = .ok () ∧ m.Receives (stopEngine m).2 [] := by
  unfold stopEngine Machine.stop
  cases m.engine.running with
  | true => exact ⟨rfl, .log m _ _ _ (by decide)⟩
  | false => exact ⟨rfl, .refl m⟩

/-- Whatever the consumer's task picks before the signal, in the end it handled what was committed. -/
theorem Serving.shutDown (hs : o₀.Serving true ledger o m handled) (picks : List Bool) :
    (o.shutDown picks).1 = .ok () ∧ o.consumed picks = some ledger.length ∧
      (o.shutDown picks).2.telemetry.logs.getLast? = some (finishedEntry ledger.length) ∧
      (o.shutDown picks).2.telemetry.ofConsumer = o₀.telemetry.ofConsumer.append
        ((Event.tellings ledger).append ⟨[Consumer.drainedEntry ledger.length], []⟩) ∧
      ∃ q, Over q (o.shutDown picks).2 ∧ q.events = [] ∧ q.available = q.capacity ∧
        q.capacity = o₀.config.capture.ringBufferSize := by
  have hslot : o.consumer = .task (.waiting handled.length) :=
    hs.consumer.resolve_right fun ⟨hfalse, _⟩ => absurd hfalse nofun
  obtain ⟨hstopped, hqueue, htold⟩ := stopEngine_receives m
  generalize hstop : stopEngine m = stopped at hstopped hqueue htold
  obtain ⟨_, m₁⟩ := stopped
  cases hstopped
  obtain ⟨hcount, hfinished⟩ := Consumer.shutDown_finished picks handled.length m₁.engine.session
  -- The stopped engine has the queue that it ran with.
  have hledger : handled ++ m₁.engine.session.hooks.queue.events = ledger := by
    rw [hs.committed, hqueue.events, List.append_nil]
    rfl
  rw [← List.length_append, hledger] at hcount hfinished
  generalize hdrained : Consumer.shutDown picks handled.length m₁.engine.session = result at hcount hfinished
  obtain ⟨n, session⟩ := result
  subst hcount
  have hend : endConsumer picks o.consumer m₁.engine.session = (some ledger.length, .gone, session) := by
    rw [hslot, endConsumer, hdrained]
  let o₁ : Orchestrator := { o with machine := some (m₁.setEngine { m₁.engine with session }), consumer := .gone }
  have hshut : o.shutDown picks =
      (.ok (), o₁.log .info "capture consumer finished" [("consumed", .number ledger.length)]) := by
    unfold Orchestrator.shutDown
    simp only [hs.machine, hstop, hend]
    rfl
  have hcapacity : session.hooks.queue.capacity = m.queue.capacity := hfinished.capacity.trans hqueue.capacity
  rw [hshut]
  refine ⟨rfl, ?_, List.getLast?_concat, ?_, session.hooks.queue, ⟨rfl, rfl, hfinished.closed⟩, hfinished.empty, ?_,
    hcapacity.trans hs.capacity⟩
  · unfold consumed
    rw [hs.machine, Option.bind_some, hstop, hend]
  · have hbefore : m₁.engine.session.hooks.telemetry.ofConsumer =
        o₀.telemetry.ofConsumer.append (Event.tellings handled) := htold.trans hs.told
    have hlog : (o₁.log .info "capture consumer finished" [("consumed", .number ledger.length)]).telemetry.ofConsumer =
        session.hooks.telemetry.ofConsumer := Telemetry.ofConsumer_log _ (by decide) _ _ _
    rw [hlog, hfinished.told, hbefore, Telemetry.append_assoc, ← Telemetry.append_assoc (Event.tellings handled),
      Telemetry.append_tellings, hledger]
  · exact hfinished.available.trans (hqueue.free.trans (hs.budget.trans hcapacity.symm))

/-! ### After the shutdown -/

namespace Over
variable {q : Queue}

theorem receives (ho : Over q o) (hm : o.machine = some m) (hr : m.Receives m' added) (hmachine : o'.machine = some m')
    (hconsumer : o'.consumer = .gone) : Over q o' := by
  have hqueue : m.queue = q := by
    have hqueue := ho.queue
    rw [queue?, hm] at hqueue
    exact Option.some.inj hqueue
  have hsame : m'.queue = m.queue := hr.queue.eq_of_closed ((congrArg Queue.closed hqueue).trans ho.closed)
  exact ⟨by rw [queue?, hmachine, Option.map_some, hsame, hqueue], hconsumer, ho.closed⟩

theorem machine (ho : Over q o) : ∃ m, o.machine = some m := by
  obtain ⟨m, hm, -⟩ := Option.map_eq_some_iff.mp ho.queue
  exact ⟨m, hm⟩

theorem onMachine (ho : Over q o) (f : Machine → Machine) (hf : ∀ m : Machine, ∃ added, m.Receives (f m) added) :
    Over q (o.onMachine f) := by
  obtain ⟨m, hm⟩ := ho.machine
  obtain ⟨added, hr⟩ := hf m
  exact ho.receives hm hr (by rw [Orchestrator.onMachine, hm]; rfl) ho.consumer

theorem start (ho : Over q o) (h : Host) : Over q (o.start h).2 := by
  obtain ⟨m, hm⟩ := ho.machine
  have hreceives := m.start_receives h
  unfold Orchestrator.start
  rcases hstart : m.start h with ⟨e | _, m'⟩ <;> rw [hstart] at hreceives <;> simp only [hm, hstart, ho.consumer]
  · exact ho.receives hm hreceives rfl rfl
  · exact ho.receives hm hreceives rfl rfl

theorem shutDown (ho : Over q o) (picks : List Bool) : Over q (o.shutDown picks).2 := by
  obtain ⟨m, hm⟩ := ho.machine
  have hend : ∀ x, endConsumer picks .gone x = (none, .gone, x) := fun _ => rfl
  unfold Orchestrator.shutDown
  simp only [hm, ho.consumer, hend]
  exact ho.receives hm (stopEngine_receives m).2 rfl rfl

theorem settle (ho : Over q o) : Over q o.settle := by
  obtain ⟨m, hm⟩ := ho.machine
  rw [settle_of_machine hm, ho.consumer]
  exact ho.receives hm m.settle_receives rfl rfl

theorem inject (ho : Over q o) (packet : Frame) (d : Direction) (cpu : Nat) : Over q (o.inject packet d cpu).2 := by
  obtain ⟨m, hm⟩ := ho.machine
  have hreceives : m.Receives (m.inject packet d cpu).2 [] := .refl m
  unfold Orchestrator.inject
  rw [hm]
  exact ho.receives hm hreceives rfl ho.consumer

/-- Nothing that happens puts an event into the queue or opens it, not even another start. -/
theorem move (ho : Over q o) {x : Move} (hx : x.Outside) : Over q (o.move x) := by
  cases x with
  | step h s =>
    cases s with
    | start => exact ho.start h
    | shutDown picks => exact ho.shutDown picks
    | health => exact ho
    | inject packet d cpu => exact ho.inject packet d cpu
    | sample bytes => exact ho.onMachine _ fun m => ⟨[], .refl m⟩
    | disturb c reason => exact ho.onMachine _ fun m => ⟨[], .refl m⟩
    | failSocket load reason => exact ho.onMachine _ fun m => ⟨[], .refl m⟩
    | settle => exact ho.settle
    | tick seconds => exact (ho.settle.onMachine (·.pass seconds) fun m => ⟨[], .refl m⟩).settle
  | call s =>
    exact ho.onMachine _ fun m =>
      ⟨_, m.engine.session.step_receives m.engine.hookSettings fun r hr => hx r (congrArg Move.call hr)⟩
  | handle =>
    unfold Orchestrator.move handleOne
    rw [ho.consumer]
    exact ho

theorem perform (ho : Over q o) {moves : List Move} (hmoves : ∀ x ∈ moves, x.Outside) : Over q (o.perform moves) := by
  induction moves generalizing o with
  | nil => exact ho
  | cons x rest ih =>
    exact ih (ho.move (hmoves x List.mem_cons_self)) fun y hy => hmoves y (List.mem_cons_of_mem _ hy)

end Over

/-- A shutdown drains everything that was committed, once. Take a daemon that was built with the engine enabled and, at
    whatever point, started, after which packets, samples, time, calls of the hooks and the consumer's task came in any
    order. When it is shut down, whatever the task picks before the signal, the task returns the number of events that
    were committed since the daemon was built. It told of each of these events once, in the order of the commits, and
    then that it is done. The queue is left empty and closed with its whole budget, and whatever happens then it stays
    so and refuses every reservation that its budget could serve, and every commit. -/
theorem shutdown_drains {exporter : Exporter} {c : Config} {fs : Files} {t t' : Telemetry} {o₁ : Orchestrator}
    {earlier moves : List Move} {h : Host} (hb : build exporter c fs t = (.ok o₀, t'))
    (henabled : c.engine.enabled = true)
    (hearlier : ∀ x ∈ earlier, x.Before) (hs : (o₀.perform earlier).start h = (.ok (), o₁))
    (hmoves : ∀ x ∈ moves, x.Before) (picks : List Bool) :
    let o := o₁.perform moves
    let committed := o₀.commits earlier ++ o₁.commits moves
    let o' := (o.shutDown picks).2
    (o.shutDown picks).1 = .ok () ∧ o.consumed picks = some committed.length ∧
      o'.telemetry.logs.getLast? = some (finishedEntry committed.length) ∧
      o'.telemetry.ofConsumer = o₀.telemetry.ofConsumer.append
        ((Event.tellings committed).append ⟨[Consumer.drainedEntry committed.length], []⟩) ∧
      ∃ q, o'.queue? = some q ∧ q.events = [] ∧ q.closed = true ∧ q.capacity = c.capture.ringBufferSize ∧
        q.available = q.capacity ∧
        ∀ later : List Move, (∀ x ∈ later, x.Outside) → (o'.perform later).queue? = some q ∧
          (∀ n ≤ q.capacity, q.reserve n = .error .closed) ∧ ∀ slot, (q.commit slot).1 = .error .closed := by
  intro o committed o'
  obtain ⟨hconfig, hring, m₀, hs₀⟩ := Serving.built hb henabled
  obtain ⟨m₁, handled₁, hs₁⟩ := hs₀.perform hearlier
  obtain ⟨m₂, -, hstarted⟩ := hs₁.start h
  rw [hs] at hstarted
  obtain ⟨m₃, handled₃, hs₃⟩ := (hstarted rfl).perform hmoves
  obtain ⟨hresult, hconsumed, hfinished, htold, q, hover, hempty, havailable, hcapacity⟩ := hs₃.shutDown picks
  rw [hconfig] at hcapacity
  have hlimit : q.capacity < Queue.reservationLimit := by
    rw [hcapacity]
    exact Nat.lt_of_le_of_lt hring (by decide)
  refine ⟨hresult, hconsumed, hfinished, htold, q, hover.queue, hempty, hover.closed, hcapacity, havailable,
    fun later hlater => ⟨(hover.perform hlater).queue, fun n hn => ?_, Queue.commit_of_closed hover.closed⟩⟩
  exact Queue.reserve_of_closed hover.closed hn (Nat.lt_of_le_of_lt hn hlimit)

/-- The standard configuration with the engine enabled, at the loopback interface. -/
def standardConfig : Config := { engine := { enabled := true, interface := "lo" } }

def standard : Orchestrator :=
  around standardConfig
    (some { Engine.standard .capture with settings := .ofConfig standardConfig, sink := .telling })
    (Telemetry.empty.log .orchestrator .info "frame engine built"
      [("mode", .text "capture"), ("interface", .text "lo"), ("watched_ports", .number 1)])

/-- Nothing stands against the recorder of metrics. -/
def standardExporter : Exporter := fun _ => none

theorem build_standard : build standardExporter standardConfig .empty .empty = (.ok standard, standard.telemetry) := by
  have hwatch : (EngineSettings.ofConfig standardConfig).watchList = .ok .standard := by
    unfold EngineSettings.watchList
    rw [show (EngineSettings.ofConfig standardConfig).ports = [8000] from rfl, WatchList.ofPorts_standard]
    rfl
  have hengine : Engine.build (some (.ofConfig standardConfig)) none .telling =
      .ok { Engine.standard .capture with settings := .ofConfig standardConfig, sink := .telling } := by
    unfold Engine.build
    simp only [show (EngineSettings.ofConfig standardConfig).mode = .ok .capture from rfl, hwatch]
    rfl
  have hvalid : standardConfig.validate = .ok () := rfl
  have hlisten : installListener standardExporter standardConfig .empty = (.ok (), .empty) := rfl
  have hrules : loadRules standardConfig .empty .empty = (.ok [], .empty) := rfl
  have henabled : standardConfig.engine.enabled = true := rfl
  simp only [build, hvalid, hlisten, chooseEngine, henabled, buildEngine, hrules, List.foldl_nil, hengine]
  rfl

/-- The first start finds no object. After the second a sample and three datagrams are committed; two of them are still
    queued at the shutdown, where the task picks one before the signal. -/
theorem shutdown_drains_datagrams :
    let h : Host := .holding .standard
    let o₁ := ((standard.perform [.step { h with object? := fun _ => none } .start]).start h).2
    let moves : List Move := [.step h (.sample ([42, 0, 0, 0] ++ Frame.datagram.data)), .step h .settle,
      .call (.onFrame .datagram), .handle, .call (.onFrame .datagram), .call (.onFrame .datagram)]
    let o := o₁.perform moves
    let e : Event := ⟨42, Frame.datagram.data, 46⟩
    (o.queue?.map fun q => q.events) = some [e, e] ∧ o.consumed [true] = some 4 ∧
      (o.shutDown [true]).2.telemetry.ofConsumer =
        (Event.tellings [e, e, e, e]).append ⟨[Consumer.drainedEntry 4], []⟩ ∧
      (o.shutDown [true]).2.queue? = some ⟨262144, 262144, true, []⟩ := by
  intro h o₁ moves o e
  have hearlier : ∀ x ∈ [Move.step { h with object? := fun _ => none } .start], x.Before := by
    simp only [List.forall_mem_singleton]
    exact Move.before_step nofun
  have hmoves : ∀ x ∈ moves, x.Before := by
    simp only [moves, List.forall_mem_cons]
    exact ⟨Move.before_step nofun, Move.before_step nofun, ⟨nofun, nofun⟩, ⟨nofun, nofun⟩, ⟨nofun, nofun⟩,
      ⟨nofun, nofun⟩, nofun⟩
  have hs : (standard.perform [.step { h with object? := fun _ => none } .start]).start h = (.ok (), o₁) :=
    Prod.ext rfl rfl
  have hcommits : standard.commits [.step { h with object? := fun _ => none } .start] ++ o₁.commits moves =
      [e, e, e, e] := by decide +kernel
  obtain ⟨-, hconsumed, -, htold, q, hqueue, hempty, hclosed, hcapacity, havailable, -⟩ :=
    shutdown_drains build_standard rfl hearlier hs hmoves [true]
  rw [hcommits] at hconsumed htold
  refine ⟨by decide +kernel, hconsumed, htold, ?_⟩
  obtain ⟨capacity, available, closed, events⟩ := q
  cases hempty
  cases hclosed
  cases hcapacity
  cases havailable
  exact hqueue

end Orchestrator
end FrameSentry
