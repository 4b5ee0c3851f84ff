import FrameSentry.Proofs.Daemon.Commits
import FrameSentry.Proofs.Engine.Lifecycle

/-! Two ways of a frame into the queue. An observer in the kernel copies a matching frame into a record of the
    ring, as much of it as a record can hold, and when the machine settles the reader forwards the record, cut
    to the limit of the engine; the observing hook puts the frame, cut to that limit, into the queue at once.
    After a start without faults the two ways are interchangeable: whatever the consumer does in between, the
    queue is the same after every step. The invariant is that while the queue is open the ring is empty between
    two steps and a task listens to it; when the queue is closed, neither way changes it any more. -/

namespace FrameSentry

/-- Only one of the two observers sees a packet, whichever way it passes. -/
theorem Kernel.inject_observers {k : Kernel} {interface : String} (hk : k.links = Mode.capture.links interface)
    (packet : Frame) (d : Direction) (cpu : Nat) :
    (k.inject packet d cpu).2 = { k with maps := k.maps.observe packet cpu } := by
  unfold inject
  cases d with
  | ingress =>
    have hseen : (k.links.filter fun l => l.point.sees .ingress) = [⟨.tcIngress, .ingress interface⟩] := by
      simp [hk, Mode.links, AttachPoint.sees]
    rw [hseen]
    rfl
  | egress =>
    have hseen : (k.links.filter fun l => l.point.sees .egress) = [⟨.tcEgress, .egress interface⟩] := by
      simp [hk, Mode.links, AttachPoint.sees]
    rw [hseen]
    rfl

namespace Machine
variable {m : Machine}

/-! ### Between two steps -/

/-- The ring in use is empty and has room for a record, a task listens to it, and no task finds anything elsewhere. -/
structure Clear (m : Machine) : Prop where
  records : m.kernel.maps.ring.records = []
  outstanding : m.kernel.maps.ring.outstanding = 0
  room : Ring.cost Record.size < m.kernel.maps.ring.size
  listens : ∃ t ∈ m.engine.tasks, t.Listens (.readRing m.kernel.loads)
  spent : ∀ t ∈ m.engine.tasks, t.Spent m.kernel

theorem Clear.fits (hc : m.Clear) : m.kernel.maps.ring.fits Record.size = true := by
  unfold Ring.fits
  rw [hc.outstanding, Nat.zero_add]
  exact decide_eq_true hc.room

/-- The observers are linked and watch the engine's ports, no socket is open, and while the queue is open the ring is
    clear. -/
structure Observing (m : Machine) : Prop where
  watched : m.kernel.maps.watched = m.engine.watch.ports
  links : ∃ interface, m.kernel.links = Mode.capture.links interface
  serves : m.kernel.Serves (.readRing m.kernel.loads)
  deaf : ∀ load, m.opened load = false
  clear : m.queue.closed = false → m.Clear

/-- The machine after an observer has run. -/
def observed (m : Machine) (packet : Frame) (cpu : Nat) : Machine :=
  { m with kernel := { m.kernel with maps := m.kernel.maps.observe packet cpu } }

theorem Observing.inject_eq (ho : m.Observing) (packet : Frame) (d : Direction) (cpu : Nat) :
    (m.inject packet d cpu).2 = m.observed packet cpu := by
  obtain ⟨interface, hlinks⟩ := ho.links
  have hdeaf : ∀ load, m.opened load = true → m.kernel.unfiltered load = false := fun load hopened =>
    absurd hopened (by simp [ho.deaf load])
  rw [inject_of_filtered hdeaf, Kernel.inject_observers hlinks]
  rfl

/-- A whole frame that an observer sees is in the queue when the machine has settled, if it is to be, and the ring
    is clear again. -/
theorem Observing.deposits (ho : m.Observing) {packet : Frame} (hw : packet.Whole) (cpu : Nat) :
    (m.observed packet cpu).settle.queue = m.engine.hookSettings.deposit packet m.queue ∧
      (m.queue.closed = false → (m.observed packet cpu).settle.Clear) := by
  obtain ⟨ring, counters, log, hobserve, hmissed, hseen⟩ := m.kernel.maps.observe_eq packet cpu
  rw [ho.watched] at hmissed hseen
  have hmaps : (m.observed packet cpu).kernel.maps = { m.kernel.maps with ring, counters, log } := hobserve
  cases hq : m.queue.closed with
  | true =>
    -- The reader may have ended and records may pile up in the ring; the queue does not change either way.
    have hkept : (m.observed packet cpu).settle.queue = m.queue := settle_of_closed (m := m.observed packet cpu) hq
    exact ⟨by rw [hkept, HookSettings.deposit_of_closed _ _ hq], nofun⟩
  | false =>
    have hclear := ho.clear hq
    have hspent : ∀ t ∈ (m.observed packet cpu).engine.tasks, t.Spent (m.observed packet cpu).kernel := fun t ht =>
      (hclear.spent t ht).congr rfl fun load hload => Kernel.outlet_of_former rfl hload
    have hlistens : ∀ {tasks : List Task}, (∃ t ∈ tasks, t.Waits (.readRing m.kernel.loads)) →
        ∃ t ∈ tasks, t.Listens (.readRing m.kernel.loads) := fun ⟨t, ht, hwaits⟩ => ⟨t, ht, hwaits.listens⟩
    unfold HookSettings.deposit
    cases hmatched : (packet.classification.matched? m.engine.hookSettings.ports).isSome with
    | false =>
      have hring : (m.observed packet cpu).kernel.maps.ring = m.kernel.maps.ring := by
        rw [hmaps]
        exact hmissed.resolve_right fun hput => Bool.false_ne_true (hmatched.symm.trans hput.1)
      obtain ⟨_, tasks, ⟨t, polled, rfl⟩, hsettle, hwaits, hspent⟩ := settle_empty (m := m.observed packet cpu)
        ho.serves (by rw [hring]; exact hclear.records) hspent
      rw [hsettle]
      refine ⟨rfl, fun _ => ?_⟩
      constructor
      case records => exact (congrArg Ring.records hring).trans hclear.records
      case outstanding => exact (congrArg Ring.outstanding hring).trans hclear.outstanding
      case room => exact Nat.lt_of_lt_of_eq hclear.room (congrArg Ring.size hring).symm
      case listens => exact hlistens (hwaits hclear.listens)
      case spent => exact hspent
    | true =>
      have hring : (m.observed packet cpu).kernel.maps.ring = m.kernel.maps.ring.push packet.recorded := by
        rw [hmaps]
        exact hseen hmatched hclear.fits hw
      have hrecords : (m.observed packet cpu).kernel.maps.ring.records = [packet.recorded] := by
        rw [hring, Ring.push, hclear.records, List.nil_append]
      obtain ⟨_, tasks, ⟨t, polled, rfl⟩, hsettle, hwaits, hspent⟩ := settle_forwarded (m := m.observed packet cpu)
        ho.serves hw hq hrecords hspent hclear.listens
      have hleft := ((m.observed packet cpu).told t polled).forwarded_ring packet.recorded
      have hloads := ((m.observed packet cpu).told t polled).loads_forwarded packet.recorded
      rw [hsettle]
      refine ⟨HookSettings.forward_queue _ hw _, fun _ => ?_⟩
      constructor
      case records => exact congrArg Ring.records hleft
      case outstanding =>
        refine (congrArg Ring.outstanding hleft).trans ?_
        show (m.observed packet cpu).kernel.maps.ring.outstanding - Ring.cost packet.recorded.length = 0
        rw [hring, Ring.push, hclear.outstanding, Nat.zero_add, Nat.sub_self]
      case room =>
        have hsize : (m.observed packet cpu).kernel.maps.ring.size = m.kernel.maps.ring.size := by rw [hring, Ring.push]
        exact Nat.lt_of_lt_of_eq hclear.room ((congrArg Ring.size hleft).trans hsize).symm
      case listens => exact hloads.symm ▸ hlistens hwaits
      case spent => exact fun t ht => forwarded_spent (hspent t ht) packet.recorded

end Machine

/-! ### Runs -/

/-- A whole frame passes the interface, or the consumer does something. -/
inductive CaptureStep where
  | frame (packet : Frame) (whole : packet.Whole) (direction : Direction) (cpu : Nat)
  | consume (step : ReceiverStep)

/-- A step by way of the kernel: an observer sees the frame, and the machine settles. -/
def Machine.viaKernel (host : Host) (m : Machine) : CaptureStep → Machine
  | .frame packet _ direction cpu => ((m.step host (.inject packet direction cpu)).2.step host .settle).2
  | .consume s => (m.step host (.consume s)).2

/-- The same step by way of the observing hook. -/
def Session.viaHook (h : HookSettings) (x : Session) : CaptureStep → Session
  | .frame packet _ _ _ => (x.step h (.onFrame packet)).2
  | .consume s => (x.step h (.consume s)).2

/-- The two ways have come equally far. -/
structure Paired (h : HookSettings) (m : Machine) (x : Session) : Prop where
  observing : m.Observing
  ports : m.engine.watch.ports = h.ports
  limit : m.engine.settings.capture.maxCapture = h.maxCapture
  queue : m.queue = x.hooks.queue
  receiver : m.engine.session.receiver = x.receiver

namespace Paired
variable {h : HookSettings} {m : Machine} {x : Session}

theorem frame (hp : Paired h m x) (host : Host) {packet : Frame} (hw : packet.Whole) (d : Direction) (cpu : Nat) :
    Paired h (m.viaKernel host (.frame packet hw d cpu)) (x.viaHook h (.frame packet hw d cpu)) := by
  obtain ⟨hobserving, hports, hlimit, hqueue, hreceiver⟩ := hp
  have hkernel : m.viaKernel host (.frame packet hw d cpu) = (m.observed packet cpu).settle :=
    congrArg Machine.settle (hobserving.inject_eq packet d cpu)
  obtain ⟨hdeposit, hclear⟩ := hobserving.deposits hw cpu
  obtain ⟨ring, counters, log, hmaps, -, -⟩ := m.kernel.maps.observe_eq packet cpu
  have hwatched : (m.observed packet cpu).kernel.maps.watched = m.engine.watch.ports :=
    (congrArg KernelMaps.watched hmaps).trans hobserving.watched
  have hsettles := Machine.Settles.settle (m.observed packet cpu)
  have hdeaf : ∀ load, (m.observed packet cpu).settle.opened load = false := fun load =>
    Bool.eq_false_iff.mpr fun hopened => Bool.eq_false_iff.mp (hobserving.deaf load) (hsettles.opened hopened)
  obtain ⟨_, tasks, ⟨_, _, _, rfl⟩, hsettle, -⟩ := hsettles
  have hsame : m.engine.hookSettings.deposit packet m.queue = h.deposit packet x.hooks.queue := by
    unfold HookSettings.deposit HookSettings.copyLength
    rw [hqueue, show m.engine.hookSettings.ports = h.ports from hports,
      show m.engine.hookSettings.maxCapture = h.maxCapture from hlimit]
  rw [hkernel]
  constructor
  case queue => rw [hdeposit, hsame, ← h.onFrame_queue hw]; rfl
  case ports => rw [hsettle]; exact hports
  case limit => rw [hsettle]; exact hlimit
  case receiver => rw [hsettle]; exact hreceiver
  case observing =>
    constructor
    case watched => rw [hsettle]; exact hwatched
    case links => rw [hsettle]; exact hobserving.links
    case serves => rw [hsettle]; exact hobserving.serves
    case deaf => exact hdeaf
    case clear =>
      intro hopen
      refine hclear ?_
      rwa [hdeposit, HookSettings.deposit_closed] at hopen

/-- The consumer sees the same queue either way, and leaves the ring and its reader alone. -/
theorem consume (hp : Paired h m x) (host : Host) (s : ReceiverStep) :
    Paired h (m.viaKernel host (.consume s)) (x.viaHook h (.consume s)) := by
  obtain ⟨hobserving, hports, hlimit, hqueue, hreceiver⟩ := hp
  have hstep : m.engine.session.receiver.step m.queue true s = x.receiver.step x.hooks.queue true s := by
    rw [hqueue, hreceiver]
  constructor
  case queue => exact congrArg (fun r => r.2.2) hstep
  case receiver => exact congrArg (fun r => r.2.1) hstep
  case ports => exact hports
  case limit => exact hlimit
  case observing =>
    refine ⟨hobserving.watched, hobserving.links, hobserving.serves, hobserving.deaf, fun hopen => ?_⟩
    cases hq : m.queue.closed with
    | true =>
      have hclosed := m.engine.session.receiver.step_closed hq true s
      rw [show (m.viaKernel host (.consume s)).queue.closed = true from hclosed] at hopen
      cases hopen
    | false =>
      obtain ⟨hrecords, houtstanding, hroom, hlistens, hspent⟩ := hobserving.clear hq
      exact ⟨hrecords, houtstanding, hroom, hlistens, hspent⟩

theorem run (hp : Paired h m x) (host : Host) (steps : List CaptureStep) :
    Paired h (steps.foldl (Machine.viaKernel host) m) (steps.foldl (Session.viaHook h) x) := by
  induction steps generalizing m x with
  | nil => exact hp
  | cons s rest ih =>
    refine ih ?_
    cases s with
    | frame packet whole direction cpu => exact hp.frame host whole direction cpu
    | consume s => exact hp.consume host s

end Paired

/-- After a start in which the ring can be waited for, an engine that captures observes. -/
theorem Machine.observing_of_start {m m₁ : Machine} {host : Host} (hmode : m.engine.mode = .capture)
    (hquiet : m.Quiet) (hstart : m.start host = (.ok (), m₁)) (hserves : m₁.kernel.Serves m.nextReader) :
    m₁.Observing := by
  obtain ⟨-, o, w, r, hl, -, -, events, t, rfl⟩ := start_ok hstart
  have hnext : m.nextReader = .readRing (m.loadedKernel host o w r).loads := by
    rw [m.loads_loadedKernel, nextReader, hmode]
    rfl
  have htasks := m.launched_tasks ((m.loadedKernel host o w r).grown m.engine.watch.ports
    (m.engine.mode.links m.interface) events) t
  have hspent : ∀ u ∈ m.engine.tasks ++ m.startTasks, u.Spent (m.loadedKernel host o w r) := by
    intro u hu
    rcases List.mem_append.mp hu with hu | hu
    · exact hquiet.spent (m.loads_loadedKernel host o w r) (m.outlet_loadedKernel host o w r) hu
    · simp only [startTasks, List.mem_cons, List.not_mem_nil, or_false] at hu
      rcases hu with rfl | rfl
      · exact Or.inl (Or.inr (Or.inr hnext))
      · exact Or.inl (Or.inr (Or.inl ⟨_, rfl⟩))
  constructor
  case watched => rfl
  case links => exact ⟨m.interface, congrArg (·.links m.interface) hmode⟩
  case serves => exact hnext ▸ hserves
  case deaf =>
    intro load
    rw [opened_eq_false, htasks]
    intro u hu hjob
    rcases List.mem_append.mp hu with hu | hu
    · rcases hquiet u hu with hphase | ⟨_, -, hreads, -⟩
      · exact hphase
      · cases hjob.symm.trans hreads
    · simp only [startTasks, hnext, List.mem_cons, List.not_mem_nil, or_false] at hu
      rcases hu with rfl | rfl <;> cases hjob
  case clear =>
    intro _
    refine ⟨rfl, rfl, EngineSettings.ringSize_room hl.ringSize, ?_, htasks ▸ hspent⟩
    rw [htasks]
    exact ⟨⟨m.nextReader, .fresh, true⟩, List.mem_append_right _ List.mem_cons_self, hnext, by simp⟩

/-- The kernel's way into the queue and the hook's are interchangeable. An engine that captures is started, its ring can
    be waited for, and nothing is left to read for readers of earlier starts, as there is nothing if none of these failed;
    then after any steps, whole frames and what the consumer does in any order, the queue is that of a session in which
    the observing hook saw the frames, with the same ports and the same limit. -/
theorem capture_paths_agree {m m₁ : Machine} {host : Host} (hmode : m.engine.mode = .capture) (hquiet : m.Quiet)
    (hstart : m.start host = (.ok (), m₁)) (hserves : m₁.kernel.Serves m.nextReader) {x : Session}
    (hqueue : m.engine.session.hooks.queue = x.hooks.queue) (hreceiver : m.engine.session.receiver = x.receiver)
    (sink : Sink) (steps : List CaptureStep) :
    let kernel := steps.foldl (Machine.viaKernel host) m₁
    let user := steps.foldl
      (Session.viaHook ⟨m.engine.watch.ports, m.engine.settings.capture.maxCapture, sink⟩) x
    kernel.engine.session.hooks.queue = user.hooks.queue ∧ kernel.engine.session.receiver = user.receiver := by
  intro kernel user
  have hobserving := Machine.observing_of_start hmode hquiet hstart hserves
  obtain ⟨-, o, w, r, -, -, -, events, t, rfl⟩ := Machine.start_ok hstart
  have hpaired : Paired ⟨m.engine.watch.ports, m.engine.settings.capture.maxCapture, sink⟩ _ x :=
    ⟨hobserving, rfl, rfl, hqueue, hreceiver⟩
  have hrun := hpaired.run host steps
  exact ⟨hrun.queue, hrun.receiver⟩

/-- A datagram that a standard engine captures, and that the consumer then holds. -/
theorem capture_paths_agree_datagram :
    let steps := [.frame .datagram (by decide) .egress 1, .consume (.hold "first")]
    let kernel := steps.foldl (Machine.viaKernel (.holding .standard))
      ((Machine.create (.standard .capture)).start (.holding .standard)).2
    kernel.engine.session.hooks.queue = ⟨262144, 262098, false, []⟩ ∧
      kernel.engine.session.receiver = ⟨true, [("first", ⟨42, Frame.datagram.data, 46⟩)]⟩ := by
  have h := capture_paths_agree (x := .create 262144) rfl
    ((Machine.Orderly.built (Engine.build_standard .capture)).ended rfl).quiet (Machine.start_standard_eq .capture)
    (fun c _ => by cases c <;> rfl) rfl rfl .silent [.frame .datagram (by decide) .egress 1, .consume (.hold "first")]
  exact ⟨h.1.trans rfl, h.2.trans rfl⟩

end FrameSentry
