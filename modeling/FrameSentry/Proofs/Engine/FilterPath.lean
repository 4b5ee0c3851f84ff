import FrameSentry.Proofs.Engine.Lifecycle
import FrameSentry.Proofs.Frame.Cut

/-! The way of a frame through the filter. The filter in the kernel judges a packet by its data and the length that it
    declares; what it lets through waits at the socket, and when the machine settles the reader hands it to the
    observing hook, which judges the first bytes of the data and their real length. The two judgements never
    contradict each other: a classified frame has its transport header within the first hundred bytes, so it is
    classified alike when more of it may be read, and when it is cut to what is captured at most. -/

namespace FrameSentry
open Machine (received)
open Kernel (kept)

/-! ### What is received of an accepted packet -/

theorem received_kept (data : Bytes) :
    received (kept (-1) data) = ⟨data.take Record.captureLimit, (Frame.ofData data).length⟩ := by
  have hkept : kept (-1) data = data.take 4294967295 := rfl
  rw [hkept, received, List.take_take, List.length_take, Frame.ofData]
  congr 2
  omega

theorem Frame.ofData_length (data : Bytes) : (Frame.ofData data).length.toNat = min data.length 4294967295 :=
  UInt32.toNat_ofNat_of_lt' (Nat.lt_of_le_of_lt (Nat.min_le_right _ _) (by decide))

theorem received_whole (data : Bytes) : (received (kept (-1) data)).Whole := by
  unfold Frame.Whole
  rw [received_kept, Frame.ofData_length, List.length_take]
  simp only [Record.captureLimit]
  omega

/-- The hook captures the same part of what is received as it would of the whole data. -/
theorem received_part (data : Bytes) (limit : Nat) :
    (received (kept (-1) data)).part limit = (Frame.ofData data).part limit := by
  have hlimit := Record.clampCapture_le limit
  rw [received_kept]
  show (data.take Record.captureLimit).take (min (Frame.ofData data).length.toNat (Record.clampCapture limit)) =
    data.take (min (Frame.ofData data).length.toNat (Record.clampCapture limit))
  rw [List.take_take]
  congr 1
  omega

/-- A packet that is classified within its declared length is classified alike when it is received. -/
theorem received_classification {packet : Frame} {f : ClassifiedFrame} (hf : packet.classification = .classified f) :
    (received (kept (-1) packet.data)).classification = .classified f := by
  have hgrammar : packet.data.grammar (min packet.length.toNat packet.data.length) = .classified f :=
    (packet.data.classifyWithin_eq packet.length.toNat).symm.trans hf
  obtain ⟨-, hoffset, hcover⟩ := Bytes.grammar_classified hgrammar
  -- The fixed transport header ends within the first 94 bytes, far below what is received at most.
  have hheader : f.protocol.fixedHeader ≤ 20 := by cases f.protocol <;> decide
  have hinitial : packet.data.take Record.captureLimit <+: packet.data := List.take_prefix _ _
  have hlength : (packet.data.take Record.captureLimit).length = min 65535 packet.data.length := List.length_take
  have hend : min (min packet.data.length 4294967295) (packet.data.take Record.captureLimit).length =
      (packet.data.take Record.captureLimit).length := by omega
  rw [received_kept]
  unfold Frame.classification
  rw [Bytes.classifyWithin_eq, Frame.ofData_length, hend, Bytes.grammar_initial hinitial]
  exact (Bytes.carries_of_grammar hgrammar).grammar (by omega)

/-- What passes the filter is classified and matched when it is received. -/
theorem received_matched {packet : Frame} {ports : List UInt16} (h : packet.classification.enforce ports = .accept) :
    ((received (kept (-1) packet.data)).classification.matched? ports).isSome = true := by
  have hmatched : (packet.classification.matched? ports).isSome = true := by
    unfold Classification.enforce at h
    split at h
    · assumption
    · cases h
  obtain ⟨f, hf⟩ := Option.isSome_iff_exists.mp hmatched
  obtain ⟨hclassified, -⟩ := Classification.matched?_eq_some hf
  rw [received_classification hclassified, ← hclassified]
  exact hmatched

/-- Only the filter sees a packet. What it accepts waits at the socket, and nothing else changes but the counters and
    the log. -/
theorem Kernel.inject_filter {k : Kernel} {interface : String} (hk : k.links = Mode.enforce.links interface)
    (packet : Frame) (d : Direction) (cpu : Nat) : ∃ counters log, k.inject packet d cpu =
      match packet.classification.enforce k.maps.watched with
      | .accept => ([⟨.portFilter, -1, some true⟩],
          { k with maps := { k.maps with counters, log }, inbox := k.inbox ++ [.frame (kept (-1) packet.data)] })
      | .reject => ([⟨.portFilter, 0, some false⟩], { k with maps := { k.maps with counters, log } }) := by
  obtain ⟨log, hrun⟩ := k.maps.run_portFilter packet cpu
  have hseen : (k.links.filter fun l => l.point.sees d) = [⟨.portFilter, .socket⟩] := by
    simp [hk, Mode.links, AttachPoint.sees]
  refine ⟨(k.maps.bump cpu (packet.classification.outcome k.maps.watched)).counters, log, ?_⟩
  unfold inject
  rw [hseen]
  simp only [runLinks, runLink, hrun]
  cases packet.classification.enforce k.maps.watched <;> rfl

/-! ### What becomes of the frames -/

/-- An account, from outside, of what passes the filter: the data that waits at the socket, and what became of each
    frame that was received. Beside it the queue and its receiver. -/
structure Relay where
  waiting : List Bytes
  results : List (Except CaptureError Unit)
  queue : Queue
  receiver : Receiver

namespace Relay

/-- Nothing has passed the filter yet. -/
def opened (x : Session) : Relay := ⟨[], [], x.hooks.queue, x.receiver⟩

/-- The real length of a frame and as much of it as is captured are put into the queue. -/
def deliver (limit : Nat) (r : Relay) (data : Bytes) : Relay :=
  let frame := Frame.ofData data
  let (result, queue) := r.queue.enqueue frame.length (frame.part limit)
  { r with queue, results := r.results ++ [result] }

/-- Everything that waits is delivered in its order. -/
def deliverAll (limit : Nat) (r : Relay) : Relay := r.waiting.foldl (deliver limit) { r with waiting := [] }

def consume (r : Relay) (s : ReceiverStep) : Relay :=
  let (_, receiver, queue) := r.receiver.step r.queue true s
  { r with receiver, queue }

/-- A packet that the filter delivers waits until the machine settles. -/
def note (limit : Nat) (r : Relay) : MachineStep → MachineReply → Relay
  | .inject packet _ _, .links answers =>
    if answers.any fun a => a.delivered = some true then { r with waiting := r.waiting ++ [packet.data] } else r
  | .consume s, _ => r.consume s
  | .settle, _ => r.deliverAll limit
  | .tick _, _ => r.deliverAll limit
  | _, _ => r

end Relay

/-- The account of some steps. -/
def Machine.relay (h : Host) (limit : Nat) (m : Machine) (r : Relay) : List MachineStep → Relay
  | [] => r
  | s :: rest => (m.step h s).2.relay h limit (r.note limit s (m.step h s).1) rest

/-- What happens to an engine of which no hook is called: packets pass, calls to receive them fail, the consumer does
    something, tasks run and time passes. -/
def MachineStep.Unhooked : MachineStep → Prop
  | .inject _ _ _ | .failSocket _ _ | .consume _ | .settle | .tick _ => True
  | _ => False

/-! ### The hook on what is received -/

/-- What the hook counts for these results: every frame as matched, and whether it was put into the queue. -/
def Relay.count (results : List (Except CaptureError Unit)) : Outcome → Nat
  | .matched => results.length
  | .captured => results.countP fun r => r.isOk
  | .reserveFailed => results.countP fun r => !r.isOk
  | _ => 0

theorem Relay.count_append (first second : List (Except CaptureError Unit)) (o : Outcome) :
    count (first ++ second) o = count first o + count second o := by
  cases o <;> simp [count]

theorem Relay.get_counted (k : Counters) (result : Except CaptureError Unit) (o : Outcome) :
    ((k.bump .matched).bump (.ofCapture result)).get o = k.get o + UInt64.ofNat (count [result] o) := by
  cases result <;> cases o <;> simp [Counters.get_bump, Outcome.ofCapture, count, Except.isOk, Except.toBool]

/-- The frame that waits at a socket, unless it is a failure that does. -/
def Incoming.frame? : Incoming → Option Bytes
  | .frame data => some data
  | .failure _ => none

namespace Relay
variable {h : HookSettings} {c : Counters} {s : HookState} {r : Relay}

/-- The hooks are as the account says, and counted `c` before it began. -/
structure Accounts (c : Counters) (s : HookState) (r : Relay) : Prop where
  queue : s.queue = r.queue
  counters : ∀ o, s.counters.get o = c.get o + UInt64.ofNat (count r.results o)
  results : ∀ result ∈ r.results,
    result = .ok () ∨ (∃ n available, result = .error (.bufferFull n available)) ∨ result = .error .closed

theorem Accounts.deliver (ha : Accounts c s r) {data : Bytes}
    (hmatched : ((received (kept (-1) data)).classification.matched? h.ports).isSome = true) :
    Accounts c (h.onFrame (received (kept (-1) data)) s).2 (r.deliver h.maxCapture data) := by
  have hw := received_whole data
  have hlength : (received (kept (-1) data)).length = (Frame.ofData data).length := by rw [received_kept]
  have hcounters := h.onFrame_matched hw hmatched s
  rw [received_part, hlength, ha.queue] at hcounters
  constructor
  case queue =>
    rw [h.onFrame_queue hw s, HookSettings.deposit, if_pos hmatched, ha.queue]
    show (r.queue.enqueue _ ((received (kept (-1) data)).part h.maxCapture)).2 = _
    rw [received_part, hlength]
    rfl
  case counters =>
    intro o
    rw [hcounters, get_counted, ha.counters o, UInt64.add_assoc, ← UInt64.ofNat_add, ← count_append]
    rfl
  case results =>
    intro result hresult
    rcases List.mem_append.mp hresult with hresult | hresult
    · exact ha.results result hresult
    · cases List.mem_singleton.mp hresult
      exact r.queue.enqueue_fst_cases _ _

/-- A call to receive that fails is of no account. -/
theorem Accounts.deliverEach {items : List Incoming} {frames : List Bytes} (ha : Accounts c s r)
    (hitems : items.filterMap Incoming.frame? = frames.map (kept (-1)))
    (hmatched : ∀ data ∈ frames, ((received (kept (-1) data)).classification.matched? h.ports).isSome = true) :
    Accounts c (h.receive items s) (frames.foldl (Relay.deliver h.maxCapture) r) := by
  induction items generalizing frames s r with
  | nil =>
    cases frames with
    | nil => exact ha
    | cons data rest => cases hitems
  | cons item items ih =>
    cases item with
    | failure reason => exact ih ⟨ha.queue, ha.counters, ha.results⟩ hitems hmatched
    | frame received =>
      cases frames with
      | nil => cases hitems
      | cons data rest =>
        obtain ⟨rfl, hrest⟩ := List.cons.inj hitems
        have hdelivered := ha.deliver (hmatched data List.mem_cons_self)
        have hmatched' := fun d hd => hmatched d (List.mem_cons_of_mem data hd)
        show Accounts c (h.receive items _) (rest.foldl (Relay.deliver h.maxCapture) (r.deliver h.maxCapture data))
        exact ih hdelivered hrest hmatched'

theorem Accounts.deliverAll {items : List Incoming} (ha : Accounts c s r)
    (hitems : items.filterMap Incoming.frame? = r.waiting.map (kept (-1)))
    (hmatched : ∀ data ∈ r.waiting, ((received (kept (-1) data)).classification.matched? h.ports).isSome = true) :
    Accounts c (h.receive items s) (r.deliverAll h.maxCapture) :=
  Accounts.deliverEach (r := { r with waiting := [] }) ⟨ha.queue, ha.counters, ha.results⟩ hitems hmatched

theorem deliverEach_eq (limit : Nat) (frames : List Bytes) (r : Relay) :
    (frames.foldl (deliver limit) r).waiting = r.waiting ∧ (frames.foldl (deliver limit) r).receiver = r.receiver := by
  induction frames generalizing r with
  | nil => exact ⟨rfl, rfl⟩
  | cons data rest ih => exact ih (r.deliver limit data)

theorem deliverAll_waiting (limit : Nat) (r : Relay) : (r.deliverAll limit).waiting = [] :=
  (deliverEach_eq limit r.waiting { r with waiting := [] }).1

theorem deliverAll_receiver (limit : Nat) (r : Relay) : (r.deliverAll limit).receiver = r.receiver :=
  (deliverEach_eq limit r.waiting { r with waiting := [] }).2

theorem deliverAll_of_waiting (limit : Nat) {r : Relay} (hr : r.waiting = []) : r.deliverAll limit = r := by
  unfold Relay.deliverAll
  rw [hr, List.foldl_nil, ← hr]

end Relay

/-! ### The filter and its reader -/

namespace Machine
variable {m : Machine}

/-- The filter is linked and watches the engine's ports, there is a reader for what it lets through, and no task reads
    anything else. -/
structure Filtering (m : Machine) : Prop where
  watched : m.kernel.maps.watched = m.engine.watch.ports
  links : ∃ interface, m.kernel.links = Mode.enforce.links interface
  serves : m.kernel.Serves (.readSocket m.kernel.loads)
  listens : ∃ t ∈ m.engine.tasks, t.Listens (.readSocket m.kernel.loads)
  reads : ∀ t ∈ m.engine.tasks, t.ReadsOnly (.readSocket m.kernel.loads)

namespace Filtering

/-- Of the kernel only the watched ports, the links, the faults and the number of loads matter. -/
theorem congr (hf : m.Filtering) {k : Kernel} (hwatched : k.maps.watched = m.kernel.maps.watched)
    (hlinks : k.links = m.kernel.links) (hfaults : k.faults = m.kernel.faults) (hloads : k.loads = m.kernel.loads) :
    Filtering { m with kernel := k } := by
  constructor
  case watched => exact hwatched.trans hf.watched
  case links => exact hlinks ▸ hf.links
  case serves =>
    intro c hc
    show k.faults.lookup c = none
    rw [hfaults]
    exact hf.serves c hc
  case listens => exact hloads.symm ▸ hf.listens
  case reads => exact hloads.symm ▸ hf.reads

/-- The only socket that is open has a filter. -/
theorem unfiltered (hf : m.Filtering) {load : Nat} (hopened : m.opened load = true) : m.kernel.unfiltered load = false := by
  obtain ⟨interface, hlinks⟩ := hf.links
  have hload : load = m.kernel.loads := Decidable.byContradiction fun hne => by
    refine Bool.eq_false_iff.mp (opened_eq_false.mpr fun t ht hjob => ?_) hopened
    rcases hf.reads t ht with hphase | ⟨interval, hpolls⟩ | hreads
    · exact hphase
    · exact nomatch hjob.symm.trans hpolls
    · exact absurd (Job.readSocket.inj (hjob.symm.trans hreads)) hne
  simp [Kernel.unfiltered, hload, hlinks, Mode.links]

/-- A packet reaches no socket but by way of the filter. -/
theorem inject_eq (hf : m.Filtering) (packet : Frame) (d : Direction) (cpu : Nat) :
    m.inject packet d cpu = ((m.kernel.inject packet d cpu).1, { m with kernel := (m.kernel.inject packet d cpu).2 }) :=
  inject_of_filtered (fun _ hopened => hf.unfiltered hopened) packet d cpu

end Filtering

/-! ### Runs -/

/-- The machine is as the account says. Every frame that waits at the socket passed the filter. -/
structure Relayed (h : HookSettings) (c : Counters) (m : Machine) (r : Relay) : Prop where
  filtering : m.Filtering
  settings : m.engine.hookSettings = h
  inbox : m.kernel.inbox.filterMap Incoming.frame? = r.waiting.map (kept (-1))
  matched : ∀ data ∈ r.waiting, ((received (kept (-1) data)).classification.matched? h.ports).isSome = true
  accounts : Relay.Accounts c m.engine.session.hooks r
  receiver : m.engine.session.receiver = r.receiver

namespace Relayed
variable {h : HookSettings} {c : Counters} {r : Relay}

theorem inject (hr : Relayed h c m r) (host : Host) (packet : Frame) (d : Direction) (cpu : Nat) :
    Relayed h c (m.step host (.inject packet d cpu)).2
      (r.note h.maxCapture (.inject packet d cpu) (m.step host (.inject packet d cpu)).1) := by
  obtain ⟨hfiltering, hsettings, hinbox, hmatched, haccounts, hreceiver⟩ := hr
  obtain ⟨interface, hlinks⟩ := hfiltering.links
  obtain ⟨counters, log, hinject⟩ := Kernel.inject_filter hlinks packet d cpu
  have hports : m.kernel.maps.watched = h.ports := by
    rw [hfiltering.watched, ← hsettings]
    rfl
  rw [hports] at hinject
  have hfiltering' : ∀ inbox, Filtering { m with
      kernel := { m.kernel with maps := { m.kernel.maps with counters, log }, inbox } } := fun inbox =>
    hfiltering.congr rfl rfl rfl rfl
  unfold Machine.step
  simp only [hfiltering.inject_eq, hinject]
  cases hverdict : packet.classification.enforce h.ports with
  | reject => exact ⟨hfiltering' _, hsettings, hinbox, hmatched, haccounts, hreceiver⟩
  | accept =>
    refine ⟨hfiltering' _, hsettings, ?_, ?_, ⟨haccounts.queue, haccounts.counters, haccounts.results⟩, hreceiver⟩
    · show (m.kernel.inbox ++ [Incoming.frame (kept (-1) packet.data)]).filterMap Incoming.frame? =
        (r.waiting ++ [packet.data]).map (kept (-1))
      rw [List.filterMap_append, hinbox, List.map_append]
      rfl
    · intro data hdata
      rcases List.mem_append.mp hdata with hdata | hdata
      · exact hmatched data hdata
      · cases List.mem_singleton.mp hdata
        exact received_matched hverdict

/-- A call to receive that is going to fail leaves the frames that wait. -/
theorem failSocket (hr : Relayed h c m r) (load : Nat) (reason : String) :
    Relayed h c { m with kernel := m.kernel.failSocket load reason } r := by
  refine ⟨hr.filtering.congr rfl rfl rfl (m.kernel.loads_failSocket load reason), hr.settings, ?_, hr.matched, hr.accounts,
    hr.receiver⟩
  rw [← hr.inbox]
  show (if m.kernel.loads = load then _ else m.kernel.outlet m.kernel.loads).inbox.filterMap Incoming.frame? = _
  split
  · rename_i hload
    rw [← hload, Kernel.outlet_loads, List.filterMap_append]
    exact List.append_nil _
  · rw [Kernel.outlet_loads]

theorem consume (hr : Relayed h c m r) (host : Host) (s : ReceiverStep) :
    Relayed h c (m.step host (.consume s)).2 (r.consume s) := by
  obtain ⟨hfiltering, hsettings, hinbox, hmatched, haccounts, hreceiver⟩ := hr
  have hstep : m.engine.session.receiver.step m.engine.session.hooks.queue true s =
      r.receiver.step r.queue true s := by
    rw [haccounts.queue, hreceiver]
  have hqueue : (m.step host (.consume s)).2.engine.session.hooks.queue = (r.consume s).queue :=
    congrArg (fun x => x.2.2) hstep
  have hfiltering' : Filtering (m.step host (.consume s)).2 :=
    ⟨hfiltering.watched, hfiltering.links, hfiltering.serves, hfiltering.listens, hfiltering.reads⟩
  exact ⟨hfiltering', hsettings, hinbox, hmatched, ⟨hqueue, haccounts.counters, haccounts.results⟩,
    congrArg (fun x => x.2.1) hstep⟩

theorem settle (hr : Relayed h c m r) : Relayed h c m.settle (r.deliverAll h.maxCapture) := by
  obtain ⟨hfiltering, hsettings, hinbox, hmatched, haccounts, hreceiver⟩ := hr
  obtain ⟨_, tasks, ⟨t, polled, rfl⟩, hsettle, ⟨u, hu, hwaits⟩, hreads⟩ :=
    settle_relayed hfiltering.serves hfiltering.reads hfiltering.listens
  have hloads := (m.told t polled).loads_relayed
  have hemptied := (m.told t polled).relayed_inbox
  have haccounts' := Relay.Accounts.deliverAll (h := h) (s := (m.told t polled).engine.session.hooks)
    ⟨haccounts.queue, haccounts.counters, haccounts.results⟩ hinbox hmatched
  rw [hsettle]
  -- All that waited is delivered; what was told and polled before does not matter to the account.
  constructor
  case filtering =>
    constructor
    case watched => exact hfiltering.watched
    case links => exact hfiltering.links
    case serves => exact hloads.symm ▸ hfiltering.serves
    case listens => exact hloads.symm ▸ ⟨u, hu, hwaits.listens⟩
    case reads => exact hloads.symm ▸ hreads
  case settings => exact hsettings
  case inbox =>
    rw [Relay.deliverAll_waiting, show ((m.told t polled).relayed.withTasks tasks).kernel.inbox = [] from hemptied]
    rfl
  case matched => rw [Relay.deliverAll_waiting]; nofun
  case accounts => rw [← hsettings] at haccounts' ⊢; exact haccounts'
  case receiver => rw [Relay.deliverAll_receiver]; exact hreceiver

theorem pass (hr : Relayed h c m r) (seconds : Nat) : Relayed h c (m.pass seconds) r :=
  ⟨⟨hr.filtering.watched, hr.filtering.links, hr.filtering.serves, hr.filtering.listens, hr.filtering.reads⟩,
    hr.settings, hr.inbox, hr.matched, hr.accounts, hr.receiver⟩

theorem step (hr : Relayed h c m r) (host : Host) {s : MachineStep} (hs : s.Unhooked) :
    Relayed h c (m.step host s).2 (r.note h.maxCapture s (m.step host s).1) := by
  cases s with
  | inject packet d cpu => exact hr.inject host packet d cpu
  | failSocket load reason => exact hr.failSocket load reason
  | consume s => exact hr.consume host s
  | settle => exact hr.settle
  | tick seconds =>
    have htwice := (hr.settle.pass seconds).settle
    rw [Relay.deliverAll_of_waiting _ (Relay.deliverAll_waiting _ r)] at htwice
    exact htwice
  | _ => exact hs.elim

theorem run (hr : Relayed h c m r) (host : Host) {steps : List MachineStep} (hs : ∀ s ∈ steps, s.Unhooked) :
    Relayed h c (m.perform host steps) (m.relay host h.maxCapture r steps) := by
  induction steps generalizing m r with
  | nil => exact hr
  | cons s rest ih =>
    exact ih (hr.step host (hs s List.mem_cons_self)) fun s hs' => hs s (List.mem_cons_of_mem _ hs')

end Relayed

/-- After a start in which the socket can be waited for, an engine that enforces filters. -/
theorem filtering_of_start {m m₁ : Machine} {host : Host} (hmode : m.engine.mode = .enforce) (hended : m.Ended)
    (hstart : m.start host = (.ok (), m₁)) (hserves : m₁.kernel.Serves m.nextReader) : m₁.Filtering := by
  obtain ⟨-, o, w, r, -, -, -, events, t, rfl⟩ := start_ok hstart
  have hnext : m.nextReader = .readSocket (m.loadedKernel host o w r).loads := by
    rw [m.loads_loadedKernel, nextReader, hmode]
    rfl
  have htasks := m.launched_tasks ((m.loadedKernel host o w r).grown m.engine.watch.ports
    (m.engine.mode.links m.interface) events) t
  constructor
  case watched => rfl
  case links => exact ⟨m.interface, congrArg (·.links m.interface) hmode⟩
  case serves => exact hnext ▸ hserves
  case listens =>
    rw [htasks]
    exact ⟨⟨m.nextReader, .fresh, true⟩, List.mem_append_right _ List.mem_cons_self, hnext, by simp⟩
  case reads =>
    rw [htasks]
    intro u hu
    rcases List.mem_append.mp hu with hu | hu
    · exact Or.inl (hended u hu)
    · simp only [startTasks, List.mem_cons, List.not_mem_nil, or_false] at hu
      rcases hu with rfl | rfl
      · exact Or.inr (Or.inr hnext)
      · exact Or.inr (Or.inl ⟨_, rfl⟩)

/-- Then nothing has passed the filter yet. -/
theorem relayed_of_start {m m₁ : Machine} {host : Host} (hmode : m.engine.mode = .enforce) (hended : m.Ended)
    (hstart : m.start host = (.ok (), m₁)) (hserves : m₁.kernel.Serves m.nextReader) :
    Relayed m.engine.hookSettings m.engine.session.hooks.counters m₁ (.opened m.engine.session) := by
  have hfiltering := filtering_of_start hmode hended hstart hserves
  obtain ⟨-, o, w, r, -, -, -, events, t, rfl⟩ := start_ok hstart
  constructor
  case filtering => exact hfiltering
  case settings => rfl
  case inbox => rfl
  case matched => exact fun _ hdata => absurd hdata List.not_mem_nil
  case receiver => rfl
  case accounts =>
    refine ⟨rfl, fun o => ?_, fun _ hresult => absurd hresult List.not_mem_nil⟩
    have hcount : Relay.count [] o = 0 := by cases o <;> rfl
    show _ = _ + UInt64.ofNat (Relay.count [] o)
    rw [hcount]
    exact (UInt64.add_zero _).symm

/-- The hook never contradicts the filter. An engine that enforces is started, its socket can be waited for, and the
    tasks of earlier starts have ended, as they have if none of these failed; then packets pass, calls to receive them may
    fail, the consumer does anything and time passes. Whatever packet the filter accepts is taken for the same frame by
    the kernel and, when it is received, by the hook. So of the hook's counters the four that count other frames and the
    one of failed copies stay as they were, and that of matched frames grows by the number of frames that were received;
    each of these is in the queue with its real length and as much of it as is captured, or there was no room for it, or
    the queue was closed. -/
theorem hook_never_contradicts_filter {m m₁ : Machine} {host : Host} (hmode : m.engine.mode = .enforce)
    (hended : m.Ended) (hstart : m.start host = (.ok (), m₁)) (hserves : m₁.kernel.Serves m.nextReader)
    {steps : List MachineStep} (hsteps : ∀ s ∈ steps, s.Unhooked) :
    let m₂ := m₁.perform host steps
    let r := m₁.relay host m.engine.settings.capture.maxCapture (.opened m.engine.session) steps
    let before := m.engine.session.hooks.counters
    let counters := m₂.engine.session.hooks.counters
    (∀ packet cpu, (m₂.kernel.maps.run .portFilter packet cpu).1 = -1 → ∃ f, packet.classification = .classified f ∧
        (received (kept (-1) packet.data)).classification = .classified f ∧
        f.matchesPorts m.engine.watch.ports = true) ∧
      m₂.engine.session.hooks.queue = r.queue ∧ m₂.engine.session.receiver = r.receiver ∧
      (∀ o ∈ [Outcome.truncated, .unsupportedLinkType, .unsupportedTransport, .noMatch, .copyFailed],
        counters.get o = before.get o) ∧
      counters.get .matched = before.get .matched + UInt64.ofNat r.results.length ∧
      counters.get .captured = before.get .captured + UInt64.ofNat (r.results.countP fun result => result.isOk) ∧
      counters.get .reserveFailed =
        before.get .reserveFailed + UInt64.ofNat (r.results.countP fun result => !result.isOk) ∧
      ∀ result ∈ r.results,
        result = .ok () ∨ (∃ n available, result = .error (.bufferFull n available)) ∨ result = .error .closed := by
  intro m₂ r before counters
  have hr : Relayed m.engine.hookSettings before m₂ r := (relayed_of_start hmode hended hstart hserves).run host hsteps
  obtain ⟨hqueue, hcounters, hresults⟩ := hr.accounts
  have hports : m₂.kernel.maps.watched = m.engine.watch.ports :=
    hr.filtering.watched.trans (congrArg HookSettings.ports hr.settings)
  refine ⟨?_, hqueue, hr.receiver, ?_, hcounters .matched, hcounters .captured, hcounters .reserveFailed, hresults⟩
  · intro packet cpu hvalue
    obtain ⟨log, hrun⟩ := m₂.kernel.maps.run_portFilter packet cpu
    rw [hrun, hports] at hvalue
    cases hmatched : packet.classification.matched? m.engine.watch.ports with
    | none =>
      rw [Classification.enforce, hmatched] at hvalue
      cases hvalue
    | some f =>
      obtain ⟨hclassified, hmatches⟩ := Classification.matched?_eq_some hmatched
      exact ⟨f, hclassified, received_classification hclassified, hmatches⟩
  · intro o ho
    have hcount : Relay.count r.results o = 0 := by
      simp only [List.mem_cons, List.not_mem_nil, or_false] at ho
      rcases ho with rfl | rfl | rfl | rfl | rfl <;> rfl
    rw [hcounters o, hcount]
    exact UInt64.add_zero _

/-- A datagram with more data than it declares, one that declares less than its headers, a call to receive that fails,
    and a datagram that is received after the consumer has closed the queue. -/
theorem hook_never_contradicts_filter_datagrams :
    let data := Frame.datagram.data ++ [1, 2, 3]
    let hooks := (((Machine.create (.standard .enforce)).start (.holding .standard)).2.perform (.holding .standard)
      [.inject ⟨data, 42⟩ .ingress 0, .inject ⟨data, 41⟩ .egress 1, .settle, .consume .close, .failSocket 1 "ENETDOWN",
        .inject .datagram .egress 3, .tick 1]).engine.session.hooks
    hooks.queue.events = [⟨45, data, 49⟩] ∧ hooks.counters.get .truncated = 0 ∧
      hooks.counters.get .matched = 2 ∧ hooks.counters.get .reserveFailed = 1 := by
  intro data hooks
  have hsteps : ∀ s ∈ [MachineStep.inject ⟨data, 42⟩ .ingress 0, .inject ⟨data, 41⟩ .egress 1, .settle,
      .consume .close, .failSocket 1 "ENETDOWN", .inject .datagram .egress 3, .tick 1], s.Unhooked := by
    simp [MachineStep.Unhooked]
  obtain ⟨-, hqueue, -, hcounters, hmatched, -, hreserve, -⟩ :=
    hook_never_contradicts_filter rfl ((Orderly.built (Engine.build_standard .enforce)).ended rfl)
      (start_standard_eq .enforce) (fun c _ => by cases c <;> rfl) hsteps
  have hqueue : hooks.queue = _ := hqueue
  have htruncated : hooks.counters.get .truncated = _ := hcounters .truncated (by decide)
  have hmatched : hooks.counters.get .matched = _ := hmatched
  have hreserve : hooks.counters.get .reserveFailed = _ := hreserve
  rw [hqueue, htruncated, hmatched, hreserve]
  decide +kernel

end Machine
end FrameSentry
