import FrameSentry.Proofs.Counters.Sums
import FrameSentry.Proofs.Engine.Setup
import FrameSentry.Proofs.Hook.Judgement

/-! The filter in the kernel and the enforcing hook in user memory take the same decisions. Each frame gets
    the same verdict from both, and is counted under the same outcome; the kernel counts it on one of its
    processors, so that the sum over the processors is what the hook counts. -/

namespace FrameSentry

/-! ### Counters of several processors -/

namespace Counters

/-- The sum over the processors of one counter, as a word that wraps around. -/
def across (l : List Counters) (o : Outcome) : UInt64 := (l.map fun c => c.get o).sum

/-- The same sum as a number. -/
def countAcross (l : List Counters) (o : Outcome) : Nat := (l.map fun c => (c.get o).toNat).sum

@[simp] theorem across_cons (c : Counters) (l : List Counters) (o : Outcome) :
    across (c :: l) o = c.get o + across l o := by
  simp [across]

@[simp] theorem countAcross_cons (c : Counters) (l : List Counters) (o : Outcome) :
    countAcross (c :: l) o = (c.get o).toNat + countAcross l o := by
  simp [countAcross]

theorem get_zero (o : Outcome) : zero.get o = 0 := by cases o <;> rfl

/-- Processors that have counted nothing have counted nothing together. -/
theorem across_zero (processors : Nat) (o : Outcome) : across (.replicate processors .zero) o = 0 := by
  induction processors with
  | zero => rfl
  | succ n ih =>
    rw [List.replicate_succ, across_cons, ih, get_zero]
    rfl

theorem countAcross_zero (processors : Nat) (o : Outcome) : countAcross (.replicate processors .zero) o = 0 := by
  induction processors with
  | zero => rfl
  | succ n ih =>
    rw [List.replicate_succ, countAcross_cons, ih, get_zero]
    rfl

/-- To count on any processor is to count in the sum. -/
theorem across_modify {l : List Counters} {cpu : Nat} (hcpu : cpu < l.length) (o o' : Outcome) :
    across (l.modify cpu fun c => c.bump o) o' = across l o' + if o = o' then 1 else 0 := by
  induction l generalizing cpu with
  | nil => cases hcpu
  | cons c rest ih =>
    -- The processor is the first of the list or one of the rest.
    cases cpu with
    | zero =>
      rw [List.modify_zero_cons, across_cons, across_cons, get_bump]
      simp only [UInt64.add_assoc]
      rw [UInt64.add_comm (across rest o')]
    | succ cpu =>
      rw [List.modify_succ_cons, across_cons, across_cons, ih (Nat.lt_of_succ_lt_succ hcpu), UInt64.add_assoc]

theorem countAcross_modify_le (l : List Counters) (cpu : Nat) (o o' : Outcome) :
    countAcross (l.modify cpu fun c => c.bump o) o' ≤ countAcross l o' + 1 := by
  induction l generalizing cpu with
  | nil => simp [countAcross]
  | cons c rest ih =>
    cases cpu with
    | zero =>
      have hone : ((c.bump o).get o').toNat ≤ (c.get o').toNat + 1 := by
        rw [get_bump, UInt64.toNat_add]
        split
        · exact Nat.mod_le _ _
        · exact Nat.le_succ_of_le (Nat.mod_le _ _)
      rw [List.modify_zero_cons, countAcross_cons, countAcross_cons]
      omega
    | succ cpu =>
      have := ih cpu
      rw [List.modify_succ_cons, countAcross_cons, countAcross_cons]
      omega

end Counters

namespace KernelMaps

/-- The counters summed over the processors, as they are polled. -/
def totals (m : KernelMaps) : Counters := .sumPerCpu (Outcome.all.map fun o => m.counters.map fun c => c.get o)

theorem get_totals {m : KernelMaps} {o : Outcome} (ho : Counters.countAcross m.counters o < wordLimit) :
    m.totals.get o = Counters.across m.counters o := by
  unfold totals
  rw [Counters.get_sumPerCpu]
  refine saturatingSum_eq_sum ?_
  rw [List.map_map]
  exact ho

end KernelMaps

/-! ### A run of frames -/

/-- The filter on one packet after the other, each on its processor, with the value that it returns for each. -/
def KernelMaps.filterEach : List (Frame × Nat) → KernelMaps → List Int × KernelMaps
  | [], m => ([], m)
  | (packet, cpu) :: rest, m =>
    let (value, m) := m.run .portFilter packet cpu
    let (values, m) := filterEach rest m
    (value :: values, m)

/-- The enforcing hook on one frame after the other, with its verdict on each. -/
def HookSettings.enforceEach (h : HookSettings) : List Frame → HookState → List Verdict × HookState
  | [], s => ([], s)
  | frame :: rest, s =>
    let (verdict, s) := h.enforce frame s
    let (verdicts, s) := h.enforceEach rest s
    (verdict :: verdicts, s)

/-- The hook has counted what the processors have counted together. -/
def Counters.Sums (c : Counters) (l : List Counters) : Prop := ∀ o, across l o = c.get o

theorem Counters.Sums.bump {c : Counters} {l : List Counters} (hc : c.Sums l) {cpu : Nat} (hcpu : cpu < l.length)
    (o : Outcome) : (c.bump o).Sums (l.modify cpu fun c => c.bump o) := fun o' => by
  rw [across_modify hcpu, hc, get_bump]

section Run
variable {h : HookSettings}

theorem HookSettings.enforceEach_fst (frames : List Frame) (s : HookState) :
    (h.enforceEach frames s).1 = frames.map fun frame => frame.classification.enforce h.ports := by
  induction frames generalizing s with
  | nil => rfl
  | cons frame rest ih =>
    show (h.enforce frame s).1 :: (h.enforceEach rest (h.enforce frame s).2).1 = _
    rw [enforce_fst, ih, List.map_cons]

/-- On the same ports, the values of the filter are the hook's verdicts and the counts stay the same. -/
theorem KernelMaps.filterEach_agrees (traffic : List (Frame × Nat)) {m : KernelMaps} {s : HookState}
    (hports : h.ports = m.watched) (hsums : s.counters.Sums m.counters)
    (hcpu : ∀ x ∈ traffic, x.2 < m.counters.length) :
    (filterEach traffic m).1 = (h.enforceEach (traffic.map (·.1)) s).1.map Verdict.filterCode ∧
      (h.enforceEach (traffic.map (·.1)) s).2.counters.Sums (filterEach traffic m).2.counters := by
  induction traffic generalizing m s with
  | nil => exact ⟨rfl, hsums⟩
  | cons x rest ih =>
    obtain ⟨packet, cpu⟩ := x
    obtain ⟨log, hrun⟩ := m.run_portFilter packet cpu
    have hhere : cpu < m.counters.length := hcpu _ List.mem_cons_self
    have hbump : (h.enforce packet s).2.counters.Sums
        (m.bump cpu (packet.classification.outcome m.watched)).counters := by
      rw [h.enforce_counters, hports]
      exact hsums.bump hhere _
    have hrest := ih (m := { m.bump cpu (packet.classification.outcome m.watched) with log })
      (s := (h.enforce packet s).2) hports hbump fun x hx => by
        have := hcpu x (List.mem_cons_of_mem _ hx)
        simpa [bump] using this
    have hverdict : packet.classification.enforce m.watched = (h.enforce packet s).1 := by
      rw [h.enforce_fst, hports]
    unfold filterEach
    rw [hrun, hverdict]
    refine ⟨?_, hrest.2⟩
    show _ :: (filterEach rest _).1 = _
    rw [hrest.1]
    rfl

/-- Each packet adds at most one to the sum over the processors. -/
theorem KernelMaps.countAcross_filterEach_le (traffic : List (Frame × Nat)) (m : KernelMaps) (o : Outcome) :
    Counters.countAcross (filterEach traffic m).2.counters o ≤
      Counters.countAcross m.counters o + traffic.length := by
  induction traffic generalizing m with
  | nil => exact Nat.le_refl _
  | cons x rest ih =>
    obtain ⟨packet, cpu⟩ := x
    obtain ⟨log, hrun⟩ := m.run_portFilter packet cpu
    have hone := Counters.countAcross_modify_le m.counters cpu (packet.classification.outcome m.watched) o
    have hrest := ih { m.bump cpu (packet.classification.outcome m.watched) with log }
    unfold filterEach
    rw [hrun, List.length_cons]
    exact Nat.le_trans hrest (by simp only [bump]; omega)

end Run

/-! ### After a start -/

/-- A start leaves the watched ports in their map, and counters at zero. -/
theorem Machine.maps_of_start {m m₁ : Machine} {h : Host} (hs : m.start h = (.ok (), m₁)) :
    m₁.kernel.maps.watched = m.engine.watch.ports ∧
      m₁.kernel.maps.counters = List.replicate h.processors .zero := by
  obtain ⟨-, o, w, r, -, -, -, events, t, rfl⟩ := start_ok hs
  exact ⟨rfl, rfl⟩

/-- Kernel and user memory take the same decision on every frame. The watch list is made of any ports and
    synced by a start; then both classify every packet alike, and over any traffic on any processors the
    filter's value is -1 just where the hook accepts, which is where the packet matches the ports as they were
    given. The sums of the kernel's counters over the processors are the counters of the hook; so are the sums
    as they are polled, which cannot wrap around, as long as the number of packets is a word. -/
theorem filter_agrees_with_hook {m m₁ : Machine} {host : Host} {raw : List UInt16}
    (hraw : WatchList.ofPorts raw = .ok m.engine.watch) (hstart : m.start host = (.ok (), m₁))
    (maxCapture : Nat) (sink : Sink) {s : HookState} (hs : s.counters = .zero)
    (traffic : List (Frame × Nat)) (hcpu : ∀ x ∈ traffic, x.2 < host.processors) :
    let kernel := KernelMaps.filterEach traffic m₁.kernel.maps
    let user := HookSettings.enforceEach ⟨m.engine.watch.ports, maxCapture, sink⟩ (traffic.map (·.1)) s
    (∀ packet, KernelMaps.classify packet = packet.classification) ∧
      kernel.1 = user.1.map (fun verdict => if verdict = .accept then -1 else 0) ∧
      user.1 = traffic.map (fun x => x.1.classification.enforce raw) ∧
      (∀ o, Counters.across kernel.2.counters o = user.2.counters.get o) ∧
      (traffic.length < wordLimit → ∀ o, kernel.2.totals.get o = user.2.counters.get o) := by
  intro kernel user
  obtain ⟨hwatched, hcounters⟩ := m.maps_of_start hstart
  have hsums : s.counters.Sums m₁.kernel.maps.counters := fun o => by
    rw [hcounters, Counters.across_zero, hs, Counters.get_zero]
  obtain ⟨hvalues, hcounts⟩ := KernelMaps.filterEach_agrees (h := ⟨m.engine.watch.ports, maxCapture, sink⟩) traffic
    hwatched.symm hsums fun x hx => by
      rw [hcounters, List.length_replicate]
      exact hcpu x hx
  refine ⟨KernelMaps.classify_eq, ?_, ?_, hcounts, fun hlength o => ?_⟩
  · rw [hvalues]
    exact List.map_congr_left fun verdict _ => by cases verdict <;> rfl
  · show (HookSettings.enforceEach _ _ _).1 = _
    rw [HookSettings.enforceEach_fst, List.map_map]
    exact List.map_congr_left fun x _ =>
      x.1.classification.enforce_congr fun p => WatchList.mem_of_ofPorts hraw
  · rw [← hcounts o]
    refine KernelMaps.get_totals (Nat.lt_of_le_of_lt (KernelMaps.countAcross_filterEach_le traffic _ o) ?_)
    rw [hcounters, Counters.countAcross_zero, Nat.zero_add]
    exact hlength

/-- Port 8000 given twice, an enforcing engine, and a datagram from that port on the last processor. -/
theorem filter_agrees_with_hook_standard :
    let maps := ((Machine.create (.standard .enforce)).start (.holding .standard)).2.kernel.maps
    let kernel := KernelMaps.filterEach [(Frame.datagram, 3)] maps
    let user := HookSettings.enforceEach ⟨[8000], 65535, .silent⟩ [Frame.datagram] (Session.create 1).hooks
    WatchList.ofPorts [8000, 8000] = .ok ⟨[8000]⟩ ∧ kernel.1 = [-1] ∧ user.1 = [.accept] ∧
      ∀ o, kernel.2.totals.get o = user.2.counters.get o := by
  intro maps kernel user
  have hraw : WatchList.ofPorts [8000, 8000] = .ok ⟨[8000]⟩ := by
    simp [WatchList.ofPorts, WatchList.ascending, WatchList.squeeze, List.mergeSort]
  obtain ⟨-, hvalues, hverdicts, -, htotals⟩ := filter_agrees_with_hook (m := .create (.standard .enforce)) hraw
    (Machine.start_standard_eq .enforce) 65535 .silent (s := (Session.create 1).hooks) rfl [(Frame.datagram, 3)]
    (by decide)
  have haccept : user.1 = [.accept] := by
    rw [show user.1 = _ from hverdicts]
    decide
  exact ⟨hraw, hvalues.trans (congrArg (List.map _) haccept), haccept, htotals (by decide)⟩

end FrameSentry
