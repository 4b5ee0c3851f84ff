import FrameSentry.Engine.Run

/-! The outlets of the kernel. What waits for one reader is changed without touching what waits for the others, and
    the next load leaves all of it as it is. -/

namespace FrameSentry
namespace Kernel
variable {k : Kernel} {outlets outlets' : Nat → Outlet} {load : Nat}

@[simp] theorem loads_withOutlets (k : Kernel) (outlets : Nat → Outlet) : (k.withOutlets outlets).loads = k.loads := by
  simp [loads, withOutlets]

@[simp] theorem outlet_loads (k : Kernel) : k.outlet k.loads = ⟨k.maps.ring, k.inbox⟩ := by
  simp [outlet, loads]

/-- What the kernel does with the outlet in use leaves the others. -/
theorem outlet_of_former {k' : Kernel} (hformer : k'.former = k.former) (hload : load < k.loads) :
    k'.outlet load = k.outlet load := by
  have hlt : load < k.former.length := hload
  simp [outlet, hformer, List.getD_eq_getElem?_getD, hlt]

theorem outlet_withOutlets (hload : load ≤ k.loads) (outlets : Nat → Outlet) :
    (k.withOutlets outlets).outlet load = outlets load := by
  rcases Nat.lt_or_eq_of_le hload with hlt | rfl
  · simp [outlet, withOutlets, List.getD_eq_getElem?_getD, hlt]
  · have hcurrent := (k.withOutlets outlets).outlet_loads
    rwa [loads_withOutlets] at hcurrent

theorem withOutlets_congr (h : ∀ load ≤ k.loads, outlets load = outlets' load) :
    k.withOutlets outlets = k.withOutlets outlets' := by
  have hformer : (List.range k.loads).map outlets = (List.range k.loads).map outlets' :=
    List.map_congr_left fun load hload => h load (Nat.le_of_lt (List.mem_range.mp hload))
  unfold withOutlets
  rw [hformer, h k.loads (Nat.le_refl _)]

@[simp] theorem withOutlets_outlet (k : Kernel) : k.withOutlets k.outlet = k := by
  have hformer : (List.range k.loads).map k.outlet = k.former := by
    refine List.ext_getElem (by simp [loads]) fun n _ hn => ?_
    simp [outlet, List.getD_eq_getElem?_getD, hn]
  unfold withOutlets
  rw [hformer, outlet_loads]

theorem withOutlets_withOutlets (k : Kernel) (outlets outlets' : Nat → Outlet) :
    (k.withOutlets outlets).withOutlets outlets' = k.withOutlets outlets' := by
  have hloads := k.loads_withOutlets outlets
  unfold withOutlets at hloads ⊢
  simp only [hloads]

/-- The outlet that a load has already. -/
theorem setOutlet_outlet (k : Kernel) (load : Nat) : k.setOutlet load (k.outlet load) = k := by
  unfold setOutlet
  refine (withOutlets_congr fun n _ => ?_).trans k.withOutlets_outlet
  split
  · rename_i hn
    rw [hn]
  · rfl

theorem outlet_setOutlet (hload : load ≤ k.loads) (n : Nat) (o : Outlet) :
    (k.setOutlet n o).outlet load = if load = n then o else k.outlet load :=
  outlet_withOutlets hload _

@[simp] theorem setOutlet_ring (k : Kernel) (o : Outlet) : (k.setOutlet k.loads o).maps.ring = o.ring := by
  simp [setOutlet, withOutlets]

@[simp] theorem setOutlet_inbox (k : Kernel) (o : Outlet) : (k.setOutlet k.loads o).inbox = o.inbox := by
  simp [setOutlet, withOutlets]

@[simp] theorem loads_load (k : Kernel) (path : String) (o : Object) (processors watchSize ringSize : Nat) :
    (k.load path o processors watchSize ringSize).loads = k.loads + 1 := by
  simp [loads, load]

/-- A load leaves what waits for earlier readers. -/
theorem outlet_load (hload : load ≤ k.loads) (path : String) (o : Object) (processors watchSize ringSize : Nat) :
    (k.load path o processors watchSize ringSize).outlet load = k.outlet load := by
  rcases Nat.lt_or_eq_of_le hload with hlt | rfl
  · have hformer : load < k.former.length := hlt
    simp [outlet, Kernel.load, List.getD_eq_getElem?_getD, List.getElem?_append_left hformer, hformer]
  · simp [outlet, Kernel.load, loads]

/-- A packet reaches no socket but those that are open and have no filter. -/
theorem overhear_eq {opened : Nat → Bool} (h : ∀ load ≤ k.loads, opened load = true → k.unfiltered load = false)
    (data : Bytes) : k.overhear opened data = k := by
  unfold overhear
  refine (withOutlets_congr fun load hload => ?_).trans k.withOutlets_outlet
  cases hopened : opened load with
  | false => rfl
  | true => simp [h load hload hopened]

@[simp] theorem loads_overhear (k : Kernel) (opened : Nat → Bool) (data : Bytes) :
    (k.overhear opened data).loads = k.loads :=
  k.loads_withOutlets _

@[simp] theorem loads_failSocket (k : Kernel) (load : Nat) (reason : String) :
    (k.failSocket load reason).loads = k.loads :=
  k.loads_withOutlets _

/-- An open socket without a filter receives the whole of a packet. -/
theorem overhear_inbox {opened : Nat → Bool} (hopened : opened k.loads = true) (hfilter : k.unfiltered k.loads = true)
    (data : Bytes) : (k.overhear opened data).inbox = k.inbox ++ [.frame data] := by
  simp [overhear, withOutlets, hopened, hfilter]

end Kernel
end FrameSentry
