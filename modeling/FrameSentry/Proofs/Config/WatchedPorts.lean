import Mathlib.Data.Finset.Card
import Mathlib.Data.List.Sort
import FrameSentry.Engine.Settings

/-! The ports that are watched. Rules are added and removed by their names, in whatever order; in the end there are those
    that were added last under their names and not removed since, in the order in which they were added. What is watched
    are the ports of the configuration and of these rules together. The watch list depends on nothing but this set and the
    limit on its size: neither on the order of ports or rules, nor on how often a port is named. -/

namespace FrameSentry

/-! ### Changes of the rules -/

/-- A rule is added, or the rule of a name is removed. -/
inductive RuleChange where
  | add (rule : PortRule)
  | remove (id : String)

namespace RuleChange

/-- The name that is changed. -/
def id : RuleChange → String
  | .add rule => rule.id
  | .remove id => id

def apply (s : EngineSettings) : RuleChange → EngineSettings
  | .add rule => s.addRule rule
  | .remove id => (s.removeRule id).2

/-- No change has this name. -/
def Spare (changes : List RuleChange) (id : String) : Prop := ∀ x ∈ changes, x.id ≠ id

instance (changes : List RuleChange) (id : String) : Decidable (Spare changes id) :=
  inferInstanceAs (Decidable (∀ x ∈ changes, x.id ≠ id))

/-- The rules whose names are not changed after they are added, in the order in which they are added. -/
def surviving : List RuleChange → List PortRule
  | [] => []
  | .add rule :: later => if Spare later rule.id then rule :: surviving later else surviving later
  | .remove _ :: later => surviving later

variable {changes : List RuleChange} {rule : PortRule} {id : String}

theorem mem_surviving_cons {x : RuleChange} {later : List RuleChange} :
    rule ∈ surviving (x :: later) ↔ (x = .add rule ∧ Spare later rule.id) ∨ rule ∈ surviving later := by
  cases x with
  | remove id => simp [surviving]
  | add r =>
    by_cases hspare : Spare later r.id
    · rw [surviving, if_pos hspare, List.mem_cons, RuleChange.add.injEq, eq_comm]
      exact or_congr_left ⟨fun h => ⟨h, h ▸ hspare⟩, And.left⟩
    · rw [surviving, if_neg hspare, RuleChange.add.injEq]
      refine (or_iff_right ?_).symm
      rintro ⟨rfl, h⟩
      exact hspare h

/-- A rule survives if it is added and its name is not changed any more. -/
theorem mem_surviving : rule ∈ surviving changes ↔
    ∃ before later, changes = before ++ .add rule :: later ∧ Spare later rule.id := by
  induction changes with
  | nil => simp [surviving]
  | cons x later ih =>
    rw [mem_surviving_cons, ih]
    constructor
    · rintro (⟨rfl, hspare⟩ | ⟨before, later', rfl, hspare⟩)
      · exact ⟨[], later, rfl, hspare⟩
      · exact ⟨x :: before, later', rfl, hspare⟩
    · rintro ⟨_ | ⟨y, before⟩, later', heq, hspare⟩
      · obtain ⟨rfl, rfl⟩ := List.cons.inj heq
        exact Or.inl ⟨rfl, hspare⟩
      · obtain ⟨rfl, rfl⟩ := List.cons.inj heq
        exact Or.inr ⟨before, later', rfl, hspare⟩

/-- No two of the rules that survive have one name. -/
theorem pairwise_surviving (changes : List RuleChange) : (surviving changes).Pairwise (·.id ≠ ·.id) := by
  induction changes with
  | nil => exact .nil
  | cons x later ih =>
    cases x with
    | remove id => exact ih
    | add rule =>
      by_cases hspare : Spare later rule.id
      · rw [surviving, if_pos hspare]
        refine List.pairwise_cons.mpr ⟨fun r hr => ?_, ih⟩
        obtain ⟨before, later', rfl, -⟩ := mem_surviving.mp hr
        exact (hspare (.add r) (List.mem_append_right _ List.mem_cons_self)).symm
      · rw [surviving, if_neg hspare]
        exact ih

example : surviving [.add ⟨"web", [443], ""⟩, .add ⟨"dns", [53], ""⟩, .add ⟨"web", [80], ""⟩, .remove "mail"] =
    [⟨"dns", [53], ""⟩, ⟨"web", [80], ""⟩] := by decide

/-- Of the rules that were there those are left whose names are spared, and those that survive come behind them. -/
theorem foldl_apply_eq (s : EngineSettings) (changes : List RuleChange) : changes.foldl apply s =
    { s with rules := s.rules.filter (fun rule => decide (Spare changes rule.id)) ++ surviving changes } := by
  induction changes generalizing s with
  | nil => simp [Spare, surviving]
  | cons x later ih =>
    have hspare : ∀ rule : PortRule, Spare (x :: later) rule.id ↔ rule.id ≠ x.id ∧ Spare later rule.id := by
      intro rule
      rw [ne_comm]
      exact List.forall_mem_cons
    have hrules : (apply s x).rules.filter (fun rule => decide (Spare later rule.id)) ++ surviving later =
        s.rules.filter (fun rule => decide (Spare (x :: later) rule.id)) ++ surviving (x :: later) := by
      cases x with
      | remove id =>
        simp only [apply, EngineSettings.removeRule, List.filter_filter, surviving, hspare, RuleChange.id]
        congr 1
        exact List.filter_congr fun rule _ => by rw [Bool.eq_iff_iff]; simp [and_comm]
      | add rule =>
        simp only [apply, EngineSettings.addRule, List.filter_append, List.filter_filter, surviving, hspare,
          RuleChange.id, List.append_assoc]
        congr 1
        · exact List.filter_congr fun rule _ => by rw [Bool.eq_iff_iff]; simp [and_comm]
        · by_cases hlater : Spare later rule.id <;> simp [hlater]
    rw [List.foldl_cons, ih, hrules]
    cases x <;> rfl

theorem foldl_apply_ofConfig (c : Config) (changes : List RuleChange) :
    changes.foldl apply (.ofConfig c) = { EngineSettings.ofConfig c with rules := surviving changes } :=
  foldl_apply_eq _ changes

end RuleChange

/-! ### The watch list -/

namespace WatchList
variable {ports ports' : List UInt16}

/-- As many ports are watched as there are different ones. -/
theorem length_ascending (ports : List UInt16) : (ascending ports).length = ports.toFinset.card := by
  have hnodup : (ascending ports).Nodup := (pairwise_ascending ports).imp UInt16.ne_of_lt
  rw [← List.toFinset_card_of_nodup hnodup]
  congr 1
  ext p
  rw [List.mem_toFinset, List.mem_toFinset, mem_ascending]

/-- Lists of the same ports are the same in ascending order. -/
theorem ascending_congr (h : ports.toFinset = ports'.toFinset) : ascending ports = ascending ports' := by
  have hirrefl : Std.Irrefl (α := UInt16) (· < ·) := ⟨UInt16.lt_irrefl⟩
  refine (pairwise_ascending ports).eq_of_mem_iff (pairwise_ascending ports') fun p => ?_
  rw [mem_ascending, mem_ascending, ← List.mem_toFinset, h, List.mem_toFinset]

end WatchList

namespace EngineSettings
variable {s s' : EngineSettings}

theorem watchList_eq (s : EngineSettings) : s.watchList =
    if s.ports.toFinset = ∅ then .error (.invalidValue "filter.ports" "at least one port must be watched")
    else if 0 ∈ s.ports.toFinset then .error (.invalidValue "filter.ports" "port 0 is not valid")
    else if s.base.watchListLimit < s.ports.toFinset.card then
      .error (.invalidValue "filter.ports"
        s!"{s.ports.toFinset.card} watched ports exceed watch_list_max_entries ({s.base.watchListLimit})")
    else .ok ⟨WatchList.ascending s.ports⟩ := by
  have hsize : WatchList.size ⟨WatchList.ascending s.ports⟩ = s.ports.toFinset.card :=
    WatchList.length_ascending s.ports
  unfold watchList WatchList.ofPorts
  by_cases hnone : s.ports = []
  · simp [hnone, bind, Except.bind]
  by_cases hzero : 0 ∈ s.ports
  · simp [hnone, hzero, bind, Except.bind]
  · simp [hnone, hzero, bind, Except.bind, hsize]

/-- The watch list depends on the set of ports and on the limit alone. -/
theorem watchList_congr (hlimit : s.base.watchListLimit = s'.base.watchListLimit)
    (hports : s.ports.toFinset = s'.ports.toFinset) : s.watchList = s'.watchList := by
  rw [watchList_eq, watchList_eq, hlimit, hports, WatchList.ascending_congr hports]

theorem watchList_error_iff : (∃ e, s.watchList = .error e) ↔
    s.ports.toFinset = ∅ ∨ 0 ∈ s.ports.toFinset ∨ s.base.watchListLimit < s.ports.toFinset.card := by
  rw [watchList_eq]
  split
  · exact ⟨fun _ => Or.inl (by assumption), fun _ => ⟨_, rfl⟩⟩
  split
  · exact ⟨fun _ => Or.inr (Or.inl (by assumption)), fun _ => ⟨_, rfl⟩⟩
  split
  · exact ⟨fun _ => Or.inr (Or.inr (by assumption)), fun _ => ⟨_, rfl⟩⟩
  · constructor
    · rintro ⟨e, h⟩
      cases h
    · rintro (h | h | h) <;> contradiction

theorem watchList_ok {w : WatchList} (h : s.watchList = .ok w) : w = ⟨WatchList.ascending s.ports⟩ := by
  rw [watchList_eq] at h
  split at h
  · cases h
  split at h
  · cases h
  split at h
  · cases h
  · exact (Except.ok.inj h).symm

theorem removeRule_eq_true (s : EngineSettings) (id : String) :
    (s.removeRule id).1 = true ↔ ∃ rule ∈ s.rules, rule.id = id := by
  simp [removeRule]

/-- What is watched is the union of the configured ports and those of the rules that survive. However rules are added to
    a configuration and removed from it, in the end there are those whose names are not changed after they are added, in
    the order in which they are added, and no two of one name; and a rule can be removed just if the last change of its
    name added it. The watch list has each port of the union once, in ascending order, and contains no other. It is refused
    just if the union is empty, or port 0 is in it, or it has more ports than the configuration allows. Whatever other
    configurations and changes come to the same union, with the same limit, come to the same list or the same error. -/
theorem watched_union (c : Config) (changes : List RuleChange) :
    let s := changes.foldl RuleChange.apply (.ofConfig c)
    let union (c : Config) (changes : List RuleChange) : Finset UInt16 :=
      (c.filter.ports ++ (RuleChange.surviving changes).flatMap (·.ports)).toFinset
    let watched := union c changes
    s.rules = RuleChange.surviving changes ∧ (s.rules.map (·.id)).Nodup ∧
      (∀ id, (s.removeRule id).1 = true ↔ id ∈ s.rules.map (·.id)) ∧
      (∀ id, id ∈ s.rules.map (·.id) ↔ ∃ before rule later,
        changes = before ++ .add rule :: later ∧ rule.id = id ∧ ∀ x ∈ later, x.id ≠ id) ∧
      (∀ p, p ∈ watched ↔ p ∈ c.filter.ports ∨ ∃ rule ∈ s.rules, p ∈ rule.ports) ∧
      (∀ w, s.watchList = .ok w →
        w.ports.Pairwise (· < ·) ∧ (∀ p, p ∈ w.ports ↔ p ∈ watched) ∧ ∀ p, w.contains p = true ↔ p ∈ watched) ∧
      ((∃ e, s.watchList = .error e) ↔
        watched = ∅ ∨ 0 ∈ watched ∨ c.engine.watchListLimit < watched.card) ∧
      ∀ (c' : Config) (changes' : List RuleChange), c'.engine.watchListLimit = c.engine.watchListLimit →
        union c' changes' = watched →
        (changes'.foldl RuleChange.apply (.ofConfig c')).watchList = s.watchList := by
  intro s union watched
  have hs : s = { EngineSettings.ofConfig c with rules := RuleChange.surviving changes } :=
    RuleChange.foldl_apply_ofConfig c changes
  have hrules : s.rules = RuleChange.surviving changes := congrArg rules hs
  have hports : s.ports.toFinset = watched := congrArg (fun s => s.ports.toFinset) hs
  have hlimit : s.base.watchListLimit = c.engine.watchListLimit := congrArg (fun s => s.base.watchListLimit) hs
  refine ⟨hrules, ?_, fun id => ?_, fun id => ?_, fun p => ?_, fun w hw => ?_, ?_, ?_⟩
  · rw [hrules]
    exact List.pairwise_map.mpr (RuleChange.pairwise_surviving changes)
  · rw [removeRule_eq_true, List.mem_map]
  · rw [hrules, List.mem_map]
    constructor
    · rintro ⟨rule, hrule, rfl⟩
      obtain ⟨before, later, hchanges, hspare⟩ := RuleChange.mem_surviving.mp hrule
      exact ⟨before, rule, later, hchanges, rfl, hspare⟩
    · rintro ⟨before, rule, later, hchanges, rfl, hspare⟩
      exact ⟨rule, RuleChange.mem_surviving.mpr ⟨before, later, hchanges, hspare⟩, rfl⟩
  · rw [hrules, List.mem_toFinset, List.mem_append, List.mem_flatMap]
  · have hmem : ∀ p, p ∈ w.ports ↔ p ∈ watched := by
      intro p
      rw [watchList_ok hw, WatchList.mem_ascending, ← List.mem_toFinset, hports]
    refine ⟨?_, hmem, fun p => List.contains_iff_mem.trans (hmem p)⟩
    rw [watchList_ok hw]
    exact WatchList.pairwise_ascending s.ports
  · rw [watchList_error_iff, hports, hlimit]
  · intro c' changes' hlimit' hunion
    rw [RuleChange.foldl_apply_ofConfig]
    refine watchList_congr ?_ ?_
    · exact hlimit'.trans hlimit.symm
    · exact hunion.trans hports.symm

end EngineSettings
end FrameSentry
