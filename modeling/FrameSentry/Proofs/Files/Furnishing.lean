import FrameSentry.Proofs.Files.Walks

/-! What the making of directories does to files: nothing. Each file stays where it is, and there is no other. A path can
    lead to more afterwards, but only if it goes up again from a directory that was missing: a path that never goes up
    leads to a file just if it led to it before. -/

namespace FrameSentry

/-- One place lies above another, or is the same. -/
def Place.Above (p q : Place) : Prop := p.anchor = q.anchor ∧ p.names <:+ q.names

theorem Place.above_next (p : Place) {name : String} (hup : name ≠ "..") : p.Above (p.next name) := by
  cases hidle : Path.isIdle name with
  | true =>
    rw [next, if_pos hidle]
    exact ⟨rfl, List.suffix_rfl⟩
  | false =>
    rw [p.next_of_proper hidle hup]
    exact ⟨rfl, List.suffix_cons name p.names⟩

namespace Files
variable {fs fs' : Files} {p q r : Place} {node : FileNode} {mode : Nat} {content : Bytes} {names : List String}

/-! ### Places above others -/

/-- Where something is, something is at every place above. -/
theorem find?_above (h : p.Above q) (hq : (fs.find? q).isSome) : (fs.find? p).isSome := by
  obtain ⟨a, names⟩ := p
  obtain ⟨b, _⟩ := q
  obtain ⟨rfl, l, rfl⟩ := h
  induction l with
  | nil => exact hq
  | cons name l ih =>
    refine ih ?_
    rw [List.cons_append, find?_child] at hq
    exact Option.isSome_of_isSome_bind hq

/-- A walk that never goes up leads below where it begins. What it needs are directories above its end. -/
theorem Leads.above (hup : ".." ∉ names) (hkeep : ∀ r, r.Above q → fs.HasDirectory r → fs'.HasDirectory r)
    (h : fs.Leads names p q) : p.Above q ∧ fs'.Leads names p q := by
  induction names generalizing p with
  | nil =>
    obtain rfl := h
    exact ⟨⟨rfl, List.suffix_rfl⟩, rfl⟩
  | cons name names ih =>
    obtain ⟨hp, hname, hrest⟩ := h
    simp only [List.mem_cons, not_or] at hup
    obtain ⟨hbelow, hleads⟩ := ih hup.2 hrest
    have hnext := p.above_next (Ne.symm hup.1)
    have habove : p.Above q := ⟨hnext.1.trans hbelow.1, hnext.2.trans hbelow.2⟩
    exact ⟨habove, hkeep p habove hp, hname, hleads⟩

/-! ### Directories that are made -/

/-- What is put at a place is found there, unless nothing changes. -/
theorem node?_put_self (fs : Files) (p : Place) (node : FileNode) :
    (fs.put p node).node? p = some node ∨ (fs.put p node).node? p = fs.node? p := by
  obtain ⟨a, _ | ⟨name, above⟩⟩ := p
  · exact Or.inr rfl
  cases habove : fs.find? ⟨a, above⟩ with
  | some x =>
    left
    rw [node?, find?_put_self (Option.isSome_of_eq_some habove)]
    rfl
  | none =>
    -- There is nothing to put it in, neither before nor after.
    right
    have hne : (⟨a, above⟩ : Place) ≠ ⟨a, name :: above⟩ := fun h => List.cons_ne_self name above (congrArg Place.names h).symm
    have hafter : (fs.put ⟨a, name :: above⟩ node).node? ⟨a, above⟩ = none := by
      rw [node?_put_of_ne hne, node?, habove]
      rfl
    rw [node?, node?, find?_child, find?_child, habove, Option.map_eq_none_iff.mp hafter]

/-- Nothing is taken away, and every file was there before. -/
structure Furnishes (fs fs' : Files) : Prop where
  grows : fs.Grows fs'
  files : ∀ {p mode content}, fs'.node? p = some (.file mode content) → fs.node? p = some (.file mode content)

namespace Furnishes

theorem refl (fs : Files) : fs.Furnishes fs := ⟨.refl fs, id⟩

theorem trans {fs'' : Files} (h₁ : fs.Furnishes fs') (h₂ : fs'.Furnishes fs'') : fs.Furnishes fs'' :=
  ⟨h₁.grows.trans h₂.grows, fun h => h₁.files (h₂.files h)⟩

theorem put (hnone : fs.find? p = none) (mode : Nat) : fs.Furnishes (fs.put p (.directory mode)) := by
  refine ⟨.put hnone _, fun {q mode' content} hq => ?_⟩
  by_cases hne : q = p
  · subst hne
    rcases node?_put_self fs q (.directory mode) with h | h
    · rw [h] at hq
      cases hq
    · exact h ▸ hq
  · rwa [node?_put_of_ne hne] at hq

theorem makeDirectories (fs : Files) (mode : Nat) (names : List String) :
    fs.Furnishes (fs.makeDirectories mode names).2 :=
  makeDirectories_rel refl trans (fun _ _ hnone => put hnone mode) fs names

/-- A directory that has a file below it was there before. -/
theorem directory_above (h : fs.Furnishes fs') (hfile : fs'.node? q = some (.file mode content)) (habove : p.Above q)
    (hp : fs'.HasDirectory p) : fs.HasDirectory p := by
  obtain ⟨x, hx, -⟩ := Option.map_eq_some_iff.mp (h.files hfile)
  obtain ⟨⟨node, below⟩, hfind⟩ := Option.isSome_iff_exists.mp (find?_above habove (Option.isSome_of_eq_some hx))
  have hnode : fs.node? p = some node := by rw [node?, hfind]; rfl
  obtain ⟨mode', hmode⟩ := hp
  obtain rfl : node = .directory mode' := Option.some.inj ((h.grows.kept hnode).symm.trans hmode)
  exact ⟨mode', hnode⟩

end Furnishes

/-! ### Where a path leads -/

theorem look_eq_some {text : String} : fs.look text = some node ↔ (Path.ofText text).check = .ok () ∧
    ∃ q, fs.Leads (Path.ofText text).names ⟨(Path.ofText text).start, []⟩ q ∧ fs.node? q = some node := by
  unfold look resolve
  constructor
  · intro h
    simp only [bind, Except.bind] at h
    split at h
    · rename_i s hresolve
      split at hresolve
      · cases hresolve
      rename_i hcheck
      obtain ⟨q, hleads, hs⟩ := walk_ok hresolve
      exact ⟨hcheck, q, hleads, hs.node? ▸ h⟩
    · cases h
  · rintro ⟨hcheck, q, hleads, hq⟩
    obtain ⟨s, hwalk, hs⟩ := walk_of hleads
    simp only [hcheck, hwalk, bind, Except.bind]
    rw [hs.node?, hq]

/-- What a path leads to it leads to as long as nothing is taken away. -/
theorem Grows.look {text : String} (h : fs.Grows fs') (hlook : fs.look text = some node) : fs'.look text = some node := by
  obtain ⟨hcheck, q, hleads, hq⟩ := look_eq_some.mp hlook
  refine look_eq_some.mpr ⟨hcheck, q, hleads.mono (fun p ⟨mode, hmode⟩ => ⟨mode, h.kept hmode⟩), h.kept hq⟩

theorem Furnishes.look_file {text : String} (h : fs.Furnishes fs') (hup : ".." ∉ (Path.ofText text).names) :
    fs'.look text = some (.file mode content) ↔ fs.look text = some (.file mode content) := by
  refine ⟨fun hlook => ?_, h.grows.look⟩
  obtain ⟨hcheck, q, hleads, hq⟩ := look_eq_some.mp hlook
  obtain ⟨-, hleads⟩ := hleads.above hup fun p => h.directory_above hq
  exact look_eq_some.mpr ⟨hcheck, q, hleads, h.files hq⟩

end Files
end FrameSentry
