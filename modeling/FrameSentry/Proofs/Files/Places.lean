import FrameSentry.Files.Tree

/-! What a change at one place does to the others. To put something at a place, or to take it away, changes what stands
    there, if the place lies in something that is there; as long as the entries below it stay the same, what stands at
    every other place stays. -/

namespace FrameSentry

/-! ### Entries -/

namespace FileTree
variable {name n : String} {t : FileTree} {new : Option (FileNode × FileTree)} {node : FileNode}

theorem find?_drop (name n : String) (t : FileTree) :
    (t.drop name).find? n = if n = name then none else t.find? n := by
  induction t with
  | empty => split <;> rfl
  | entry here node below rest _ ih =>
    by_cases hhere : here = name
    · rw [drop, if_pos hhere, ih]
      split
      · rfl
      · rename_i hn
        rw [find?, if_neg fun h => hn (h.symm.trans hhere)]
    · rw [drop, if_neg hhere, find?, ih, find?]
      grind

theorem find?_set (name n : String) (new : Option (FileNode × FileTree)) (t : FileTree) :
    (t.set name new).find? n = if n = name then new else t.find? n := by
  cases new with
  | none => exact find?_drop name n t
  | some entry =>
    obtain ⟨node, below⟩ := entry
    by_cases hn : n = name
    · rw [set, find?, if_pos hn.symm, if_pos hn]
    · rw [set, find?, if_neg (Ne.symm hn), find?_drop, if_neg hn, if_neg hn]

/-- The entries below what is found, if anything is. -/
def entriesOf (found : Option (FileNode × FileTree)) : FileTree := (found.map (·.2)).getD .empty

/-- What lies further down depends only on the entries. -/
theorem bind_follow_cons (found : Option (FileNode × FileTree)) (name : String) (names : List String) :
    found.bind (follow (name :: names)) = ((entriesOf found).find? name).bind (follow names) := by
  cases found <;> rfl

theorem follow_append (names : List String) (name : String) (found : FileNode × FileTree) :
    follow (names ++ [name]) found = (follow names found).bind fun x => x.2.find? name := by
  induction names generalizing found with
  | nil =>
    obtain ⟨_, below⟩ := found
    cases hfind : below.find? name <;> simp [follow, hfind]
  | cons first names ih =>
    obtain ⟨_, below⟩ := found
    cases hfind : below.find? first <;> simp [follow, hfind, ih]

variable {above names : List String}

/-- What is put in is found, if there is something to put it in. -/
theorem follow_alter_self (habove : (follow above (node, t)).isSome) :
    follow (above ++ [name]) (node, t.alter (·.set name new) above) = new := by
  induction above generalizing t node with
  | nil => simp [follow, alter, find?_set]
  | cons first above ih =>
    cases hfind : t.find? first with
    | none => simp [follow, hfind] at habove
    | some entry =>
      obtain ⟨node', below⟩ := entry
      simp only [follow, hfind, Option.bind_some] at habove
      simp only [List.cons_append, follow, alter, hfind, find?_set, if_pos, Option.bind_some]
      exact ih habove

/-- What stands elsewhere stays, if the entries below stay the same. -/
theorem follow_alter_of_ne (hne : names ≠ above ++ [name])
    (hbelow : entriesOf (follow (above ++ [name]) (node, t)) = entriesOf new) :
    (follow names (node, t.alter (·.set name new) above)).map (·.1) = (follow names (node, t)).map (·.1) := by
  induction above generalizing t node names with
  | nil =>
    cases names with
    | nil => rfl
    | cons n names =>
      simp only [follow, alter, find?_set]
      split
      · rename_i hn
        subst hn
        -- Below the entry something is asked for, or else the names are those of the entry.
        cases names with
        | nil => exact absurd rfl hne
        | cons n' names =>
          rw [bind_follow_cons, bind_follow_cons, ← hbelow]
          congr 3
          cases hfind : t.find? n <;> simp [follow, hfind]
      · rfl
  | cons first above ih =>
    cases hfind : t.find? first with
    | none => simp only [alter, hfind]
    | some entry =>
      obtain ⟨node', below'⟩ := entry
      cases names with
      | nil => rfl
      | cons n names =>
        simp only [follow, alter, hfind, find?_set]
        split
        · rename_i hn
          subst hn
          simp only [hfind, Option.bind_some]
          refine ih (fun h => hne (by rw [h]; rfl)) ?_
          simpa only [List.cons_append, follow, hfind, Option.bind_some] using hbelow
        · rfl

end FileTree

/-! ### Places -/

namespace Files
variable {fs : Files} {p q : Place} {new : Option (FileNode × FileTree)} {a : Anchor} {name : String}
  {above : List String}

@[simp] theorem set_refusals (fs : Files) (p : Place) (new : Option (FileNode × FileTree)) :
    (fs.set p new).refusals = fs.refusals := by
  unfold set
  split <;> rfl

theorem find?_child (fs : Files) (a : Anchor) (name : String) (above : List String) :
    fs.find? ⟨a, name :: above⟩ = (fs.find? ⟨a, above⟩).bind fun x => x.2.find? name := by
  unfold find?
  rw [List.reverse_cons, FileTree.follow_append]

theorem lookup_others {l : List (Anchor × FileTree)} {a b : Anchor} (h : b ≠ a) :
    (l.filter (·.1 != a)).lookup b = l.lookup b := by
  induction l with
  | nil => rfl
  | cons x l ih =>
    obtain ⟨here, t⟩ := x
    by_cases hhere : here = a
    · subst hhere
      rw [List.filter_cons_of_neg (by simp), ih, List.lookup_cons, beq_false_of_ne h]
    · rw [List.filter_cons_of_pos (by simpa using hhere), List.lookup_cons, List.lookup_cons, ih]

theorem top_set (fs : Files) (a b : Anchor) (name : String) (above : List String)
    (new : Option (FileNode × FileTree)) : (fs.set ⟨a, name :: above⟩ new).top b =
      if b = a then (fs.top a).alter (·.set name new) above.reverse else fs.top b := by
  unfold set top
  simp only
  split
  · rename_i h
    subst h
    rw [List.lookup_cons_self, Option.getD_some]
  · rename_i h
    rw [List.lookup_cons, beq_false_of_ne h, lookup_others h]

/-- What is put at a place is found there, if there is a directory for it. -/
theorem find?_set_self (habove : (fs.find? ⟨a, above⟩).isSome) :
    (fs.set ⟨a, name :: above⟩ new).find? ⟨a, name :: above⟩ = new := by
  unfold find?
  rw [List.reverse_cons, top_set, if_pos rfl]
  exact FileTree.follow_alter_self habove

theorem node?_set_of_ne (hne : q ≠ p)
    (hbelow : FileTree.entriesOf (fs.find? p) = FileTree.entriesOf new) : (fs.set p new).node? q = fs.node? q := by
  obtain ⟨a, names⟩ := p
  obtain ⟨b, names'⟩ := q
  cases names with
  | nil => rfl
  | cons name above =>
    unfold node? find?
    rw [top_set]
    split
    · rename_i hanchor
      subst hanchor
      refine FileTree.follow_alter_of_ne (fun h => hne ?_) ?_
      · rw [← List.reverse_cons, List.reverse_inj] at h
        exact congrArg (Place.mk b) h
      · rw [← List.reverse_cons]
        exact hbelow
    · rfl

theorem find?_put_self {node : FileNode} (habove : (fs.find? ⟨a, above⟩).isSome) :
    (fs.put ⟨a, name :: above⟩ node).find? ⟨a, name :: above⟩ =
      some (node, FileTree.entriesOf (fs.find? ⟨a, name :: above⟩)) := find?_set_self habove

/-- What is put at a place leaves every other as it is. -/
theorem node?_put_of_ne {node : FileNode} (hne : q ≠ p) : (fs.put p node).node? q = fs.node? q :=
  node?_set_of_ne hne rfl

/-- So does the removal of what has nothing below it. -/
theorem node?_erase_of_ne (hne : q ≠ p) (hbelow : FileTree.entriesOf (fs.find? p) = .empty) :
    (fs.erase p).node? q = fs.node? q := node?_set_of_ne hne hbelow

@[simp] theorem permit_put (fs : Files) (p : Place) (node : FileNode) (op : FileOperation) :
    (fs.put p node).permit op = fs.permit op := by
  simp [permit, put]

@[simp] theorem permit_erase (fs : Files) (p : Place) (op : FileOperation) : (fs.erase p).permit op = fs.permit op := by
  simp [permit, erase]

end Files
end FrameSentry
