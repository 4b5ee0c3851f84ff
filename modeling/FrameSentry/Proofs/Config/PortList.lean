import Mathlib.Data.List.Forall2
import FrameSentry.Proofs.Config.Fields
import FrameSentry.Proofs.Text.Decimal
import FrameSentry.Proofs.Text.Pieces

/-! Lists of ports in the environment. What counts in such a text are its segments: the pieces between commas, without the
    white space around them, and without those of which nothing is left. If each segment writes a port, the list is these
    ports in their order; if one does not, the list stays as it was. So ports that are written in decimal come back however
    much white space and however many empty pieces are put around them. -/

namespace FrameSentry

theorem mapM_eq_some {α β : Type} {f : α → Option β} {xs : List α} {ys : List β} :
    xs.mapM f = some ys ↔ List.Forall₂ (fun x y => f x = some y) xs ys := by
  induction xs generalizing ys with
  | nil =>
    rw [List.mapM_nil, List.forall₂_nil_left_iff]
    exact ⟨fun h => (Option.some.inj h).symm, fun h => h ▸ rfl⟩
  | cons x rest ih =>
    rw [List.mapM_cons, List.forall₂_cons_left_iff]
    simp only [Option.bind_eq_bind, Option.bind_eq_some_iff, Option.pure_def, Option.some.injEq, ih]
    constructor
    · rintro ⟨y, hy, ys, hys, rfl⟩
      exact ⟨y, ys, hy, hys, rfl⟩
    · rintro ⟨y, ys, hy, hys, rfl⟩
      exact ⟨y, hy, ys, hys, rfl⟩

namespace Config
variable {s : List Char} {segments pieces : List (List Char)} {ports : List UInt16} {p : UInt16}

/-! ### Segments -/

/-- What is left of the pieces of a text between commas, each without the white space around it, and the empty ones left
    out. -/
def Segments (s : List Char) (segments : List (List Char)) : Prop :=
  ∃ pieces cores, Pieces ',' s pieces ∧ List.Forall₂ Stripped pieces cores ∧ segments = cores.filter (· ≠ [])

/-- A text has these segments and no others. -/
theorem segments_iff :
    Segments s segments ↔ segments = ((splitAt ',' s).map trim).filter fun piece => !piece.isEmpty := by
  have hstripped : ∀ pieces cores, List.Forall₂ Stripped pieces cores ↔ cores = pieces.map trim := by
    intro pieces cores
    have hrel : Stripped = fun piece core => trim piece = core := by
      funext piece core
      exact propext (stripped_iff.trans eq_comm)
    rw [hrel, ← List.forall₂_map_left_iff, eq_comm]
    exact iff_of_eq (congrFun (congrFun List.forall₂_eq_eq_eq _) _)
  have hnone : (fun piece : List Char => !piece.isEmpty) = fun piece => decide (piece ≠ []) := by
    funext piece
    cases piece <;> rfl
  unfold Segments
  simp only [pieces_iff, hstripped, hnone]
  constructor
  · rintro ⟨_, _, rfl, rfl, rfl⟩
    rfl
  · rintro rfl
    exact ⟨_, _, rfl, rfl, rfl⟩

theorem readPortText_eq_some : readPortText s = some p ↔ Numeral.Writes s p.toNat := by
  unfold readPortText
  simp only [Option.map_eq_some_iff, Numeral.decimal?_eq_some]
  constructor
  · rintro ⟨n, ⟨hn, hlimit⟩, rfl⟩
    rwa [UInt16.toNat_ofNat_of_lt' hlimit]
  · intro h
    exact ⟨p.toNat, ⟨h, p.toNat_lt⟩, UInt16.ofNat_toNat⟩

/-- The text is a list of these ports. -/
def WritesPorts (s : List Char) (ports : List UInt16) : Prop :=
  ∃ segments, Segments s segments ∧ List.Forall₂ (fun segment p => Numeral.Writes segment p.toNat) segments ports

theorem readPorts_eq_some {text : String} : readPorts text = some ports ↔ WritesPorts text.toList ports := by
  unfold readPorts WritesPorts
  simp only [mapM_eq_some, readPortText_eq_some, segments_iff, exists_eq_left]

/-- Segments are those of a list of ports just if each of them writes a number that a port can have. -/
theorem forall₂_writes_iff :
    (∃ ports : List UInt16, List.Forall₂ (fun segment p => Numeral.Writes segment p.toNat) segments ports) ↔
      ∀ segment ∈ segments, ∃ n ≤ 65535, Numeral.Writes segment n := by
  induction segments with
  | nil => exact ⟨fun _ _ h => absurd h List.not_mem_nil, fun _ => ⟨[], .nil⟩⟩
  | cons segment rest ih =>
    rw [List.forall_mem_cons, ← ih]
    constructor
    · rintro ⟨_, _ | ⟨hwrites, hrest⟩⟩
      rename_i p ports
      exact ⟨⟨p.toNat, by have := p.toNat_lt; omega, hwrites⟩, ports, hrest⟩
    · rintro ⟨⟨n, hn, hwrites⟩, ports, hrest⟩
      refine ⟨UInt16.ofNat n :: ports, .cons ?_ hrest⟩
      rwa [UInt16.toNat_ofNat_of_lt' (Nat.lt_succ_of_le hn)]

/-! ### Ports with white space and empty pieces around them -/

/-- Pieces for these ports, each in decimal with white space around it, and among them pieces of white space alone. -/
inductive Spelled : List UInt16 → List (List Char) → Prop where
  | done : Spelled [] []
  | blank {space : List Char} {ports : List UInt16} {pieces : List (List Char)} (hspace : ∀ c ∈ space, isBlank c = true)
      (rest : Spelled ports pieces) : Spelled ports (space :: pieces)
  | port {before after : List Char} {p : UInt16} {ports : List UInt16} {pieces : List (List Char)}
      (hbefore : ∀ c ∈ before, isBlank c = true) (hafter : ∀ c ∈ after, isBlank c = true)
      (rest : Spelled ports pieces) : Spelled (p :: ports) ((before ++ Numeral.write 10 p.toNat ++ after) :: pieces)

theorem isBlank_of_isDigit {c : Char} (h : c.isDigit = true) : isBlank c = false := by
  have hrange : 48 ≤ c.toNat ∧ c.toNat ≤ 57 := by
    simp only [Char.isDigit, Bool.and_eq_true, decide_eq_true_eq, ge_iff_le, UInt32.le_iff_toNat_le] at h
    exact h
  simp [isBlank]
  omega

theorem stripped_blank (hspace : ∀ c ∈ s, isBlank c = true) : Stripped s [] :=
  ⟨⟨s, [], by simp, hspace, nofun⟩, nofun, nofun⟩

theorem stripped_write (n : Nat) {before after : List Char} (hbefore : ∀ c ∈ before, isBlank c = true)
    (hafter : ∀ c ∈ after, isBlank c = true) :
    Stripped (before ++ Numeral.write 10 n ++ after) (Numeral.write 10 n) := by
  have hdigit : ∀ c ∈ Numeral.write 10 n, isBlank c = false := fun c hc =>
    isBlank_of_isDigit (Nat.isDigit_of_mem_toDigits (by decide) (by decide) hc)
  exact ⟨⟨before, after, rfl, hbefore, hafter⟩, fun c hc => hdigit c (List.mem_of_mem_head? hc),
    fun c hc => hdigit c (List.mem_of_mem_getLast? hc)⟩

namespace Spelled

theorem free (h : Spelled ports pieces) : ∀ piece ∈ pieces, ',' ∉ piece := by
  have hblank : ∀ space : List Char, (∀ c ∈ space, isBlank c = true) → ',' ∉ space := fun space hspace hcomma =>
    absurd (hspace ',' hcomma) (by decide)
  have hdigits : ∀ n, ',' ∉ Numeral.write 10 n := fun n hcomma =>
    absurd (Nat.isDigit_of_mem_toDigits (by decide) (by decide) hcomma) (by decide)
  induction h with
  | done => exact nofun
  | blank hspace _ ih => exact List.forall_mem_cons.mpr ⟨hblank _ hspace, ih⟩
  | port hbefore hafter _ ih =>
    refine List.forall_mem_cons.mpr ⟨?_, ih⟩
    rw [List.mem_append, List.mem_append, not_or, not_or]
    exact ⟨⟨hblank _ hbefore, hdigits _⟩, hblank _ hafter⟩

theorem writes (h : Spelled ports pieces) : ∃ cores, List.Forall₂ Stripped pieces cores ∧
    List.Forall₂ (fun segment p => Numeral.Writes segment p.toNat) (cores.filter (· ≠ [])) ports := by
  induction h with
  | done => exact ⟨[], .nil, .nil⟩
  | blank hspace _ ih =>
    obtain ⟨cores, hcores, hports⟩ := ih
    exact ⟨[] :: cores, .cons (stripped_blank hspace) hcores, hports⟩
  | @port before after p _ _ hbefore hafter _ ih =>
    obtain ⟨cores, hcores, hports⟩ := ih
    refine ⟨Numeral.write 10 p.toNat :: cores, .cons (stripped_write _ hbefore hafter) hcores, ?_⟩
    rw [List.filter_cons_of_pos (by simp [Numeral.write, Nat.toDigits_ne_nil])]
    exact .cons (Numeral.writes_write _) hports

/-- A text of such pieces is a list of the ports. -/
theorem writesPorts (h : Spelled ports pieces) : WritesPorts ([','].intercalate pieces) ports := by
  have hpieces : ∀ pieces, pieces ≠ [] → Spelled ports pieces → WritesPorts ([','].intercalate pieces) ports := by
    intro pieces hne h
    obtain ⟨cores, hcores, hports⟩ := h.writes
    exact ⟨_, ⟨pieces, cores, ⟨hne, h.free, rfl⟩, hcores, rfl⟩, hports⟩
  cases pieces with
  | nil =>
    -- No pieces at all come to the same text as one piece with nothing in it.
    have hempty : Spelled ports [[]] := .blank nofun h
    exact hpieces [[]] (List.cons_ne_nil _ _) hempty
  | cons piece rest => exact hpieces _ (List.cons_ne_nil _ _) h

end Spelled

/-! ### The variable -/

/-- The variable of the ports decides on their list as a whole. Its text has certain segments. If each of them writes a
    number up to 65535, the list of ports is that of these numbers, in order and with repetitions; if one does not, the
    list is what it was. In particular a text that spells a list of ports, with whatever white space and empty pieces
    around them, gives just this list. -/
theorem port_list_exact (c : Config) {e : Environment} (t : Telemetry) {text : String}
    (hset : e.text? "PORTWATCH_FILTER_PORTS" = some text) :
    let ports := (c.applyEnvironment e t).1.filter.ports
    ∃ segments, (∀ other, Segments text.toList other ↔ other = segments) ∧
      ((∀ segment ∈ segments, ∃ n ≤ 65535, Numeral.Writes segment n) →
        List.Forall₂ (fun segment p => Numeral.Writes segment p.toNat) segments ports) ∧
      ((∃ segment ∈ segments, ∀ n ≤ 65535, ¬ Numeral.Writes segment n) → ports = c.filter.ports) ∧
      ∀ given pieces, Spelled given pieces → text.toList = [','].intercalate pieces → ports = given := by
  intro ports
  have hports : ports = (readPorts text).getD c.filter.ports := by
    have hget := get_applyEnvironment .ports c e t
    rw [Field.setting?, show Field.ports.key = "PORTWATCH_FILTER_PORTS" by decide +kernel, hset] at hget
    exact hget
  refine ⟨_, fun other => segments_iff, fun hall => ?_, ?_, fun given pieces hspelled htext => ?_⟩
  · obtain ⟨given, hgiven⟩ := forall₂_writes_iff.mpr hall
    have hread : readPorts text = some given := readPorts_eq_some.mpr ⟨_, segments_iff.mpr rfl, hgiven⟩
    rw [hports, hread]
    exact hgiven
  · rintro ⟨segment, hsegment, hbad⟩
    cases hread : readPorts text with
    | none => rw [hports, hread, Option.getD_none]
    | some given =>
      obtain ⟨segments, hsegments, hgiven⟩ := readPorts_eq_some.mp hread
      rw [segments_iff.mp hsegments] at hgiven
      obtain ⟨n, hn, hwrites⟩ := forall₂_writes_iff.mp ⟨given, hgiven⟩ segment hsegment
      exact absurd hwrites (hbad n hn)
  · have hread : readPorts text = some given := readPorts_eq_some.mpr (htext ▸ hspelled.writesPorts)
    rw [hports, hread, Option.getD_some]

/-- Ports that are spelled with white space and empty pieces around them, one of them twice; and a list in which the
    second number is one too large for a port, so that the first is not taken either. -/
theorem port_list_exact_spelled :
    let e (text : String) : Environment := ⟨[("PORTWATCH_FILTER_PORTS", some text)]⟩
    let ports (text : String) := (({} : Config).applyEnvironment (e text) .empty).1.filter.ports
    ports " 443,\t,80 ,,443," = [443, 80, 443] ∧ ports "443,65536" = [8000] := by
  intro e ports
  constructor
  · obtain ⟨_, -, -, -, hspelled⟩ := port_list_exact {} .empty (show (e " 443,\t,80 ,,443,").text? _ = some _ from rfl)
    have hspace : ∀ c ∈ [' '], isBlank c = true := List.forall_mem_singleton.mpr (by decide)
    have htab : ∀ c ∈ ['\t'], isBlank c = true := List.forall_mem_singleton.mpr (by decide)
    have hpieces : Spelled [443, 80, 443]
        [[' '] ++ Numeral.write 10 443 ++ [], ['\t'], [] ++ Numeral.write 10 80 ++ [' '], [],
          [] ++ Numeral.write 10 443 ++ [], []] :=
      .port hspace nofun (.blank htab (.port nofun hspace (.blank nofun (.port nofun nofun (.blank nofun .done)))))
    exact hspelled _ _ hpieces (by decide)
  · obtain ⟨segments, hsegments, -, hbad, -⟩ := port_list_exact {} .empty (show (e "443,65536").text? _ = some _ from rfl)
    have hsplit : ["443".toList, "65536".toList] = segments := (hsegments _).mp (segments_iff.mpr (by decide))
    have hread : Numeral.decimal? 65537 "65536".toList = some 65536 := by decide
    refine hbad ⟨"65536".toList, by rw [← hsplit]; decide, fun n hn hwrites => ?_⟩
    have hvalue : n = 65536 := hwrites.unique (Numeral.decimal?_eq_some.mp hread).1
    omega

end Config
end FrameSentry
