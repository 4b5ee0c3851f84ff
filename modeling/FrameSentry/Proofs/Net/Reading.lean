import Mathlib.Data.List.TakeWhile
import FrameSentry.Net.Address
import FrameSentry.Proofs.Text.Decimal

/-! How the readers of addresses take what they can from the front of a text. What they leave is the end of the text. And
    where nothing follows that could belong to an address they read the same as if nothing followed, so an address is
    read in the midst of a longer text just as it is read alone. -/

namespace FrameSentry.Net
variable {α β : Type} {stop stop' : Char → Prop} {s r rest : List Char} {c : Char}

/-! ### Readers that stop -/

/-- What follows a text is nothing, or begins with a character that is stopped at. -/
def Ends (stop : Char → Prop) (rest : List Char) : Prop := ∀ c ∈ rest.head?, stop c

theorem ends_cons : Ends stop (c :: rest) ↔ stop c := by simp [Ends]

/-- What is read from the front, with something more behind what is left. -/
def behind (rest : List Char) (read : Option (α × List Char)) : Option (α × List Char) :=
  read.map fun x => (x.1, x.2 ++ rest)

/-- A reader leaves the end of its text, and it reads the same before anything that begins with a character that it stops
    at. -/
structure Stops (stop : Char → Prop) (read : List Char → Option (α × List Char)) : Prop where
  suffix : ∀ {s x r}, read s = some (x, r) → r <:+ s
  append : ∀ s {rest}, Ends stop rest → read (s ++ rest) = behind rest (read s)

theorem readChar_eq_some : readChar c s = some r ↔ s = c :: r := by
  cases s with
  | nil => simp [readChar]
  | cons x s =>
    unfold readChar
    split <;> simp_all

theorem readChar_append (hrest : Ends (· ≠ c) rest) : readChar c (s ++ rest) = (readChar c s).map (· ++ rest) := by
  cases s with
  | nil =>
    cases rest with
    | nil => rfl
    | cons x rest => simp [readChar, ends_cons.mp hrest]
  | cons x s =>
    simp only [List.cons_append, readChar]
    split <;> rfl

namespace Stops
variable {read : List Char → Option (α × List Char)} {next : α → List Char → Option (β × List Char)}

theorem mono (h : Stops stop read) (hstop : ∀ c, stop' c → stop c) : Stops stop' read :=
  ⟨h.suffix, fun s _ hrest => h.append s fun c hc => hstop c (hrest c hc)⟩

protected theorem pure (x : α) : Stops stop fun s => some (x, s) :=
  ⟨fun h => by cases h; exact List.suffix_rfl, fun _ _ _ => rfl⟩

protected theorem bind (h : Stops stop read) (hnext : ∀ x, Stops stop (next x)) :
    Stops stop fun s => (read s).bind fun x => next x.1 x.2 where
  suffix hs := by
    obtain ⟨⟨x, r⟩, hx, hr⟩ := Option.bind_eq_some_iff.mp hs
    exact ((hnext x).suffix hr).trans (h.suffix hx)
  append s rest hrest := by
    rw [h.append s hrest]
    cases hs : read s with
    | none => rfl
    | some x => exact (hnext x.1).append x.2 hrest

protected theorem map (h : Stops stop read) (f : α → β) : Stops stop fun s => (read s).map fun x => (f x.1, x.2) where
  suffix hs := by
    obtain ⟨x, hx, heq⟩ := Option.map_eq_some_iff.mp hs
    cases heq
    exact h.suffix hx
  append s rest hrest := by
    rw [h.append s hrest]
    cases read s <;> rfl

/-- After a character that is not stopped at. -/
theorem after (h : Stops stop read) (hc : ∀ x, stop x → x ≠ c) : Stops stop fun s => (readChar c s).bind read where
  suffix hs := by
    obtain ⟨r, hr, hx⟩ := Option.bind_eq_some_iff.mp hs
    rw [readChar_eq_some.mp hr]
    exact (h.suffix hx).trans (List.suffix_cons c r)
  append s rest hrest := by
    rw [readChar_append fun x hx => hc x (hrest x hx)]
    cases hs : readChar c s with
    | none => rfl
    | some r => exact h.append r hrest

/-- What is read to the end of a text is read in front of more. -/
theorem whole_append (h : Stops stop read) {x : α} (hs : read s = some (x, [])) (hrest : Ends stop rest) :
    read (s ++ rest) = some (x, rest) := by
  rw [h.append s hrest, hs]
  rfl

/-- What is read in front of more is a text that is read to its end. -/
theorem whole_of_append (h : Stops stop read) {x : α} (hs : read s = some (x, rest)) (hrest : Ends stop rest) :
    ∃ t, s = t ++ rest ∧ read t = some (x, []) := by
  obtain ⟨t, rfl⟩ := h.suffix hs
  refine ⟨t, rfl, ?_⟩
  rw [h.append t hrest] at hs
  obtain ⟨⟨y, r⟩, ht, heq⟩ := Option.map_eq_some_iff.mp hs
  simp only [Prod.mk.injEq, List.append_left_eq_self] at heq
  rw [ht, heq.1, heq.2]

end Stops

/-! ### Numbers -/

theorem span_append (base : Nat) (s : List Char) (hrest : Ends (Numeral.isDigit base · = false) rest) :
    Numeral.span base (s ++ rest) = ((Numeral.span base s).1, (Numeral.span base s).2 ++ rest) := by
  unfold Numeral.span
  induction s with
  | nil =>
    cases rest with
    | nil => rfl
    | cons c rest => simp [ends_cons.mp hrest]
  | cons c s ih =>
    simp only [Prod.mk.injEq] at ih
    cases hc : Numeral.isDigit base c <;> simp [hc, ih.1, ih.2]

/-- Whether a number is read, and which, depends on its digits alone; what follows them is left. -/
theorem readNumber_eq (base : Nat) (most : Option Nat) (leadingZero : Bool) (limit : Nat) :
    ∃ accept : List Char → Option Nat, ∀ s, readNumber base most leadingZero limit s =
      (accept (Numeral.span base s).1).map fun n => (n, (Numeral.span base s).2) := by
  refine ⟨fun digits => if digits = [] then none else if most.any (· < digits.length) then none
    else if !leadingZero && digits.head? == some '0' && 1 < digits.length then none
    else if Numeral.value base digits < limit then some (Numeral.value base digits) else none, fun s => ?_⟩
  unfold readNumber
  simp only [apply_ite (Option.map _), Option.map_none, Option.map_some]

theorem stops_readNumber (base : Nat) (most : Option Nat) (leadingZero : Bool) (limit : Nat) :
    Stops (Numeral.isDigit base · = false) (readNumber base most leadingZero limit) := by
  obtain ⟨accept, heq⟩ := readNumber_eq base most leadingZero limit
  refine ⟨fun {s x r} h => ?_, fun s rest hrest => ?_⟩
  · rw [heq] at h
    obtain ⟨n, -, hr⟩ := Option.map_eq_some_iff.mp h
    cases hr
    exact List.dropWhile_suffix _
  · rw [heq, heq, span_append base s hrest]
    cases accept (Numeral.span base s).1 <;> rfl

/-! ### Addresses -/

/-- No digit of this base, and none of the characters between the numbers of an address. -/
def Foreign (base : Nat) (between : List Char) (c : Char) : Prop := Numeral.isDigit base c = false ∧ c ∉ between

theorem stops_readOctet : Stops (Numeral.isDigit 10 · = false) readOctet :=
  (stops_readNumber 10 (some 3) false 256).map UInt8.ofNat

theorem stops_readGroup : Stops (Numeral.isDigit 16 · = false) readGroup :=
  (stops_readNumber 16 (some 4) true 65536).map UInt16.ofNat

theorem stops_readIpv4 : Stops (Foreign 10 ['.']) readIpv4 := by
  have hfirst : Stops (Foreign 10 ['.']) readOctet := stops_readOctet.mono fun _ hc => hc.1
  have hnext : Stops (Foreign 10 ['.']) fun s => (readChar '.' s).bind readOctet :=
    hfirst.after fun _ hc => List.ne_of_not_mem_cons hc.2
  exact hfirst.bind fun a => hnext.bind fun b => hnext.bind fun c => hnext.bind fun d => .pure (Ipv4.mk a b c d)

/-- A decimal digit is a hexadecimal one. -/
theorem isDigit_sixteen (h : Numeral.isDigit 16 c = false) : Numeral.isDigit 10 c = false := by
  rw [← Bool.not_eq_true] at h ⊢
  refine fun hten => h ?_
  unfold Numeral.isDigit Numeral.digit? at hten ⊢
  simp only [Option.isSome_ite] at hten ⊢
  split at hten
  · rename_i hdigit
    rw [if_pos hdigit]
    omega
  · split at hten
    · omega
    · split at hten <;> omega

/-- What ends every part of an address of version 6. -/
abbrev Apart : Char → Prop := Foreign 16 ['.', ':']

theorem stops_afterColon {read : List Char → Option (α × List Char)} (h : Stops Apart read) (first : Bool) :
    Stops Apart (afterColon first read) := by
  cases first with
  | true => exact h
  | false => exact h.after fun _ hc => List.ne_of_not_mem_cons (List.not_mem_of_not_mem_cons hc.2)

theorem stops_firstDotted (first : Bool) : Stops Apart (afterColon first readIpv4) :=
  stops_afterColon (stops_readIpv4.mono fun _ hc =>
    ⟨isDigit_sixteen hc.1, by simpa using List.ne_of_not_mem_cons hc.2⟩) first

theorem stops_firstGroup (first : Bool) : Stops Apart (afterColon first readGroup) :=
  stops_afterColon (stops_readGroup.mono fun _ hc => hc.1) first

/-- The groups that are read stand at the front. -/
theorem readGroups_suffix (room : Nat) (first : Bool) (s : List Char) : (readGroups room first s).2.2 <:+ s := by
  induction room generalizing first s with
  | zero => exact List.suffix_rfl
  | succ room ih =>
    unfold readGroups
    split
    · rename_i x rest hx
      split at hx
      · cases hx
      · exact (stops_firstDotted first).suffix hx
    · split
      · rename_i g rest hg
        exact (ih false rest).trans ((stops_firstGroup first).suffix hg)
      · exact List.suffix_rfl

theorem readGroups_append (room : Nat) (first : Bool) (s : List Char) (hrest : Ends Apart rest) :
    readGroups room first (s ++ rest) =
      ((readGroups room first s).1, (readGroups room first s).2.1, (readGroups room first s).2.2 ++ rest) := by
  induction room generalizing first s with
  | zero => rfl
  | succ room ih =>
    unfold readGroups
    rw [(stops_firstDotted first).append s hrest, (stops_firstGroup first).append s hrest]
    by_cases hroom : room = 0
    · simp only [hroom, if_true]
      cases hg : afterColon first readGroup s with
      | none => rfl
      | some x => simp only [behind, Option.map_some, ← hroom, ih]
    · simp only [hroom, if_false]
      cases hx : afterColon first readIpv4 s with
      | some x => rfl
      | none =>
        cases hg : afterColon first readGroup s with
        | none => rfl
        | some x => simp only [behind, Option.map_some, Option.map_none, ih]

theorem stops_readIpv6 : Stops Apart readIpv6 where
  suffix {s x r} h := by
    have hhead := readGroups_suffix 8 true s
    unfold readIpv6 at h
    simp only at h
    split at h
    · cases h
      exact hhead
    split at h
    · cases h
    split at h
    · cases h
    rename_i rest hcolons
    cases h
    obtain ⟨r₁, hr₁, hr⟩ := Option.bind_eq_some_iff.mp hcolons
    have htail := readGroups_suffix (7 - (readGroups 8 true s).1.length) true rest
    rw [readChar_eq_some] at hr₁ hr
    rw [hr₁, hr] at hhead
    exact htail.trans (((List.suffix_cons _ _).trans (List.suffix_cons _ _)).trans hhead)
  append s rest hrest := by
    have hcolon : ∀ r, readChar ':' (r ++ rest) = (readChar ':' r).map (· ++ rest) :=
      fun r => readChar_append fun c hc => List.ne_of_not_mem_cons (List.not_mem_of_not_mem_cons (hrest c hc).2)
    unfold readIpv6
    simp only [readGroups_append 8 true s hrest]
    split
    · rfl
    split
    · rfl
    rw [hcolon]
    cases readChar ':' (readGroups 8 true s).2.2 with
    | none => rfl
    | some r =>
      simp only [Option.map_some, bind, Option.bind, hcolon]
      cases readChar ':' r with
      | none => rfl
      | some r => simp only [Option.map_some, readGroups_append _ true r hrest, behind]

theorem readIpv6_of_readIpv4 {x : Ipv4} (h : readIpv4 s = some (x, r)) : readIpv6 s = none := by
  unfold readIpv6 readGroups
  simp [afterColon, h]

theorem readWhole_eq_some {read : List Char → Option (α × List Char)} {t : String} {x : α} :
    readWhole read t = some x ↔ read t.toList = some (x, []) := by
  unfold readWhole
  split <;> simp_all

/-- No text is an address of both versions. -/
theorem parse?_eq_v4 {t : String} {x : Ipv4} : Ip.parse? t = some (.v4 x) ↔ readIpv4 t.toList = some (x, []) := by
  unfold Ip.parse?
  rw [← readWhole_eq_some]
  cases h : readWhole readIpv4 t <;> cases readWhole readIpv6 t <;> simp

theorem parse?_eq_v6 {t : String} {x : Ipv6} : Ip.parse? t = some (.v6 x) ↔ readIpv6 t.toList = some (x, []) := by
  unfold Ip.parse?
  rw [← readWhole_eq_some]
  cases h : readWhole readIpv4 t with
  | none => cases readWhole readIpv6 t <;> simp
  | some y =>
    have hnone : readWhole readIpv6 t = none := by
      unfold readWhole
      rw [readIpv6_of_readIpv4 (readWhole_eq_some.mp h)]
    simp [hnone]

theorem readNumber_of_foreign {base : Nat} (h : Numeral.isDigit base c = false) (most : Option Nat) (leadingZero : Bool)
    (limit : Nat) (s : List Char) : readNumber base most leadingZero limit (c :: s) = none := by
  simp [readNumber, Numeral.span, h]

/-- No address begins with a bracket. -/
theorem parse?_of_bracket {t : String} (h : t.toList = '[' :: s) : Ip.parse? t = none := by
  have hv4 : readIpv4 ('[' :: s) = none := by
    simp [readIpv4, readOctet, readNumber_of_foreign (show Numeral.isDigit 10 '[' = false by decide)]
  have hgroup : readGroup ('[' :: s) = none := by
    simp [readGroup, readNumber_of_foreign (show Numeral.isDigit 16 '[' = false by decide)]
  have hv6 : readIpv6 ('[' :: s) = none := by
    unfold readIpv6 readGroups
    simp [afterColon, hv4, hgroup, readChar]
  simp [Ip.parse?, readWhole, h, hv4, hv6]

/-! ### Ports and scopes -/

/-- Decimal digits, at least one, and their value. -/
def Decimal (digits : List Char) (n : Nat) : Prop :=
  digits ≠ [] ∧ (∀ c ∈ digits, c.isDigit = true) ∧ Nat.ofDigitChars 10 digits 0 = n

theorem decimal_write (n : Nat) : Decimal (Numeral.write 10 n) n :=
  ⟨Nat.toDigits_ne_nil, fun _ => Nat.isDigit_of_mem_toDigits (by decide) (by decide), Nat.ofDigitChars_ten_toDigits⟩

/-- The digits of a decimal number are taken as far as they go. -/
theorem readDecimal_eq_some {limit n : Nat} : readNumber 10 none true limit s = some (n, r) ↔
    ∃ digits, s = digits ++ r ∧ Decimal digits n ∧ n < limit ∧ Ends (Numeral.isDigit 10 · = false) r := by
  constructor
  · intro h
    unfold readNumber Numeral.span at h
    simp only [Option.any_none, Bool.false_eq_true, if_false, Bool.not_true, Bool.false_and,
      Option.ite_none_left_eq_some, Option.ite_none_right_eq_some, Option.some.injEq, Prod.mk.injEq] at h
    obtain ⟨hne, hlimit, rfl, rfl⟩ := h
    have hdigits : ∀ c ∈ s.takeWhile (Numeral.isDigit 10), c.isDigit = true :=
      fun c hc => Numeral.isDigit_ten c ▸ List.mem_takeWhile_imp hc
    rw [Numeral.value_ten hdigits] at hlimit ⊢
    refine ⟨_, List.takeWhile_append_dropWhile.symm, ⟨hne, hdigits, rfl⟩, hlimit, fun c hc => ?_⟩
    have hnot := List.head?_dropWhile_not (Numeral.isDigit 10) s
    rwa [Option.mem_def.mp hc] at hnot
  · rintro ⟨digits, rfl, ⟨hne, hdigits, rfl⟩, hlimit, hr⟩
    have hten : ∀ c ∈ digits, Numeral.isDigit 10 c = true := fun c hc => Numeral.isDigit_ten c ▸ hdigits c hc
    have hspan : Numeral.span 10 (digits ++ r) = (digits, r) := by
      rw [span_append 10 digits hr]
      simp only [Numeral.span, List.takeWhile_eq_self_iff.mpr hten, List.dropWhile_eq_nil_iff.mpr hten, List.nil_append]
    unfold readNumber
    simp only [hspan, Numeral.value_ten hdigits, if_neg hne, Option.any_none, Bool.not_true, Bool.false_and,
      Bool.false_eq_true, if_false, if_pos hlimit]

theorem readPort_eq_some {p : UInt16} : readPort s = some (p, r) ↔
    ∃ digits, s = ':' :: (digits ++ r) ∧ Decimal digits p.toNat ∧ Ends (Numeral.isDigit 10 · = false) r := by
  unfold readPort
  simp only [bind, Option.bind_eq_some_iff, readChar_eq_some, pure, Option.some.injEq]
  constructor
  · rintro ⟨s', rfl, ⟨n, r'⟩, hn, heq⟩
    cases heq
    obtain ⟨digits, rfl, hdigits, hlimit, hr⟩ := readDecimal_eq_some.mp hn
    exact ⟨digits, rfl, by rwa [UInt16.toNat_ofNat_of_lt' hlimit], hr⟩
  · rintro ⟨digits, rfl, hdigits, hr⟩
    exact ⟨_, rfl, (p.toNat, r), readDecimal_eq_some.mpr ⟨digits, rfl, hdigits, p.toNat_lt, hr⟩, by simp⟩

/-- The last colon of a text stands before its port. -/
theorem readPort_last {p port : UInt16} :
    readPort (s ++ ':' :: Numeral.write 10 port.toNat) = some (p, []) ↔ s = [] ∧ p = port := by
  have hport := decimal_write port.toNat
  rw [readPort_eq_some]
  constructor
  · rintro ⟨digits, heq, hdigits, -⟩
    rw [List.append_nil] at heq
    cases s with
    | nil =>
      obtain rfl : Numeral.write 10 port.toNat = digits := (List.cons.inj heq).2
      exact ⟨rfl, UInt16.toNat_inj.mp (hdigits.2.2.symm.trans hport.2.2)⟩
    | cons c s =>
      obtain rfl : s ++ ':' :: Numeral.write 10 port.toNat = digits := (List.cons.inj heq).2
      exact absurd (hdigits.2.1 ':' (by simp)) (by decide)
  · rintro ⟨rfl, rfl⟩
    exact ⟨_, (List.append_nil _).symm ▸ rfl, hport, nofun⟩

/-- What stands between an address of version 6 and its closing bracket: nothing, or a percent sign and the number of a
    scope. -/
def Zone (zone : List Char) (scope : UInt32) : Prop :=
  zone = [] ∧ scope = 0 ∨ ∃ digits, zone = '%' :: digits ∧ Decimal digits scope.toNat

theorem readScope_eq_some {scope : UInt32} :
    readScope s = some (scope, ']' :: r) ↔ ∃ zone, s = zone ++ ']' :: r ∧ Zone zone scope := by
  constructor
  · intro h
    unfold readScope at h
    split at h
    · obtain ⟨⟨n, r'⟩, hn, heq⟩ := Option.map_eq_some_iff.mp h
      cases heq
      obtain ⟨digits, rfl, hdigits, hlimit, -⟩ := readDecimal_eq_some.mp hn
      exact ⟨'%' :: digits, rfl, Or.inr ⟨digits, rfl, by rwa [UInt32.toNat_ofNat_of_lt' hlimit]⟩⟩
    · cases h
      exact ⟨[], rfl, Or.inl ⟨rfl, rfl⟩⟩
  · rintro ⟨zone, rfl, ⟨rfl, rfl⟩ | ⟨digits, rfl, hdigits⟩⟩
    · rfl
    · have hn : readNumber 10 none true 4294967296 (digits ++ ']' :: r) = some (scope.toNat, ']' :: r) :=
        readDecimal_eq_some.mpr ⟨digits, rfl, hdigits, scope.toNat_lt, ends_cons.mpr (by decide)⟩
      simp [readScope, hn]

/-! ### An address with a port behind it -/

section Pasted
variable {port : UInt16} {x : SocketAddress}

theorem readSocketV4_pasted : readSocketV4 (s ++ ':' :: Numeral.write 10 port.toNat) = some (x, []) ↔
    ∃ ip, readIpv4 s = some (ip, []) ∧ x = ⟨.v4 ip, 0, port⟩ := by
  have hends : Ends (Foreign 10 ['.']) (':' :: Numeral.write 10 port.toNat) := ends_cons.mpr ⟨by decide, by decide⟩
  unfold readSocketV4
  simp only [bind, Option.bind_eq_some_iff, pure, Option.some.injEq]
  constructor
  · rintro ⟨⟨ip, r⟩, hip, ⟨p, r'⟩, hp, heq⟩
    cases heq
    rw [stops_readIpv4.append s hends] at hip
    obtain ⟨⟨ip', r₁⟩, hs, heq⟩ := Option.map_eq_some_iff.mp hip
    cases heq
    obtain ⟨rfl, rfl⟩ := readPort_last.mp hp
    exact ⟨ip', hs, rfl⟩
  · rintro ⟨ip, hs, rfl⟩
    exact ⟨_, stops_readIpv4.whole_append hs hends, (port, []), (readPort_last (s := [])).mpr ⟨rfl, rfl⟩, rfl⟩

/-- The parts before and behind the last place of a character. -/
theorem eq_of_last {before before' behind behind' : List Char} (hbehind : c ∉ behind) (hbehind' : c ∉ behind')
    (h : before ++ c :: behind = before' ++ c :: behind') : before = before' ∧ behind = behind' := by
  rcases List.append_eq_append_iff.mp h with ⟨m, rfl, hm⟩ | ⟨m, rfl, hm⟩ <;> cases m with
  | nil => simp_all
  | cons y m =>
    obtain ⟨rfl, rfl⟩ := List.cons.inj hm
    simp at hbehind hbehind'

theorem readSocketV6_pasted : readSocketV6 (s ++ ':' :: Numeral.write 10 port.toNat) = some (x, []) ↔
    ∃ t zone ip scope, s = '[' :: (t ++ (zone ++ [']'])) ∧ readIpv6 t = some (ip, []) ∧ Zone zone scope ∧
      x = ⟨.v6 ip, scope, port⟩ := by
  have hends : ∀ {zone scope r}, Zone zone scope → Ends Apart (zone ++ ']' :: r) := by
    rintro zone scope r (⟨rfl, -⟩ | ⟨digits, rfl, -⟩)
    · exact ends_cons.mpr ⟨by decide, by decide⟩
    · exact ends_cons.mpr ⟨by decide, by decide⟩
  unfold readSocketV6
  simp only [bind, Option.bind_eq_some_iff, readChar_eq_some, pure, Option.some.injEq]
  constructor
  · rintro ⟨s₁, hopen, ⟨ip, s₂⟩, hip, ⟨scope, s₃⟩, hscope, s₄, rfl, ⟨p, s₅⟩, hport, heq⟩
    cases heq
    obtain ⟨zone, rfl, hzone⟩ := readScope_eq_some.mp hscope
    obtain ⟨t, rfl, ht⟩ := stops_readIpv6.whole_of_append hip (hends hzone)
    obtain ⟨digits, rfl, hdigits, -⟩ := readPort_eq_some.mp hport
    have hwrite := decimal_write port.toNat
    have hcolon : ∀ {l n}, Decimal l n → ':' ∉ l := fun hl hmem => absurd (hl.2.1 ':' hmem) (by decide)
    have htext : s ++ ':' :: Numeral.write 10 port.toNat = '[' :: (t ++ (zone ++ [']'])) ++ ':' :: digits := by
      rw [hopen]
      simp
    obtain ⟨rfl, rfl⟩ := eq_of_last (hcolon hwrite) (hcolon hdigits) htext
    refine ⟨t, zone, ip, scope, rfl, ht, hzone, ?_⟩
    rw [UInt16.toNat_inj.mp (hdigits.2.2.symm.trans hwrite.2.2)]
  · rintro ⟨t, zone, ip, scope, rfl, ht, hzone, rfl⟩
    exact ⟨t ++ (zone ++ ']' :: ':' :: Numeral.write 10 port.toNat), by simp,
      _, stops_readIpv6.whole_append ht (hends hzone), _, readScope_eq_some.mpr ⟨zone, rfl, hzone⟩, _, rfl,
      (port, []), (readPort_last (s := [])).mpr ⟨rfl, rfl⟩, rfl⟩

end Pasted

end FrameSentry.Net
