import BuildService.Proofs.Reading
import BuildService.SocketAddress
import Mathlib.Data.List.Basic
import Mathlib.Data.Nat.Digits.Defs
/-!
Which texts are addresses to listen on, and which addresses they mean.

The grammar (`SocketAddress.Written`) is said without the reader: its rules are about
whole texts and know nothing of what stands behind one. The reader is greedy. It takes
as many digits and as many groups as there are, and it takes four bytes wherever four
bytes can be read, so it agrees with the grammar only because of what may follow: a
number is not followed by another digit, a group not by a dot, and the last group
neither by one colon with a digit behind it. Each part of the reader has one lemma in
which these conditions are the ones of what is left over, and both directions are
read off it.
-/

set_option autoImplicit false

namespace BuildService.SocketAddress

/-! ## The grammar -/

/-- A digit of a base; the letters may be in either case. -/
def IsDigit (base : Nat) (c : Char) : Prop := ∃ v ∈ Text.hexValue? c, v < base

/-- The number that digits stand for, the last one the lowest. -/
def number (base : Nat) (ds : List Char) : Nat :=
  Nat.ofDigits base (ds.reverse.map fun c => (Text.hexValue? c).getD 0)

/-- A text that is a number below a bound, in not more digits than there may be. -/
structure Numeral (base bound : Nat) (most : Option Nat) (t : List Char) (n : Nat) : Prop where
  nonempty : t ≠ []
  digits : ∀ c ∈ t, IsDigit base c
  short : ∀ m ∈ most, t.length ≤ m
  value : number base t = n
  bounded : n < bound

/-- A byte in decimal; a zero in front of another digit is not allowed. -/
structure Byte (t : List Char) (n : Nat) : Prop extends Numeral 10 256 (some 3) t n where
  plain : t.head? = some '0' → t.length = 1

/-- Four bytes with dots between them. -/
inductive FourBytes : List Char → List Nat → Prop
  | intro {ta tb tc td : List Char} {a b c d : Nat} (ha : Byte ta a) (hb : Byte tb b)
    (hc : Byte tc c) (hd : Byte td d) :
    FourBytes (ta ++ '.' :: (tb ++ '.' :: (tc ++ '.' :: td))) [a, b, c, d]

/-- What stands in front of a group: a colon, or nothing in front of the first. -/
def Start (isFirst : Bool) (t : List Char) : Prop := t = if isFirst then [] else [':']

/-- Groups of up to four digits with colons between them. The last two may be written as four
bytes. -/
inductive Groups : (isFirst : Bool) → List Char → List Nat → (four : Bool) → Prop
  | none (isFirst : Bool) : Groups isFirst [] [] false
  | bytes {isFirst : Bool} {start t : List Char} {a b c d : Nat} (hstart : Start isFirst start)
    (ht : FourBytes t [a, b, c, d]) :
    Groups isFirst (start ++ t) [256 * a + b, 256 * c + d] true
  | group {isFirst four : Bool} {start t more : List Char} {g : Nat} {gs : List Nat}
    (hstart : Start isFirst start) (ht : Numeral 16 65536 (some 4) t g)
    (hmore : Groups false more gs four) : Groups isFirst (start ++ (t ++ more)) (g :: gs) four

/-- Eight groups, or fewer with two colons for those that are left out and are zero. In front of
the two colons no groups are written as bytes. -/
inductive EightGroups : List Char → List Nat → Prop
  | all {t : List Char} {gs : List Nat} {four : Bool} (h : Groups true t gs four)
    (height : gs.length = 8) : EightGroups t gs
  | leftOut {t u : List Char} {front back : List Nat} {four : Bool}
    (hfront : Groups true t front false) (hback : Groups true u back four)
    (hfew : front.length + back.length ≤ 7) :
    EightGroups (t ++ ':' :: ':' :: u)
      (front ++ List.replicate (8 - front.length - back.length) 0 ++ back)

/-- The zone of an address: a percent sign and a number, or nothing for zone 0. -/
inductive Zone : List Char → Nat → Prop
  | none : Zone [] 0
  | number {t : List Char} {n : Nat} (h : Numeral 10 UInt32.size Option.none t n) :
    Zone ('%' :: t) n

/-- A text that is an address with a port. -/
inductive Written : List Char → SocketAddress → Prop
  | v4 {host port : List Char} {bytes : List Nat} {n : Nat} (hhost : FourBytes host bytes)
    (hport : Numeral 10 65536 none port n) : Written (host ++ ':' :: port) ⟨.v4 bytes, n⟩
  | v6 {host zone port : List Char} {gs : List Nat} {z n : Nat} (hhost : EightGroups host gs)
    (hzone : Zone zone z) (hport : Numeral 10 65536 none port n) :
    Written ('[' :: (host ++ (zone ++ ']' :: ':' :: port))) ⟨.v6 gs z, n⟩

/-! ## Numbers -/

variable {base bound n : Nat} {most : Option Nat} {c : Char} {i rest t : List Char}

/-- No digit stands in front. -/
def Stops (base : Nat) (i : List Char) : Prop := ∀ c ∈ i.head?, ¬IsDigit base c

theorem stops_nil : Stops base [] := by simp [Stops]

theorem stops_cons : Stops base (c :: i) ↔ ¬IsDigit base c := by simp [Stops]

theorem IsDigit.mono {base' : Nat} (h : IsDigit base c) (hle : base ≤ base') : IsDigit base' c := by
  obtain ⟨v, hv, hlt⟩ := h
  exact ⟨v, hv, by omega⟩

theorem Stops.mono {base' : Nat} (h : Stops base' i) (hle : base ≤ base') : Stops base i := by
  intro c hc hdigit
  exact h c hc (hdigit.mono hle)

/-- The marks of the grammar are no digits. -/
theorem not_isDigit_of_mark (h : c ∈ [':', '.', '%', ']', '[']) : ¬IsDigit base c := by
  have hnone : Text.hexValue? c = none := by
    simp only [List.mem_cons, List.not_mem_nil, or_false] at h
    rcases h with rfl | rfl | rfl | rfl | rfl <;> rfl
  rintro ⟨v, hv, -⟩
  rw [hnone] at hv
  cases hv

theorem stops_mark (h : c ∈ [':', '.', '%', ']', '[']) : Stops base (c :: i) :=
  stops_cons.2 (not_isDigit_of_mark h)

theorem any_iff : (Text.hexValue? c).any (· < base) = true ↔ IsDigit base c := by
  simp [IsDigit, Option.any_eq_true]

theorem any_eq_false_iff : (Text.hexValue? c).any (· < base) = false ↔ ¬IsDigit base c := by
  rw [← any_iff, Bool.not_eq_true]

theorem foldl_eq_number (base : Nat) (ds : List Char) :
    ds.foldl (fun n c => n * base + (Text.hexValue? c).getD 0) 0 = number base ds := by
  rw [number, Nat.ofDigits_eq_foldr, List.foldr_map, List.foldr_reverse]
  congr 1
  funext n c
  rw [Nat.cast_id, Nat.mul_comm, Nat.add_comm]

/-- **A number is read where one is written and no digit follows.** -/
theorem number?_eq_some_iff : number? base bound most i = some (n, rest) ↔
    ∃ t, i = t ++ rest ∧ Numeral base bound most t n ∧ Stops base rest := by
  constructor
  · intro h
    simp only [number?, foldl_eq_number] at h
    split at h
    · cases h
    · rename_i hok
      simp only [Bool.or_eq_true, decide_eq_true_eq, not_or, List.isEmpty_iff, Option.any_eq_true,
        not_exists, not_and, Nat.not_lt, Nat.not_le] at hok
      simp only [Option.some.injEq, Prod.mk.injEq] at h
      obtain ⟨⟨hne, hshort⟩, hbound⟩ := hok
      obtain ⟨hn, hrest⟩ := h
      refine ⟨_, ?_, ⟨hne, ?_, hshort, hn, hn ▸ hbound⟩, ?_⟩
      · rw [← hrest, List.takeWhile_append_dropWhile]
      · intro c hc
        have hdigit : (Text.hexValue? c).any (· < base) = true :=
          List.mem_takeWhile_imp (p := fun c => (Text.hexValue? c).any (· < base)) hc
        exact any_iff.1 hdigit
      · intro c hc
        rw [← hrest] at hc
        have hnone := eq_false_of_head?_dropWhile (p := fun c => (Text.hexValue? c).any (· < base)) hc
        exact any_eq_false_iff.1 hnone
  · rintro ⟨t, rfl, h, hrest⟩
    obtain ⟨htake, hdrop⟩ := span_append (p := fun c => (Text.hexValue? c).any (· < base))
      (fun c hc => any_iff.2 (h.digits c hc)) (fun c hc => any_eq_false_iff.2 (hrest c hc))
    have hok : ¬((t.isEmpty || most.any fun m => decide (m < t.length)) ||
        decide (bound ≤ n)) = true := by
      simp only [Bool.or_eq_true, decide_eq_true_eq, not_or, List.isEmpty_iff, Option.any_eq_true,
        not_exists, not_and, Nat.not_lt, Nat.not_le]
      exact ⟨⟨h.nonempty, h.short⟩, h.bounded⟩
    simp only [number?, foldl_eq_number, htake, hdrop, h.value]
    rw [if_neg hok]

theorem Numeral.not_stops {base' : Nat} (h : Numeral base bound most t n) (hle : base ≤ base') :
    ¬Stops base' (t ++ rest) := by
  intro hstops
  obtain ⟨d, more, hd⟩ := List.exists_cons_of_ne_nil h.nonempty
  have hdigit : IsDigit base d := h.digits d (by simp [hd])
  rw [hd, List.cons_append, stops_cons] at hstops
  exact hstops (hdigit.mono hle)

theorem number?_eq_none (h : Stops base i) : number? base bound most i = none := by
  rw [Option.eq_none_iff_forall_ne_some]
  rintro ⟨n, rest⟩ hsome
  obtain ⟨t, rfl, ht, -⟩ := number?_eq_some_iff.1 hsome
  exact ht.not_stops (Nat.le_refl _) h

/-- Where the digits of a text end does not depend on how it was put together. -/
theorem rest_unique {t' rest' : List Char} (ht : ∀ c ∈ t, IsDigit base c) (hrest : Stops base rest)
    (ht' : ∀ c ∈ t', IsDigit base c) (hrest' : Stops base rest') (h : t ++ rest = t' ++ rest') :
    rest = rest' := by
  have hdrop : ∀ {t rest : List Char}, (∀ c ∈ t, IsDigit base c) → Stops base rest →
      (t ++ rest).dropWhile (fun c => (Text.hexValue? c).any (· < base)) = rest :=
    fun ht hrest => (span_append (fun c hc => any_iff.2 (ht c hc))
      (fun c hc => any_eq_false_iff.2 (hrest c hc))).2
  rw [← hdrop ht hrest, h, hdrop ht' hrest']

theorem mark?_eq_some_iff : mark? c i = some rest ↔ i = c :: rest := by
  cases i with
  | nil => simp [mark?]
  | cons d i =>
    by_cases h : d = c
    · simp [mark?, h]
    · simp [mark?, h]

/-! ## Four bytes -/

theorem byte?_eq_some_iff : byte? i = some (n, rest) ↔
    ∃ t, i = t ++ rest ∧ Byte t n ∧ Stops 10 rest := by
  simp only [byte?, Option.bind_eq_bind, Option.bind_eq_some_iff, Prod.exists,
    number?_eq_some_iff]
  constructor
  · rintro ⟨m, tail, ⟨t, rfl, ht, hstops⟩, h⟩
    split at h
    · cases h
    · rename_i hplain
      simp only [Option.some.injEq, Prod.mk.injEq] at h
      obtain ⟨rfl, rfl⟩ := h
      refine ⟨t, rfl, ⟨ht, ?_⟩, hstops⟩
      intro hzero
      have hpos := List.length_pos_iff.2 ht.nonempty
      rw [List.head?_append_of_ne_nil _ ht.nonempty, List.length_append] at hplain
      by_contra hlong
      exact hplain ⟨hzero, by omega⟩
  · rintro ⟨t, rfl, ht, hstops⟩
    refine ⟨n, rest, ⟨t, rfl, ht.toNumeral, hstops⟩, ?_⟩
    rw [if_neg]
    rintro ⟨hzero, hlong⟩
    rw [List.head?_append_of_ne_nil _ ht.nonempty] at hzero
    have hone := ht.plain hzero
    rw [List.length_append] at hlong
    omega

/-- **Four bytes are read where they are written and no digit follows.** -/
theorem fourBytes?_eq_some_iff {bytes : List Nat} : fourBytes? i = some (bytes, rest) ↔
    ∃ t, i = t ++ rest ∧ FourBytes t bytes ∧ Stops 10 rest := by
  simp only [fourBytes?, Option.bind_eq_bind, Option.bind_eq_some_iff, Prod.exists,
    byte?_eq_some_iff, mark?_eq_some_iff, Option.some.injEq, Prod.mk.injEq]
  constructor
  · rintro ⟨a, _, ⟨ta, rfl, ha, -⟩, _, rfl, b, _, ⟨tb, rfl, hb, -⟩, _, rfl, c, _, ⟨tc, rfl, hc, -⟩,
      _, rfl, d, _, ⟨td, rfl, hd, hstops⟩, rfl, rfl⟩
    exact ⟨_, by simp only [List.append_assoc, List.cons_append], .intro ha hb hc hd, hstops⟩
  · rintro ⟨_, rfl, ⟨ha, hb, hc, hd⟩, hstops⟩
    have hdot : ∀ i, Stops 10 ('.' :: i) := fun i => stops_mark (by decide)
    simp only [List.append_assoc, List.cons_append]
    exact ⟨_, _, ⟨_, rfl, ha, hdot _⟩, _, rfl, _, _, ⟨_, rfl, hb, hdot _⟩, _, rfl, _, _,
      ⟨_, rfl, hc, hdot _⟩, _, rfl, _, _, ⟨_, rfl, hd, hstops⟩, rfl, rfl⟩

theorem fourBytes?_of_stops (h : Stops 10 i) : fourBytes? i = none := by
  simp only [fourBytes?, byte?, number?_eq_none h, Option.bind_eq_bind, Option.bind_none]

/-! ## Groups -/

theorem groupStart?_eq_some_iff {isFirst : Bool} : groupStart? isFirst i = some rest ↔
    ∃ start, Start isFirst start ∧ i = start ++ rest := by
  cases isFirst with
  | true => simp [groupStart?, Start]
  | false => simp [groupStart?, Start, mark?_eq_some_iff]

/-- What may stand behind the last group: nothing that would belong to it or start another one. -/
structure Closed (rest : List Char) : Prop where
  stops : Stops 16 rest
  noDot : rest.head? ≠ some '.'
  afterColon : ∀ i, rest = ':' :: i → Stops 16 i

theorem closed_mark (h : c ∈ ['%', ']']) : Closed (c :: rest) := by
  simp only [List.mem_cons, List.not_mem_nil, or_false] at h
  rcases h with rfl | rfl
  all_goals
    refine ⟨stops_mark (by decide), by simp, ?_⟩
    intro i hi
    cases hi

theorem closed_twoColons : Closed (':' :: ':' :: rest) := by
  refine ⟨stops_mark (by decide), by simp, ?_⟩
  intro i hi
  cases hi
  exact stops_mark (by decide)

theorem Closed.stops_of_groupStart? {isFirst : Bool} (h : Closed rest)
    (hi : groupStart? isFirst rest = some i) : Stops 16 i := by
  cases isFirst with
  | true =>
    obtain rfl : rest = i := Option.some.inj hi
    exact h.stops
  | false => exact h.afterColon i (mark?_eq_some_iff.1 hi)

/-- A number of the groups that no dot follows does not begin four bytes. -/
theorem fourBytes?_eq_none {g : Nat} (ht : Numeral 16 65536 (some 4) t g)
    (hstops : Stops 16 rest) (hdot : rest.head? ≠ some '.') : fourBytes? (t ++ rest) = none := by
  rw [Option.eq_none_iff_forall_ne_some]
  rintro ⟨bytes, after⟩ hsome
  obtain ⟨host, hcut, hbytes, -⟩ := fourBytes?_eq_some_iff.1 hsome
  obtain ⟨ha, -, -, -⟩ := hbytes
  rw [List.append_assoc, List.cons_append] at hcut
  have hrest := rest_unique ht.digits hstops (fun c hc => (ha.digits c hc).mono (by decide))
    (stops_mark (by decide)) hcut
  exact hdot (by rw [hrest, List.head?_cons])

/-- Behind the last group no group is found. -/
theorem groups_of_closed (isFirst : Bool) (room : Nat) (h : Closed rest) :
    groups isFirst room rest = ([], false, rest) := by
  cases room with
  | zero => rfl
  | succ room =>
    have hnumber : (groupStart? isFirst rest).bind (number? 16 65536 (some 4)) = none := by
      rw [Option.bind_eq_none_iff]
      intro i hi
      exact number?_eq_none (h.stops_of_groupStart? hi)
    have hfour : (groupStart? isFirst rest).bind fourBytes? = none := by
      rw [Option.bind_eq_none_iff]
      intro i hi
      exact fourBytes?_of_stops ((h.stops_of_groupStart? hi).mono (by decide))
    simp only [groups, hnumber, hfour, ite_self]

variable {isFirst four : Bool} {room : Nat} {gs : List Nat}

/-- Groups other than the first begin with a colon. -/
theorem Groups.closing (h : Groups false t gs four) (hrest : Closed rest) :
    Stops 16 (t ++ rest) ∧ (t ++ rest).head? ≠ some '.' := by
  have hcolon : ∀ i, Stops 16 (':' :: i) ∧ (':' :: i).head? ≠ some '.' := fun i =>
    ⟨stops_mark (by decide), by simp⟩
  cases h with
  | none => exact ⟨hrest.stops, hrest.noDot⟩
  | bytes hstart | group hstart =>
    rw [Start, if_neg Bool.false_ne_true] at hstart
    rw [hstart]
    exact hcolon _

/-- **Groups are read where they are written and nothing that follows belongs to them.** -/
theorem groups_of_written (h : Groups isFirst t gs four) (hroom : gs.length ≤ room)
    (hrest : Closed rest) : groups isFirst room (t ++ rest) = (gs, four, rest) := by
  induction h generalizing room with
  | none isFirst => exact groups_of_closed isFirst room hrest
  | @bytes isFirst start t a b c d hstart ht =>
    simp only [List.length_cons, List.length_nil] at hroom
    obtain ⟨room, rfl⟩ : ∃ r, room = r + 1 := ⟨room - 1, by omega⟩
    have hroom : room ≠ 0 := by omega
    have hread : groupStart? isFirst (start ++ t ++ rest) = some (t ++ rest) :=
      groupStart?_eq_some_iff.2 ⟨start, hstart, List.append_assoc _ _ _⟩
    have hfour : fourBytes? (t ++ rest) = some ([a, b, c, d], rest) :=
      fourBytes?_eq_some_iff.2 ⟨t, rfl, ht, hrest.stops.mono (by decide)⟩
    simp only [groups, if_neg hroom, hread, Option.bind_some, hfour]
  | @group isFirst four start t more g gs hstart ht hmore ih =>
    simp only [List.length_cons] at hroom
    obtain ⟨room, rfl⟩ : ∃ r, room = r + 1 := ⟨room - 1, by omega⟩
    obtain ⟨hstops, hdot⟩ := hmore.closing hrest
    have hread : groupStart? isFirst (start ++ (t ++ more) ++ rest) = some (t ++ (more ++ rest)) :=
      groupStart?_eq_some_iff.2 ⟨start, hstart, by simp only [List.append_assoc]⟩
    have hnumber : number? 16 65536 (some 4) (t ++ (more ++ rest)) = some (g, more ++ rest) :=
      number?_eq_some_iff.2 ⟨t, rfl, ht, hstops⟩
    have hmore : groups false room (more ++ rest) = (gs, four, rest) := ih (by omega)
    simp only [groups, hread, Option.bind_some, fourBytes?_eq_none ht hstops hdot, ite_self,
      hnumber, hmore]

/-- What the reader of groups takes is groups, not more than there is room for. -/
theorem written_of_groups (h : groups isFirst room i = (gs, four, rest)) :
    ∃ t, i = t ++ rest ∧ Groups isFirst t gs four ∧ gs.length ≤ room := by
  induction room generalizing isFirst i rest gs four with
  | zero =>
    simp only [groups, Prod.mk.injEq] at h
    obtain ⟨rfl, rfl, rfl⟩ := h
    exact ⟨[], rfl, .none isFirst, Nat.le_refl _⟩
  | succ room ih =>
    simp only [groups] at h
    split at h
    · rename_i a b c d after hfour
      simp only [Prod.mk.injEq] at h
      obtain ⟨rfl, rfl, rfl⟩ := h
      split at hfour
      · cases hfour
      · obtain ⟨tail, hstart, hbytes⟩ := Option.bind_eq_some_iff.1 hfour
        obtain ⟨start, hs, rfl⟩ := groupStart?_eq_some_iff.1 hstart
        obtain ⟨t, rfl, ht, -⟩ := fourBytes?_eq_some_iff.1 hbytes
        refine ⟨start ++ t, (List.append_assoc _ _ _).symm, .bytes hs ht, ?_⟩
        simp only [List.length_cons, List.length_nil]
        omega
    · split at h
      · simp only [Prod.mk.injEq] at h
        obtain ⟨rfl, rfl, rfl⟩ := h
        exact ⟨[], rfl, .none isFirst, Nat.zero_le _⟩
      · rename_i g after hnumber
        obtain ⟨tail, hstart, hg⟩ := Option.bind_eq_some_iff.1 hnumber
        obtain ⟨start, hs, rfl⟩ := groupStart?_eq_some_iff.1 hstart
        obtain ⟨t, rfl, ht, -⟩ := number?_eq_some_iff.1 hg
        rcases hrec : groups false room after with ⟨gs', four', rest'⟩
        obtain ⟨more, rfl, hmore, hlen⟩ := ih hrec
        simp only [hrec, Prod.mk.injEq] at h
        obtain ⟨rfl, rfl, rfl⟩ := h
        refine ⟨start ++ (t ++ more), by simp only [List.append_assoc], .group hs ht hmore, ?_⟩
        simp only [List.length_cons]
        omega

/-- **Eight groups are read where they are written.** -/
theorem eightGroups?_of_written (h : EightGroups t gs) (hrest : Closed rest) :
    eightGroups? (t ++ rest) = some (gs, rest) := by
  cases h with
  | all h height =>
    simp only [eightGroups?, groups_of_written h (Nat.le_of_eq height) hrest, if_pos height]
  | @leftOut t u front back four hfront hback hfew =>
    have hread : groups true 8 (t ++ ':' :: ':' :: u ++ rest) =
        (front, false, ':' :: ':' :: (u ++ rest)) := by
      rw [List.append_assoc]
      exact groups_of_written hfront (by omega) closed_twoColons
    have hlen : front.length ≠ 8 := by omega
    have hsecond : groups true (7 - front.length) (u ++ rest) = (back, four, rest) :=
      groups_of_written hback (by omega) hrest
    simp only [eightGroups?, hread, if_neg hlen, Bool.false_eq_true, if_false,
      mark?_eq_some_iff.2 rfl, Option.bind_eq_bind, Option.bind_some, hsecond]

theorem written_of_eightGroups? (h : eightGroups? i = some (gs, rest)) :
    ∃ t, i = t ++ rest ∧ EightGroups t gs := by
  rcases hgroups : groups true 8 i with ⟨front, four, tail⟩
  obtain ⟨t, rfl, hfront, hsize⟩ := written_of_groups hgroups
  simp only [eightGroups?, hgroups] at h
  split at h
  · rename_i height
    simp only [Option.some.injEq, Prod.mk.injEq] at h
    obtain ⟨rfl, rfl⟩ := h
    exact ⟨t, rfl, .all hfront height⟩
  split at h
  · cases h
  · rename_i hlen hfour
    simp only [Option.bind_eq_bind, Option.bind_eq_some_iff, mark?_eq_some_iff, Option.some.injEq,
      Prod.mk.injEq] at h
    obtain ⟨_, rfl, tail, rfl, h⟩ := h
    rcases hsecond : groups true (7 - front.length) tail with ⟨back, four', rest'⟩
    obtain ⟨u, rfl, hback, hroom⟩ := written_of_groups hsecond
    simp only [hsecond] at h
    obtain ⟨rfl, rfl⟩ := h
    obtain rfl : four = false := Bool.not_eq_true four ▸ hfour
    exact ⟨t ++ ':' :: ':' :: u, by simp only [List.append_assoc, List.cons_append],
      .leftOut hfront hback (by omega)⟩

/-! ## Addresses -/

theorem scope_of_zone {n : Nat} (h : Zone t n) :
    scope (t ++ ']' :: rest) = (n, ']' :: rest) := by
  cases h with
  | none => rfl
  | @number t n h =>
    have hnumber : number? 10 UInt32.size none (t ++ ']' :: rest) = some (n, ']' :: rest) :=
      number?_eq_some_iff.2 ⟨t, rfl, h, stops_mark (by decide)⟩
    simp only [scope, List.cons_append, mark?_eq_some_iff.2 rfl, hnumber, Option.getD_some]

theorem zone_of_scope (h : scope i = (n, ']' :: rest)) : ∃ t, i = t ++ ']' :: rest ∧ Zone t n := by
  unfold scope at h
  split at h
  · simp only [Prod.mk.injEq] at h
    obtain ⟨rfl, rfl⟩ := h
    exact ⟨[], rfl, .none⟩
  · rename_i tail hmark
    obtain rfl := mark?_eq_some_iff.1 hmark
    cases hnumber : number? 10 UInt32.size none tail with
    | none =>
      rw [hnumber] at h
      cases h
    | some found =>
      rw [hnumber, Option.getD_some] at h
      subst h
      obtain ⟨t, rfl, ht, -⟩ := number?_eq_some_iff.1 hnumber
      exact ⟨'%' :: t, rfl, .number ht⟩

theorem port?_eq_some_nil_iff : port? i = some (n, []) ↔
    ∃ t, i = ':' :: t ∧ Numeral 10 65536 none t n := by
  simp only [port?, Option.bind_eq_bind, Option.bind_eq_some_iff, mark?_eq_some_iff,
    number?_eq_some_iff, List.append_nil]
  constructor
  · rintro ⟨t, rfl, _, rfl, ht, -⟩
    exact ⟨t, rfl, ht⟩
  · rintro ⟨t, rfl, ht⟩
    exact ⟨t, rfl, t, rfl, ht, stops_nil⟩

variable {a : SocketAddress} {s : String}

theorem parseV4?_eq_some_nil_iff : parseV4? i = some (a, []) ↔ ∃ host port bytes n,
    FourBytes host bytes ∧ Numeral 10 65536 none port n ∧ i = host ++ ':' :: port ∧
      a = ⟨.v4 bytes, n⟩ := by
  simp only [parseV4?, Option.bind_eq_bind, Option.bind_eq_some_iff, Prod.exists,
    fourBytes?_eq_some_iff, Option.some.injEq, Prod.mk.injEq]
  constructor
  · rintro ⟨bytes, _, ⟨host, rfl, hhost, -⟩, n, _, hread, rfl, rfl⟩
    obtain ⟨port, rfl, hport⟩ := port?_eq_some_nil_iff.1 hread
    exact ⟨host, port, bytes, n, hhost, hport, rfl, rfl⟩
  · rintro ⟨host, port, bytes, n, hhost, hport, rfl, rfl⟩
    exact ⟨bytes, _, ⟨host, rfl, hhost, stops_mark (by decide)⟩, n, [],
      port?_eq_some_nil_iff.2 ⟨port, rfl, hport⟩, rfl, rfl⟩

theorem parseV6?_eq_some_nil_iff : parseV6? i = some (a, []) ↔ ∃ host zone port gs z n,
    EightGroups host gs ∧ Zone zone z ∧ Numeral 10 65536 none port n ∧
      i = '[' :: (host ++ (zone ++ ']' :: ':' :: port)) ∧ a = ⟨.v6 gs z, n⟩ := by
  simp only [parseV6?, Option.bind_eq_bind, Option.bind_eq_some_iff, Prod.exists,
    mark?_eq_some_iff, Option.some.injEq, Prod.mk.injEq]
  constructor
  · rintro ⟨_, rfl, gs, _, hgs, _, hmark, n, _, hread, rfl, rfl⟩
    obtain ⟨host, rfl, hhost⟩ := written_of_eightGroups? hgs
    obtain ⟨port, rfl, hport⟩ := port?_eq_some_nil_iff.1 hread
    obtain ⟨zone, hcut, hzone⟩ := zone_of_scope (Prod.ext rfl hmark)
    exact ⟨host, zone, port, gs, _, n, hhost, hzone, hport, by rw [hcut], rfl⟩
  · rintro ⟨host, zone, port, gs, z, n, hhost, hzone, hport, rfl, rfl⟩
    have hclosed : Closed (zone ++ ']' :: ':' :: port) := by
      cases hzone with
      | none => exact closed_mark (by decide)
      | number => exact closed_mark (by decide)
    have hscope : scope (zone ++ ']' :: ':' :: port) = (z, ']' :: ':' :: port) :=
      scope_of_zone hzone
    exact ⟨_, rfl, gs, _, eightGroups?_of_written hhost hclosed, ':' :: port, by rw [hscope], n,
      [], port?_eq_some_nil_iff.2 ⟨port, rfl, hport⟩, by rw [hscope], rfl⟩

/-- An address of the older kind does not begin with a bracket. -/
theorem parseV4?_eq_none_of_bracket : parseV4? ('[' :: i) = none := by
  have hnone : fourBytes? ('[' :: i) = none := fourBytes?_of_stops (stops_mark (by decide))
  rw [parseV4?, hnone, Option.bind_eq_bind, Option.bind_none]

/-- **What is read as an address are the texts of the grammar, each as the address it means.** -/
theorem parse?_eq_some_iff : parse? s = some a ↔ Written s.toList a := by
  have hwhole : parse? s = some a ↔ parseV4? s.toList = some (a, []) ∨
      (parseV4? s.toList = none ∧ parseV6? s.toList = some (a, [])) := by
    unfold parse?
    cases hfour : parseV4? s.toList with
    | none =>
      cases hsix : parseV6? s.toList with
      | none => simp
      | some found => rcases found with ⟨b, _ | _⟩ <;> simp
    | some found => rcases found with ⟨b, _ | _⟩ <;> simp
  rw [hwhole]
  constructor
  · rintro (h | ⟨-, h⟩)
    · obtain ⟨host, port, bytes, n, hhost, hport, hs, rfl⟩ := parseV4?_eq_some_nil_iff.1 h
      rw [hs]
      exact .v4 hhost hport
    · obtain ⟨host, zone, port, gs, z, n, hhost, hzone, hport, hs, rfl⟩ :=
        parseV6?_eq_some_nil_iff.1 h
      rw [hs]
      exact .v6 hhost hzone hport
  · intro h
    generalize s.toList = cs at h ⊢
    cases h with
    | v4 hhost hport => exact .inl (parseV4?_eq_some_nil_iff.2 ⟨_, _, _, _, hhost, hport, rfl, rfl⟩)
    | v6 hhost hzone hport =>
      exact .inr ⟨parseV4?_eq_none_of_bracket,
        parseV6?_eq_some_nil_iff.2 ⟨_, _, _, _, _, _, hhost, hzone, hport, rfl, rfl⟩⟩

/-- Zeros may stand in front of a port, though not in front of a byte. -/
example : parse? "[1::0A:1.2.3.4%7]:0080" = some ⟨.v6 [1, 0, 0, 0, 0, 10, 258, 772] 7, 80⟩ := by rfl

end BuildService.SocketAddress
