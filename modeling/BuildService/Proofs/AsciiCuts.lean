import BuildService.Text.Utf8
import Mathlib.Data.List.Induction
/-!
Cutting a byte string at its ASCII bytes does not change how it is read.

A character of several bytes has no ASCII byte in it, so an ASCII byte settles
whatever was under way: a stretch that it breaks off is one replacement
character, just as one that the input breaks off (`symbols_append_ascii`). And
none of the longer forms comes to an ASCII character, since those that would are
refused at their first or second byte; so where an ASCII character is read its
byte stood there (`not_mem_lossyChars`).

U+0000 is left out of the second statement: it also stands for numbers that are
no characters, and that none of them comes up is not needed here.
-/

set_option autoImplicit false

namespace BuildService.Utf8

/-! ## Characters under way -/

/-- A character under way takes no ASCII byte and does not come to an ASCII character. -/
structure Partial.IsWide (p : Partial) : Prop where
  low : 0x80 ≤ p.low
  bits : 2 ≤ p.bits ∨ 2 ≤ p.owed ∧ (1 ≤ p.bits ∨ 0x90 ≤ p.low)

theorem Partial.isWide_of_ofLead? {b : Nat} {p : Partial} (h : Partial.ofLead? b = some p) :
    p.IsWide := by
  refine ⟨Partial.low_of_ofLead? h, ?_⟩
  unfold Partial.ofLead? at h
  grind

/-- A symbol that is no ASCII character, or is U+0000. -/
def IsWideSymbol (s : Option Char) : Prop := ∀ c, s = some c → 0 < c.toNat → 0x80 ≤ c.toNat

theorem isWideSymbol_none : IsWideSymbol none := fun _ h => by cases h

theorem toNat_ofNat_of_valid {n : Nat} (hv : n.isValidChar) : (Char.ofNat n).toNat = n := by
  rw [Char.ofNat, dif_pos hv]
  rfl

theorem isWideSymbol_ofNat {n : Nat} (h : 0x80 ≤ n) : IsWideSymbol (some (Char.ofNat n)) := by
  rintro c hc hpos
  obtain rfl := Option.some.inj hc
  by_cases hv : n.isValidChar
  · rwa [toNat_ofNat_of_valid hv]
  · have hzero : (Char.ofNat n).toNat = 0 := by
      rw [Char.ofNat, dif_neg hv]
      rfl
    omega

namespace Machine

/-- What has been put out, and one broken stretch if a character is under way; the last symbol
first. -/
def settled (m : Machine) : List (Option Char) :=
  match m.pending with
  | none => m.symbols
  | some _ => none :: m.symbols

theorem eq_none_or_mem_symbols {m : Machine} {s : Option Char} (h : s ∈ m.settled) :
    s = none ∨ s ∈ m.symbols := by
  unfold settled at h
  split at h
  · exact .inr h
  · exact List.mem_cons.1 h

/-- Nothing is under way that takes an ASCII byte or comes to an ASCII character. -/
def IsWide (m : Machine) : Prop := ∀ p, m.pending = some p → p.IsWide

theorem isWide_of_none (out : List (Option Char)) : IsWide ⟨none, out⟩ := fun _ h => by cases h

/-- An ASCII byte settles what was under way. -/
theorem step_ascii {m : Machine} (hm : m.IsWide) {b : UInt8} (hb : b.toNat < 0x80) :
    m.step b = ⟨none, some (Char.ofNat b.toNat) :: m.settled⟩ := by
  obtain ⟨pending, out⟩ := m
  cases pending with
  | none => simp [step, lead, settled, hb]
  | some p =>
    have hlow : 0x80 ≤ p.low := (hm p rfl).low
    have hout : ¬(p.low ≤ b.toNat ∧ b.toNat ≤ p.high) := by omega
    simp only [step, lead, settled, if_neg hout, if_pos hb]

/-- A byte above ASCII that begins something new. -/
theorem lead_wide (out : List (Option Char)) {b : Nat} (hb : 0x80 ≤ b) :
    (lead out b).IsWide ∧ (∃ p, lead out b = ⟨some p, out⟩) ∨ lead out b = ⟨none, none :: out⟩ := by
  unfold lead
  rw [if_neg (Nat.not_lt.2 hb)]
  cases hp : Partial.ofLead? b with
  | none => exact .inr rfl
  | some p =>
    refine .inl ⟨?_, p, rfl⟩
    rintro q hq
    obtain rfl := Option.some.inj hq
    exact Partial.isWide_of_ofLead? hp

/-- A byte above ASCII puts out nothing that is ASCII, and either something or nothing is under way
after it. -/
theorem step_wide {m : Machine} (hm : m.IsWide) {b : UInt8} (hb : 0x80 ≤ b.toNat) :
    (m.step b).IsWide ∧ ∃ new, (m.step b).symbols = new ++ m.symbols ∧
      (∀ s ∈ new, IsWideSymbol s) ∧ ((m.step b).pending = none → new ≠ []) := by
  -- The byte may be the first of something new, at once or after it has broken off what was under
  -- way, so this case is settled for all outputs before.
  have new : ∀ out, (lead out b.toNat).IsWide ∧ ∃ new, (lead out b.toNat).symbols = new ++ out ∧
      (∀ s ∈ new, IsWideSymbol s) ∧ ((lead out b.toNat).pending = none → new ≠ []) := by
    intro out
    rcases lead_wide out hb with ⟨hw, p, hp⟩ | hp
    · refine ⟨hw, [], ?_⟩
      simp [hp]
    · refine ⟨?_, [none], ?_⟩
      · rw [hp]
        exact isWide_of_none _
      · simp [hp, isWideSymbol_none]
  obtain ⟨pending, out⟩ := m
  cases pending with
  | none => exact new out
  | some p =>
    have hwide := hm p rfl
    by_cases hin : p.low ≤ b.toNat ∧ b.toNat ≤ p.high
    · simp only [step, if_pos hin]
      have hlow := hwide.low
      have hbits := hwide.bits
      split
      · refine ⟨isWide_of_none _, [_], rfl, ?_, by simp⟩
        intro s hs
        obtain rfl := List.mem_singleton.1 hs
        exact isWideSymbol_ofNat (by omega)
      · refine ⟨?_, [], rfl, by simp, by simp⟩
        rintro q hq
        obtain rfl := Option.some.inj hq
        exact ⟨Nat.le_refl _, .inl (by simp only; omega)⟩
    · simp only [step, if_neg hin]
      obtain ⟨hw, new', hnew, hall, hne⟩ := new (none :: out)
      refine ⟨hw, new' ++ [none], by simp [hnew], ?_, by simp⟩
      intro s hs
      rcases List.mem_append.1 hs with hs | hs
      · exact hall s hs
      · rw [List.mem_singleton.1 hs]
        exact isWideSymbol_none

theorem isWide_step {m : Machine} (hm : m.IsWide) (b : UInt8) : (m.step b).IsWide := by
  by_cases hb : b.toNat < 0x80
  · rw [step_ascii hm hb]
    exact isWide_of_none _
  · exact (step_wide hm (Nat.not_lt.1 hb)).1

/-- The machine behind some bytes. -/
def reached (bytes : List UInt8) : Machine := bytes.foldl step start

theorem reached_append_one (front : List UInt8) (b : UInt8) :
    reached (front ++ [b]) = (reached front).step b := by
  rw [reached, List.foldl_append, List.foldl_cons, List.foldl_nil, reached]

theorem isWide_reached (bytes : List UInt8) : (reached bytes).IsWide := by
  induction bytes using List.reverseRecOn with
  | nil => exact isWide_of_none []
  | append_singleton front b ih =>
    rw [reached_append_one]
    exact isWide_step ih b

/-- What was put out before is not looked at. -/
theorem step_out (p : Option Partial) (xs out : List (Option Char)) (b : UInt8) :
    step ⟨p, xs ++ out⟩ b =
      ⟨(step ⟨p, xs⟩ b).pending, (step ⟨p, xs⟩ b).symbols ++ out⟩ := by
  have hlead : ∀ xs : List (Option Char), lead (xs ++ out) b.toNat =
      ⟨(lead xs b.toNat).pending, (lead xs b.toNat).symbols ++ out⟩ := by
    intro xs
    unfold lead
    split
    · rfl
    · split <;> rfl
  cases p with
  | none => exact hlead xs
  | some p =>
    simp only [step]
    split
    · split <;> rfl
    · exact hlead (none :: xs)

theorem foldl_out (bytes : List UInt8) (p : Option Partial) (xs out : List (Option Char)) :
    bytes.foldl step ⟨p, xs ++ out⟩ =
      ⟨(bytes.foldl step ⟨p, xs⟩).pending, (bytes.foldl step ⟨p, xs⟩).symbols ++ out⟩ := by
  induction bytes generalizing p xs with
  | nil => rfl
  | cons b bytes ih =>
    rw [List.foldl_cons, step_out]
    exact ih _ _

end Machine

/-! ## Cuts -/

theorem symbols_eq (bytes : List UInt8) :
    symbols bytes = (Machine.reached bytes).settled.reverse := by
  rw [symbols, ← Machine.reached]
  unfold Machine.finish Machine.settled
  cases (Machine.reached bytes).pending <;> rfl

/-- **Reading may be cut at an ASCII byte.** -/
theorem symbols_append_ascii (front rest : List UInt8) {b : UInt8} (hb : b.toNat < 0x80) :
    symbols (front ++ b :: rest) = symbols front ++ some (Char.ofNat b.toNat) :: symbols rest := by
  -- Behind the cut the machine is where it would be at the start, with more put out before.
  have hreached : Machine.reached (front ++ b :: rest) =
      ⟨(Machine.reached rest).pending, (Machine.reached rest).symbols ++
        some (Char.ofNat b.toNat) :: (Machine.reached front).settled⟩ := by
    rw [Machine.reached, List.foldl_append, List.foldl_cons, ← Machine.reached,
      Machine.step_ascii (Machine.isWide_reached front) hb]
    exact Machine.foldl_out rest none [] _
  have hsettled : (Machine.reached (front ++ b :: rest)).settled =
      (Machine.reached rest).settled ++
        some (Char.ofNat b.toNat) :: (Machine.reached front).settled := by
    rw [hreached]
    unfold Machine.settled
    cases (Machine.reached rest).pending <;> rfl
  rw [symbols_eq, symbols_eq, symbols_eq, hsettled]
  simp

@[simp] theorem lossyChars_nil : lossyChars [] = [] := rfl

theorem lossyChars_append_ascii (front rest : List UInt8) {b : UInt8} (hb : b.toNat < 0x80) :
    lossyChars (front ++ b :: rest) =
      lossyChars front ++ Char.ofNat b.toNat :: lossyChars rest := by
  simp only [lossyChars, symbols_append_ascii front rest hb, List.map_append, List.map_cons,
    Option.getD_some]

theorem toNat_ofNat_of_ascii {n : Nat} (h : n < 0x80) : (Char.ofNat n).toNat = n :=
  toNat_ofNat_of_valid (.inl (by omega))

/-- If the last byte is above ASCII, the last character is no ASCII character. -/
theorem exists_lossyChars_append_one (front : List UInt8) {b : UInt8} (hb : 0x80 ≤ b.toNat) :
    ∃ cs c, lossyChars (front ++ [b]) = cs ++ [c] ∧ (0 < c.toNat → 0x80 ≤ c.toNat) := by
  obtain ⟨-, new, hnew, hall, hne⟩ := Machine.step_wide (Machine.isWide_reached front) hb
  have hlast : ∃ s out,
      ((Machine.reached front).step b).settled = s :: out ∧ IsWideSymbol s := by
    unfold Machine.settled
    split
    · rename_i hp
      obtain ⟨s, new, rfl⟩ := List.exists_cons_of_ne_nil (hne hp)
      exact ⟨s, _, hnew, hall s List.mem_cons_self⟩
    · exact ⟨none, _, rfl, isWideSymbol_none⟩
  obtain ⟨s, out, hs, hsw⟩ := hlast
  refine ⟨out.reverse.map (·.getD '\uFFFD'), s.getD '\uFFFD', ?_, ?_⟩
  · simp only [lossyChars, symbols_eq, Machine.reached_append_one, hs, List.reverse_cons,
      List.map_append, List.map_cons, List.map_nil]
  · cases s with
    | none => exact fun _ => by decide
    | some c => exact hsw c rfl

/-- Where anything stands, something is read. -/
theorem lossyChars_ne_nil {bytes : List UInt8} (h : bytes ≠ []) : lossyChars bytes ≠ [] := by
  cases bytes using List.reverseRecOn with
  | nil => exact absurd rfl h
  | append_singleton front b _ =>
    by_cases hb : b.toNat < 0x80
    · rw [lossyChars_append_ascii front [] hb]
      simp
    · obtain ⟨cs, c, hc, -⟩ := exists_lossyChars_append_one front (Nat.not_lt.1 hb)
      rw [hc]
      simp

/-- An ASCII character is put out only where its byte stands. -/
theorem Machine.ne_of_mem_symbols {bytes : List UInt8} {b : UInt8} (hpos : 0 < b.toNat)
    (hb : b.toNat < 0x80) (h : b ∉ bytes) :
    ∀ s ∈ (reached bytes).symbols, s ≠ some (Char.ofNat b.toNat) := by
  have hc := toNat_ofNat_of_ascii hb
  induction bytes using List.reverseRecOn with
  | nil => simp [reached, start]
  | append_singleton front x ih =>
    rw [List.mem_append, not_or, List.mem_singleton] at h
    have ih := ih h.1
    have hfront := isWide_reached front
    rw [reached_append_one]
    intro s hs
    by_cases hx : x.toNat < 0x80
    · rw [step_ascii hfront hx, List.mem_cons] at hs
      rcases hs with rfl | hs
      · intro he
        have hnat := congrArg Char.toNat (Option.some.inj he)
        rw [hc, toNat_ofNat_of_ascii hx] at hnat
        exact h.2 (UInt8.toNat.inj hnat).symm
      · rcases eq_none_or_mem_symbols hs with rfl | hs
        · simp
        · exact ih s hs
    · -- A wide symbol would be the character only if this were U+0000, which `hpos` excludes.
      obtain ⟨-, new, hnew, hall, -⟩ := step_wide hfront (Nat.not_lt.1 hx)
      rw [hnew, List.mem_append] at hs
      rcases hs with hs | hs
      · rintro rfl
        have hwide := hall _ hs _ rfl (by omega)
        omega
      · exact ih s hs

/-- An ASCII character is read only where its byte stands. -/
theorem not_mem_lossyChars {bytes : List UInt8} {b : UInt8} (hpos : 0 < b.toNat)
    (hb : b.toNat < 0x80) (h : b ∉ bytes) : Char.ofNat b.toNat ∉ lossyChars bytes := by
  rw [lossyChars, symbols_eq, List.mem_map]
  rintro ⟨s, hs, he⟩
  cases s with
  | none =>
    have hnat := congrArg Char.toNat he
    rw [toNat_ofNat_of_ascii hb] at hnat
    have hreplacement : '\uFFFD'.toNat = 0xFFFD := rfl
    rw [Option.getD_none, hreplacement] at hnat
    omega
  | some c =>
    rcases Machine.eq_none_or_mem_symbols (List.mem_reverse.1 hs) with hs | hs
    · cases hs
    · exact Machine.ne_of_mem_symbols hpos hb h _ hs (congrArg some he)

end BuildService.Utf8
