import BuildService.Proofs.AsciiCuts
import BuildService.Proofs.Utf8
/-!
A byte string is the bytes of at most one text, and decoding finds it.

That the bytes of a text are read back is the easier half. For the other one, what is
kept of a character under way is tied to the bytes it was begun with
(`Partial.Begun`): the byte that completes it makes these the bytes of the character
that is put out. So bytes that are read without a broken stretch are the bytes of what
was read.
-/

set_option autoImplicit false

namespace BuildService.Utf8

variable {b : UInt8} {bytes front : List UInt8} {p : Partial} {m : Machine}
  {out : List (Option Char)} {v : Nat}

/-! ## The bytes of one character -/

theorem utf8EncodeChar_ascii (h : v < 0x80) :
    String.utf8EncodeChar (Char.ofNat v) = [UInt8.ofNat v] := by
  have hval : (Char.ofNat v).val.toNat = v := toNat_ofNat_of_valid (.inl (by omega))
  simp only [String.utf8EncodeChar, hval]
  rw [if_pos (by omega)]

theorem utf8EncodeChar_two (h : 0x7F < v) (hv : v ≤ 0x7FF) :
    String.utf8EncodeChar (Char.ofNat v) =
      [UInt8.ofNat (v / 64 + 0xC0), UInt8.ofNat (v % 64 + 0x80)] := by
  have hval : (Char.ofNat v).val.toNat = v := toNat_ofNat_of_valid (.inl (by omega))
  simp only [String.utf8EncodeChar, hval]
  rw [if_neg (by omega), if_pos hv, show v / 64 % 32 = v / 64 by omega]

theorem utf8EncodeChar_three (h : 0x7FF < v) (hv : v ≤ 0xFFFF) (hs : v < 0xD800 ∨ 0xDFFF < v) :
    String.utf8EncodeChar (Char.ofNat v) =
      [UInt8.ofNat (v / 4096 + 0xE0), UInt8.ofNat (v / 64 % 64 + 0x80),
        UInt8.ofNat (v % 64 + 0x80)] := by
  have hval : (Char.ofNat v).val.toNat = v :=
    toNat_ofNat_of_valid (hs.imp id fun hs => ⟨hs, by omega⟩)
  simp only [String.utf8EncodeChar, hval]
  rw [if_neg (by omega), if_neg (by omega), if_pos hv, show v / 4096 % 16 = v / 4096 by omega]

theorem utf8EncodeChar_four (h : 0xFFFF < v) (hv : v ≤ 0x10FFFF) :
    String.utf8EncodeChar (Char.ofNat v) =
      [UInt8.ofNat (v / 262144 + 0xF0), UInt8.ofNat (v / 4096 % 64 + 0x80),
        UInt8.ofNat (v / 64 % 64 + 0x80), UInt8.ofNat (v % 64 + 0x80)] := by
  have hval : (Char.ofNat v).val.toNat = v := toNat_ofNat_of_valid (.inr ⟨by omega, by omega⟩)
  simp only [String.utf8EncodeChar, hval]
  rw [if_neg (by omega), if_neg (by omega), if_neg (by omega),
    show v / 262144 % 8 = v / 262144 by omega]

theorem eq_ofNat_of_toNat_eq {x : Nat} (h : b.toNat = x) : UInt8.ofNat x = b := by
  rw [← h, UInt8.ofNat_toNat]

/-! ## A character under way -/

/-- What is kept of a character under way fits the bytes that it was begun with: whatever bytes
complete it, all of them are the bytes of the character that is then put out. -/
def Begun : (owed low high bits : Nat) → (front : List UInt8) → Prop
  | 0, _, _, _, _ => False
  | 1, low, high, bits, front => ∀ b : UInt8, low ≤ b.toNat → b.toNat ≤ high →
      String.utf8EncodeChar (Char.ofNat (bits * 64 + (b.toNat - 0x80))) = front ++ [b]
  | owed + 2, low, high, bits, front => ∀ b : UInt8, low ≤ b.toNat → b.toNat ≤ high →
      Begun (owed + 1) 0x80 0xBF (bits * 64 + (b.toNat - 0x80)) (front ++ [b])

/-- A leading byte begins a character of two, three or four bytes. -/
theorem Partial.cases_of_ofLead? {b : Nat} (h : Partial.ofLead? b = some p) :
    (p = ⟨1, 0x80, 0xBF, b - 0xC0⟩ ∧ 0xC2 ≤ b ∧ b < 0xE0) ∨
    (p = ⟨2, p.low, p.high, b - 0xE0⟩ ∧ 0xE0 ≤ b ∧ b < 0xF0 ∧ 0x80 ≤ p.low ∧ p.high ≤ 0xBF ∧
      (b = 0xE0 → 0xA0 ≤ p.low) ∧ (b = 0xED → p.high ≤ 0x9F)) ∨
    (p = ⟨3, p.low, p.high, b - 0xF0⟩ ∧ 0xF0 ≤ b ∧ b < 0xF5 ∧ 0x80 ≤ p.low ∧ p.high ≤ 0xBF ∧
      (b = 0xF0 → 0x90 ≤ p.low) ∧ (b = 0xF4 → p.high ≤ 0x8F)) := by
  unfold Partial.ofLead? at h
  grind

theorem begun_of_ofLead? (h : Partial.ofLead? b.toNat = some p) :
    Begun p.owed p.low p.high p.bits [b] := by
  rcases Partial.cases_of_ofLead? h with ⟨hp, h⟩ | ⟨hp, h⟩ | ⟨hp, h⟩ <;> rw [hp] <;>
    simp only [Begun]
  · intro b₂ hlow₂ hhigh₂
    rw [utf8EncodeChar_two (by omega) (by omega)]
    refine congrArg₂ _ ?_ (congrArg₂ _ ?_ rfl) <;> exact eq_ofNat_of_toNat_eq (by omega)
  · intro b₂ hlow₂ hhigh₂ b₃ hlow₃ hhigh₃
    rw [utf8EncodeChar_three (by omega) (by omega) (by omega)]
    refine congrArg₂ _ ?_ (congrArg₂ _ ?_ (congrArg₂ _ ?_ rfl)) <;>
      exact eq_ofNat_of_toNat_eq (by omega)
  · intro b₂ hlow₂ hhigh₂ b₃ hlow₃ hhigh₃ b₄ hlow₄ hhigh₄
    rw [utf8EncodeChar_four (by omega) (by omega)]
    refine congrArg₂ _ ?_ (congrArg₂ _ ?_ (congrArg₂ _ ?_ (congrArg₂ _ ?_ rfl))) <;>
      exact eq_ofNat_of_toNat_eq (by omega)

/-! ## A whole text -/

/-- The bytes that are under way. -/
def Machine.Fits (m : Machine) (front : List UInt8) : Prop :=
  match m.pending with
  | none => front = []
  | some p => Begun p.owed p.low p.high p.bits front

/-- A byte in front of which nothing is under way. -/
theorem Machine.lead_cases (out : List (Option Char)) (b : UInt8) :
    (∃ c, Machine.lead out b.toNat = ⟨none, some c :: out⟩ ∧ String.utf8EncodeChar c = [b]) ∨
    (∃ p, Machine.lead out b.toNat = ⟨some p, out⟩ ∧ Begun p.owed p.low p.high p.bits [b]) ∨
    Machine.lead out b.toNat = ⟨none, none :: out⟩ := by
  unfold Machine.lead
  split
  · rename_i hb
    exact .inl ⟨_, rfl, (utf8EncodeChar_ascii hb).trans (by rw [UInt8.ofNat_toNat])⟩
  · cases h : Partial.ofLead? b.toNat with
    | none => exact .inr (.inr rfl)
    | some p => exact .inr (.inl ⟨p, rfl, begun_of_ofLead? h⟩)

/-- One byte completes a character, or joins what is under way, or leaves a broken stretch. -/
theorem Machine.step_cases (h : m.Fits front) (b : UInt8) :
    (∃ c, m.step b = ⟨none, some c :: m.symbols⟩ ∧ String.utf8EncodeChar c = front ++ [b]) ∨
    ((m.step b).symbols = m.symbols ∧ (m.step b).Fits (front ++ [b])) ∨
    none ∈ (m.step b).symbols := by
  obtain ⟨pending, out⟩ := m
  cases pending with
  | none =>
    obtain rfl : front = [] := h
    simp only [Machine.step]
    rcases lead_cases out b with ⟨c, hlead, hc⟩ | ⟨p, hlead, hp⟩ | hlead <;> rw [hlead]
    · exact .inl ⟨c, rfl, hc⟩
    · exact .inr (.inl ⟨rfl, hp⟩)
    · exact .inr (.inr List.mem_cons_self)
  | some p =>
    have hbegun : Begun p.owed p.low p.high p.bits front := h
    simp only [Machine.step]
    split
    · rename_i hrange
      obtain ⟨owed, low, high, bits⟩ := p
      rcases owed with - | - | owed
      · cases hbegun
      · exact .inl ⟨_, rfl, hbegun b hrange.1 hrange.2⟩
      · rw [if_neg (by simp)]
        exact .inr (.inl ⟨rfl, hbegun b hrange.1 hrange.2⟩)
    · -- The stretch that is given up stays among the symbols, whatever the byte begins.
      rcases lead_cases (none :: out) b with ⟨c, hstep, -⟩ | ⟨p, hstep, -⟩ | hstep <;>
        rw [hstep] <;> exact .inr (.inr (by simp))

/-- As long as nothing is broken, the bytes are those of the characters that have been put out, and
of the one under way. -/
theorem Machine.bytes_of_reached (h : none ∉ (reached bytes).symbols) : ∃ cs front,
    (reached bytes).symbols = (cs.map some).reverse ∧ (reached bytes).Fits front ∧
      bytes = encodeChars cs ++ front := by
  induction bytes using List.reverseRecOn with
  | nil => exact ⟨[], [], rfl, rfl, rfl⟩
  | append_singleton bytes b ih =>
    rw [reached_append_one] at h ⊢
    have hkept : none ∉ (reached bytes).symbols := by
      intro hmem
      have hout := step_out (reached bytes).pending [] (reached bytes).symbols b
      rw [List.nil_append] at hout
      exact h (by rw [hout]; exact List.mem_append_right _ hmem)
    obtain ⟨cs, front, hcs, hfits, hbytes⟩ := ih hkept
    rcases step_cases hfits b with ⟨c, hstep, hc⟩ | ⟨hsymbols, hstep⟩ | hbroken
    · refine ⟨cs ++ [c], [], ?_, ?_, ?_⟩
      · rw [hstep, hcs, List.map_append, List.reverse_append]
        rfl
      · rw [hstep]
        rfl
      · conv_lhs => rw [hbytes, List.append_assoc, ← hc]
        simp [encodeChars]
    · exact ⟨cs, front ++ [b], hsymbols.trans hcs, hstep, by
        conv_lhs => rw [hbytes, List.append_assoc]⟩
    · exact absurd hbroken h

/-- **A byte string is decoded exactly when it is the bytes of a text, and to that text.** -/
theorem decode?_eq_some_iff {s : String} : decode? bytes = some s ↔ bytes = encode s := by
  constructor
  · intro h
    simp only [decode?, Option.ite_none_right_eq_some, Option.some.injEq] at h
    obtain ⟨hall, hs⟩ := h
    have hnone : none ∉ (Machine.reached bytes).settled := by
      intro hmem
      have hsome := List.all_eq_true.1 hall none (by rwa [symbols_eq, List.mem_reverse])
      cases hsome
    have hpending : (Machine.reached bytes).pending = none := by
      cases hp : (Machine.reached bytes).pending with
      | none => rfl
      | some p => exact absurd (by rw [Machine.settled, hp]; exact List.mem_cons_self) hnone
    rw [Machine.settled, hpending] at hnone
    obtain ⟨cs, front, hcs, hfits, hbytes⟩ := Machine.bytes_of_reached hnone
    rw [Machine.Fits, hpending] at hfits
    have hsymbols : symbols bytes = cs.map some := by
      rw [symbols_eq, Machine.settled, hpending]
      simp only [hcs, List.reverse_reverse]
    rw [hsymbols] at hs
    rw [hbytes, hfits, List.append_nil, encode, ← hs]
    simp
  · rintro rfl
    simp [decode?, symbols_encode]

end BuildService.Utf8
