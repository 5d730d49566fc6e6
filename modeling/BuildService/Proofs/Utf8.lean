import BuildService.Text.Utf8
import Mathlib.Data.List.Basic
/-!
Reading back what was written: the lossy reading of an encoded text is the text.

A character is written as one to four bytes, and the machine comes back to stand
between characters exactly after the last of them. So the bytes of a text may be
read character by character, whatever has been read before.
-/

set_option autoImplicit false

namespace BuildService.Utf8

/-! ## One character -/

theorem toNat_ofNat_of_lt {x : Nat} (h : x < 256) : (UInt8.ofNat x).toNat = x := by
  rw [UInt8.toNat_ofNat']
  omega

/-- A byte that the character under way can use, while more than this one are owed. -/
theorem Machine.step_more {p : Partial} {out : List (Option Char)} {owed x : Nat}
    (ho : p.owed = owed + 2) (hx : x < 64) (hl : p.low ≤ x + 0x80) (hh : x + 0x80 ≤ p.high) :
    Machine.step ⟨some p, out⟩ (UInt8.ofNat (x + 0x80)) =
      ⟨some ⟨owed + 1, 0x80, 0xBF, p.bits * 64 + x⟩, out⟩ := by
  simp only [Machine.step, toNat_ofNat_of_lt (show x + 0x80 < 256 by omega), hl, hh, and_self,
    if_true, Nat.add_sub_cancel, ho]
  rw [if_neg (by omega)]
  rfl

/-- The last byte of a character. -/
theorem Machine.step_last {out : List (Option Char)} {bits x : Nat} (hx : x < 64) :
    Machine.step ⟨some ⟨1, 0x80, 0xBF, bits⟩, out⟩ (UInt8.ofNat (x + 0x80)) =
      ⟨none, some (Char.ofNat (bits * 64 + x)) :: out⟩ := by
  simp only [Machine.step, toNat_ofNat_of_lt (show x + 0x80 < 256 by omega), Nat.add_sub_cancel,
    if_true]
  rw [if_pos ⟨by omega, by omega⟩]

/-- A leading byte above ASCII. -/
theorem Machine.step_lead {p : Partial} {out : List (Option Char)} {x : Nat} (hx : x < 256)
    (hp : Partial.ofLead? x = some p) (hlow : 0x80 ≤ x) :
    Machine.step ⟨none, out⟩ (UInt8.ofNat x) = ⟨some p, out⟩ := by
  simp only [Machine.step, Machine.lead, toNat_ofNat_of_lt hx, if_neg (Nat.not_lt.2 hlow), hp]

/-- The second byte of a character is checked more closely than the later ones: after some leading
bytes it would make the character too small, too great, or a surrogate. -/
theorem Partial.ofLead?_three {v : Nat} (h : 0x7FF < v) (hv : v ≤ 0xFFFF)
    (hs : v < 0xD800 ∨ 0xDFFF < v) :
    ∃ p, Partial.ofLead? (v / 4096 % 16 + 0xE0) = some p ∧ p.owed = 2 ∧ p.bits = v / 4096 ∧
      p.low ≤ v / 64 % 64 + 0x80 ∧ v / 64 % 64 + 0x80 ≤ p.high := by
  unfold Partial.ofLead?
  rw [if_neg (by omega), if_neg (by omega)]
  split
  · exact ⟨_, rfl, rfl, by simp only; omega, by simp only; omega, by simp only; omega⟩
  split
  · exact ⟨_, rfl, rfl, by simp only; omega, by simp only; omega, by simp only; omega⟩
  rw [if_pos (by omega)]
  exact ⟨_, rfl, rfl, by simp only; omega, by simp only; omega, by simp only; omega⟩

theorem Partial.ofLead?_four {v : Nat} (h : 0xFFFF < v) (hv : v ≤ 0x10FFFF) :
    ∃ p, Partial.ofLead? (v / 262144 % 8 + 0xF0) = some p ∧ p.owed = 3 ∧ p.bits = v / 262144 ∧
      p.low ≤ v / 4096 % 64 + 0x80 ∧ v / 4096 % 64 + 0x80 ≤ p.high := by
  unfold Partial.ofLead?
  rw [if_neg (by omega), if_neg (by omega), if_neg (by omega), if_neg (by omega),
    if_neg (by omega)]
  split
  · exact ⟨_, rfl, rfl, by simp only; omega, by simp only; omega, by simp only; omega⟩
  split
  · exact ⟨_, rfl, rfl, by simp only; omega, by simp only; omega, by simp only; omega⟩
  rw [if_pos (by omega)]
  exact ⟨_, rfl, rfl, by simp only; omega, by simp only; omega, by simp only; omega⟩

/-- The bytes of a character are read as this character, and nothing is left under way. -/
theorem Machine.foldl_encodeChar (out : List (Option Char)) (c : Char) :
    (String.utf8EncodeChar c).foldl Machine.step ⟨none, out⟩ = ⟨none, some c :: out⟩ := by
  have hc : Char.ofNat c.toNat = c := Char.ofNat_toNat c
  have hvalid : c.toNat < 0xD800 ∨ 0xDFFF < c.toNat ∧ c.toNat < 0x110000 := c.valid
  generalize hv : c.toNat = v at hc hvalid
  have hval : c.val.toNat = v := hv
  simp only [String.utf8EncodeChar, hval]
  -- One, two, three or four bytes, as the encoder has it.
  split
  · rename_i h1
    rw [List.foldl_cons, List.foldl_nil, Machine.step, Machine.lead,
      toNat_ofNat_of_lt (show v < 256 by omega), if_pos (by omega), hc]
  split
  · rename_i h1 h2
    have hlead : Partial.ofLead? (v / 64 % 32 + 0xC0) = some ⟨1, 0x80, 0xBF, v / 64⟩ := by
      unfold Partial.ofLead?
      rw [if_neg (by omega), if_pos (by omega),
        show v / 64 % 32 + 0xC0 - 0xC0 = v / 64 by omega]
    simp only [List.foldl_cons, List.foldl_nil]
    rw [Machine.step_lead (by omega) hlead (by omega), Machine.step_last (by omega),
      show v / 64 * 64 + v % 64 = v by omega, hc]
  split
  · rename_i h1 h2 h3
    obtain ⟨p, hp, howed, hbits, hlow, hhigh⟩ :=
      Partial.ofLead?_three (v := v) (by omega) h3 (by omega)
    simp only [List.foldl_cons, List.foldl_nil]
    rw [Machine.step_lead (by omega) hp (by omega), Machine.step_more howed (by omega) hlow hhigh,
      Machine.step_last (by omega), hbits,
      show (v / 4096 * 64 + v / 64 % 64) * 64 + v % 64 = v by omega, hc]
  · rename_i h1 h2 h3
    obtain ⟨p, hp, howed, hbits, hlow, hhigh⟩ :=
      Partial.ofLead?_four (v := v) (by omega) (by omega)
    simp only [List.foldl_cons, List.foldl_nil]
    rw [Machine.step_lead (by omega) hp (by omega), Machine.step_more howed (by omega) hlow hhigh,
      Machine.step_more rfl (by omega) (by simp only; omega) (by simp only; omega),
      Machine.step_last (by omega), hbits,
      show ((v / 262144 * 64 + v / 4096 % 64) * 64 + v / 64 % 64) * 64 + v % 64 = v by omega, hc]

/-! ## Texts -/

theorem Machine.foldl_encodeChars (out : List (Option Char)) (cs : List Char) :
    (encodeChars cs).foldl Machine.step ⟨none, out⟩ = ⟨none, (cs.map some).reverse ++ out⟩ := by
  induction cs generalizing out with
  | nil => rfl
  | cons c cs ih =>
    rw [encodeChars, List.flatMap_cons, List.foldl_append, Machine.foldl_encodeChar]
    refine (ih _).trans ?_
    simp

theorem symbols_encode (s : String) : symbols (encode s) = s.toList.map some := by
  rw [symbols, encode, Machine.start, Machine.foldl_encodeChars]
  simp [Machine.finish]

/-- **An encoded text is read back as it was.** -/
theorem lossy_encode (s : String) : lossy (encode s) = s := by
  simp [lossy, lossyChars, symbols_encode, Function.comp_def]

theorem lossyChars_encodeChars (cs : List Char) : lossyChars (encodeChars cs) = cs := by
  have htext := congrArg String.toList (lossy_encode (String.ofList cs))
  rwa [lossy, encode, String.toList_ofList, String.toList_ofList] at htext

theorem encodeChars_append (cs cs' : List Char) :
    encodeChars (cs ++ cs') = encodeChars cs ++ encodeChars cs' := List.flatMap_append

theorem length_encodeChars_cons (c : Char) (cs : List Char) :
    (encodeChars (c :: cs)).length = c.utf8Size + (encodeChars cs).length := by
  rw [encodeChars, List.flatMap_cons, List.length_append, String.length_utf8EncodeChar]
  rfl

/-- The bytes of two texts, one behind the other. -/
theorem encode_append (s t : String) : encode (s ++ t) = encode s ++ encode t := by
  simp [encode, encodeChars]

end BuildService.Utf8
