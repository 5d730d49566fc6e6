import BuildService.Json.Expect
import BuildService.Proofs.Decoding
import BuildService.Proofs.Reading
/-!
The grammar of JSON, and that the readers keep to it.

The grammar is that of a text as a list of bytes. Two things are said about a string. That
it is one (`Body`) asks only that its escapes are whole and that nothing in it has to be
escaped and is not; so its `\u` escapes may be units that form no pair. What it spells
(`Spells`) is a text, and then every unit has its partner and the bytes are UTF-8. The
reader of strings takes the second kind only, and gives back what is spelled; the reader
that skips takes the first.

How deep a value may be nested is not bounded, neither here nor by the reader that skips.
-/

set_option autoImplicit false

namespace BuildService.Json

/-- The byte of an ASCII character. -/
def mark (c : Char) : UInt8 := UInt8.ofNat c.toNat

theorem byteChar_mark {c : Char} (h : c.toNat < 0x80) : byteChar (mark c) = c := by
  rw [byteChar, mark, Utf8.toNat_ofNat_of_lt (by omega), Char.ofNat_toNat]

theorem eq_mark {b : UInt8} {c : Char} (h : byteChar b = c) : b = mark c := by
  have hvalid : b.toNat.isValidChar := .inl (by have := b.toNat_lt; omega)
  rw [mark, ← h, byteChar, Utf8.toNat_ofNat_of_valid hvalid, UInt8.ofNat_toNat]

/-! ## Blanks -/

def Blanks (i : Input) : Prop := ∀ b ∈ i, isBlank b = true

theorem skipBlanks_append {gap : Input} {b : UInt8} (h : Blanks gap) (hb : isBlank b = false)
    (rest : Input) : skipBlanks (gap ++ b :: rest) = b :: rest := by
  rw [skipBlanks, List.dropWhile_append_of_pos h, List.dropWhile_cons_of_neg (by simp [hb])]

/-! ## Strings -/

/-- The escapes of one letter, and the characters that they stand for. -/
def shortEscapes : List (Char × Char) :=
  [('"', '"'), ('\\', '\\'), ('/', '/'), ('b', '\x08'), ('f', '\x0C'), ('n', '\n'), ('r', '\r'),
    ('t', '\t')]

/-- Four hexadecimal digits, in either case. -/
inductive Hex : Input → Nat → Prop
  | mk {a b c d : UInt8} {w x y z : Nat} (ha : Text.hexValue? (byteChar a) = some w)
      (hb : Text.hexValue? (byteChar b) = some x) (hc : Text.hexValue? (byteChar c) = some y)
      (hd : Text.hexValue? (byteChar d) = some z) :
      Hex [a, b, c, d] (((w * 16 + x) * 16 + y) * 16 + z)

/-- A byte that stands for itself in a string. -/
def IsPlain (b : UInt8) : Prop := b ≠ mark '"' ∧ b ≠ mark '\\' ∧ 0x20 ≤ b

/-- What may stand behind a backslash. -/
inductive Escape : Input → Prop
  | short {c e} (hc : (c, e) ∈ shortEscapes) : Escape [mark c]
  | unit {ds n} (hd : Hex ds n) : Escape (mark 'u' :: ds)

/-- What stands between the quotes of a string. -/
inductive Body : Input → Prop
  | nil : Body []
  | plain {byte body} (hb : IsPlain byte) (h : Body body) : Body (byte :: body)
  | escaped {e body} (he : Escape e) (h : Body body) : Body (mark '\\' :: (e ++ body))

/-- What may stand behind a backslash where a text is meant, and the bytes of the character that it
stands for. Characters beyond the first plane are a pair of units. -/
inductive Escaped : Input → List UInt8 → Prop
  | short {c e} (hc : (c, e) ∈ shortEscapes) : Escaped [mark c] [mark e]
  | unit {ds n} (hd : Hex ds n) (hn : n < 0xD800 ∨ 0xDFFF < n) :
      Escaped (mark 'u' :: ds) (String.utf8EncodeChar (Char.ofNat n))
  | pair {ds es m n} (hd : Hex ds m) (hm : 0xD800 ≤ m ∧ m ≤ 0xDBFF) (he : Hex es n)
      (hn : 0xDC00 ≤ n ∧ n ≤ 0xDFFF) :
      Escaped (mark 'u' :: (ds ++ mark '\\' :: mark 'u' :: es))
        (String.utf8EncodeChar (Char.ofNat (0x10000 + (m - 0xD800) * 0x400 + (n - 0xDC00))))

/-- What stands between the quotes, and the bytes that are meant. -/
inductive Spelling : Input → List UInt8 → Prop
  | nil : Spelling [] []
  | plain {byte body bytes} (hb : IsPlain byte) (h : Spelling body bytes) :
      Spelling (byte :: body) (byte :: bytes)
  | escaped {e out body bytes} (he : Escaped e out) (h : Spelling body bytes) :
      Spelling (mark '\\' :: (e ++ body)) (out ++ bytes)

/-- What stands between the quotes spells a text. -/
def Spells (body : Input) (s : String) : Prop := Spelling body (Utf8.encode s)

variable {b : UInt8} {i rest body : Input} {bytes done out : List UInt8} {size : Nat} {s : String}

theorem Spelling.isBody (h : Spelling body bytes) : Body body := by
  induction h with
  | nil => exact .nil
  | plain hb _ ih => exact .plain hb ih
  | escaped he _ ih =>
    cases he with
    | short hc => exact .escaped (.short hc) ih
    | unit hd _ => exact .escaped (.unit hd) ih
    | pair hd _ he _ =>
      have hpair := Body.escaped (.unit hd) (.escaped (.unit he) ih)
      simpa only [List.cons_append, List.append_assoc] using hpair

theorem simpleEscape?_of_mem {c e : Char} (h : (c, e) ∈ shortEscapes) :
    simpleEscape? (mark c) = some (mark e) := by
  have hall : (shortEscapes.all fun p => simpleEscape? (mark p.1) == some (mark p.2)) = true := by
    decide
  exact eq_of_beq (List.all_eq_true.1 hall (c, e) h)

theorem simpleEscape?_eq (b : UInt8) : simpleEscape? b =
    (shortEscapes.find? fun p => mark p.1 == b).map fun p => mark p.2 := by
  have hall : ∀ n < 256, simpleEscape? (UInt8.ofNat n) =
      (shortEscapes.find? fun p => mark p.1 == UInt8.ofNat n).map fun p => mark p.2 := by
    decide +kernel
  have hb := hall b.toNat b.toNat_lt
  rwa [UInt8.ofNat_toNat] at hb

theorem exists_of_simpleEscape? {e : UInt8} (h : simpleEscape? b = some e) :
    ∃ c d, (c, d) ∈ shortEscapes ∧ b = mark c ∧ e = mark d := by
  rw [simpleEscape?_eq, Option.map_eq_some_iff] at h
  obtain ⟨p, hp, he⟩ := h
  exact ⟨p.1, p.2, List.mem_of_find?_eq_some hp, (eq_of_beq (List.find?_some hp :)).symm, he.symm⟩

theorem length_lt_append {front : Input} (h : front ≠ []) (rest : Input) :
    rest.length < (front ++ rest).length := by
  have hpos := List.length_pos_iff.2 h
  rw [List.length_append]
  omega

theorem Hex.ne_nil {ds : Input} {n : Nat} (h : Hex ds n) : ds ≠ [] := by
  cases h
  exact List.cons_ne_nil _ _

theorem codeUnit_of_hex {ds : Input} {n : Nat} (h : Hex ds n) (rest : Input) :
    codeUnit (ds ++ rest) = .ok ⟨n, rest, length_lt_append h.ne_nil rest⟩ := by
  cases h with
  | mk ha hb hc hd => simp only [List.cons_append, List.nil_append, codeUnit, ha, hb, hc, hd]

theorem hex_of_codeUnit {t : Taken UInt8 Nat i.length} (h : codeUnit i = .ok t) :
    ∃ ds, Hex ds t.value ∧ i = ds ++ t.rest := by
  unfold codeUnit at h
  split at h
  · split at h
    · rename_i hw hx hy hz
      cases h
      exact ⟨_, .mk hw hx hy hz, rfl⟩
    · cases h
  · cases h

theorem expectByte_mark {c : Char} (hc : c.toNat < 0x80) (rest : Input) :
    expectByte c (mark c :: rest) = .ok ⟨(), rest, Nat.lt_succ_self _⟩ := by
  rw [expectByte, if_pos (byteChar_mark hc)]

theorem mark_of_expectByte {c : Char} {t : Taken UInt8 Unit i.length}
    (h : expectByte c i = .ok t) : i = mark c :: t.rest := by
  unfold expectByte at h
  split at h
  · cases h
  · split at h
    · rename_i hb
      cases h
      rw [← eq_mark hb]
    · cases h

theorem isTrailingUnit_iff {n : Nat} : isTrailingUnit n = true ↔ 0xDC00 ≤ n ∧ n ≤ 0xDFFF := by
  simp [isTrailingUnit]

theorem isLeadingUnit_iff {n : Nat} : isLeadingUnit n = true ↔ 0xD800 ≤ n ∧ n ≤ 0xDBFF := by
  simp [isLeadingUnit]

theorem unicodeEscape_of_unit {ds : Input} {n : Nat} (hd : Hex ds n)
    (hn : n < 0xD800 ∨ 0xDFFF < n) (rest : Input) :
    unicodeEscape (ds ++ rest) = .ok ⟨Char.ofNat n, rest, length_lt_append hd.ne_nil rest⟩ := by
  have htrail : isTrailingUnit n = false := by
    rw [← Bool.not_eq_true, isTrailingUnit_iff]
    omega
  have hlead : isLeadingUnit n = false := by
    rw [← Bool.not_eq_true, isLeadingUnit_iff]
    omega
  simp only [unicodeEscape, codeUnit_of_hex hd, bind, Except.bind, htrail, hlead,
    Bool.false_eq_true, if_false]

theorem unicodeEscape_of_pair {ds es : Input} {m n : Nat} (hd : Hex ds m)
    (hm : 0xD800 ≤ m ∧ m ≤ 0xDBFF) (he : Hex es n) (hn : 0xDC00 ≤ n ∧ n ≤ 0xDFFF)
    (hi : i = ds ++ mark '\\' :: mark 'u' :: (es ++ rest)) (hr : rest.length < i.length) :
    unicodeEscape i =
      .ok ⟨Char.ofNat (0x10000 + (m - 0xD800) * 0x400 + (n - 0xDC00)), rest, hr⟩ := by
  subst hi
  have htrail : isTrailingUnit m = false := by
    rw [← Bool.not_eq_true, isTrailingUnit_iff]
    omega
  have hs : ('\\').toNat < 0x80 := by decide
  have hu : ('u').toNat < 0x80 := by decide
  simp only [unicodeEscape, codeUnit_of_hex hd, bind, Except.bind, htrail, isLeadingUnit_iff.2 hm,
    Bool.false_eq_true, if_false, if_true, expectByte_mark hs, expectByte_mark hu,
    codeUnit_of_hex he, isTrailingUnit_iff.2 hn]

theorem escape_of_escaped {e : Input} (h : Escaped e out) (hi : i = e ++ rest)
    (hr : rest.length < i.length) : escape i = .ok ⟨out, rest, hr⟩ := by
  have hu : simpleEscape? (mark 'u') = none := by decide
  have huChar : byteChar (mark 'u') = 'u' := by decide
  cases h with
  | short hc =>
    subst hi
    simp only [List.cons_append, List.nil_append, escape, simpleEscape?_of_mem hc]
  | unit hd hn =>
    subst hi
    simp only [List.cons_append, escape, hu, huChar, if_true, unicodeEscape_of_unit hd hn]
  | @pair ds es _ _ hd hm he hn =>
    rw [List.cons_append, List.append_assoc, List.cons_append, List.cons_append] at hi
    subst hi
    have hpair := unicodeEscape_of_pair (i := ds ++ mark '\\' :: mark 'u' :: (es ++ rest)) hd hm he
      hn rfl (by simp only [List.length_append, List.length_cons]; omega)
    simp only [escape, hu, huChar, if_true, hpair]

theorem escaped_of_unicodeEscape {t : Taken UInt8 Char i.length} (h : unicodeEscape i = .ok t) :
    ∃ ds, Escaped (mark 'u' :: ds) (String.utf8EncodeChar t.value) ∧ i = ds ++ t.rest := by
  simp only [unicodeEscape, bind, Except.bind] at h
  cases hfirst : codeUnit i with
  | error e => rw [hfirst] at h; cases h
  | ok first =>
    obtain ⟨ds, hd, hi⟩ := hex_of_codeUnit hfirst
    simp only [hfirst] at h
    split at h
    · cases h
    rename_i htrail
    rw [isTrailingUnit_iff] at htrail
    split at h
    · rename_i hlead
      rw [isLeadingUnit_iff] at hlead
      cases hslash : expectByte '\\' first.rest with
      | error e => simp only [hslash] at h; cases h
      | ok slash =>
        simp only [hslash] at h
        cases hletter : expectByte 'u' slash.rest with
        | error e => simp only [hletter] at h; cases h
        | ok letter =>
          simp only [hletter] at h
          cases hsecond : codeUnit letter.rest with
          | error e => simp only [hsecond] at h; cases h
          | ok second =>
            obtain ⟨es, he, hrest⟩ := hex_of_codeUnit hsecond
            simp only [hsecond] at h
            split at h
            · rename_i hpair
              have hpieces := Escaped.pair hd hlead he (isTrailingUnit_iff.1 hpair)
              generalize Char.ofNat _ = c at h hpieces
              cases h
              refine ⟨_, hpieces, ?_⟩
              simp only [List.append_assoc, List.cons_append]
              rw [← hrest, ← mark_of_expectByte hletter, ← mark_of_expectByte hslash]
              exact hi
            · cases h
    · rename_i hlead
      rw [isLeadingUnit_iff] at hlead
      cases h
      exact ⟨ds, .unit hd (by omega), hi⟩

theorem escaped_of_escape {t : Taken UInt8 (List UInt8) i.length} (h : escape i = .ok t) :
    ∃ e, Escaped e t.value ∧ i = e ++ t.rest := by
  cases i with
  | nil => cases h
  | cons b rest =>
    simp only [escape] at h
    cases hsimple : simpleEscape? b with
    | some e =>
      simp only [hsimple] at h
      cases h
      obtain ⟨c, d, hmem, rfl, rfl⟩ := exists_of_simpleEscape? hsimple
      exact ⟨[mark c], .short hmem, rfl⟩
    | none =>
      simp only [hsimple] at h
      split at h
      · rename_i hu
        cases hunit : unicodeEscape rest with
        | error e => simp only [hunit] at h; cases h
        | ok t =>
          simp only [hunit] at h
          cases h
          obtain ⟨ds, hescaped, hrest⟩ := escaped_of_unicodeEscape hunit
          exact ⟨_, hescaped, congrArg₂ List.cons (eq_mark hu) hrest⟩
      · cases h

theorem Escape.ne_nil {e : Input} (h : Escape e) : e ≠ [] := by
  cases h <;> exact List.cons_ne_nil _ _

theorem Escaped.ne_nil {e : Input} (h : Escaped e out) : e ≠ [] := by
  cases h <;> exact List.cons_ne_nil _ _

theorem skipEscape_of_escape {e : Input} (h : Escape e) (hi : i = e ++ rest)
    (hr : rest.length < i.length) : skipEscape i = .ok ⟨(), rest, hr⟩ := by
  subst hi
  have hu : simpleEscape? (mark 'u') = none := by decide
  have huChar : byteChar (mark 'u') = 'u' := by decide
  cases h with
  | short hc =>
    simp only [List.cons_append, List.nil_append, skipEscape, simpleEscape?_of_mem hc,
      Option.isSome_some, if_true]
  | unit hd =>
    simp only [List.cons_append, skipEscape, hu, huChar, Option.isSome_none, Bool.false_eq_true,
      if_false, if_true, codeUnit_of_hex hd]

/-! ### Whole strings -/

theorem byteChar_ne_of_isPlain (h : IsPlain b) :
    byteChar b ≠ '"' ∧ byteChar b ≠ '\\' ∧ ¬ b < 0x20 :=
  ⟨fun hb => h.1 (eq_mark hb), fun hb => h.2.1 (eq_mark hb), UInt8.not_lt.2 h.2.2⟩

theorem skipStringBytes_of_body (h : Body body) (hi : i = body ++ mark '"' :: rest)
    (hs : i.length ≤ size) (hr : rest.length < size) :
    skipStringBytes size i hs = .ok ⟨(), rest, hr⟩ := by
  have hquote : byteChar (mark '"') = '"' := by decide
  have hslash : byteChar (mark '\\') = '\\' := by decide
  induction h generalizing i with
  | nil =>
    subst hi
    simp only [List.nil_append]
    rw [skipStringBytes, if_pos hquote]
  | plain hb _ ih =>
    subst hi
    obtain ⟨hq, hb, hc⟩ := byteChar_ne_of_isPlain hb
    simp only [List.cons_append]
    rw [skipStringBytes, if_neg hq, if_neg hb, if_neg hc]
    exact ih rfl _
  | @escaped e body he _ ih =>
    rw [List.cons_append, List.append_assoc] at hi
    subst hi
    have hskip := skipEscape_of_escape (i := e ++ (body ++ mark '"' :: rest)) he rfl
      (length_lt_append he.ne_nil _)
    rw [skipStringBytes, if_neg (by rw [hslash]; decide), if_pos hslash]
    simp only [hskip]
    exact ih rfl _

theorem stringBytes_of_spelling (h : Spelling body bytes) (hi : i = body ++ mark '"' :: rest)
    (hs : i.length ≤ size) (hr : rest.length < size) :
    stringBytes size done i hs = .ok ⟨done.reverse ++ bytes, rest, hr⟩ := by
  have hquote : byteChar (mark '"') = '"' := by decide
  have hslash : byteChar (mark '\\') = '\\' := by decide
  induction h generalizing i done with
  | nil =>
    subst hi
    simp only [List.nil_append, List.append_nil]
    rw [stringBytes, if_pos hquote]
  | plain hb _ ih =>
    subst hi
    obtain ⟨hq, hb, hc⟩ := byteChar_ne_of_isPlain hb
    simp only [List.cons_append]
    rw [stringBytes, if_neg hq, if_neg hb, if_neg hc, ih rfl]
    simp only [List.reverse_cons, List.append_assoc, List.singleton_append]
  | @escaped e out body bytes he _ ih =>
    rw [List.cons_append, List.append_assoc] at hi
    subst hi
    have hescape := escape_of_escaped (i := e ++ (body ++ mark '"' :: rest)) he rfl
      (length_lt_append he.ne_nil _)
    rw [stringBytes, if_neg (by rw [hslash]; decide), if_pos hslash]
    simp only [hescape]
    rw [ih rfl]
    simp only [List.reverse_append, List.reverse_reverse, List.append_assoc]

/-- What the reader of strings takes is a spelling of what it gives back. -/
theorem spelling_of_stringBytes {hs : i.length ≤ size} {t : Taken UInt8 (List UInt8) size}
    (h : stringBytes size done i hs = .ok t) : ∃ body bytes, Spelling body bytes ∧
      i = body ++ mark '"' :: t.rest ∧ t.value = done.reverse ++ bytes := by
  fun_induction stringBytes size done i hs with
  | case1 => cases h
  | case2 done b rest hs hb =>
    cases h
    exact ⟨[], [], .nil, by rw [eq_mark hb]; rfl, by rw [List.append_nil]⟩
  | case3 => cases h
  | case4 done b rest _ hq hb e hescape _ _ ih =>
    obtain ⟨front, hfront, hrest⟩ := escaped_of_escape hescape
    obtain ⟨body, bytes, hspelling, hi, hvalue⟩ := ih h
    refine ⟨_, _, .escaped hfront hspelling, ?_, ?_⟩
    · rw [List.cons_append, List.append_assoc, ← hi, ← eq_mark hb]
      exact congrArg (b :: ·) hrest
    · rw [hvalue, List.reverse_append, List.reverse_reverse, List.append_assoc]
  | case5 => cases h
  | case6 done b rest _ hq hb hc _ ih =>
    obtain ⟨body, bytes, hspelling, hi, hvalue⟩ := ih h
    have hplain : IsPlain b :=
      ⟨fun h => hq (by rw [h]; decide), fun h => hb (by rw [h]; decide), UInt8.not_lt.1 hc⟩
    refine ⟨_, _, .plain hplain hspelling, ?_, ?_⟩
    · rw [List.cons_append, ← hi]
    · rw [hvalue, List.reverse_cons, List.append_assoc, List.singleton_append]

theorem length_lt_cut (front rest : Input) : rest.length < (front ++ b :: rest).length := by
  simp only [List.length_append, List.length_cons]
  omega

theorem skipString_of_body (h : Body body) (rest : Input) :
    skipString (body ++ mark '"' :: rest) = .ok ⟨(), rest, length_lt_cut body rest⟩ :=
  skipStringBytes_of_body h rfl _ _

/-- A string ends at one place. -/
theorem body_unique {body₁ body₂ rest₁ rest₂ : Input} (h₁ : Body body₁) (h₂ : Body body₂)
    (h : body₁ ++ mark '"' :: rest₁ = body₂ ++ mark '"' :: rest₂) :
    body₁ = body₂ ∧ rest₁ = rest₂ := by
  have hskip := skipStringBytes_of_body h₁ rfl (Nat.le_refl _) (length_lt_cut body₁ rest₁)
  rw [skipStringBytes_of_body h₂ h _ (h ▸ length_lt_cut body₂ rest₂)] at hskip
  obtain rfl : rest₂ = rest₁ := by injection hskip with hskip; injection hskip
  exact ⟨List.append_cancel_right h, rfl⟩

/-- A string that spells a text is read as this text. -/
theorem string_of_spells (h : Spells body s) (rest : Input) :
    string (body ++ mark '"' :: rest) = .ok ⟨s, rest, length_lt_cut body rest⟩ := by
  rw [string, stringBytes_of_spelling h rfl _ (length_lt_cut body rest)]
  simp only [List.reverse_nil, List.nil_append, Utf8.decode?_eq_some_iff.2 rfl]

/-- What is read as a text spells it, and ends at a quote. -/
theorem exists_spells_of_string {t : Taken UInt8 String i.length} (h : string i = .ok t) :
    ∃ body, Spells body t.value ∧ i = body ++ mark '"' :: t.rest := by
  rw [string] at h
  split at h
  · cases h
  · rename_i u hu
    obtain ⟨body, bytes, hspelling, hi, hvalue⟩ := spelling_of_stringBytes hu
    split at h
    · rename_i s hs
      cases h
      rw [hvalue, List.reverse_nil, List.nil_append, Utf8.decode?_eq_some_iff] at hs
      rw [hs] at hspelling
      exact ⟨body, hspelling, hi⟩
    · cases h

theorem spells_of_string (hb : Body body)
    {t : Taken UInt8 String (body ++ mark '"' :: rest).length}
    (h : string (body ++ mark '"' :: rest) = .ok t) : Spells body t.value ∧ t.rest = rest := by
  obtain ⟨body', hspells, hi⟩ := exists_spells_of_string h
  obtain ⟨rfl, hrest⟩ := body_unique hb hspells.isBody hi
  exact ⟨hspells, hrest.symm⟩

/-! ### Texts that spell themselves -/

/-- Bytes of which each stands for itself in a string. -/
def AllPlain (bytes : List UInt8) : Prop := ∀ b ∈ bytes, IsPlain b

theorem Spelling.of_allPlain (h : AllPlain bytes) : Spelling bytes bytes := by
  induction bytes with
  | nil => exact .nil
  | cons b bytes ih =>
    obtain ⟨hb, hbytes⟩ := List.forall_mem_cons.1 h
    exact .plain hb (ih hbytes)

variable {c : Char}

theorem encodeChar_ascii (h : c.toNat < 0x80) : String.utf8EncodeChar c = [mark c] := by
  rw [mark, ← Utf8.utf8EncodeChar_ascii h, Char.ofNat_toNat]

/-- A byte of a character is the character itself, or both lie above ASCII. -/
theorem eq_mark_or_wide (h : b ∈ String.utf8EncodeChar c) :
    (c.toNat < 0x80 ∧ b = mark c) ∨ 0x80 ≤ c.toNat ∧ 0x80 ≤ b.toNat := by
  by_cases hc : c.toNat < 0x80
  · rw [encodeChar_ascii hc, List.mem_singleton] at h
    exact .inl ⟨hc, h⟩
  · have hwide : ∀ {x : Nat}, 0x80 ≤ x → x < 256 → b = UInt8.ofNat x → 0x80 ≤ b.toNat := by
      rintro x hlow hhigh rfl
      rwa [Utf8.toNat_ofNat_of_lt hhigh]
    have hval : ¬ c.val.toNat ≤ 0x7F := fun h => hc (Nat.lt_succ_of_le h)
    refine .inr ⟨Nat.le_of_not_lt hc, ?_⟩
    -- Two, three or four bytes, as the encoder has it.
    simp only [String.utf8EncodeChar, if_neg hval] at h
    split at h
    · simp only [List.mem_cons, List.not_mem_nil, or_false] at h
      rcases h with h | h <;> exact hwide (by omega) (by omega) h
    split at h
    · simp only [List.mem_cons, List.not_mem_nil, or_false] at h
      rcases h with h | h | h <;> exact hwide (by omega) (by omega) h
    · simp only [List.mem_cons, List.not_mem_nil, or_false] at h
      rcases h with h | h | h | h <;> exact hwide (by omega) (by omega) h

theorem isPlain_mark_iff (h : c.toNat < 0x80) :
    IsPlain (mark c) ↔ c ≠ '"' ∧ c ≠ '\\' ∧ 0x20 ≤ c.toNat := by
  have heq : ∀ x : Char, x.toNat < 0x80 → (mark c = mark x ↔ c = x) := fun x hx =>
    ⟨fun hmark => by rw [← byteChar_mark h, hmark, byteChar_mark hx], congrArg mark⟩
  rw [IsPlain, Ne, heq _ (by decide), Ne, heq _ (by decide), UInt8.le_iff_toNat_le, mark,
    Utf8.toNat_ofNat_of_lt (by omega)]
  exact .rfl

/-- The bytes of a text are plain exactly if it holds no quote, no backslash and no character below
the blank. -/
theorem allPlain_encode_iff :
    AllPlain (Utf8.encode s) ↔ ∀ c ∈ s.toList, c ≠ '"' ∧ c ≠ '\\' ∧ 0x20 ≤ c.toNat := by
  simp only [AllPlain, Utf8.encode, Utf8.encodeChars, List.mem_flatMap]
  constructor
  · intro h c hc
    by_cases hlow : c.toNat < 0x80
    · refine (isPlain_mark_iff hlow).1 (h _ ⟨c, hc, ?_⟩)
      rw [encodeChar_ascii hlow]
      exact List.mem_singleton_self _
    · have hq : ('"').toNat < 0x80 := by decide
      have hs : ('\\').toNat < 0x80 := by decide
      exact ⟨by rintro rfl; exact hlow hq, by rintro rfl; exact hlow hs, by omega⟩
  · rintro h b ⟨c, hc, hb⟩
    rcases eq_mark_or_wide hb with ⟨hlow, rfl⟩ | ⟨-, hwide⟩
    · exact (isPlain_mark_iff hlow).2 (h c hc)
    · refine ⟨?_, ?_, UInt8.le_iff_toNat_le.2 (Nat.le_trans (by decide) hwide)⟩
      · rintro rfl
        exact absurd hwide (by decide)
      · rintro rfl
        exact absurd hwide (by decide)

/-! ## Numbers -/

/-- One or more digits. -/
def Digits (ds : Input) : Prop := ds ≠ [] ∧ ∀ d ∈ ds, isDigit d = true

inductive Fraction : Input → Prop
  | absent : Fraction []
  | present {ds} (h : Digits ds) : Fraction (mark '.' :: ds)

inductive Exponent : Input → Prop
  | absent : Exponent []
  | unsigned {e ds} (he : e = 'e' ∨ e = 'E') (h : Digits ds) : Exponent (mark e :: ds)
  | signed {e sign ds} (he : e = 'e' ∨ e = 'E') (hs : sign = '+' ∨ sign = '-') (h : Digits ds) :
      Exponent (mark e :: mark sign :: ds)

/-- A number without its sign: no zero stands in front of another digit. -/
inductive Numeral : Input → Prop
  | mk {whole fraction exponent} (hw : Digits whole)
      (hz : whole.length = 1 ∨ whole.head? ≠ some (mark '0')) (hf : Fraction fraction)
      (he : Exponent exponent) : Numeral (whole ++ (fraction ++ exponent))

/-- What may stand behind a value: a blank, a comma or a bracket that closes. -/
def Delimited (tail : Input) : Prop :=
  ∀ b ∈ tail.head?, isBlank b = true ∨ b = mark ',' ∨ b = mark ']' ∨ b = mark '}'

theorem isDigit_of_delimited {tail : Input} (h : Delimited tail) :
    ∀ b ∈ tail.head?, isDigit b = false ∧ byteChar b ≠ '.' ∧ byteChar b ≠ 'e' ∧
      byteChar b ≠ 'E' := by
  intro b hb
  rcases h b hb with hblank | rfl | rfl | rfl
  · simp only [isBlank, Bool.or_eq_true, beq_iff_eq] at hblank
    rcases hblank with ((h | h) | h) | h <;> simp only [isDigit, h] <;> decide
  · decide
  · decide
  · decide

theorem someDigits_of_digits {ds tail : Input} (fault : Fault) (h : Digits ds)
    (ht : ∀ b ∈ tail.head?, isDigit b = false) :
    someDigits fault (ds ++ tail) = .ok ⟨ds, tail, length_lt_append h.1 tail⟩ := by
  obtain ⟨hne, hall⟩ := h
  cases ds with
  | nil => exact absurd rfl hne
  | cons d ds =>
    obtain ⟨hd, hds⟩ := List.forall_mem_cons.1 hall
    obtain ⟨htake, hdrop⟩ := span_append hds ht
    simp only [List.cons_append, someDigits, hd, if_true, digits, htake, hdrop]

theorem fractionPart?_of_fraction {fraction tail : Input} (fault : Fault) (h : Fraction fraction)
    (ht : ∀ b ∈ tail.head?, isDigit b = false ∧ byteChar b ≠ '.') :
    ∃ value hr, fractionPart? fault (fraction ++ tail) = .ok (value, ⟨tail, hr⟩) := by
  cases h with
  | absent =>
    cases tail with
    | nil => exact ⟨_, _, rfl⟩
    | cons b tail => exact ⟨none, Nat.le_refl _, by
        simp only [List.nil_append, fractionPart?, (ht b rfl).2, if_false]⟩
  | present h =>
    have hpoint : byteChar (mark '.') = '.' := by decide
    exact ⟨_, _, by
      simp only [List.cons_append, fractionPart?, hpoint, if_true,
        someDigits_of_digits fault h fun b hb => (ht b hb).1]
      rfl⟩

theorem exponentPart_of_digits {ds tail : Input} (fault : Fault) (h : Digits ds)
    (ht : ∀ b ∈ tail.head?, isDigit b = false) :
    exponentPart fault (ds ++ tail) =
      .ok ⟨(false, ds), tail, length_lt_append h.1 tail⟩ := by
  cases ds with
  | nil => exact absurd rfl h.1
  | cons d ds =>
    have hdigits : someDigits fault (d :: (ds ++ tail)) = .ok ⟨d :: ds, tail, _⟩ :=
      someDigits_of_digits fault h ht
    -- A digit is no sign.
    have hd : ¬ (byteChar d = '+' ∨ byteChar d = '-') := by
      have hdigit := h.2 d List.mem_cons_self
      rintro (hsign | hsign) <;> rw [isDigit, hsign] at hdigit <;> revert hdigit <;> decide
    simp only [List.cons_append, exponentPart, hd, if_false, hdigits]
    rfl

theorem exponentPart_of_sign {sign : Char} {ds tail : Input} (fault : Fault)
    (hs : sign = '+' ∨ sign = '-') (h : Digits ds) (ht : ∀ b ∈ tail.head?, isDigit b = false) :
    ∃ value hr, exponentPart fault (mark sign :: (ds ++ tail)) = .ok ⟨value, tail, hr⟩ := by
  have hsign : byteChar (mark sign) = '+' ∨ byteChar (mark sign) = '-' := by
    rcases hs with rfl | rfl <;> decide
  exact ⟨_, _, by
    simp only [exponentPart, hsign, if_true, someDigits_of_digits fault h ht]
    rfl⟩

theorem exponentPart?_of_exponent {exponent tail : Input} (fault : Fault) (h : Exponent exponent)
    (ht : ∀ b ∈ tail.head?, isDigit b = false ∧ byteChar b ≠ 'e' ∧ byteChar b ≠ 'E') :
    ∃ value hr, exponentPart? fault (exponent ++ tail) = .ok (value, ⟨tail, hr⟩) := by
  have hletter : ∀ {e : Char}, e = 'e' ∨ e = 'E' →
      byteChar (mark e) = 'e' ∨ byteChar (mark e) = 'E' := by
    rintro e (rfl | rfl) <;> decide
  have hdigit : ∀ b ∈ tail.head?, isDigit b = false := fun b hb => (ht b hb).1
  cases h with
  | absent =>
    cases tail with
    | nil => exact ⟨_, _, rfl⟩
    | cons b tail => exact ⟨none, Nat.le_refl _, by
        simp only [List.nil_append, exponentPart?, (ht b rfl).2, or_self, if_false]⟩
  | unsigned he h =>
    exact ⟨_, _, by
      simp only [List.cons_append, exponentPart?, hletter he, if_true,
        exponentPart_of_digits fault h hdigit]
      rfl⟩
  | signed he hs h =>
    obtain ⟨value, hr, hsigned⟩ := exponentPart_of_sign fault hs h hdigit
    exact ⟨_, _, by
      simp only [List.cons_append, exponentPart?, hletter he, if_true, hsigned]
      rfl⟩

theorem Exponent.head {exponent tail : Input} (h : Exponent exponent)
    (ht : ∀ b ∈ tail.head?, isDigit b = false ∧ byteChar b ≠ '.') :
    ∀ b ∈ (exponent ++ tail).head?, isDigit b = false ∧ byteChar b ≠ '.' := by
  have hletter : ∀ {e : Char}, e = 'e' ∨ e = 'E' →
      isDigit (mark e) = false ∧ byteChar (mark e) ≠ '.' := by
    rintro e (rfl | rfl) <;> decide
  cases h with
  | absent => exact ht
  | unsigned he | signed he =>
    intro b hb
    obtain rfl : mark _ = b := Option.some.inj hb
    exact hletter he

theorem Fraction.head {fraction tail : Input} (h : Fraction fraction)
    (ht : ∀ b ∈ tail.head?, isDigit b = false) :
    ∀ b ∈ (fraction ++ tail).head?, isDigit b = false := by
  cases h with
  | absent => exact ht
  | present =>
    intro b hb
    obtain rfl : mark '.' = b := Option.some.inj hb
    decide

/-- A number is read to its end, wherever a value may end. -/
theorem number_of_numeral {text tail : Input} (fault : Fault) (h : Numeral text)
    (ht : Delimited tail) (hi : i = text ++ tail) :
    ∃ value hr, number fault i = .ok ⟨value, tail, hr⟩ := by
  have htail := isDigit_of_delimited ht
  cases h with
  | @mk whole fraction exponent hw hz hf he =>
    rw [List.append_assoc, List.append_assoc] at hi
    subst hi
    have hehead := he.head fun b hb => ⟨(htail b hb).1, (htail b hb).2.1⟩
    obtain ⟨e, hre, hexponent⟩ := exponentPart?_of_exponent fault he
      fun b hb => ⟨(htail b hb).1, (htail b hb).2.2⟩
    obtain ⟨f, hrf, hfraction⟩ := fractionPart?_of_fraction fault hf hehead
    have hwhole := someDigits_of_digits fault hw
      (hf.head fun b hb => (hehead b hb).1)
    have hzero : ¬ (whole.length ≠ 1 ∧ whole.head?.any (byteChar · == '0') = true) := by
      rintro ⟨hlen, hhead⟩
      obtain ⟨d, hd, hd0⟩ := (Option.any_eq_true _ _).1 hhead
      exact (hz.resolve_left hlen) (hd.trans (congrArg some (eq_mark (eq_of_beq hd0))))
    refine ⟨⟨whole, f, e⟩, ?_, ?_⟩
    · have hpos := List.length_pos_iff.2 hw.1
      simp only [List.length_append]
      omega
    · simp only [number, bind, Except.bind, hwhole, hzero, if_false, hfraction, hexponent]

end BuildService.Json
