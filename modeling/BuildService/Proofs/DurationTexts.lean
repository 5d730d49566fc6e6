import BuildService.Duration
import BuildService.Proofs.AsciiCuts
import BuildService.Proofs.LogFiles
import BuildService.Proofs.Reading
import Mathlib.Data.Nat.Digits.Defs
/-!
Which texts are durations, and which spans of time they mean.

The grammar is said over the characters of the whole text, blanks at its ends
included (`Duration.Written`), so no part of it is left to the reader's own trimming.
The unit may be in either case, which is said by the letters of ASCII; that reading
it by the lower case of all of Unicode comes to the same is a matter of the tables:
no character beyond ASCII has `m`, `s` or `h` as its lower-case letter
(`lowerChar_eq_iff`), although one has `k`.

The numbers are those of the text and not of a machine word. They may be as great
as they like; only the bounds that the reader checks decide.
-/

set_option autoImplicit false

namespace BuildService

/-! ## Blanks at both ends -/

namespace Text

variable {cs lead body trail : List Char} {c : Char}

/-- What is trimmed off are blanks. -/
theorem exists_trimmed (cs : List Char) : ∃ lead trail, (∀ c ∈ lead, isBlank c = true) ∧
    (∀ c ∈ trail, isBlank c = true) ∧ cs = lead ++ trimmed cs ++ trail := by
  have hall : ∀ (xs : List Char), ∀ c ∈ xs.takeWhile isBlank, isBlank c = true := fun xs _ hc =>
    (List.mem_takeWhile_imp hc)
  refine ⟨cs.takeWhile isBlank, ((cs.dropWhile isBlank).reverse.takeWhile isBlank).reverse,
    hall cs, fun c hc => hall _ c (List.mem_reverse.1 hc), ?_⟩
  rw [trimmed, List.append_assoc, ← List.reverse_append, List.takeWhile_append_dropWhile,
    List.reverse_reverse, List.takeWhile_append_dropWhile]

/-- What is no blank is not trimmed off. -/
theorem mem_trimmed_iff (hc : isBlank c = false) : c ∈ trimmed cs ↔ c ∈ cs := by
  obtain ⟨lead, trail, hlead, htrail, hs⟩ := exists_trimmed cs
  constructor
  · intro h
    rw [hs]
    simp [h]
  · intro h
    rw [hs, List.mem_append, List.mem_append] at h
    rcases h with (h | h) | h
    · rw [hlead c h] at hc
      cases hc
    · exact h
    · rw [htrail c h] at hc
      cases hc

/-- Between blanks, what begins and ends with something else is what is left. -/
theorem trimmed_eq (hlead : ∀ c ∈ lead, isBlank c = true) (htrail : ∀ c ∈ trail, isBlank c = true)
    (hne : body ≠ []) (hd : ∀ c ∈ body.head?, isBlank c = false)
    (hl : ∀ c ∈ body.getLast?, isBlank c = false) : trimmed (lead ++ body ++ trail) = body := by
  obtain ⟨first, rest, hbody⟩ := List.exists_cons_of_ne_nil hne
  obtain ⟨last, front, hreverse⟩ := List.exists_cons_of_ne_nil (List.reverse_ne_nil_iff.2 hne)
  have hfirst : isBlank first = false := hd first (by simp [hbody])
  have hlast : isBlank last = false := hl last (by simp [List.getLast?_eq_head?_reverse, hreverse])
  have hdrop : (lead ++ body ++ trail).dropWhile isBlank = body ++ trail := by
    rw [List.append_assoc, List.dropWhile_append_of_pos hlead, hbody, List.cons_append,
      List.dropWhile_cons_of_neg (by simp [hfirst])]
  rw [trimmed, hdrop, List.reverse_append,
    List.dropWhile_append_of_pos (fun c hc => htrail c (List.mem_reverse.1 hc)), hreverse,
    List.dropWhile_cons_of_neg (by simp [hlast]), ← hreverse, List.reverse_reverse]

/-! ## Lower case -/

/-- The one run of capitals whose lower-case letter is in ASCII is the sign for kelvin. -/
theorem caseRuns_above_ascii {r : CaseRun} (h : r ∈ caseRuns) :
    0x80 ≤ (r.first : Int) + r.shift ∨ r.first = 0x212A ∧ r.last = 0x212A ∧ r.shift = -8383 := by
  have hall : (caseRuns.all fun r => decide (0x80 ≤ (r.first : Int) + r.shift ∨
      r.first = 0x212A ∧ r.last = 0x212A ∧ r.shift = -8383)) = true := by decide +kernel
  exact of_decide_eq_true (List.all_eq_true.1 hall r h)

theorem toLower_eq_self (h : c.toNat < 65 ∨ 90 < c.toNat) : c.toLower = c := by
  have hA : 'A'.val.toNat = 65 := rfl
  have hZ : 'Z'.val.toNat = 90 := rfl
  have hc : c.val.toNat = c.toNat := rfl
  delta Char.toLower
  rw [dif_neg]
  rw [ge_iff_le, UInt32.le_iff_toNat_le, UInt32.le_iff_toNat_le]
  omega

/-- The lower-case letter of a character beyond ASCII is beyond ASCII, or no character at all, or
`k`. -/
theorem lowerChar_of_wide (h : 0x80 ≤ c.toNat) :
    0x80 ≤ (lowerChar c).toNat ∨ (lowerChar c).toNat = 0 ∨ lowerChar c = 'k' := by
  unfold lowerChar
  dsimp only
  rw [if_neg (by omega)]
  split
  · rename_i r hr
    have hwithin := List.find?_some hr
    simp only [Bool.and_eq_true, decide_eq_true_eq] at hwithin
    rcases caseRuns_above_ascii (List.mem_of_find?_eq_some hr) with hwide | ⟨hf, hl, hs⟩
    · by_cases hv : ((c.toNat : Int) + r.shift).toNat.isValidChar
      · rw [Utf8.toNat_ofNat_of_valid hv]
        omega
      · rw [Char.ofNat, dif_neg hv]
        exact .inr (.inl rfl)
    · have hkelvin : ((c.toNat : Int) + r.shift).toNat = 107 := by omega
      rw [hkelvin]
      exact .inr (.inr rfl)
  · exact .inl h

/-- A letter of the units is the lower case of its two forms in ASCII, and of nothing else. -/
theorem lowerChar_eq_iff {x : Char} (hx : x ∈ ['m', 's', 'h']) :
    lowerChar c = x ↔ c.toLower = x := by
  by_cases h : c.toNat < 0x80
  · rw [lowerChar, if_pos h]
  · have hwide := Nat.not_lt.1 h
    have hsmall : x.toNat < 0x80 ∧ x.toNat ≠ 0 ∧ x ≠ 'k' := by
      simp only [List.mem_cons, List.not_mem_nil, or_false] at hx
      rcases hx with rfl | rfl | rfl <;> decide
    rw [toLower_eq_self (.inr (by omega))]
    constructor
    · rintro rfl
      rcases lowerChar_of_wide hwide with hlow | hlow | hlow
      · omega
      · exact absurd hlow hsmall.2.1
      · exact absurd hlow hsmall.2.2
    · rintro rfl
      omega

/-- A text in the letters of the units is the lower case of what has these letters in either case,
and of nothing else. The two exceptions of lower case put out other letters. -/
theorem lowerFrom_eq_iff {before low : List Char} (hlow : ∀ x ∈ low, x ∈ ['m', 's', 'h']) :
    lowerFrom before cs = low ↔ cs.map Char.toLower = low := by
  induction cs generalizing before low with
  | nil => rfl
  | cons c cs ih =>
    have hodd : ∀ {x : Char} {rest : List Char}, x ∉ ['m', 's', 'h'] → x :: rest ≠ low := by
      rintro x rest hx rfl
      exact hx (hlow x List.mem_cons_self)
    rw [lowerFrom, List.map_cons]
    split
    · rename_i hdot
      subst hdot
      exact iff_of_false (hodd (by decide)) (hodd (by decide))
    split
    · rename_i hsigma
      subst hsigma
      refine iff_of_false ?_ (hodd (by decide))
      split
      · exact hodd (by decide)
      · exact hodd (by decide)
    · cases low with
      | nil => simp
      | cons x low =>
        obtain ⟨hx, hrest⟩ := List.forall_mem_cons.1 hlow
        rw [List.singleton_append, List.cons.injEq, List.cons.injEq, lowerChar_eq_iff hx, ih hrest]

end Text

namespace Duration

/-! ## The grammar -/

inductive Scale where
  | milliseconds
  | seconds
  | minutes
  | hours
  deriving DecidableEq, Repr

namespace Scale

def symbol : Scale → List Char
  | milliseconds => ['m', 's']
  | seconds => ['s']
  | minutes => ['m']
  | hours => ['h']

/-- How many seconds, or milliseconds, one of them has. -/
def factor : Scale → Nat
  | milliseconds => 1
  | seconds => 1
  | minutes => 60
  | hours => 3600

/-- The span of time that so many of them are: a number of milliseconds, or of seconds with nothing
beyond them. -/
def Means (u : Scale) (n : Nat) (d : Duration) : Prop :=
  match u with
  | milliseconds => d.millis = n
  | _ => d.seconds = n * u.factor ∧ d.nanos = 0

end Scale

/-- A text that is digits and a unit in either case, with blanks allowed in front of both and behind
the unit. -/
structure Written (s : String) (ds : List Char) (u : Scale) : Prop where
  nonempty : ds ≠ []
  digits : ∀ c ∈ ds, c.isDigit = true
  parts : ∃ lead gap unit trail, s.toList = lead ++ (ds ++ gap ++ unit) ++ trail ∧
    (∀ c ∈ lead ++ gap ++ trail, Text.isBlank c = true) ∧ unit.map Char.toLower = u.symbol

/-- The number that digits stand for, the last one the lowest. -/
def number (ds : List Char) : Nat := Nat.ofDigits 10 (ds.reverse.map fun c => c.toNat - 48)

variable {s : String} {ds cs : List Char} {u : Scale} {d : Duration} {n : Nat} {c : Char}

theorem digitsValue_eq (ds : List Char) : digitsValue ds = number ds := by
  rw [number, Nat.ofDigits_eq_foldr, List.foldr_map, List.foldr_reverse, digitsValue]
  congr 1
  funext n c
  have hzero : '0'.toNat = 48 := rfl
  rw [hzero, Nat.cast_id]
  omega

theorem toNat_of_isDigit (h : c.isDigit = true) : 48 ≤ c.toNat ∧ c.toNat ≤ 57 := by
  simp only [Char.isDigit, Bool.and_eq_true, decide_eq_true_eq, ge_iff_le,
    UInt32.le_iff_toNat_le] at h
  exact h

theorem isBlank_of_isDigit (h : c.isDigit = true) : Text.isBlank c = false := by
  have hrange := toNat_of_isDigit h
  simp only [Text.isBlank, Bool.or_eq_false_iff, Bool.and_eq_false_iff, decide_eq_false_iff_not,
    beq_eq_false_iff_ne]
  omega

/-- The letters of the units are neither digits nor blanks, in either case. -/
theorem of_toLower_mem (h : c.toLower ∈ ['m', 's', 'h']) :
    c.isDigit = false ∧ Text.isBlank c = false := by
  -- What is no capital of ASCII is its own lower case, so it would be one of the three letters.
  have hletter : c.toNat < 65 ∨ 90 < c.toNat → c ∈ ['m', 's', 'h'] := fun hc => by
    rwa [Text.toLower_eq_self hc] at h
  constructor
  · by_contra hd
    have hd : c.isDigit = true := by simpa using hd
    have hrange := toNat_of_isDigit hd
    have hc := hletter (.inl (by omega))
    simp only [List.mem_cons, List.not_mem_nil, or_false] at hc
    rcases hc with rfl | rfl | rfl <;> revert hd <;> decide
  · by_contra hb
    have hb : Text.isBlank c = true := by simpa using hb
    have hout : c.toNat < 65 ∨ 90 < c.toNat := by
      simp only [Text.isBlank, Bool.or_eq_true, Bool.and_eq_true, decide_eq_true_eq,
        beq_iff_eq] at hb
      omega
    have hc := hletter hout
    simp only [List.mem_cons, List.not_mem_nil, or_false] at hc
    rcases hc with rfl | rfl | rfl <;> revert hb <;> decide

theorem mem_letters_of_mem_symbol {x : Char} (h : x ∈ u.symbol) : x ∈ ['m', 's', 'h'] := by
  have hall : ∀ u : Scale, u.symbol.all (['m', 's', 'h'].contains ·) = true := by
    rintro (_ | _ | _ | _) <;> rfl
  exact List.contains_iff_mem.1 (List.all_eq_true.1 (hall u) x h)

theorem lowerCase_eq_iff (cs : List Char) :
    Text.lowerCase (String.ofList cs) = String.ofList u.symbol ↔ cs.map Char.toLower = u.symbol := by
  rw [Text.lowerCase, String.toList_ofList, String.ofList_inj]
  exact Text.lowerFrom_eq_iff fun x hx => mem_letters_of_mem_symbol hx

/-! ## Reading a text of the grammar -/

/-- What the reader finds in a text of the grammar: the digits, and behind them the unit. -/
structure Found (s : String) (ds : List Char) (u : Scale) : Prop where
  digits : (Text.trimmed s.toList).takeWhile Char.isDigit = ds
  nonempty : ds ≠ []
  unit : Text.lowerCase (String.ofList
    (Text.trimmed ((Text.trimmed s.toList).dropWhile Char.isDigit))) = String.ofList u.symbol

theorem Written.found (h : Written s ds u) : Found s ds u := by
  obtain ⟨lead, gap, unit, trail, hs, hblank, hunit⟩ := h.parts
  simp only [List.mem_append, or_imp, forall_and] at hblank
  obtain ⟨⟨hlead, hgap⟩, htrail⟩ := hblank
  have hletters : ∀ c ∈ unit, c.toLower ∈ ['m', 's', 'h'] := fun c hc =>
    mem_letters_of_mem_symbol (hunit ▸ List.mem_map_of_mem hc)
  have hne : unit ≠ [] := by
    rintro rfl
    cases u <;> cases hunit
  obtain ⟨first, more, hds⟩ := List.exists_cons_of_ne_nil h.nonempty
  have hlast : ∀ front : List Char, ∀ c ∈ (front ++ unit).getLast?, Text.isBlank c = false := by
    intro front c hc
    rw [List.getLast?_append_of_ne_nil _ hne] at hc
    exact (of_toLower_mem (hletters c (List.mem_of_mem_getLast? hc))).2
  have htrimmed : Text.trimmed s.toList = ds ++ gap ++ unit := by
    rw [hs]
    refine Text.trimmed_eq hlead htrail (by simp [hne]) ?_ (hlast _)
    intro c hc
    rw [hds] at hc
    obtain rfl : first = c := by simpa using hc
    exact isBlank_of_isDigit (h.digits first (by simp [hds]))
  -- What stands behind the digits begins with a blank or with a letter of the unit.
  have hstop : ∀ c ∈ (gap ++ unit).head?, c.isDigit = false := by
    intro c hc
    rcases List.mem_append.1 (List.mem_of_mem_head? hc) with hc | hc
    · by_contra hd
      have hb := isBlank_of_isDigit (c := c) (by simpa using hd)
      rw [hgap c hc] at hb
      cases hb
    · exact (of_toLower_mem (hletters c hc)).1
  obtain ⟨htake, hdrop⟩ := span_append h.digits hstop
  rw [List.append_assoc] at htrimmed
  constructor
  · rw [htrimmed, htake]
  · exact h.nonempty
  · rw [htrimmed, hdrop, lowerCase_eq_iff]
    have hunitTrim : Text.trimmed (gap ++ unit ++ []) = unit :=
      Text.trimmed_eq hgap (by simp) hne
        (fun c hc => (of_toLower_mem (hletters c (List.mem_of_mem_head? hc))).2)
        (hlast [])
    rw [List.append_nil] at hunitTrim
    rwa [hunitTrim]

/-- Where the reader finds digits and a unit, the text is of the grammar. -/
theorem Found.written (h : Found s ds u) : Written s ds u := by
  obtain ⟨lead, trail, hlead, htrail, hs⟩ := Text.exists_trimmed s.toList
  obtain ⟨gap, back, hgap, hback, hrest⟩ :=
    Text.exists_trimmed ((Text.trimmed s.toList).dropWhile Char.isDigit)
  refine ⟨h.nonempty, fun c hc => List.mem_takeWhile_imp (h.digits ▸ hc), lead, gap,
    Text.trimmed ((Text.trimmed s.toList).dropWhile Char.isDigit), back ++ trail, ?_, ?_,
    (lowerCase_eq_iff _).1 h.unit⟩
  · have hcut : ds ++ (Text.trimmed s.toList).dropWhile Char.isDigit = Text.trimmed s.toList := by
      rw [← h.digits, List.takeWhile_append_dropWhile]
    calc s.toList
        = lead ++ (ds ++ (Text.trimmed s.toList).dropWhile Char.isDigit) ++ trail := by
          rw [hcut, ← hs]
      _ = _ := by
          rw [congrArg (ds ++ ·) hrest]
          simp only [List.append_assoc]
  · simp only [List.mem_append, or_imp, forall_and]
    exact ⟨⟨hlead, hgap⟩, hback, htrail⟩

/-- The span of so many of a unit, as the reader builds it. -/
def Scale.span (u : Scale) (n : Nat) : Duration :=
  match u with
  | milliseconds => ⟨n⟩
  | _ => ofSeconds (n * u.factor)

theorem seconds_and_nanos_iff {k : Nat} : d.seconds = k ∧ d.nanos = 0 ↔ d = ofSeconds k := by
  rw [ofSeconds, Duration.mk.injEq]
  unfold seconds nanos
  omega

theorem means_iff : u.Means n d ↔ d = u.span n := by
  cases u with
  | milliseconds => exact (Duration.mk.injEq d.millis n).symm ▸ Iff.rfl
  | seconds | minutes | hours => exact seconds_and_nanos_iff

/-- What the reader does behind the two checks of the unit, all units together. -/
theorem ofUnit_eq (u : Scale) (n : Nat) (text : String) (hn : n ≤ limit) :
    ((if String.ofList u.symbol = "ms" then .ok ⟨n⟩
      else match secondsPerUnit? (String.ofList u.symbol) with
        | none => .error (.unknownUnit (String.ofList u.symbol))
        | some k => if limit < n * k then .error (.tooLarge text) else .ok (ofSeconds (n * k))) :
      Except Fault Duration) =
    if limit < n * u.factor then .error (.tooLarge text) else .ok (u.span n) := by
  cases u with
  | milliseconds =>
    rw [if_pos (show String.ofList Scale.milliseconds.symbol = "ms" from rfl),
      if_neg (by rw [Scale.factor]; omega)]
    rfl
  | seconds | minutes | hours => rfl

/-- A text of the grammar is refused for a number or a product that is too great, and for nothing
else. -/
theorem Found.parse_eq (h : Found s ds u) : parse s =
    if limit < number ds then .error (.numberTooLarge (String.ofList ds))
    else if limit < number ds * u.factor then .error (.tooLarge (Text.trim s))
    else .ok (u.span (number ds)) := by
  have hrest : (Text.trimmed s.toList).dropWhile Char.isDigit ≠ [] := by
    intro hnil
    have hunit := (lowerCase_eq_iff _).1 h.unit
    rw [hnil] at hunit
    cases u <;> cases hunit
  have hcs : Text.trimmed s.toList ≠ [] := fun hnil => hrest (by rw [hnil]; rfl)
  simp only [parse, List.isEmpty_iff, hcs, hrest, h.digits, h.nonempty, h.unit, if_false,
    digitsValue_eq]
  split
  · rfl
  · exact ofUnit_eq u _ _ (by omega)

theorem exists_scale_of_secondsPerUnit? {unit : String} {k : Nat} (h : secondsPerUnit? unit = some k) :
    ∃ u : Scale, unit = String.ofList u.symbol := by
  unfold secondsPerUnit? at h
  split at h
  · exact ⟨.seconds, ‹_›⟩
  split at h
  · exact ⟨.minutes, ‹_›⟩
  split at h
  · exact ⟨.hours, ‹_›⟩
  · cases h

/-- What is read has digits and one of the four units. -/
theorem found_of_parse (h : parse s = .ok d) : ∃ ds u, Found s ds u := by
  have hsymbol : ∃ u : Scale, Text.lowerCase (String.ofList (Text.trimmed
      ((Text.trimmed s.toList).dropWhile Char.isDigit))) = String.ofList u.symbol := by
    simp only [parse] at h
    split at h
    · cases h
    split at h
    · cases h
    split at h
    · cases h
    split at h
    · cases h
    split at h
    · exact ⟨.milliseconds, ‹_›⟩
    · generalize Text.lowerCase _ = unit at h ⊢
      cases hunit : secondsPerUnit? unit with
      | none => rw [hunit] at h; cases h
      | some k => exact exists_scale_of_secondsPerUnit? hunit
  obtain ⟨u, hu⟩ := hsymbol
  refine ⟨_, u, rfl, ?_, hu⟩
  intro hnil
  simp only [parse, hnil] at h
  split at h
  · cases h
  split at h
  · cases h
  · cases h

/-! ## Where a text is split -/

theorem utf8Size_of_isDigit (h : c.isDigit = true) : c.utf8Size = 1 := by
  rw [Char.utf8Size_eq_one_iff, UInt32.le_iff_toNat_le]
  have hrange := toNat_of_isDigit h
  have hbound : (127 : UInt32).toNat = 127 := rfl
  have hc : c.val.toNat = c.toNat := rfl
  omega

theorem utf8ByteSize_digits (cs : List Char) :
    (String.ofList (cs.takeWhile Char.isDigit)).utf8ByteSize = (cs.takeWhile Char.isDigit).length :=
  utf8ByteSize_ofList_of_ascii fun _ hc => utf8Size_of_isDigit (List.mem_takeWhile_imp hc)

theorem length_digits {idx : Nat} (h : cs.findIdx? (fun c => !c.isDigit) = some idx) :
    (cs.takeWhile Char.isDigit).length = idx := by
  obtain ⟨hlt, hidx⟩ := List.findIdx?_eq_some_iff_findIdx_eq.1 h
  rw [List.takeWhile_eq_take_findIdx_not, List.length_take, hidx]
  omega

/-- The number of characters in front of the first that is no digit is also a number of bytes, and
the text can be split there. -/
theorem isValid_of_findIdx? {idx : Nat} (h : s.toList.findIdx? (fun c => !c.isDigit) = some idx) :
    (String.Pos.Raw.mk idx).IsValid s := by
  rw [String.Pos.Raw.isValid_iff_exists_append]
  refine ⟨String.ofList (s.toList.takeWhile Char.isDigit),
    String.ofList (s.toList.dropWhile Char.isDigit), ?_, ?_⟩
  · rw [← String.ofList_append, List.takeWhile_append_dropWhile, String.ofList_toList]
  · rw [String.rawEndPos, utf8ByteSize_digits, length_digits h]

/-! ## The whole of it -/

theorem parse_eq_ok_iff : parse s = .ok d ↔
    ∃ ds u, Written s ds u ∧ number ds ≤ limit ∧ number ds * u.factor ≤ limit ∧
      u.Means (number ds) d := by
  constructor
  · intro h
    obtain ⟨ds, u, hfound⟩ := found_of_parse h
    rw [hfound.parse_eq] at h
    split at h
    · cases h
    split at h
    · cases h
    · exact ⟨ds, u, hfound.written, by omega, by omega, means_iff.2 (Except.ok.inj h).symm⟩
  · rintro ⟨ds, u, hwritten, hn, hproduct, hmeans⟩
    rw [hwritten.found.parse_eq, if_neg (by omega), if_neg (by omega), means_iff.1 hmeans]

/-- Durations are the texts of the grammar whose number, and whose number of seconds, fit 64 bits,
and they mean just what they say. Every other text is refused; a number of seconds that is too
great is refused as one. The place where the digits end is a place at which the bytes of the text
can be split, and the bytes in front of it are the digits. -/
theorem parse_exact (s : String) :
    (∀ d, parse s = .ok d ↔ ∃ ds u, Written s ds u ∧ number ds ≤ 2 ^ 64 - 1 ∧
      number ds * u.factor ≤ 2 ^ 64 - 1 ∧ u.Means (number ds) d) ∧
    ((¬ ∃ ds u, Written s ds u ∧ number ds ≤ 2 ^ 64 - 1 ∧ number ds * u.factor ≤ 2 ^ 64 - 1) →
      ∃ fault, parse s = .error fault) ∧
    (∀ ds u, Written s ds u → number ds ≤ 2 ^ 64 - 1 → 2 ^ 64 - 1 < number ds * u.factor →
      parse s = .error (.tooLarge (Text.trim s))) ∧
    ∀ idx, (Text.trim s).toList.findIdx? (fun c => !c.isDigit) = some idx →
      (String.Pos.Raw.mk idx).IsValid (Text.trim s) ∧
        (String.ofList ((Text.trim s).toList.takeWhile Char.isDigit)).utf8ByteSize = idx := by
  refine ⟨fun d => parse_eq_ok_iff, fun hout => ?_, fun ds u h hn hproduct => ?_, fun idx h =>
    ⟨isValid_of_findIdx? h, (utf8ByteSize_digits _).trans (length_digits h)⟩⟩
  · cases hparse : parse s with
    | error fault => exact ⟨fault, rfl⟩
    | ok d =>
      obtain ⟨ds, u, hwritten, hn, hproduct, -⟩ := parse_eq_ok_iff.1 hparse
      exact absurd ⟨ds, u, hwritten, hn, hproduct⟩ hout
  · have hlimit : limit = 2 ^ 64 - 1 := rfl
    rw [h.found.parse_eq, hlimit, if_neg (by omega), if_pos hproduct]

/-- Zeros in front count for nothing, blanks may stand on every side, and the unit may be in
capitals. -/
example : parse "\u3000 007 M\n" = .ok (ofSeconds 420) := by rfl

end Duration

end BuildService
