import BuildService.Proofs.Decoding
import BuildService.Proofs.DurationTexts
import BuildService.Proofs.FilterOrder
import BuildService.Proofs.Reading
/-!
A level on the command line and a filter in the environment.

The level is meant to replace the base level of the filter and nothing else. The text
of the environment is treated in two ways for this. Without a level it is read as a
whole. With one it is cut into its parts, and the parts with an equals sign are read
behind the level. So what becomes of the base level is settled by the order in which
directives are put into a filter (`LogFilter.targets_ofDirectives`), and what becomes of
the others by the parts that have no equals sign. Those that are levels are meant to go.
A target may stand alone as well, though, and then its directive goes with them.

Blanks around a part are dropped in the second way only. This makes no difference where
there is an equals sign: the reader cuts the level out of the text with its blanks, so a
part that has any is refused (`Directive.trimmed_of_parse`).
-/

set_option autoImplicit false

namespace BuildService

/-! ## Parts of a text -/

namespace LogFilter

/-- The parts of a filter text, without the empty ones. -/
def parts (s : String) : List (List Char) := (s.toList.splitOn ',').filter (!·.isEmpty)

/-- The parts with an equals sign. -/
def markedParts (s : String) : List (List Char) := (parts s).filter (·.contains '=')

variable {s : String}

theorem parse_eq (s : String) :
    parse s = (((parts s).map String.ofList).mapM Directive.parse).map ofDirectives := by
  unfold parse parts
  dsimp only
  cases (((s.toList.splitOn ',').filter (!·.isEmpty)).map String.ofList).mapM Directive.parse with
  | error fault => rfl
  | ok ds => rfl

theorem not_mem_of_mem_parts {p : List Char} (h : p ∈ parts s) : ',' ∉ p ∧ p ≠ [] := by
  obtain ⟨hp, hne⟩ := List.mem_filter.1 h
  exact ⟨not_mem_of_mem_splitOn hp, by simpa using hne⟩

/-- Texts without commas are the parts of the text that they make together. -/
theorem parts_intercalate {ps : List (List Char)} (h : ∀ p ∈ ps, ',' ∉ p ∧ p ≠ []) :
    parts (",".intercalate (ps.map String.ofList)) = ps := by
  have hlist : (",".intercalate (ps.map String.ofList)).toList = [','].intercalate ps := by
    rw [String.toList_intercalate, List.map_map]
    simp [Function.comp_def]
  have hall : ps.filter (!·.isEmpty) = ps := by
    rw [List.filter_eq_self]
    intro p hp
    simpa using (h p hp).2
  rw [parts, hlist]
  by_cases hps : ps = []
  · rw [hps]
    rfl
  · rw [List.splitOn_intercalate ',' (fun p hp => (h p hp).1) hps, hall]

/-- Some of the parts can be read if all can. What they come to differs only in directives of the
parts that are left out. -/
theorem exists_of_filter {ps : List (List Char)} {ds : List Directive} (keep : List Char → Bool)
    (h : (ps.map String.ofList).mapM Directive.parse = .ok ds) :
    ∃ ks, ((ps.filter keep).map String.ofList).mapM Directive.parse = .ok ks ∧
      (∀ d ∈ ks, ∃ p ∈ ps, keep p = true ∧ Directive.parse (String.ofList p) = .ok d) ∧
      ∀ q : Directive → Bool, (∀ p ∈ ps, keep p = false →
        ∀ d, Directive.parse (String.ofList p) = .ok d → q d = false) →
        ks.filter q = ds.filter q := by
  induction ps generalizing ds with
  | nil =>
    cases h
    exact ⟨[], rfl, by simp, fun _ _ => rfl⟩
  | cons p ps ih =>
    rw [List.map_cons, List.mapM_cons] at h
    obtain ⟨d, hd, h⟩ := exists_of_bind_eq_ok h
    obtain ⟨ds', hds, h⟩ := exists_of_bind_eq_ok h
    cases h
    obtain ⟨ks, hks, hfrom, hsame⟩ := ih hds
    have hrest : ∀ q : Directive → Bool, (∀ p' ∈ p :: ps, keep p' = false →
        ∀ d, Directive.parse (String.ofList p') = .ok d → q d = false) →
        ks.filter q = ds'.filter q := fun q hq =>
      hsame q fun p' hp' => hq p' (List.mem_cons_of_mem _ hp')
    by_cases hkeep : keep p = true
    · refine ⟨d :: ks, ?_, ?_, ?_⟩
      · rw [List.filter_cons_of_pos hkeep, List.map_cons, List.mapM_cons, hd, hks]
        rfl
      · intro e he
        rcases List.mem_cons.1 he with rfl | he
        · exact ⟨p, List.mem_cons_self, hkeep, hd⟩
        · obtain ⟨p', hp', hfrom⟩ := hfrom e he
          exact ⟨p', List.mem_cons_of_mem _ hp', hfrom⟩
      · intro q hq
        rw [List.filter_cons, List.filter_cons, hrest q hq]
    · refine ⟨ks, ?_, ?_, ?_⟩
      · rw [List.filter_cons_of_neg hkeep, hks]
      · intro e he
        obtain ⟨p', hp', hfrom⟩ := hfrom e he
        exact ⟨p', List.mem_cons_of_mem _ hp', hfrom⟩
      · intro q hq
        have hout : q d = false := hq p List.mem_cons_self (by simpa using hkeep) d hd
        rw [List.filter_cons_of_neg (by simp [hout]), hrest q hq]

end LogFilter

/-! ## Texts of levels -/

namespace LogLevel

theorem digits_of_number? {s : String} {n : Nat} (h : number? s = some n) :
    ∃ ds, (∀ c ∈ ds, c.isDigit = true) ∧ (s.toList = ds ∨ s.toList = '+' :: ds) := by
  have hall : ∀ {ds : List Char}, ¬(ds.isEmpty || !ds.all Char.isDigit) = true →
      ∀ c ∈ ds, c.isDigit = true := by
    intro ds hok
    simp only [Bool.or_eq_true, not_or, Bool.not_eq_true, Bool.not_eq_false'] at hok
    exact List.all_eq_true.1 hok.2
  unfold number? at h
  dsimp only at h
  split at h
  · rename_i ds hplus
    refine ⟨ds, hall fun hbad => ?_, .inr hplus⟩
    rw [if_pos hbad] at h
    cases h
  · refine ⟨s.toList, hall fun hbad => ?_, .inl rfl⟩
    rw [if_pos hbad] at h
    cases h

/-- The text of a level has no equals sign and no blank. -/
theorem clean_of_ofText? {s : String} {l : LogLevel} (h : ofText? s = some l) :
    ∀ c ∈ s.toList, c ≠ '=' ∧ Text.isBlank c = false := by
  unfold ofText? at h
  split at h
  · rename_i hnumber
    obtain ⟨n, hn, -⟩ := Option.bind_eq_some_iff.1 hnumber
    obtain ⟨ds, hds, hs⟩ := digits_of_number? hn
    have hdigits : ∀ c ∈ ds, c ≠ '=' ∧ Text.isBlank c = false := by
      intro c hc
      refine ⟨?_, Duration.isBlank_of_isDigit (hds c hc)⟩
      rintro rfl
      exact absurd (hds _ hc) (by decide)
    rcases hs with hs | hs
    · rwa [hs]
    · rw [hs, List.forall_mem_cons]
      exact ⟨by decide, hdigits⟩
  · -- A name: what is a letter of it in lower case is a letter.
    have hname := List.find?_some h
    rw [beq_iff_eq, ← String.toList_inj, String.toList_ofList] at hname
    have hletters : ∀ l : LogLevel, ∀ c ∈ l.name.toList, c ≠ '=' ∧ Text.isBlank c = false := by
      intro l
      have hall : l.name.toList.all (fun c => c != '=' && !Text.isBlank c) = true := by
        cases l <;> decide
      simpa using hall
    intro c hc
    have hlow := hletters l c.toLower (hname ▸ List.mem_map_of_mem hc)
    by_cases hcapital : c.toNat < 65 ∨ 90 < c.toNat
    · rwa [Text.toLower_eq_self hcapital] at hlow
    · constructor
      · rintro rfl
        exact hcapital (.inl (by decide))
      · simp only [Text.isBlank, Bool.or_eq_false_iff, Bool.and_eq_false_iff,
          decide_eq_false_iff_not, beq_eq_false_iff_ne]
        omega

end LogLevel

/-! ## Parts with an equals sign -/

namespace Directive

open Utf8

variable {bytes : List UInt8} {r r' : Reader} {offset : Nat} {c : Char} {cs seen : List Char}
  {d : Directive}

/-- Behind an equals sign the reader has a target, a span or a field, or is inside the brackets. -/
def Reader.Marked (r : Reader) (seen : List Char) : Prop :=
  match r.stage with
  | .start | .levelOrTarget => '=' ∉ seen
  | .span _ | .field _ => True
  | .target | .fields | .level _ => r.directive.isBase = false

theorem isBase_eq_false (h : d.target.isSome = true ∨ d.isDynamic = true) : d.isBase = false := by
  by_contra hb
  have hb : d.isBase = true := by simpa using hb
  rcases h with h | h
  · exact not_isTarget_of_isBase hb (by rw [isTarget, h, isDynamic_of_isBase hb]; rfl)
  · rw [isDynamic_of_isBase hb] at h
    cases h

/-- Each character keeps what is known. An equals sign is taken as a mark only behind a target or
a closing bracket, and brackets that have been closed had a span or a field between them. -/
theorem Reader.Marked.step (h : r.Marked seen) (hs : r.step bytes offset c = .ok r') :
    r'.Marked (seen ++ [c]) := by
  obtain ⟨stage, d⟩ := r
  have hkept : c ≠ '=' → '=' ∉ seen → '=' ∉ seen ++ [c] := by
    intro hc hseen
    rw [List.mem_append, List.mem_singleton, not_or]
    exact ⟨hseen, Ne.symm hc⟩
  cases stage with
  | start =>
    simp only [Reader.step] at hs
    split at hs
    · cases hs
      trivial
    split at hs
    · rename_i hword
      cases hs
      refine hkept ?_ h
      rintro rfl
      exact absurd hword (by decide +kernel)
    · cases hs
  | levelOrTarget =>
    simp only [Reader.step] at hs
    split at hs
    · obtain ⟨t, -, hs⟩ := exists_of_bind_eq_ok hs
      cases hs
      exact isBase_eq_false (.inl rfl)
    · rename_i hc
      split at hs
      · obtain ⟨t, -, hs⟩ := exists_of_bind_eq_ok hs
        cases hs
        trivial
      · cases hs
        exact hkept hc h
  | target =>
    simp only [Reader.step] at hs
    split at hs
    · cases hs
      exact h
    · cases hs
  | span start =>
    simp only [Reader.step] at hs
    split at hs
    · obtain ⟨t, -, hs⟩ := exists_of_bind_eq_ok hs
      cases hs
      exact isBase_eq_false (.inr rfl)
    · split at hs
      · obtain ⟨t, -, hs⟩ := exists_of_bind_eq_ok hs
        cases hs
        trivial
      · cases hs
        trivial
  | field start =>
    simp only [Reader.step] at hs
    split at hs
    · obtain ⟨t, -, hs⟩ := exists_of_bind_eq_ok hs
      obtain ⟨f, -, hs⟩ := exists_of_bind_eq_ok hs
      cases hs
      exact isBase_eq_false (.inr (by simp [isDynamic]))
    · cases hs
      trivial
  | fields =>
    simp only [Reader.step] at hs
    split at hs
    · cases hs
      exact h
    · cases hs
  | level start =>
    cases hs
    exact h

theorem Reader.Marked.run (h : r.Marked seen) (hs : r.run bytes offset cs = .ok r') :
    r'.Marked (seen ++ cs) := by
  induction cs generalizing r offset seen with
  | nil =>
    cases hs
    rwa [List.append_nil]
  | cons c cs ih =>
    obtain ⟨r₁, h₁, hs⟩ := exists_of_bind_eq_ok hs
    have hrest := ih (h.step h₁) hs
    rwa [List.append_assoc] at hrest

/-- **What is read of a part with an equals sign is no bare level.** -/
theorem isBase_eq_false_of_parse {s : String} (h : parse s = .ok d)
    (hmark : '=' ∈ Text.trimmed s.toList) : d.isBase = false := by
  obtain ⟨r, hr, hfinish⟩ := exists_of_bind_eq_ok h
  have hstart : Reader.Marked ⟨.start, ⟨none, none, [], .trace⟩⟩ [] := List.not_mem_nil
  have hmarked : r.Marked (Text.trimmed s.toList) := hstart.run hr
  obtain ⟨stage, e⟩ := r
  unfold Reader.finish at hfinish
  cases stage with
  | levelOrTarget => exact absurd hmark hmarked
  | level start =>
    obtain ⟨t, -, hfinish⟩ := exists_of_bind_eq_ok hfinish
    dsimp only at hfinish
    split at hfinish
    · cases hfinish
      exact hmarked
    · split at hfinish
      · cases hfinish
        exact hmarked
      · cases hfinish
  | target =>
    cases hfinish
    exact hmarked
  | _ => cases hfinish

/-! Where the level of a part is cut out. -/

theorem Reader.run_append (bytes : List UInt8) (r : Reader) (offset : Nat) (cs cs' : List Char) :
    r.run bytes offset (cs ++ cs') =
      r.run bytes offset cs >>= fun r => r.run bytes (offset + (encodeChars cs).length) cs' := by
  induction cs generalizing r offset with
  | nil => rfl
  | cons c cs ih =>
    simp only [List.cons_append, Reader.run]
    cases r.step bytes offset c with
    | error fault => rfl
    | ok r =>
      have hrest := ih r (offset + c.utf8Size)
      rw [Nat.add_assoc, ← length_encodeChars_cons] at hrest
      exact hrest

theorem Reader.run_word (hcs : ∀ c ∈ cs, c ≠ '=' ∧ c ≠ '[') :
    Reader.run bytes ⟨.levelOrTarget, d⟩ offset cs = .ok ⟨.levelOrTarget, d⟩ := by
  induction cs generalizing offset with
  | nil => rfl
  | cons c cs ih =>
    obtain ⟨⟨hmark, hopen⟩, hcs⟩ := List.forall_mem_cons.1 hcs
    have hstep : Reader.step bytes ⟨.levelOrTarget, d⟩ offset c = .ok ⟨.levelOrTarget, d⟩ := by
      simp only [Reader.step, if_neg hmark, if_neg hopen]
    rw [Reader.run, hstep]
    exact ih hcs

theorem Reader.run_level (bytes : List UInt8) (start offset : Nat) (d : Directive)
    (cs : List Char) : Reader.run bytes ⟨.level start, d⟩ offset cs = .ok ⟨.level start, d⟩ := by
  induction cs generalizing offset with
  | nil => rfl
  | cons c cs ih => exact ih (offset + c.utf8Size)

theorem drop_of_piece {start : Nat} {t : String} (h : piece bytes start bytes.length = .ok t) :
    bytes.drop start = encode t := by
  rw [← decode?_eq_some_iff]
  unfold piece at h
  rw [List.take_length] at h
  split at h
  · cases h
    assumption
  · cases h

/-- A part without brackets is cut behind its first equals sign. The place is counted from the first
character that is no blank, and what is cut there is empty or the text of a level. -/
theorem level_of_parse {s : String} {front back : List Char} (h : parse s = .ok d)
    (hs : Text.trimmed s.toList = front ++ '=' :: back)
    (hfront : ∀ c ∈ front, c ≠ '=' ∧ c ≠ '[') :
    ∃ t, (encode s).drop ((encodeChars front).length + 1) = encode t ∧
      ∀ c ∈ t.toList, c ≠ '=' ∧ Text.isBlank c = false := by
  obtain ⟨r, hr, hfinish⟩ := exists_of_bind_eq_ok h
  rw [hs, Reader.run_append] at hr
  obtain ⟨r₁, h₁, h₂⟩ := exists_of_bind_eq_ok hr
  cases front with
  | nil =>
    -- Nothing begins with an equals sign.
    cases h₁
    obtain ⟨r₂, hstep, -⟩ := exists_of_bind_eq_ok h₂
    revert hstep
    simp only [Reader.step]
    rw [if_neg (by decide), if_neg (by decide +kernel)]
    rintro ⟨⟩
  | cons c front =>
    obtain ⟨⟨-, hopen⟩, hfront⟩ := List.forall_mem_cons.1 hfront
    obtain ⟨r₂, hstep, h₁⟩ := exists_of_bind_eq_ok h₁
    simp only [Reader.step, if_neg hopen] at hstep
    split at hstep
    · cases hstep
      rw [Reader.run_word hfront] at h₁
      cases h₁
      obtain ⟨r₃, hstep, h₂⟩ := exists_of_bind_eq_ok h₂
      simp only [Reader.step, if_true] at hstep
      obtain ⟨target, -, hstep⟩ := exists_of_bind_eq_ok hstep
      cases hstep
      rw [Reader.run_level, Nat.zero_add] at h₂
      cases h₂
      obtain ⟨t, ht, hlevel⟩ := exists_of_bind_eq_ok hfinish
      refine ⟨t, drop_of_piece ht, ?_⟩
      dsimp only at hlevel
      split at hlevel
      · rename_i hempty
        rw [String.isEmpty_iff.1 hempty]
        simp
      · split at hlevel
        · exact LogLevel.clean_of_ofText? ‹_›
        · cases hlevel
    · cases hstep

/-- Something in front shifts the cut, so that it falls in front of the equals sign. -/
theorem mark_mem_of_shifted {lead front rest : List Char} {t : String} (hlead : lead ≠ [])
    (ht : (encodeChars (lead ++ front ++ '=' :: rest)).drop ((encodeChars front).length + 1) =
      encode t) : '=' ∈ t.toList := by
  have hshort : (encodeChars front).length + 1 ≤ (encodeChars (lead ++ front)).length := by
    obtain ⟨c, others, hc⟩ := List.exists_cons_of_ne_nil hlead
    have hpos := Char.utf8Size_pos c
    rw [encodeChars_append, List.length_append, hc, length_encodeChars_cons]
    omega
  have hmark : encodeChars ('=' :: rest) = 0x3D :: encodeChars rest := rfl
  rw [encodeChars_append, List.drop_append_of_le_length hshort, hmark] at ht
  rw [← lossyChars_encodeChars t.toList, ← encode, ← ht, lossyChars_append_ascii _ _ (by decide)]
  exact List.mem_append_right _ List.mem_cons_self

/-- With nothing in front the cut falls right behind the equals sign. -/
theorem toList_of_unshifted {front rest : List Char} {t : String}
    (ht : (encodeChars (front ++ '=' :: rest)).drop ((encodeChars front).length + 1) = encode t) :
    t.toList = rest := by
  have hmark : encodeChars ('=' :: rest) = 0x3D :: encodeChars rest := rfl
  rw [encodeChars_append, ← List.drop_drop, List.drop_left, hmark, List.drop_one,
    List.tail_cons] at ht
  rw [← lossyChars_encodeChars t.toList, ← encode, ← ht, lossyChars_encodeChars]

/-- **A part with an equals sign and without brackets is refused if there are blanks around it.** In
front of it they shift the cut, so that the equals sign is taken for the beginning of the level, and
behind it they are taken for its end. -/
theorem trimmed_of_parse {s : String} (h : parse s = .ok d) (hmark : '=' ∈ s.toList)
    (hopen : '[' ∉ s.toList) : Text.trimmed s.toList = s.toList := by
  obtain ⟨lead, trail, hlead, htrail, hs⟩ := Text.exists_trimmed s.toList
  have hin : '=' ∈ Text.trimmed s.toList := (Text.mem_trimmed_iff (by decide)).2 hmark
  obtain ⟨front, back, hcut, hfront⟩ := List.eq_append_cons_of_mem hin
  have hfront : ∀ c ∈ front, c ≠ '=' ∧ c ≠ '[' := by
    intro c hc
    constructor
    · rintro rfl
      exact hfront hc
    · rintro rfl
      refine hopen ?_
      rw [hs, hcut]
      simp [hc]
  obtain ⟨t, ht, hclean⟩ := level_of_parse h hcut hfront
  have hparts : s.toList = lead ++ front ++ '=' :: (back ++ trail) := by
    rw [hs, hcut]
    simp only [List.append_assoc, List.cons_append]
  rw [encode, hparts] at ht
  have hlead : lead = [] := by
    by_contra hne
    exact (hclean '=' (mark_mem_of_shifted hne ht)).1 rfl
  rw [hlead, List.nil_append] at ht
  have htrail : trail = [] := by
    rw [List.eq_nil_iff_forall_not_mem]
    intro c hc
    have hblank := (hclean c (by
      rw [toList_of_unshifted ht]
      exact List.mem_append_right _ hc)).2
    rw [htrail c hc] at hblank
    cases hblank
  rw [hlead, htrail, List.nil_append, List.append_nil] at hs
  exact hs.symm

end Directive

namespace LogFilter

open Directive

variable {E : String} {l : LogLevel} {f : LogFilter}

/-! ## The level and the parts together -/

theorem parse_name (l : LogLevel) : Directive.parse l.name = .ok ⟨none, none, [], l⟩ := by
  cases l <;> decide +kernel

/-- The parts that are kept are the parts with an equals sign, as long as there are no blanks around
them. -/
theorem targetParts_eq {s : String} (h : ∀ p ∈ markedParts s, Text.trimmed p = p) :
    targetParts s = (markedParts s).map String.ofList := by
  have hmark : ∀ cs : List Char, (Text.trimmed cs).contains '=' = cs.contains '=' := by
    intro cs
    rw [Bool.eq_iff_iff, List.contains_iff_mem, List.contains_iff_mem,
      Text.mem_trimmed_iff (by decide)]
  have hfilter : (s.toList.splitOn ',').filter (·.contains '=') = markedParts s := by
    rw [markedParts, parts, List.filter_filter]
    apply List.filter_congr
    intro cs _
    cases cs <;> simp
  have hcomp : ((·.contains '=') ∘ Text.trimmed : List Char → Bool) = (·.contains '=') :=
    funext hmark
  rw [targetParts, List.filter_map, hcomp, hfilter, List.map_congr_left h, List.map_id']

/-- A text of blanks alone counts as none. -/
theorem environment_eq (E : String) : ((some E).map Text.trim).filter (!·.isEmpty) =
    if Text.trim E = "" then none else some (Text.trim E) := by
  by_cases hE : Text.trim E = ""
  · simp [hE]
  · simp [hE]

/-- Where there is no text, there are no parts either. -/
theorem request_some (l : LogLevel) (E : String) : request (some l) (some E) =
    ",".intercalate (l.name :: targetParts (Text.trim E)) := by
  unfold request
  rw [environment_eq]
  by_cases hE : Text.trim E = ""
  · have hnone : targetParts "" = [] := by rfl
    rw [if_pos hE, hE, hnone]
    exact String.intercalate_singleton.symm
  · rw [if_neg hE]

/-- Without a level the whole text is read. A text of blanks alone stands for a level. -/
theorem exists_of_build_none (h : build none (some E) = .ok f) :
    ∃ ds, ((parts (Text.trim E)).map String.ofList).mapM Directive.parse = .ok ds ∧
      f.targets = (ofDirectives ds).targets := by
  unfold build request at h
  rw [environment_eq] at h
  by_cases hE : Text.trim E = ""
  · have hparts : parts LogLevel.info.name = [LogLevel.info.name.toList] := by decide
    rw [if_pos hE, parse_eq, hparts, List.map_singleton, String.ofList_toList, List.mapM_cons,
      parse_name] at h
    cases h
    exact ⟨[], by rw [hE]; rfl, rfl⟩
  · rw [if_neg hE, parse_eq] at h
    cases hds : ((parts (Text.trim E)).map String.ofList).mapM Directive.parse with
    | error fault =>
      rw [hds] at h
      cases h
    | ok ds =>
      rw [hds] at h
      cases h
      exact ⟨ds, rfl, rfl⟩

/-- Parts that were read have no blanks around them, if there is an equals sign in them. Only
brackets can hide the blanks from the reader. -/
theorem trimmed_of_mem_markedParts {s : String} {ds : List Directive}
    (hds : ((parts s).map String.ofList).mapM Directive.parse = .ok ds)
    (hbrackets : ∀ p ∈ parts s, '[' ∈ p → Text.trimmed p = p) :
    ∀ p ∈ markedParts s, Text.trimmed p = p := by
  intro p hp
  obtain ⟨hp, hmark⟩ := List.mem_filter.1 hp
  by_cases hopen : '[' ∈ p
  · exact hbrackets p hp hopen
  · obtain ⟨d, hd⟩ := exists_of_mem_of_mapM_eq_ok hds (List.mem_map_of_mem hp)
    have htrimmed := trimmed_of_parse hd
    rw [String.toList_ofList] at htrimmed
    exact htrimmed (by simpa using hmark) hopen

/-- A level in front of parts is read as one more directive. -/
theorem parse_level_parts {ps : List (List Char)} {ks : List Directive}
    (hps : ∀ p ∈ ps, ',' ∉ p ∧ p ≠ [])
    (hks : (ps.map String.ofList).mapM Directive.parse = .ok ks) (l : LogLevel) :
    parse (",".intercalate (l.name :: ps.map String.ofList)) =
      .ok (ofDirectives (⟨none, none, [], l⟩ :: ks)) := by
  have hname : ',' ∉ l.name.toList ∧ l.name.toList ≠ [] := by
    cases l <;> decide
  have htexts : l.name :: ps.map String.ofList = (l.name.toList :: ps).map String.ofList := by
    rw [List.map_cons, String.ofList_toList]
  rw [htexts, parse_eq, parts_intercalate (List.forall_mem_cons.2 ⟨hname, hps⟩), ← htexts,
    List.mapM_cons, parse_name, hks]
  rfl

/-- **A level replaces the base level and keeps the parts with an equals sign.** Where a filter can
be read, it can be read with a level as well. Then the level is its one base level, and its
directives about targets are those of the parts with an equals sign. So they are the ones of the
filter without the level, if no other part is about a target. Brackets may stand in a part, but then
no blanks around it. -/
theorem build_with_level (h : build none (some E) = .ok f)
    (hbrackets : ∀ p ∈ parts (Text.trim E), '[' ∈ p → Text.trimmed p = p) (l : LogLevel) :
    ∃ g k, build (some l) (some E) = .ok g ∧ g.base = [⟨none, none, [], l⟩] ∧
      parse (",".intercalate ((markedParts (Text.trim E)).map String.ofList)) = .ok k ∧
      g.targets = k.targets ∧
      ((∀ p ∈ parts (Text.trim E), '=' ∉ p →
        ∀ d, Directive.parse (String.ofList p) = .ok d → d.isTarget = false) →
        g.targets = f.targets) := by
  obtain ⟨ds, hds, hf⟩ := exists_of_build_none h
  obtain ⟨ks, hks, hfrom, hsame⟩ := exists_of_filter (·.contains '=') hds
  have hclean : ∀ p ∈ markedParts (Text.trim E), ',' ∉ p ∧ p ≠ [] := fun p hp =>
    not_mem_of_mem_parts (List.mem_filter.1 hp).1
  have htrimmed := trimmed_of_mem_markedParts hds hbrackets
  -- The parts that are kept are about a target, a span or fields. So the level is alone.
  have hnobase : ks.filter isBase = [] := by
    rw [List.filter_eq_nil_iff]
    intro d hd
    obtain ⟨p, hp, hmark, hparse⟩ := hfrom d hd
    have hself := htrimmed p (List.mem_filter.2 ⟨hp, hmark⟩)
    have hbase := isBase_eq_false_of_parse hparse (by
      rw [String.toList_ofList, hself]
      simpa using hmark)
    simp [hbase]
  have hlevel : ¬isTarget ⟨none, none, [], l⟩ = true := not_isTarget_of_isBase rfl
  refine ⟨ofDirectives (⟨none, none, [], l⟩ :: ks), ofDirectives ks, ?_, ?_, ?_, ?_, ?_⟩
  · rw [build, request_some, targetParts_eq htrimmed]
    exact parse_level_parts hclean hks l
  · rw [base_ofDirectives, List.filter_cons_of_pos rfl, hnobase]
    rfl
  · have hmarked : ((markedParts (Text.trim E)).map String.ofList).mapM Directive.parse = .ok ks :=
      hks
    rw [parse_eq, parts_intercalate hclean, hmarked]
    rfl
  · rw [targets_ofDirectives, targets_ofDirectives, List.filter_cons_of_neg hlevel]
  · intro hother
    have hrest : ks.filter isTarget = ds.filter isTarget :=
      hsame isTarget fun p hp hmark => hother p hp (by simpa using hmark)
    rw [hf, targets_ofDirectives, targets_ofDirectives, List.filter_cons_of_neg hlevel, hrest]

/-- An example of the documentation, with a level in front: tool output stays hidden. -/
theorem build_debug_output_off :
    ∃ g k, build (some .debug) (some "info,buildrunner::output=off") = .ok g ∧
      g.base = [⟨none, none, [], .debug⟩] ∧
      parse (",".intercalate
        ((markedParts (Text.trim "info,buildrunner::output=off")).map String.ofList)) = .ok k ∧
      g.targets = k.targets ∧
      ((∀ p ∈ parts (Text.trim "info,buildrunner::output=off"), '=' ∉ p →
        ∀ d, Directive.parse (String.ofList p) = .ok d → d.isTarget = false) →
        g.targets = [⟨some "buildrunner::output", none, [], .off⟩]) := by
  have h : build none (some "info,buildrunner::output=off") =
      .ok ⟨[⟨some "buildrunner::output", none, [], .off⟩, ⟨none, none, [], .info⟩], []⟩ := by
    decide +kernel
  have hnone : ∀ p ∈ parts (Text.trim "info,buildrunner::output=off"),
      '[' ∈ p → Text.trimmed p = p := by decide +kernel
  exact build_with_level h hnone .debug

/-- **A target that stands alone is lost with the base level**, and events of the target with it. -/
theorem target_alone_is_dropped :
    (build none (some "a")).map (·.targets) = .ok [⟨some "a", none, [], .trace⟩] ∧
      (build (some .debug) (some "a")).map (·.targets) = .ok [] ∧
      build (some .debug) (some "a") = build (some .debug) none := by
  decide +kernel

end LogFilter

end BuildService
