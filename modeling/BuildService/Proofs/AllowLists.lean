import BuildService.Proofs.AsciiCuts
import BuildService.Proofs.Rejection
import Mathlib.Computability.RegularExpressions
/-!
The allow-lists of the fields, as languages.

What a field may consist of is said here without the code that looks at it: names
and tokens by regular expressions that the whole text has to match, addresses and
application names by their length and by the characters that must not occur. A
field has one rule or several, which are looked at in order (`Request.rules`), and
`validate` reports the first rule that is broken of the first field that breaks
one.

The recognisers work by character classes and lengths, and by cutting a package
name at its dots. A class that is repeated is a set of words of bounded length
(`mem_times_oneOf`), so a bound that is off by one would show there. The pieces of
a package name are told from its pattern by putting dots between them again
(`mem_packageName_iff`); a piece that is empty is no segment, which is what the dot
at an end or beside another one comes to.
-/

set_option autoImplicit false

namespace BuildService

/-! ## Patterns -/

namespace Pattern

open RegularExpression

/-- The characters from one to another. -/
def range (first last : Char) : List Char :=
  (List.range' first.toNat (last.toNat + 1 - first.toNat)).map Char.ofNat

/-- One character out of several. -/
def oneOf (cs : List Char) : RegularExpression Char := (cs.map char).foldr (· + ·) 0

/-- A pattern several times, at least and at most so often. -/
def times (least most : Nat) (p : RegularExpression Char) : RegularExpression Char :=
  p ^ least * (p + 1) ^ (most - least)

/-- Letters of either case. -/
def letters : List Char := range 'A' 'Z' ++ range 'a' 'z'

def alphanumerics : List Char := letters ++ range '0' '9'

/-- `[A-Za-z0-9][A-Za-z0-9_.-]{0,127}` -/
def projectId : RegularExpression Char :=
  oneOf alphanumerics * times 0 127 (oneOf (alphanumerics ++ ['_', '.', '-']))

/-- `[A-Za-z0-9_.-]{1,64}` -/
def appEnv : RegularExpression Char := times 1 64 (oneOf (alphanumerics ++ ['_', '.', '-']))

/-- `[A-Za-z0-9._~+/=:-]{1,512}` -/
def token : RegularExpression Char :=
  times 1 512 (oneOf (alphanumerics ++ ['.', '_', '~', '+', '/', '=', ':', '-']))

/-- `[A-Za-z][A-Za-z0-9_]*` -/
def segment : RegularExpression Char := oneOf letters * (oneOf (alphanumerics ++ ['_'])).star

/-- `[A-Za-z][A-Za-z0-9_]*(\.[A-Za-z][A-Za-z0-9_]*)+` -/
def packageName : RegularExpression Char :=
  segment * ((char '.' * segment) * (char '.' * segment).star)

/-- Whether a whole text matches a pattern. -/
def Matches (p : RegularExpression Char) (s : String) : Prop := s.toList ∈ p.matches'

/-! ## Classes and repetitions -/

variable {cs xs : List Char} {c : Char} {n least most : Nat}

theorem mem_range_iff {first last : Char} (hlast : last.toNat < 0xD800) :
    c ∈ range first last ↔ first.toNat ≤ c.toNat ∧ c.toNat ≤ last.toNat := by
  simp only [range, List.mem_map, List.mem_range'_1]
  constructor
  · rintro ⟨n, hn, rfl⟩
    rw [Utf8.toNat_ofNat_of_valid (.inl (by omega))]
    omega
  · exact fun h => ⟨c.toNat, by omega, Char.ofNat_toNat c⟩

theorem mem_oneOf_iff : cs ∈ (oneOf xs).matches' ↔ ∃ c ∈ xs, cs = [c] := by
  induction xs with
  | nil => exact ⟨fun h => absurd h (Language.notMem_zero cs), by simp⟩
  | cons x xs ih =>
    have hcons : oneOf (x :: xs) = char x + oneOf xs := rfl
    have hone : cs ∈ (char x).matches' ↔ cs = [x] := Iff.rfl
    rw [hcons, matches'_add, Language.mem_add, ih, hone, List.exists_mem_cons_iff]

/-- A class so many times: the texts of this length that stay in the class. -/
theorem mem_oneOf_pow_iff :
    cs ∈ (oneOf xs).matches' ^ n ↔ cs.length = n ∧ ∀ c ∈ cs, c ∈ xs := by
  induction n generalizing cs with
  | zero =>
    rw [pow_zero, Language.mem_one, List.length_eq_zero_iff]
    exact ⟨fun h => ⟨h, by simp [h]⟩, fun h => h.1⟩
  | succ n ih =>
    simp only [pow_succ', Language.mem_mul, mem_oneOf_iff, ih]
    constructor
    · rintro ⟨-, ⟨c, hc, rfl⟩, rest, ⟨hlength, hrest⟩, rfl⟩
      exact ⟨by simp [hlength], List.forall_mem_cons.2 ⟨hc, hrest⟩⟩
    · rintro ⟨hlength, hall⟩
      obtain ⟨c, rest, rfl⟩ := List.exists_cons_of_length_eq_add_one hlength
      obtain ⟨hc, hrest⟩ := List.forall_mem_cons.1 hall
      exact ⟨[c], ⟨c, hc, rfl⟩, rest, ⟨by simpa using hlength, hrest⟩, rfl⟩

/-- A class up to so many times. -/
theorem mem_oneOf_add_one_pow_iff :
    cs ∈ ((oneOf xs).matches' + 1) ^ n ↔ cs.length ≤ n ∧ ∀ c ∈ cs, c ∈ xs := by
  induction n generalizing cs with
  | zero =>
    rw [pow_zero, Language.mem_one, Nat.le_zero, List.length_eq_zero_iff]
    exact ⟨fun h => ⟨h, by simp [h]⟩, fun h => h.1⟩
  | succ n ih =>
    simp only [pow_succ', Language.mem_mul, Language.mem_add, Language.mem_one, mem_oneOf_iff, ih]
    constructor
    · rintro ⟨first, ⟨c, hc, rfl⟩ | rfl, rest, ⟨hlength, hrest⟩, rfl⟩
      · refine ⟨?_, List.forall_mem_cons.2 ⟨hc, hrest⟩⟩
        rw [List.singleton_append, List.length_cons]
        omega
      · rw [List.nil_append]
        exact ⟨by omega, hrest⟩
    · rintro ⟨hlength, hall⟩
      -- The first of the turns takes a character as long as there is one.
      cases cs with
      | nil => exact ⟨[], .inr rfl, [], ⟨by simp, by simp⟩, rfl⟩
      | cons c rest =>
        obtain ⟨hc, hrest⟩ := List.forall_mem_cons.1 hall
        rw [List.length_cons] at hlength
        exact ⟨[c], .inl ⟨c, hc, rfl⟩, rest, ⟨by omega, hrest⟩, rfl⟩

theorem mem_times_oneOf (h : least ≤ most) :
    cs ∈ (times least most (oneOf xs)).matches' ↔
      least ≤ cs.length ∧ cs.length ≤ most ∧ ∀ c ∈ cs, c ∈ xs := by
  rw [times, matches'_mul, matches'_pow, matches'_pow, matches'_add, matches'_epsilon,
    Language.mem_mul]
  simp only [mem_oneOf_pow_iff, mem_oneOf_add_one_pow_iff]
  constructor
  · rintro ⟨front, ⟨hfront, hin⟩, rest, ⟨hrest, hin'⟩, rfl⟩
    rw [List.length_append]
    refine ⟨by omega, by omega, fun c hc => ?_⟩
    exact (List.mem_append.1 hc).elim (hin c) (hin' c)
  · rintro ⟨hleast, hmost, hall⟩
    refine ⟨cs.take least, ⟨List.length_take_of_le hleast, ?_⟩, cs.drop least, ⟨?_, ?_⟩,
      List.take_append_drop least cs⟩
    · exact fun c hc => hall c (List.mem_of_mem_take hc)
    · rw [List.length_drop]
      omega
    · exact fun c hc => hall c (List.mem_of_mem_drop hc)

theorem mem_star_oneOf_iff : cs ∈ (oneOf xs).star.matches' ↔ ∀ c ∈ cs, c ∈ xs := by
  rw [matches'_star, Language.kstar_eq_iSup_pow, Language.mem_iSup]
  simp only [mem_oneOf_pow_iff]
  exact ⟨fun ⟨_, _, h⟩ => h, fun h => ⟨cs.length, rfl, h⟩⟩

/-! ## The classes of the recognisers -/

theorem mem_letters_iff : c ∈ letters ↔ c.isAlpha = true := by
  rw [letters, List.mem_append, mem_range_iff (by decide), mem_range_iff (by decide)]
  delta Char.isAlpha Char.isUpper Char.isLower
  simp only [Bool.or_eq_true, Bool.and_eq_true, decide_eq_true_eq, ge_iff_le,
    UInt32.le_iff_toNat_le]
  exact Iff.rfl

theorem mem_alphanumerics_iff : c ∈ alphanumerics ↔ Request.isAlphanumeric c = true := by
  rw [alphanumerics, List.mem_append, mem_letters_iff, mem_range_iff (by decide)]
  simp only [Request.isAlphanumeric, Char.isAlphanum, Char.isDigit, Bool.or_eq_true,
    Bool.and_eq_true, decide_eq_true_eq, ge_iff_le, UInt32.le_iff_toNat_le]
  exact Iff.rfl

theorem mem_nameChars_iff :
    c ∈ alphanumerics ++ ['_', '.', '-'] ↔ Request.isNameChar c = true := by
  simp only [List.mem_append, mem_alphanumerics_iff, Request.isNameChar, Bool.or_eq_true,
    beq_iff_eq, List.mem_cons, List.not_mem_nil, or_false]
  tauto

theorem mem_tokenChars_iff :
    c ∈ alphanumerics ++ ['.', '_', '~', '+', '/', '=', ':', '-'] ↔
      Request.isTokenChar c = true := by
  rw [List.mem_append, mem_alphanumerics_iff, Request.isTokenChar, Bool.or_eq_true,
    List.contains_iff_mem]

theorem mem_wordChars_iff : c ∈ alphanumerics ++ ['_'] ↔ Request.isWordChar c = true := by
  rw [List.mem_append, mem_alphanumerics_iff, Request.isWordChar, Bool.or_eq_true,
    List.mem_singleton, beq_iff_eq]

/-! ## Package names -/

/-- A segment, as the recogniser has it. -/
theorem mem_segment_iff : cs ∈ segment.matches' ↔ Request.isSegment cs = true := by
  rw [segment, matches'_mul, Language.mem_mul]
  simp only [mem_oneOf_iff, mem_star_oneOf_iff, mem_letters_iff, mem_wordChars_iff]
  constructor
  · rintro ⟨-, ⟨c, hc, rfl⟩, rest, hrest, rfl⟩
    simpa [Request.isSegment, hc] using hrest
  · intro h
    cases cs with
    | nil => cases h
    | cons c rest =>
      simp only [Request.isSegment, Bool.and_eq_true, List.all_eq_true] at h
      exact ⟨[c], ⟨c, h.1, rfl⟩, rest, h.2, rfl⟩

/-- No dot is in a segment. -/
theorem not_mem_of_isSegment (h : Request.isSegment cs = true) : '.' ∉ cs := by
  cases cs with
  | nil => simp
  | cons c rest =>
    simp only [Request.isSegment, Bool.and_eq_true, List.all_eq_true] at h
    rw [List.mem_cons, not_or]
    constructor
    · rintro rfl
      exact absurd h.1 (by decide)
    · exact fun hdot => absurd (h.2 '.' hdot) (by decide)

/-- The pieces between the dots are those that the library cuts a list into. -/
theorem segments_eq_splitOn (cs : List Char) : Request.segments cs = cs.splitOn '.' := by
  induction cs with
  | nil => rfl
  | cons c cs ih =>
    rw [Request.segments, ih, List.splitOn_cons_eq_if_modifyHead]
    by_cases hdot : c = '.'
    · rw [if_pos hdot, if_pos (beq_iff_eq.2 hdot)]
    · rw [if_neg hdot, if_neg (mt beq_iff_eq.1 hdot)]
      -- Neither list of pieces is empty.
      cases hpieces : cs.splitOn '.' with
      | nil => exact absurd hpieces (List.splitOn_ne_nil '.' cs)
      | cons piece pieces => rfl

/-- What stands behind the first segment, piece by piece with the dot in front of each. -/
theorem intercalate_cons_eq (first : List Char) (rest : List (List Char)) :
    ['.'].intercalate (first :: rest) = first ++ (rest.map ('.' :: ·)).flatten := by
  induction rest generalizing first with
  | nil => simp
  | cons next rest ih =>
    rw [List.intercalate_cons_cons, ih, List.map_cons, List.flatten_cons]
    simp

theorem mem_dotted_iff : cs ∈ (char '.' * segment).matches' ↔
    ∃ piece ∈ segment.matches', cs = '.' :: piece := by
  rw [matches'_mul, Language.mem_mul]
  constructor
  · rintro ⟨_, rfl, piece, hpiece, rfl⟩
    exact ⟨piece, hpiece, rfl⟩
  · rintro ⟨piece, hpiece, rfl⟩
    exact ⟨['.'], rfl, piece, hpiece, rfl⟩

/-- Dotted segments in any number: a list of segments with a dot in front of each. -/
theorem mem_star_dotted_iff : cs ∈ (char '.' * segment).star.matches' ↔
    ∃ pieces : List (List Char), (∀ piece ∈ pieces, piece ∈ segment.matches') ∧
      cs = (pieces.map ('.' :: ·)).flatten := by
  rw [matches'_star, Language.mem_kstar]
  constructor
  · rintro ⟨words, rfl, hwords⟩
    induction words with
    | nil => exact ⟨[], by simp, rfl⟩
    | cons word words ih =>
      obtain ⟨hword, hrest⟩ := List.forall_mem_cons.1 hwords
      obtain ⟨pieces, hpieces, heq⟩ := ih hrest
      obtain ⟨piece, hpiece, rfl⟩ := mem_dotted_iff.1 hword
      refine ⟨piece :: pieces, List.forall_mem_cons.2 ⟨hpiece, hpieces⟩, ?_⟩
      rw [List.flatten_cons, heq]
      rfl
  · rintro ⟨pieces, hpieces, rfl⟩
    refine ⟨_, rfl, fun word hword => ?_⟩
    obtain ⟨piece, hpiece, rfl⟩ := List.mem_map.1 hword
    exact mem_dotted_iff.2 ⟨piece, hpieces piece hpiece, rfl⟩

/-- **A package name is two segments or more with dots between them.** -/
theorem mem_packageName_iff : cs ∈ packageName.matches' ↔
    ∃ pieces : List (List Char), 2 ≤ pieces.length ∧ (∀ piece ∈ pieces, piece ∈ segment.matches') ∧
      cs = ['.'].intercalate pieces := by
  rw [packageName, matches'_mul, Language.mem_mul]
  constructor
  · rintro ⟨first, hfirst, rest, hrest, rfl⟩
    rw [matches'_mul, Language.mem_mul] at hrest
    obtain ⟨dotted, hdotted, more, hmore, rfl⟩ := hrest
    obtain ⟨second, hsecond, rfl⟩ := mem_dotted_iff.1 hdotted
    obtain ⟨pieces, hpieces, rfl⟩ := mem_star_dotted_iff.1 hmore
    refine ⟨first :: second :: pieces, by simp, ?_, ?_⟩
    · exact List.forall_mem_cons.2 ⟨hfirst, List.forall_mem_cons.2 ⟨hsecond, hpieces⟩⟩
    · rw [intercalate_cons_eq, List.map_cons, List.flatten_cons]
  · rintro ⟨pieces, hlength, hpieces, rfl⟩
    obtain ⟨first, second, pieces, rfl⟩ : ∃ first second rest, pieces = first :: second :: rest := by
      match pieces, hlength with
      | first :: second :: rest, _ => exact ⟨first, second, rest, rfl⟩
    obtain ⟨hfirst, hpieces⟩ := List.forall_mem_cons.1 hpieces
    obtain ⟨hsecond, hpieces⟩ := List.forall_mem_cons.1 hpieces
    rw [intercalate_cons_eq, List.map_cons, List.flatten_cons]
    refine ⟨first, hfirst, _, ?_, rfl⟩
    rw [matches'_mul]
    exact Language.append_mem_mul (mem_dotted_iff.2 ⟨second, hsecond, rfl⟩)
      (mem_star_dotted_iff.2 ⟨pieces, hpieces, rfl⟩)

end Pattern

namespace Request

open Pattern

variable {s : String} {f : Field} {reason : Reason}

/-! ## The recognisers and the patterns -/

theorem isProjectId_iff : isProjectId s = true ↔ Matches Pattern.projectId s := by
  rw [Matches, Pattern.projectId, RegularExpression.matches'_mul, Language.mem_mul, isProjectId]
  simp only [mem_oneOf_iff, mem_times_oneOf (Nat.zero_le 127), mem_alphanumerics_iff,
    mem_nameChars_iff]
  cases s.toList with
  | nil => simp
  | cons c cs =>
    simp only [Bool.and_eq_true, decide_eq_true_eq, List.all_eq_true]
    constructor
    · rintro ⟨⟨hc, hlength⟩, hcs⟩
      exact ⟨[c], ⟨c, hc, rfl⟩, cs, ⟨Nat.zero_le _, hlength, hcs⟩, rfl⟩
    · rintro ⟨-, ⟨d, hd, rfl⟩, rest, ⟨-, hlength, hrest⟩, heq⟩
      obtain ⟨rfl, rfl⟩ := List.cons.inj heq
      exact ⟨⟨hd, hlength⟩, hrest⟩

/-- A run of a class is a class that comes once or more often. -/
theorem isRun_iff {cls : Char → Bool} {xs : List Char} {most : Nat} (hmost : 1 ≤ most)
    (hcls : ∀ c, c ∈ xs ↔ cls c = true) :
    isRun cls most s = true ↔ Matches (times 1 most (oneOf xs)) s := by
  rw [Matches, mem_times_oneOf hmost, isRun]
  simp only [Bool.and_eq_true, Bool.not_eq_true', List.isEmpty_eq_false_iff, decide_eq_true_eq,
    List.all_eq_true, hcls, ← List.length_pos_iff, and_assoc]
  exact Iff.rfl

theorem isPackageName_iff : isPackageName s = true ↔ Matches Pattern.packageName s := by
  rw [Matches, mem_packageName_iff, isPackageName]
  simp only [mem_segment_iff, segments_eq_splitOn, Bool.and_eq_true, decide_eq_true_eq,
    List.all_eq_true]
  constructor
  · rintro ⟨hlength, hall⟩
    exact ⟨_, hlength, hall, (List.intercalate_splitOn '.').symm⟩
  · rintro ⟨pieces, hlength, hall, heq⟩
    -- No piece has a dot of its own, so the text is cut at the dots between the pieces.
    have hcut : s.toList.splitOn '.' = pieces := by
      rw [heq]
      refine List.splitOn_intercalate '.' (fun piece hp => not_mem_of_isSegment (hall piece hp)) ?_
      rintro rfl
      exact absurd hlength (by decide)
    rw [hcut]
    exact ⟨hlength, hall⟩

/-! ## The rules -/

/-- The white space of Unicode. -/
def whiteSpace : List Nat :=
  [0x9, 0xA, 0xB, 0xC, 0xD, 0x20, 0x85, 0xA0, 0x1680, 0x2000, 0x2001, 0x2002, 0x2003, 0x2004,
    0x2005, 0x2006, 0x2007, 0x2008, 0x2009, 0x200A, 0x2028, 0x2029, 0x202F, 0x205F, 0x3000]

/-- The control characters of Unicode: C0, DEL and C1. -/
def controls : List Nat := List.range 0x20 ++ List.range' 0x7F 0x21

/-- Something that has to be so, and what is said if it is not. -/
structure Rule where
  reason : Reason
  holds : String → Prop

/-- The rules of a field, in the order in which they are looked at. -/
def rules : Field → List Rule
  | .projectId => [⟨.projectId, Matches Pattern.projectId⟩]
  | .url | .styleUrl =>
    [ ⟨.urlTooLong, fun s => s.utf8ByteSize ≤ 2048⟩,
      ⟨.urlScheme, fun s =>
        "http://".toList <+: s.toList ∨ "https://".toList <+: s.toList⟩,
      ⟨.urlCharacter, fun s => ∀ c ∈ s.toList, c.toNat ∉ whiteSpace ∧ c.toNat ∉ controls⟩ ]
  | .appEnv => [⟨.appEnv, Matches Pattern.appEnv⟩]
  | .projectToken => [⟨.token, Matches Pattern.token⟩]
  | .appName =>
    [ ⟨.nameLength, fun s => 1 ≤ s.toList.length ∧ s.toList.length ≤ 128⟩,
      ⟨.nameCharacter, fun s => ∀ c ∈ s.toList, c.toNat ∉ controls⟩ ]
  | .packageName =>
    [ ⟨.packageTooLong, fun s => s.utf8ByteSize ≤ 255⟩,
      ⟨.packageShape, Matches Pattern.packageName⟩ ]

/-- Inside the allow-list of a field. -/
def Allowed (f : Field) (s : String) : Prop := ∀ rule ∈ rules f, rule.holds s

/-- The first rule that a text breaks, by what is said of it. -/
inductive FirstBroken (s : String) : List Rule → Reason → Prop where
  | here {rule : Rule} {rest : List Rule} (h : ¬rule.holds s) :
      FirstBroken s (rule :: rest) rule.reason
  | later {rule : Rule} {rest : List Rule} {reason : Reason} (h : rule.holds s)
      (hrest : FirstBroken s rest reason) : FirstBroken s (rule :: rest) reason

/-- Either every rule holds or there is a first one that does not. -/
theorem forall_holds_iff {rs : List Rule} :
    (∀ rule ∈ rs, rule.holds s) ↔ ∀ reason, ¬FirstBroken s rs reason := by
  induction rs with
  | nil =>
    refine ⟨fun _ reason h => ?_, fun _ rule h => ?_⟩
    · cases h
    · cases h
  | cons rule rest ih =>
    rw [List.forall_mem_cons, ih]
    constructor
    · rintro ⟨hrule, hrest⟩ reason h
      cases h with
      | here hbroken => exact hbroken hrule
      | later _ h => exact hrest reason h
    · intro h
      have hrule : rule.holds s := by
        by_contra hbroken
        exact h rule.reason (.here hbroken)
      exact ⟨hrule, fun reason hrest => h reason (.later hrule hrest)⟩

/-! ## The checks and the rules -/

section

variable {first : Reason} {holds : String → Prop} {rest : List Rule} {others : Option Reason}

/-- A check that is made before others is a rule in front of theirs. -/
theorem eq_some_iff_of_cons {broken : Prop} [Decidable broken] (hrule : broken ↔ ¬holds s)
    (hrest : others = some reason ↔ FirstBroken s rest reason) :
    (if broken then some first else others) = some reason ↔
      FirstBroken s (⟨first, holds⟩ :: rest) reason := by
  by_cases h : broken
  · rw [if_pos h]
    constructor
    · rintro ⟨⟩
      exact .here (hrule.1 h)
    · rintro (- | ⟨hholds, -⟩)
      · rfl
      · exact absurd hholds (hrule.1 h)
  · rw [if_neg h, hrest]
    have hholds : holds s := not_not.1 fun hb => h (hrule.2 hb)
    constructor
    · exact .later hholds
    · rintro (hb | ⟨-, hrest⟩)
      · exact absurd hholds hb
      · exact hrest

/-- The last check of a field. -/
theorem eq_some_iff_of_last {passes : Prop} [Decidable passes] (hrule : passes ↔ holds s) :
    (if passes then none else some first) = some reason ↔
      FirstBroken s [⟨first, holds⟩] reason := by
  have hnil : (none : Option Reason) = some reason ↔ FirstBroken s [] reason := by
    constructor <;> rintro ⟨⟩
  rw [← eq_some_iff_of_cons (not_congr hrule) hnil, ite_not]

end

theorem isBlank_iff (c : Char) : Text.isBlank c = true ↔ c.toNat ∈ whiteSpace := by
  simp only [Text.isBlank, whiteSpace, Bool.or_eq_true, Bool.and_eq_true, decide_eq_true_eq,
    beq_iff_eq, List.mem_cons, List.not_mem_nil, or_false]
  omega

theorem isControl_iff (c : Char) : Text.isControl c = true ↔ c.toNat ∈ controls := by
  simp only [Text.isControl, controls, Bool.or_eq_true, Bool.and_eq_true, decide_eq_true_eq,
    List.mem_append, List.mem_range, List.mem_range'_1]
  omega

theorem urlFault?_eq_some_iff : urlFault? s = some reason ↔ FirstBroken s (rules .url) reason := by
  unfold urlFault? rules
  refine eq_some_iff_of_cons Nat.not_le.symm (eq_some_iff_of_cons ?_ ?_)
  · simp [← List.isPrefixOf_iff_prefix]
  · rw [← ite_not]
    refine eq_some_iff_of_last ?_
    simp only [List.any_eq_true, Bool.or_eq_true, isBlank_iff, isControl_iff, not_exists, not_and,
      not_or]

theorem appNameFault?_eq_some_iff :
    appNameFault? s = some reason ↔ FirstBroken s (rules .appName) reason := by
  unfold appNameFault? rules
  refine eq_some_iff_of_cons ?_ ?_
  · simp only [Bool.or_eq_true, decide_eq_true_eq, not_and_or]
    omega
  · rw [← ite_not]
    refine eq_some_iff_of_last ?_
    simp only [List.any_eq_true, isControl_iff, not_exists, not_and]

theorem packageNameFault?_eq_some_iff :
    packageNameFault? s = some reason ↔ FirstBroken s (rules .packageName) reason := by
  unfold packageNameFault? rules
  exact eq_some_iff_of_cons Nat.not_le.symm (eq_some_iff_of_last isPackageName_iff)

/-- **The check of a field finds the first rule that is broken.** -/
theorem fieldFault?_eq_some_iff :
    fieldFault? f s = some reason ↔ FirstBroken s (rules f) reason := by
  have hname : ∀ c, c ∈ alphanumerics ++ ['_', '.', '-'] ↔ isNameChar c = true := fun _ =>
    mem_nameChars_iff
  have htoken : ∀ c, c ∈ alphanumerics ++ ['.', '_', '~', '+', '/', '=', ':', '-'] ↔
      isTokenChar c = true := fun _ => mem_tokenChars_iff
  cases f with
  | projectId => exact eq_some_iff_of_last isProjectId_iff
  | url => exact urlFault?_eq_some_iff
  | styleUrl => exact urlFault?_eq_some_iff
  | appEnv => exact eq_some_iff_of_last (isRun_iff (Nat.succ_pos _) hname)
  | projectToken => exact eq_some_iff_of_last (isRun_iff (Nat.succ_pos _) htoken)
  | appName => exact appNameFault?_eq_some_iff
  | packageName => exact packageNameFault?_eq_some_iff

theorem fieldFault?_eq_none_iff : fieldFault? f s = none ↔ Allowed f s := by
  rw [Allowed, forall_holds_iff]
  simp only [← fieldFault?_eq_some_iff, Option.eq_none_iff_forall_ne_some, ne_eq]

/-- **A request passes exactly if every field is inside its allow-list**, and otherwise the first
field outside is named, with the first of its rules that is broken. The fields are looked at in the
order: project id, address, address of the style, environment, token, application name, package
name. The rules are those of `rules`: the patterns have to match from the first character to the
last, a length is looked at before the shape, and a package name is two or more segments between
dots. -/
theorem validate_iff_allowed (r : Request) :
    (r.validate = .ok () ↔ ∀ f, Allowed f (r.get f)) ∧
    (∀ e, r.validate = .error e ↔
      ∃ before f after reason,
        [.projectId, .url, .styleUrl, .appEnv, .projectToken, .appName, .packageName] =
          before ++ f :: after ∧
        (∀ g ∈ before, Allowed g (r.get g)) ∧ FirstBroken (r.get f) (rules f) reason ∧
        e = .invalidField f reason.message) ∧
    ∀ s, Matches Pattern.packageName s ↔
      ∃ pieces : List (List Char), 2 ≤ pieces.length ∧
        (∀ piece ∈ pieces, ∃ c rest, piece = c :: rest ∧ c ∈ letters ∧
          ∀ d ∈ rest, d ∈ alphanumerics ++ ['_']) ∧
        s.toList = ['.'].intercalate pieces := by
  refine ⟨?_, fun e => ?_, fun s => ?_⟩
  · rw [validate_eq_ok_iff]
    exact forall_congr' fun f => fieldFault?_eq_none_iff
  · rw [validate_eq_error_iff]
    simp only [firstFault?_eq_some_iff, fieldFault?_eq_none_iff, fieldFault?_eq_some_iff]
    constructor
    · rintro ⟨f, reason, ⟨before, after, horder, hbefore, hbroken⟩, rfl⟩
      exact ⟨before, f, after, reason, horder, hbefore, hbroken, rfl⟩
    · rintro ⟨before, f, after, reason, horder, hbefore, hbroken, rfl⟩
      exact ⟨f, reason, ⟨before, after, horder, hbefore, hbroken⟩, rfl⟩
  · rw [Matches, mem_packageName_iff]
    refine exists_congr fun pieces => and_congr_right fun _ => and_congr_left' ?_
    refine forall₂_congr fun piece _ => ?_
    rw [mem_segment_iff]
    cases piece with
    | nil => simp [isSegment]
    | cons c rest =>
      simp [isSegment, ← mem_letters_iff, ← mem_wordChars_iff]

end Request

end BuildService
