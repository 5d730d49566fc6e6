import BuildService.Proofs.Capacity
import BuildService.Proofs.Decoding
import BuildService.Proofs.DistinctKeys
/-!
Configuration files that say only a part.

A document is looked at here as the set of what it gives: a key of a section and a
value (`Toml.Entries.Gives`). Where in the document a key stands, how its section is
written, and what else is there, is not part of that. It need not be, because no
document gives a key twice.

There are two ways to a default. A key that is missing in a section has one, and a
section that is missing has one as a whole, which is also what a service without a
configuration file starts from. That they are the same for every key is what makes
each key independent of all others (`RawConfig.ofEntries?_eq`): whether the section
of a key is there at all is decided by those others.
-/

set_option autoImplicit false

namespace BuildService

open Toml

/-! ## What a document gives -/

namespace Toml.Entries

variable {es inner : Entries} {name key : String}

/-- A document has a section that is a table and gives a key a value. -/
def Gives (es : Entries) (name key : String) (v : Value) : Prop :=
  ∃ origin inner, (name, Value.table origin inner) ∈ es ∧ (key, v) ∈ inner

/-- A section is a table or is missing. -/
def HasTables (es : Entries) (name : String) : Prop :=
  ∀ v, (name, v) ∈ es → ∃ origin inner, v = .table origin inner

/-- What a document gives in a section is what is found in its table, if it has that section. -/
theorem section_cases (hd : es.Distinct) (ht : es.HasTables name) :
    (es.get? name = none ∧ ∀ key v, ¬es.Gives name key v) ∨
      ∃ origin inner, es.get? name = some (.table origin inner) ∧
        ∀ key v, es.Gives name key v ↔ get? inner key = some v := by
  cases hg : es.get? name with
  | none =>
    refine .inl ⟨rfl, ?_⟩
    rintro key v ⟨origin, inner, hmem, -⟩
    exact get?_eq_none_iff.1 hg _ hmem
  | some table =>
    have hmem := mem_of_get? hg
    obtain ⟨origin, inner, rfl⟩ := ht table hmem
    have hinner : Distinct inner := distinct_of_table (hd.values _ hmem)
    refine .inr ⟨origin, inner, rfl, ?_⟩
    intro key v
    rw [get?_eq_some_iff hinner]
    constructor
    · rintro ⟨origin', inner', hmem', hv⟩
      -- There is one section of this name only.
      have hsame := (get?_eq_some_iff hd).2 hmem'
      rw [hg] at hsame
      cases hsame
      exact hv
    · intro hv
      exact ⟨origin, inner, hmem, hv⟩

end Toml.Entries

/-- Values for some of the six keys. -/
structure Overrides where
  bind : Option String
  command : Option (List String)
  workingDir : Option String
  logsDir : Option String
  timeout : Option String
  maxBuilds : Option Nat
  deriving DecidableEq, Repr

namespace Overrides

/-- Values for none of the keys. -/
def none : Overrides := ⟨.none, .none, .none, .none, .none, .none⟩

/-- Settings in which some keys have another value. -/
def applyTo (o : Overrides) (raw : RawConfig) : RawConfig where
  bind := o.bind.getD raw.bind
  command := o.command.getD raw.command
  workingDir := o.workingDir.getD raw.workingDir
  logsDir := o.logsDir.getD raw.logsDir
  timeout := o.timeout.getD raw.timeout
  maxBuilds := o.maxBuilds.getD raw.maxBuilds

/-- Of the values that a document gives a key, there is exactly this one, or none. -/
def Given {α : Type} (es : Entries) (name key : String) (write : α → Value) (a? : Option α) :
    Prop :=
  ∀ v, es.Gives name key v ↔ v ∈ a?.map write

/-- A list of texts, as a document writes it. -/
def texts (ss : List String) : Value := .array (ss.map .string)

/-- A number of builds, as a document writes it. -/
def count (n : Nat) : Value := .integer n

/-- A document gives exactly these of the six keys, each a value of its kind. -/
structure GivenBy (o : Overrides) (es : Entries) : Prop where
  server : es.HasTables "server"
  build : es.HasTables "build"
  bind : Given es "server" "bind" .string o.bind
  command : Given es "build" "command" texts o.command
  workingDir : Given es "build" "working_dir" .string o.workingDir
  logsDir : Given es "build" "logs_dir" .string o.logsDir
  timeout : Given es "build" "timeout" .string o.timeout
  maxBuilds : Given es "build" "max_concurrent_builds" count o.maxBuilds
  fits : ∀ n ∈ o.maxBuilds, n < UInt64.size

section

variable {α : Type} {es inner : Entries} {name key : String} {write : α → Value} {a? : Option α}
  {a default : α} {read : Value → Option α}

theorem Given.eq_none (h : Given es name key write a?) (hnone : ∀ v, ¬es.Gives name key v) :
    a? = .none := by
  cases a? with
  | none => rfl
  | some a => exact absurd ((h (write a)).2 rfl) (hnone _)

/-- A key of a table is read as the value that the document gives, or as its default. -/
theorem Given.keyOr_eq (h : Given es name key write a?)
    (hinner : ∀ v, es.Gives name key v ↔ Entries.get? inner key = some v)
    (hread : ∀ a ∈ a?, read (write a) = some a) :
    RawConfig.keyOr read (Entries.get? inner key) default = some (a?.getD default) := by
  cases a? with
  | none =>
    have hnone : Entries.get? inner key = .none := by
      cases hg : Entries.get? inner key with
      | none => rfl
      | some v => exact absurd ((h v).1 ((hinner v).2 hg)) (by simp)
    rw [hnone]
    rfl
  | some a =>
    have hsome : Entries.get? inner key = some (write a) := (hinner _).1 ((h _).2 rfl)
    rw [hsome]
    exact hread a rfl

end

/-! ## What is read of it -/

variable {o : Overrides} {es inner : Entries} {origin : Origin}

theorem asStrings?_texts (ss : List String) : RawConfig.asStrings? (texts ss) = some ss := by
  induction ss with
  | nil => rfl
  | cons s ss ih =>
    have hrest : (ss.map Value.string).mapM RawConfig.asString? = some ss := ih
    have hfirst : RawConfig.asString? (.string s) = some s := rfl
    simp only [texts, RawConfig.asStrings?, List.map_cons, List.mapM_cons, hfirst, hrest]
    rfl

theorem asCount?_count {n : Nat} (h : n < UInt64.size) : RawConfig.asCount? (count n) = some n := by
  have hfits : (0 : Int) ≤ (n : Int) ∧ (n : Int) < (UInt64.size : Int) := by omega
  simp only [count, RawConfig.asCount?, if_pos hfits, Int.toNat_natCast]

theorem GivenBy.ofValue?_server (h : o.GivenBy es)
    (hinner : ∀ key v, es.Gives "server" key v ↔ Entries.get? inner key = some v) :
    ServerSection.ofValue? (.table origin inner) = some (o.applyTo .default).toServerSection := by
  have hbind : RawConfig.keyOr RawConfig.asString? (Entries.get? inner "bind")
      ServerSection.defaultBind = some (o.bind.getD ServerSection.defaultBind) :=
    h.bind.keyOr_eq (hinner _) fun _ _ => rfl
  simp only [ServerSection.ofValue?, RawConfig.sectionValues?, List.map_cons, List.map_nil,
    Option.bind_eq_bind, Option.bind_some, hbind]
  rfl

theorem GivenBy.ofValue?_build (h : o.GivenBy es)
    (hinner : ∀ key v, es.Gives "build" key v ↔ Entries.get? inner key = some v) :
    BuildSection.ofValue? (.table origin inner) = some (o.applyTo .default).toBuildSection := by
  have hcommand : RawConfig.keyOr RawConfig.asStrings? (Entries.get? inner "command")
      BuildSection.defaultCommand = some (o.command.getD BuildSection.defaultCommand) :=
    h.command.keyOr_eq (hinner _) fun ss _ => asStrings?_texts ss
  have hworkingDir : RawConfig.keyOr RawConfig.asString? (Entries.get? inner "working_dir")
      BuildSection.defaultWorkingDir = some (o.workingDir.getD BuildSection.defaultWorkingDir) :=
    h.workingDir.keyOr_eq (hinner _) fun _ _ => rfl
  have hlogsDir : RawConfig.keyOr RawConfig.asString? (Entries.get? inner "logs_dir")
      BuildSection.defaultLogsDir = some (o.logsDir.getD BuildSection.defaultLogsDir) :=
    h.logsDir.keyOr_eq (hinner _) fun _ _ => rfl
  have htimeout : RawConfig.keyOr RawConfig.asString? (Entries.get? inner "timeout")
      BuildSection.defaultTimeout = some (o.timeout.getD BuildSection.defaultTimeout) :=
    h.timeout.keyOr_eq (hinner _) fun _ _ => rfl
  have hmaxBuilds : RawConfig.keyOr RawConfig.asCount?
      (Entries.get? inner "max_concurrent_builds") BuildSection.defaultMaxBuilds =
        some (o.maxBuilds.getD BuildSection.defaultMaxBuilds) :=
    h.maxBuilds.keyOr_eq (hinner _) fun n hn => asCount?_count (h.fits n hn)
  simp only [BuildSection.ofValue?, BuildSection.keys, RawConfig.sectionValues?, List.map_cons,
    List.map_nil, Option.bind_eq_bind, Option.bind_some, hcommand, hworkingDir, hlogsDir, htimeout,
    hmaxBuilds]
  rfl

end Overrides

open Overrides

/-- **Every key has the value that the document gives it, or its default.** A section that is
missing is the case of the two defaults that have to agree. -/
theorem RawConfig.ofEntries?_eq {es : Entries} {o : Overrides} (hd : es.Distinct)
    (h : o.GivenBy es) : ofEntries? es = some (o.applyTo .default) := by
  have hserver : keyOr ServerSection.ofValue? (es.get? "server") .default =
      some (o.applyTo .default).toServerSection := by
    rcases Entries.section_cases hd h.server with ⟨hmissing, hnone⟩ | ⟨origin, inner, htable, hinner⟩
    · rw [hmissing]
      simp only [keyOr, applyTo, h.bind.eq_none (hnone _), Option.getD_none]
      rfl
    · rw [htable]
      exact h.ofValue?_server hinner
  have hbuild : keyOr BuildSection.ofValue? (es.get? "build") .default =
      some (o.applyTo .default).toBuildSection := by
    rcases Entries.section_cases hd h.build with ⟨hmissing, hnone⟩ | ⟨origin, inner, htable, hinner⟩
    · rw [hmissing]
      simp only [keyOr, applyTo, h.command.eq_none (hnone _), h.workingDir.eq_none (hnone _),
        h.logsDir.eq_none (hnone _), h.timeout.eq_none (hnone _), h.maxBuilds.eq_none (hnone _),
        Option.getD_none]
      rfl
    · rw [htable]
      exact h.ofValue?_build hinner
  simp only [ofEntries?, hserver, hbuild, Option.bind_eq_bind, Option.bind_some]

theorem RawConfig.load_eq {d : Disk} {path text : String} {es : Entries} {o : Overrides}
    (htext : d.readText path = .ok text) (hparse : parse? text = some es) (h : o.GivenBy es) :
    RawConfig.load d path = .ok (o.applyTo .default) := by
  have hof : ofText? text = some (o.applyTo .default) := by
    rw [ofText?, hparse, Option.bind_some, ofEntries?_eq (distinct_of_parse? hparse) h]
  simp only [RawConfig.load, htext, hof]

/-! ## Documents that are read -/

namespace Toml

/-- A text without quotes, backslashes and control characters is read as it stands. -/
theorem lineText_eq {quote : Char} {size : Nat} {cs : List Char} (done rest : List Char)
    (hclean : ∀ c ∈ cs, c ≠ quote ∧ c ≠ '\\' ∧ isForbidden c = false)
    (h : (cs ++ quote :: rest).length ≤ size) :
    ∃ h', lineText quote size done (cs ++ quote :: rest) h =
      some ⟨String.ofList (done.reverse ++ cs), rest, h'⟩ := by
  induction cs generalizing done with
  | nil =>
    simp only [List.nil_append, List.length_cons] at h ⊢
    refine ⟨by omega, ?_⟩
    rw [lineText, if_pos rfl]
    simp
  | cons c cs ih =>
    obtain ⟨hquote, hslash, hforbidden⟩ := hclean c List.mem_cons_self
    simp only [List.cons_append, List.length_cons] at h ⊢
    have hrest : ∀ c ∈ cs, c ≠ quote ∧ c ≠ '\\' ∧ isForbidden c = false := fun c hc =>
      hclean c (List.mem_cons_of_mem _ hc)
    obtain ⟨h', heq⟩ := ih (c :: done) hrest (by omega)
    refine ⟨h', ?_⟩
    rw [lineText, if_neg hquote, if_neg (fun hboth => hslash hboth.1), hforbidden,
      if_neg Bool.false_ne_true, heq]
    simp

/-- A text in quotes is a value. -/
theorem value_of_quote (depth : Nat) {a b : Char} {cs : List Char} (rest : List Char)
    (hclean : ∀ c ∈ a :: b :: cs, c ≠ '"' ∧ c ≠ '\\' ∧ isForbidden c = false) :
    ∃ h, value depth ('"' :: (a :: b :: cs ++ '"' :: rest)) =
      some ⟨.string (String.ofList (a :: b :: cs)), rest, h⟩ := by
  obtain ⟨h', heq⟩ := lineText_eq [] rest hclean (Nat.le_refl _)
  have ha : a ≠ '"' := (hclean a (by simp)).1
  have htext : text '"' (a :: b :: cs ++ '"' :: rest) =
      some ⟨String.ofList (a :: b :: cs), rest, h'⟩ := by
    simp only [List.cons_append, text, ha, false_and, if_false]
    exact heq
  refine ⟨Nat.lt_succ_of_lt h', ?_⟩
  rw [value.eq_def]
  simp only [true_or, if_true, htext]
  rfl

end Toml

/-- A document with two sections and nothing in them. -/
def emptySectionsText : String := "[server]\n[build]\n"

theorem parse?_emptySectionsText : parse? emptySectionsText =
    some [("server", .table .header []), ("build", .table .header [])] := by
  let first : Input := "server]\n[build]\n".toList
  let second : Input := "build]\n".toList
  have hserver : line .start ('[' :: first) =
      some ⟨⟨[("server", .table .header [])], ["server"]⟩, '[' :: second, by decide⟩ := by rfl
  have hbuild : line ⟨[("server", .table .header [])], ["server"]⟩ ('[' :: second) =
      some ⟨⟨[("server", .table .header []), ("build", .table .header [])], ["build"]⟩, [],
        by decide⟩ := by rfl
  have hlines : lines .start ('[' :: first) =
      some ⟨[("server", .table .header []), ("build", .table .header [])], ["build"]⟩ := by
    rw [lines_of_line (by decide) hserver, lines_of_line (by decide) hbuild, lines_nil]
  exact congrArg (Option.map (·.entries)) hlines

theorem parse?_nil : parse? "" = some [] :=
  congrArg (Option.map Document.entries) (lines_nil .start)

/-- A document of which every table is empty gives nothing. -/
theorem givenBy_none {es : Entries} (h : ∀ e ∈ es, ∃ origin, e.2 = .table origin []) :
    Overrides.none.GivenBy es := by
  have htables : ∀ name, es.HasTables name := by
    intro name v hv
    obtain ⟨origin, horigin⟩ := h _ hv
    exact ⟨origin, [], horigin⟩
  have hnone : ∀ {α : Type} (name key : String) (write : α → Value),
      Given es name key write .none := by
    intro α name key write v
    refine iff_of_false ?_ (by simp)
    rintro ⟨origin, inner, hmem, hv⟩
    obtain ⟨origin', horigin⟩ := h _ hmem
    cases horigin
    cases hv
  exact ⟨htables _, htables _, hnone _ _ _, hnone _ _ _, hnone _ _ _, hnone _ _ _, hnone _ _ _,
    hnone _ _ _, by simp [Overrides.none]⟩

/-! ## Loading -/

/-- **A configuration file overrides exactly the keys that it names.** Whatever else is in a document
and in whatever order, the settings that are loaded have the values that it gives for some of the
six keys and the built-in ones for the others. So a file that gives none of them, an empty one or one
with empty sections for instance, comes to the configuration of a service that finds no file; and
one that finds a file comes to what loading this file comes to. -/
theorem load_overrides_given_keys :
    (∀ (d : Disk) (path text : String) (es : Entries) (o : Overrides),
      d.readText path = .ok text → parse? text = some es → o.GivenBy es →
        RawConfig.load d path = .ok (o.applyTo .default)) ∧
    ∃ c, Config.ofRaw .default = .ok c ∧
      (∀ (d : Disk) (path text : String) (es : Entries),
        d.readText path = .ok text → parse? text = some es → Overrides.none.GivenBy es →
          Config.load d path = .ok c) ∧
      (∀ text ∈ ["", emptySectionsText],
        ∃ es, parse? text = some es ∧ Overrides.none.GivenBy es) ∧
      ∀ d : Disk, (Config.hasDefault d = false → Config.loadOrDefault d none = .ok c) ∧
        (Config.hasDefault d = true →
          Config.loadOrDefault d none = Config.load d Config.defaultPath) := by
  refine ⟨fun _ _ _ _ _ htext hparse h => RawConfig.load_eq htext hparse h, ?_⟩
  obtain ⟨c, hc⟩ : ∃ c, Config.ofRaw .default = .ok c := ⟨_, rfl⟩
  refine ⟨c, hc, ?_, ?_, fun d => ⟨?_, ?_⟩⟩
  · intro d path text es htext hparse h
    have hraw : RawConfig.load d path = .ok .default := RawConfig.load_eq htext hparse h
    simp only [Config.load, hraw, hc]
  · intro text ht
    simp only [List.mem_cons, List.not_mem_nil, or_false] at ht
    rcases ht with rfl | rfl
    · exact ⟨[], parse?_nil, givenBy_none (by simp)⟩
    · exact ⟨_, parse?_emptySectionsText, givenBy_none (by simp)⟩
  · intro hfile
    simp only [Config.loadOrDefault, hfile, Bool.false_eq_true, if_false, hc]
  · intro hfile
    simp only [Config.loadOrDefault, hfile, if_true]

/-- A document that gives one key of a section and no other section, between a key and a table that
the service does not know. -/
def timeoutText : String := "x = 1\n[build]\ntimeout = \"90s\"\n[other]\ntimeout = 7\n"

/-- What the document is read as. -/
def timeoutEntries : Entries :=
  [("x", .integer 1), ("build", .table .header [("timeout", .string "90s")]),
    ("other", .table .header [("timeout", .integer 7)])]

theorem parse?_timeoutText : parse? timeoutText = some timeoutEntries := by
  -- Each line without its first character, and all lines after it.
  let line₁ : Input := " = 1\n[build]\ntimeout = \"90s\"\n[other]\ntimeout = 7\n".toList
  let line₂ : Input := "build]\ntimeout = \"90s\"\n[other]\ntimeout = 7\n".toList
  let line₃ : Input := "imeout = \"90s\"\n[other]\ntimeout = 7\n".toList
  let line₄ : Input := "other]\ntimeout = 7\n".toList
  let line₅ : Input := "imeout = 7\n".toList
  let es₁ : Entries := [("x", .integer 1)]
  let es₂ : Entries := es₁ ++ [("build", .table .header [])]
  let es₃ : Entries := es₁ ++ [("build", .table .header [("timeout", .string "90s")])]
  let es₄ : Entries := es₃ ++ [("other", .table .header [])]
  obtain ⟨_, h₁⟩ : ∃ h, line .start ('x' :: line₁) = some ⟨⟨es₁, []⟩, '[' :: line₂, h⟩ := by
    have hkey : dottedKey depthLimit ('x' :: line₁) =
        some ⟨([], "x"), '=' :: (" 1\n".toList ++ '[' :: line₂), by decide⟩ := by rfl
    have hvalue : value depthLimit (skipBlanks (" 1\n".toList ++ '[' :: line₂)) =
        some ⟨.integer 1, '\n' :: '[' :: line₂, by decide⟩ :=
      (value_of_isDigit (c := '1') rfl _ _).trans rfl
    have hend : lineEnd ('\n' :: '[' :: line₂) = some ⟨'[' :: line₂, by decide⟩ := by rfl
    exact line_eq_some (by decide) hkey hvalue hend rfl
  have h₂ : line ⟨es₁, []⟩ ('[' :: line₂) =
      some ⟨⟨es₂, ["build"]⟩, 't' :: line₃, by decide⟩ := by rfl
  obtain ⟨_, h₃⟩ : ∃ h, line ⟨es₂, ["build"]⟩ ('t' :: line₃) =
      some ⟨⟨es₃, ["build"]⟩, '[' :: line₄, h⟩ := by
    have hkey : dottedKey depthLimit ('t' :: line₃) =
        some ⟨([], "timeout"), '=' :: (" \"90s\"\n".toList ++ '[' :: line₄), by decide⟩ := by rfl
    have hclean : ∀ c ∈ ['9', '0', 's'], c ≠ '"' ∧ c ≠ '\\' ∧ isForbidden c = false := by
      simp [isForbidden]
    obtain ⟨hshort, hvalue⟩ := value_of_quote depthLimit ('\n' :: '[' :: line₄) hclean
    have hend : lineEnd ('\n' :: '[' :: line₄) = some ⟨'[' :: line₄, by decide⟩ := by rfl
    exact line_eq_some (by decide) hkey hvalue hend rfl
  have h₄ : line ⟨es₃, ["build"]⟩ ('[' :: line₄) =
      some ⟨⟨es₄, ["other"]⟩, 't' :: line₅, by decide⟩ := by rfl
  obtain ⟨_, h₅⟩ : ∃ h, line ⟨es₄, ["other"]⟩ ('t' :: line₅) =
      some ⟨⟨timeoutEntries, ["other"]⟩, [], h⟩ := by
    have hkey : dottedKey depthLimit ('t' :: line₅) =
        some ⟨([], "timeout"), '=' :: " 7\n".toList, by decide⟩ := by rfl
    have hvalue : value depthLimit (skipBlanks " 7\n".toList) =
        some ⟨.integer 7, ['\n'], by decide⟩ :=
      (value_of_isDigit (c := '7') rfl _ _).trans rfl
    have hend : lineEnd ['\n'] = some ⟨[], by decide⟩ := by rfl
    exact line_eq_some (by decide) hkey hvalue hend rfl
  have hlines : lines .start ('x' :: line₁) = some ⟨timeoutEntries, ["other"]⟩ := by
    rw [lines_of_line (by decide) h₁, lines_of_line (by decide) h₂, lines_of_line (by decide) h₃,
      lines_of_line (by decide) h₄, lines_of_line (by decide) h₅, lines_nil]
  exact congrArg (Option.map Document.entries) hlines

theorem givenBy_timeoutEntries :
    { Overrides.none with timeout := some "90s" }.GivenBy timeoutEntries := by
  constructor <;>
    simp [Given, Entries.Gives, Entries.HasTables, timeoutEntries, Overrides.none, eq_comm]

/-- A disk with a document in the place where the configuration is looked for. -/
def Disk.withConfig (text : String) : Disk :=
  Disk.initial.addNode 6 Config.defaultPath (.file (.ofBytes (Utf8.encode text)) false)

theorem readText_withConfig (text : String) :
    (Disk.withConfig text).readText Config.defaultPath = .ok text := by
  have hnode : (Disk.withConfig text).node? 32 =
      some (.file (.ofBytes (Utf8.encode text)) false) := rfl
  have hl : (Disk.withConfig text).locate true Config.defaultPath = .ok (.found 32) := by
    refine Disk.locate_eq_ok_iff.2 ⟨⟨rfl, rfl, by decide⟩, ?_⟩
    refine .enter (n := 32) ⟨by decide, by decide, by decide⟩ rfl ?_ (.here _ _)
    rintro ⟨target, ht⟩
    rw [hnode] at ht
    cases ht
  simp only [Disk.readText, Disk.read, Disk.find, hl, Disk.bytes, hnode, Content.bytes_ofBytes,
    Utf8.decode?_eq_some_iff.2 rfl]

/-- One key is given, and the other five keep their defaults. -/
theorem load_timeoutText : RawConfig.load (Disk.withConfig timeoutText) Config.defaultPath =
    .ok { RawConfig.default with timeout := "90s" } :=
  load_overrides_given_keys.1 _ _ timeoutText timeoutEntries _ (readText_withConfig timeoutText)
    parse?_timeoutText givenBy_timeoutEntries

end BuildService
