import BuildService.Program
import BuildService.Proofs.Paths
import BuildService.Proofs.Reading
/-!
From a configuration that is accepted to a service that runs.

The number of builds at a time is looked at twice. When a configuration is read
it has to fit 64 bits and must not be zero, and a dry run looks no further. When
the service starts, as many permits are made, and of permits there is a greatest
number, which is lower. So what can be said of every accepted configuration is
conditional: it is served exactly if it keeps below that limit
(`starts_iff_within_limit`), and between the limit and 64 bits there are
configurations that a dry run approves and that bring the service down
(`accepted_not_started`). For the second fact a whole document is read,
so that there is no doubt that such a number can be written.
-/

set_option autoImplicit false

namespace BuildService

/-! ## What is accepted -/

namespace RawConfig

theorem lt_of_asCount? {v : Toml.Value} {n : Nat} (h : asCount? v = some n) : n < UInt64.size := by
  unfold asCount? at h
  split at h
  · split at h
    · rename_i hfits
      obtain rfl := Option.some.inj h
      exact (Int.toNat_lt hfits.1).2 hfits.2
    · cases h
  · cases h

/-- A section cannot ask for a number of builds that does not fit 64 bits. -/
theorem maxBuilds_lt_of_ofValue? {v : Toml.Value} {build : BuildSection}
    (h : BuildSection.ofValue? v = some build) : build.maxBuilds < UInt64.size := by
  -- Of all that is read, only the last key is a number of builds.
  simp only [BuildSection.ofValue?, Option.bind_eq_bind, Option.bind_eq_some_iff] at h
  obtain ⟨values, -, h⟩ := h
  split at h
  · rename_i command workingDir logsDir timeout maxBuilds
    simp only [Option.bind_eq_some_iff] at h
    obtain ⟨_, -, _, -, _, -, _, -, n, hn, hbuild⟩ := h
    obtain rfl := Option.some.inj hbuild
    cases maxBuilds with
    | none =>
      obtain rfl := Option.some.inj hn
      have hdefault : BuildSection.defaultMaxBuilds < UInt64.size := by decide
      exact hdefault
    | some v => exact lt_of_asCount? hn
  · cases h

/-- A document cannot ask for a number of builds that does not fit 64 bits. -/
theorem maxBuilds_lt_of_ofText? {text : String} {raw : RawConfig} (h : ofText? text = some raw) :
    raw.maxBuilds < UInt64.size := by
  obtain ⟨es, -, hes⟩ := Option.bind_eq_some_iff.1 h
  simp only [ofEntries?, Option.bind_eq_bind, Option.bind_eq_some_iff] at hes
  obtain ⟨server, -, build, hbuild, hraw⟩ := hes
  obtain rfl := Option.some.inj hraw
  cases hsection : es.get? "build" with
  | none =>
    rw [hsection] at hbuild
    obtain rfl := Option.some.inj hbuild
    have hdefault : BuildSection.default.maxBuilds < UInt64.size := by decide
    exact hdefault
  | some v =>
    rw [hsection] at hbuild
    exact maxBuilds_lt_of_ofValue? hbuild

/-- What passes the checks may build something, and as many builds at a time as it asked for. -/
theorem maxBuilds_of_check {raw : RawConfig} {c : Config} (h : raw.check = .ok c) :
    c.build.maxBuilds = raw.maxBuilds ∧ 1 ≤ raw.maxBuilds := by
  obtain ⟨address, -, h⟩ := exists_of_bind_eq_ok h
  obtain ⟨command, -, h⟩ := exists_of_bind_eq_ok h
  obtain ⟨timeout, -, h⟩ := exists_of_bind_eq_ok h
  obtain ⟨maxBuilds, hm, h⟩ := exists_of_bind_eq_ok h
  obtain rfl := Except.ok.inj h
  unfold checkMaxBuilds at hm
  split at hm
  · cases hm
  · rename_i hne
    exact ⟨(Except.ok.inj hm).symm, Nat.one_le_iff_ne_zero.2 hne⟩

end RawConfig

namespace Config

/-- An accepted configuration asks for at least one build at a time, and for a number that fits 64
bits. -/
theorem maxBuilds_of_loadOrDefault {d : Disk} {path : Option String} {c : Config}
    (h : loadOrDefault d path = .ok c) :
    1 ≤ c.build.maxBuilds ∧ c.build.maxBuilds < UInt64.size := by
  have ofRaw : ∀ {raw : RawConfig}, raw.maxBuilds < UInt64.size → Config.ofRaw raw = .ok c →
      1 ≤ c.build.maxBuilds ∧ c.build.maxBuilds < UInt64.size := by
    intro raw hlt hraw
    unfold Config.ofRaw at hraw
    split at hraw
    · rename_i c' hcheck
      obtain rfl := Except.ok.inj hraw
      obtain ⟨heq, hpos⟩ := RawConfig.maxBuilds_of_check hcheck
      rw [heq]
      exact ⟨hpos, hlt⟩
    · cases hraw
  have load : ∀ {path : String}, Config.load d path = .ok c →
      1 ≤ c.build.maxBuilds ∧ c.build.maxBuilds < UInt64.size := by
    intro path hload
    unfold Config.load at hload
    split at hload
    · cases hload
    · rename_i raw hraw
      refine ofRaw ?_ hload
      unfold RawConfig.load at hraw
      split at hraw
      · cases hraw
      · split at hraw
        · rename_i htext
          obtain rfl := Except.ok.inj hraw
          exact RawConfig.maxBuilds_lt_of_ofText? htext
        · cases hraw
  cases path with
  | some path => exact load h
  | none =>
    simp only [loadOrDefault] at h
    split at h
    · exact load h
    · exact ofRaw (by decide) h

end Config

/-! ## What can be served -/

namespace Dispatcher

/-- A service starts exactly if its permits can be managed, and then all of them are free. -/
theorem exists_start?_iff {settings : Settings} {registry : Registry} {disk : Disk} :
    (∃ s, start? settings registry disk = some s ∧ s.permits.free = settings.maxBuilds) ↔
      settings.maxBuilds ≤ permitLimit := by
  unfold start?
  split
  · rename_i hlt
    simp [Nat.not_le.2 hlt]
  · rename_i hle
    simp [Nat.not_lt.1 hle, start, Permits.start]

end Dispatcher

/-! ## A document that asks for too much -/

namespace Toml

/-- A value that begins with a digit is a single word. -/
theorem value_of_isDigit {c : Char} (h : c.isDigit = true) (depth : Nat) (rest : Input) :
    value depth (c :: rest) = scalarAt c rest := by
  have hne : ∀ x : Char, x.isDigit = false → c ≠ x := by
    rintro x hx rfl
    rw [h] at hx
    cases hx
  rw [value.eq_def]
  simp only [hne '"' (by decide), hne '\'' (by decide), hne '[' (by decide), hne '\x7b' (by decide),
    or_self, if_false]

/-- A line that gives a key a value. -/
theorem line_eq_some {d d' : Document} {i after rest next : Input} {way : List String}
    {key : String} {v : Value} {h₁ : ('=' :: after).length < i.length}
    {h₂ : rest.length < (skipBlanks after).length} {h₃ : next.length ≤ rest.length}
    (hi : i.head? ≠ some '[')
    (hkey : dottedKey depthLimit i = some ⟨(way, key), '=' :: after, h₁⟩)
    (hvalue : value depthLimit (skipBlanks after) = some ⟨v, rest, h₂⟩)
    (hend : lineEnd rest = some ⟨next, h₃⟩) (hassign : d.assign way key v = some d') :
    ∃ h, line d i = some ⟨d', next, h⟩ := by
  have hafter := length_skipBlanks_le after
  rw [List.length_cons] at h₁
  refine ⟨by omega, ?_⟩
  unfold line
  split
  · simp at hi
  · simp at hi
  · simp only [hkey, hvalue, hend, hassign]

/-- Nothing is skipped if something stands in front. -/
theorem skipLines_cons {c : Char} (rest : Input) (hc : c ∉ [' ', '\t', '#', '\n', '\r']) :
    skipLines (c :: rest) = some ⟨c :: rest, Nat.le_refl _⟩ := by
  simp only [List.mem_cons, List.not_mem_nil, or_false, not_or] at hc
  have hblanks : skipBlanks (c :: rest) = c :: rest := by
    simp [skipBlanks, isBlank, hc]
  have hcomment : ∀ i : Input, i = c :: rest → ∃ h, skipComment i = some ⟨c :: rest, h⟩ := by
    rintro i rfl
    exact ⟨Nat.le_refl _, by simp [skipComment, hc]⟩
  obtain ⟨_, hcomment⟩ := hcomment _ hblanks
  have hnewline : newline? (c :: rest) = none := by
    simp [newline?, hc]
  rw [skipLines]
  simp only [hcomment]
  split
  · rfl
  · rename_i hline
    rw [hnewline] at hline
    cases hline

/-- A document is read line by line. -/
theorem lines_of_line {d d' : Document} {c : Char} {rest next : Input}
    {h : next.length < (c :: rest).length} (hc : c ∉ [' ', '\t', '#', '\n', '\r'])
    (hline : line d (c :: rest) = some ⟨d', next, h⟩) : lines d (c :: rest) = lines d' next := by
  rw [lines]
  simp only [skipLines_cons rest hc, hline]

theorem lines_nil (d : Document) : lines d [] = some d := by
  have hend : skipLines [] = some ⟨[], Nat.le_refl _⟩ := by
    rw [skipLines]
    rfl
  rw [lines]
  simp only [hend]

end Toml

/-- A document that asks for one build more at a time than there can be permits. -/
def crowdedText : String := "build.max_concurrent_builds=2305843009213693952"

/-- The settings of this document. -/
def crowdedRaw : RawConfig := { RawConfig.default with maxBuilds := 2305843009213693952 }

/-- A disk with this document in the place where the configuration is looked for. -/
def crowdedDisk : Disk :=
  Disk.initial.addNode 6 Config.defaultPath (.file (.ofBytes (Utf8.encode crowdedText)) false)

section

open Toml

/-- What the document is read as. -/
def crowdedEntries : Entries :=
  [("build", .table .dotted [("max_concurrent_builds", .integer 2305843009213693952)])]

theorem parse?_crowdedText : parse? crowdedText = some crowdedEntries := by
  -- The first character is kept apart, so that no step has to look at it again.
  let tail : Input := "uild.max_concurrent_builds=2305843009213693952".toList
  let digits : Input := "305843009213693952".toList
  have hshort : ('=' :: '2' :: digits).length < ('b' :: tail).length := by decide
  have hkey : dottedKey depthLimit ('b' :: tail) =
      some ⟨(["build"], "max_concurrent_builds"), '=' :: '2' :: digits, hshort⟩ := by rfl
  have hvalue : value depthLimit (skipBlanks ('2' :: digits)) =
      some ⟨.integer 2305843009213693952, [], Nat.zero_lt_succ _⟩ :=
    (value_of_isDigit (by decide) _ _).trans rfl
  have hafter : lineEnd [] = some ⟨[], Nat.le_refl _⟩ := rfl
  obtain ⟨_, hline⟩ : ∃ h, line .start ('b' :: tail) = some ⟨⟨crowdedEntries, []⟩, [], h⟩ :=
    line_eq_some (by decide) hkey hvalue hafter rfl
  have hlines : lines .start ('b' :: tail) = some ⟨crowdedEntries, []⟩ := by
    rw [lines_of_line (by decide) hline, lines_nil]
  exact congrArg (Option.map (·.entries)) hlines

end

theorem ofText?_crowdedText : RawConfig.ofText? crowdedText = some crowdedRaw := by
  rw [RawConfig.ofText?, parse?_crowdedText]
  rfl

open Disk in
theorem find_crowdedDisk : crowdedDisk.find Config.defaultPath = .ok 32 := by
  have hl : crowdedDisk.locate true Config.defaultPath = .ok (.found 32) := by
    refine locate_eq_ok_iff.2 ⟨⟨rfl, rfl, by decide⟩, ?_⟩
    refine .enter (n := 32) ⟨by decide, by decide, by decide⟩ rfl ?_ (.here _ _)
    rintro ⟨target, ht⟩
    cases ht
  rw [find, hl]

/-- The configuration that the document comes to. -/
def crowdedConfig : Config where
  bind := ⟨.v4 [0, 0, 0, 0], 8000⟩
  build :=
    { program := "docker"
      args := ["compose", "up", "--build"]
      workingDir := "sdufReactNative"
      logsDir := "logs"
      timeout := ⟨3600000⟩
      maxBuilds := 2305843009213693952 }

theorem loadOrDefault_crowdedDisk :
    Config.loadOrDefault crowdedDisk none = .ok crowdedConfig := by
  have hfile : Config.hasDefault crowdedDisk = true := by
    simp only [Config.hasDefault, Disk.isFile, find_crowdedDisk]
    rfl
  have htext : crowdedDisk.readText Config.defaultPath = .ok crowdedText := by
    simp only [Disk.readText, Disk.read, find_crowdedDisk]
    rfl
  simp only [Config.loadOrDefault, hfile, if_true, Config.load, RawConfig.load, htext,
    ofText?_crowdedText]
  rfl

namespace Program

/-- Starting to serve breaks the program down exactly if there would be too many permits. -/
theorem code_serve_eq_iff {c : Config} {d : Disk} :
    (serve c d).2.code = 101 ↔ Dispatcher.permitLimit < c.build.maxBuilds := by
  unfold serve Dispatcher.start?
  split
  · rename_i hnone
    split at hnone
    · rename_i hlt
      simpa [Ending.code] using hlt
    · cases hnone
  · rename_i hsome
    split at hsome
    · cases hsome
    · rename_i hle
      refine iff_of_false ?_ hle
      dsimp only
      split <;> simp [Ending.code]

/-- **An accepted configuration is served exactly if it keeps below the limit of permits.** Every
configuration that is accepted asks for at least one build at a time and for a number that fits 64
bits, and a dry run ends well with it. But a service with these settings starts, with as many free
permits as builds may run, only if there can be so many permits; and where there cannot, the program
breaks down as soon as it is to serve. -/
theorem starts_iff_within_limit (o : Options) (d : Disk) (c : Config)
    (h : Config.loadOrDefault d o.config = .ok c) :
    (1 ≤ c.build.maxBuilds ∧ c.build.maxBuilds < UInt64.size) ∧
    (∀ registry disk, (∃ s, Dispatcher.start? c.build registry disk = some s ∧
      s.permits.free = c.build.maxBuilds) ↔ c.build.maxBuilds ≤ Dispatcher.permitLimit) ∧
    (o.dryRun = true → (runWith o d).ending.code = 0) ∧
    (o.dryRun = false →
      ((runWith o d).ending.code = 101 ↔ Dispatcher.permitLimit < c.build.maxBuilds)) := by
  refine ⟨Config.maxBuilds_of_loadOrDefault h, fun _ _ => Dispatcher.exists_start?_iff, ?_, ?_⟩
  · intro hdry
    simp only [runWith, h, hdry, if_true]
    rfl
  · intro hserve
    -- Another address on the command line leaves the builds as they are.
    have hcode : (runWith o d).ending.code =
        (serve { c with bind := o.bind.getD c.bind } d).2.code := by
      simp only [runWith, h, hserve, if_false, Bool.false_eq_true]
    rw [hcode]
    exact code_serve_eq_iff

/-- The defaults: two builds at a time, and a service that starts with two free permits. -/
theorem starts_with_defaults :
    ∃ c, Config.loadOrDefault Disk.initial none = .ok c ∧
      ∃ s, Dispatcher.start? c.build .empty .initial = some s ∧ s.permits.free = 2 := by
  have hl : Disk.initial.locate true Config.defaultPath = .ok (.free 6 Config.defaultPath) :=
    Disk.locate_eq_ok_iff.2
      ⟨⟨rfl, rfl, by decide⟩, .free ⟨5, [], rfl⟩ ⟨by decide, by decide, by decide⟩ rfl⟩
  have hfile : Config.hasDefault Disk.initial = false := by
    simp only [Config.hasDefault, Disk.isFile, Disk.find, hl]
  have hload : Config.loadOrDefault Disk.initial none =
      .ok { crowdedConfig with build := { crowdedConfig.build with maxBuilds := 2 } } := by
    simp only [Config.loadOrDefault, hfile, if_false, Bool.false_eq_true]
    rfl
  exact ⟨_, hload,
    ((starts_iff_within_limit .empty .initial _ hload).2.1 .empty .initial).2 (by decide)⟩

/-- One build too many: the document is accepted and a dry run ends well with it, and the service
does not start and brings the program down. -/
theorem accepted_not_started :
    Config.loadOrDefault crowdedDisk none = .ok crowdedConfig ∧
      (runWith { Options.empty with dryRun := true } crowdedDisk).ending.code = 0 ∧
      Dispatcher.start? crowdedConfig.build .empty crowdedDisk = none ∧
      (runWith .empty crowdedDisk).ending.code = 101 := by
  have hlt : Dispatcher.permitLimit < crowdedConfig.build.maxBuilds := by decide
  refine ⟨loadOrDefault_crowdedDisk, ?_, if_pos hlt, ?_⟩
  · simp only [runWith, Options.empty, loadOrDefault_crowdedDisk, if_true]
    rfl
  · simp only [runWith, Options.empty, loadOrDefault_crowdedDisk, if_false, Bool.false_eq_true]
    exact code_serve_eq_iff.2 hlt

end Program

end BuildService
