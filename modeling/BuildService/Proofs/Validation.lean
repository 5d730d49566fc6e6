import BuildService.Proofs.AddressTexts
import BuildService.Proofs.Capacity
import BuildService.Proofs.DurationTexts
/-!
Which settings can be served, and what the others are refused for.

What a setting has to be is said of its own text (`RawConfig.Servable`), with the grammars of
addresses and durations. What a service then runs with is said in full
(`RawConfig.Serves`): a check that let everything through and mixed the settings up, or
trimmed the program, would agree with the first and not with the second.

Several settings can be wrong at once. Each fault is therefore first said without regard
to the others (`RawConfig.Fails`), and the one that is reported is the one that comes
first in the order of the checks. Two faults that come at the same place exclude each
other, so this determines it.
-/

set_option autoImplicit false

namespace BuildService

/-! ## Blank texts -/

namespace Text

theorem trimmed_eq_nil_iff {cs : List Char} : trimmed cs = [] ↔ ∀ c ∈ cs, isBlank c = true := by
  constructor
  · intro h
    obtain ⟨lead, trail, hlead, htrail, hcs⟩ := exists_trimmed cs
    intro c hc
    rw [hcs, h, List.append_nil] at hc
    exact (List.mem_append.1 hc).elim (hlead c) (htrail c)
  · intro h
    have hnil : cs.dropWhile isBlank = [] := List.dropWhile_eq_nil_iff.2 h
    rw [trimmed, hnil]
    rfl

end Text

/-! ## Times that are zero -/

namespace Duration

variable {s : String} {ds : List Char} {d : Duration} {u : Scale} {c : Char} {n : Nat}

/-- A text is a duration that fits, and means this one. -/
def Denotes (s : String) (d : Duration) : Prop :=
  ∃ ds u, Written s ds u ∧ number ds ≤ 2 ^ 64 - 1 ∧ number ds * u.factor ≤ 2 ^ 64 - 1 ∧
    u.Means (number ds) d

theorem parse_eq_ok_iff_denotes : parse s = .ok d ↔ Denotes s d := parse_eq_ok_iff

theorem Denotes.unique {e : Duration} (hd : Denotes s d) (he : Denotes s e) : d = e := by
  have hparse := parse_eq_ok_iff_denotes.2 hd
  rw [parse_eq_ok_iff_denotes.2 he] at hparse
  exact (Except.ok.inj hparse).symm

theorem number_append (ds : List Char) (c : Char) :
    number (ds ++ [c]) = (c.toNat - 48) + 10 * number ds := by
  simp only [number, List.reverse_append, List.reverse_cons, List.reverse_nil, List.nil_append,
    List.singleton_append, List.map_cons, Nat.ofDigits_cons]

/-- Only zeros come to zero, however many there are. -/
theorem number_eq_zero_iff (hds : ∀ c ∈ ds, c.isDigit = true) :
    number ds = 0 ↔ ∀ c ∈ ds, c = '0' := by
  induction ds using List.reverseRecOn with
  | nil => simp [number]
  | append_singleton ds c ih =>
    simp only [List.mem_append, List.mem_singleton, or_imp, forall_and, forall_eq] at hds ⊢
    have hrange := toNat_of_isDigit hds.2
    have hzero : c = '0' ↔ c.toNat = 48 := by
      rw [← Char.toNat_inj]
      rfl
    rw [number_append, ← ih hds.1, hzero]
    omega

theorem millis_eq_zero_iff (h : u.Means n d) : d.millis = 0 ↔ n = 0 := by
  rw [means_iff] at h
  subst h
  cases u with
  | milliseconds => exact Iff.rfl
  | seconds | minutes | hours =>
    simp only [Scale.span, Scale.factor, ofSeconds]
    omega

end Duration

namespace ConfigFault

/-- Where the check of a fault stands among the checks. -/
def place : ConfigFault → Nat
  | .bind _ => 0
  | .noProgram | .blankProgram => 1
  | .timeout _ => 2
  | .zeroTimeout => 3
  | .noBuilds => 4

/-- The key whose value is at fault. -/
def key : ConfigFault → String
  | .bind _ => "[server].bind"
  | .noProgram | .blankProgram => "[build].command"
  | .timeout _ | .zeroTimeout => "[build].timeout"
  | .noBuilds => "[build].max_concurrent_builds"

/-- Every fault names its key first. -/
theorem exists_message_eq (f : ConfigFault) : ∃ rest, f.message = f.key ++ rest := by
  cases f with
  | bind s =>
    have hbegin : "[server].bind must be a socket address like \"0.0.0.0:8000\" (got '" =
        "[server].bind" ++ " must be a socket address like \"0.0.0.0:8000\" (got '" := by
      decide +kernel
    refine ⟨" must be a socket address like \"0.0.0.0:8000\" (got '" ++ s ++
      "': invalid socket address syntax)", ?_⟩
    unfold message key
    dsimp only
    rw [hbegin, String.append_assoc, String.append_assoc, String.append_assoc]
  | timeout cause =>
    have hbegin : "[build].timeout: " = "[build].timeout" ++ ": " := by decide +kernel
    refine ⟨": " ++ cause.message, ?_⟩
    unfold message key
    dsimp only
    rw [hbegin, String.append_assoc]
  | blankProgram => exact ⟨" must start with a non-empty program name", by decide +kernel⟩
  | noProgram => exact ⟨" must not be empty", by decide +kernel⟩
  | zeroTimeout => exact ⟨" must be greater than zero", by decide +kernel⟩
  | noBuilds => exact ⟨" must be >= 1 (got 0)", by decide +kernel⟩

end ConfigFault

namespace RawConfig

variable {raw : RawConfig} {c : Config} {f g : ConfigFault} {s program : String}
  {args command : List String} {a : SocketAddress} {d : Duration} {n m : Nat}

/-- What the settings of a service have to be. -/
structure Servable (raw : RawConfig) : Prop where
  bind : ∃ a, SocketAddress.Written (Text.trimmed raw.bind.toList) a
  command : ∃ program args, raw.command = program :: args ∧
    ¬∀ c ∈ program.toList, Text.isBlank c = true
  timeout : ∃ d, Duration.Denotes raw.timeout d ∧ d.millis ≠ 0
  maxBuilds : 1 ≤ raw.maxBuilds

/-- What a service runs with is what its settings say. -/
structure Serves (raw : RawConfig) (c : Config) : Prop extends Servable raw where
  bind_written : SocketAddress.Written (Text.trimmed raw.bind.toList) c.bind
  command_eq : c.build.program :: c.build.args = raw.command
  timeout_denotes : Duration.Denotes raw.timeout c.build.timeout
  workingDir_eq : c.build.workingDir = raw.workingDir
  logsDir_eq : c.build.logsDir = raw.logsDir
  maxBuilds_eq : c.build.maxBuilds = raw.maxBuilds

/-- A setting is not what it has to be, whatever the others are. -/
inductive Fails (raw : RawConfig) : ConfigFault → Prop
  | bind (h : ∀ a, ¬SocketAddress.Written (Text.trimmed raw.bind.toList) a) :
    Fails raw (.bind raw.bind)
  | noProgram (h : raw.command = []) : Fails raw .noProgram
  | blankProgram {program : String} {args : List String} (h : raw.command = program :: args)
    (hblank : ∀ c ∈ program.toList, Text.isBlank c = true) : Fails raw .blankProgram
  | timeout {cause : Duration.Fault} (h : ∀ d, ¬Duration.Denotes raw.timeout d)
    (hcause : Duration.parse raw.timeout = .error cause) : Fails raw (.timeout cause)
  | zeroTimeout {d : Duration} (h : Duration.Denotes raw.timeout d) (hzero : d.millis = 0) :
    Fails raw .zeroTimeout
  | noBuilds (h : raw.maxBuilds = 0) : Fails raw .noBuilds

/-- The first fault in the order of the checks. -/
def FailsFirst (raw : RawConfig) (f : ConfigFault) : Prop :=
  Fails raw f ∧ ∀ g, Fails raw g → f.place ≤ g.place

/-! ## The single checks -/

theorem checkBind_eq_ok_iff :
    checkBind s = .ok a ↔ SocketAddress.Written (Text.trimmed s.toList) a := by
  have htrim : (Text.trim s).toList = Text.trimmed s.toList := by
    rw [Text.trim, String.toList_ofList]
  unfold checkBind
  rw [← htrim, ← SocketAddress.parse?_eq_some_iff]
  cases SocketAddress.parse? (Text.trim s) with
  | none => simp
  | some b => simp

theorem checkCommand_eq_ok_iff : checkCommand command = .ok (program, args) ↔
    command = program :: args ∧ ¬∀ c ∈ program.toList, Text.isBlank c = true := by
  cases command with
  | nil => simp [checkCommand]
  | cons first rest =>
    simp only [checkCommand, List.isEmpty_iff, List.cons.injEq, ← Text.trimmed_eq_nil_iff]
    by_cases hblank : Text.trimmed first.toList = []
    · rw [if_pos hblank]
      constructor
      · intro h
        cases h
      · rintro ⟨⟨rfl, rfl⟩, hne⟩
        exact absurd hblank hne
    · rw [if_neg hblank, Except.ok.injEq, Prod.mk.injEq]
      constructor
      · rintro ⟨rfl, rfl⟩
        exact ⟨⟨rfl, rfl⟩, hblank⟩
      · rintro ⟨h, -⟩
        exact h

theorem checkTimeout_eq_ok_iff :
    checkTimeout s = .ok d ↔ Duration.Denotes s d ∧ d.millis ≠ 0 := by
  rw [← Duration.parse_eq_ok_iff_denotes, checkTimeout]
  cases Duration.parse s with
  | error cause => simp
  | ok e =>
    by_cases hzero : e.millis = 0
    · simp only [if_pos hzero, Except.ok.injEq, reduceCtorEq, false_iff, not_and, not_not]
      rintro rfl
      exact hzero
    · simp only [if_neg hzero, Except.ok.injEq]
      constructor
      · rintro rfl
        exact ⟨rfl, hzero⟩
      · rintro ⟨h, -⟩
        exact h

theorem checkMaxBuilds_eq_ok_iff : checkMaxBuilds n = .ok m ↔ m = n ∧ n ≠ 0 := by
  rw [checkMaxBuilds]
  by_cases hzero : n = 0
  · simp [hzero]
  · simp [hzero, eq_comm]

/-! ## All checks -/

/-- **The settings that pass are those that can be served, and they are what is served.** -/
theorem check_eq_ok_iff : raw.check = .ok c ↔ Serves raw c := by
  constructor
  · intro h
    obtain ⟨bind, hbind, h⟩ := exists_of_bind_eq_ok h
    obtain ⟨⟨program, args⟩, hcommand, h⟩ := exists_of_bind_eq_ok h
    obtain ⟨timeout, htimeout, h⟩ := exists_of_bind_eq_ok h
    obtain ⟨maxBuilds, hmax, h⟩ := exists_of_bind_eq_ok h
    rw [checkBind_eq_ok_iff] at hbind
    rw [checkCommand_eq_ok_iff] at hcommand
    rw [checkTimeout_eq_ok_iff] at htimeout
    rw [checkMaxBuilds_eq_ok_iff] at hmax
    obtain rfl := Except.ok.inj h
    exact {
      bind := ⟨bind, hbind⟩
      command := ⟨program, args, hcommand⟩
      timeout := ⟨timeout, htimeout⟩
      maxBuilds := Nat.one_le_iff_ne_zero.2 hmax.2
      bind_written := hbind
      command_eq := hcommand.1.symm
      timeout_denotes := htimeout.1
      workingDir_eq := rfl
      logsDir_eq := rfl
      maxBuilds_eq := hmax.1 }
  · intro h
    have hbind := checkBind_eq_ok_iff.2 h.bind_written
    have hcommand : checkCommand raw.command = .ok (c.build.program, c.build.args) := by
      obtain ⟨program, args, hcommand, hblank⟩ := h.command
      have heq := h.command_eq.trans hcommand
      rw [List.cons.injEq] at heq
      exact checkCommand_eq_ok_iff.2 ⟨h.command_eq.symm, heq.1 ▸ hblank⟩
    have htimeout : checkTimeout raw.timeout = .ok c.build.timeout := by
      obtain ⟨d, hd, hpos⟩ := h.timeout
      have heq := hd.unique h.timeout_denotes
      exact checkTimeout_eq_ok_iff.2 ⟨h.timeout_denotes, heq ▸ hpos⟩
    have hmax : checkMaxBuilds raw.maxBuilds = .ok c.build.maxBuilds :=
      checkMaxBuilds_eq_ok_iff.2 ⟨h.maxBuilds_eq, Nat.one_le_iff_ne_zero.1 h.maxBuilds⟩
    rw [check, hbind, hcommand, htimeout, hmax, ← h.workingDir_eq, ← h.logsDir_eq]
    rfl

theorem Servable.exists_serves (h : Servable raw) : ∃ c, Serves raw c := by
  obtain ⟨a, ha⟩ := h.bind
  obtain ⟨program, args, hcommand, -⟩ := h.command
  obtain ⟨d, hd, -⟩ := h.timeout
  exact ⟨⟨a, ⟨program, args, raw.workingDir, raw.logsDir, d, raw.maxBuilds⟩⟩,
    ⟨h, ha, hcommand.symm, hd, rfl, rfl, rfl⟩⟩

/-! ## Faults -/

theorem Servable.not_fails (h : Servable raw) : ¬Fails raw f := by
  intro hf
  cases hf with
  | bind hnone =>
    obtain ⟨a, ha⟩ := h.bind
    exact hnone a ha
  | noProgram hnil =>
    obtain ⟨program, args, hcommand, -⟩ := h.command
    rw [hnil] at hcommand
    cases hcommand
  | blankProgram hcons hblank =>
    obtain ⟨program, args, hcommand, hne⟩ := h.command
    rw [hcons, List.cons.injEq] at hcommand
    exact hne (hcommand.1 ▸ hblank)
  | timeout hnone =>
    obtain ⟨d, hd, -⟩ := h.timeout
    exact hnone d hd
  | zeroTimeout hd hzero =>
    obtain ⟨e, he, hpos⟩ := h.timeout
    exact hpos (hd.unique he ▸ hzero)
  | noBuilds hzero => exact absurd h.maxBuilds (by omega)

/-- Two faults at one place are the same. -/
theorem Fails.eq_of_place (hf : Fails raw f) (hg : Fails raw g) (h : f.place = g.place) :
    f = g := by
  cases hf with
  | bind | zeroTimeout | noBuilds =>
    cases hg with
    | _ => first | rfl | cases h
  | noProgram hnil =>
    cases hg with
    | blankProgram hcons =>
      rw [hnil] at hcons
      cases hcons
    | _ => first | rfl | cases h
  | blankProgram hcons =>
    cases hg with
    | noProgram hnil =>
      rw [hnil] at hcons
      cases hcons
    | _ => first | rfl | cases h
  | timeout _ hcause =>
    cases hg with
    | timeout _ hcause' =>
      rw [hcause, Except.error.injEq] at hcause'
      rw [hcause']
    | _ => cases h

theorem FailsFirst.unique (hf : FailsFirst raw f) (hg : FailsFirst raw g) : f = g := by
  apply hf.1.eq_of_place hg.1
  have hle := hf.2 g hg.1
  have hge := hg.2 f hf.1
  omega

theorem fails_of_checkBind (h : checkBind raw.bind = .error f) : Fails raw f ∧ f.place = 0 := by
  have hnone : ∀ a, ¬SocketAddress.Written (Text.trimmed raw.bind.toList) a := by
    intro a ha
    rw [checkBind_eq_ok_iff.2 ha] at h
    cases h
  unfold checkBind at h
  split at h
  · cases h
  · cases h
    exact ⟨.bind hnone, rfl⟩

theorem fails_of_checkCommand (h : checkCommand raw.command = .error f) :
    Fails raw f ∧ f.place = 1 := by
  cases hcommand : raw.command with
  | nil =>
    rw [hcommand] at h
    cases h
    exact ⟨.noProgram hcommand, rfl⟩
  | cons program args =>
    rw [hcommand] at h
    by_cases hblank : ∀ c ∈ program.toList, Text.isBlank c = true
    · simp only [checkCommand, List.isEmpty_iff, if_pos (Text.trimmed_eq_nil_iff.2 hblank)] at h
      cases h
      exact ⟨.blankProgram hcommand hblank, rfl⟩
    · rw [checkCommand_eq_ok_iff.2 ⟨rfl, hblank⟩] at h
      cases h

theorem fails_of_checkTimeout (h : checkTimeout raw.timeout = .error f) :
    Fails raw f ∧ (f.place = 2 ∨ f.place = 3 ∧ ∃ d, Duration.Denotes raw.timeout d) := by
  unfold checkTimeout at h
  split at h
  · rename_i cause hcause
    cases h
    refine ⟨.timeout ?_ hcause, .inl rfl⟩
    intro d hd
    rw [Duration.parse_eq_ok_iff_denotes.2 hd] at hcause
    cases hcause
  · rename_i d hparse
    rw [Duration.parse_eq_ok_iff_denotes] at hparse
    by_cases hzero : d.millis = 0
    · rw [if_pos hzero] at h
      cases h
      exact ⟨.zeroTimeout hparse hzero, .inr ⟨rfl, d, hparse⟩⟩
    · rw [if_neg hzero] at h
      cases h

theorem fails_of_checkMaxBuilds (h : checkMaxBuilds raw.maxBuilds = .error f) :
    Fails raw f ∧ f.place = 4 := by
  by_cases hzero : raw.maxBuilds = 0
  · rw [checkMaxBuilds, if_pos hzero] at h
    cases h
    exact ⟨.noBuilds hzero, rfl⟩
  · rw [checkMaxBuilds_eq_ok_iff.2 ⟨rfl, hzero⟩] at h
    cases h

/-! A setting that passes its check is at no fault. -/

theorem Fails.place_ne_zero (hf : Fails raw f) (h : checkBind raw.bind = .ok a) : f.place ≠ 0 := by
  intro hplace
  cases hf with
  | bind hnone => exact hnone a (checkBind_eq_ok_iff.1 h)
  | _ => cases hplace

theorem Fails.place_ne_one (hf : Fails raw f) (h : checkCommand raw.command = .ok (program, args)) :
    f.place ≠ 1 := by
  obtain ⟨hcommand, hne⟩ := checkCommand_eq_ok_iff.1 h
  intro hplace
  cases hf with
  | noProgram hnil =>
    rw [hnil] at hcommand
    cases hcommand
  | blankProgram hcons hblank =>
    rw [hcons, List.cons.injEq] at hcommand
    exact hne (hcommand.1 ▸ hblank)
  | _ => cases hplace

theorem Fails.place_ne_two (hf : Fails raw f) (h : Duration.Denotes raw.timeout d) :
    f.place ≠ 2 := by
  intro hplace
  cases hf with
  | timeout hnone => exact hnone d h
  | _ => cases hplace

theorem Fails.place_ne_three (hf : Fails raw f) (h : Duration.Denotes raw.timeout d)
    (hpos : d.millis ≠ 0) : f.place ≠ 3 := by
  intro hplace
  cases hf with
  | zeroTimeout he hzero => exact hpos (h.unique he ▸ hzero)
  | _ => cases hplace

/-- **What is reported is the first fault.** The checks in front of it were passed, so a fault in
front of it there is none. -/
theorem failsFirst_of_check (h : raw.check = .error f) : FailsFirst raw f := by
  rcases error_or_of_bind_eq_error h with hbind | ⟨bind, hbind, h⟩
  · obtain ⟨hf, hplace⟩ := fails_of_checkBind hbind
    exact ⟨hf, fun g _ => by omega⟩
  rcases error_or_of_bind_eq_error h with hcommand | ⟨⟨program, args⟩, hcommand, h⟩
  · obtain ⟨hf, hplace⟩ := fails_of_checkCommand hcommand
    refine ⟨hf, ?_⟩
    intro g hg
    have := hg.place_ne_zero hbind
    omega
  rcases error_or_of_bind_eq_error h with htimeout | ⟨timeout, htimeout, h⟩
  · obtain ⟨hf, hplace⟩ := fails_of_checkTimeout htimeout
    refine ⟨hf, ?_⟩
    intro g hg
    have := hg.place_ne_zero hbind
    have := hg.place_ne_one hcommand
    rcases hplace with hplace | ⟨hplace, d, hd⟩
    · omega
    · have := hg.place_ne_two hd
      omega
  rcases error_or_of_bind_eq_error h with hmax | ⟨maxBuilds, -, h⟩
  · obtain ⟨hd, hpos⟩ := checkTimeout_eq_ok_iff.1 htimeout
    obtain ⟨hf, hplace⟩ := fails_of_checkMaxBuilds hmax
    refine ⟨hf, ?_⟩
    intro g hg
    have := hg.place_ne_zero hbind
    have := hg.place_ne_one hcommand
    have := hg.place_ne_two hd
    have := hg.place_ne_three hd hpos
    omega
  · cases h

theorem check_eq_error_iff : raw.check = .error f ↔ FailsFirst raw f := by
  constructor
  · exact failsFirst_of_check
  · intro hf
    cases hcheck : raw.check with
    | error g => rw [hf.unique (failsFirst_of_check hcheck)]
    | ok c => exact absurd hf.1 (check_eq_ok_iff.1 hcheck).toServable.not_fails

/-- A time limit is zero if its number is written with zeros alone, in whatever unit. -/
theorem fails_zeroTimeout_iff : Fails raw .zeroTimeout ↔
    ∃ ds u, Duration.Written raw.timeout ds u ∧ ∀ c ∈ ds, c = '0' := by
  constructor
  · intro h
    cases h with
    | zeroTimeout hd hzero =>
      obtain ⟨ds, u, hs, -, -, hmeans⟩ := hd
      have hnumber := (Duration.millis_eq_zero_iff hmeans).1 hzero
      exact ⟨ds, u, hs, (Duration.number_eq_zero_iff hs.digits).1 hnumber⟩
  · rintro ⟨ds, u, hs, hzeros⟩
    have hnumber := (Duration.number_eq_zero_iff hs.digits).2 hzeros
    have hmeans : u.Means (Duration.number ds) (u.span 0) := by
      rw [hnumber, Duration.means_iff]
    refine .zeroTimeout ⟨ds, u, hs, ?_, ?_, hmeans⟩ ((Duration.millis_eq_zero_iff hmeans).2 hnumber)
    · omega
    · rw [hnumber, Nat.zero_mul]
      omega

end RawConfig

namespace Config

theorem ofRaw_eq_ok_iff {raw : RawConfig} {c : Config} : ofRaw raw = .ok c ↔ raw.Serves c := by
  unfold ofRaw
  rw [← RawConfig.check_eq_ok_iff]
  cases raw.check with
  | error f => simp
  | ok b => simp

theorem ofRaw_eq_error_iff {raw : RawConfig} {e : Fault} : ofRaw raw = .error e ↔
    ∃ f, raw.FailsFirst f ∧ e = .configuration f.message := by
  unfold ofRaw
  simp only [← RawConfig.check_eq_error_iff]
  cases raw.check with
  | error f => simp [eq_comm]
  | ok b => simp

/-- Every configuration that a service is given comes of settings that can be served. -/
theorem serves_of_loadOrDefault {d : Disk} {path : Option String} {c : Config}
    (h : loadOrDefault d path = .ok c) : ∃ raw : RawConfig, raw.Serves c := by
  have load : ∀ {path : String}, load d path = .ok c → ∃ raw : RawConfig, raw.Serves c := by
    intro path hload
    unfold Config.load at hload
    split at hload
    · cases hload
    · exact ⟨_, ofRaw_eq_ok_iff.1 hload⟩
  unfold loadOrDefault at h
  split at h
  · exact load h
  · split at h
    · exact load h
    · exact ⟨_, ofRaw_eq_ok_iff.1 h⟩

/-- **Settings are accepted if and only if they can be served, and nothing of them is lost.** An
accepted configuration has the address and the time limit that the texts mean, the command as it
stands, and the other settings unchanged. Otherwise the first fault in the order of the checks is
reported, under the name of its key. A time limit of zero is a fault, in whatever unit and spelling,
and so is a count of zero; no service is given a configuration with one of them. -/
theorem ofRaw_exact :
    (∀ raw : RawConfig, ((∃ c, ofRaw raw = .ok c) ↔ raw.Servable) ∧
      (∀ c, ofRaw raw = .ok c ↔ raw.Serves c) ∧
      (∀ e, ofRaw raw = .error e ↔ ∃ f, raw.FailsFirst f ∧ e = .configuration f.message) ∧
      (∀ f, raw.Fails f → (∃ rest, f.message = f.key ++ rest) ∧ ∀ c, ofRaw raw ≠ .ok c) ∧
      (raw.Fails .zeroTimeout ↔
        ∃ ds u, Duration.Written raw.timeout ds u ∧ ∀ c ∈ ds, c = '0')) ∧
    ∀ (d : Disk) (path : Option String) (c : Config), loadOrDefault d path = .ok c →
      c.build.timeout.millis ≠ 0 ∧ 1 ≤ c.build.maxBuilds := by
  refine ⟨fun raw => ⟨⟨?_, ?_⟩, fun c => ofRaw_eq_ok_iff, fun e => ofRaw_eq_error_iff, ?_,
    RawConfig.fails_zeroTimeout_iff⟩, ?_⟩
  · rintro ⟨c, hc⟩
    exact (ofRaw_eq_ok_iff.1 hc).toServable
  · intro h
    obtain ⟨c, hc⟩ := h.exists_serves
    exact ⟨c, ofRaw_eq_ok_iff.2 hc⟩
  · intro f hf
    refine ⟨f.exists_message_eq, ?_⟩
    intro c hc
    exact (ofRaw_eq_ok_iff.1 hc).toServable.not_fails hf
  · intro d path c h
    obtain ⟨raw, hraw⟩ := serves_of_loadOrDefault h
    obtain ⟨timeout, htimeout, hpos⟩ := hraw.timeout
    rw [hraw.timeout_denotes.unique htimeout, hraw.maxBuilds_eq]
    exact ⟨hpos, hraw.maxBuilds⟩

end Config

/-- A blank program is reported before a time limit that is zero, and after nothing. -/
example : Config.ofRaw { RawConfig.default with command := ["\u3000 "], timeout := "0h" } =
    .error (.configuration ConfigFault.blankProgram.message) := by rfl

end BuildService
