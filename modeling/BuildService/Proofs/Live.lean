import BuildService.Proofs.Trace
import Mathlib.Data.List.Nodup
/-!
The live builds: what each step does to them.

Only three things change who is live: a build is admitted, recorded, or given
up. Everything else moves one build to another stage. A build is found by its
number, and numbers are never given twice (`Numbered`), so a stage is set for
one build alone (`mem_tasks_setStage`).
-/

set_option autoImplicit false

namespace BuildService

/-- Whether a happening leaves the same builds live. -/
def Happening.isInner : Happening → Bool
  | .admitted _ | .recorded _ _ | .dropped _ _ _ => false
  | _ => true

/-- The move by which something happens. -/
def Happening.move : Happening → Dispatcher.Move
  | .admitted b => .accept b.awaited .android b.request
  | .opened b | .unopened b _ => .openLog b.id
  | .granted b | .queued b => .ask b.id
  | .called b => .call b.id
  | .wrote b line | .refused b line _ => .writeLine b.id line
  | .closed b result => .close b.id result
  | .released b _ => .giveBack b.id
  | .recorded b _ => .record b.id
  | .dropped b _ _ => .abandon b.id
  | .stopped => .stop

namespace Dispatcher

/-! ## Admission -/

/-- A request is admitted if its platform can be built, its fields pass, and its project is not
running. -/
theorem check_eq_ok_iff {s : Dispatcher} {platform : Platform} {r : Request}
    {registry : Registry} :
    s.check platform r = .ok registry ↔
      platform.isExecutable = true ∧ r.validate = .ok () ∧
        s.registry.tryBegin r.projectId = .ok registry := by
  unfold check
  cases hp : platform.isExecutable with
  | false => simp
  | true =>
    cases hv : r.validate with
    | error e => simp
    | ok u => simp

/-- By which move something happens. -/
theorem eq_move_of_happening? {s : Dispatcher} {m : Move} {e : Happening}
    (h : s.happening? m = some e) : m = e.move := by
  cases m with
  | accept awaited platform r =>
    rw [happening?, accept] at h
    cases hc : s.check platform r with
    | error fault =>
      rw [hc] at h
      cases h
    | ok registry =>
      rw [hc] at h
      cases h
      cases platform with
      | android => rfl
      | ios => cases (check_eq_ok_iff.1 hc).1
  | stop =>
    cases h
    rfl
  | _ =>
    -- All other moves look up a number, and name the build that stands under it.
    simp only [happening?] at h
    split at h
    all_goals
      (repeat' split at h) <;> cases h <;>
        exact id_of_task? ‹s.task? _ = some _› ▸ rfl

/-! ## Stages -/

@[simp] theorem live_setStage (s : Dispatcher) (id : BuildId) (stage : Stage) :
    (s.setStage id stage).live = s.live := by
  simp only [live, setStage, List.map_map]
  refine List.map_congr_left fun t _ => ?_
  simp only [Function.comp]
  split <;> rfl

@[simp] theorem live_dismiss (s : Dispatcher) (id : BuildId) :
    (s.dismiss id).live = s.live.filter (·.id != id) := by
  simp only [live, dismiss, List.filter_map]
  rfl

@[simp] theorem settings_setStage (s : Dispatcher) (id : BuildId) (stage : Stage) :
    (s.setStage id stage).settings = s.settings := rfl

@[simp] theorem registry_setStage (s : Dispatcher) (id : BuildId) (stage : Stage) :
    (s.setStage id stage).registry = s.registry := rfl

@[simp] theorem disk_setStage (s : Dispatcher) (id : BuildId) (stage : Stage) :
    (s.setStage id stage).disk = s.disk := rfl

@[simp] theorem permits_setStage (s : Dispatcher) (id : BuildId) (stage : Stage) :
    (s.setStage id stage).permits = s.permits := rfl

@[simp] theorem nextId_setStage (s : Dispatcher) (id : BuildId) (stage : Stage) :
    (s.setStage id stage).nextId = s.nextId := rfl

@[simp] theorem settings_dismiss (s : Dispatcher) (id : BuildId) :
    (s.dismiss id).settings = s.settings := rfl

@[simp] theorem registry_dismiss (s : Dispatcher) (id : BuildId) :
    (s.dismiss id).registry = s.registry := rfl

@[simp] theorem disk_dismiss (s : Dispatcher) (id : BuildId) :
    (s.dismiss id).disk = s.disk := rfl

@[simp] theorem permits_dismiss (s : Dispatcher) (id : BuildId) :
    (s.dismiss id).permits = s.permits := rfl

@[simp] theorem nextId_dismiss (s : Dispatcher) (id : BuildId) :
    (s.dismiss id).nextId = s.nextId := rfl

theorem mem_live_of_task? {s : Dispatcher} {id : BuildId} {t : Task} (h : s.task? id = some t) :
    t.build ∈ s.live :=
  List.mem_map_of_mem (mem_of_task? h)

/-- What is not admitted, recorded or given up leaves the live builds, the registry and the numbers
alone. -/
theorem Step.inner {s s' : Dispatcher} {e : Happening} (h : Step s e s') (hi : e.isInner = true) :
    s'.live = s.live ∧ s'.registry = s.registry ∧ s'.nextId = s.nextId := by
  cases h with
  | admitted => cases hi
  | recorded => cases hi
  | dropped => cases hi
  | refused => exact ⟨rfl, rfl, rfl⟩
  | stopped => exact ⟨rfl, rfl, rfl⟩
  | _ => exact ⟨live_setStage _ _ _, rfl, rfl⟩

/-- Nothing that happens changes the settings. -/
theorem Step.settings_eq {s s' : Dispatcher} {e : Happening} (h : Step s e s') :
    s'.settings = s.settings := by
  cases h <;> rfl

theorem Step.logs_eq {s s' : Dispatcher} {e : Happening} (h : Step s e s') : s'.logs = s.logs := by
  rw [logs, h.settings_eq, logs]

/-! ## Numbers -/

/-- Every live build has a number of its own, and one that has been given. -/
structure Numbered (s : Dispatcher) : Prop where
  nodup : (s.live.map (·.id)).Nodup
  below : ∀ b ∈ s.live, b.id < s.nextId

theorem Numbered.filter {s s' : Dispatcher} {id : BuildId} (h : Numbered s)
    (hl : s'.live = s.live.filter (·.id != id)) (hn : s'.nextId = s.nextId) : Numbered s' where
  nodup := by
    rw [hl]
    exact h.nodup.sublist (List.filter_sublist.map _)
  below b hb := by
    rw [hl] at hb
    rw [hn]
    exact h.below b (List.mem_filter.1 hb).1

theorem Numbered.step {s s' : Dispatcher} {e : Happening} (h : Numbered s) (hs : Step s e s') :
    Numbered s' := by
  by_cases hi : e.isInner = true
  · obtain ⟨hl, -, hn⟩ := hs.inner hi
    exact ⟨by rw [hl]; exact h.nodup, by rw [hl, hn]; exact h.below⟩
  cases hs with
  | @admitted b _ _ hid _ =>
    have hlive : (s.tasks ++ [(⟨b, .arrived⟩ : Task)]).map (·.build) = s.live ++ [b] := by
      simp [live]
    constructor
    · simp only [live, hlive, List.map_append, List.map_singleton]
      refine List.nodup_append.2 ⟨h.nodup, List.nodup_singleton _, ?_⟩
      -- The new number is greater than any that has been given.
      rintro i hi j hj rfl
      obtain ⟨c, hc, rfl⟩ := List.mem_map.1 hi
      have hlt : b.id < s.nextId := List.mem_singleton.1 hj ▸ h.below c hc
      exact Nat.lt_irrefl _ (hid ▸ hlt)
    · intro c hc
      simp only [live, hlive, List.mem_append, List.mem_singleton] at hc
      rcases hc with hc | rfl
      · exact Nat.lt_succ_of_lt (h.below c hc)
      · exact hid ▸ Nat.lt_succ_self _
  | recorded ht => exact h.filter (live_dismiss _ _) rfl
  | dropped ht _ _ => exact h.filter (live_dismiss _ _) rfl
  | _ => exact absurd rfl hi

/-- The numbers of the live builds, read off the tasks. -/
theorem Numbered.nodup_tasks {s : Dispatcher} (h : Numbered s) :
    (s.tasks.map fun t => t.build.id).Nodup := by
  simpa only [live, List.map_map, Function.comp_def] using h.nodup

section

variable {s : Dispatcher} (hn : Numbered s)
include hn

/-- A live build stands under its number. -/
theorem task?_eq_some_iff {id : BuildId} {t : Task} :
    s.task? id = some t ↔ t ∈ s.tasks ∧ t.build.id = id := by
  constructor
  · exact fun h => ⟨mem_of_task? h, id_of_task? h⟩
  · rintro ⟨ht, rfl⟩
    cases hf : s.task? t.build.id with
    | none =>
      have := List.find?_eq_none.1 hf t ht
      simp at this
    | some u =>
      rw [List.inj_on_of_nodup_map hn.nodup_tasks (mem_of_task? hf) ht (id_of_task? hf)]

/-- A stage is set for the build of a number and for no other one. -/
theorem mem_tasks_setStage {b : Build} {stage stage' : Stage}
    (hb : s.task? b.id = some ⟨b, stage⟩) {t : Task} :
    t ∈ (s.setStage b.id stage').tasks ↔
      (t ∈ s.tasks ∧ t.build.id ≠ b.id) ∨ t = ⟨b, stage'⟩ := by
  simp only [setStage, List.mem_map]
  constructor
  · rintro ⟨u, hu, rfl⟩
    by_cases hid : u.build.id = b.id
    · have := (task?_eq_some_iff hn).2 ⟨hu, hid⟩
      rw [hb] at this
      obtain rfl := Option.some.inj this
      simp
    · simp only [if_neg hid]
      exact .inl ⟨hu, hid⟩
  · rintro (⟨ht, hid⟩ | rfl)
    · exact ⟨t, ht, by rw [if_neg hid]⟩
    · exact ⟨⟨b, stage⟩, mem_of_task? hb, by simp⟩

/-- A build whose stage was set is at this stage. -/
theorem stage_eq_of_mem_setStage {b : Build} {stage stage' stage'' : Stage}
    (hb : s.task? b.id = some ⟨b, stage⟩) (ht : ⟨b, stage''⟩ ∈ (s.setStage b.id stage').tasks) :
    stage'' = stage' := by
  rcases (mem_tasks_setStage hn hb).1 ht with ⟨-, hid⟩ | ht
  · exact absurd rfl hid
  · cases ht
    rfl

end

theorem mem_tasks_dismiss {s : Dispatcher} {id : BuildId} {t : Task} :
    t ∈ (s.dismiss id).tasks ↔ t ∈ s.tasks ∧ t.build.id ≠ id := by
  simp [dismiss]

/-! ## From stage to stage -/

/-- The stages between which a happening moves the build that it happens to. -/
inductive Next : Stage → Happening → Stage → Prop
  | opened (b : Build) (sink : LogSink) : Next .arrived (.opened b) (.opened sink)
  | unopened (b : Build) (cause : IoFault) :
      Next .arrived (.unopened b cause) (.leaving (.error (.io cause)))
  | granted (b : Build) (sink : LogSink) : Next (.opened sink) (.granted b) (.asking sink)
  | queued (b : Build) (sink : LogSink) : Next (.opened sink) (.queued b) (.asking sink)
  | called (b : Build) (sink : LogSink) : Next (.asking sink) (.called b) (.running sink)
  | wrote (b : Build) (line : String) (sink sink' : LogSink) :
      Next (.running sink) (.wrote b line) (.running sink')
  | refused (b : Build) (line : String) (cause : IoFault) (sink : LogSink) :
      Next (.running sink) (.refused b line cause) (.running sink)
  | closed (b : Build) (result : BuildResult) (sink : LogSink) :
      Next (.running sink) (.closed b result) (.closed result)
  | released (b : Build) (result : BuildResult) (heir : Option BuildId) :
      Next (.closed result) (.released b heir) (.leaving result)

/-- **What a step does to the live builds, one by one.** A build that is live after it was live at
the same stage and is not the one that the step happens to; or it is, and has moved on; or it is
the build that was admitted. -/
theorem Step.mem_tasks {s s' : Dispatcher} {e : Happening} (hn : Numbered s) (h : Step s e s')
    {t : Task} (ht : t ∈ s'.tasks) :
    (t ∈ s.tasks ∧ e.build? ≠ some t.build) ∨
      (∃ stage, ⟨t.build, stage⟩ ∈ s.tasks ∧ e.build? = some t.build ∧ Next stage e t.stage) ∨
      (e = .admitted t.build ∧ t.build.id = s.nextId ∧ t.stage = .arrived) := by
  -- What most steps do: one build is set to another stage, in a state that differs from `s` in
  -- other things than the tasks.
  have moved : ∀ {b : Build} {stage stage' : Stage} {u : Dispatcher},
      s.task? b.id = some ⟨b, stage⟩ → e.build? = some b → Next stage e stage' →
      u.tasks = s.tasks → t ∈ (u.setStage b.id stage').tasks →
      (t ∈ s.tasks ∧ e.build? ≠ some t.build) ∨
        (∃ stage, ⟨t.build, stage⟩ ∈ s.tasks ∧ e.build? = some t.build ∧ Next stage e t.stage) ∨
        (e = .admitted t.build ∧ t.build.id = s.nextId ∧ t.stage = .arrived) := by
    intro b stage stage' u hb he hnext hu ht
    have ht' : t ∈ (s.setStage b.id stage').tasks := by
      simpa only [setStage, hu] using ht
    rcases (mem_tasks_setStage hn hb).1 ht' with ⟨hmem, hid⟩ | rfl
    · refine .inl ⟨hmem, fun hc => hid ?_⟩
      rw [Option.some.inj (he.symm.trans hc)]
    · exact .inr (.inl ⟨stage, mem_of_task? hb, he, hnext⟩)
  cases h with
  | admitted hid _ =>
    rcases List.mem_append.1 ht with ht | ht
    · refine .inl ⟨ht, fun hc => ?_⟩
      have hlt := hn.below t.build (List.mem_map_of_mem ht)
      rw [← Option.some.inj hc, hid] at hlt
      exact Nat.lt_irrefl _ hlt
    · obtain rfl := List.mem_singleton.1 ht
      exact .inr (.inr ⟨rfl, hid, rfl⟩)
  | opened hb _ => exact moved hb rfl (.opened _ _) rfl ht
  | unopened hb _ => exact moved hb rfl (.unopened _ _) rfl ht
  | granted hb _ => exact moved hb rfl (.granted _ _) rfl ht
  | queued hb _ => exact moved hb rfl (.queued _ _) rfl ht
  | called hb _ => exact moved hb rfl (.called _ _) rfl ht
  | wrote hb _ => exact moved hb rfl (.wrote _ _ _ _) rfl ht
  | @refused b sink line cause hb _ =>
    -- The state stays as it is, and still the step happens to this build.
    by_cases hc : t.build = b
    · have htb := (task?_eq_some_iff hn).2 ⟨ht, congrArg Build.id hc⟩
      rw [hb] at htb
      obtain rfl := Option.some.inj htb
      exact .inr (.inl ⟨_, ht, rfl, .refused _ _ _ _⟩)
    · exact .inl ⟨ht, fun he => hc (Option.some.inj he).symm⟩
  | closed hb => exact moved hb rfl (.closed _ _ _) rfl ht
  | released hb => exact moved hb rfl (.released _ _ _) rfl ht
  | recorded _ =>
    obtain ⟨hmem, hid⟩ := mem_tasks_dismiss.1 ht
    refine .inl ⟨hmem, fun hc => hid ?_⟩
    rw [Option.some.inj hc]
  | dropped _ _ _ =>
    obtain ⟨hmem, hid⟩ := mem_tasks_dismiss.1 ht
    refine .inl ⟨hmem, fun hc => hid ?_⟩
    rw [Option.some.inj hc]
  | stopped => exact .inl ⟨ht, by simp [Happening.build?]⟩

/-- A step happens to a live build, or admits a new one. -/
theorem Step.mem_live {s s' : Dispatcher} {e : Happening} (h : Step s e s') {b : Build}
    (hb : e.build? = some b) : b ∈ s.live ∨ (e = .admitted b ∧ b.id = s.nextId) := by
  cases h with
  | admitted hid _ =>
    obtain rfl := Option.some.inj hb
    exact .inr ⟨rfl, hid⟩
  | stopped => cases hb
  | _ =>
    obtain rfl := Option.some.inj hb
    exact .inl (mem_live_of_task? ‹_›)

/-- The build that a step happens to is told from a live one by its number. -/
theorem Step.build_eq_of_id {s s' : Dispatcher} {e : Happening} (hn : Numbered s)
    (h : Step s e s') {b : Build} (hb : e.build? = some b) {t : Task} (ht : t ∈ s.tasks)
    (hid : b.id = t.build.id) : b = t.build := by
  have hlive : t.build ∈ s.live := List.mem_map_of_mem ht
  rcases h.mem_live hb with hb | ⟨-, hnew⟩
  · exact List.inj_on_of_nodup_map hn.nodup hb hlive hid
  · exact absurd (hid ▸ hnew ▸ hn.below _ hlive) (Nat.lt_irrefl _)

/-- A build to which nothing happens stays at its stage. -/
theorem Step.mem_tasks_of_ne {s s' : Dispatcher} {e : Happening} (hn : Numbered s)
    (h : Step s e s') {t : Task} (ht : t ∈ s.tasks) (hne : e.build? ≠ some t.build) :
    t ∈ s'.tasks := by
  -- Moves find builds by their numbers, so it is the numbers that have to differ.
  have hid : ∀ {b : Build}, e.build? = some b → t.build.id ≠ b.id := fun hb hid =>
    hne (h.build_eq_of_id hn hb ht hid.symm ▸ hb)
  have kept : ∀ {b : Build} {stage stage' : Stage}, s.task? b.id = some ⟨b, stage⟩ →
      e.build? = some b → t ∈ (s.setStage b.id stage').tasks := fun hb he =>
    (mem_tasks_setStage hn hb).2 (.inl ⟨ht, hid he⟩)
  cases h with
  | admitted _ _ => exact List.mem_append_left _ ht
  | recorded _ => exact mem_tasks_dismiss.2 ⟨ht, hid rfl⟩
  | dropped _ _ _ => exact mem_tasks_dismiss.2 ⟨ht, hid rfl⟩
  | refused _ _ => exact ht
  | stopped => exact ht
  | opened hb _ => exact kept hb rfl
  | unopened hb _ => exact kept hb rfl
  | granted hb _ => exact kept hb rfl
  | queued hb _ => exact kept hb rfl
  | called hb _ => exact kept hb rfl
  | wrote hb _ => exact kept hb rfl
  | closed hb => exact kept hb rfl
  | released hb => exact kept hb rfl

/-- A live build to which something happens moves on, or is recorded, or is given up. -/
theorem Step.exists_next {s s' : Dispatcher} {e : Happening} (hn : Numbered s) (h : Step s e s')
    {b : Build} {stage : Stage} (ht : ⟨b, stage⟩ ∈ s.tasks) (hb : e.build? = some b) :
    (∃ stage', Next stage e stage' ∧ ⟨b, stage'⟩ ∈ s'.tasks) ∨
      (∃ result, e = .recorded b result ∧ stage = .leaving result) ∨
      ∃ heir, e = .dropped b stage heir := by
  -- What the step finds under the number is this build, so it finds it at this stage.
  have hid : s.task? b.id = some ⟨b, stage⟩ := (task?_eq_some_iff hn).2 ⟨ht, rfl⟩
  have moved : ∀ {c : Build} {stage₁ stage₂ : Stage}, s.task? c.id = some ⟨c, stage₁⟩ →
      c = b → Next stage₁ e stage₂ →
      ∃ stage', Next stage e stage' ∧ ⟨b, stage'⟩ ∈ (s.setStage c.id stage₂).tasks := by
    rintro c stage₁ stage₂ hs rfl hnext
    cases hid.symm.trans hs
    exact ⟨stage₂, hnext, (mem_tasks_setStage hn hs).2 (.inr rfl)⟩
  cases h with
  | admitted hnew _ =>
    have hlt := hn.below b (List.mem_map_of_mem ht)
    rw [← Option.some.inj hb, hnew] at hlt
    exact absurd hlt (Nat.lt_irrefl _)
  | opened hs _ => exact .inl (moved hs (Option.some.inj hb) (.opened _ _))
  | unopened hs _ => exact .inl (moved hs (Option.some.inj hb) (.unopened _ _))
  | granted hs _ => exact .inl (moved hs (Option.some.inj hb) (.granted _ _))
  | queued hs _ => exact .inl (moved hs (Option.some.inj hb) (.queued _ _))
  | called hs _ => exact .inl (moved hs (Option.some.inj hb) (.called _ _))
  | wrote hs _ => exact .inl (moved hs (Option.some.inj hb) (.wrote _ _ _ _))
  | refused hs _ =>
    obtain rfl := Option.some.inj hb
    cases hid.symm.trans hs
    exact .inl ⟨_, .refused _ _ _ _, ht⟩
  | closed hs => exact .inl (moved hs (Option.some.inj hb) (.closed _ _ _))
  | released hs => exact .inl (moved hs (Option.some.inj hb) (.released _ _ _))
  | recorded hs =>
    obtain rfl := Option.some.inj hb
    cases hid.symm.trans hs
    exact .inr (.inl ⟨_, rfl, rfl⟩)
  | dropped hs _ _ =>
    obtain rfl := Option.some.inj hb
    cases hid.symm.trans hs
    exact .inr (.inr ⟨_, rfl⟩)
  | stopped => cases hb

/-! ## Where builds come from -/

/-- Whatever happens to a build, it was admitted before, under a number that has been given. -/
structure Rooted (s : Dispatcher) (tr : Trace) : Prop where
  numbered : Numbered s
  below : ∀ b ∈ tr.admitted, b.id < s.nextId
  live : ∀ b ∈ s.live, b ∈ tr.admitted
  mentioned : ∀ e ∈ tr, ∀ b, e.build? = some b → b ∈ tr.admitted

/-- Who is live after a step was live before, or is the build that was admitted. -/
theorem Step.live_subset {s s' : Dispatcher} {e : Happening} (h : Step s e s') {b : Build}
    (hb : b ∈ s'.live) : b ∈ s.live ∨ e = .admitted b := by
  by_cases hi : e.isInner = true
  · exact .inl ((h.inner hi).1 ▸ hb)
  cases h with
  | admitted _ _ =>
    simp only [Dispatcher.live, List.map_append, List.mem_append, List.map_singleton,
      List.mem_singleton] at hb
    rcases hb with hb | rfl
    · exact .inl hb
    · exact .inr rfl
  | recorded _ =>
    rw [live_dismiss] at hb
    exact .inl (List.mem_filter.1 hb).1
  | dropped _ _ _ =>
    rw [live_dismiss] at hb
    exact .inl (List.mem_filter.1 hb).1
  | _ => exact absurd rfl hi

theorem Step.nextId_le {s s' : Dispatcher} {e : Happening} (h : Step s e s') :
    s.nextId ≤ s'.nextId := by
  cases h with
  | admitted => exact Nat.le_succ _
  | _ => exact Nat.le_refl _

namespace Rooted

variable {s s' : Dispatcher} {tr : Trace} {e : Happening}

/-- A build whose number has not been given is not heard of. -/
theorem fresh (h : Rooted s tr) {b : Build} (hid : b.id = s.nextId) :
    b ∉ tr.admitted ∧ ∀ e ∈ tr, e.build? ≠ some b := by
  have hb : b ∉ tr.admitted := fun hb => Nat.lt_irrefl _ (hid ▸ h.below b hb)
  exact ⟨hb, fun e he hm => hb (h.mentioned e he b hm)⟩

theorem step (h : Rooted s tr) (hs : Step s e s') : Rooted s' (tr ++ [e]) := by
  have hadm : ∀ b, b ∈ Trace.admitted (tr ++ [e]) ↔ b ∈ tr.admitted ∨ e = .admitted b := by
    intro b
    rw [Trace.admitted_append, List.mem_append]
    cases e <;> simp [Happening.admitted?, eq_comm]
  constructor
  · exact h.numbered.step hs
  · intro b hb
    rcases (hadm b).1 hb with hb | rfl
    · exact Nat.lt_of_lt_of_le (h.below b hb) hs.nextId_le
    · cases hs with
      | admitted hid _ => exact hid ▸ Nat.lt_succ_self _
  · intro b hb
    exact (hadm b).2 ((hs.live_subset hb).imp_left (h.live b))
  · intro e' he' b hb
    rw [hadm]
    rcases List.mem_append.1 he' with he' | he'
    · exact .inl (h.mentioned e' he' b hb)
    · obtain rfl := List.mem_singleton.1 he'
      rcases hs.mem_live hb with hl | ⟨hl, -⟩
      · exact .inl (h.live b hl)
      · exact .inr hl

end Rooted

/-- Every run is rooted, whatever the registry held at its start. -/
theorem rooted (settings : Settings) (registry : Registry) (disk : Disk) (moves : List Move) :
    Rooted ((start settings registry disk).applyAll moves)
      ((start settings registry disk).trace moves) := by
  refine run_induction ?_ (fun _ _ _ _ h hs => h.step hs) moves
  exact ⟨⟨by simp [live, start], by simp [live, start]⟩, by simp [Trace.admitted],
    by simp [live, start], by simp⟩

end Dispatcher

end BuildService
