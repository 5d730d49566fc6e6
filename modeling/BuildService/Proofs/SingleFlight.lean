import BuildService.Proofs.Endings
/-!
Each project is built at most once at a time, and its state says what became of
its latest build.

`Truthful` ties together who is live, what the registry says, and what has
happened: a live build is the latest one of its project and is registered as
running; so is a build that was given up, which nobody can complete any more;
and any other latest build was recorded, with the state that its result comes
to. Admission, recording and giving up are the three steps that touch any of
this, and each touches one project.
-/

set_option autoImplicit false

namespace BuildService

namespace Dispatcher

/-! ## The invariant -/

/-- What the live builds, the registry and the trace say of each other. -/
structure Truthful (s : Dispatcher) (tr : Trace) : Prop where
  accounted : Accounted s tr
  /-- Two live builds are not of one project. -/
  single : (s.live.map Build.project).Nodup
  /-- A build is live from its admission until it is recorded or given up. -/
  live_iff : ∀ b, b ∈ s.live ↔
    b ∈ tr.admitted ∧ (∀ result, .recorded b result ∉ tr) ∧ ¬tr.Dropped b
  latest : ∀ b ∈ s.live, tr.latest? b.project = some b
  /-- Only a caller who waits for a build gives it up. -/
  awaited : ∀ b, tr.Dropped b → b.awaited = true
  /-- What was given up is not recorded. -/
  apart : ∀ b result, .recorded b result ∈ tr → ¬tr.Dropped b
  unknown : ∀ p, tr.latest? p = none → s.registry.get p = .unknown
  running : ∀ p b, tr.latest? p = some b → b ∈ s.live ∨ tr.Dropped b →
    s.registry.get p = .running
  ended : ∀ p b result, tr.latest? p = some b → .recorded b result ∈ tr →
    s.registry.get p = result.state

namespace Truthful

variable {s s' : Dispatcher} {tr : Trace}

/-- The registry of a live build says that it is running. -/
theorem running_of_live (h : Truthful s tr) {b : Build} (hb : b ∈ s.live) :
    s.registry.get b.project = .running :=
  h.running _ b (h.latest b hb) (.inl hb)

/-- A step that is no admission, no recording and no giving up leaves all of it alone. -/
theorem inner {e : Happening} (h : Truthful s tr) (hs : Step s e s') (hi : e.isInner = true) :
    Truthful s' (tr ++ [e]) := by
  obtain ⟨hl, hr, -⟩ := hs.inner hi
  have hrec : ∀ b result, .recorded b result ∈ tr ++ [e] ↔ .recorded b result ∈ tr := by
    intro b result
    cases e <;> simp [Happening.isInner] at hi ⊢
  have hdrop : ∀ b, Trace.Dropped (tr ++ [e]) b ↔ tr.Dropped b := by
    intro b
    cases e <;> simp [Happening.isInner, Trace.Dropped] at hi ⊢
  have hadm : e.admitted? = none := by
    cases e <;> simp [Happening.isInner, Happening.admitted?] at hi ⊢
  have hall := Trace.admitted_append_of_none tr hadm
  have hlat := Trace.latest?_append_of_none tr hadm
  constructor
  · exact h.accounted.step hs
  · simpa only [hl] using h.single
  · simpa only [hall, hl, hrec, hdrop] using h.live_iff
  · simpa only [hlat, hl] using h.latest
  · simpa only [hdrop] using h.awaited
  · simpa only [hrec, hdrop] using h.apart
  · simpa only [hlat, hr] using h.unknown
  · simpa only [hlat, hl, hr, hdrop] using h.running
  · simpa only [hlat, hr, hrec] using h.ended

/-- Admission is refused while the project runs, so the new build is the only live one of its
project. -/
theorem admission (h : Truthful s tr) {b : Build} {platform : Platform} {registry : Registry}
    (hid : b.id = s.nextId) (hc : s.check platform b.request = .ok registry) :
    Truthful { s with
      registry := registry
      tasks := s.tasks ++ [⟨b, .arrived⟩]
      nextId := s.nextId + 1 } (tr ++ [.admitted b]) := by
  have hbegin : s.registry.tryBegin b.project = .ok registry := (check_eq_ok_iff.1 hc).2.2
  obtain ⟨hidle, hget⟩ := Registry.get_of_tryBegin hbegin
  have hlive : (s.tasks ++ [(⟨b, .arrived⟩ : Task)]).map (·.build) = s.live ++ [b] := by
    simp [live]
  obtain ⟨hfresh, hunheard⟩ := h.accounted.rooted.fresh hid
  have hnew : (∀ result, .recorded b result ∉ tr) ∧ ¬tr.Dropped b := by
    refine ⟨fun result hr => hunheard _ hr rfl, ?_⟩
    rintro ⟨stage, heir, hd⟩
    exact hunheard _ hd rfl
  -- A live build keeps its project running, and a running project is not begun.
  have hother : ∀ c ∈ s.live, c.project ≠ b.project := by
    intro c hc hp
    exact hidle (hp ▸ h.running_of_live hc)
  have hall : Trace.admitted (tr ++ [.admitted b]) = tr.admitted ++ [b] :=
    Trace.admitted_append _ _
  have hlat := Trace.latest?_append_admitted tr b
  have hrec : ∀ c result, .recorded c result ∈ tr ++ [.admitted b] ↔ .recorded c result ∈ tr := by
    simp
  have hdrop : ∀ c, Trace.Dropped (tr ++ [.admitted b]) c ↔ tr.Dropped c := by
    simp [Trace.Dropped]
  constructor
  · exact h.accounted.step (.admitted hid hc)
  · simp only [live, hlive, List.map_append, List.map_singleton]
    refine List.nodup_append.2 ⟨h.single, List.nodup_singleton _, ?_⟩
    rintro p hp q hq rfl
    obtain ⟨c, hc, rfl⟩ := List.mem_map.1 hp
    exact hother c hc (List.mem_singleton.1 hq)
  · intro c
    simp only [live, hlive, hall, hrec, hdrop, List.mem_append, List.mem_singleton]
    constructor
    · rintro (hc | rfl)
      · exact ⟨.inl ((h.live_iff c).1 hc).1, ((h.live_iff c).1 hc).2⟩
      · exact ⟨.inr rfl, hnew⟩
    · rintro ⟨hc | rfl, hend⟩
      · exact .inl ((h.live_iff c).2 ⟨hc, hend⟩)
      · exact .inr rfl
  · intro c hc
    simp only [live, hlive, List.mem_append, List.mem_singleton] at hc
    rw [hlat]
    rcases hc with hc | rfl
    · rw [if_neg fun hp => hother c hc hp.symm, h.latest c hc]
    · rw [if_pos rfl]
  · simpa only [hdrop] using h.awaited
  · simpa only [hrec, hdrop] using h.apart
  · intro p hp
    rw [hlat] at hp
    split at hp
    · cases hp
    · rename_i hne
      rw [hget, if_neg fun e => hne e.symm]
      exact h.unknown p hp
  · intro p c hp hc
    rw [hget]
    by_cases hpb : p = b.project
    · rw [if_pos hpb]
    · rw [if_neg hpb]
      rw [hlat, if_neg fun e => hpb e.symm] at hp
      refine h.running p c hp ?_
      rw [hdrop] at hc
      simp only [live, hlive, List.mem_append, List.mem_singleton] at hc
      rcases hc with (hc | rfl) | hc
      · exact .inl hc
      · exact absurd (Trace.mem_of_latest? hp).2.symm hpb
      · exact .inr hc
  · intro p c result hp hc
    rw [hrec] at hc
    by_cases hpb : p = b.project
    · rw [hlat, if_pos hpb.symm] at hp
      obtain rfl := Option.some.inj hp
      exact absurd hc (hnew.1 result)
    · rw [hlat, if_neg fun e => hpb e.symm] at hp
      rw [hget, if_neg hpb]
      exact h.ended p c result hp hc

/-- What stays when a build is live no longer: the others are live as before, and their projects
are not its project. -/
theorem mem_live_dismiss (h : Truthful s tr) {b c : Build} (hb : b ∈ s.live) :
    c ∈ (s.live.filter (·.id != b.id)) ↔ c ∈ s.live ∧ c ≠ b := by
  simp only [List.mem_filter, bne_iff_ne, ne_eq]
  refine and_congr_right fun hc => not_congr ⟨fun hid => ?_, fun e => e ▸ rfl⟩
  exact List.inj_on_of_nodup_map h.accounted.rooted.numbered.nodup hc hb hid

/-- A build that is recorded was running, so it is its result that the registry says. -/
theorem record (h : Truthful s tr) {b : Build} {result : BuildResult}
    (ht : s.task? b.id = some ⟨b, .leaving result⟩) :
    Truthful ({ s with
      registry := (s.registry.complete b.project result.state).2
      endings := s.endings ++ [(b.id, result)] }.dismiss b.id) (tr ++ [.recorded b result]) := by
  have hb : b ∈ s.live := mem_live_of_task? ht
  obtain ⟨hadm, hopen, hkept⟩ := (h.live_iff b).1 hb
  -- The registry takes the end of a job only while it runs; a live build's job does.
  have hget := Registry.get_complete result.state_isTerminal (h.running_of_live hb)
  have hnone : (Happening.recorded b result).admitted? = none := rfl
  have hall := Trace.admitted_append_of_none tr hnone
  have hlat := Trace.latest?_append_of_none tr hnone
  have hdrop : ∀ c, Trace.Dropped (tr ++ [.recorded b result]) c ↔ tr.Dropped c := by
    simp [Trace.Dropped]
  have hrec : ∀ c r, .recorded c r ∈ tr ++ [.recorded b result] ↔
      .recorded c r ∈ tr ∨ c = b ∧ r = result := by
    simp
  have hmem := fun c => h.mem_live_dismiss (c := c) hb
  constructor
  · exact h.accounted.step (.recorded ht)
  · rw [live_dismiss]
    exact h.single.sublist (List.filter_sublist.map _)
  · intro c
    rw [live_dismiss]
    refine (hmem c).trans ?_
    simp only [h.live_iff c, hall, hrec, hdrop, not_or, not_and]
    constructor
    · rintro ⟨⟨ha, hr, hd⟩, hne⟩
      exact ⟨ha, fun r => ⟨hr r, fun e => absurd e hne⟩, hd⟩
    · rintro ⟨ha, hr, hd⟩
      exact ⟨⟨ha, fun r => (hr r).1, hd⟩, fun e => (hr result).2 e rfl⟩
  · intro c hc
    rw [live_dismiss] at hc
    rw [hlat]
    exact h.latest c ((hmem c).1 hc).1
  · simpa only [hdrop] using h.awaited
  · intro c r hc
    rw [hdrop]
    rcases (hrec c r).1 hc with hc | ⟨rfl, -⟩
    · exact h.apart c r hc
    · exact hkept
  · intro p hp
    rw [hlat] at hp
    refine (hget p).trans ?_
    rw [if_neg ?_]
    · exact h.unknown p hp
    · rintro rfl
      rw [h.latest b hb] at hp
      cases hp
  · intro p c hp hc
    rw [hlat] at hp
    rw [live_dismiss, hdrop] at hc
    -- The recorded build is neither live any more nor given up.
    have hne : c ≠ b := by
      rintro rfl
      rcases hc with hc | hc
      · exact ((hmem c).1 hc).2 rfl
      · exact hkept hc
    refine (hget p).trans ?_
    rw [if_neg ?_]
    · exact h.running p c hp (hc.imp_left fun hc => ((hmem c).1 hc).1)
    · rintro rfl
      rw [h.latest b hb] at hp
      exact hne (Option.some.inj hp).symm
  · intro p c r hp hc
    rw [hlat] at hp
    refine (hget p).trans ?_
    rcases (hrec c r).1 hc with hc | ⟨rfl, rfl⟩
    · rw [if_neg ?_]
      · exact h.ended p c r hp hc
      · rintro rfl
        rw [h.latest b hb] at hp
        obtain rfl := Option.some.inj hp
        exact hopen r hc
    · rw [if_pos (Trace.mem_of_latest? hp).2.symm]

/-- A build that is given up leaves its project registered as running. -/
theorem drop (h : Truthful s tr) {b : Build} {stage : Stage}
    (ht : s.task? b.id = some ⟨b, stage⟩) (ha : b.awaited = true) (hl : stage.isLeaving = false) :
    Truthful ({ s with permits := s.permits.giveUp b.id }.dismiss b.id)
      (tr ++ [.dropped b stage (if b.id ∈ s.permits.holders then s.permits.heir? else none)]) := by
  have hb : b ∈ s.live := mem_live_of_task? ht
  obtain ⟨hadm, hopen, -⟩ := (h.live_iff b).1 hb
  have hacc := h.accounted.step (.dropped ht ha hl)
  -- Who is handed the permit makes no difference to the registry.
  generalize (if b.id ∈ s.permits.holders then s.permits.heir? else none) = heir at hacc ⊢
  have hnone : (Happening.dropped b stage heir).admitted? = none := rfl
  have hall := Trace.admitted_append_of_none tr hnone
  have hlat := Trace.latest?_append_of_none tr hnone
  have hrec : ∀ c r, .recorded c r ∈ tr ++ [.dropped b stage heir] ↔ .recorded c r ∈ tr := by
    simp
  have hdrop : ∀ c, Trace.Dropped (tr ++ [.dropped b stage heir]) c ↔ tr.Dropped c ∨ c = b := by
    intro c
    simp only [Trace.Dropped, List.mem_append, List.mem_singleton, Happening.dropped.injEq]
    constructor
    · rintro ⟨st, hr, hc | ⟨rfl, -⟩⟩
      · exact .inl ⟨st, hr, hc⟩
      · exact .inr rfl
    · rintro (⟨st, hr, hc⟩ | rfl)
      · exact ⟨st, hr, .inl hc⟩
      · exact ⟨stage, heir, .inr ⟨rfl, rfl, rfl⟩⟩
  have hmem := fun c => h.mem_live_dismiss (c := c) hb
  constructor
  · exact hacc
  · rw [live_dismiss]
    exact h.single.sublist (List.filter_sublist.map _)
  · intro c
    rw [live_dismiss]
    refine (hmem c).trans ?_
    simp only [h.live_iff c, hall, hrec, hdrop, not_or, and_assoc, ne_eq]
  · intro c hc
    rw [live_dismiss] at hc
    rw [hlat]
    exact h.latest c ((hmem c).1 hc).1
  · intro c hc
    rcases (hdrop c).1 hc with hc | rfl
    · exact h.awaited c hc
    · exact ha
  · intro c r hc
    rw [hdrop]
    rw [hrec] at hc
    rintro (hd | rfl)
    · exact h.apart c r hc hd
    · exact hopen r hc
  · simpa only [hlat, registry_dismiss] using h.unknown
  · intro p c hp hc
    rw [hlat] at hp
    rw [live_dismiss, hdrop] at hc
    refine h.running p c hp ?_
    rcases hc with hc | hc | rfl
    · exact .inl ((hmem c).1 hc).1
    · exact .inr hc
    · exact .inl hb
  · simpa only [hlat, hrec, registry_dismiss] using h.ended

/-- Every step keeps the invariant. -/
theorem step {e : Happening} (h : Truthful s tr) (hs : Step s e s') : Truthful s' (tr ++ [e]) := by
  cases hs with
  | admitted hid hc => exact h.admission hid hc
  | recorded ht => exact h.record ht
  | dropped ht ha hl => exact h.drop ht ha hl
  | opened ht hr => exact h.inner (.opened ht hr) rfl
  | unopened ht hr => exact h.inner (.unopened ht hr) rfl
  | granted ht hf => exact h.inner (.granted ht hf) rfl
  | queued ht hf => exact h.inner (.queued ht hf) rfl
  | called ht hp => exact h.inner (.called ht hp) rfl
  | wrote ht hw => exact h.inner (.wrote ht hw) rfl
  | refused ht hw => exact h.inner (.refused ht hw) rfl
  | closed ht => exact h.inner (.closed ht) rfl
  | released ht => exact h.inner (.released ht) rfl
  | stopped => exact h.inner .stopped rfl

end Truthful

/-- The invariant holds in every run of a service whose registry was empty. -/
theorem truthful (settings : Settings) (disk : Disk) (moves : List Move) :
    Truthful ((start settings .empty disk).applyAll moves)
      ((start settings .empty disk).trace moves) := by
  refine run_induction ?_ (fun _ _ _ _ h hs => h.step hs) moves
  constructor
  · exact accounted settings .empty disk []
  · simp [live, start]
  · simp [live, start, Trace.admitted]
  · simp [live, start]
  · simp [Trace.Dropped]
  · simp
  · exact fun _ _ => rfl
  · simp [Trace.latest?, Trace.admitted]
  · simp

/-- **One build of a project at a time, and a state that tells the truth.** Whatever builds are
asked for, called, ended, given up and recorded in whatever order, at every moment:
- a build is live from its admission until it is recorded, or given up by the caller who waits
  for it;
- a project has at most one live build;
- it is `running` exactly if it has one or its latest build was given up;
- it is `unknown` exactly if no build of it was ever admitted;
- and otherwise its latest build has ended and is recorded, and the state of the project is
  `finished` if the build succeeded, `stuck` if its time was up, and `failed` for every other
  outcome and every fault. -/
theorem live_unique_and_get_eq (settings : Settings) (disk : Disk) (moves : List Move) :
    let s := (start settings .empty disk).applyAll moves
    let tr := (start settings .empty disk).trace moves
    (∀ b, b ∈ s.live ↔
      b ∈ tr.admitted ∧ (∀ result, .recorded b result ∉ tr) ∧ ¬tr.Dropped b) ∧
    (∀ b, tr.Dropped b → b.awaited = true ∧ ∀ result, .recorded b result ∉ tr) ∧
    ∀ p : String,
      (s.live.filter (·.project == p)).length ≤ 1 ∧
      (s.registry.get p = .running ↔
        (∃ b ∈ s.live, b.project = p) ∨ ∃ b, tr.latest? p = some b ∧ tr.Dropped b) ∧
      (s.registry.get p = .unknown ↔ ∀ b ∈ tr.admitted, b.project ≠ p) ∧
      ∀ b, tr.latest? p = some b → b ∉ s.live → ¬tr.Dropped b →
        ∃ result, .recorded b result ∈ tr ∧ tr.result? b = some result ∧
          (s.registry.get p = .finished ↔ result = .ok .success) ∧
          (s.registry.get p = .stuck ↔ result = .ok .stuck) ∧
          (s.registry.get p = .failed ↔ result ≠ .ok .success ∧ result ≠ .ok .stuck) := by
  intro s tr
  have h : Truthful s tr := truthful settings disk moves
  refine ⟨h.live_iff, fun b hb => ⟨h.awaited b hb, fun r hr => h.apart b r hr hb⟩, fun p => ?_⟩
  have hended : ∀ b, tr.latest? p = some b → b ∉ s.live → ¬tr.Dropped b →
      ∃ result, .recorded b result ∈ tr ∧ s.registry.get p = result.state := by
    intro b hb hl hd
    -- If it were not recorded either, it would still be live.
    by_contra hnone
    refine hl ((h.live_iff b).2 ⟨(Trace.mem_of_latest? hb).1, fun r hr => hnone ?_, hd⟩)
    exact ⟨r, hr, h.ended p b r hb hr⟩
  refine ⟨?_, ?_, ?_, ?_⟩
  · rw [← List.countP_eq_length_filter]
    have hc := List.nodup_iff_count_le_one.1 h.single p
    rwa [List.count, List.countP_map] at hc
  · constructor
    · intro hr
      cases hb : tr.latest? p with
      | none =>
        rw [h.unknown p hb] at hr
        cases hr
      | some b =>
        by_cases hl : b ∈ s.live
        · exact .inl ⟨b, hl, (Trace.mem_of_latest? hb).2⟩
        by_cases hd : tr.Dropped b
        · exact .inr ⟨b, rfl, hd⟩
        obtain ⟨result, -, hg⟩ := hended b hb hl hd
        have := result.state_isTerminal
        rw [← hg, hr] at this
        cases this
    · rintro (⟨b, hb, rfl⟩ | ⟨b, hb, hd⟩)
      · exact h.running_of_live hb
      · exact h.running p b hb (.inr hd)
  · rw [← Trace.latest?_eq_none_iff]
    refine ⟨fun hu => ?_, h.unknown p⟩
    cases hb : tr.latest? p with
    | none => rfl
    | some b =>
      by_cases hl : b ∈ s.live ∨ tr.Dropped b
      · rw [h.running p b hb hl] at hu
        cases hu
      · obtain ⟨result, -, hg⟩ := hended b hb (fun hc => hl (.inl hc)) (fun hc => hl (.inr hc))
        have := result.state_isTerminal
        rw [← hg, hu] at this
        cases this
  · intro b hb hl hd
    obtain ⟨result, hr, hg⟩ := hended b hb hl hd
    refine ⟨result, hr, h.accounted.recorded b result hr, ?_⟩
    rw [hg]
    match result with
    | .ok .success => simp [BuildResult.state]
    | .ok .stuck => simp [BuildResult.state]
    | .ok (.failed _) => simp [BuildResult.state]
    | .ok .cancelled => simp [BuildResult.state]
    | .error _ => simp [BuildResult.state]

end Dispatcher

end BuildService
