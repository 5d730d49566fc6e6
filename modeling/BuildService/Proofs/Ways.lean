import BuildService.Proofs.Live
/-!
The way of one build, from its admission to the last thing that happens to it.

A trace tells of all builds at once. What it tells of one build (`Trace.own`) is a
way from stage to stage (`Way`), and the stage of a live build is the end of its way
so far. So whatever can happen to a build only at one stage happens at most once, and
of a build that has left what has happened to it is known up to its last happening
(`Followed`). It was recorded or given up, and there is no third way to leave.
-/

set_option autoImplicit false

namespace BuildService

/-- What has happened to a build, the first thing first. -/
def Trace.own (tr : Trace) (b : Build) : Trace := tr.filter (·.build? = some b)

theorem Trace.mem_own {tr : Trace} {b : Build} {e : Happening} (hb : e.build? = some b) :
    e ∈ tr.own b ↔ e ∈ tr := by
  simp [Trace.own, hb]

theorem Trace.own_append (tr : Trace) {b : Build} {e : Happening} (hb : e.build? = some b) :
    Trace.own (tr ++ [e]) b = tr.own b ++ [e] := by
  simp [Trace.own, hb]

theorem Trace.own_append_of_ne (tr : Trace) {b : Build} {e : Happening} (hb : e.build? ≠ some b) :
    Trace.own (tr ++ [e]) b = tr.own b := by
  simp [Trace.own, hb]

namespace Dispatcher

variable {s s' : Dispatcher} {tr past : Trace} {e : Happening} {b : Build} {stage : Stage}
  {result : BuildResult}

/-- What happens to a build on its way to a stage. -/
inductive Way (b : Build) : Trace → Stage → Prop
  | admitted : Way b [.admitted b] .arrived
  | next {past : Trace} {e : Happening} {stage stage' : Stage} (h : Way b past stage)
      (hb : e.build? = some b) (hn : Next stage e stage') : Way b (past ++ [e]) stage'

namespace Way

/-- Whatever happens on the way is the admission, or brings the build from one stage to another. -/
theorem of_mem (h : Way b past stage) (he : e ∈ past) :
    e = .admitted b ∨ ∃ stage stage', Next stage e stage' := by
  induction h with
  | admitted => exact .inl (List.mem_singleton.1 he)
  | next _ _ hn ih =>
    rcases List.mem_append.1 he with he | he
    · exact ih he
    · obtain rfl := List.mem_singleton.1 he
      exact .inr ⟨_, _, hn⟩

/-- Nobody is recorded on the way. -/
theorem not_recorded (h : Way b past stage) (result : BuildResult) : .recorded b result ∉ past := by
  intro he
  rcases h.of_mem he with heq | ⟨_, _, hn⟩
  · cases heq
  · cases hn

theorem of_arrived (h : Way b past .arrived) : past = [.admitted b] := by
  generalize hs : Stage.arrived = stage at h
  cases h with
  | admitted => rfl
  | next _ _ hn =>
    subst hs
    cases hn

/-- A build whose log could not be opened is at the end of its way. -/
theorem of_unopened {cause : IoFault} (h : Way b past stage) (hu : .unopened b cause ∈ past) :
    past = [.admitted b, .unopened b cause] ∧ stage = .leaving (.error (.io cause)) := by
  induction h with
  | admitted => cases List.mem_singleton.1 hu
  | @next past e stage stage' h _ hn ih =>
    rcases List.mem_append.1 hu with hu | hu
    · obtain ⟨-, rfl⟩ := ih hu
      cases hn
    · obtain rfl := List.mem_singleton.1 hu
      cases hn
      rw [h.of_arrived]
      exact ⟨rfl, rfl⟩

/-- A build whose tool has ended has the result of its tool from then on. -/
theorem of_closed (h : Way b past stage) (hc : .closed b result ∈ past) :
    stage.result? = some result := by
  induction h with
  | admitted => cases List.mem_singleton.1 hc
  | next _ _ hn ih =>
    rcases List.mem_append.1 hc with hc | hc
    · have hbefore := ih hc
      cases hn <;> first | exact hbefore | cases hbefore
    · obtain rfl := List.mem_singleton.1 hc
      cases hn
      rfl

/-- A build that has given its permit back has nothing left but to be recorded. -/
theorem of_released {heir : Option BuildId} (h : Way b past stage)
    (hr : .released b heir ∈ past) : ∃ result, stage = .leaving result := by
  induction h with
  | admitted => cases List.mem_singleton.1 hr
  | next _ _ hn ih =>
    rcases List.mem_append.1 hr with hr | hr
    · obtain ⟨result, rfl⟩ := ih hr
      cases hn
    · obtain rfl := List.mem_singleton.1 hr
      cases hn
      exact ⟨_, rfl⟩

end Way

/-- What has happened to live builds is their way to the stage they are at; what has happened to
those who have left is their way to the last stage and the recording, unless they were given up. -/
structure Followed (s : Dispatcher) (tr : Trace) : Prop where
  rooted : Rooted s tr
  live : ∀ t ∈ s.tasks, Way t.build (tr.own t.build) t.stage
  gone : ∀ b ∈ tr.admitted, b ∉ s.live → tr.Dropped b ∨
    ∃ past result, Way b past (.leaving result) ∧ tr.own b = past ++ [.recorded b result]

namespace Followed

theorem live_step (h : Followed s tr) (hs : Step s e s') :
    ∀ t ∈ s'.tasks, Way t.build (Trace.own (tr ++ [e]) t.build) t.stage := by
  intro t ht
  rcases hs.mem_tasks h.rooted.numbered ht with ⟨hmem, hother⟩ | ⟨stage, hmem, hb, hnext⟩ |
    ⟨rfl, hid, harr⟩
  · rw [Trace.own_append_of_ne tr hother]
    exact h.live t hmem
  · rw [Trace.own_append tr hb]
    exact .next (h.live ⟨t.build, stage⟩ hmem) hb hnext
  · have hunheard : tr.own t.build = [] :=
      List.filter_eq_nil_iff.2 fun e he => by simpa using (h.rooted.fresh hid).2 e he
    rw [Trace.own_append tr rfl, hunheard, harr]
    exact .admitted

theorem gone_step (h : Followed s tr) (hs : Step s e s') :
    ∀ b ∈ Trace.admitted (tr ++ [e]), b ∉ s'.live → Trace.Dropped (tr ++ [e]) b ∨
      ∃ past result, Way b past (.leaving result) ∧
        Trace.own (tr ++ [e]) b = past ++ [.recorded b result] := by
  intro b hb hgone
  have hn := h.rooted.numbered
  have hadmitted : b ∈ tr.admitted := by
    refine (Trace.mem_admitted_append.1 hb).resolve_right fun hnew => hgone ?_
    obtain rfl := List.mem_singleton.1 (Trace.mem_admitted.1 hnew)
    cases hs with
    | admitted => simp [Dispatcher.live]
  by_cases hl : b ∈ s.live
  · obtain ⟨⟨b, stage⟩, ht, rfl⟩ := List.mem_map.1 hl
    have gone : ∀ {stage'}, ⟨b, stage'⟩ ∉ s'.tasks := fun ht =>
      hgone (List.mem_map.2 ⟨_, ht, rfl⟩)
    -- Of what can happen to a live build, only two things make it leave.
    by_cases he : e.build? = some b
    · rcases hs.exists_next hn ht he with ⟨_, -, hmem⟩ | ⟨result, rfl, rfl⟩ | ⟨heir, rfl⟩
      · exact absurd hmem gone
      · exact .inr ⟨_, result, h.live _ ht, Trace.own_append tr rfl⟩
      · exact .inl ⟨stage, heir, List.mem_append_right _ List.mem_cons_self⟩
    · exact absurd (hs.mem_tasks_of_ne hn ht he) gone
  · have he : e.build? ≠ some b := by
      intro he
      rcases hs.mem_live he with hlive | ⟨-, hid⟩
      · exact hl hlive
      · exact (h.rooted.fresh hid).1 hadmitted
    rw [Trace.own_append_of_ne tr he]
    rcases h.gone b hadmitted hl with ⟨stage, heir, hd⟩ | hrecorded
    · exact .inl ⟨stage, heir, List.mem_append_left _ hd⟩
    · exact .inr hrecorded

theorem step (h : Followed s tr) (hs : Step s e s') : Followed s' (tr ++ [e]) :=
  ⟨h.rooted.step hs, h.live_step hs, h.gone_step hs⟩

/-- Where a build that was not given up can be: on its way to the last stage, or recorded. -/
theorem cases (h : Followed s tr) (hb : b ∈ tr.admitted) (hd : ¬tr.Dropped b) :
    (∃ stage, ⟨b, stage⟩ ∈ s.tasks ∧ Way b (tr.own b) stage) ∨
      b ∉ s.live ∧ ∃ past result, Way b past (.leaving result) ∧
        tr.own b = past ++ [.recorded b result] := by
  by_cases hl : b ∈ s.live
  · obtain ⟨t, ht, rfl⟩ := List.mem_map.1 hl
    exact .inl ⟨t.stage, ht, h.live t ht⟩
  · exact .inr ⟨hl, (h.gone b hb hl).resolve_left hd⟩

end Followed

/-- In every run each build goes its way. -/
theorem followed (settings : Settings) (registry : Registry) (disk : Disk) (moves : List Move) :
    Followed ((start settings registry disk).applyAll moves)
      ((start settings registry disk).trace moves) :=
  run_induction ⟨rooted settings registry disk [], by simp [start], by simp [Trace.admitted]⟩
    (fun _ _ _ _ h hs => h.step hs) moves

end Dispatcher

end BuildService
