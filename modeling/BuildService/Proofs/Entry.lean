import BuildService.Proofs.Turns
/-!
Who holds permits, who runs, and who enters the tool.

`Turns` is about permits. A build that was handed one still has to call its tool,
and other moves may come in between; so what is said here of calls is said of
settled states, in which everybody who holds a permit has used it, and of runs in
which permits are used in the order in which they were handed out
(`Trace.CallsInTurn`). Which runs these are is another matter: not all of them.
-/

set_option autoImplicit false

namespace BuildService

/-! ## Order in lists without repetitions -/

namespace Trace

end Trace

namespace Dispatcher

variable {n : Nat} {s s' : Dispatcher} {tr : Trace} {e : Happening}

/-! ## Calls -/

/-- What the trace says of those who call their tools. -/
structure Entries (n : Nat) (s : Dispatcher) (tr : Trace) : Prop where
  turns : Turns n s tr
  /-- Who has not come so far has not called its tool. -/
  uncalled : ∀ t ∈ s.tasks, t.stage.isEarly = true ∨ t.stage.isAsking = true →
    t.build.id ∉ tr.called
  /-- Who waited and has neither called its tool nor been given up is still asking. -/
  asking : ∀ id ∈ tr.waited, id ∉ tr.givenUp → id ∉ tr.called →
    ∃ t ∈ s.tasks, t.build.id = id ∧ t.stage.isAsking = true
  /-- Who waited was handed the permit with which it called its tool. -/
  handed : ∀ id ∈ tr.called, id ∈ tr.waited → id ∈ tr.handed

/-- A build that has still not called its tool does not call it. -/
theorem Next.called?_eq_none {stage stage' : Stage} (h : Next stage e stage')
    (he : stage'.isEarly = true ∨ stage'.isAsking = true) :
    (stage.isEarly = true ∨ stage.isAsking = true) ∧ e.called? = none := by
  cases h <;> simp_all [Stage.isEarly, Stage.isAsking, Happening.called?]

/-- A build that asks for a permit leaves this stage by calling its tool. -/
theorem Next.called?_eq_some {b : Build} {stage stage' : Stage} (h : Next stage e stage')
    (ha : stage.isAsking = true) (hb : e.build? = some b) : e.called? = some b.id := by
  cases h <;> simp_all [Stage.isAsking, Happening.called?, Happening.build?]

namespace Entries

theorem uncalled_step (h : Entries n s tr) (hs : Step s e s') :
    ∀ t ∈ s'.tasks, t.stage.isEarly = true ∨ t.stage.isAsking = true →
      t.build.id ∉ Trace.called (tr ++ [e]) := by
  intro t ht hstage
  rw [Trace.called_append, List.mem_append, not_or, Option.mem_toList]
  have hr := h.turns.allotted.rooted
  rcases hs.mem_tasks hr.numbered ht with ⟨hmem, hother⟩ | ⟨stage, hmem, -, hnext⟩ |
    ⟨rfl, hnew, -⟩
  · refine ⟨h.uncalled t hmem hstage, fun hq => hother ?_⟩
    obtain ⟨b, hb, hid⟩ := Happening.build?_of_called? hq
    rw [hb, hs.build_eq_of_id hr.numbered hb hmem hid]
  · obtain ⟨hbefore, hq⟩ := hnext.called?_eq_none hstage
    exact ⟨h.uncalled ⟨t.build, stage⟩ hmem hbefore, by simp [hq]⟩
  · exact ⟨fun hc => Nat.lt_irrefl _ (hnew ▸ hr.called_below _ hc), by simp [Happening.called?]⟩

theorem asking_step (h : Entries n s tr) (hs : Step s e s') :
    ∀ id ∈ Trace.waited (tr ++ [e]), id ∉ Trace.givenUp (tr ++ [e]) →
      id ∉ Trace.called (tr ++ [e]) →
      ∃ t ∈ s'.tasks, t.build.id = id ∧ t.stage.isAsking = true := by
  intro id hw hg hc
  rw [Trace.waited_append, List.mem_append, Option.mem_toList] at hw
  rw [Trace.givenUp_append, List.mem_append, not_or, Option.mem_toList] at hg
  rw [Trace.called_append, List.mem_append, not_or, Option.mem_toList] at hc
  have hn := h.turns.allotted.rooted.numbered
  rcases hw with hw | hw
  · obtain ⟨⟨b, stage⟩, ht, rfl, ha⟩ := h.asking id hw hg.1 hc.1
    by_cases hb : e.build? = some b
    · rcases hs.exists_next hn ht hb with ⟨stage', hnext, -⟩ | ⟨result, -, rfl⟩ | ⟨heir, rfl⟩
      · exact absurd (hnext.called?_eq_some ha hb) hc.2
      · cases ha
      · exact absurd rfl hg.2
    · exact ⟨⟨b, stage⟩, hs.mem_tasks_of_ne hn ht hb, rfl, ha⟩
  · cases hs with
    | @queued b sink hb _ =>
      obtain rfl := Option.some.inj hw
      exact ⟨⟨b, .asking sink⟩, (mem_tasks_setStage hn hb).2 (.inr rfl), rfl, rfl⟩
    | _ => cases hw

/-- Who calls its tool after it waited was handed its permit. -/
theorem handed_of_called (h : Entries n s tr) {b : Build} {sink : LogSink}
    (hb : s.task? b.id = some ⟨b, .asking sink⟩) (hp : b.id ∈ s.permits.holders)
    (hw : b.id ∈ tr.waited) : b.id ∈ tr.handed := by
  have hg : b.id ∉ tr.givenUp := fun hg =>
    h.turns.gone _ hg (List.mem_map_of_mem (mem_live_of_task? hb))
  rcases List.mem_append.1 (h.turns.mem_of_waited hw hg) with hh | hq
  · exact hh
  · exact absurd hp (h.turns.allotted.waits_of_mem_queue hq).1

theorem handed_step (h : Entries n s tr) (hs : Step s e s') :
    ∀ id ∈ Trace.called (tr ++ [e]), id ∈ Trace.waited (tr ++ [e]) →
      id ∈ Trace.handed (tr ++ [e]) := by
  intro id hc hw
  rw [Trace.called_append, List.mem_append, Option.mem_toList] at hc
  rw [Trace.waited_append, List.mem_append, Option.mem_toList] at hw
  rw [Trace.handed_append, List.mem_append]
  refine .inl ?_
  rcases hc with hc | hc
  · rcases hw with hw | hw
    · exact h.handed id hc hw
    · cases hs with
      | queued hb _ =>
        obtain rfl := Option.some.inj hw
        exact absurd hc (h.uncalled _ (mem_of_task? hb) (.inl rfl))
      | _ => cases hw
  · cases hs with
    | called hb hp =>
      obtain rfl := Option.some.inj hc
      exact h.handed_of_called hb hp (hw.resolve_right (by simp [Happening.queued?]))
    | _ => cases hc

theorem step (h : Entries n s tr) (hs : Step s e s') : Entries n s' (tr ++ [e]) :=
  ⟨h.turns.step hs, h.uncalled_step hs, h.asking_step hs, h.handed_step hs⟩

end Entries

/-- In every run the calls fit the turns. -/
theorem entries (settings : Settings) (registry : Registry) (disk : Disk) (moves : List Move) :
    Entries settings.maxBuilds ((start settings registry disk).applyAll moves)
      ((start settings registry disk).trace moves) := by
  refine run_induction ?_ (fun _ _ _ _ h hs => h.step hs) moves
  exact ⟨turns settings registry disk [], by simp [start], by simp [Trace.waited],
    by simp [Trace.called]⟩

/-! ## Calls in turn -/

namespace Ordered

end Ordered

namespace Allotted

/-- Permits are held by live builds, each by one. -/
theorem length_holders (h : Allotted n s tr) :
    (s.tasks.filter s.holds).length = s.permits.holders.length := by
  have hids := h.rooted.numbered.nodup_tasks.sublist
    ((List.filter_sublist (p := s.holds)).map fun t : Task => t.build.id)
  have hperm : ((s.tasks.filter s.holds).map (·.build.id)).Perm s.permits.holders := by
    refine (List.perm_ext_iff_of_nodup hids h.line.of_append_left).2 fun id => ?_
    simp only [List.mem_map, List.mem_filter, holds, decide_eq_true_eq]
    constructor
    · rintro ⟨t, ⟨-, hh⟩, rfl⟩
      exact hh
    · intro hh
      obtain ⟨b, hb, rfl⟩ := List.mem_map.1 (h.live id (Permits.mem_line_of_mem_holders hh))
      obtain ⟨t, ht, rfl⟩ := List.mem_map.1 hb
      exact ⟨t, ⟨ht, hh⟩, rfl⟩
  rw [← hperm.length_eq, List.length_map]

/-- Who runs holds a permit. -/
theorem holds_of_isRunning (h : Allotted n s tr) {t : Task} (ht : t ∈ s.tasks)
    (hr : t.stage.isRunning = true) : s.holds t = true := by
  obtain ⟨b, stage⟩ := t
  have hs := h.suits _ ht
  cases stage with
  | running sink => exact decide_eq_true hs
  | _ => cases hr

/-- Who asks for a permit and holds none stands in the queue. -/
theorem mem_queue_iff (h : Allotted n s tr) {id : BuildId} :
    id ∈ s.permits.queue ↔ ∃ t ∈ s.tasks, t.build.id = id ∧ s.waits t = true := by
  constructor
  · intro hid
    obtain ⟨hh, t, ht, rfl, ha⟩ := h.waits_of_mem_queue hid
    exact ⟨t, ht, rfl, by simp [waits, holds, ha, hh]⟩
  · rintro ⟨⟨b, stage⟩, ht, rfl, hw⟩
    obtain ⟨ha, hh⟩ : stage.isAsking = true ∧ b.id ∉ s.permits.holders := by
      simpa [waits, holds] using hw
    have hs := h.suits _ ht
    cases stage with
    | asking sink => exact (List.mem_append.1 hs).resolve_left hh
    | _ => cases ha

/-- In a settled state those who hold permits are those who run. -/
theorem holds_eq_isRunning (h : Allotted n s tr) (hset : s.isSettled = true) :
    ∀ t ∈ s.tasks, s.holds t = t.stage.isRunning := by
  intro t ht
  have hblocked : s.isBlocked t = true := List.all_eq_true.1 hset t ht
  cases hr : t.stage.isRunning with
  | true => exact h.holds_of_isRunning ht hr
  | false =>
    simp only [isBlocked, hr, Bool.false_or, waits, Bool.and_eq_true, Bool.not_eq_true'] at hblocked
    exact hblocked.2

/-- In a settled state nobody waits while a permit is not in use. -/
theorem busy (h : Allotted n s tr) (hset : s.isSettled = true)
    (hw : ∃ t ∈ s.tasks, s.waits t = true) :
    (s.tasks.filter (·.stage.isRunning)).length = n := by
  obtain ⟨t, ht, hw⟩ := hw
  have hfree : s.permits.free = 0 :=
    Permits.free_eq_zero_of_mem_queue (h.mem_queue_iff.2 ⟨t, ht, rfl, hw⟩)
  have htotal := h.total
  rw [Permits.total, hfree, Nat.zero_add] at htotal
  rw [← List.filter_congr (h.holds_eq_isRunning hset), h.length_holders, htotal]

end Allotted

end Dispatcher

end BuildService
