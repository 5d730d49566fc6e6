import BuildService.Proofs.Admission
/-!
The order of turns: permits are handed to those who wait in the order in which
they began to wait.

The statement is about the trace. `waited` lists the builds that had to wait, in
the order in which they began; `handed` those that were handed a permit by
another one; `givenUp` those that were given up. Without the builds that gave up
their place, those that waited are those that were handed a permit, in this
order, and after them those that still wait (`Turns.turns`). The queue alone
would not do as an invariant, since it forgets who has left it.
-/

set_option autoImplicit false

namespace BuildService

namespace Happening

/-- The build that begins to wait. -/
def queued? : Happening → Option BuildId
  | .queued b => some b.id
  | _ => none

/-- The build that is handed the permit of another one. -/
def heir? : Happening → Option BuildId
  | .released _ heir => heir
  | .dropped _ _ heir => heir
  | _ => none

/-- The build whose tool is called. -/
def called? : Happening → Option BuildId
  | .called b => some b.id
  | _ => none

/-- The build that is given up. -/
def givenUp? : Happening → Option BuildId
  | .dropped b _ _ => some b.id
  | _ => none

theorem build?_of_queued? {e : Happening} {id : BuildId} (h : e.queued? = some id) :
    ∃ b, e.build? = some b ∧ b.id = id := by
  cases e with
  | queued b => exact ⟨b, rfl, Option.some.inj h⟩
  | _ => cases h

theorem build?_of_called? {e : Happening} {id : BuildId} (h : e.called? = some id) :
    ∃ b, e.build? = some b ∧ b.id = id := by
  cases e with
  | called b => exact ⟨b, rfl, Option.some.inj h⟩
  | _ => cases h

theorem build?_of_givenUp? {e : Happening} {id : BuildId} (h : e.givenUp? = some id) :
    ∃ b, e.build? = some b ∧ b.id = id := by
  cases e with
  | dropped b _ _ => exact ⟨b, rfl, Option.some.inj h⟩
  | _ => cases h

end Happening

namespace Trace

/-- The builds that began to wait for a permit, in order. -/
def waited (tr : Trace) : List BuildId := tr.filterMap Happening.queued?

/-- The builds that were handed a permit while they waited, in order. -/
def handed (tr : Trace) : List BuildId := tr.filterMap Happening.heir?

/-- The builds whose tool was called, in order. -/
def called (tr : Trace) : List BuildId := tr.filterMap Happening.called?

/-- The builds that were given up, in order. -/
def givenUp (tr : Trace) : List BuildId := tr.filterMap Happening.givenUp?

theorem waited_append (tr : Trace) (e : Happening) :
    waited (tr ++ [e]) = tr.waited ++ e.queued?.toList := filterMap_append_one _ tr e

theorem handed_append (tr : Trace) (e : Happening) :
    handed (tr ++ [e]) = tr.handed ++ e.heir?.toList := filterMap_append_one _ tr e

theorem called_append (tr : Trace) (e : Happening) :
    called (tr ++ [e]) = tr.called ++ e.called?.toList := filterMap_append_one _ tr e

theorem givenUp_append (tr : Trace) (e : Happening) :
    givenUp (tr ++ [e]) = tr.givenUp ++ e.givenUp?.toList := filterMap_append_one _ tr e

/-- Whether a build was handed a permit or has not been given up. -/
def Served (tr : Trace) (id : BuildId) : Bool := id ∈ tr.handed ∨ id ∉ tr.givenUp

end Trace

/-- Whether a build has not asked for a permit yet. -/
def Stage.isEarly : Stage → Bool
  | arrived | opened _ => true
  | _ => false

namespace Dispatcher

variable {n : Nat} {s s' : Dispatcher} {tr : Trace} {e : Happening}

/-! ## Numbers in the trace -/

/-- The builds that a trace lists in some way have numbers that have been given. -/
theorem Rooted.below_of_mem_filterMap (h : Rooted s tr) {f : Happening → Option BuildId}
    (hf : ∀ e id, f e = some id → ∃ b, e.build? = some b ∧ b.id = id) {id : BuildId}
    (hid : id ∈ tr.filterMap f) : id < s.nextId := by
  obtain ⟨e, he, hfe⟩ := List.mem_filterMap.1 hid
  obtain ⟨b, hb, rfl⟩ := hf e id hfe
  exact h.below b (h.mentioned e he b hb)

theorem Rooted.waited_below (h : Rooted s tr) : ∀ id ∈ tr.waited, id < s.nextId := fun _ hid =>
  h.below_of_mem_filterMap (fun _ _ => Happening.build?_of_queued?) hid

theorem Rooted.called_below (h : Rooted s tr) : ∀ id ∈ tr.called, id < s.nextId := fun _ hid =>
  h.below_of_mem_filterMap (fun _ _ => Happening.build?_of_called?) hid

theorem Rooted.givenUp_below (h : Rooted s tr) : ∀ id ∈ tr.givenUp, id < s.nextId := fun _ hid =>
  h.below_of_mem_filterMap (fun _ _ => Happening.build?_of_givenUp?) hid

/-! ## What a step does to the queue -/

/-- Who waits is asking for a permit and holds none. -/
theorem Allotted.waits_of_mem_queue (h : Allotted n s tr) {id : BuildId}
    (hid : id ∈ s.permits.queue) :
    id ∉ s.permits.holders ∧ ∃ t ∈ s.tasks, t.build.id = id ∧ t.stage.isAsking = true := by
  have hline : id ∈ s.permits.line := List.mem_append_right _ hid
  have hfree : id ∉ s.permits.holders := fun hh => List.disjoint_of_nodup_append h.line hh hid
  obtain ⟨b, hb, rfl⟩ := List.mem_map.1 (h.live id hline)
  obtain ⟨t, ht, rfl⟩ := List.mem_map.1 hb
  refine ⟨hfree, t, ht, rfl, ?_⟩
  -- Of the stages of a live build only one has it in the line without a permit.
  have hs := h.suits t ht
  unfold Permits.Suits at hs
  split at hs
  · exact absurd hline hs
  · exact absurd hline hs
  · exact absurd hline hs
  · rename_i hst
    simp [hst, Stage.isAsking]
  · exact absurd hs hfree
  · exact absurd hs hfree

/-- The queue loses its first build to a permit that comes back, and gets those that begin to wait
at its end. Besides, a build that waits may be given up. -/
theorem Step.queue (hs : Step s e s') :
    (e.heir?.toList ++ s'.permits.queue = s.permits.queue ++ e.queued?.toList ∧
      ∀ id, e.givenUp? = some id → id ∈ s.permits.holders) ∨
    ∃ id, e.givenUp? = some id ∧ e.heir? = none ∧ e.queued? = none ∧
      s'.permits.queue = s.permits.queue.erase id := by
  cases hs with
  | granted _ hf =>
    refine .inl ⟨?_, by simp [Happening.givenUp?]⟩
    simp [Happening.heir?, Happening.queued?, Permits.queue_acquire, hf]
  | queued _ hf =>
    refine .inl ⟨?_, by simp [Happening.givenUp?]⟩
    simp [Happening.heir?, Happening.queued?, Permits.queue_acquire, hf]
  | released _ =>
    refine .inl ⟨?_, by simp [Happening.givenUp?]⟩
    simp [Happening.heir?, Happening.queued?, Permits.queue_release]
  | @dropped b _ _ _ _ =>
    by_cases hh : b.id ∈ s.permits.holders
    · refine .inl ⟨?_, by simp [Happening.givenUp?, hh]⟩
      simp [Happening.heir?, Happening.queued?, hh, Permits.queue_giveUp_of_mem hh]
    · refine .inr ⟨b.id, rfl, by simp [Happening.heir?, hh], rfl, ?_⟩
      exact Permits.queue_giveUp_of_not_mem hh
  | stopped => exact .inl ⟨by simp [Happening.heir?, Happening.queued?, stop],
      by simp [Happening.givenUp?]⟩
  | _ => exact .inl ⟨by simp [Happening.heir?, Happening.queued?], by simp [Happening.givenUp?]⟩

/-- A build that has still not asked does not begin to wait. -/
theorem Next.queued?_eq_none {stage stage' : Stage} (h : Next stage e stage')
    (he : stage'.isEarly = true) : stage.isEarly = true ∧ e.queued? = none := by
  cases h <;> simp_all [Stage.isEarly, Happening.queued?]

/-! ## The order of turns -/

/-- What the trace says of those who wait. -/
structure Turns (n : Nat) (s : Dispatcher) (tr : Trace) : Prop where
  allotted : Allotted n s tr
  /-- Who was given up is not live. -/
  gone : ∀ id ∈ tr.givenUp, id ∉ s.live.map (·.id)
  /-- Who has not asked has not begun to wait. -/
  early : ∀ t ∈ s.tasks, t.stage.isEarly = true → t.build.id ∉ tr.waited
  nodup : tr.waited.Nodup
  turns : tr.waited.filter tr.Served = tr.handed ++ s.permits.queue

namespace Turns

/-- Those who were handed a permit and those who wait are all different. -/
theorem nodup_handed_queue (h : Turns n s tr) : (tr.handed ++ s.permits.queue).Nodup :=
  h.turns ▸ h.nodup.filter _

/-- Who was handed a permit had waited for it. -/
theorem waited_of_handed (h : Turns n s tr) {id : BuildId} (hh : id ∈ tr.handed) :
    id ∈ tr.waited := by
  have hserved : id ∈ tr.waited.filter tr.Served := h.turns ▸ List.mem_append_left _ hh
  exact (List.mem_filter.1 hserved).1

/-- Who began to wait and was not given up was handed a permit or waits. -/
theorem mem_of_waited (h : Turns n s tr) {id : BuildId} (hw : id ∈ tr.waited)
    (hg : id ∉ tr.givenUp) : id ∈ tr.handed ++ s.permits.queue := by
  rw [← h.turns, List.mem_filter]
  exact ⟨hw, by simp [Trace.Served, hg]⟩

theorem gone_step (h : Turns n s tr) (hs : Step s e s') :
    ∀ id ∈ Trace.givenUp (tr ++ [e]), id ∉ s'.live.map (·.id) := by
  intro id hid hlive
  obtain ⟨b, hb, rfl⟩ := List.mem_map.1 hlive
  rw [Trace.givenUp_append, List.mem_append] at hid
  rcases hid with hid | hid
  · rcases hs.live_subset hb with hb | rfl
    · exact h.gone b.id hid (List.mem_map_of_mem hb)
    · cases hs with
      | admitted hnew _ =>
        exact Nat.lt_irrefl _ (hnew ▸ h.allotted.rooted.givenUp_below _ hid)
  · cases hs with
    | dropped _ _ _ =>
      rw [live_dismiss] at hb
      simp [Happening.givenUp?] at hid
      simp [hid] at hb
    | _ => simp [Happening.givenUp?] at hid

theorem early_step (h : Turns n s tr) (hs : Step s e s') :
    ∀ t ∈ s'.tasks, t.stage.isEarly = true → t.build.id ∉ Trace.waited (tr ++ [e]) := by
  intro t ht hearly
  rw [Trace.waited_append, List.mem_append, not_or, Option.mem_toList]
  have hn := h.allotted.rooted.numbered
  rcases hs.mem_tasks hn ht with ⟨hmem, hother⟩ | ⟨stage, hmem, hb, hnext⟩ | ⟨rfl, hnew, -⟩
  · refine ⟨h.early t hmem hearly, fun hq => hother ?_⟩
    obtain ⟨b, hb, hid⟩ := Happening.build?_of_queued? hq
    rw [hb, hs.build_eq_of_id hn hb hmem hid]
  · obtain ⟨hstage, hq⟩ := hnext.queued?_eq_none hearly
    exact ⟨h.early ⟨t.build, stage⟩ hmem hstage, by simp [hq]⟩
  · refine ⟨fun hw => ?_, by simp [Happening.queued?]⟩
    exact Nat.lt_irrefl _ (hnew ▸ h.allotted.rooted.waited_below _ hw)

/-- Who begins to wait has not waited before and has not been given up. -/
theorem fresh_of_queued? (h : Turns n s tr) (hs : Step s e s') {id : BuildId}
    (hq : e.queued? = some id) : id ∉ tr.waited ∧ id ∉ tr.givenUp := by
  cases hs with
  | queued hb _ =>
    obtain rfl := Option.some.inj hq
    exact ⟨h.early _ (mem_of_task? hb) rfl,
      fun hg => h.gone _ hg (List.mem_map_of_mem (mem_live_of_task? hb))⟩
  | _ => cases hq

theorem nodup_step (h : Turns n s tr) (hs : Step s e s') :
    (Trace.waited (tr ++ [e])).Nodup := by
  rw [Trace.waited_append]
  cases hq : e.queued? with
  | none => simpa using h.nodup
  | some id =>
    refine List.nodup_append.2 ⟨h.nodup, List.nodup_singleton _, ?_⟩
    rintro i hi j hj rfl
    obtain rfl := List.mem_singleton.1 hj
    exact (h.fresh_of_queued? hs hq).1 hi

/-- While nobody loses its place, those who waited and were served stay so. -/
theorem served_kept (h : Turns n s tr) (hs : Step s e s')
    (hqueue : e.heir?.toList ++ s'.permits.queue = s.permits.queue ++ e.queued?.toList)
    (hgiven : ∀ id, e.givenUp? = some id → id ∈ s.permits.holders) :
    ∀ id ∈ tr.waited, Trace.Served (tr ++ [e]) id = tr.Served id := by
  intro id hw
  rw [Bool.eq_iff_iff]
  simp only [Trace.Served, decide_eq_true_eq, Trace.handed_append, Trace.givenUp_append,
    List.mem_append, Option.mem_toList]
  constructor
  · rintro ((hh | hh) | hg)
    · exact .inl hh
    · -- the heir comes from the queue, and so it was not given up
      have hmem : id ∈ s.permits.queue ++ e.queued?.toList :=
        hqueue ▸ List.mem_append_left _ (Option.mem_toList.2 hh)
      rcases List.mem_append.1 hmem with hmem | hmem
      · have hserved : id ∈ tr.waited.filter tr.Served :=
          h.turns ▸ List.mem_append_right _ hmem
        simpa [Trace.Served] using (List.mem_filter.1 hserved).2
      · exact absurd hw (h.fresh_of_queued? hs (Option.mem_toList.1 hmem)).1
    · exact .inr fun hc => hg (.inl hc)
  · rintro (hh | hg)
    · exact .inl (.inl hh)
    · rcases List.mem_append.1 (h.mem_of_waited hw hg) with hh | hmem
      · exact .inl (.inl hh)
      · refine .inr ?_
        rintro (hc | hc)
        · exact hg hc
        · exact (h.allotted.waits_of_mem_queue hmem).1 (hgiven id hc)

theorem turns_step (h : Turns n s tr) (hs : Step s e s') :
    (Trace.waited (tr ++ [e])).filter (Trace.Served (tr ++ [e])) =
      Trace.handed (tr ++ [e]) ++ s'.permits.queue := by
  rcases hs.queue with ⟨hqueue, hgiven⟩ | ⟨id, hg, hh, hq, hqueue⟩
  -- Nobody loses a place: the front of the queue is handed on, and its end grows.
  · have hnew : e.queued?.toList.filter (Trace.Served (tr ++ [e])) = e.queued?.toList := by
      refine List.filter_eq_self.2 fun id hid => ?_
      have hq := Option.mem_toList.1 hid
      have hg : e.givenUp? = none := by
        cases e <;> simp [Happening.queued?, Happening.givenUp?] at hq ⊢
      simp [Trace.Served, Trace.givenUp_append, hg, (h.fresh_of_queued? hs hq).2]
    rw [Trace.waited_append, List.filter_append, hnew,
      List.filter_congr (h.served_kept hs hqueue hgiven), h.turns, Trace.handed_append,
      List.append_assoc, List.append_assoc, hqueue]
  -- One build gives up its place: it is served no more, and all others as before.
  · have hnodup := h.nodup_handed_queue
    have hlost : ∀ x, Trace.Served (tr ++ [e]) x =
        (decide (x ∈ tr.handed ∨ x ≠ id) && tr.Served x) := by
      intro x
      rw [Bool.eq_iff_iff]
      simp only [Trace.Served, Trace.handed_append, Trace.givenUp_append, hh, hg,
        Option.toList_none, Option.toList_some, List.append_nil, List.mem_append,
        List.mem_singleton, Bool.and_eq_true, decide_eq_true_eq]
      tauto
    rw [Trace.waited_append, hq, Option.toList_none, List.append_nil, List.filter_congr
      (fun x _ => hlost x), ← List.filter_filter, h.turns, List.filter_append, hqueue,
      Trace.handed_append, hh, Option.toList_none, List.append_nil]
    congr 1
    · exact List.filter_eq_self.2 fun x hx => by simp [hx]
    · rw [hnodup.of_append_right.erase_eq_filter]
      refine List.filter_congr fun x hx => ?_
      have hx' : x ∉ tr.handed := fun hc => List.disjoint_of_nodup_append hnodup hc hx
      rw [Bool.eq_iff_iff]
      simp [hx']

theorem step (h : Turns n s tr) (hs : Step s e s') : Turns n s' (tr ++ [e]) :=
  ⟨h.allotted.step hs, h.gone_step hs, h.early_step hs, h.nodup_step hs, h.turns_step hs⟩

end Turns

/-- In every run permits are handed in turn. -/
theorem turns (settings : Settings) (registry : Registry) (disk : Disk) (moves : List Move) :
    Turns settings.maxBuilds ((start settings registry disk).applyAll moves)
      ((start settings registry disk).trace moves) := by
  refine run_induction ?_ (fun _ _ _ _ h hs => h.step hs) moves
  exact ⟨allotted settings registry disk [], by simp [Trace.givenUp], by simp [start],
    by simp [Trace.waited], by simp [start, Permits.start, Trace.waited, Trace.handed]⟩

end Dispatcher

end BuildService
