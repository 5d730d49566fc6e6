import BuildService.Proofs.Live
/-!
Permits: none is lost, none is made, and each stands where its build's stage says.

The line of a service is everybody who has asked for a permit and not given it up
again. `Allotted` says that the stage of a build tells where it stands: a build
whose tool has been called holds a permit, one that is asking stands in the line,
and no other build does. Whatever happens moves one build into the line or out of
it, and nobody else moves in it. Hence the number of permits is the same at every
moment, and who holds one can be told from the stages alone.
-/

set_option autoImplicit false

namespace BuildService

/-- Whether a build stands in the line of permits where its stage wants it. -/
def Permits.Suits (p : Permits) (t : Task) : Prop :=
  match t.stage with
  | .arrived | .opened _ | .leaving _ => t.build.id ∉ p.line
  | .asking _ => t.build.id ∈ p.line
  | .running _ | .closed _ => t.build.id ∈ p.holders

namespace Permits

variable {p p' : Permits} {t : Task}

/-- Who holds a permit stands in the line. -/
theorem mem_line_of_mem_holders {id : BuildId} (h : id ∈ p.holders) : id ∈ p.line :=
  List.mem_append_left _ h

/-- A build suits other permits as well if it keeps its place in the line and its permit. -/
theorem Suits.of_kept (h : p.Suits t) (hl : t.build.id ∈ p'.line ↔ t.build.id ∈ p.line)
    (hh : t.build.id ∈ p.holders → t.build.id ∈ p'.holders) : p'.Suits t := by
  unfold Suits at h ⊢
  split at h <;> simp_all

theorem Suits.acquire (h : p.Suits t) {id : BuildId} (hne : t.build.id ≠ id) :
    (p.acquire id).Suits t := by
  refine h.of_kept ?_ mem_holders_acquire
  rw [line_acquire, List.mem_append, List.mem_singleton]
  exact or_iff_left hne

theorem Suits.release (h : p.Suits t) {id : BuildId} (hid : id ∈ p.holders)
    (hne : t.build.id ≠ id) : (p.release id).Suits t := by
  refine h.of_kept ?_ fun hh => mem_holders_release hh hne
  rw [line_release hid]
  exact List.mem_erase_of_ne hne

theorem Suits.giveUp (h : p.Suits t) {id : BuildId} (hne : t.build.id ≠ id) :
    (p.giveUp id).Suits t := by
  refine h.of_kept ?_ fun hh => mem_holders_giveUp hh hne
  rw [line_giveUp]
  exact List.mem_erase_of_ne hne

end Permits

namespace Dispatcher

/-! ## Where builds stand -/

/-- What a step does to the permits: a build asks for one, gives one back, or gives up its place,
or they stay as they are. -/
theorem Step.permits {s s' : Dispatcher} {e : Happening} (hs : Step s e s') :
    s'.permits = s.permits ∨
      (∃ b sink, s.task? b.id = some ⟨b, .opened sink⟩ ∧ e.build? = some b ∧
        s'.permits = s.permits.acquire b.id) ∨
      (∃ b result, s.task? b.id = some ⟨b, .closed result⟩ ∧ e.build? = some b ∧
        s'.permits = s.permits.release b.id) ∨
      ∃ b stage heir, s.task? b.id = some ⟨b, stage⟩ ∧ e = .dropped b stage heir ∧
        s'.permits = s.permits.giveUp b.id := by
  cases hs with
  | granted hb _ => exact .inr (.inl ⟨_, _, hb, rfl, rfl⟩)
  | queued hb _ => exact .inr (.inl ⟨_, _, hb, rfl, rfl⟩)
  | released hb => exact .inr (.inr (.inl ⟨_, _, hb, rfl, rfl⟩))
  | dropped hb _ _ => exact .inr (.inr (.inr ⟨_, _, _, hb, rfl, rfl⟩))
  | _ => exact .inl rfl

/-- The permits of a service, of which there are `n`, and the stages of its builds fit together. -/
structure Allotted (n : Nat) (s : Dispatcher) (tr : Trace) : Prop where
  rooted : Rooted s tr
  total : s.permits.total = n
  line : s.permits.line.Nodup
  suits : ∀ t ∈ s.tasks, s.permits.Suits t
  live : ∀ id ∈ s.permits.line, id ∈ s.live.map (·.id)

namespace Allotted

variable {n : Nat} {s s' : Dispatcher} {tr : Trace} {e : Happening}

/-- What stands under a number suits the permits. -/
theorem suits_of_task? (h : Allotted n s tr) {b : Build} {stage : Stage}
    (hb : s.task? b.id = some ⟨b, stage⟩) : s.permits.Suits ⟨b, stage⟩ :=
  h.suits _ (mem_of_task? hb)

/-- A build to which nothing happens still suits the permits. -/
theorem suits_other (h : Allotted n s tr) (hs : Step s e s') {t : Task} (ht : t ∈ s.tasks)
    (hne : e.build? ≠ some t.build) : s'.permits.Suits t := by
  have suits := h.suits t ht
  -- The line knows numbers only, and two live builds with one number are one build.
  have other : ∀ {b : Build} {stage : Stage}, s.task? b.id = some ⟨b, stage⟩ →
      e.build? = some b → t.build.id ≠ b.id := by
    intro b stage hb he hid
    have htb := (task?_eq_some_iff h.rooted.numbered).2 ⟨ht, hid⟩
    rw [hb] at htb
    obtain rfl := Option.some.inj htb
    exact hne he
  rcases hs.permits with hp | ⟨b, sink, hb, he, hp⟩ | ⟨b, result, hb, he, hp⟩ |
    ⟨b, stage, heir, hb, rfl, hp⟩
  · rwa [hp]
  · rw [hp]
    exact suits.acquire (other hb he)
  · rw [hp]
    exact suits.release (h.suits_of_task? hb) (other hb he)
  · rw [hp]
    exact suits.giveUp (other hb rfl)

/-- The build that moves on suits the permits at its next stage. -/
theorem suits_next (h : Allotted n s tr) (hs : Step s e s') {b : Build} {stage stage' : Stage}
    (hmem : ⟨b, stage⟩ ∈ s.tasks) (hb : e.build? = some b) (hnext : Next stage e stage') :
    s'.permits.Suits ⟨b, stage'⟩ := by
  have suits := h.suits _ hmem
  cases hs with
  | admitted => cases hnext
  | recorded => cases hnext
  | dropped => cases hnext
  | stopped => cases hnext
  | called _ hp =>
    obtain rfl := Option.some.inj hb
    cases hnext
    exact hp
  | released ht =>
    obtain rfl := Option.some.inj hb
    cases hnext
    have hid := h.suits_of_task? ht
    -- It stood in the line once, so it is out of it now.
    simp only [Permits.Suits, permits_setStage, Permits.line_release hid]
    exact h.line.not_mem_erase
  | granted _ _ =>
    obtain rfl := Option.some.inj hb
    cases hnext
    simp [Permits.Suits, Permits.line_acquire]
  | queued _ _ =>
    obtain rfl := Option.some.inj hb
    cases hnext
    simp [Permits.Suits, Permits.line_acquire]
  | _ =>
    cases hnext
    exact suits

/-- Who is in the line after a step was live before it: it was in the line, or has just asked. -/
theorem mem_line (h : Allotted n s tr) (hs : Step s e s') {id : BuildId}
    (hid : id ∈ s'.permits.line) : ∃ t ∈ s.tasks, t.build.id = id := by
  have before : ∀ {id}, id ∈ s.permits.line → ∃ t ∈ s.tasks, t.build.id = id := by
    intro id hid
    obtain ⟨b, hb, rfl⟩ := List.mem_map.1 (h.live id hid)
    obtain ⟨t, ht, rfl⟩ := List.mem_map.1 hb
    exact ⟨t, ht, rfl⟩
  rcases hs.permits with hp | ⟨b, sink, hb, -, hp⟩ | ⟨b, result, hb, -, hp⟩ |
    ⟨b, stage, heir, -, -, hp⟩ <;> rw [hp] at hid
  · exact before hid
  · rw [Permits.line_acquire, List.mem_append, List.mem_singleton] at hid
    rcases hid with hid | rfl
    · exact before hid
    · exact ⟨_, mem_of_task? hb, rfl⟩
  · rw [Permits.line_release (h.suits_of_task? hb)] at hid
    exact before (List.mem_of_mem_erase hid)
  · rw [Permits.line_giveUp] at hid
    exact before (List.mem_of_mem_erase hid)

/-- Everybody in the line is still live. -/
theorem live_step (h : Allotted n s tr) (hs : Step s e s') :
    ∀ id ∈ s'.permits.line, id ∈ s'.live.map (·.id) := by
  intro id hid
  have hn := h.rooted.numbered
  obtain ⟨⟨b, stage⟩, ht, rfl⟩ := h.mem_line hs hid
  have stays : ∀ {stage'}, ⟨b, stage'⟩ ∈ s'.tasks → b.id ∈ s'.live.map (·.id) := fun hmem =>
    List.mem_map_of_mem (List.mem_map_of_mem hmem)
  by_cases he : e.build? = some b
  · rcases hs.exists_next hn ht he with ⟨stage', -, hmem⟩ | ⟨result, rfl, rfl⟩ | ⟨heir, rfl⟩
    · exact stays hmem
    · -- Who leaves has given its permit back, so it is not in the line.
      cases hs with
      | recorded _ => exact absurd hid (h.suits _ ht)
    · -- Who gives up its place has it no more.
      cases hs with
      | dropped _ _ _ =>
        rw [permits_dismiss, Permits.line_giveUp] at hid
        exact absurd hid h.line.not_mem_erase
  · exact stays (hs.mem_tasks_of_ne hn ht he)

theorem total_step (h : Allotted n s tr) (hs : Step s e s') : s'.permits.total = n := by
  rcases hs.permits with hp | ⟨b, sink, -, -, hp⟩ | ⟨b, result, hb, -, hp⟩ |
    ⟨b, stage, heir, -, -, hp⟩
  · rw [hp, h.total]
  · rw [hp, Permits.total_acquire, h.total]
  · rw [hp, Permits.total_release (h.suits_of_task? hb), h.total]
  · rw [hp, Permits.total_giveUp, h.total]

/-- Nobody stands in the line twice. -/
theorem line_step (h : Allotted n s tr) (hs : Step s e s') : s'.permits.line.Nodup := by
  rcases hs.permits with hp | ⟨b, sink, hb, -, hp⟩ | ⟨b, result, hb, -, hp⟩ |
    ⟨b, stage, heir, -, -, hp⟩
  · rw [hp]
    exact h.line
  · rw [hp, Permits.line_acquire]
    refine List.nodup_append.2 ⟨h.line, List.nodup_singleton _, ?_⟩
    rintro i hi j hj rfl
    obtain rfl := List.mem_singleton.1 hj
    exact h.suits_of_task? hb hi
  · rw [hp, Permits.line_release (h.suits_of_task? hb)]
    exact h.line.erase _
  · rw [hp, Permits.line_giveUp]
    exact h.line.erase _

theorem step (h : Allotted n s tr) (hs : Step s e s') : Allotted n s' (tr ++ [e]) := by
  refine ⟨h.rooted.step hs, h.total_step hs, h.line_step hs, ?_, h.live_step hs⟩
  intro t ht
  rcases hs.mem_tasks h.rooted.numbered ht with ⟨hmem, hother⟩ | ⟨stage, hmem, hb, hnext⟩ |
    ⟨rfl, hid, harr⟩
  · exact h.suits_other hs hmem hother
  · exact h.suits_next hs hmem hb hnext
  · cases hs with
    | admitted _ _ =>
      simp only [Permits.Suits, harr]
      -- Everybody in the line is live, and no live build has the next number.
      intro hline
      obtain ⟨c, hc, he⟩ := List.mem_map.1 (h.live _ hline)
      exact Nat.lt_irrefl _ (hid ▸ he ▸ h.rooted.numbered.below c hc)

end Allotted

/-- In every run permits and stages fit together. -/
theorem allotted (settings : Settings) (registry : Registry) (disk : Disk) (moves : List Move) :
    Allotted settings.maxBuilds ((start settings registry disk).applyAll moves)
      ((start settings registry disk).trace moves) := by
  refine run_induction ?_ (fun _ _ _ _ h hs => h.step hs) moves
  exact ⟨rooted settings registry disk [], by simp [start, Permits.start, Permits.total],
    by simp [start, Permits.start, Permits.line], by simp [start],
    by simp [start, Permits.start, Permits.line]⟩

end Dispatcher

end BuildService
