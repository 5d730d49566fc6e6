import BuildService.Proofs.Entry
import Mathlib.Algebra.GroupWithZero.Nat
/-!
Builds come to an end: how far all of them have to go, and that one can always go
on.

A build has six stages. Every stage that it leaves behind is one thing that
happens to it, so the number of stages that all live builds have before them is
an account: an admission pays six in, a step of a build takes one out, and a
build that cannot open its log or is given up takes out what it had left
(`Step.ahead_add_lost`). Lines cost nothing, and how many a build writes is up to
its tool. So without further admissions not more than that number of things can
happen besides lines, in whatever order.

That a service never stands still with builds in it is the other half. A build
that can only wait for a permit waits for somebody who holds one, and who holds a
permit is about to call its tool, has a tool that runs, or is about to give the
permit back (`Allotted.canDrain`). Of all this only the end of a tool has
to come from outside.
-/

set_option autoImplicit false

namespace BuildService

namespace Happening

/-- The stages that are before a build when it is admitted. -/
def gained : Happening → Nat
  | .admitted _ => 6
  | _ => 0

/-- The stages that a build has no longer before it. -/
def lost : Happening → Nat
  | .admitted _ | .wrote _ _ | .refused _ _ _ | .stopped => 0
  | .unopened _ _ => 5
  | .dropped _ stage _ => stage.ahead
  | .opened _ | .granted _ | .queued _ | .called _ | .closed _ _ | .released _ _
  | .recorded _ _ => 1

/-- Whether a build has come nearer to its end. -/
def advances (e : Happening) : Bool := 0 < e.lost

/-- What brings a build nearer to its end admits none. -/
theorem gained_eq_zero_of_advances {e : Happening} (h : e.advances = true) : e.gained = 0 := by
  cases e with
  | admitted => cases h
  | _ => rfl

end Happening

theorem Stage.ahead_pos (stage : Stage) : 0 < stage.ahead := by
  cases stage <;> simp [ahead]

namespace Dispatcher

variable {n : Nat} {s s' : Dispatcher} {tr : Trace} {e : Happening}

/-! ## The account -/

theorem ahead_eq_sum (s : Dispatcher) : s.ahead = (s.tasks.map (·.stage.ahead)).sum := by
  rw [ahead]
  induction s.tasks with
  | nil => rfl
  | cons t ts ih => rw [List.foldr_cons, ih, List.map_cons, List.sum_cons]

/-- Nobody is live exactly if nobody has anything before it. -/
theorem ahead_eq_zero_iff : s.ahead = 0 ↔ s.tasks = [] := by
  rw [ahead_eq_sum]
  constructor
  · intro h
    cases ht : s.tasks with
    | nil => rfl
    | cons t ts =>
      have := t.stage.ahead_pos
      rw [ht, List.map_cons, List.sum_cons] at h
      omega
  · intro h
    rw [h]
    rfl

section

variable (hn : Numbered s) {b : Build} {stage : Stage} (hb : s.task? b.id = some ⟨b, stage⟩)
include hn hb

/-- The live builds, those before and those after one of them. -/
theorem exists_tasks_eq :
    ∃ before after, s.tasks = before ++ ⟨b, stage⟩ :: after ∧
      ∀ t ∈ before ++ after, t.build.id ≠ b.id := by
  obtain ⟨before, after, hsplit⟩ := List.append_of_mem (mem_of_task? hb)
  refine ⟨before, after, hsplit, fun t ht hid => ?_⟩
  have hnodup := hn.nodup_tasks
  rw [hsplit, List.map_append, List.map_cons] at hnodup
  refine (List.nodup_cons.1 (List.nodup_middle.1 hnodup)).1 ?_
  rw [← List.map_append]
  exact hid ▸ List.mem_map_of_mem ht

theorem ahead_setStage (stage' : Stage) :
    (s.setStage b.id stage').ahead + stage.ahead = s.ahead + stage'.ahead := by
  obtain ⟨before, after, hsplit, hother⟩ := exists_tasks_eq hn hb
  have kept : ∀ ts : List Task, (∀ t ∈ ts, t.build.id ≠ b.id) →
      (ts.map fun t => if t.build.id = b.id then { t with stage := stage' } else t) = ts := by
    intro ts hts
    conv_rhs => rw [← List.map_id ts]
    exact List.map_congr_left fun t ht => if_neg (hts t ht)
  have hset : (s.setStage b.id stage').tasks = before ++ ⟨b, stage'⟩ :: after := by
    simp only [setStage, hsplit, List.map_append, List.map_cons, if_true]
    rw [kept before fun t ht => hother t (List.mem_append_left _ ht),
      kept after fun t ht => hother t (List.mem_append_right _ ht)]
  rw [ahead_eq_sum, ahead_eq_sum, hset, hsplit]
  simp only [List.map_append, List.map_cons, List.sum_append, List.sum_cons]
  omega

theorem ahead_dismiss : (s.dismiss b.id).ahead + stage.ahead = s.ahead := by
  obtain ⟨before, after, hsplit, hother⟩ := exists_tasks_eq hn hb
  have kept : ∀ ts : List Task, (∀ t ∈ ts, t.build.id ≠ b.id) →
      ts.filter (·.build.id != b.id) = ts :=
    fun ts hts => List.filter_eq_self.2 fun t ht => by simpa using hts t ht
  have hrest : (s.dismiss b.id).tasks = before ++ after := by
    simp only [dismiss, hsplit, List.filter_append]
    rw [List.filter_cons_of_neg (by simp),
      kept before fun t ht => hother t (List.mem_append_left _ ht),
      kept after fun t ht => hother t (List.mem_append_right _ ht)]
  rw [ahead_eq_sum, ahead_eq_sum, hrest, hsplit]
  simp only [List.map_append, List.map_cons, List.sum_append, List.sum_cons]
  omega

end

/-- **The account of one step.** -/
theorem Step.ahead_add_lost (hn : Numbered s) (hs : Step s e s') :
    s'.ahead + e.lost = s.ahead + e.gained := by
  -- A build that goes on to the next stage, in a state with the same live builds.
  have moved : ∀ {b : Build} {stage stage' : Stage} {u : Dispatcher}, u.tasks = s.tasks →
      s.task? b.id = some ⟨b, stage⟩ →
      (u.setStage b.id stage').ahead + stage.ahead = s.ahead + stage'.ahead := by
    intro b stage stage' u hu hb
    have h := ahead_setStage hn hb stage'
    simpa only [ahead, setStage, hu] using h
  -- The stages that the build still has before it are on both sides.
  cases hs with
  | admitted _ _ =>
    simp only [ahead_eq_sum, List.map_append, List.sum_append, Happening.lost, Happening.gained]
    rfl
  | opened hb _ => exact Nat.add_right_cancel (m := 5) (moved rfl hb)
  | unopened hb _ => exact Nat.add_right_cancel (m := 1) (moved rfl hb)
  | granted hb _ => exact Nat.add_right_cancel (m := 4) (moved rfl hb)
  | queued hb _ => exact Nat.add_right_cancel (m := 4) (moved rfl hb)
  | called hb _ => exact Nat.add_right_cancel (m := 3) (moved rfl hb)
  | wrote hb _ => exact Nat.add_right_cancel (m := 3) (moved rfl hb)
  | refused _ _ => rfl
  | closed hb => exact Nat.add_right_cancel (m := 2) (moved rfl hb)
  | released hb => exact Nat.add_right_cancel (m := 1) (moved rfl hb)
  | recorded hb => exact ahead_dismiss hn hb
  | dropped hb _ _ => exact ahead_dismiss hn hb
  | stopped => rfl

end Dispatcher

namespace Trace

/-- The stages that were before the builds of a trace when they were admitted. -/
def gained (tr : Trace) : Nat := (tr.map Happening.gained).sum

/-- The stages that the builds of a trace have no longer before them. -/
def lost (tr : Trace) : Nat := (tr.map Happening.lost).sum

/-- What brought builds nearer to their ends. -/
def advances (tr : Trace) : Trace := tr.filter Happening.advances

theorem gained_eq (tr : Trace) : tr.gained = 6 * tr.admitted.length := by
  induction tr with
  | nil => rfl
  | cons e tr ih =>
    have h : gained (e :: tr) = e.gained + gained tr := rfl
    rw [h, ih]
    cases e with
    | admitted b =>
      have hcons : admitted (.admitted b :: tr) = b :: admitted tr := rfl
      rw [hcons, List.length_cons, Nat.mul_succ, Nat.add_comm]
      rfl
    | _ => exact Nat.zero_add _

theorem length_advances_le (tr : Trace) : tr.advances.length ≤ tr.lost := by
  induction tr with
  | nil => exact Nat.le_refl 0
  | cons e tr ih =>
    have h : lost (e :: tr) = e.lost + lost tr := rfl
    rw [h, advances, List.filter_cons]
    split
    · rename_i hadv
      have hpos : 0 < e.lost := of_decide_eq_true hadv
      simp only [List.length_cons]
      exact Nat.add_comm 1 _ ▸ Nat.add_le_add hpos ih
    · exact Nat.le_trans ih (Nat.le_add_left _ _)

end Trace

namespace Dispatcher

variable {n : Nat} {s s' : Dispatcher} {tr : Trace} {e : Happening}

/-- **The account of a run.** -/
theorem ahead_applyAll (hn : Numbered s) (moves : List Move) :
    (s.applyAll moves).ahead + (s.trace moves).lost = s.ahead + (s.trace moves).gained := by
  refine (run_induction (P := fun s' tr => Numbered s' ∧ s'.ahead + tr.lost = s.ahead + tr.gained)
    ⟨hn, rfl⟩ ?_ moves).2
  rintro s₁ tr e s₂ ⟨hnum, h⟩ hs
  refine ⟨hnum.step hs, ?_⟩
  have hstep := hs.ahead_add_lost hnum
  have hlost : Trace.lost (tr ++ [e]) = tr.lost + e.lost := by simp [Trace.lost]
  have hgained : Trace.gained (tr ++ [e]) = tr.gained + e.gained := by simp [Trace.gained]
  omega

/-- Not more can happen to builds than there are stages before them. -/
theorem length_advances_add_ahead_le (hn : Numbered s) (moves : List Move) :
    (s.trace moves).advances.length + (s.applyAll moves).ahead ≤
      s.ahead + 6 * (s.trace moves).admitted.length := by
  have haccount := ahead_applyAll hn moves
  rw [Trace.gained_eq] at haccount
  have hle := (s.trace moves).length_advances_le
  omega

/-! ## Going on -/

/-- A move that a build makes by itself, or the end of a tool that was cancelled. -/
def Move.isDraining : Move → Bool
  | .openLog _ | .ask _ | .call _ | .giveBack _ | .record _ => true
  | .close _ result => result = .ok .cancelled
  | _ => false

/-- Somebody goes on by a move that drains. -/
def CanDrain (s : Dispatcher) : Prop :=
  ∃ m e, m.isDraining = true ∧ s.happening? m = some e ∧ e.advances = true

/-- The move that a build makes by itself is one by which it goes on. -/
theorem exists_happening_of_moveOf? (hn : Numbered s) {t : Task} (ht : t ∈ s.tasks) {m : Move}
    (hm : moveOf? t = some m) :
    m.isDraining = true ∧ ∃ e, s.happening? m = some e ∧ e.advances = true := by
  obtain ⟨b, stage⟩ := t
  have hb : s.task? b.id = some ⟨b, stage⟩ := (task?_eq_some_iff hn).2 ⟨ht, rfl⟩
  cases stage with
  | arrived =>
    obtain rfl := Option.some.inj hm
    refine ⟨rfl, ?_⟩
    rcases hr : s.logs.reset s.disk b.project with ⟨cause | sink, disk⟩
    · exact ⟨.unopened b cause, by simp only [happening?, hb, hr], rfl⟩
    · exact ⟨.opened b, by simp only [happening?, hb, hr], rfl⟩
  | opened sink =>
    obtain rfl := Option.some.inj hm
    refine ⟨rfl, ?_⟩
    by_cases hf : s.permits.free = 0
    · exact ⟨.queued b, by simp only [happening?, hb, if_pos hf], rfl⟩
    · exact ⟨.granted b, by simp only [happening?, hb, if_neg hf], rfl⟩
  | closed result =>
    obtain rfl := Option.some.inj hm
    exact ⟨rfl, .released b s.permits.heir?, by simp only [happening?, hb], rfl⟩
  | leaving result =>
    obtain rfl := Option.some.inj hm
    exact ⟨rfl, .recorded b result, by simp only [happening?, hb], rfl⟩
  | asking sink => cases hm
  | running sink => cases hm

theorem happening?_call {b : Build} {sink : LogSink} (hb : s.task? b.id = some ⟨b, .asking sink⟩)
    (hp : b.id ∈ s.permits.holders) : s.happening? (.call b.id) = some (.called b) := by
  simp only [happening?, hb, if_pos hp]

theorem happening?_close {b : Build} {sink : LogSink} (hb : s.task? b.id = some ⟨b, .running sink⟩)
    (result : BuildResult) : s.happening? (.close b.id result) = some (.closed b result) := by
  simp only [happening?, hb]

/-- A live build can go on by itself, unless it waits for a permit or for its tool; and its tool can
be cancelled. -/
theorem canDrain_of_not_waits (hn : Numbered s) {t : Task} (ht : t ∈ s.tasks)
    (hw : s.waits t = false) : s.CanDrain := by
  cases hm : moveOf? t with
  | some m =>
    obtain ⟨hdrain, e, he, hadv⟩ := exists_happening_of_moveOf? hn ht hm
    exact ⟨m, e, hdrain, he, hadv⟩
  | none =>
    obtain ⟨b, stage⟩ := t
    have hb : s.task? b.id = some ⟨b, stage⟩ := (task?_eq_some_iff hn).2 ⟨ht, rfl⟩
    cases stage with
    | asking sink =>
      have hp : b.id ∈ s.permits.holders := by
        simpa [waits, Stage.isAsking, holds] using hw
      exact ⟨_, _, rfl, happening?_call hb hp, rfl⟩
    | running sink => exact ⟨_, _, rfl, happening?_close hb (.ok .cancelled), rfl⟩
    | _ => cases hm

theorem CanDrain.live_ne_nil (h : s.CanDrain) : s.live ≠ [] := by
  obtain ⟨m, e, -, he, hadv⟩ := h
  cases hb : e.build? with
  | none =>
    cases e with
    | stopped => cases hadv
    | _ => cases hb
  | some b =>
    rcases (step_apply he).mem_live hb with hlive | ⟨rfl, -⟩
    · exact List.ne_nil_of_mem hlive
    · cases hadv

namespace Allotted

/-- Where there are permits at all, not all live builds wait for one. -/
theorem exists_not_waits (h : Allotted n s tr) (hpos : 1 ≤ n) (hlive : s.tasks ≠ []) :
    ∃ t ∈ s.tasks, s.waits t = false := by
  by_contra hall
  have hwaits : ∀ t ∈ s.tasks, s.waits t = true := fun t ht => by
    by_contra hw
    exact hall ⟨t, ht, Bool.eq_false_iff.2 hw⟩
  obtain ⟨t, ht⟩ := List.exists_mem_of_ne_nil _ hlive
  have hfree : s.permits.free = 0 :=
    Permits.free_eq_zero_of_mem_queue (h.mem_queue_iff.2 ⟨t, ht, rfl, hwaits t ht⟩)
  -- So somebody holds a permit, is live, and does not wait.
  have hholders : 0 < s.permits.holders.length := by
    have htotal := h.total
    rw [Permits.total, hfree] at htotal
    omega
  obtain ⟨id, hid⟩ := List.exists_mem_of_ne_nil _ (List.ne_nil_of_length_pos hholders)
  obtain ⟨b, hb, rfl⟩ := List.mem_map.1 (h.live id (Permits.mem_line_of_mem_holders hid))
  obtain ⟨u, hu, rfl⟩ := List.mem_map.1 hb
  have hw := hwaits u hu
  simp [waits, holds, hid] at hw

/-- **A service does not stand still with builds in it.** -/
theorem canDrain (h : Allotted n s tr) (hpos : 1 ≤ n) (hlive : s.tasks ≠ []) : s.CanDrain := by
  obtain ⟨t, ht, hw⟩ := h.exists_not_waits hpos hlive
  exact canDrain_of_not_waits h.rooted.numbered ht hw

theorem not_canDrain_iff (h : Allotted n s tr) (hpos : 1 ≤ n) : ¬s.CanDrain ↔ s.live = [] := by
  refine ⟨fun hc => ?_, fun hlive hc => hc.live_ne_nil hlive⟩
  by_contra hlive
  exact hc (h.canDrain hpos fun ht => hlive (by rw [Dispatcher.live, ht, List.map_nil]))

end Allotted

end Dispatcher

end BuildService
