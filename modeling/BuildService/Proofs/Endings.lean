import BuildService.Proofs.Live
/-!
How builds end: what is recorded of a build is what it ended with.

A build comes to its end once, when its tool has ended or when its log could not
be opened. From then on its stage carries the result, and the result that is
recorded in the end is this one.
-/

set_option autoImplicit false

namespace BuildService

/-- A happening that is not a build's own does not end it. -/
theorem Happening.result?_eq_none {e : Happening} {b : Build} (h : e.build? ≠ some b) :
    e.result? b = none := by
  cases e <;> simp_all [Happening.result?, Happening.build?]

/-- Before it is heard of, a build has not ended. -/
theorem Trace.result?_eq_none {tr : Trace} {b : Build} (h : ∀ e ∈ tr, e.build? ≠ some b) :
    tr.result? b = none := by
  simp only [Trace.result?, List.findSome?_eq_none_iff]
  exact fun e he => Happening.result?_eq_none (h e he)

namespace Dispatcher

/-- The stage of a live build says how it ended, and what is recorded is what it ended with. -/
structure Accounted (s : Dispatcher) (tr : Trace) : Prop where
  rooted : Rooted s tr
  stage : ∀ t ∈ s.tasks, tr.result? t.build = t.stage.result?
  recorded : ∀ b result, .recorded b result ∈ tr → tr.result? b = some result

namespace Accounted

variable {s s' : Dispatcher} {tr : Trace} {e : Happening}

/-- A build that moves on ends with what its next stage says. -/
theorem result?_next {stage stage' : Stage} {b : Build} (h : tr.result? b = stage.result?)
    (hb : e.build? = some b) (hs : Next stage e stage') :
    Trace.result? (tr ++ [e]) b = stage'.result? := by
  rw [Trace.result?_append, h]
  cases hs <;> obtain rfl := Option.some.inj hb <;> simp [Happening.result?, Stage.result?]

theorem step (h : Accounted s tr) (hs : Step s e s') : Accounted s' (tr ++ [e]) := by
  refine ⟨h.rooted.step hs, ?_, ?_⟩
  · intro t ht
    rcases hs.mem_tasks h.rooted.numbered ht with ⟨hmem, hother⟩ | ⟨stage, hmem, hb, hnext⟩ |
      ⟨rfl, hid, harr⟩
    · rw [Trace.result?_append, Happening.result?_eq_none hother, Option.or_none, h.stage t hmem]
    · exact result?_next (h.stage ⟨t.build, stage⟩ hmem) hb hnext
    · rw [Trace.result?_append, Trace.result?_eq_none (h.rooted.fresh hid).2, harr]
      rfl
  · intro b result hr
    rw [Trace.result?_append]
    rcases List.mem_append.1 hr with hr | hr
    · rw [h.recorded b result hr, Option.some_or]
    · obtain rfl := List.mem_singleton.1 hr
      cases hs with
      | recorded ht => rw [h.stage _ (mem_of_task? ht)]; rfl

end Accounted

/-- In every run, what is recorded is what builds ended with. -/
theorem accounted (settings : Settings) (registry : Registry) (disk : Disk) (moves : List Move) :
    Accounted ((start settings registry disk).applyAll moves)
      ((start settings registry disk).trace moves) := by
  refine run_induction ?_ (fun _ _ _ _ h hs => h.step hs) moves
  exact ⟨rooted settings registry disk [], by simp [start], by simp⟩

end Dispatcher

end BuildService
