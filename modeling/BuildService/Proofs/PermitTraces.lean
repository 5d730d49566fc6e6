import BuildService.Proofs.Admission
/-!
Permits as they would be if one build had never run.

The permits of a service can be told from its trace alone: each happening does to
them what it does in whatever state it happens (`Step.permits_eq`). So what has
happened to all builds but one (`Trace.without`) leaves permits of its own, and
these are the permits of the service without the place of this build
(`Undisturbed`). The others stand in the line in the same order either way; it is
only that some of them may have got their permits earlier without the build.

From when the build is out of the line the two are therefore equal, holders, queue
and free permits, since the line and the number of all permits determine the rest
(`Permits.eq_of_line`).
-/

set_option autoImplicit false

namespace BuildService

namespace Permits

variable {p p' : Permits} {i c : BuildId}

/-- Who holds a permit and who waits can be told from the line and the number of all permits. -/
theorem eq_of_line (ht : p.total = p'.total) (hl : p.line = p'.line) : p = p' := by
  obtain ⟨free, holders, queue, busy⟩ := p
  obtain ⟨free', holders', queue', busy'⟩ := p'
  simp only [total, line] at ht hl
  have hsum := congrArg List.length hl
  simp only [List.length_append] at hsum
  -- Nobody waits while a permit is free, so as many hold one as there are permits for.
  have hholders : holders.length = holders'.length := by
    have h : queue.length = 0 ∨ free = 0 := by
      by_cases hq : queue = []
      · exact .inl (List.length_eq_zero_iff.2 hq)
      · exact .inr (busy hq)
    have h' : queue'.length = 0 ∨ free' = 0 := by
      by_cases hq : queue' = []
      · exact .inl (List.length_eq_zero_iff.2 hq)
      · exact .inr (busy' hq)
    omega
  obtain ⟨rfl, rfl⟩ := List.append_inj hl hholders
  obtain rfl : free = free' := by omega
  rfl

/-- The same permits without the place of one build: as many, and everybody else in the line as
before. -/
structure Lacks (p p' : Permits) (i : BuildId) : Prop where
  total : p'.total = p.total
  line : p'.line = p.line.filter (· ≠ i)

namespace Lacks

/-- Who holds a permit holds one still if somebody else had never been in the line. -/
theorem mem_holders (h : p.Lacks p' i) (hc : c ∈ p.holders) (hne : c ≠ i) : c ∈ p'.holders := by
  have hmem : c ∈ p.holders.filter (· ≠ i) := List.mem_filter.2 ⟨hc, by simpa using hne⟩
  have hl := h.line
  rw [Permits.line, Permits.line, List.filter_append] at hl
  rcases List.append_eq_append_iff.1 hl with ⟨rest, hholders, -⟩ | ⟨rest, hholders, -⟩
  · rw [hholders] at hmem
    rcases List.mem_append.1 hmem with hmem | hrest
    · exact hmem
    · -- Somebody waits though there are as many permits as before, and fewer hold one.
      exfalso
      have hpos := List.length_pos_of_mem hrest
      have hall := congrArg List.length hl
      have hsum := congrArg List.length hholders
      have hle := List.length_filter_le (fun j => decide (j ≠ i)) p.holders
      have ht := h.total
      rw [Permits.total, Permits.total] at ht
      simp only [List.length_append] at hall hsum
      have hfree : p'.free = 0 := by
        refine p'.busy fun hq => ?_
        rw [hq, List.length_nil] at hall
        omega
      omega
  · rw [hholders]
    exact List.mem_append_left _ hmem

theorem acquire (h : p.Lacks p' i) (hne : c ≠ i) : (p.acquire c).Lacks (p'.acquire c) i where
  total := by rw [total_acquire, total_acquire, h.total]
  line := by
    rw [line_acquire, line_acquire, h.line, List.filter_append]
    simp [hne]

theorem acquire_self (h : p.Lacks p' i) : (p.acquire i).Lacks p' i where
  total := by rw [total_acquire, h.total]
  line := by
    rw [line_acquire, h.line, List.filter_append]
    simp

section

variable (hn : p.line.Nodup)
include hn

theorem line_erase (h : p.Lacks p' i) (c : BuildId) :
    p'.line.erase c = (p.line.erase c).filter (· ≠ i) := by
  rw [h.line, hn.erase_eq_filter, (hn.filter _).erase_eq_filter, List.filter_filter,
    List.filter_filter]
  exact List.filter_congr fun _ _ => Bool.and_comm _ _

theorem line_erase_self (h : p.Lacks p' i) : p'.line = (p.line.erase i).filter (· ≠ i) := by
  rw [h.line, hn.erase_eq_filter, List.filter_filter]
  exact List.filter_congr fun j _ => by by_cases hj : j = i <;> simp [hj]

theorem release (h : p.Lacks p' i) (hc : c ∈ p.holders) (hne : c ≠ i) :
    (p.release c).Lacks (p'.release c) i where
  total := by rw [total_release hc, total_release (h.mem_holders hc hne), h.total]
  line := by rw [line_release hc, line_release (h.mem_holders hc hne), h.line_erase hn]

theorem release_self (h : p.Lacks p' i) (hi : i ∈ p.holders) : (p.release i).Lacks p' i where
  total := by rw [total_release hi, h.total]
  line := by rw [line_release hi, h.line_erase_self hn]

theorem giveUp (h : p.Lacks p' i) (c : BuildId) : (p.giveUp c).Lacks (p'.giveUp c) i where
  total := by rw [total_giveUp, total_giveUp, h.total]
  line := by rw [line_giveUp, line_giveUp, h.line_erase hn]

theorem giveUp_self (h : p.Lacks p' i) : (p.giveUp i).Lacks p' i where
  total := by rw [total_giveUp, h.total]
  line := by rw [line_giveUp, h.line_erase_self hn]

end

/-- Who is not in the line is not missed. -/
theorem eq (h : p.Lacks p' i) (hi : i ∉ p.line) : p = p' := by
  refine eq_of_line h.total.symm ?_
  rw [h.line, List.filter_eq_self.2]
  rintro j hj
  simpa using fun heq : j = i => hi (heq ▸ hj)

end Lacks

end Permits

/-- What happens to the permits of a service. -/
def Happening.onPermits (p : Permits) : Happening → Permits
  | .granted b | .queued b => p.acquire b.id
  | .released b _ => p.release b.id
  | .dropped b _ _ => p.giveUp b.id
  | _ => p

namespace Trace

/-- The permits that a trace leaves of `n`. -/
def permits (tr : Trace) (n : Nat) : Permits := tr.foldl Happening.onPermits (.start n)

/-- What has happened to all builds but the one of this number. -/
def without (tr : Trace) (id : BuildId) : Trace := tr.filter (·.build?.map (·.id) ≠ some id)

theorem permits_append (tr : Trace) (e : Happening) (n : Nat) :
    permits (tr ++ [e]) n = e.onPermits (tr.permits n) := by
  simp only [permits, List.foldl_append, List.foldl_cons, List.foldl_nil]

theorem without_append_own (tr : Trace) {e : Happening} {b : Build} (hb : e.build? = some b) :
    without (tr ++ [e]) b.id = tr.without b.id := by
  simp [without, hb]

theorem without_append_of_ne (tr : Trace) {e : Happening} {id : BuildId}
    (hne : e.build?.map (·.id) ≠ some id) : without (tr ++ [e]) id = tr.without id ++ [e] := by
  simp only [without, List.filter_append, List.filter_cons, decide_eq_true hne, if_true,
    List.filter_nil]

end Trace

namespace Dispatcher

variable {n : Nat} {id : BuildId} {s s' : Dispatcher} {tr : Trace} {e : Happening}

/-- What a step does to the permits is known from what happens. -/
theorem Step.permits_eq (hs : Step s e s') : s'.permits = e.onPermits s.permits := by
  cases hs <;> rfl

/-- In every run the permits are those that the trace leaves. -/
theorem permits_eq (settings : Settings) (registry : Registry) (disk : Disk) (moves : List Move) :
    ((start settings registry disk).applyAll moves).permits =
      ((start settings registry disk).trace moves).permits settings.maxBuilds := by
  refine run_induction (P := fun s tr => s.permits = tr.permits settings.maxBuilds) rfl ?_ moves
  intro s tr e s' h hs
  rw [Trace.permits_append, hs.permits_eq, h]

/-- What has happened to the others leaves the permits of the service without the place of one
build. -/
structure Undisturbed (n : Nat) (id : BuildId) (s : Dispatcher) (tr : Trace) : Prop where
  allotted : Allotted n s tr
  lacks : s.permits.Lacks ((tr.without id).permits n) id

namespace Undisturbed

/-- What happens to the build itself changes nobody's place but its own. -/
theorem step_own {b : Build} (h : Undisturbed n b.id s tr) (hs : Step s e s')
    (hb : e.build? = some b) : Undisturbed n b.id s' (tr ++ [e]) := by
  refine ⟨h.allotted.step hs, ?_⟩
  rw [Trace.without_append_own tr hb]
  have hline := h.allotted.line
  rcases hs.permits with hp | ⟨c, sink, -, he, hp⟩ | ⟨c, result, hc, he, hp⟩ |
    ⟨c, stage, heir, -, rfl, hp⟩
  · rw [hp]
    exact h.lacks
  · obtain rfl := Option.some.inj (hb.symm.trans he)
    rw [hp]
    exact h.lacks.acquire_self
  · obtain rfl := Option.some.inj (hb.symm.trans he)
    rw [hp]
    exact h.lacks.release_self hline (h.allotted.suits_of_task? hc)
  · obtain rfl := Option.some.inj hb
    rw [hp]
    exact h.lacks.giveUp_self hline

/-- What happens to another build does the same to the permits with and without the first one. -/
theorem step_other (h : Undisturbed n id s tr) (hs : Step s e s')
    (hne : e.build?.map (·.id) ≠ some id) : Undisturbed n id s' (tr ++ [e]) := by
  have hother : ∀ {c : Build}, e.build? = some c → c.id ≠ id := by
    rintro c he rfl
    exact hne (congrArg (Option.map (·.id)) he)
  have hline := h.allotted.line
  refine ⟨h.allotted.step hs, ?_⟩
  rw [Trace.without_append_of_ne tr hne, Trace.permits_append, hs.permits_eq]
  cases hs with
  | granted _ _ => exact h.lacks.acquire (hother rfl)
  | queued _ _ => exact h.lacks.acquire (hother rfl)
  | released ht => exact h.lacks.release hline (h.allotted.suits_of_task? ht) (hother rfl)
  | dropped _ _ _ => exact h.lacks.giveUp hline _
  | _ => exact h.lacks

theorem step (h : Undisturbed n id s tr) (hs : Step s e s') : Undisturbed n id s' (tr ++ [e]) := by
  by_cases hid : e.build?.map (·.id) = some id
  · obtain ⟨b, hb, rfl⟩ := Option.map_eq_some_iff.1 hid
    exact h.step_own hs hb
  · exact h.step_other hs hid

end Undisturbed

/-- In every run the permits are, but for the place of one build, those that the others leave. -/
theorem undisturbed (settings : Settings) (registry : Registry) (disk : Disk) (moves : List Move)
    (id : BuildId) : Undisturbed settings.maxBuilds id
      ((start settings registry disk).applyAll moves)
      ((start settings registry disk).trace moves) := by
  refine run_induction ?_ (fun _ _ _ _ h hs => h.step hs) moves
  exact ⟨allotted settings registry disk [], rfl, rfl⟩

end Dispatcher

end BuildService
