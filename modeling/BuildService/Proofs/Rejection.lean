import BuildService.Rehearsal
import BuildService.Sample
import BuildService.Simulation
import BuildService.Proofs.Trace
/-!
Builds that are refused.

Which of several faults is reported is said here without the code that looks for
them: the platform comes first, then the fields in their order, then the state of
the project (`Dispatcher.Refused`). Both ways of asking for a build look at the
same things, so they refuse the same requests for the same reason.

A refusal leaves no trace in the state. It is then as if nobody had asked: a run
comes to the same state, by the same happenings, without the builds that it
refused (`applyAll_heeded`). A check that came after an effect would show there.
-/

set_option autoImplicit false

namespace BuildService

namespace Request

variable {r : Request}

/-- Every field is looked at. -/
theorem mem_checkOrder (f : Field) : f ∈ checkOrder := by cases f <;> decide

/-- The first field that fails: those before it pass. -/
theorem firstFault?_eq_some_iff {f : Field} {reason : Reason} :
    r.firstFault? = some (f, reason) ↔
      ∃ before after, checkOrder = before ++ f :: after ∧
        (∀ g ∈ before, fieldFault? g (r.get g) = none) ∧
          fieldFault? f (r.get f) = some reason := by
  rw [firstFault?, List.findSome?_eq_some_iff]
  constructor
  · rintro ⟨before, g, after, horder, hfault, hbefore⟩
    obtain ⟨reason', hreason, heq⟩ := Option.map_eq_some_iff.1 hfault
    obtain ⟨rfl, rfl⟩ := Prod.mk.inj heq
    exact ⟨before, after, horder, fun g hg => Option.map_eq_none_iff.1 (hbefore g hg), hreason⟩
  · rintro ⟨before, after, horder, hbefore, hfault⟩
    exact ⟨before, f, after, horder, by rw [hfault]; rfl,
      fun g hg => Option.map_eq_none_iff.2 (hbefore g hg)⟩

theorem validate_eq_ok_iff : r.validate = .ok () ↔ ∀ f, fieldFault? f (r.get f) = none := by
  have hnone : r.firstFault? = none ↔ ∀ f, fieldFault? f (r.get f) = none := by
    rw [firstFault?, List.findSome?_eq_none_iff]
    exact ⟨fun h f => Option.map_eq_none_iff.1 (h f (mem_checkOrder f)),
      fun h f _ => Option.map_eq_none_iff.2 (h f)⟩
  rw [← hnone, validate]
  cases r.firstFault? <;> simp

theorem validate_eq_error_iff {e : Fault} :
    r.validate = .error e ↔
      ∃ f reason, r.firstFault? = some (f, reason) ∧ e = .invalidField f reason.message := by
  rw [validate]
  cases r.firstFault? with
  | none => simp
  | some fault =>
    obtain ⟨f, reason⟩ := fault
    simp [eq_comm]

end Request

namespace Dispatcher

/-! ## The order of the checks -/

/-- The first thing that is wrong with a build that is asked for. -/
inductive Refused (s : Dispatcher) (platform : Platform) (r : Request) : Fault → Prop where
  | platform (h : platform.isExecutable = false) :
      Refused s platform r (.unsupportedPlatform platform.name)
  | field {f : Field} {reason : Request.Reason} {before after : List Field}
      (hplatform : platform.isExecutable = true)
      (horder : Request.checkOrder = before ++ f :: after)
      (hbefore : ∀ g ∈ before, Request.fieldFault? g (r.get g) = none)
      (h : Request.fieldFault? f (r.get f) = some reason) :
      Refused s platform r (.invalidField f reason.message)
  | running (hplatform : platform.isExecutable = true)
      (hfields : ∀ f, Request.fieldFault? f (r.get f) = none)
      (h : s.registry.get r.projectId = .running) :
      Refused s platform r (.alreadyRunning r.projectId)

variable {s : Dispatcher} {platform : Platform} {r : Request} {e : Fault}

/-- **The checks find the first thing that is wrong.** -/
theorem check_eq_error_iff : s.check platform r = .error e ↔ s.Refused platform r e := by
  constructor
  · intro h
    unfold check at h
    split at h
    · rename_i hp
      cases h
      exact .platform (by simpa using hp)
    · rename_i hp
      have hp : platform.isExecutable = true := by simpa using hp
      split at h
      · rename_i hv
        cases h
        obtain ⟨f, reason, hfirst, rfl⟩ := Request.validate_eq_error_iff.1 hv
        obtain ⟨before, after, horder, hbefore, hfault⟩ := Request.firstFault?_eq_some_iff.1 hfirst
        exact .field hp horder hbefore hfault
      · rename_i hv
        unfold Registry.tryBegin at h
        split at h
        · rename_i hr
          cases h
          exact .running hp (Request.validate_eq_ok_iff.1 hv) hr
        · cases h
  · rintro (hp | ⟨hp, horder, hbefore, hfault⟩ | ⟨hp, hfields, hr⟩)
    · simp [check, hp]
    · have hfirst := Request.firstFault?_eq_some_iff.2 ⟨_, _, horder, hbefore, hfault⟩
      simp [check, hp, Request.validate_eq_error_iff.2 ⟨_, _, hfirst, rfl⟩]
    · simp [check, hp, Request.validate_eq_ok_iff.2 hfields, Registry.tryBegin, hr]

/-- It does not matter whether the caller waits. -/
theorem accept_eq_error_iff (awaited : Bool) :
    s.accept awaited platform r = .error e ↔ s.Refused platform r e := by
  rw [← check_eq_error_iff, accept]
  cases s.check platform r <;> simp

/-! ## Runs without what they refused -/

/-- Whether a move asks for a build that is refused. -/
def refuses (s : Dispatcher) : Move → Bool
  | .accept awaited platform r =>
    match s.accept awaited platform r with
    | .error _ => true
    | .ok _ => false
  | _ => false

/-- The moves of a run without the builds that were refused. -/
def heeded (s : Dispatcher) : List Move → List Move
  | [] => []
  | m :: ms => if s.refuses m then s.heeded ms else m :: (s.apply m).heeded ms

theorem refuses_accept_iff {awaited : Bool} :
    s.refuses (.accept awaited platform r) = true ↔ ∃ e, s.Refused platform r e := by
  simp only [← accept_eq_error_iff awaited, refuses]
  cases s.accept awaited platform r <;> simp

/-- Nothing happens when a build is refused. -/
theorem apply_of_refuses {m : Move} (h : s.refuses m = true) :
    s.apply m = s ∧ s.happening? m = none := by
  cases m with
  | accept awaited platform r =>
    obtain ⟨e, he⟩ := refuses_accept_iff.1 h
    have ha := (accept_eq_error_iff awaited).2 he
    simp only [apply, happening?, ha, and_self]
  | _ => cases h

/-- **It is as if nobody had asked for what was refused.** -/
theorem applyAll_heeded (s : Dispatcher) (moves : List Move) :
    s.applyAll (s.heeded moves) = s.applyAll moves ∧
      s.trace (s.heeded moves) = s.trace moves := by
  induction moves generalizing s with
  | nil => exact ⟨rfl, rfl⟩
  | cons m ms ih =>
    unfold heeded
    split
    · rename_i hrefuses
      obtain ⟨happly, hnone⟩ := apply_of_refuses hrefuses
      simpa [applyAll, trace, happly, hnone] using ih s
    · simpa [applyAll, trace] using ih (s.apply m)

/-- What is left is not refused when its turn comes. -/
theorem not_refuses_of_heeded {moves before after : List Move} {m : Move}
    (h : s.heeded moves = before ++ m :: after) : ¬(s.applyAll before).refuses m = true := by
  induction moves generalizing s before with
  | nil => simp [heeded] at h
  | cons first ms ih =>
    unfold heeded at h
    split at h
    · exact ih h
    · rename_i hkept
      cases before with
      | nil =>
        obtain ⟨rfl, -⟩ := List.cons.inj h
        exact hkept
      | cons _ before =>
        obtain ⟨rfl, hrest⟩ := List.cons.inj h
        have hlater := ih hrest
        exact hlater

end Dispatcher

/-! ## Both ways of asking -/

section

variable {platform : Platform} {r : Request} {e : Fault}

namespace Rehearsal

variable {s : Rehearsal}

theorem submit_of_refused (h : s.service.Refused platform r e) :
    s.submit platform r = (.error e, s) := by
  rw [submit, (Dispatcher.accept_eq_error_iff false).2 h]

theorem execute_of_refused (h : s.service.Refused platform r e) :
    s.execute platform r = (.error e, s) := by
  rw [execute, (Dispatcher.accept_eq_error_iff true).2 h]

theorem submit_eq_error_iff :
    (s.submit platform r).1 = .error e ↔ s.service.Refused platform r e := by
  refine ⟨fun h => ?_, fun h => by rw [submit_of_refused h]⟩
  rw [← Dispatcher.accept_eq_error_iff false]
  unfold submit at h
  split at h
  · cases h
    assumption
  · cases h

theorem execute_eq_error_iff :
    (s.execute platform r).1 = .error e ↔ s.service.Refused platform r e := by
  refine ⟨fun h => ?_, fun h => by rw [execute_of_refused h]⟩
  rw [← Dispatcher.accept_eq_error_iff true]
  unfold execute at h
  split at h
  · cases h
    assumption
  · -- A build that is admitted may end with a fault, but that is its result.
    dsimp only at h
    split at h <;> cases h

end Rehearsal

namespace Simulation

variable {s : Simulation}

theorem submit_of_refused (h : s.service.Refused platform r e) :
    s.submit platform r = (.error e, s.report (s.service.acceptReports platform r)) := by
  have ha := (Dispatcher.accept_eq_error_iff false).2 h
  simp only [submit, report, ha]

theorem execute_of_refused (h : s.service.Refused platform r e) :
    s.execute platform r = (.error e, s.report (s.service.acceptReports platform r)) := by
  have ha := (Dispatcher.accept_eq_error_iff true).2 h
  simp only [execute, report, ha]

theorem submit_eq_error_iff :
    (s.submit platform r).1 = .error e ↔ s.service.Refused platform r e := by
  refine ⟨fun h => ?_, fun h => by rw [submit_of_refused h]⟩
  rw [← Dispatcher.accept_eq_error_iff false]
  unfold submit at h
  dsimp only [report] at h
  split at h
  · cases h
    assumption
  · cases h

theorem execute_eq_error_iff :
    (s.execute platform r).1 = .error e ↔ s.service.Refused platform r e := by
  refine ⟨fun h => ?_, fun h => by rw [execute_of_refused h]⟩
  rw [← Dispatcher.accept_eq_error_iff true]
  unfold execute at h
  dsimp only [report] at h
  split at h
  · cases h
    assumption
  · cases h

end Simulation

end

/-- **A refusal changes nothing and names the first thing that is wrong.**

In every state, whether tools are rehearsed or run, and whether the caller waits or not: a build is
refused with a fault exactly if this is the first one, in the order platform, fields, running
project. Then the whole state is as it was: jobs, files, permits, queue, calls, live builds, runs at
their gates, programs and time; only the refusal may be reported. And a run in which builds are
refused comes to the same state, by the same happenings, as the run without them. -/
theorem refused_first_fault_without_effect :
    (∀ (s : Rehearsal) (platform : Platform) (r : Request) (e : Fault),
      ((s.submit platform r).1 = .error e ↔ s.service.Refused platform r e) ∧
      ((s.execute platform r).1 = .error e ↔ s.service.Refused platform r e) ∧
      (s.service.Refused platform r e →
        (s.submit platform r).2 = s ∧ (s.execute platform r).2 = s)) ∧
    (∀ (s : Simulation) (platform : Platform) (r : Request) (e : Fault),
      ((s.submit platform r).1 = .error e ↔ s.service.Refused platform r e) ∧
      ((s.execute platform r).1 = .error e ↔ s.service.Refused platform r e) ∧
      (s.service.Refused platform r e → ∃ events,
        (s.submit platform r).2 = s.report events ∧
          (s.execute platform r).2 = s.report events)) ∧
    ∀ (s : Dispatcher) (moves : List Dispatcher.Move),
      s.applyAll (s.heeded moves) = s.applyAll moves ∧
      s.trace (s.heeded moves) = s.trace moves ∧
      ∀ before awaited platform r after e,
        s.heeded moves = before ++ .accept awaited platform r :: after →
          ¬(s.applyAll before).Refused platform r e := by
  refine ⟨fun s platform r e => ⟨Rehearsal.submit_eq_error_iff, Rehearsal.execute_eq_error_iff,
    fun h => ?_⟩, fun s platform r e => ⟨Simulation.submit_eq_error_iff,
    Simulation.execute_eq_error_iff, fun h => ⟨s.service.acceptReports platform r, ?_⟩⟩,
    fun s moves => ⟨(Dispatcher.applyAll_heeded s moves).1, (Dispatcher.applyAll_heeded s moves).2,
      fun _ _ _ _ _ e h he =>
        Dispatcher.not_refuses_of_heeded h (Dispatcher.refuses_accept_iff.2 ⟨e, he⟩)⟩⟩
  · rw [Rehearsal.submit_of_refused h, Rehearsal.execute_of_refused h]
    exact ⟨rfl, rfl⟩
  · rw [Simulation.submit_of_refused h, Simulation.execute_of_refused h]
    exact ⟨rfl, rfl⟩

/-- A second build of a project that is live, asked for before the log of the first one was even
opened: it is refused, and the first one is as it was. -/
theorem refused_while_live :
    let s : Rehearsal :=
      ⟨(Dispatcher.start (.sample "logs") .empty .initial).apply
        (.accept false .android (.sample "demo")), .perProject, [], .empty, [], false⟩
    s.service.live ≠ [] ∧
      (s.submit .android (.sample "demo")).1 = .error (.alreadyRunning "demo") ∧
      (s.submit .android (.sample "demo")).2 = s := by
  intro s
  have hfields : ∀ f, Request.fieldFault? f ((Request.sample "demo").get f) = none := by
    intro f
    cases f <;> decide
  have hrefused : s.service.Refused .android (.sample "demo") (.alreadyRunning "demo") :=
    .running rfl hfields rfl
  have hmain := refused_first_fault_without_effect.1 s .android (.sample "demo")
    (.alreadyRunning "demo")
  exact ⟨by decide, hmain.1.2 hrefused, (hmain.2.2 hrefused).1⟩

end BuildService
