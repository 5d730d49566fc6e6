import BuildService.Proofs.Calls
import BuildService.Proofs.Readiness
/-!
What still happens after a service was told to stop.

To be told to stop is to have a flag set, and it is the tools that look at the
flag: neither admission nor the hand-over of permits does. So builds that wait
are still given permits, by the very builds that stopping brings to their ends,
and their tools are still called (`waiting_called_after_stop`); and a build that
is asked for later is admitted and called as before. What does hold is that every
such call is made with the flag set, that it is the first call of its build, and
that the build has not ended before (`calls_after_stop`).

The arguments are about a moment in a run and what comes after it. A run that
goes on keeps its invariants (`kept_by_run`), so they hold of the whole trace,
and what the later part of it says is found by taking off the earlier one.
-/

set_option autoImplicit false

namespace BuildService

namespace Dispatcher

variable {s s' : Dispatcher} {tr : Trace} {e : Happening} {moves : List Move} {b : Build}

/-! ## A run that goes on -/

/-- Who is live later is live now, or is admitted in between. -/
theorem live_of_applyAll (moves : List Move) (hb : b ∈ (s.applyAll moves).live) :
    b ∈ s.live ∨ b ∈ (s.trace moves).admitted := by
  refine run_induction (P := fun s' more => ∀ b ∈ s'.live, b ∈ s.live ∨ b ∈ more.admitted)
    (fun _ hb => .inl hb) ?_ moves b hb
  intro s' more e s'' h hs b hb
  rw [Trace.admitted_append, List.mem_append]
  rcases hs.live_subset hb with hb | rfl
  · exact (h b hb).imp_right .inl
  · exact .inr (.inr (List.mem_singleton_self _))

/-- A build that is admitted later has not been heard of. -/
theorem Rooted.unheard (h : Rooted s tr) (hb : b ∈ (s.trace moves).admitted) :
    b ∉ tr.admitted ∧ ∀ e ∈ tr, e.build? ≠ some b := by
  obtain ⟨before, m, after, rfl, he⟩ := exists_move_of_mem_trace (Trace.mem_admitted.1 hb)
  have hthen : Rooted (s.applyAll before) (tr ++ s.trace before) :=
    kept_by_run (fun _ _ _ _ h hs => h.step hs) h before
  -- When it was admitted its number was a new one.
  have hid : b.id = (s.applyAll before).nextId := by
    have hs := step_apply he
    generalize (s.applyAll before).apply m = s' at hs
    cases hs with
    | admitted hid _ => exact hid
  obtain ⟨hnew, hunheard⟩ := hthen.fresh hid
  exact ⟨fun hc => hnew (Trace.mem_admitted_append.2 (.inl hc)),
    fun e he => hunheard e (List.mem_append_left _ he)⟩

/-- A build that is live and has not ended, or is admitted in what follows. -/
def Unfinished (s : Dispatcher) (tr more : Trace) (b : Build) : Prop :=
  (b ∈ s.live ∧ tr.result? b = none) ∨ b ∈ more.admitted

namespace Unfinished

theorem result?_eq_none (h : Rooted s tr) (hb : Unfinished s tr (s.trace moves) b) :
    tr.result? b = none := by
  rcases hb with ⟨-, hnone⟩ | hadmitted
  · exact hnone
  · exact Trace.result?_eq_none (h.unheard hadmitted).2

/-- Its end is recorded in what follows, if it is. -/
theorem not_recorded (h : Truthful s tr) (hb : Unfinished s tr (s.trace moves) b)
    (result : BuildResult) : .recorded b result ∉ tr := by
  intro hr
  rcases hb with ⟨hlive, -⟩ | hadmitted
  · exact ((h.live_iff b).1 hlive).2.1 result hr
  · exact (h.accounted.rooted.unheard hadmitted).2 _ hr rfl

/-- What is recorded of it is how it ended in what follows. -/
theorem exists_end (h : Truthful s tr) (hb : Unfinished s tr (s.trace moves) b)
    {result : BuildResult} (hr : .recorded b result ∈ s.trace moves) :
    ∃ e ∈ s.trace moves, e.result? b = some result := by
  have hlater : Accounted (s.applyAll moves) (tr ++ s.trace moves) :=
    kept_by_run (fun _ _ _ _ h hs => h.step hs) h.accounted moves
  have hend := hlater.recorded b result (List.mem_append_right _ hr)
  rw [Trace.result?_append_run, hb.result?_eq_none h.accounted.rooted, Option.none_or] at hend
  exact List.exists_of_findSome?_eq_some hend

end Unfinished

/-! ## The flag -/

/-- Nothing takes back that a service was told to stop. -/
theorem Step.stopping (hs : Step s e s') (h : s.stopping = true) : s'.stopping = true := by
  cases hs with
  | stopped => rfl
  | _ => exact h

theorem stopping_applyAll (h : s.stopping = true) (moves : List Move) :
    (s.applyAll moves).stopping = true :=
  run_induction (P := fun s' _ => s'.stopping = true) h (fun _ _ _ _ h hs => hs.stopping h) moves

/-! ## Calls in what follows -/

/-- Who calls its tool in what follows has not ended before and has not called it before. -/
theorem Invoked.unfinished_of_called {settings : Settings} (h : Invoked settings s tr)
    (ha : Accounted s tr) (hb : .called b ∈ s.trace moves) :
    Unfinished s tr (s.trace moves) b ∧ b ∉ tr.callers := by
  obtain ⟨before, m, after, rfl, he⟩ := exists_move_of_mem_trace hb
  have hthen : Invoked settings (s.applyAll before) (tr ++ s.trace before) :=
    kept_by_run (fun _ _ _ _ h hs => h.step hs) h before
  have hended : Accounted (s.applyAll before) (tr ++ s.trace before) :=
    kept_by_run (fun _ _ _ _ h hs => h.step hs) ha before
  obtain ⟨sink, ht⟩ := (step_apply he).asking_of_called
  constructor
  · rcases live_of_applyAll before (mem_live_of_task? ht) with hlive | hadmitted
    · refine .inl ⟨hlive, ?_⟩
      have hnone := hended.stage _ (mem_of_task? ht)
      rw [Trace.result?_append_run] at hnone
      exact (Option.or_eq_none_iff.1 hnone).1
    · refine .inr ?_
      rw [trace_append]
      exact Trace.mem_admitted_append.2 (.inl hadmitted)
  · intro hc
    refine hthen.not_mem_called ht ?_
    rw [Trace.called, List.filterMap_append, ← Trace.called, ← Trace.map_id_callers]
    exact List.mem_append_left _ (List.mem_map_of_mem hc)

/-- **Calls after the service was told to stop.** Whatever happens before that and after it, at
every later moment:
- the service is still told to stop, so a tool that is called is called with the flag set;
- a build whose tool is called has not called it before, was live and had not ended, or was admitted
  later; and no build calls its tool twice in the whole run;
- if tools that end from then on were cancelled, then a build that had not ended, or was admitted
  later, is recorded as failed when it is recorded, and if no later build of its project was
  admitted, this is what the registry says. -/
theorem calls_after_stop (settings : Settings) (disk : Disk) (before after : List Move) :
    let s := (start settings .empty disk).applyAll before
    let tr := (start settings .empty disk).trace before
    let s' := s.applyAll (.stop :: after)
    let more := s.trace (.stop :: after)
    s'.stopping = true ∧
    (∀ b, .called b ∈ more → Unfinished s tr more b ∧ b ∉ tr.callers) ∧
    (Trace.callers (tr ++ more) |>.map (·.id)).Nodup ∧
    ((∀ b result, .closed b result ∈ more → result = .ok .cancelled) →
      ∀ b result, Unfinished s tr more b → .recorded b result ∈ more →
        result.state = .failed ∧
          (Trace.latest? (tr ++ more) b.project = some b →
            s'.registry.get b.project = .failed)) := by
  intro s tr s' more
  have htruth : Truthful s tr := truthful settings disk before
  have hcalls : Invoked settings s tr := invoked settings .empty disk before
  refine ⟨stopping_applyAll (s := s.stop) rfl after,
    fun b hb => hcalls.unfinished_of_called htruth.accounted hb, ?_, ?_⟩
  · have hlater : Invoked settings s' (tr ++ more) :=
      kept_by_run (fun _ _ _ _ h hs => h.step hs) hcalls (.stop :: after)
    rw [Trace.map_id_callers]
    exact hlater.nodup
  · intro hcancel b result hb hr
    have hstate : result.state = .failed := by
      -- Its end is that of a tool, or its log could not be opened.
      obtain ⟨e, he, hend⟩ := hb.exists_end htruth hr
      cases e with
      | closed c r =>
        simp only [Happening.result?] at hend
        split at hend
        · obtain rfl := Option.some.inj hend
          rw [hcancel c r he]
          rfl
        · cases hend
      | unopened c cause =>
        simp only [Happening.result?] at hend
        split at hend
        · obtain rfl := Option.some.inj hend
          rfl
        · cases hend
      | _ => cases hend
    refine ⟨hstate, fun hlatest => ?_⟩
    have hlater : Truthful s' (tr ++ more) :=
      kept_by_run (fun _ _ _ _ h hs => h.step hs) htruth (.stop :: after)
    rw [hlater.ended _ b result hlatest (List.mem_append_right _ hr), hstate]

/-! ## A build that waits -/

section

open Disk

/-- One build at a time. -/
def oneAtATime : Settings := { Settings.sample "logs" with maxBuilds := 1 }

/-- The second build of a service, of another project than the first one. -/
def secondBuild : Build := ⟨1, .sample "next", false⟩

/-- The disk when the log of the first build is open, -/
def firstLog : Disk := logsDisk.addNode 32 "demo_log.txt" (.file (.ofBytes []) false)

/-- and when that of the second one is as well. -/
def bothLogs : Disk := firstLog.addNode 32 "next_log.txt" (.file (.ofBytes []) false)

theorem reset_firstLog : LogStore.reset ⟨"logs"⟩ firstLog "next" =
    (.ok ⟨"logs/next_log.txt", 34, 0⟩, bothLogs) := by
  have hx : Extends logsDisk firstLog :=
    extends_addNode LogStore.home_logsDisk.directory rfl (by simp) (by simp)
  have hm : firstLog.makeDirs "logs" = .ok firstLog :=
    makeDirs_of_allMade ((allMade_of_makeDirs initial_makeDirs).mono hx)
  exact LogStore.reset_of_free hm (LogStore.home_logsDisk.mono hx) (by decide)
    ⟨by decide, by decide, by decide⟩ rfl

/-- The first build runs. -/
def firstRuns : Dispatcher :=
  { firstOpened with
    settings := oneAtATime
    disk := firstLog
    permits := ⟨0, [0], [], fun _ => rfl⟩
    tasks := [⟨firstBuild, .running ⟨"logs/demo_log.txt", 33, 0⟩⟩]
    calls := [⟨oneAtATime.command (.sample "demo"), oneAtATime.timeout⟩] }

/-- The first build runs and the second one waits. -/
def contended : Dispatcher :=
  { firstRuns with
    registry := ⟨[("next", .running), ("demo", .running)], by decide, by decide⟩
    disk := bothLogs
    permits := ⟨0, [0], [1], fun _ => rfl⟩
    tasks := [⟨firstBuild, .running ⟨"logs/demo_log.txt", 33, 0⟩⟩,
      ⟨secondBuild, .asking ⟨"logs/next_log.txt", 34, 0⟩⟩]
    nextId := 2 }

/-- How it comes to that. -/
def contention : List Move :=
  [.accept false .android (.sample "demo"), .openLog 0, .ask 0, .call 0,
    .accept false .android (.sample "next"), .openLog 1, .ask 1]

theorem applyAll_contention :
    (start oneAtATime .empty .initial).applyAll contention = contended := by
  -- Opening a log goes by what is known of the disk; everything else is looked at.
  have hfirst := apply_openLog (b := firstBuild)
    (s := (start oneAtATime .empty .initial).apply (.accept false .android (.sample "demo")))
    (by rfl) reset_initial
  have hsecond := apply_openLog (b := secondBuild)
    (s := firstRuns.apply (.accept false .android (.sample "next"))) (by rfl) reset_firstLog
  have hruns : (start oneAtATime .empty .initial).applyAll
      [.accept false .android (.sample "demo"), .openLog 0, .ask 0, .call 0] = firstRuns :=
    (congrArg (applyAll · [.ask 0, .call 0]) hfirst).trans (by rfl)
  have hwaits : firstRuns.applyAll [.accept false .android (.sample "next"), .openLog 1, .ask 1] =
      contended := (congrArg (apply · (.ask 1)) hsecond).trans (by rfl)
  rw [← hwaits, ← hruns, ← applyAll_append]
  rfl

end

/-- The first build is cancelled and gives its permit back; then the second one goes on. -/
def handover : List Move := [.close 0 (.ok .cancelled), .giveBack 0, .call 1]

/-- **A build that waits when the service is told to stop, and calls its tool after that.** It gets
the permit of the build that is cancelled, and nothing keeps it from using it. -/
theorem waiting_called_after_stop :
    let s := (start oneAtATime .empty .initial).applyAll contention
    s.permits.queue = [secondBuild.id] ∧
      .called secondBuild ∈ s.trace (.stop :: handover) ∧
      (s.applyAll (.stop :: handover)).calls =
        s.calls ++ [⟨oneAtATime.command secondBuild.request, oneAtATime.timeout⟩] := by
  intro s
  have hs : s = contended := applyAll_contention
  rw [hs]
  refine ⟨rfl, ?_, rfl⟩
  have htrace : contended.trace (.stop :: handover) =
      [.stopped, .closed firstBuild (.ok .cancelled), .released firstBuild (some 1),
        .called secondBuild] := by rfl
  rw [htrace]
  simp

end Dispatcher

end BuildService
