import BuildService.Dispatcher
import Mathlib.Data.List.Induction
/-!
What happens to a service, move by move.

A move either changes nothing or makes one thing happen. `Step` says, for every
kind of thing that can happen, when it happens and which state it leaves; it is
read off the moves once, in `step_of_happening?`, and no later proof unfolds a
move again. The trace of a run is the list of what has happened, so a statement
on a run is one on a state and a trace, and is proved by `run_induction`: it
holds before the first move and every `Step` keeps it.
-/

set_option autoImplicit false

namespace BuildService

/-- What can happen to a service. -/
inductive Happening where
  /-- A build is admitted. -/
  | admitted (b : Build)
  /-- The log of a build is empty and open. -/
  | opened (b : Build)
  /-- The log of a build could not be opened. -/
  | unopened (b : Build) (cause : IoFault)
  /-- A build that asked for a permit got one at once. -/
  | granted (b : Build)
  /-- A build that asked for a permit began to wait. -/
  | queued (b : Build)
  /-- The tool of a build is called. -/
  | called (b : Build)
  | wrote (b : Build) (line : String)
  /-- A line could not be written. -/
  | refused (b : Build) (line : String) (cause : IoFault)
  /-- The tool of a build has ended and its log is closed. -/
  | closed (b : Build) (result : BuildResult)
  /-- A build has given its permit back, and another one may have been handed it. -/
  | released (b : Build) (heir : Option BuildId)
  | recorded (b : Build) (result : BuildResult)
  /-- A build was given up at some stage; another one may have been handed its permit. -/
  | dropped (b : Build) (stage : Stage) (heir : Option BuildId)
  | stopped

/-- The build that is admitted, if that is what happens. -/
def Happening.admitted? : Happening → Option Build
  | .admitted b => some b
  | _ => none

/-- The build that something happens to. -/
def Happening.build? : Happening → Option Build
  | .admitted b | .opened b | .unopened b _ | .granted b | .queued b | .called b | .wrote b _
  | .refused b _ _ | .closed b _ | .released b _ | .recorded b _ | .dropped b _ _ => some b
  | .stopped => none

/-- How a build ends, if this is its end: its tool ends, or its log could not be opened. -/
def Happening.result? (b : Build) : Happening → Option BuildResult
  | .closed c result => if c = b then some result else none
  | .unopened c cause => if c = b then some (.error (.io cause)) else none
  | _ => none

/-- What has happened in a run, the first thing first. -/
abbrev Trace := List Happening

namespace Trace

/-- The builds that were admitted, in order. -/
def admitted (tr : Trace) : List Build := tr.filterMap Happening.admitted?

/-- The build of a project that was admitted last. -/
def latest? (tr : Trace) (project : String) : Option Build :=
  tr.admitted.reverse.find? (·.project == project)

/-- How a build ended, if it has come to its end. -/
def result? (tr : Trace) (b : Build) : Option BuildResult := tr.findSome? (Happening.result? b)

/-- Whether a build was given up. -/
def Dropped (tr : Trace) (b : Build) : Prop := ∃ stage heir, .dropped b stage heir ∈ tr

theorem filterMap_append_one {α : Type} (f : Happening → Option α) (tr : Trace) (e : Happening) :
    (tr ++ [e]).filterMap f = tr.filterMap f ++ (f e).toList := by
  rw [List.filterMap_append]
  cases h : f e <;> simp [h]

theorem admitted_append (tr : Trace) (e : Happening) :
    admitted (tr ++ [e]) = tr.admitted ++ e.admitted?.toList := filterMap_append_one _ tr e

theorem admitted_append_of_none (tr : Trace) {e : Happening} (h : e.admitted? = none) :
    admitted (tr ++ [e]) = tr.admitted := by
  rw [admitted_append, h, Option.toList_none, List.append_nil]

/-- A build is in a list that a trace makes of one kind of happenings if this has happened to it. -/
theorem mem_filterMap_iff {f : Happening → Option Build} {kind : Build → Happening}
    (h : ∀ e b, f e = some b ↔ e = kind b) {tr : Trace} {b : Build} :
    b ∈ tr.filterMap f ↔ kind b ∈ tr := by
  simp only [List.mem_filterMap, h, exists_eq_right]

theorem mem_admitted {tr : Trace} {b : Build} : b ∈ tr.admitted ↔ .admitted b ∈ tr :=
  mem_filterMap_iff fun e b => by cases e <;> simp [Happening.admitted?]

theorem mem_admitted_append {tr more : Trace} {b : Build} :
    b ∈ admitted (tr ++ more) ↔ b ∈ tr.admitted ∨ b ∈ more.admitted := by
  simp only [mem_admitted, List.mem_append]

/-- The last build of a project, when one more is added: this one, if it is of the project, and
otherwise the last one so far. -/
theorem find?_reverse_append_one (bs : List Build) (b : Build) (project : String) :
    (bs ++ [b]).reverse.find? (·.project == project) =
      if b.project = project then some b else bs.reverse.find? (·.project == project) := by
  rw [List.reverse_append, List.reverse_singleton, List.singleton_append, List.find?_cons]
  by_cases hb : b.project = project
  · rw [if_pos hb, beq_iff_eq.2 hb]
  · rw [if_neg hb, beq_eq_false_iff_ne.2 hb]

/-- What admits no build leaves the latest build of every project as it is. -/
theorem latest?_append_of_none (tr : Trace) {e : Happening} (h : e.admitted? = none)
    (project : String) : latest? (tr ++ [e]) project = tr.latest? project := by
  rw [latest?, admitted_append_of_none tr h, latest?]

/-- A build that is admitted is the latest of its project, and of no other one. -/
theorem latest?_append_admitted (tr : Trace) (b : Build) (project : String) :
    latest? (tr ++ [.admitted b]) project =
      if b.project = project then some b else tr.latest? project := by
  rw [latest?, admitted_append]
  exact find?_reverse_append_one _ _ _

/-- The latest build of a project in a run that went on is the latest one since, if there is one. -/
theorem latest?_append_run (tr more : Trace) (project : String) :
    latest? (tr ++ more) project = (more.latest? project).or (tr.latest? project) := by
  simp only [latest?, admitted, List.filterMap_append, List.reverse_append, List.find?_append]

/-- The latest build of a project is just admitted, or was the latest before. -/
theorem eq_or_latest? {tr : Trace} {e : Happening} {project : String} {b : Build}
    (h : latest? (tr ++ [e]) project = some b) : e = .admitted b ∨ tr.latest? project = some b := by
  cases e with
  | admitted c =>
    rw [latest?_append_admitted] at h
    split at h
    · obtain rfl := Option.some.inj h
      exact .inl rfl
    · exact .inr h
  | _ =>
    rw [latest?_append_of_none tr rfl] at h
    exact .inr h

theorem result?_append_run (tr more : Trace) (b : Build) :
    result? (tr ++ more) b = (tr.result? b).or (more.result? b) := List.findSome?_append

theorem result?_append (tr : Trace) (e : Happening) (b : Build) :
    result? (tr ++ [e]) b = (tr.result? b).or (e.result? b) := by
  simp only [result?, List.findSome?_append, List.findSome?_singleton]

/-- The latest build of a project was admitted, and for that project. -/
theorem mem_of_latest? {tr : Trace} {project : String} {b : Build}
    (h : tr.latest? project = some b) : b ∈ tr.admitted ∧ b.project = project :=
  ⟨List.mem_reverse.1 (List.mem_of_find?_eq_some h), by simpa using List.find?_some h⟩

/-- A project has no latest build exactly if none was ever admitted. -/
theorem latest?_eq_none_iff {tr : Trace} {project : String} :
    tr.latest? project = none ↔ ∀ b ∈ tr.admitted, b.project ≠ project := by
  simp [latest?]

end Trace

namespace Dispatcher

/-! ## The moves, as things that happen -/

/-- What happens by a move, if anything does. -/
def happening? (s : Dispatcher) : Move → Option Happening
  | .accept awaited platform r =>
    match s.accept awaited platform r with
    | .ok (b, _) => some (.admitted b)
    | .error _ => none
  | .openLog id =>
    match s.task? id with
    | some ⟨b, .arrived⟩ =>
      match s.logs.reset s.disk b.project with
      | (.error cause, _) => some (.unopened b cause)
      | (.ok _, _) => some (.opened b)
    | _ => none
  | .ask id =>
    match s.task? id with
    | some ⟨b, .opened _⟩ => if s.permits.free = 0 then some (.queued b) else some (.granted b)
    | _ => none
  | .call id =>
    match s.task? id with
    | some ⟨b, .asking _⟩ => if id ∈ s.permits.holders then some (.called b) else none
    | _ => none
  | .writeLine id line =>
    match s.task? id with
    | some ⟨b, .running sink⟩ =>
      match sink.writeLine s.disk line with
      | .error cause => some (.refused b line cause)
      | .ok _ => some (.wrote b line)
    | _ => none
  | .close id result =>
    match s.task? id with
    | some ⟨b, .running _⟩ => some (.closed b result)
    | _ => none
  | .giveBack id =>
    match s.task? id with
    | some ⟨b, .closed _⟩ => some (.released b s.permits.heir?)
    | _ => none
  | .record id =>
    match s.task? id with
    | some ⟨b, .leaving result⟩ => some (.recorded b result)
    | _ => none
  | .abandon id =>
    match s.task? id with
    | some ⟨b, stage⟩ =>
      if b.awaited && !stage.isLeaving then
        some (.dropped b stage (if id ∈ s.permits.holders then s.permits.heir? else none))
      else none
    | none => none
  | .stop => some .stopped

/-- What happens in the course of several moves. -/
def trace (s : Dispatcher) : List Move → Trace
  | [] => []
  | m :: ms => (s.happening? m).toList ++ trace (s.apply m) ms

/-- One thing happens in a state and leaves another one. A build is named by what stands under its
number among the live builds. -/
inductive Step (s : Dispatcher) : Happening → Dispatcher → Prop
  | admitted {b : Build} {platform : Platform} {registry : Registry} (hid : b.id = s.nextId)
      (hc : s.check platform b.request = .ok registry) :
      Step s (.admitted b) { s with
        registry := registry
        tasks := s.tasks ++ [⟨b, .arrived⟩]
        nextId := s.nextId + 1 }
  | opened {b : Build} {sink : LogSink} {disk : Disk} (ht : s.task? b.id = some ⟨b, .arrived⟩)
      (hr : s.logs.reset s.disk b.project = (.ok sink, disk)) :
      Step s (.opened b) ({ s with disk := disk }.setStage b.id (.opened sink))
  | unopened {b : Build} {cause : IoFault} {disk : Disk}
      (ht : s.task? b.id = some ⟨b, .arrived⟩)
      (hr : s.logs.reset s.disk b.project = (.error cause, disk)) :
      Step s (.unopened b cause)
        ({ s with disk := disk }.setStage b.id (.leaving (.error (.io cause))))
  | granted {b : Build} {sink : LogSink} (ht : s.task? b.id = some ⟨b, .opened sink⟩)
      (hf : s.permits.free ≠ 0) :
      Step s (.granted b)
        ({ s with permits := s.permits.acquire b.id }.setStage b.id (.asking sink))
  | queued {b : Build} {sink : LogSink} (ht : s.task? b.id = some ⟨b, .opened sink⟩)
      (hf : s.permits.free = 0) :
      Step s (.queued b)
        ({ s with permits := s.permits.acquire b.id }.setStage b.id (.asking sink))
  | called {b : Build} {sink : LogSink} (ht : s.task? b.id = some ⟨b, .asking sink⟩)
      (hp : b.id ∈ s.permits.holders) :
      Step s (.called b)
        ({ s with calls := s.calls ++ [s.callOf b] }.setStage b.id (.running sink))
  | wrote {b : Build} {sink sink' : LogSink} {disk : Disk} {line : String}
      (ht : s.task? b.id = some ⟨b, .running sink⟩)
      (hw : sink.writeLine s.disk line = .ok (sink', disk)) :
      Step s (.wrote b line) ({ s with disk := disk }.setStage b.id (.running sink'))
  | refused {b : Build} {sink : LogSink} {line : String} {cause : IoFault}
      (ht : s.task? b.id = some ⟨b, .running sink⟩)
      (hw : sink.writeLine s.disk line = .error cause) :
      Step s (.refused b line cause) s
  | closed {b : Build} {sink : LogSink} {result : BuildResult}
      (ht : s.task? b.id = some ⟨b, .running sink⟩) :
      Step s (.closed b result)
        ({ s with disk := s.trailed sink result }.setStage b.id (.closed result))
  | released {b : Build} {result : BuildResult} (ht : s.task? b.id = some ⟨b, .closed result⟩) :
      Step s (.released b s.permits.heir?)
        ({ s with permits := s.permits.release b.id }.setStage b.id (.leaving result))
  | recorded {b : Build} {result : BuildResult}
      (ht : s.task? b.id = some ⟨b, .leaving result⟩) :
      Step s (.recorded b result) ({ s with
        registry := (s.registry.complete b.project result.state).2
        endings := s.endings ++ [(b.id, result)] }.dismiss b.id)
  | dropped {b : Build} {stage : Stage} (ht : s.task? b.id = some ⟨b, stage⟩)
      (ha : b.awaited = true) (hl : stage.isLeaving = false) :
      Step s (.dropped b stage (if b.id ∈ s.permits.holders then s.permits.heir? else none))
        ({ s with permits := s.permits.giveUp b.id }.dismiss b.id)
  | stopped : Step s .stopped s.stop

/-- What stands under a number has that number. -/
theorem id_of_task? {s : Dispatcher} {id : BuildId} {t : Task} (h : s.task? id = some t) :
    t.build.id = id := by
  simpa using List.find?_some h

theorem mem_of_task? {s : Dispatcher} {id : BuildId} {t : Task} (h : s.task? id = some t) :
    t ∈ s.tasks :=
  List.mem_of_find?_eq_some h

/-- **The moves are the steps.** A move by which nothing happens changes nothing, and any other one
leads where `Step` says. -/
theorem step_of_happening? (s : Dispatcher) (m : Move) :
    (s.happening? m = none ∧ s.apply m = s) ∨
      ∃ e, s.happening? m = some e ∧ Step s e (s.apply m) := by
  -- A move looks up a number and then the stage that it is for; where one of them is not as it
  -- should be, both functions come to their last branch.
  cases m with
  | accept awaited platform r =>
    cases hc : s.check platform r with
    | error e =>
      exact .inl ⟨by simp only [happening?, accept, hc], by simp only [apply, accept, hc]⟩
    | ok registry =>
      refine .inr ⟨.admitted ⟨s.nextId, r, awaited⟩, by simp only [happening?, accept, hc], ?_⟩
      simpa only [apply, accept, hc] using
        Step.admitted (s := s) (b := ⟨s.nextId, r, awaited⟩) rfl hc
  | openLog id =>
    rcases ht : s.task? id with - | ⟨b, stage⟩
    · exact .inl ⟨by simp only [happening?, ht], by simp only [apply, openLog, ht]⟩
    obtain rfl : b.id = id := id_of_task? ht
    cases stage with
    | arrived =>
      rcases hr : s.logs.reset s.disk b.project with ⟨cause | sink, disk⟩
      · refine .inr ⟨.unopened b cause, by simp only [happening?, ht, hr], ?_⟩
        simpa only [apply, openLog, ht, hr] using Step.unopened ht hr
      · refine .inr ⟨.opened b, by simp only [happening?, ht, hr], ?_⟩
        simpa only [apply, openLog, ht, hr] using Step.opened ht hr
    | _ => exact .inl ⟨by simp only [happening?, ht], by simp only [apply, openLog, ht]⟩
  | ask id =>
    rcases ht : s.task? id with - | ⟨b, stage⟩
    · exact .inl ⟨by simp only [happening?, ht], by simp only [apply, ask, ht]⟩
    obtain rfl : b.id = id := id_of_task? ht
    cases stage with
    | opened sink =>
      by_cases hf : s.permits.free = 0
      · refine .inr ⟨.queued b, by simp only [happening?, ht, if_pos hf], ?_⟩
        simpa only [apply, ask, ht] using Step.queued ht hf
      · refine .inr ⟨.granted b, by simp only [happening?, ht, if_neg hf], ?_⟩
        simpa only [apply, ask, ht] using Step.granted ht hf
    | _ => exact .inl ⟨by simp only [happening?, ht], by simp only [apply, ask, ht]⟩
  | call id =>
    rcases ht : s.task? id with - | ⟨b, stage⟩
    · exact .inl ⟨by simp only [happening?, ht], by simp only [apply, call, ht]⟩
    obtain rfl : b.id = id := id_of_task? ht
    cases stage with
    | asking sink =>
      by_cases hp : b.id ∈ s.permits.holders
      · refine .inr ⟨.called b, by simp only [happening?, ht, if_pos hp], ?_⟩
        simpa only [apply, call, ht, if_pos hp] using Step.called ht hp
      · exact .inl ⟨by simp only [happening?, ht, if_neg hp],
          by simp only [apply, call, ht, if_neg hp]⟩
    | _ => exact .inl ⟨by simp only [happening?, ht], by simp only [apply, call, ht]⟩
  | writeLine id line =>
    rcases ht : s.task? id with - | ⟨b, stage⟩
    · exact .inl ⟨by simp only [happening?, ht], by simp only [apply, writeLine, ht]⟩
    obtain rfl : b.id = id := id_of_task? ht
    cases stage with
    | running sink =>
      rcases hw : sink.writeLine s.disk line with cause | ⟨sink', disk⟩
      · refine .inr ⟨.refused b line cause, by simp only [happening?, ht, hw], ?_⟩
        simpa only [apply, writeLine, ht, hw] using Step.refused ht hw
      · refine .inr ⟨.wrote b line, by simp only [happening?, ht, hw], ?_⟩
        simpa only [apply, writeLine, ht, hw] using Step.wrote ht hw
    | _ => exact .inl ⟨by simp only [happening?, ht], by simp only [apply, writeLine, ht]⟩
  | close id result =>
    rcases ht : s.task? id with - | ⟨b, stage⟩
    · exact .inl ⟨by simp only [happening?, ht], by simp only [apply, close, ht]⟩
    obtain rfl : b.id = id := id_of_task? ht
    cases stage with
    | running sink =>
      refine .inr ⟨.closed b result, by simp only [happening?, ht], ?_⟩
      simpa only [apply, close, ht] using Step.closed ht
    | _ => exact .inl ⟨by simp only [happening?, ht], by simp only [apply, close, ht]⟩
  | giveBack id =>
    rcases ht : s.task? id with - | ⟨b, stage⟩
    · exact .inl ⟨by simp only [happening?, ht], by simp only [apply, giveBack, ht]⟩
    obtain rfl : b.id = id := id_of_task? ht
    cases stage with
    | closed result =>
      refine .inr ⟨.released b s.permits.heir?, by simp only [happening?, ht], ?_⟩
      simpa only [apply, giveBack, ht] using Step.released ht
    | _ => exact .inl ⟨by simp only [happening?, ht], by simp only [apply, giveBack, ht]⟩
  | record id =>
    rcases ht : s.task? id with - | ⟨b, stage⟩
    · exact .inl ⟨by simp only [happening?, ht], by simp only [apply, record, ht]⟩
    obtain rfl : b.id = id := id_of_task? ht
    cases stage with
    | leaving result =>
      refine .inr ⟨.recorded b result, by simp only [happening?, ht], ?_⟩
      simpa only [apply, record, ht] using Step.recorded ht
    | _ => exact .inl ⟨by simp only [happening?, ht], by simp only [apply, record, ht]⟩
  | abandon id =>
    rcases ht : s.task? id with - | ⟨b, stage⟩
    · exact .inl ⟨by simp only [happening?, ht], by simp only [apply, abandon, ht]⟩
    obtain rfl : b.id = id := id_of_task? ht
    by_cases ha : (b.awaited && !stage.isLeaving) = true
    · have hb : b.awaited = true ∧ stage.isLeaving = false := by simpa using ha
      refine .inr ⟨.dropped b stage (if b.id ∈ s.permits.holders then s.permits.heir? else none),
        by simp only [happening?, ht, if_pos ha], ?_⟩
      simpa only [apply, abandon, ht, if_pos ha] using Step.dropped ht hb.1 hb.2
    · exact .inl ⟨by simp only [happening?, ht, if_neg ha],
        by simp only [apply, abandon, ht, if_neg ha]⟩
  | stop => exact .inr ⟨_, rfl, .stopped⟩

/-- A move by which something happens leads where `Step` says. -/
theorem step_apply {s : Dispatcher} {m : Move} {e : Happening} (h : s.happening? m = some e) :
    Step s e (s.apply m) := by
  rcases step_of_happening? s m with ⟨hnone, -⟩ | ⟨e', he, hs⟩
  · rw [h] at hnone
    cases hnone
  · rw [h] at he
    exact Option.some.inj he ▸ hs

/-! ## Runs -/

theorem applyAll_append (s : Dispatcher) (ms ms' : List Move) :
    s.applyAll (ms ++ ms') = (s.applyAll ms).applyAll ms' := List.foldl_append

theorem trace_append (s : Dispatcher) (ms ms' : List Move) :
    s.trace (ms ++ ms') = s.trace ms ++ (s.applyAll ms).trace ms' := by
  induction ms generalizing s with
  | nil => rfl
  | cons m ms ih =>
    simp only [List.cons_append, trace, ih, List.append_assoc]
    rfl

theorem applyAll_append_one (s : Dispatcher) (ms : List Move) (m : Move) :
    s.applyAll (ms ++ [m]) = (s.applyAll ms).apply m := applyAll_append s ms [m]

theorem trace_append_one (s : Dispatcher) (ms : List Move) (m : Move) :
    s.trace (ms ++ [m]) = s.trace ms ++ ((s.applyAll ms).happening? m).toList := by
  rw [trace_append, trace, trace, List.append_nil]

/-- A run begins with what happens by its first move. -/
theorem run_cons {s s' : Dispatcher} {m : Move} {e : Happening} (he : s.happening? m = some e)
    (ha : s.apply m = s') (ms : List Move) :
    s.applyAll (m :: ms) = s'.applyAll ms ∧ s.trace (m :: ms) = e :: s'.trace ms := by
  subst ha
  exact ⟨rfl, by rw [trace, he, Option.toList_some, List.singleton_append]⟩

/-- Whatever has happened in a run, happened by one of its moves, in the state that those before it
led to. -/
theorem exists_move_of_mem_trace {s : Dispatcher} {moves : List Move} {e : Happening}
    (h : e ∈ s.trace moves) :
    ∃ before m after, moves = before ++ m :: after ∧
      (s.applyAll before).happening? m = some e := by
  induction moves generalizing s with
  | nil => cases h
  | cons m ms ih =>
    rcases List.mem_append.1 h with h | h
    · exact ⟨[], m, ms, rfl, Option.mem_toList.1 h⟩
    · obtain ⟨before, m', after, rfl, he⟩ := ih h
      exact ⟨m :: before, m', after, rfl, he⟩

/-- **Induction over a run.** What holds of a state and the empty trace, and is kept by every step,
holds of every state that is reached and its trace. -/
theorem run_induction {P : Dispatcher → Trace → Prop} {s : Dispatcher} (start : P s [])
    (step : ∀ s tr e s', P s tr → Step s e s' → P s' (tr ++ [e])) (moves : List Move) :
    P (s.applyAll moves) (s.trace moves) := by
  -- The trace grows at its end, so the run is taken apart there.
  induction moves using List.reverseRecOn with
  | nil => exact start
  | append_singleton ms m ih =>
    rw [applyAll_append, trace_append]
    simp only [applyAll, trace, List.foldl_cons, List.foldl_nil, List.append_nil]
    rcases step_of_happening? (s.applyAll ms) m with ⟨hn, ha⟩ | ⟨e, he, hs⟩
    · simp only [applyAll] at hn ha ih ⊢
      rw [hn, ha]
      simpa using ih
    · simp only [applyAll] at he hs ih ⊢
      rw [he]
      exact step _ _ _ _ ih hs

/-- What every step keeps is kept when a run goes on. -/
theorem kept_by_run {I : Dispatcher → Trace → Prop}
    (step : ∀ s tr e s', I s tr → Step s e s' → I s' (tr ++ [e])) {s : Dispatcher} {tr : Trace}
    (h : I s tr) (moves : List Move) : I (s.applyAll moves) (tr ++ s.trace moves) := by
  refine run_induction (P := fun s' more => I s' (tr ++ more)) ?_ ?_ moves
  · rwa [List.append_nil]
  · intro s' more e s'' h hs
    rw [← List.append_assoc]
    exact step _ _ _ _ h hs

end Dispatcher

end BuildService
