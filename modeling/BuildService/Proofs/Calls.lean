import BuildService.Proofs.Entry
import BuildService.Proofs.Environment
/-!
The calls of the build tool: which builds make them, when, and with what.

A call is kept as it was made, so what a whole run has handed to the tool can be
read off the last state. `Invoked` says that these calls are those of the builds
whose tool was called, one for one, so that everything about a call comes down to
the request of one build. That the project of this build is running at the moment
of the call is a matter of the registry, which may have held anything at the
start: `Occupied` says that no two live builds are of one project and that each
of them keeps its project running, which is what one of them has to know of the
others when it is recorded.
-/

set_option autoImplicit false

namespace BuildService

/-- The build whose tool is called, if that is what happens. -/
def Happening.caller? : Happening → Option Build
  | .called b => some b
  | _ => none

namespace Trace

/-- The builds whose tool was called, in order. -/
def callers (tr : Trace) : List Build := tr.filterMap Happening.caller?

theorem callers_append (tr : Trace) (e : Happening) :
    callers (tr ++ [e]) = tr.callers ++ e.caller?.toList := filterMap_append_one _ tr e

theorem map_id_callers (tr : Trace) : tr.callers.map (·.id) = tr.called := by
  rw [callers, List.map_filterMap, called]
  congr 1
  funext e
  cases e <;> rfl

theorem mem_callers {tr : Trace} {b : Build} : b ∈ tr.callers ↔ .called b ∈ tr :=
  mem_filterMap_iff fun e b => by cases e <;> simp [Happening.caller?]

end Trace

namespace Dispatcher

variable {settings : Settings} {s s' : Dispatcher} {tr : Trace} {e : Happening}

/-! ## Projects of live builds -/

/-- Each live build keeps its project running, and no other live build is of this project. -/
structure Occupied (s : Dispatcher) : Prop where
  single : (s.live.map Build.project).Nodup
  running : ∀ b ∈ s.live, s.registry.get b.project = .running

namespace Occupied

/-- Two live builds of one project have one number. -/
theorem id_eq (h : Occupied s) {b c : Build} (hb : b ∈ s.live) (hc : c ∈ s.live)
    (hp : c.project = b.project) : c.id = b.id := by
  rw [List.inj_on_of_nodup_map h.single hc hb hp]

theorem step (h : Occupied s) (hs : Step s e s') : Occupied s' := by
  by_cases hi : e.isInner = true
  · obtain ⟨hl, hr, -⟩ := hs.inner hi
    exact ⟨by rw [hl]; exact h.single, by rw [hl, hr]; exact h.running⟩
  cases hs with
  | @admitted b _ registry _ hc =>
    -- The project did not run, so none of the live builds is of it.
    have hbegin : s.registry.tryBegin b.project = .ok registry := (check_eq_ok_iff.1 hc).2.2
    obtain ⟨hidle, hget⟩ := Registry.get_of_tryBegin hbegin
    have hother : ∀ c ∈ s.live, c.project ≠ b.project := fun c hc hp =>
      hidle ((congrArg s.registry.get hp).symm.trans (h.running c hc))
    have hlive : (s.tasks ++ [(⟨b, .arrived⟩ : Task)]).map (·.build) = s.live ++ [b] := by
      simp [live]
    constructor
    · simp only [live, hlive, List.map_append, List.map_singleton]
      refine List.nodup_append.2 ⟨h.single, List.nodup_singleton _, ?_⟩
      rintro p hp q hq rfl
      obtain ⟨c, hc, rfl⟩ := List.mem_map.1 hp
      exact hother c hc (List.mem_singleton.1 hq)
    · intro c hc
      simp only [live, hlive, List.mem_append, List.mem_singleton] at hc
      refine (hget c.project).trans ?_
      rcases hc with hc | rfl
      · rw [if_neg (hother c hc)]
        exact h.running c hc
      · exact if_pos rfl
  | @recorded b result ht =>
    have hb : b ∈ s.live := mem_live_of_task? ht
    have hget := Registry.get_complete result.state_isTerminal (h.running b hb)
    constructor
    · rw [live_dismiss]
      exact h.single.sublist (List.filter_sublist.map _)
    · intro c hc
      rw [live_dismiss, List.mem_filter, bne_iff_ne] at hc
      refine (hget c.project).trans ?_
      rw [if_neg fun hp => hc.2 (h.id_eq hb hc.1 hp)]
      exact h.running c hc.1
  | dropped _ _ _ =>
    constructor
    · rw [live_dismiss]
      exact h.single.sublist (List.filter_sublist.map _)
    · intro c hc
      rw [live_dismiss, List.mem_filter] at hc
      exact h.running c hc.1
  | _ => exact absurd rfl hi

end Occupied

/-- Whatever the registry held at the start, a live build keeps its project running. -/
theorem occupied (settings : Settings) (registry : Registry) (disk : Disk) (moves : List Move) :
    Occupied ((start settings registry disk).applyAll moves) :=
  run_induction (P := fun s _ => Occupied s) ⟨by simp [live, start], by simp [live, start]⟩
    (fun _ _ _ _ h hs => h.step hs) moves

/-! ## Calls and builds -/

/-- Only a call of the tool adds to the calls. -/
theorem Step.calls_eq (hs : Step s e s') : s'.calls = s.calls ++ e.caller?.toList.map s.callOf := by
  cases hs with
  | called _ _ => rfl
  | _ => exact (List.append_nil _).symm

/-- Who calls its tool has asked for a permit. -/
theorem Step.asking_of_called {b : Build} (hs : Step s (.called b) s') :
    ∃ sink, s.task? b.id = some ⟨b, .asking sink⟩ := by
  cases hs with
  | called hb _ => exact ⟨_, hb⟩

/-- The calls are those of the builds whose tool was called, and each of these builds has made one
call. -/
structure Invoked (settings : Settings) (s : Dispatcher) (tr : Trace) : Prop where
  entries : Entries settings.maxBuilds s tr
  same : s.settings = settings
  calls : s.calls = tr.callers.map fun b => ⟨settings.command b.request, settings.timeout⟩
  nodup : tr.called.Nodup

namespace Invoked

/-- A build that has still to call its tool has not called it. -/
theorem not_mem_called (h : Invoked settings s tr) {b : Build} {sink : LogSink}
    (hb : s.task? b.id = some ⟨b, .asking sink⟩) : b.id ∉ tr.called :=
  h.entries.uncalled _ (mem_of_task? hb) (.inr rfl)

theorem not_called_before (h : Invoked settings s tr) {b : Build} (hs : Step s (.called b) s') :
    .called b ∉ tr := by
  intro hmem
  obtain ⟨sink, hb⟩ := hs.asking_of_called
  refine h.not_mem_called hb ?_
  rw [← Trace.map_id_callers]
  exact List.mem_map_of_mem (Trace.mem_callers.2 hmem)

theorem step (h : Invoked settings s tr) (hs : Step s e s') :
    Invoked settings s' (tr ++ [e]) := by
  refine ⟨h.entries.step hs, hs.settings_eq.trans h.same, ?_, ?_⟩
  · rw [hs.calls_eq, Trace.callers_append, List.map_append, h.calls]
    unfold callOf
    rw [h.same]
  · rw [Trace.called_append]
    cases hs with
    | called hb _ =>
      refine List.nodup_append.2 ⟨h.nodup, List.nodup_singleton _, ?_⟩
      rintro i hi j hj rfl
      exact h.not_mem_called hb (List.mem_singleton.1 hj ▸ hi)
    | _ => simpa [Happening.called?] using h.nodup

end Invoked

/-- In every run the calls are those of the builds whose tool was called. -/
theorem invoked (settings : Settings) (registry : Registry) (disk : Disk) (moves : List Move) :
    Invoked settings ((start settings registry disk).applyAll moves)
      ((start settings registry disk).trace moves) := by
  refine run_induction ?_ (fun _ _ _ _ h hs => h.step hs) moves
  exact ⟨entries settings registry disk [], rfl, rfl, by simp [Trace.called]⟩

/-- What admits a build is that it was asked for, for the platform that can be built, with a request
that passes every check. -/
theorem move_of_admitted {m : Move} {b : Build} (h : s.happening? m = some (.admitted b)) :
    m = .accept b.awaited .android b.request ∧ b.request.validate = .ok () := by
  have hs := step_apply h
  generalize s.apply m = s' at hs
  cases hs with
  | admitted _ hc => exact ⟨eq_move_of_happening? h, (check_eq_ok_iff.1 hc).2.1⟩

/-- What has been admitted was asked for, at a moment at which its request passed every check. -/
theorem accept_of_mem_admitted {moves : List Move} {b : Build}
    (h : b ∈ (s.trace moves).admitted) :
    b.request.validate = .ok () ∧ ∃ before after,
      moves = before ++ .accept b.awaited .android b.request :: after ∧
        (s.applyAll before).happening? (.accept b.awaited .android b.request) =
          some (.admitted b) := by
  obtain ⟨before, m, after, rfl, he⟩ := exists_move_of_mem_trace (Trace.mem_admitted.1 h)
  obtain ⟨rfl, hv⟩ := move_of_admitted he
  exact ⟨hv, before, after, rfl, he⟩

/-! ## What reaches the tool -/

/-- **What reaches the build tool.** Whatever the registry and the disk held at the start and
whatever builds are asked for, called, ended, given up and recorded in whatever order, at every
moment:
- the calls of the tool are those of the builds whose tool was called, in this order, and no build
  has called its tool twice;
- when the tool of a build is called, its project is running; the build has not called its tool
  before; and it was admitted by an earlier move that asked for it, for Android, with a request that
  passes every check;
- a call has the program, the arguments, the directory and the time of the settings; its label is
  the project id of the request; its variables are the seven, which are all different, in a fixed
  order, and the request can be read off them; and no value of a variable is empty or holds a
  control character, so neither a zero byte nor a line break;
- any two calls, of this run and of any other run with the same settings, differ in nothing but the
  label and the values of the variables, and if they agree in these values they agree in the
  label. -/
theorem calls_confined (settings : Settings) (registry : Registry) (disk : Disk)
    (moves : List Move) :
    let s := (start settings registry disk).applyAll moves
    let tr := (start settings registry disk).trace moves
    (s.calls = tr.callers.map (fun b => ⟨settings.command b.request, settings.timeout⟩) ∧
      (tr.callers.map (·.id)).Nodup) ∧
    (∀ m b, s.happening? m = some (.called b) →
      s.registry.get b.project = .running ∧ b ∉ tr.callers ∧ b.request.validate = .ok () ∧
        ∃ before after, moves = before ++ .accept b.awaited .android b.request :: after ∧
          ((start settings registry disk).applyAll before).happening?
            (.accept b.awaited .android b.request) = some (.admitted b)) ∧
    (∀ call ∈ s.calls, ∃ r : Request, r.validate = .ok () ∧
      call.command.program = settings.program ∧ call.command.args = settings.args ∧
      call.command.workingDir = some settings.workingDir ∧ call.timeout = settings.timeout ∧
      call.command.label = r.projectId ∧
      call.command.environment.map Prod.fst = ["URL", "APP_ENV", "SOCKET_PROJECT_TOKEN",
        "SOCKET_PROJECT_ID", "styleURL", "APP_NAME", "APP_PACKAGE_NAME"] ∧
      (call.command.environment.map Prod.fst).Nodup ∧
      Request.ofEnvironment call.command.environment = r ∧
      ∀ v ∈ call.command.environment, v.2 ≠ "" ∧
        (∀ c ∈ v.2.toList, Text.isControl c = false) ∧
        '\x00' ∉ v.2.toList ∧ '\n' ∉ v.2.toList ∧ '\r' ∉ v.2.toList) ∧
    ∀ registry' disk' moves',
      ∀ call ∈ s.calls, ∀ call' ∈ ((start settings registry' disk').applyAll moves').calls,
        call' = { call with command := { call.command with
          label := call'.command.label
          environment := call'.command.environment } } ∧
        call'.command.environment.map Prod.fst = call.command.environment.map Prod.fst ∧
        (call'.command.environment = call.command.environment → call' = call) := by
  intro s tr
  have h : Invoked settings s tr := invoked settings registry disk moves
  -- Every call is the call of an admitted build, in any run.
  have hcall : ∀ {registry disk moves},
      ∀ call ∈ ((start settings registry disk).applyAll moves).calls, ∃ r : Request,
        r.validate = .ok () ∧ call = ⟨settings.command r, settings.timeout⟩ := by
    intro registry disk moves call hmem
    have h := invoked settings registry disk moves
    rw [h.calls] at hmem
    obtain ⟨b, hb, rfl⟩ := List.mem_map.1 hmem
    have hadmitted := h.entries.turns.allotted.rooted.mentioned _ (Trace.mem_callers.1 hb) b rfl
    exact ⟨b.request, (accept_of_mem_admitted hadmitted).1, rfl⟩
  refine ⟨⟨h.calls, by rw [Trace.map_id_callers]; exact h.nodup⟩, ?_, ?_, ?_⟩
  · intro m b hm
    obtain ⟨sink, hb⟩ := (step_apply hm).asking_of_called
    have hlive : b ∈ s.live := mem_live_of_task? hb
    refine ⟨(occupied settings registry disk moves).running b hlive, fun hc => ?_,
      accept_of_mem_admitted (h.entries.turns.allotted.rooted.live b hlive)⟩
    refine h.not_mem_called hb ?_
    rw [← Trace.map_id_callers]
    exact List.mem_map_of_mem hc
  · intro call hmem
    obtain ⟨r, hv, rfl⟩ := hcall call hmem
    refine ⟨r, hv, rfl, rfl, rfl, rfl, rfl, r.map_fst_environment, ?_,
      r.ofEnvironment_environment, fun v hvar => ?_⟩
    · rw [show (settings.command r).environment = r.environment from rfl, r.map_fst_environment]
      exact Request.nodup_variableNames
    · obtain ⟨hne, hclean⟩ := Request.isClean_of_mem_environment hv v hvar
      have habsent : ∀ c, Text.isControl c = true → c ∉ v.2.toList := fun c hc hin => by
        rw [hclean c hin] at hc
        cases hc
      exact ⟨hne, hclean, habsent _ (by decide), habsent _ (by decide), habsent _ (by decide)⟩
  · intro registry' disk' moves' call hmem call' hmem'
    obtain ⟨r, -, rfl⟩ := hcall call hmem
    obtain ⟨r', -, rfl⟩ := hcall call' hmem'
    refine ⟨rfl, r'.map_fst_environment.trans r.map_fst_environment.symm, fun henv => ?_⟩
    -- Equal variables come from equal requests.
    have hr : r'.environment = r.environment := henv
    rw [← r.ofEnvironment_environment, ← hr, r'.ofEnvironment_environment]

end Dispatcher

end BuildService
