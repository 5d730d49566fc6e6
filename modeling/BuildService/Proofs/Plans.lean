import BuildService.Proofs.Drain
import BuildService.Proofs.Readiness
import BuildService.Proofs.Running
import Mathlib.Data.List.Perm.Subperm
/-!
Builds that go by plans.

A plan says of one build what is asked for, which lines its tool writes, and how the
tool ends. A run performs some plans if it asks for these builds and no others, each
at most once, and if every tool does what its plan says as far as it has come; when
a build is asked for and when its tool writes or ends is left to the run. Performing
is not being done: a run that has performed nothing yet performs all plans. It is
complete when every build has been asked for and none is live any more.

What a complete run comes to is another matter. Here it is said that there is one
wherever there is a permit at all: a run can be stopped at any moment, and what is
missing can be performed from there (`Performs.exists_completion`). Builds that have
not been asked for are asked for first. Then somebody can always go on who does not
wait for a permit, and he comes nearer to his end; a tool writes its remaining lines
first, which brings nobody nearer to his end but is soon over.
-/

set_option autoImplicit false

namespace BuildService

/-- What is to become of one build: what is asked for, the lines that its tool writes, and how the
tool ends. -/
structure Plan where
  request : Request
  lines : List String
  result : BuildResult

namespace Plan

def project (plan : Plan) : String := plan.request.projectId

end Plan

namespace Trace

/-- What the tool of a build has done so far is what its plan says: it has written the first lines
of the plan, and if it has ended, then as planned and after the last of them. -/
structure Follows (tr : Trace) (b : Build) (plan : Plan) : Prop where
  lines : tr.written b <+: plan.lines
  ended : ∀ result, .closed b result ∈ tr → result = plan.result ∧ tr.written b = plan.lines

/-- No log is closed whose build has not come to its end. -/
theorem not_closed_of_result? {tr : Trace} {b : Build} (h : tr.result? b = none)
    (result : BuildResult) : .closed b result ∉ tr := by
  intro hr
  simpa [Happening.result?] using List.findSome?_eq_none_iff.1 h _ hr

namespace Follows

variable {tr : Trace} {b : Build} {plan : Plan} {e : Happening}

/-- What is not heard of has done nothing against its plan. -/
theorem of_unheard (h : ∀ e ∈ tr, e.build? = some b → e = .admitted b) : tr.Follows b plan := by
  have hwritten : tr.written b = [] := by
    refine List.filterMap_eq_nil_iff.2 fun e he => ?_
    by_cases hb : e.build? = some b
    · rw [h e he hb]
      rfl
    · exact Happening.line?_eq_none hb
  refine ⟨hwritten ▸ List.nil_prefix, fun result hr => ?_⟩
  cases h _ hr rfl

theorem append_of_silent (h : tr.Follows b plan) (hline : e.line? b = none)
    (hclosed : ∀ result, e ≠ .closed b result) : Follows (tr ++ [e]) b plan := by
  have hwritten : written (tr ++ [e]) b = tr.written b := by
    rw [written_append, hline, Option.toList_none, List.append_nil]
  refine ⟨hwritten ▸ h.lines, fun result hr => ?_⟩
  rw [hwritten]
  refine h.ended result ((List.mem_append.1 hr).resolve_right fun hr => ?_)
  exact hclosed result (List.mem_singleton.1 hr).symm

theorem append_wrote {line : String} (hopen : ∀ result, .closed b result ∉ tr)
    (hline : tr.written b ++ [line] <+: plan.lines) : Follows (tr ++ [.wrote b line]) b plan := by
  refine ⟨?_, fun result hr => ?_⟩
  · rw [written_append]
    simpa [Happening.line?] using hline
  · rcases List.mem_append.1 hr with hr | hr
    · exact absurd hr (hopen result)
    · cases List.mem_singleton.1 hr

theorem append_closed (hopen : ∀ result, .closed b result ∉ tr)
    (hlines : tr.written b = plan.lines) :
    Follows (tr ++ [.closed b plan.result]) b plan := by
  have hwritten : written (tr ++ [.closed b plan.result]) b = plan.lines := by
    rw [written_append, hlines]
    exact List.append_nil _
  refine ⟨hwritten ▸ List.prefix_refl _, fun result hr => ⟨?_, hwritten⟩⟩
  rcases List.mem_append.1 hr with hr | hr
  · exact absurd hr (hopen result)
  · cases List.mem_singleton.1 hr
    rfl

end Follows

end Trace

namespace Dispatcher

variable {settings : Settings} {disk : Disk} {plans : List Plan} {moves : List Move} {b : Build}
  {m : Move} {e : Happening} {plan : Plan}

/-- What a move asks to be built, if it does. -/
def Move.request? : Move → Option Request
  | .accept _ .android r => some r
  | _ => none

/-- Whether a move neither gives a build up nor stops the service. -/
def Move.isOrderly : Move → Bool
  | .abandon _ | .stop => false
  | _ => true

/-- A run of a new service in which some plans are performed, as far as it goes: nothing else is
asked for, nothing is asked for twice, nothing is given up, every tool follows its plan, and no log
fails to open. -/
structure Performs (settings : Settings) (disk : Disk) (plans : List Plan) (moves : List Move) :
    Prop where
  submitted : (moves.filterMap Move.request?).Subperm (plans.map (·.request))
  orderly : ∀ m ∈ moves, m.isOrderly = true
  follows : ∀ b ∈ ((start settings .empty disk).trace moves).admitted, ∀ plan ∈ plans,
    b.request = plan.request → ((start settings .empty disk).trace moves).Follows b plan
  opens : ∀ b cause, .unopened b cause ∉ (start settings .empty disk).trace moves

/-- The same when everything is done. -/
structure Completes (settings : Settings) (disk : Disk) (plans : List Plan) (moves : List Move) :
    Prop extends Performs settings disk plans moves where
  all : (moves.filterMap Move.request?).Perm (plans.map (·.request))
  live : ((start settings .empty disk).applyAll moves).live = []

/-- Whether a move is none of a tool: it writes no line and ends no tool. -/
def Move.isSilent : Move → Bool
  | .writeLine _ _ | .close _ _ => false
  | _ => true

theorem silent_of_happening? {s : Dispatcher} (he : s.happening? m = some e)
    (hm : m.isSilent = true) (b : Build) :
    e.line? b = none ∧ ∀ result, e ≠ .closed b result := by
  obtain rfl := eq_move_of_happening? he
  cases e with
  | wrote => cases hm
  | closed => cases hm
  | _ => exact ⟨rfl, fun _ => by simp⟩

/-! ## Going on -/

namespace Performs

theorem nil (settings : Settings) (disk : Disk) (plans : List Plan) :
    Performs settings disk plans [] :=
  ⟨List.nil_subperm, by simp, by simp [trace, Trace.admitted], by simp [trace]⟩

/-- Whoever is admitted has a plan. -/
theorem exists_plan (h : Performs settings disk plans moves)
    (hb : b ∈ ((start settings .empty disk).trace moves).admitted) :
    ∃ plan ∈ plans, b.request = plan.request := by
  obtain ⟨-, before, after, hmoves, -⟩ := accept_of_mem_admitted hb
  have hmem : b.request ∈ moves.filterMap Move.request? :=
    List.mem_filterMap.2 ⟨.accept b.awaited .android b.request, by rw [hmoves]; simp, rfl⟩
  obtain ⟨plan, hplan, hrequest⟩ := List.mem_map.1 (h.submitted.subset hmem)
  exact ⟨plan, hplan, hrequest.symm⟩

section

variable (h : Performs settings disk plans moves)
  (hready : LogStore.Ready ⟨settings.logsDir⟩ disk)
include h hready

/-- On a disk that is ready a run goes on performing with any move that is in order and after which
the tools still follow their plans. -/
theorem snoc (hsubmitted : ((moves ++ [m]).filterMap Move.request?).Subperm (plans.map (·.request)))
    (hm : m.isOrderly = true)
    (hf : ∀ e, ((start settings .empty disk).applyAll moves).happening? m = some e →
      ∀ b ∈ Trace.admitted ((start settings .empty disk).trace moves ++ [e]), ∀ plan ∈ plans,
        b.request = plan.request →
          Trace.Follows ((start settings .empty disk).trace moves ++ [e]) b plan) :
    Performs settings disk plans (moves ++ [m]) := by
  refine ⟨hsubmitted, ?_, ?_, (smooth settings disk hready _).opens⟩
  · intro m' hm'
    rcases List.mem_append.1 hm' with hm' | hm'
    · exact h.orderly m' hm'
    · exact List.mem_singleton.1 hm' ▸ hm
  · rw [trace_append_one]
    cases he : ((start settings .empty disk).applyAll moves).happening? m with
    | none => simpa using h.follows
    | some e => exact hf e he

/-- A move that is none of a tool does nothing against a plan. -/
theorem snoc_silent
    (hsubmitted : ((moves ++ [m]).filterMap Move.request?).Subperm (plans.map (·.request)))
    (hm : m.isOrderly = true) (hsilent : m.isSilent = true) :
    Performs settings disk plans (moves ++ [m]) := by
  refine h.snoc hready hsubmitted hm fun e he b hb plan hplan hrequest => ?_
  obtain ⟨hline, hclosed⟩ := silent_of_happening? he hsilent b
  by_cases hold : b ∈ ((start settings .empty disk).trace moves).admitted
  · exact (h.follows b hold plan hplan hrequest).append_of_silent hline hclosed
  · -- It is admitted just now, so nothing has been heard of it.
    refine .of_unheard fun e' he' hb' => ?_
    rcases List.mem_append.1 he' with he' | he'
    · have hrooted := rooted settings .empty disk moves
      exact absurd (hrooted.mentioned e' he' b hb') hold
    · obtain rfl := List.mem_singleton.1 he'
      have hnow := (Trace.mem_admitted_append.1 hb).resolve_left hold
      exact (List.mem_singleton.1 (Trace.mem_admitted.1 hnow)).symm

/-- A tool that goes by its plan leaves the other tools to theirs. -/
theorem snoc_tool (hdistinct : (plans.map Plan.project).Nodup) (hplan : plan ∈ plans)
    (hrequest : b.request = plan.request) (hm : m.isOrderly = true) (hnone : m.request? = none)
    (he : ((start settings .empty disk).applyAll moves).happening? m = some e)
    (hb : e.build? = some b)
    (hf : Trace.Follows ((start settings .empty disk).trace moves ++ [e]) b plan) :
    Performs settings disk plans (moves ++ [m]) := by
  refine h.snoc hready ?_ hm fun e' he' c hc plan' hplan' hrequest' => ?_
  · simpa [hnone] using h.submitted
  obtain rfl := Option.some.inj (he.symm.trans he')
  by_cases hbc : c = b
  · subst hbc
    have hproject : plan'.project = plan.project :=
      congrArg Request.projectId (hrequest'.symm.trans hrequest)
    rwa [List.inj_on_of_nodup_map hdistinct hplan' hplan hproject]
  · have hne : e.build? ≠ some c := fun hc => hbc (Option.some.inj (hc.symm.trans hb))
    have hold : c ∈ ((start settings .empty disk).trace moves).admitted := by
      refine (Trace.mem_admitted_append.1 hc).resolve_right fun hnow => hne ?_
      rw [List.mem_singleton.1 (Trace.mem_admitted.1 hnow) |>.symm]
      rfl
    refine (h.follows c hold plan' hplan' hrequest').append_of_silent
      (Happening.line?_eq_none hne) ?_
    rintro result rfl
    exact hne rfl

end

end Performs

/-- A run in which plans are performed and a tool has been called, has written some lines and has not
ended. -/
structure Writing (settings : Settings) (disk : Disk) (plans : List Plan) (moves : List Move)
    (b : Build) (lines : List String) : Prop where
  performs : Performs settings disk plans moves
  written : ((start settings .empty disk).trace moves).written b = lines
  task : ∃ sink, ((start settings .empty disk).applyAll moves).task? b.id = some ⟨b, .running sink⟩

namespace Writing

variable {lines : List String}

theorem not_closed (h : Writing settings disk plans moves b lines) (result : BuildResult) :
    .closed b result ∉ (start settings .empty disk).trace moves := by
  obtain ⟨sink, hb⟩ := h.task
  have haccounted := accounted settings .empty disk moves
  exact Trace.not_closed_of_result? (haccounted.stage _ (mem_of_task? hb)) result

/-- The next line of the plan can be written. -/
theorem snoc (h : Writing settings disk plans moves b lines)
    (hready : LogStore.Ready ⟨settings.logsDir⟩ disk)
    (hdistinct : (plans.map Plan.project).Nodup) (hplan : plan ∈ plans)
    (hrequest : b.request = plan.request) {line : String}
    (hline : lines ++ [line] <+: plan.lines) :
    Writing settings disk plans (moves ++ [.writeLine b.id line]) b (lines ++ [line]) := by
  obtain ⟨sink, hb⟩ := h.task
  have hlogged := logged settings disk hready.own moves
  obtain ⟨n, d, hwrite, -⟩ := hlogged.keeps_line hb line
  have he : ((start settings .empty disk).applyAll moves).happening? (.writeLine b.id line) =
      some (.wrote b line) := by simp only [happening?, hb, hwrite]
  have hs := step_apply he
  have hn := hlogged.numbered
  refine ⟨h.performs.snoc_tool hready hdistinct hplan hrequest rfl rfl he rfl
    (.append_wrote h.not_closed (h.written ▸ hline)), ?_, ?_⟩
  · rw [trace_append_one, he, Option.toList_some, Trace.written_append, h.written]
    simp [Happening.line?]
  · rw [applyAll_append_one]
    obtain ⟨stage, hnext, hmem⟩ | ⟨_, hc, -⟩ | ⟨_, hc⟩ := hs.exists_next hn (mem_of_task? hb) rfl
    · cases hnext
      exact ⟨_, (task?_eq_some_iff (hn.step hs)).2 ⟨hmem, rfl⟩⟩
    · cases hc
    · cases hc

/-- So all lines of the plan can be written, which brings nobody farther from his end. -/
theorem exists_all (h : Writing settings disk plans moves b lines)
    (hready : LogStore.Ready ⟨settings.logsDir⟩ disk)
    (hdistinct : (plans.map Plan.project).Nodup) (hplan : plan ∈ plans)
    (hrequest : b.request = plan.request) (hlines : lines <+: plan.lines) :
    ∃ rest, Writing settings disk plans (moves ++ rest) b plan.lines ∧
      ((start settings .empty disk).applyAll (moves ++ rest)).ahead ≤
        ((start settings .empty disk).applyAll moves).ahead := by
  obtain ⟨todo, htodo⟩ := hlines
  induction todo generalizing moves lines with
  | nil =>
    rw [List.append_nil] at htodo
    refine ⟨[], ?_, ?_⟩
    · rwa [List.append_nil, ← htodo]
    · simp only [List.append_nil, Nat.le_refl]
  | cons line todo ih =>
    rw [List.append_cons] at htodo
    obtain ⟨rest, hrest, hahead⟩ :=
      ih (h.snoc hready hdistinct hplan hrequest ⟨todo, htodo⟩) htodo
    rw [applyAll_append, applyAll_append_one] at hahead
    have hn := (rooted settings .empty disk moves).numbered
    refine ⟨.writeLine b.id line :: rest, by rwa [List.append_assoc] at hrest, ?_⟩
    rw [applyAll_append]
    exact Nat.le_trans hahead (ahead_apply_le hn rfl)

end Writing

namespace Performs

section

variable (h : Performs settings disk plans moves)
  (hready : LogStore.Ready ⟨settings.logsDir⟩ disk)
include h hready

/-- Wherever somebody is live, somebody can come nearer to his end. -/
theorem exists_nearer (hdistinct : (plans.map Plan.project).Nodup) (hpos : 1 ≤ settings.maxBuilds)
    (hlive : ((start settings .empty disk).applyAll moves).tasks ≠ []) :
    ∃ rest, Performs settings disk plans (moves ++ rest) ∧
      ((start settings .empty disk).applyAll (moves ++ rest)).ahead <
        ((start settings .empty disk).applyAll moves).ahead := by
  have hallotted := allotted settings .empty disk moves
  have hn := hallotted.rooted.numbered
  -- Whatever happens by one move, if it advances somebody it is counted.
  have nearer : ∀ {moves m e}, ((start settings .empty disk).applyAll moves).happening? m = some e →
      e.advances = true → ((start settings .empty disk).applyAll (moves ++ [m])).ahead <
        ((start settings .empty disk).applyAll moves).ahead := by
    intro moves m e he hadv
    rw [applyAll_append_one]
    exact ahead_apply_lt (allotted settings .empty disk moves).rooted.numbered he hadv
  have silent : ∀ {m e}, ((start settings .empty disk).applyAll moves).happening? m = some e →
      e.advances = true → m.request? = none → m.isOrderly = true → m.isSilent = true →
      ∃ rest, Performs settings disk plans (moves ++ rest) ∧
        ((start settings .empty disk).applyAll (moves ++ rest)).ahead <
          ((start settings .empty disk).applyAll moves).ahead := by
    intro m e he hadv hnone hm hsilent
    refine ⟨[m], h.snoc_silent hready ?_ hm hsilent, nearer he hadv⟩
    simpa [hnone] using h.submitted
  obtain ⟨⟨b, stage⟩, ht, hw⟩ := hallotted.exists_not_waits hpos hlive
  have hb : ((start settings .empty disk).applyAll moves).task? b.id = some ⟨b, stage⟩ :=
    (task?_eq_some_iff hn).2 ⟨ht, rfl⟩
  cases stage with
  | asking sink =>
    have hp : b.id ∈ ((start settings .empty disk).applyAll moves).permits.holders := by
      simpa [waits, Stage.isAsking, holds] using hw
    exact silent (happening?_call hb hp) rfl rfl rfl rfl
  | running sink =>
    have hadmitted := hallotted.rooted.live b (mem_live_of_task? hb)
    obtain ⟨plan, hplan, hrequest⟩ := h.exists_plan hadmitted
    have hwriting : Writing settings disk plans moves b _ := ⟨h, rfl, sink, hb⟩
    obtain ⟨rest, hrest, hahead⟩ := hwriting.exists_all hready hdistinct hplan hrequest
      (h.follows b hadmitted plan hplan hrequest).lines
    obtain ⟨sink', hrunning⟩ := hrest.task
    have he := happening?_close hrunning plan.result
    refine ⟨rest ++ [.close b.id plan.result], ?_, ?_⟩
    · rw [← List.append_assoc]
      exact hrest.performs.snoc_tool hready hdistinct hplan hrequest rfl rfl he rfl
        (.append_closed hrest.not_closed hrest.written)
    · rw [← List.append_assoc]
      exact Nat.lt_of_lt_of_le (nearer he rfl) hahead
  | _ =>
    obtain ⟨-, e, he, hadv⟩ := exists_happening_of_moveOf? hn ht rfl
    exact silent he hadv rfl rfl rfl

/-- Once everything has been asked for, everything can be done. -/
theorem exists_completion_of_all (hdistinct : (plans.map Plan.project).Nodup)
    (hpos : 1 ≤ settings.maxBuilds)
    (hall : (moves.filterMap Move.request?).Perm (plans.map (·.request))) :
    ∃ rest, Completes settings disk plans (moves ++ rest) := by
  induction hk : ((start settings .empty disk).applyAll moves).ahead using Nat.strongRecOn
    generalizing moves with
  | ind k ih =>
    by_cases hlive : ((start settings .empty disk).applyAll moves).tasks = []
    · refine ⟨[], ?_⟩
      rw [List.append_nil]
      exact ⟨h, hall, List.map_eq_nil_iff.2 hlive⟩
    obtain ⟨rest, hrest, hnearer⟩ := h.exists_nearer hready hdistinct hpos hlive
    -- Nothing more can be asked for, so nothing more was.
    have hall' := hrest.submitted.perm_of_length_le (by
      rw [List.filterMap_append, List.length_append, ← hall.length_eq]
      exact Nat.le_add_right _ _)
    obtain ⟨rest', hrest'⟩ := ih _ (hk ▸ hnearer) hrest hall' rfl
    exact ⟨rest ++ rest', by rwa [← List.append_assoc]⟩

/-- **What is missing can be performed**, from wherever a run is, if there is a permit at all. -/
theorem exists_completion (hdistinct : (plans.map Plan.project).Nodup)
    (hpos : 1 ≤ settings.maxBuilds) :
    ∃ rest, Completes settings disk plans (moves ++ rest) := by
  induction hk : plans.length - (moves.filterMap Move.request?).length generalizing moves with
  | zero =>
    refine h.exists_completion_of_all hready hdistinct hpos (h.submitted.perm_of_length_le ?_)
    rw [List.length_map]
    omega
  | succ k ih =>
    obtain ⟨r, hr⟩ := h.submitted.exists_of_length_lt (by
      rw [List.length_map]
      omega)
    have hmore : (moves ++ [Move.accept false .android r]).filterMap Move.request? =
        moves.filterMap Move.request? ++ [r] := List.filterMap_append
    have hsubmitted : (moves.filterMap Move.request? ++ [r]).Subperm (plans.map (·.request)) :=
      (List.perm_append_singleton r _).subperm.trans hr
    obtain ⟨rest, hrest⟩ := ih (h.snoc_silent hready (hmore ▸ hsubmitted) rfl rfl) (by
      rw [hmore, List.length_append, List.length_singleton]
      omega)
    exact ⟨.accept false .android r :: rest, by rwa [List.append_assoc] at hrest⟩

end

end Performs

end Dispatcher

end BuildService
