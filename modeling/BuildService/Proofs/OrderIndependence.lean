import BuildService.Proofs.Bystanders
import BuildService.Proofs.JobTable
import BuildService.Proofs.Plans
/-!
Builds of different projects do not depend on each other.

They share the table of jobs, the permits, the disk and the numbers, so the runs in
which some builds are done go through very different states, and the last states are
not equal either: the builds have other numbers, and the table and the calls come in
another order. What does not depend on the order is what can be asked of a service.
It is not proved here by exchanging steps. Each answer is known from a single run,
since the invariants tie it to the latest build of its project, and what becomes of
this build its plan says (`Completes.ended`); that one build of a project is all
there is, because every project is asked for once, is the only thing that has to be
known of the others (`Performs.nodup_admitted`). So two runs agree because each of
them comes to what the plans say, and so does the run of one build alone.

The logs of projects that are not built are what is left, and they stay as they were
(`Spared`).
-/

set_option autoImplicit false

namespace BuildService

namespace Plan

/-- What is in the log of a build that is done: its lines and then its closing line, each with a
line feed behind it. -/
def text (plan : Plan) (timeout : Duration) : String :=
  String.join ((plan.lines ++ (BuildResult.trailer timeout plan.result).toList).map (· ++ "\n"))

/-- The call of its tool. -/
def call (plan : Plan) (settings : Settings) : Call :=
  ⟨settings.command plan.request, settings.timeout⟩

end Plan

namespace Dispatcher

variable {settings : Settings} {disk : Disk} {plans : List Plan} {moves : List Move}
  {s s' : Dispatcher} {tr : Trace} {b : Build} {e : Happening} {plan : Plan} {q : String}

/-! ## Who is admitted -/

/-- A request that passes its checks, for a project that was never built, is admitted. -/
theorem Truthful.happening?_accept (h : Truthful s tr) {r : Request} (hr : r.validate = .ok ())
    (hnew : ∀ b ∈ tr.admitted, b.project ≠ r.projectId) (awaited : Bool) :
    s.happening? (.accept awaited .android r) = some (.admitted ⟨s.nextId, r, awaited⟩) := by
  have hget := h.unknown r.projectId (Trace.latest?_eq_none_iff.2 hnew)
  obtain ⟨registry, hbegin⟩ :=
    s.registry.exists_tryBegin_of_not_running r.projectId (by simp [hget])
  have hcheck : s.check .android r = _ := check_eq_ok_iff.2 ⟨rfl, hr, hbegin⟩
  simp only [happening?, accept, hcheck]

/-- If different projects are asked for, and every request passes its checks, then everything that
is asked for is admitted. -/
theorem map_request_admitted (settings : Settings) (disk : Disk)
    (hvalid : ∀ r ∈ moves.filterMap Move.request?, r.validate = .ok ())
    (hdistinct : ((moves.filterMap Move.request?).map (·.projectId)).Nodup) :
    ((start settings .empty disk).trace moves).admitted.map (·.request) =
      moves.filterMap Move.request? := by
  induction moves using List.reverseRecOn with
  | nil => rfl
  | append_singleton ms m ih =>
    rw [List.filterMap_append] at hvalid hdistinct ⊢
    rw [List.map_append] at hdistinct
    have ih := ih (fun r hr => hvalid r (List.mem_append_left _ hr))
      (List.nodup_append.1 hdistinct).1
    rw [trace_append_one]
    cases hm : m.request? with
    | none =>
      -- What admits a build is a move that asks for one.
      have hnone : ∀ b, ((start settings .empty disk).applyAll ms).happening? m ≠
          some (.admitted b) := by
        intro b hb
        rw [(move_of_admitted hb).1] at hm
        cases hm
      cases he : ((start settings .empty disk).applyAll ms).happening? m with
      | none => simpa [hm] using ih
      | some e =>
        have hadm : e.admitted? = none := by
          cases e with
          | admitted b => exact absurd he (hnone b)
          | _ => rfl
        rw [Option.toList_some, Trace.admitted_append_of_none _ hadm, ih]
        simp [hm]
    | some r =>
      obtain ⟨awaited, rfl⟩ : ∃ awaited, m = .accept awaited .android r := by
        cases m with
        | accept awaited platform r' =>
          cases platform with
          | android => exact ⟨awaited, by rw [Option.some.inj hm]⟩
          | ios => cases hm
        | _ => cases hm
      have hnew : ∀ b ∈ ((start settings .empty disk).trace ms).admitted,
          b.project ≠ r.projectId := by
        intro b hb hp
        have hmem : b.request ∈ ms.filterMap Move.request? := ih ▸ List.mem_map_of_mem hb
        refine (List.nodup_append.1 hdistinct).2.2 _ (List.mem_map_of_mem hmem) r.projectId ?_ hp
        simp [Move.request?]
      rw [(truthful settings disk ms).happening?_accept (hvalid r (by simp [Move.request?])) hnew,
        Option.toList_some, Trace.admitted_append, List.map_append, ih]
      rfl

/-- Where no project was built twice, whoever was admitted is the latest of his project. -/
theorem Trace.latest?_eq_of_nodup (h : (tr.admitted.map Build.project).Nodup)
    (hb : b ∈ tr.admitted) : tr.latest? b.project = some b := by
  cases hc : tr.latest? b.project with
  | none => exact absurd rfl (Trace.latest?_eq_none_iff.1 hc b hb)
  | some c =>
    obtain ⟨hmem, hp⟩ := Trace.mem_of_latest? hc
    rw [List.inj_on_of_nodup_map h hmem hb hp]

/-! ## Who is done -/

/-- Where nothing happens, nothing changes. -/
theorem applyAll_eq_of_trace_eq_nil (h : s.trace moves = []) : s.applyAll moves = s := by
  refine run_induction (P := fun s' tr => tr = [] → s' = s) (fun _ => rfl) ?_ moves h
  intro s' tr e s'' _ _ hc
  exact absurd hc (List.append_ne_nil_of_right_ne_nil _ (List.cons_ne_nil _ _))

namespace Performs

theorem nodup_submitted (h : Performs settings disk plans moves)
    (hdistinct : (plans.map Plan.project).Nodup) :
    ((moves.filterMap Move.request?).map (·.projectId)).Nodup := by
  obtain ⟨requests, hperm, hsub⟩ := h.submitted
  have hplans : (plans.map (·.request)).map (·.projectId) = plans.map Plan.project := List.map_map
  exact (hperm.map _).nodup_iff.1 ((hplans ▸ hdistinct).sublist (hsub.map _))

/-- Everything that is asked for is admitted. -/
theorem map_request_admitted (h : Performs settings disk plans moves)
    (hvalid : ∀ plan ∈ plans, plan.request.validate = .ok ())
    (hdistinct : (plans.map Plan.project).Nodup) :
    ((start settings .empty disk).trace moves).admitted.map (·.request) =
      moves.filterMap Move.request? := by
  refine Dispatcher.map_request_admitted settings disk (fun r hr => ?_)
    (h.nodup_submitted hdistinct)
  obtain ⟨plan, hplan, rfl⟩ := List.mem_map.1 (h.submitted.subset hr)
  exact hvalid plan hplan

/-- No project is built twice. -/
theorem nodup_admitted (h : Performs settings disk plans moves)
    (hvalid : ∀ plan ∈ plans, plan.request.validate = .ok ())
    (hdistinct : (plans.map Plan.project).Nodup) :
    (((start settings .empty disk).trace moves).admitted.map Build.project).Nodup := by
  have hprojects : (((start settings .empty disk).trace moves).admitted.map (·.request)).map
      (·.projectId) = ((start settings .empty disk).trace moves).admitted.map Build.project :=
    List.map_map
  rw [← hprojects, h.map_request_admitted hvalid hdistinct]
  exact h.nodup_submitted hdistinct

/-- Where nothing is asked for, nothing happens. -/
theorem trace_eq_nil (h : Performs settings disk [] moves) :
    (start settings .empty disk).trace moves = [] := by
  refine List.eq_nil_iff_forall_not_mem.2 fun e he => ?_
  cases hb : e.build? with
  | some b =>
    obtain ⟨plan, hplan, -⟩ :=
      h.exists_plan ((rooted settings .empty disk moves).mentioned e he b hb)
    cases hplan
  | none =>
    -- Only to stop is done to nobody.
    obtain ⟨before, m, after, hmoves, hm⟩ := exists_move_of_mem_trace he
    obtain rfl := eq_move_of_happening? hm
    have horderly := h.orderly _ (hmoves ▸ List.mem_append_right _ List.mem_cons_self)
    cases e with
    | stopped => cases horderly
    | _ => cases hb

/-- Nobody is given up. -/
theorem not_dropped (h : Performs settings disk plans moves) (b : Build) :
    ¬((start settings .empty disk).trace moves).Dropped b := by
  rintro ⟨stage, heir, hd⟩
  obtain ⟨before, m, after, hmoves, hm⟩ := exists_move_of_mem_trace hd
  obtain rfl := eq_move_of_happening? hm
  have horderly := h.orderly _ (hmoves ▸ List.mem_append_right _ List.mem_cons_self)
  cases horderly

end Performs

namespace Completes

/-- Every build has ended and is recorded, as its plan says. -/
theorem ended (h : Completes settings disk plans moves)
    (hb : b ∈ ((start settings .empty disk).trace moves).admitted) (hplan : plan ∈ plans)
    (hrequest : b.request = plan.request) :
    .closed b plan.result ∈ (start settings .empty disk).trace moves ∧
      .recorded b plan.result ∈ (start settings .empty disk).trace moves ∧
      ((start settings .empty disk).trace moves).written b = plan.lines := by
  have htruthful := truthful settings disk moves
  obtain ⟨result, hrecorded⟩ :=
    htruthful.exists_recorded hb (by simp [h.live]) (h.not_dropped b)
  have hresult := htruthful.accounted.recorded b result hrecorded
  -- It has ended, and not by a log that could not be opened.
  obtain ⟨e, he, hres⟩ := List.exists_of_findSome?_eq_some hresult
  cases e with
  | closed c result' =>
    obtain ⟨rfl, hr⟩ : c = b ∧ some result' = some result := by
      simpa only [Happening.result?, Option.ite_none_right_eq_some] using hres
    obtain ⟨rfl, hlines⟩ := (h.follows c hb plan hplan hrequest).ended result' he
    exact ⟨he, Option.some.inj hr ▸ hrecorded, hlines⟩
  | unopened c cause => exact absurd he (h.opens c cause)
  | _ => cases hres

section

variable (h : Completes settings disk plans moves)
  (hvalid : ∀ plan ∈ plans, plan.request.validate = .ok ())
  (hdistinct : (plans.map Plan.project).Nodup)
include h hvalid hdistinct

/-- Every plan was performed, by the latest build of its project. -/
theorem exists_latest (hplan : plan ∈ plans) :
    ∃ b, ((start settings .empty disk).trace moves).latest? plan.project = some b ∧
      b.request = plan.request := by
  have hmem : plan.request ∈ moves.filterMap Move.request? :=
    h.all.mem_iff.2 (List.mem_map_of_mem hplan)
  rw [← h.map_request_admitted hvalid hdistinct] at hmem
  obtain ⟨b, hb, hrequest⟩ := List.mem_map.1 hmem
  have hproject : b.project = plan.project := congrArg Request.projectId hrequest
  exact ⟨b, hproject ▸ Trace.latest?_eq_of_nodup (h.nodup_admitted hvalid hdistinct) hb, hrequest⟩

theorem get_eq (hplan : plan ∈ plans) :
    ((start settings .empty disk).applyAll moves).registry.get plan.project =
      plan.result.state := by
  obtain ⟨b, hlatest, hrequest⟩ := h.exists_latest hvalid hdistinct hplan
  exact (truthful settings disk moves).ended _ b _ hlatest
    (h.ended (Trace.mem_of_latest? hlatest).1 hplan hrequest).2.1

theorem snapshot_perm :
    ((start settings .empty disk).applyAll moves).registry.snapshot.Perm
      (plans.map fun plan => (plan.project, plan.result.state)) := by
  have hprojects : (plans.map fun plan => (plan.project, BuildResult.state plan.result)).map
      Prod.fst = plans.map Plan.project := List.map_map
  have hsnapshot : ((start settings .empty disk).applyAll moves).registry.snapshot.Nodup :=
    List.Nodup.of_map _ (Registry.nodup _)
  refine (List.perm_ext_iff_of_nodup hsnapshot
    (List.Nodup.of_map _ (hprojects ▸ hdistinct))).2 ?_
  rintro ⟨p, state⟩
  rw [Registry.mem_snapshot_iff, List.mem_map]
  constructor
  · rintro ⟨rfl, hknown⟩
    -- A project with a state was built, so there is a plan for it.
    cases hlatest : ((start settings .empty disk).trace moves).latest? p with
    | none => exact absurd ((truthful settings disk moves).unknown p hlatest) hknown
    | some b =>
      obtain ⟨hb, rfl⟩ := Trace.mem_of_latest? hlatest
      obtain ⟨plan, hplan, hrequest⟩ := h.exists_plan hb
      have hproject : plan.project = b.project := congrArg Request.projectId hrequest.symm
      exact ⟨plan, hplan, Prod.ext hproject
        (by rw [← hproject, h.get_eq hvalid hdistinct hplan])⟩
  · rintro ⟨plan, hplan, heq⟩
    cases heq
    refine ⟨h.get_eq hvalid hdistinct hplan, fun hc => ?_⟩
    have := plan.result.state_isTerminal
    rw [hc] at this
    cases this

/-- Everybody has called its tool, once. -/
theorem callers_perm : ((start settings .empty disk).trace moves).callers.Perm
    ((start settings .empty disk).trace moves).admitted := by
  have hinvoked := invoked settings .empty disk moves
  have hnodup := hinvoked.nodup
  rw [← Trace.map_id_callers] at hnodup
  refine (List.perm_ext_iff_of_nodup (.of_map _ hnodup)
    (.of_map _ (h.nodup_admitted hvalid hdistinct))).2 fun b => ?_
  rw [Trace.mem_callers]
  refine ⟨fun hb => hinvoked.entries.turns.allotted.rooted.mentioned _ hb b rfl, fun hb => ?_⟩
  obtain ⟨plan, hplan, hrequest⟩ := h.exists_plan hb
  -- What has ended was running.
  obtain ⟨before, m, after, hmoves, hm⟩ := exists_move_of_mem_trace (h.ended hb hplan hrequest).1
  obtain ⟨sink, ht, -⟩ := (step_apply hm).of_closed
  have hcalled := called_of_runs settings .empty disk before ⟨sink, mem_of_task? ht⟩
  rw [hmoves, trace_append]
  exact List.mem_append_left _ hcalled

theorem calls_perm : ((start settings .empty disk).applyAll moves).calls.Perm
    (plans.map (·.call settings)) := by
  have hadmitted := ((h.callers_perm hvalid hdistinct).map (·.request)).map
    fun r => (⟨settings.command r, settings.timeout⟩ : Call)
  rw [h.map_request_admitted hvalid hdistinct] at hadmitted
  have hplans := h.all.map fun r => (⟨settings.command r, settings.timeout⟩ : Call)
  rw [List.map_map] at hadmitted hplans
  rw [(invoked settings .empty disk moves).calls]
  exact hadmitted.trans hplans

section

variable (hown : ∀ d, disk.makeDirs settings.logsDir = .ok d → LogStore.Own ⟨settings.logsDir⟩ d)
include hown

theorem readLog_eq (hplan : plan ∈ plans) :
    ((start settings .empty disk).applyAll moves).readLog plan.project =
      .ok (some (plan.text settings.timeout)) := by
  obtain ⟨b, hlatest, hrequest⟩ := h.exists_latest hvalid hdistinct hplan
  have hlogged := logged settings disk hown moves
  obtain ⟨-, hrecorded, hlines⟩ := h.ended (Trace.mem_of_latest? hlatest).1 hplan hrequest
  have hresult := hlogged.truthful.accounted.recorded b _ hrecorded
  rw [hlogged.readLog_eq_of_not_live hlatest (by simp [h.live]) (h.not_dropped b) (h.opens b),
    Trace.text, hlines, Trace.trailer?, hresult]
  rfl

/-- The log of a project that is not built reads as on the disk at the start, with the directory of
the logs made if anything is built. -/
theorem readLog_other (hq : Request.isProjectId q = true)
    (hnone : ∀ plan ∈ plans, plan.project ≠ q) :
    ∃ made, (if plans = [] then made = disk else disk.makeDirs settings.logsDir = .ok made) ∧
      ((start settings .empty disk).applyAll moves).readLog q =
        (start settings .empty made).readLog q := by
  by_cases hplans : plans = []
  · subst hplans
    refine ⟨disk, by rw [if_pos rfl], ?_⟩
    rw [applyAll_eq_of_trace_eq_nil h.trace_eq_nil]
  have hlogged := logged settings disk hown moves
  have hspared : Spared settings disk disk ((start settings .empty disk).applyAll moves)
    ((start settings .empty disk).trace moves) := (logged settings disk hown []).spared hown moves
  obtain ⟨plan, hplan⟩ := List.exists_mem_of_ne_nil _ hplans
  obtain ⟨b, hlatest, -⟩ := h.exists_latest hvalid hdistinct hplan
  -- Somebody has opened a log, so the directory is made.
  have howner := hlogged.owner?_eq_of_not_live hlatest (by simp [h.live]) (h.not_dropped b)
    (h.opens b)
  have hprepared := hlogged.prepared.resolve_left fun hc => by
    have hopened := (Trace.mem_of_owner? howner).1
    rw [hc.2] at hopened
    cases hopened
  have hall := hprepared.made
  rw [hspared.logs_eq] at hall
  obtain ⟨made, hm⟩ : ∃ made, disk.makeDirs settings.logsDir = .ok made := by
    rcases hspared.reads with hdisk | ⟨made, hm, -⟩
    · exact ⟨disk, Disk.makeDirs_of_allMade (hdisk ▸ hall)⟩
    · exact ⟨made, hm⟩
  refine ⟨made, by rwa [if_neg hplans], readLog_congr (hspared.read_eq hall hm hq ?_)⟩
  -- Whoever owns a log was admitted, and so has a plan.
  cases hc : ((start settings .empty disk).trace moves).owner? q with
  | none => rfl
  | some c =>
    obtain ⟨hopened, rfl⟩ := Trace.mem_of_owner? hc
    obtain ⟨plan', hplan', hrequest⟩ := h.exists_plan
      (hlogged.truthful.accounted.rooted.mentioned _ (Trace.mem_opened.1 hopened) c rfl)
    exact absurd (congrArg Request.projectId hrequest.symm) (hnone plan' hplan')

end

end

/-- The logs of two runs in which the same plans are done read alike. -/
theorem readLog_eq_readLog {n n' : Nat} {moves' : List Move}
    (h : Completes { settings with maxBuilds := n } disk plans moves)
    (h' : Completes { settings with maxBuilds := n' } disk plans moves')
    (hvalid : ∀ plan ∈ plans, plan.request.validate = .ok ())
    (hdistinct : (plans.map Plan.project).Nodup)
    (hown : ∀ d, disk.makeDirs settings.logsDir = .ok d → LogStore.Own ⟨settings.logsDir⟩ d)
    (hq : Request.isProjectId q = true) :
    ((start { settings with maxBuilds := n' } .empty disk).applyAll moves').readLog q =
      ((start { settings with maxBuilds := n } .empty disk).applyAll moves).readLog q := by
  by_cases hbuilt : ∃ plan ∈ plans, plan.project = q
  · obtain ⟨plan, hplan, rfl⟩ := hbuilt
    rw [h.readLog_eq hvalid hdistinct hown hplan, h'.readLog_eq hvalid hdistinct hown hplan]
  · have hnone : ∀ plan ∈ plans, plan.project ≠ q := fun plan hplan hp => hbuilt ⟨plan, hplan, hp⟩
    obtain ⟨made, hmade, hread⟩ := h.readLog_other hvalid hdistinct hown hq hnone
    obtain ⟨made', hmade', hread'⟩ := h'.readLog_other hvalid hdistinct hown hq hnone
    have hsame : made' = made := by
      by_cases hplans : plans = []
      · rw [if_pos hplans] at hmade hmade'
        exact hmade'.trans hmade.symm
      · rw [if_neg hplans] at hmade hmade'
        exact Except.ok.inj (hmade'.symm.trans hmade)
    rw [hread, hread', hsame]
    rfl

end Completes

/-- **Builds of different projects do not depend on each other.** Take any plans for valid builds of
different projects, on a disk on which the logs that exist already are plain files and no two of
them the same.
- Where every log can be opened and there is a permit at all, whatever has been performed of the
  plans in whatever order, what is missing can be performed from there.
- Whatever the number of permits, the order in which the builds are asked for and the interleaving,
  once they are all done the table of jobs, the calls of the tool and the logs are those that the
  plans say, one by one. Two runs in which they are done agree in the table and the calls, up to
  their order, and in every log. And what a run leaves of one build is what this build leaves
  alone. -/
theorem plans_independent (settings : Settings) (disk : Disk)
    (hown : ∀ d, disk.makeDirs settings.logsDir = .ok d → LogStore.Own ⟨settings.logsDir⟩ d)
    (plans : List Plan) (hvalid : ∀ plan ∈ plans, plan.request.validate = .ok ())
    (hdistinct : (plans.map (·.request.projectId)).Nodup) :
    (LogStore.Ready ⟨settings.logsDir⟩ disk → ∀ n moves, 1 ≤ n →
      Performs { settings with maxBuilds := n } disk plans moves →
        ∃ rest, Completes { settings with maxBuilds := n } disk plans (moves ++ rest)) ∧
    ∀ n moves, Completes { settings with maxBuilds := n } disk plans moves →
      let s := (start { settings with maxBuilds := n } .empty disk).applyAll moves
      (s.registry.snapshot.Perm
          (plans.map fun plan => (plan.request.projectId, plan.result.state)) ∧
        s.calls.Perm
          (plans.map fun plan => ⟨settings.command plan.request, settings.timeout⟩) ∧
        ∀ plan ∈ plans, s.readLog plan.request.projectId = .ok (some (String.join
          ((plan.lines ++ (BuildResult.trailer settings.timeout plan.result).toList).map
            (· ++ "\n"))))) ∧
      (∀ n' moves', Completes { settings with maxBuilds := n' } disk plans moves' →
        let s' := (start { settings with maxBuilds := n' } .empty disk).applyAll moves'
        s'.registry.snapshot.Perm s.registry.snapshot ∧ s'.calls.Perm s.calls ∧
          ∀ q, Request.isProjectId q = true → s'.readLog q = s.readLog q) ∧
      ∀ plan ∈ plans, ∀ n' alone, Completes { settings with maxBuilds := n' } disk [plan] alone →
        let s' := (start { settings with maxBuilds := n' } .empty disk).applyAll alone
        s'.registry.snapshot =
            [(plan.request.projectId, s.registry.get plan.request.projectId)] ∧
          s'.calls = [⟨settings.command plan.request, settings.timeout⟩] ∧
          s'.readLog plan.request.projectId = s.readLog plan.request.projectId := by
  refine ⟨fun hready n moves hpos h => h.exists_completion hready hdistinct hpos, ?_⟩
  intro n moves h s
  have hsnapshot := h.snapshot_perm hvalid hdistinct
  have hcalls := h.calls_perm hvalid hdistinct
  refine ⟨⟨hsnapshot, hcalls, fun plan hplan => h.readLog_eq hvalid hdistinct hown hplan⟩, ?_, ?_⟩
  · intro n' moves' h' s'
    exact ⟨(h'.snapshot_perm hvalid hdistinct).trans hsnapshot.symm,
      (h'.calls_perm hvalid hdistinct).trans hcalls.symm,
      fun q hq => h.readLog_eq_readLog h' hvalid hdistinct hown hq⟩
  · intro plan hplan n' alone h' s'
    have hvalid' : ∀ plan' ∈ [plan], plan'.request.validate = .ok () :=
      fun plan' hplan' => List.mem_singleton.1 hplan' ▸ hvalid plan hplan
    have hdistinct' : ([plan].map Plan.project).Nodup := List.nodup_singleton _
    refine ⟨?_, List.perm_singleton.1 (h'.calls_perm hvalid' hdistinct'), ?_⟩
    · have hget : s.registry.get plan.request.projectId = plan.result.state :=
        h.get_eq hvalid hdistinct hplan
      rw [hget]
      exact List.perm_singleton.1 (h'.snapshot_perm hvalid' hdistinct')
    · exact (h'.readLog_eq hvalid' hdistinct' hown List.mem_cons_self).trans
        (h.readLog_eq hvalid hdistinct hown hplan).symm

/-- A build that writes a line and fails, and one of another project that succeeds. -/
def twoPlans : List Plan :=
  [⟨.sample "demo", ["compiling"], .ok (.failed 2)⟩, ⟨.sample "next", [], .ok .success⟩]

/-- They can be done one at a time, and two at a time with the second one asked for first, and it
makes no difference. -/
theorem twoPlans_done :
    ((∀ d, Disk.initial.makeDirs "logs" = .ok d → LogStore.Own ⟨"logs"⟩ d) ∧
      (∀ plan ∈ twoPlans, plan.request.validate = .ok ()) ∧
      (twoPlans.map (·.request.projectId)).Nodup) ∧
    ∃ moves moves',
      Completes { Settings.sample "logs" with maxBuilds := 1 } .initial twoPlans moves ∧
      Completes { Settings.sample "logs" with maxBuilds := 2 } .initial twoPlans
        (.accept false .android (.sample "next") :: moves') ∧
      let s := (start { Settings.sample "logs" with maxBuilds := 1 } .empty .initial).applyAll moves
      let s' := (start { Settings.sample "logs" with maxBuilds := 2 } .empty .initial).applyAll
        (.accept false .android (.sample "next") :: moves')
      s.registry.snapshot.Perm [("demo", .failed), ("next", .finished)] ∧
        s'.registry.snapshot.Perm s.registry.snapshot ∧ s'.calls.Perm s.calls ∧
        s.readLog "demo" = .ok (some "compiling\n[buildrunner] build failed with exit code 2\n") ∧
        s'.readLog "demo" = s.readLog "demo" := by
  have hvalid : ∀ plan ∈ twoPlans, plan.request.validate = .ok () := by
    simp only [twoPlans, List.mem_cons, List.not_mem_nil, or_false]
    rintro plan (rfl | rfl) <;> rfl
  have hdistinct : (twoPlans.map (·.request.projectId)).Nodup := by decide
  refine ⟨⟨own_initial, hvalid, hdistinct⟩, ?_⟩
  obtain ⟨hcan, hdone⟩ :=
    plans_independent (.sample "logs") .initial own_initial twoPlans hvalid hdistinct
  have hnil := fun n =>
    Performs.nil { Settings.sample "logs" with maxBuilds := n } .initial twoPlans
  obtain ⟨moves, h⟩ := hcan LogStore.ready_initial 1 [] (Nat.le_refl _) (hnil 1)
  obtain ⟨moves', h'⟩ := hcan LogStore.ready_initial 2 [.accept false .android (.sample "next")]
    (by decide) ((hnil 2).snoc_silent LogStore.ready_initial
      (List.Sublist.subperm (.cons _ (.refl [Request.sample "next"]))) rfl rfl)
  obtain ⟨⟨hsnapshot, -, hlogs⟩, hagree, -⟩ := hdone 1 _ h
  obtain ⟨hsnapshot', hcalls', hlogs'⟩ := hagree 2 _ h'
  refine ⟨_, _, h, h', hsnapshot, hsnapshot', hcalls', ?_, hlogs' "demo" (by decide)⟩
  refine (hlogs _ List.mem_cons_self).trans ?_
  decide

end Dispatcher

end BuildService
