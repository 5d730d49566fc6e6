import BuildService.Proofs.Acknowledged
import BuildService.Proofs.EntryPoints
import BuildService.Proofs.OtherProjects
import BuildService.Proofs.PermitTraces
import BuildService.Proofs.Stopping
import BuildService.Proofs.Supervise
import BuildService.Proofs.Ways
/-!
What a build leaves behind when something fails on its way: its result, and nothing
else.

A build can fail at three places. Its log cannot be opened, its tool fails, or the
closing line of the log cannot be written. The first one ends the build before it
has asked for a permit. The second one does not keep it from giving its permit back.
The third one is passed over. So the job of a build does not stay running and its
permit does not stay taken, wherever it fails, as long as nobody gives the build up;
and from the moment the build is out of the line the permits are those that there
would be without it.

All of it holds for every registry and every disk that a service may have been
started with. The log of one project may be a link to that of another one there, and
then a build of the one does change the log of the other. That is why the logs that a
build leaves alone are those at other places than its own.
-/

set_option autoImplicit false

namespace BuildService

/-- The first bytes that are written into an empty file are all that is in it. -/
theorem Content.bytes_overwrite_empty (bs : List UInt8) :
    ((ofBytes []).overwrite 0 bs).bytes = bs := by
  rw [bytes_overwrite, bytes_ofBytes, spliced]
  simp

namespace Watch

variable {w : Watch}

/-- Nothing that happens after its end changes a watch. -/
theorem run_of_result {result : BuildResult} (h : w.result = some result)
    (os : List Occurrence) : w.run os = w := by
  induction os with
  | nil => rfl
  | cons o os ih =>
    have hstep : w.step o = w := by
      refine if_neg fun ho => ?_
      rw [result_of_attends ho] at h
      cases h
    rw [run, List.foldl_cons, hstep]
    exact ih

/-- A line that cannot be written ends a watch with its fault, whatever happens afterwards. -/
theorem result_of_refused {line : String} {cause : IoFault}
    (h : w.attends (.refused line cause) = true) (later : List Occurrence) :
    (w.run (.refused line cause :: later)).result = some (.error (.io cause)) := by
  have hstep : w.step (.refused line cause) = w.react (.refused line cause) := if_pos h
  rw [run, List.foldl_cons, hstep]
  have hended : (w.react (.refused line cause)).result = some (.error (.io cause)) := rfl
  rw [← hended]
  exact congrArg Watch.result (run_of_result hended later)

end Watch

namespace Dispatcher

variable {settings : Settings} {registry : Registry} {disk : Disk} {n : Nat}
  {s s' : Dispatcher} {tr past : Trace} {e : Happening} {b : Build} {stage : Stage}
  {result : BuildResult} {cause : IoFault}

/-! ## Who is recorded -/

/-- A build that was recorded has an ending, and as long as it is the latest of its project the
registry says what it came to. A live build is the latest of its project. -/
structure Posted (s : Dispatcher) (tr : Trace) : Prop where
  filed : Filed s tr
  occupied : Occupied s
  latest : ∀ b ∈ s.live, tr.latest? b.project = some b
  endings : ∀ b result, .recorded b result ∈ tr → (b.id, result) ∈ s.endings
  state : ∀ b result, .recorded b result ∈ tr → tr.latest? b.project = some b →
    s.registry.get b.project = result.state

namespace Posted

/-- The project of a live build is not admitted again. -/
theorem latest?_eq (h : Posted s tr) (hs : Step s e s') (hb : b ∈ s.live) :
    Trace.latest? (tr ++ [e]) b.project = tr.latest? b.project := by
  cases hs with
  | @admitted c _ _ _ hc =>
    have hidle := (Registry.get_of_tryBegin (check_eq_ok_iff.1 hc).2.2).1
    have hne : c.project ≠ b.project := fun hp =>
      hidle ((congrArg s.registry.get hp).trans (h.occupied.running b hb))
    rw [Trace.latest?_append_admitted, if_neg hne]
  | _ => exact Trace.latest?_append_of_none tr rfl _

theorem latest_step (h : Posted s tr) (hs : Step s e s') :
    ∀ b ∈ s'.live, Trace.latest? (tr ++ [e]) b.project = some b := by
  intro b hb
  rcases hs.live_subset hb with hb | rfl
  · rw [h.latest?_eq hs hb, h.latest b hb]
  · rw [Trace.latest?_append_admitted, if_pos rfl]

theorem endings_step (h : Posted s tr) (hs : Step s e s') :
    ∀ b result, .recorded b result ∈ tr ++ [e] → (b.id, result) ∈ s'.endings := by
  intro b result hr
  rcases List.mem_append.1 hr with hr | hr
  · have hold := h.endings b result hr
    cases hs with
    | recorded => exact List.mem_append_left _ hold
    | _ => exact hold
  · obtain rfl := List.mem_singleton.1 hr
    cases hs with
    | recorded => exact List.mem_append_right _ List.mem_cons_self

/-- What happens to others leaves the state of a project as it is, as long as its latest build is
one that was recorded. -/
theorem get_eq (h : Posted s tr) (hs : Step s e s') (hr : .recorded b result ∈ tr)
    (hlatest : Trace.latest? (tr ++ [e]) b.project = some b) :
    s'.registry.get b.project = s.registry.get b.project := by
  by_cases hi : e.isInner = true
  · rw [(hs.inner hi).2.1]
  cases hs with
  | @admitted c _ _ hid hc =>
    refine (Step.admitted hid hc).get_of_ne h.occupied rfl fun hp => ?_
    rw [Trace.latest?_append_admitted, if_pos hp.symm] at hlatest
    obtain rfl := Option.some.inj hlatest
    exact (h.filed.accounted.rooted.fresh hid).2 _ hr rfl
  | @recorded c _ ht =>
    refine (Step.recorded ht).get_of_ne h.occupied rfl fun hp => ?_
    -- Who is recorded now was live, and so is the latest build of its project.
    have hc := h.latest c (mem_live_of_task? ht)
    rw [Trace.latest?_append_of_none tr rfl, hp, hc] at hlatest
    obtain rfl := Option.some.inj hlatest
    exact h.filed.gone _ _ hr (mem_live_of_task? ht)
  | dropped => rfl
  | _ => exact absurd rfl hi

theorem state_step (h : Posted s tr) (hs : Step s e s') :
    ∀ b result, .recorded b result ∈ tr ++ [e] →
      Trace.latest? (tr ++ [e]) b.project = some b →
      s'.registry.get b.project = result.state := by
  intro b result hr hlatest
  rcases List.mem_append.1 hr with hbefore | hnow
  · rw [h.get_eq hs hbefore hlatest]
    refine h.state b result hbefore ((Trace.eq_or_latest? hlatest).resolve_left ?_)
    rintro rfl
    exact (h.filed.accounted.rooted.fresh hs.id_of_admitted).2 _ hbefore rfl
  · obtain rfl := List.mem_singleton.1 hnow
    exact (hs.get_of_recorded h.occupied).2

theorem step (h : Posted s tr) (hs : Step s e s') : Posted s' (tr ++ [e]) :=
  ⟨h.filed.step hs, h.occupied.step hs, h.latest_step hs, h.endings_step hs, h.state_step hs⟩

/-- The ending of a build is the result with which it was recorded. -/
theorem ending?_eq (h : Posted s tr) (hr : .recorded b result ∈ tr) :
    s.ending? b.id = some result := by
  have hfound : (s.endings.find? (·.1 == b.id)).isSome := by
    rw [List.find?_isSome]
    exact ⟨_, h.endings b result hr, beq_self_eq_true b.id⟩
  obtain ⟨x, hx⟩ := Option.isSome_iff_exists.1 hfound
  have hend : s.ending? b.id = some x.2 := by rw [ending?, hx, Option.map_some]
  have hb := h.filed.accounted.rooted.mentioned _ hr b rfl
  have hsame := h.filed.accounted.recorded b _ (h.filed.recorded_of_ending? hb hend)
  rw [h.filed.accounted.recorded b result hr] at hsame
  rw [hend, ← hsame]

end Posted

theorem posted (settings : Settings) (registry : Registry) (disk : Disk) (moves : List Move) :
    Posted ((start settings registry disk).applyAll moves)
      ((start settings registry disk).trace moves) :=
  run_induction ⟨filed settings registry disk [], occupied settings registry disk [],
    by simp [live, start], by simp, by simp⟩ (fun _ _ _ _ h hs => h.step hs) moves

/-! ## How far a build has come -/

/-- Where a build is that was not given up: live at the end of its way so far, or recorded with what
its last stage says. -/
structure Stands (s : Dispatcher) (tr : Trace) (b : Build) (past : Trace) (stage : Stage) :
    Prop where
  way : Way b past stage
  result : tr.result? b = stage.result?
  own : ⟨b, stage⟩ ∈ s.tasks ∧ tr.own b = past ∨
    b ∉ s.live ∧ ∃ result, stage = .leaving result ∧ tr.own b = past ++ [.recorded b result]

theorem Followed.exists_stands (h : Followed s tr) (ha : Accounted s tr) (hb : b ∈ tr.admitted)
    (hd : ¬tr.Dropped b) : ∃ past stage, Stands s tr b past stage := by
  rcases h.cases hb hd with ⟨stage, ht, hway⟩ | ⟨hl, past, result, hway, hown⟩
  · exact ⟨_, stage, hway, ha.stage _ ht, .inl ⟨ht, rfl⟩⟩
  · have hr : .recorded b result ∈ tr := (Trace.mem_own rfl).1 (by rw [hown]; simp)
    exact ⟨past, _, hway, ha.recorded b result hr, .inr ⟨hl, result, rfl, hown⟩⟩

namespace Stands

/-- What has happened to a build and is not its recording happened on its way. -/
theorem mem_past (h : Stands s tr b past stage) (he : e ∈ tr) (hb : e.build? = some b)
    (hr : ∀ result, e ≠ .recorded b result) : e ∈ past := by
  have hown := (Trace.mem_own hb).2 he
  rcases h.own with ⟨-, heq⟩ | ⟨-, result, -, heq⟩
  · rwa [heq] at hown
  · rw [heq] at hown
    exact (List.mem_append.1 hown).resolve_right fun hlast => hr result (List.mem_singleton.1 hlast)

theorem of_unopened (h : Stands s tr b past stage) (hu : .unopened b cause ∈ tr) :
    past = [.admitted b, .unopened b cause] ∧ stage = .leaving (.error (.io cause)) :=
  h.way.of_unopened (h.mem_past hu rfl (by simp))

theorem result_of_closed (h : Stands s tr b past stage) (hc : .closed b result ∈ tr) :
    tr.result? b = some result :=
  h.result.trans (h.way.of_closed (h.mem_past hc rfl (by simp)))

/-- A build that was recorded is not live, and its recording is the last thing that happened to
it. -/
theorem of_recorded (h : Stands s tr b past stage) (hr : .recorded b result ∈ tr) :
    b ∉ s.live ∧ stage = .leaving result ∧ tr.own b = past ++ [.recorded b result] := by
  have hown := (Trace.mem_own rfl).2 hr
  rcases h.own with ⟨-, heq⟩ | ⟨hl, result', hstage, heq⟩
  · rw [heq] at hown
    exact absurd hown (h.way.not_recorded result)
  · rw [heq] at hown
    have hlast := (List.mem_append.1 hown).resolve_left (h.way.not_recorded result)
    cases List.mem_singleton.1 hlast
    exact ⟨hl, hstage, heq⟩

end Stands

/-! ## Permits -/

/-- Who leaves the first stage has opened its log, unless this failed. -/
theorem Way.opened_or_unopened (h : Way b past stage) (hs : stage ≠ .arrived) :
    .opened b ∈ past ∨ ∃ cause, .unopened b cause ∈ past := by
  induction h with
  | admitted => exact absurd rfl hs
  | @next past e stage stage' h hb hn ih =>
    by_cases hbefore : stage = .arrived
    · subst hbefore
      cases hn
      · obtain rfl := Option.some.inj hb
        exact .inl (List.mem_append_right _ List.mem_cons_self)
      · obtain rfl := Option.some.inj hb
        exact .inr ⟨_, List.mem_append_right _ List.mem_cons_self⟩
    · exact (ih hbefore).imp (List.mem_append_left _)
        fun ⟨cause, hu⟩ => ⟨cause, List.mem_append_left _ hu⟩

/-- Who is in the line of permits is between its log and its end. -/
theorem Allotted.exists_task_of_mem_line (h : Allotted n s tr) (hid : b.id ∈ s.permits.line)
    (hunique : ∀ c ∈ s.live, c.id = b.id → c = b) :
    ∃ stage, ⟨b, stage⟩ ∈ s.tasks ∧ stage ≠ .arrived ∧ stage.isLeaving = false := by
  obtain ⟨c, hc, heq⟩ := List.mem_map.1 (h.live _ hid)
  obtain rfl := hunique c hc heq
  obtain ⟨⟨c, stage⟩, ht, rfl⟩ := List.mem_map.1 hc
  have hsuits := h.suits _ ht
  refine ⟨stage, ht, ?_⟩
  cases stage with
  | arrived => exact absurd hid hsuits
  | leaving result => exact absurd hid hsuits
  | _ => exact ⟨by simp, rfl⟩

/-- Two builds that were admitted in one run have different numbers. -/
theorem Filed.eq_of_id {c : Build} (h : Filed s tr) (hb : b ∈ tr.admitted) (hc : c ∈ tr.admitted)
    (hid : c.id = b.id) : c = b :=
  List.inj_on_of_nodup_map h.nodup hc hb hid

/-- A build whose log cannot be opened is never in the line of permits. -/
theorem not_mem_line_of_unopened {before after : List Move}
    (h : Stands ((start settings registry disk).applyAll (before ++ after))
      ((start settings registry disk).trace (before ++ after)) b past stage)
    (hb : b ∈ ((start settings registry disk).trace (before ++ after)).admitted)
    (hu : .unopened b cause ∈ (start settings registry disk).trace (before ++ after)) :
    b.id ∉ ((start settings registry disk).applyAll before).permits.line := by
  intro hid
  have hearlier : ∀ e ∈ (start settings registry disk).trace before,
      e ∈ (start settings registry disk).trace (before ++ after) := fun e he => by
    rw [trace_append]
    exact List.mem_append_left _ he
  have hfiled := filed settings registry disk (before ++ after)
  obtain ⟨stage', ht, harrived, hleaving⟩ :=
    (allotted settings registry disk before).exists_task_of_mem_line hid fun c hc hsame =>
      hfiled.eq_of_id hb (Trace.mem_admitted.2 (hearlier _
        (Trace.mem_admitted.1 ((rooted settings registry disk before).live c hc)))) hsame
  have hway := (followed settings registry disk before).live _ ht
  -- It has opened its log, and in the end the other thing has happened to it.
  rcases hway.opened_or_unopened harrived with ho | ⟨cause', hu'⟩
  · have hpast := h.mem_past (hearlier _ ((Trace.mem_own rfl).1 ho)) rfl (by simp)
    rw [(h.of_unopened hu).1] at hpast
    simp at hpast
  · obtain rfl : stage' = _ := (hway.of_unopened hu').2
    cases hleaving

/-- A build that is about to be recorded, or was, is not in the line of permits. -/
theorem Stands.not_mem_line (h : Stands s tr b past (.leaving result)) (hall : Allotted n s tr)
    (hfiled : Filed s tr) (hb : b ∈ tr.admitted) : b.id ∉ s.permits.line := by
  intro hid
  obtain ⟨stage, ht, -, hleaving⟩ := hall.exists_task_of_mem_line hid fun c hc hsame =>
    hfiled.eq_of_id hb (hall.rooted.live c hc) hsame
  rcases h.own with ⟨ht', -⟩ | ⟨hl, -⟩
  · have hfound : s.task? b.id = some ⟨b, stage⟩ :=
      (task?_eq_some_iff hall.rooted.numbered).2 ⟨ht, rfl⟩
    rw [(task?_eq_some_iff hall.rooted.numbered).2 ⟨ht', rfl⟩] at hfound
    cases hfound
    cases hleaving
  · exact hl (List.mem_map.2 ⟨_, ht, rfl⟩)

/-! ## The end of a build -/

/-- Nothing but the giving back and the recording stand between a build that has ended and its
recording. -/
theorem recorded_in_two_moves (hn : Numbered s) (ht : ⟨b, stage⟩ ∈ s.tasks)
    (hresult : stage.result? = some result) :
    .recorded b result ∈ s.trace [.giveBack b.id, .record b.id] := by
  have hb : s.task? b.id = some ⟨b, stage⟩ := (task?_eq_some_iff hn).2 ⟨ht, rfl⟩
  -- At its last stage a build is recorded by the second move.
  have last : ∀ {u : Dispatcher} {result : BuildResult},
      u.task? b.id = some ⟨b, .leaving result⟩ →
        u.happening? (.record b.id) = some (.recorded b result) := fun hu => by
    simp only [happening?, hu]
  cases stage with
  | closed r =>
    obtain rfl := Option.some.inj hresult
    have hreleased : s.happening? (.giveBack b.id) = some (.released b s.permits.heir?) := by
      simp only [happening?, hb]
    have hs := step_apply hreleased
    rcases hs.exists_next hn ht rfl with ⟨stage', hnext, hmem⟩ | ⟨_, he, -⟩ | ⟨_, he⟩
    · cases hnext
      have hlast := last ((task?_eq_some_iff (hn.step hs)).2 ⟨hmem, rfl⟩)
      simp [trace, hlast]
    · cases he
    · cases he
  | leaving r =>
    obtain rfl := Option.some.inj hresult
    have hkept : s.apply (.giveBack b.id) = s := by simp only [apply, giveBack, hb]
    simp [trace, hkept, last hb]
  | _ => cases hresult

/-- What is left of a build that was recorded in the course of some moves: the result with which it
ended, whoever asks for it, and the state of its job that this comes to. The job went to it from
running, and nothing was recorded of the build before or is to happen to it afterwards. -/
structure Concluded (s : Dispatcher) (moves : List Move) (b : Build) (result : BuildResult) :
    Prop where
  due : (s.trace moves).result? b = some result
  ending : (s.applyAll moves).ending? b.id = some result
  left : b ∉ (s.applyAll moves).live
  once : ∃ past, (s.trace moves).own b = past ++ [.recorded b result] ∧
    ∀ other, .recorded b other ∉ past
  changed : ∃ before after, moves = before ++ .record b.id :: after ∧
    (s.applyAll before).registry.get b.project = .running ∧
    (s.applyAll (before ++ [.record b.id])).registry.get b.project = result.state
  state : (s.trace moves).latest? b.project = some b →
    (s.applyAll moves).registry.get b.project = result.state
  terminal : result.state.isTerminal = true
  failed : ∀ fault, result = .error fault → result.state = .failed

theorem concluded_of_recorded {moves : List Move}
    (h : Stands ((start settings registry disk).applyAll moves)
      ((start settings registry disk).trace moves) b past stage)
    (hr : .recorded b result ∈ (start settings registry disk).trace moves) :
    Concluded (start settings registry disk) moves b result := by
  have hposted := posted settings registry disk moves
  obtain ⟨hl, -, hown⟩ := h.of_recorded hr
  refine ⟨hposted.filed.accounted.recorded b result hr, hposted.ending?_eq hr, hl,
    ⟨past, hown, h.way.not_recorded⟩, ?_, hposted.state b result hr, result.state_isTerminal, ?_⟩
  · obtain ⟨before, m, after, rfl, hm⟩ := exists_move_of_mem_trace hr
    obtain rfl : m = .record b.id := eq_move_of_happening? hm
    refine ⟨before, after, rfl, ?_⟩
    rw [applyAll_append_one]
    exact (step_apply hm).get_of_recorded (occupied settings registry disk before)
  · rintro fault rfl
    rfl

/-- A closing line that cannot be written changes neither the disk nor the result. -/
theorem Step.of_closed_untrailed {sink : LogSink} {line : String}
    (hs : Step s (.closed b result) s') (ht : s.task? b.id = some ⟨b, .running sink⟩)
    (hline : result.trailer s.settings.timeout = some line)
    (hw : sink.writeLine s.disk line = .error cause) : s'.disk = s.disk := by
  obtain ⟨sink', ht', hdisk⟩ := hs.of_closed
  rw [ht] at ht'
  cases ht'
  rw [hdisk, trailed_of_error hline hw]

/-! ## Failures -/

/-- **A failure leaves nothing behind.** Let a build be admitted in any run of a service, whatever
registry and disk it was started with, and not be given up. Then:
- if its log cannot be opened, the fault is its result, its tool is not called, and it is never in
  the line of permits;
- what its tool ends with is its result, a fault like anything else, also if the closing line of the
  log cannot be written, and then the disk stays as it is;
- when it has a result nothing but two moves of its own is left before its recording; until then its
  job is running, and then it comes to the one terminal state that the result says;
- from when it has given its permit back, or was not to get one, the permits are those that there
  would be without it;
- nothing that happens to it changes the job of another project, or a log at another place.
A process that cannot be started ends with this fault, and so does one whose output cannot be
written, whatever happens to it afterwards. -/
theorem failure_leaves_only_result (settings : Settings) (registry : Registry) (disk : Disk)
    (moves : List Move) (b : Build)
    (hb : b ∈ ((start settings registry disk).trace moves).admitted)
    (hd : ¬((start settings registry disk).trace moves).Dropped b) :
    let s₀ := start settings registry disk
    let s := s₀.applyAll moves
    let tr := s₀.trace moves
    (∀ cause, .unopened b cause ∈ tr → tr.result? b = some (.error (.io cause)) ∧
      .called b ∉ tr ∧
      ∀ before after, moves = before ++ after → b.id ∉ (s₀.applyAll before).permits.line) ∧
    (∀ result, .closed b result ∈ tr → tr.result? b = some result) ∧
    (∀ before after result sink line cause, moves = before ++ .close b.id result :: after →
      (s₀.applyAll before).task? b.id = some ⟨b, .running sink⟩ →
      result.trailer settings.timeout = some line →
      sink.writeLine (s₀.applyAll before).disk line = .error cause →
      (s₀.applyAll (before ++ [.close b.id result])).disk = (s₀.applyAll before).disk ∧
        tr.result? b = some result) ∧
    (∀ result, tr.result? b = some result →
      .recorded b result ∈ tr ++ s.trace [.giveBack b.id, .record b.id]) ∧
    ((b ∈ s.live ∧ s.registry.get b.project = .running ∧ ∀ result, .recorded b result ∉ tr) ∨
      ∃ result, .recorded b result ∈ tr ∧ Concluded s₀ moves b result) ∧
    s.permits = tr.permits settings.maxBuilds ∧
    ((∃ cause, .unopened b cause ∈ tr) ∨ (∃ heir, .released b heir ∈ tr) ∨
        (∃ result, .recorded b result ∈ tr) →
      s.permits = (tr.without b.id).permits settings.maxBuilds) ∧
    (∀ before m after e, moves = before ++ m :: after →
      (s₀.applyAll before).happening? m = some e → e.build? = some b →
      Spares (s₀.applyAll before) (s₀.applyAll (before ++ [m])) b.project) ∧
    (∀ d sink c timeout stopped cause, Launch.start d c timeout.millis = .error cause →
      runCommand d sink c timeout stopped = (.error (.spawn c.program cause), d)) ∧
    (∀ earlier line cause later,
      (Watch.start.run earlier).attends (.refused line cause) = true →
      (Watch.start.run (earlier ++ .refused line cause :: later)).result =
        some (.error (.io cause))) := by
  intro s₀ s tr
  have hposted := posted settings registry disk moves
  have hall := allotted settings registry disk moves
  obtain ⟨past, stage, hstands⟩ :=
    (followed settings registry disk moves).exists_stands hposted.filed.accounted hb hd
  refine ⟨fun cause hu => ⟨?_, fun hc => ?_, ?_⟩, fun result hc => hstands.result_of_closed hc,
    ?_, fun result hresult => ?_, ?_, permits_eq settings registry disk moves, fun hout => ?_, ?_,
    fun d sink c timeout stopped cause hstart => ?_, fun earlier line cause later hattends => ?_⟩
  · rw [show tr.result? b = _ from hstands.result, (hstands.of_unopened hu).2]
    rfl
  · have hpast := hstands.mem_past hc rfl (by simp)
    rw [(hstands.of_unopened hu).1] at hpast
    simp at hpast
  · rintro before after rfl
    exact not_mem_line_of_unopened hstands hb hu
  · rintro before after result sink line cause rfl ht hline hw
    have hclosed := happening?_close ht result
    have hs := step_apply hclosed
    rw [applyAll_append_one]
    refine ⟨hs.of_closed_untrailed ht ?_ hw, hstands.result_of_closed ?_⟩
    · rwa [(invoked settings registry disk before).same]
    · rw [trace_append, trace, hclosed]
      simp
  · rcases hstands.own with ⟨ht, -⟩ | ⟨-, result', rfl, hown⟩
    · exact List.mem_append_right _ (recorded_in_two_moves hall.rooted.numbered ht
        (hstands.result.symm.trans hresult))
    · obtain rfl := Option.some.inj (hstands.result.symm.trans hresult)
      exact List.mem_append_left _ ((Trace.mem_own rfl).1 (by rw [hown]; simp))
  · rcases hstands.own with ⟨ht, -⟩ | ⟨-, result, -, hown⟩
    · have hl : b ∈ s.live := List.mem_map.2 ⟨_, ht, rfl⟩
      exact .inl ⟨hl, hposted.occupied.running b hl, fun result hr =>
        (hstands.of_recorded hr).1 hl⟩
    · have hr : .recorded b result ∈ tr := (Trace.mem_own rfl).1 (by rw [hown]; simp)
      exact .inr ⟨result, hr, concluded_of_recorded hstands hr⟩
  · have hleaving : ∃ result, stage = .leaving result := by
      rcases hout with ⟨cause, hu⟩ | ⟨heir, hr⟩ | ⟨result, hr⟩
      · exact ⟨_, (hstands.of_unopened hu).2⟩
      · exact hstands.way.of_released (hstands.mem_past hr rfl (by simp))
      · exact ⟨result, (hstands.of_recorded hr).2.1⟩
    obtain ⟨result, rfl⟩ := hleaving
    exact (undisturbed settings registry disk moves b.id).lacks.eq
      (hstands.not_mem_line hall hposted.filed hb)
  · rintro before m after e rfl he hbuild
    rw [applyAll_append_one]
    exact (step_apply he).spares (occupied settings registry disk before)
      (placed settings registry disk before) hbuild
  · rw [runCommand_eq, hstart]
  · rw [Watch.run, List.foldl_append]
    exact Watch.result_of_refused hattends later

/-! ## A build whose tool cannot be started -/

/-- How a build ends whose tool is not there. -/
def unstarted : BuildResult := .error (.spawn "sh" .notFound)

/-- What the first build does when its log is open and its tool is not there. -/
def firstUnstarted : List Move := [.ask 0, .call 0, .close 0 unstarted, .giveBack 0, .record 0]

/-- The first build of a service, whose tool is not there. -/
def unstartedRun : List Move :=
  .accept false .android (.sample "demo") :: .openLog 0 :: firstUnstarted

/-- What happens to it. -/
def unstartedTrace : Trace :=
  [.admitted firstBuild, .opened firstBuild, .granted firstBuild, .called firstBuild,
    .closed firstBuild unstarted, .released firstBuild none, .recorded firstBuild unstarted]

theorem trace_unstartedRun :
    (start (.sample "logs") .empty .initial).trace unstartedRun = unstartedTrace := by
  rw [unstartedRun, (run_first firstUnstarted).2]
  rfl

/-- It is recorded as failed, with the fault as its result, and all permits are free. -/
theorem unstarted_recorded_as_failed :
    firstBuild ∈ ((start (.sample "logs") .empty .initial).trace unstartedRun).admitted ∧
      ¬((start (.sample "logs") .empty .initial).trace unstartedRun).Dropped firstBuild ∧
      ((start (.sample "logs") .empty .initial).applyAll unstartedRun).ending? 0 =
        some unstarted ∧
      ((start (.sample "logs") .empty .initial).applyAll unstartedRun).registry.get "demo" =
        .failed ∧
      ((start (.sample "logs") .empty .initial).applyAll unstartedRun).permits = .start 4 := by
  have hb : firstBuild ∈
      ((start (.sample "logs") .empty .initial).trace unstartedRun).admitted := by
    rw [trace_unstartedRun]
    exact List.mem_cons_self
  have hd : ¬((start (.sample "logs") .empty .initial).trace unstartedRun).Dropped firstBuild := by
    rw [trace_unstartedRun]
    rintro ⟨stage, heir, he⟩
    simp [unstartedTrace] at he
  obtain ⟨-, -, -, -, hend, -, hpermits, -⟩ :=
    failure_leaves_only_result (.sample "logs") .empty .initial unstartedRun firstBuild hb hd
  rw [trace_unstartedRun] at hend hpermits
  have hr : .recorded firstBuild unstarted ∈ unstartedTrace := by simp [unstartedTrace]
  rcases hend with ⟨-, -, hnone⟩ | ⟨result, hrecorded, hconcluded⟩
  · exact absurd hr (hnone unstarted)
  · obtain rfl : result = unstarted := by simpa [unstartedTrace] using hrecorded
    refine ⟨hb, hd, hconcluded.ending, hconcluded.state ?_, ?_⟩
    · rw [trace_unstartedRun]
      rfl
    · exact (hpermits (.inr (.inr ⟨_, hr⟩))).trans (by rfl)

/-! ## Logs that are linked -/

section

open Disk

/-- The log of one project is a link to that of another one, which holds a line. -/
def linkedLogs : Disk :=
  (logsDisk.addNode 32 "next_log.txt" (.file (.ofBytes (Utf8.encode "one\n")) false)).addNode 32
    "demo_log.txt" (.link "next_log.txt")

/-- The same with this line lost. -/
def linkedLogsEmptied : Disk := linkedLogs.setNode 33 (.file (.ofBytes []) false)

theorem leads_linkedLogs {follow : Bool} {names : List String} {place : Place}
    (h : Leads linkedLogs follow linkLimit 32 names place) :
    Leads linkedLogs follow linkLimit 6 ("logs" :: names) place := by
  refine .enter (n := 32) ⟨by decide, by decide, by decide⟩ rfl ?_ h
  rintro ⟨target, ht⟩
  cases ht

/-- Both logs are at one place. -/
theorem locate_linkedLogs :
    linkedLogs.locate false "logs/next_log.txt" = .ok (.found 33) ∧
      linkedLogs.locate true "logs/demo_log.txt" = .ok (.found 33) := by
  have hnext {follow : Bool} {links : Nat} :
      Leads linkedLogs follow links 32 ["next_log.txt"] (.found 33) := by
    refine .enter (n := 33) ⟨by decide, by decide, by decide⟩ rfl ?_ (.here _ _)
    rintro ⟨target, ht⟩
    cases ht
  have hnames : pathNames "logs/next_log.txt" = ["logs", "next_log.txt"] ∧
      pathNames "logs/demo_log.txt" = ["logs", "demo_log.txt"] := by decide
  have htarget : pathNames "next_log.txt" = ["next_log.txt"] := by decide
  constructor
  · rw [locate_eq_ok_iff, hnames.1]
    exact ⟨⟨by decide, by decide, by decide⟩, leads_linkedLogs hnext⟩
  · rw [locate_eq_ok_iff, hnames.2]
    refine ⟨⟨by decide, by decide, by decide⟩, leads_linkedLogs ?_⟩
    have hlink : linkedLogs.node? 34 = some (.link "next_log.txt") := rfl
    refine .link ⟨by decide, by decide, by decide⟩ rfl hlink (.inr rfl) ?_
    rw [htarget]
    exact hnext

/-- Opening the first log empties the second one. -/
theorem reset_linkedLogs : LogStore.reset ⟨"logs"⟩ linkedLogs "demo" =
    (.ok ⟨"logs/demo_log.txt", 33, 0⟩, linkedLogsEmptied) := by
  have hpath : LogStore.pathFor ⟨"logs"⟩ "demo" = "logs/demo_log.txt" := by decide
  have hmade {follow : Bool} : linkedLogs.locate follow "logs" = .ok (.found 32) := by
    have hnames : pathNames "logs" = ["logs"] := by decide
    rw [locate_eq_ok_iff, hnames]
    exact ⟨⟨by decide, by decide, by decide⟩, leads_linkedLogs (.here _ _)⟩
  have hdirs : linkedLogs.makeDirs "logs" = .ok linkedLogs := by
    refine makeDirs_of_allMade fun first hfirst => ?_
    obtain rfl : first = "logs" := by
      have ha : ancestors "logs" = ["logs"] := by decide
      rw [ha] at hfirst
      exact (Option.some.inj hfirst).symm
    exact ⟨makeDir_eq_fileExists_iff.2 ⟨32, hmade⟩, isDirectory_iff.2 ⟨32, hmade, 6, _, rfl⟩⟩
  simp only [LogStore.reset, hdirs, hpath, create, locate_linkedLogs.2]
  rfl

/-- The service on this disk when the first build has been admitted. -/
def linkedAdmitted : Dispatcher :=
  (start (.sample "logs") .empty linkedLogs).apply (.accept false .android (.sample "demo"))

/-- The same when its log is open. -/
def linkedOpened : Dispatcher := { firstOpened with disk := linkedLogsEmptied }

theorem linkedAdmitted_openLog :
    linkedAdmitted.apply (.openLog 0) = linkedOpened ∧
      linkedAdmitted.happening? (.openLog 0) = some (.opened firstBuild) := by
  have ht : linkedAdmitted.task? 0 = some ⟨firstBuild, .arrived⟩ := by rfl
  have hr : linkedAdmitted.logs.reset linkedAdmitted.disk firstBuild.project = _ := reset_linkedLogs
  constructor
  · simp only [apply, openLog, ht, hr]
    rfl
  · simp only [happening?, ht, hr]

theorem trace_linked :
    (start (.sample "logs") .empty linkedLogs).trace unstartedRun = unstartedTrace := by
  have hmoves : (start (.sample "logs") .empty linkedLogs).trace unstartedRun =
      ((start (.sample "logs") .empty linkedLogs).happening?
        (.accept false .android (.sample "demo"))).toList ++
      ((linkedAdmitted.happening? (.openLog 0)).toList ++
        (linkedAdmitted.apply (.openLog 0)).trace firstUnstarted) := rfl
  rw [hmoves, linkedAdmitted_openLog.1, linkedAdmitted_openLog.2]
  rfl

theorem applyAll_linked : (start (.sample "logs") .empty linkedLogs).applyAll unstartedRun =
    linkedOpened.applyAll firstUnstarted := by
  rw [← linkedAdmitted_openLog.1]
  simp only [applyAll, unstartedRun, List.foldl_cons, linkedAdmitted]

/-- The line that the build writes at its end is where the line of the other project was. -/
theorem holds_linked : LogStore.Holds ⟨"logs"⟩ linkedLogs "next" 33 (Utf8.encode "one\n") ∧
    LogStore.Holds ⟨"logs"⟩ (linkedOpened.applyAll firstUnstarted).disk "next" 33
      (Utf8.encode ("[buildrunner] build error: " ++ (Fault.spawn "sh" .notFound).message ++
        "\n")) := by
  have hpath : LogStore.pathFor ⟨"logs"⟩ "next" = "logs/next_log.txt" := by decide
  have hnext : linkedLogs.locate false (LogStore.pathFor ⟨"logs"⟩ "next") = .ok (.found 33) :=
    hpath ▸ locate_linkedLogs.1
  refine ⟨⟨hnext, _, _, rfl, Content.bytes_ofBytes _⟩, ?_⟩
  have hwritten : (linkedOpened.applyAll firstUnstarted).disk = linkedLogsEmptied.setNode 33
      (.file ((Content.ofBytes []).overwrite 0 (LogSink.lineBytes
        ("[buildrunner] build error: " ++ (Fault.spawn "sh" .notFound).message))) false) := by rfl
  rw [hwritten]
  -- Paths lead where they led, to the file that has been emptied and written.
  have hx : Extends linkedLogs linkedLogsEmptied := extends_setNode_file (n := 33) rfl
  refine ⟨locate_found_mono (hx.trans (extends_setNode_file (n := 33) rfl)) hnext, _, _, rfl, ?_⟩
  rw [Content.bytes_overwrite_empty, LogSink.lineBytes_eq]

/-- **A build that changes the log of another project.** The log of the one is a link to that of the
other. The build fails, and the line that was in the log of the other project is lost; its closing
line is there instead. -/
theorem log_changed_through_link :
    let s := start (.sample "logs") .empty linkedLogs
    (s.trace unstartedRun).admitted = [firstBuild] ∧
      ¬(s.trace unstartedRun).Dropped firstBuild ∧
      .recorded firstBuild unstarted ∈ s.trace unstartedRun ∧
      firstBuild.project ≠ "next" ∧
      s.readLog "next" = .ok (some "one\n") ∧
      (s.applyAll unstartedRun).readLog "next" = .ok (some ("[buildrunner] build error: " ++
        "Failed to spawn 'sh': No such file or directory (os error 2)\n")) := by
  intro s
  obtain ⟨hbefore, hafter⟩ := holds_linked
  rw [trace_linked, applyAll_linked]
  refine ⟨rfl, ?_, by simp [unstartedTrace], by decide, readLog_of_holds hbefore, ?_⟩
  · rintro ⟨stage, heir, he⟩
    simp [unstartedTrace] at he
  · refine (readLog_of_holds (s := linkedOpened.applyAll firstUnstarted) hafter).trans ?_
    decide

end

end Dispatcher

end BuildService
