import BuildService.Proofs.Bystanders
import BuildService.Proofs.Drain
import BuildService.Proofs.Running
/-!
What a reader finds in the log of a build that has just been admitted.

Admission marks the project as running and does nothing else; the log is emptied
by a later move, the first of the build itself. Whoever reads in between finds
what was there before: the whole text of an earlier build, if there was one
(`earlier_text_after_acknowledgement`). So that the project runs does not say
whose text is in its log. What does say it is the emptying: before it the log does
not change, and after it, until the project is admitted again, the log is the
growing text of the build and of no other one (`read_since_acknowledgement`).
-/

set_option autoImplicit false

namespace BuildService

namespace Dispatcher

variable {settings : Settings} {disk : Disk} {s s' : Dispatcher} {tr : Trace} {b c : Build}
  {p : String} {moves : List Move}

/-! ## Nobody else of the project -/

/-- As long as no other build of a project is admitted, the latest one stays the latest, and nobody
else opens its log. -/
theorem Logged.owner?_of_latest (h : Logged settings disk s tr)
    (hown : ∀ d, disk.makeDirs settings.logsDir = .ok d → LogStore.Own ⟨settings.logsDir⟩ d)
    (hlatest : tr.latest? p = some b) (hnone : ∀ c ∈ (s.trace moves).admitted, c.project ≠ p) :
    Trace.latest? (tr ++ s.trace moves) p = some b ∧
      (b ∉ (s.trace moves).opened → Trace.owner? (tr ++ s.trace moves) p = tr.owner? p) := by
  refine (run_induction (P := fun s' more => Logged settings disk s' (tr ++ more) ∧
    ((∀ c ∈ more.admitted, c.project ≠ p) → Trace.latest? (tr ++ more) p = some b ∧
      (b ∉ more.opened → Trace.owner? (tr ++ more) p = tr.owner? p))) ?_ ?_ moves).2 hnone
  · rw [List.append_nil]
    exact ⟨h, fun _ => ⟨hlatest, fun _ => rfl⟩⟩
  rintro s₁ more e s₂ ⟨hlog, hI⟩ hs
  rw [← List.append_assoc]
  refine ⟨hlog.step hown hs, fun hadm => ?_⟩
  have hadm' : ∀ c ∈ more.admitted, c.project ≠ p := fun c hc =>
    hadm c (Trace.mem_admitted_append.2 (.inl hc))
  obtain ⟨hlat, howner⟩ := hI hadm'
  constructor
  · cases e with
    | admitted c =>
      have hc : c.project ≠ p := hadm c (Trace.mem_admitted_append.2 (.inr (by
        simp [Trace.admitted, Happening.admitted?])))
      rw [Trace.latest?_append_admitted, if_neg hc, hlat]
    | _ => rw [Trace.latest?_append_of_none _ rfl, hlat]
  · intro hopened
    rw [Trace.opened_append, List.mem_append, not_or] at hopened
    cases e with
    | opened c =>
      have hc : c.project ≠ p := by
        rintro rfl
        -- Who opens a log is the latest build of its project.
        cases hs with
        | opened ht _ =>
          have := hlog.truthful.latest c (mem_live_of_task? ht)
          rw [hlat] at this
          obtain rfl := Option.some.inj this
          simp [Happening.opened?] at hopened
      rw [Trace.owner?_append_opened, if_neg hc, howner hopened.1]
    | _ => rw [Trace.owner?_append_of_none _ rfl, howner hopened.1]

/-- What has happened since a moment to a build that was admitted before it. -/
theorem Logged.since (h : Logged settings disk s tr)
    (hown : ∀ d, disk.makeDirs settings.logsDir = .ok d → LogStore.Own ⟨settings.logsDir⟩ d)
    (hb : b ∈ tr.admitted) (moves : List Move) :
    Since settings disk s tr b (s.applyAll moves) (s.trace moves) := by
  refine run_induction ?_ (fun _ _ _ _ hw hstep => hw.step hown hb hstep) moves
  exact ⟨by rwa [List.append_nil], by rw [List.append_nil]; exact id, id,
    "", by rw [List.append_nil, String.append_empty], fun _ => rfl⟩

/-- The latest build of a project owns its log once it has opened it. -/
theorem Logged.readLog_of_opened (h : Logged settings disk s tr)
    (hlatest : tr.latest? p = some b) (hb : b ∈ tr.opened) :
    s.readLog p = .ok (some (tr.text settings.timeout b)) :=
  h.readLog_eq ((h.owner p b hlatest).resolve_right fun hc => hc.1 hb)

/-- A text that is in a log and is nobody's who is live stays there, as long as nobody opens it. -/
theorem Logged.readLog_kept (h : Logged settings disk s tr)
    (hown : ∀ d, disk.makeDirs settings.logsDir = .ok d → LogStore.Own ⟨settings.logsDir⟩ d)
    (ho : tr.owner? p = some c) (hdead : c ∉ s.live)
    (hkept : Trace.owner? (tr ++ s.trace moves) p = tr.owner? p) :
    (s.applyAll moves).readLog p = s.readLog p := by
  have hc : c ∈ tr.admitted := by
    have hopened := (Trace.mem_of_owner? ho).1
    exact h.truthful.accounted.rooted.mentioned _ (Trace.mem_opened.1 hopened) c rfl
  have hsince := h.since hown hc moves
  obtain ⟨after, htext, hquiet⟩ := hsince.text
  rw [h.readLog_eq ho, hsince.logged.readLog_eq (hkept.trans ho), htext, hquiet hdead,
    String.append_empty]

/-- What was before the first line of a build is not in its text. -/
theorem Trace.text_append_of_silent {tr more : Trace} {timeout : Duration}
    (hwritten : tr.written b = []) (hresult : tr.result? b = none) :
    Trace.text (tr ++ more) timeout b = more.text timeout b := by
  have happend : Trace.written (tr ++ more) b = tr.written b ++ more.written b :=
    List.filterMap_append
  rw [Trace.text, Trace.text, happend, hwritten, List.nil_append, Trace.trailer?, Trace.trailer?,
    Trace.result?_append_run, hresult, Option.none_or]

/-- As long as nobody opens it, a log reads as it did, whether it was somebody's or not; or, if no
log was ever opened, as it would have read with the directory of the logs made. -/
theorem Logged.readLog_unopened (h : Logged settings disk s tr)
    (hown : ∀ d, disk.makeDirs settings.logsDir = .ok d → LogStore.Own ⟨settings.logsDir⟩ d)
    (hp : Request.isProjectId p = true) (hdead : ∀ c, tr.owner? p = some c → c ∉ s.live)
    (hkept : Trace.owner? (tr ++ s.trace moves) p = tr.owner? p) :
    (s.applyAll moves).readLog p = s.readLog p ∨
      tr.opened = [] ∧ ∃ made, s.disk.makeDirs settings.logsDir = .ok made ∧
        (s.applyAll moves).logs.read (s.applyAll moves).disk p =
          LogStore.read ⟨settings.logsDir⟩ made p := by
  cases ho : tr.owner? p with
  | some c => exact .inl (h.readLog_kept hown ho (hdead c ho) hkept)
  | none =>
    have hlogs : s.logs = ⟨settings.logsDir⟩ := by rw [logs, h.same]
    have hspared := h.spared hown moves
    rcases hspared.reads with hdisk | ⟨made, hm, -, hreads⟩
    · exact .inl (readLog_congr (by rw [hdisk, hspared.logs_eq, hlogs]))
    have hread := hreads p hp (hkept.trans ho)
    by_cases hopened : tr.opened = []
    · exact .inr ⟨hopened, made, hm, hread⟩
    · -- Whoever has opened a log has made the directory.
      have hall := (h.prepared.resolve_left fun hc => hopened hc.2).made
      rw [hlogs] at hall
      obtain rfl := Except.ok.inj (hm.symm.trans (Disk.makeDirs_of_allMade hall))
      exact .inl (readLog_congr (by rw [hread, hlogs]))

/-! ## From the admission on -/

/-- A build right after its admission: it is live and the latest of its project, it has written
nothing, and whose log it is going to empty is not live any more. -/
structure Arrived (settings : Settings) (disk : Disk) (s : Dispatcher) (tr : Trace) (b : Build) :
    Prop where
  logged : Logged settings disk s (tr ++ [.admitted b])
  unheard : ∀ e ∈ tr, e.build? ≠ some b
  latest : Trace.latest? (tr ++ [.admitted b]) b.project = some b
  owner : Trace.owner? (tr ++ [.admitted b]) b.project = tr.owner? b.project
  dead : ∀ c, tr.owner? b.project = some c → c ≠ b ∧ c ∉ s.live
  silent : Trace.written (tr ++ [.admitted b]) b = [] ∧
    Trace.result? (tr ++ [.admitted b]) b = none

theorem Logged.arrived_of_accept (h : Logged settings disk s tr)
    (hown : ∀ d, disk.makeDirs settings.logsDir = .ok d → LogStore.Own ⟨settings.logsDir⟩ d)
    {awaited : Bool} {platform : Platform} {r : Request}
    (hok : s.accept awaited platform r = .ok (b, s')) : Arrived settings disk s' tr b := by
  have hs := step_of_accept hok
  have hlogged := h.step hown hs
  have hunheard := (h.truthful.accounted.rooted.fresh hs.id_of_admitted).2
  refine ⟨hlogged, hunheard, ?_, Trace.owner?_append_of_none tr rfl _, fun c hc => ?_, ?_⟩
  · rw [Trace.latest?_append_admitted, if_pos rfl]
  · obtain ⟨hopened, hproject⟩ := Trace.mem_of_owner? hc
    have hne : c ≠ b := by
      rintro rfl
      exact hunheard _ (Trace.mem_opened.1 hopened) rfl
    -- Of one project only one build is live.
    exact ⟨hne, fun hl => hne (hlogged.truthful.eq_of_project hl (of_accept hok).2.2 hproject)⟩
  · rw [Trace.written_append, Trace.result?_append, Trace.result?_eq_none hunheard]
    have hwritten : tr.written b = [] :=
      List.filterMap_eq_nil_iff.2 fun e he => Happening.line?_eq_none (hunheard e he)
    exact ⟨by rw [hwritten]; rfl, rfl⟩

namespace Arrived

variable (h : Arrived settings disk s tr b)
include h

theorem mem_admitted : b ∈ Trace.admitted (tr ++ [.admitted b]) := (Trace.mem_of_latest? h.latest).1

/-- A project runs until its latest build is recorded. -/
theorem running (hlatest : Trace.latest? (tr ++ [.admitted b] ++ s.trace moves) b.project = some b)
    (htruthful : Truthful (s.applyAll moves) (tr ++ [.admitted b] ++ s.trace moves))
    (hrec : ∀ result, .recorded b result ∉ s.trace moves) :
    (s.applyAll moves).registry.get b.project = .running := by
  -- It was not recorded, so it is live or was given up.
  refine htruthful.running _ b hlatest ?_
  by_contra hgone
  obtain ⟨hl, hd⟩ := not_or.1 hgone
  obtain ⟨result, hr⟩ := htruthful.exists_recorded (Trace.mem_of_latest? hlatest).1 hl hd
  rcases List.mem_append.1 hr with hr | hr
  · rcases List.mem_append.1 hr with hr | hr
    · exact h.unheard _ hr rfl
    · cases List.mem_singleton.1 hr
  · exact hrec result hr

/-- From when a build has opened its log on, this log is what the build has written. -/
theorem readLog_of_opened
    (hown : ∀ d, disk.makeDirs settings.logsDir = .ok d → LogStore.Own ⟨settings.logsDir⟩ d)
    (hnone : ∀ c ∈ (s.trace moves).admitted, c.project ≠ b.project)
    (hopened : .opened b ∈ s.trace moves) :
    (s.applyAll moves).readLog b.project =
      .ok (some ((s.trace moves).text settings.timeout b)) := by
  rw [← Trace.text_append_of_silent h.silent.1 h.silent.2]
  refine (h.logged.since hown h.mem_admitted moves).logged.readLog_of_opened
    (h.logged.owner?_of_latest hown h.latest hnone).1 ?_
  exact Trace.mem_opened.2 (List.mem_append_right _ hopened)

end Arrived

/-- **What a reader finds after an admission.** Let a build be admitted after any run of the
service, and let anything happen after that but another admission of its project. Then its project
runs until the build is recorded, and:
- until the build has opened its log this log stays as it was when the build was admitted, for good
  if it cannot be opened; it is the whole text of the earlier build that opened it last, if there
  was one;
- once the build has opened its log, the log is what the build has written since and nothing else,
  and everything that is read later begins with it. -/
theorem read_since_acknowledgement (settings : Settings) (disk : Disk)
    (hown : ∀ d, disk.makeDirs settings.logsDir = .ok d → LogStore.Own ⟨settings.logsDir⟩ d)
    (before : List Move) (awaited : Bool) (platform : Platform) (r : Request) (b : Build)
    (s₁ : Dispatcher)
    (hok : ((start settings .empty disk).applyAll before).accept awaited platform r = .ok (b, s₁))
    (later : List Move) (hnone : ∀ c ∈ (s₁.trace later).admitted, c.project ≠ b.project) :
    let earlier := (start settings .empty disk).trace before
    let since := s₁.trace later
    let s := s₁.applyAll later
    ((∀ result, .recorded b result ∉ since) → s.registry.get b.project = .running) ∧
    (.opened b ∉ since → s.readLog b.project = s₁.readLog b.project ∨
      earlier.opened = [] ∧ ∃ made, s₁.disk.makeDirs settings.logsDir = .ok made ∧
        s.logs.read s.disk b.project = LogStore.read ⟨settings.logsDir⟩ made b.project) ∧
    (∀ c, earlier.owner? b.project = some c →
      c ≠ b ∧ s₁.readLog b.project = .ok (some (earlier.text settings.timeout c))) ∧
    (.opened b ∈ since →
      s.readLog b.project = .ok (some (String.join ((since.written b ++
        ((since.result? b).bind (BuildResult.trailer settings.timeout)).toList).map
          (· ++ "\n")))) ∧
      ∀ further, (∀ c ∈ (s.trace further).admitted, c.project ≠ b.project) →
        ∃ written rest, s.readLog b.project = .ok (some written) ∧
          (s.applyAll further).readLog b.project = .ok (some (written ++ rest))) := by
  intro earlier since s
  have h : Arrived settings disk s₁ earlier b :=
    (logged settings disk hown before).arrived_of_accept hown hok
  obtain ⟨hlatest, hkept⟩ := h.logged.owner?_of_latest hown h.latest hnone
  have hsince := h.logged.since hown h.mem_admitted later
  refine ⟨h.running hlatest hsince.logged.truthful, fun hopened => ?_, fun c hc => ?_,
    fun hopened => ?_⟩
  · obtain hsame | ⟨hnobody, hmade⟩ := h.logged.readLog_unopened hown
      (h.logged.valid b h.mem_admitted) (fun c hc => (h.dead c (h.owner ▸ hc)).2)
      (hkept fun hc => hopened (Trace.mem_opened.1 hc))
    · exact .inl hsame
    · rw [Trace.opened_append] at hnobody
      exact .inr ⟨(List.append_eq_nil_iff.1 hnobody).1, hmade⟩
  · obtain ⟨hne, -⟩ := h.dead c hc
    refine ⟨hne, ?_⟩
    rw [h.logged.readLog_eq (h.owner.trans hc), Trace.text_append_of_ne]
    exact fun hbuild => hne (Option.some.inj hbuild).symm
  · have hnow := h.readLog_of_opened hown hnone hopened
    refine ⟨hnow, fun further hfurther => ?_⟩
    obtain ⟨rest, htext, -⟩ :=
      (hsince.logged.since hown (Trace.mem_of_latest? hlatest).1 further).text
    refine ⟨_, rest, hnow, ?_⟩
    -- The two stretches of moves are one, at the end of which the log is the build's as well.
    have hboth : ∀ c ∈ (s₁.trace (later ++ further)).admitted, c.project ≠ b.project := by
      intro c hc
      rw [trace_append, Trace.mem_admitted_append] at hc
      exact hc.elim (hnone c) (hfurther c)
    have hopened' : .opened b ∈ s₁.trace (later ++ further) := by
      rw [trace_append]
      exact List.mem_append_left _ hopened
    have hlater := h.readLog_of_opened hown hboth hopened'
    rw [applyAll_append, trace_append] at hlater
    rw [hlater, ← Trace.text_append_of_silent h.silent.1 h.silent.2, ← List.append_assoc, htext,
      Trace.text_append_of_silent h.silent.1 h.silent.2]

/-! ## A build after one that has failed -/

/-- The first build of a service, which fails. -/
def failure : List Move := .accept false .android (.sample "demo") :: .openLog 0 :: firstFails

/-- The service when the first build has failed. -/
def firstFailed : Dispatcher := firstOpened.applyAll firstFails

/-- The second build of the same project. -/
def rebuild : Build := ⟨1, .sample "demo", false⟩

/-- The service when the second build has been admitted. -/
def readmitted : Dispatcher := firstFailed.apply (.accept false .android (.sample "demo"))

/-- What the second build does: it writes nothing and succeeds. -/
def rebuilding : List Move :=
  [.openLog 1, .ask 1, .call 1, .close 1 (.ok .success), .giveBack 1, .record 1]

/-- What it does instead when it writes a line, up to that line. -/
def relinking : List Move := [.openLog 1, .ask 1, .call 1, .writeLine 1 "linking"]

/-- How it ends after that: it fails. -/
def ending : List Move := [.close 1 (.ok (.failed 2)), .giveBack 1, .record 1]

theorem applyAll_failure :
    (start (.sample "logs") .empty .initial).applyAll failure = firstFailed :=
  (run_first firstFails).1

theorem accept_rebuild : ((start (.sample "logs") .empty .initial).applyAll failure).accept false
    .android (.sample "demo") = .ok (rebuild, readmitted) := by
  rw [applyAll_failure]
  rfl

/-- The service when the second build has opened its log. -/
def reopened (sink : LogSink) (disk : Disk) : Dispatcher :=
  { readmitted with disk := disk }.setStage 1 (.opened sink)

theorem smooth_readmitted : Smooth (.sample "logs") .initial readmitted
    ((start (.sample "logs") .empty .initial).trace failure ++ [.admitted rebuild]) :=
  (smooth (.sample "logs") .initial LogStore.ready_initial failure).step LogStore.ready_initial
    (step_of_accept accept_rebuild)

theorem exists_reopened : ∃ sink disk,
    readmitted.happening? (.openLog 1) = some (.opened rebuild) ∧
      readmitted.apply (.openLog 1) = reopened sink disk ∧
      ∃ tr, Smooth (.sample "logs") .initial (reopened sink disk) tr := by
  obtain ⟨sink, disk, he, ha, h⟩ :=
    smooth_readmitted.exists_opened LogStore.ready_initial (b := rebuild) (by rfl)
  exact ⟨sink, disk, he, ha, _, h⟩

theorem trace_rebuilding : readmitted.trace rebuilding =
    [.opened rebuild, .granted rebuild, .called rebuild, .closed rebuild (.ok .success),
      .released rebuild none, .recorded rebuild (.ok .success)] := by
  obtain ⟨sink, disk, he, ha, -⟩ := exists_reopened
  rw [rebuilding, (run_cons he ha _).2]
  rfl

theorem trace_relinking : readmitted.trace relinking =
    [.opened rebuild, .granted rebuild, .called rebuild, .wrote rebuild "linking"] := by
  obtain ⟨sink, disk, he, ha, tr, h⟩ := exists_reopened
  have hrunning : ((reopened sink disk).applyAll [.ask 1, .call 1]).task? rebuild.id =
      some ⟨rebuild, .running sink⟩ := by rfl
  obtain ⟨n, d, hd, -⟩ :=
    (kept_by_run (fun _ _ _ _ h hs => h.step LogStore.ready_initial hs) h
      [.ask 1, .call 1]).logged.keeps_line hrunning "linking"
  have hwrote : ((reopened sink disk).applyAll [.ask 1, .call 1]).happening?
      (.writeLine 1 "linking") = some (.wrote rebuild "linking") := by
    have ht : ((reopened sink disk).applyAll [.ask 1, .call 1]).task? 1 = _ := hrunning
    simp only [happening?, ht, hd]
  have hrest : (reopened sink disk).trace [.ask 1, .call 1, .writeLine 1 "linking"] =
      [.granted rebuild, .called rebuild] ++
        (((reopened sink disk).applyAll [.ask 1, .call 1]).happening?
          (.writeLine 1 "linking")).toList := trace_append_one _ [.ask 1, .call 1] _
  rw [relinking, (run_cons he ha _).2, hrest, hwrote]
  rfl

/-- Right after the admission of the second build its project runs, and its log is that of the first
one. When the second build has written its first line, this line is all that is read, and the log
still begins with it when the build is over. -/
theorem readmitted_as_before :
    (∀ d, Disk.initial.makeDirs "logs" = .ok d → LogStore.Own ⟨"logs"⟩ d) ∧
      ((start (.sample "logs") .empty .initial).applyAll failure).accept false .android
        (.sample "demo") = .ok (rebuild, readmitted) ∧
      (∀ c ∈ (readmitted.trace relinking).admitted, c.project ≠ rebuild.project) ∧
      readmitted.registry.get "demo" = .running ∧
      readmitted.readLog "demo" =
        .ok (some "compiling\n[buildrunner] build failed with exit code 2\n") ∧
      (readmitted.applyAll relinking).registry.get "demo" = .running ∧
      (readmitted.applyAll relinking).readLog "demo" = .ok (some "linking\n") ∧
      ∃ rest, ((readmitted.applyAll relinking).applyAll ending).readLog "demo" =
        .ok (some ("linking\n" ++ rest)) := by
  have hnone : ∀ c ∈ (readmitted.trace relinking).admitted, c.project ≠ rebuild.project := by
    simp [trace_relinking, Trace.admitted, Happening.admitted?]
  obtain ⟨hrunning, -, hbefore, -⟩ := read_since_acknowledgement (.sample "logs") .initial
    own_initial failure false .android (.sample "demo") rebuild readmitted accept_rebuild []
    (by simp [trace, Trace.admitted])
  obtain ⟨hstill, -, -, hopened⟩ := read_since_acknowledgement (.sample "logs") .initial
    own_initial failure false .android (.sample "demo") rebuild readmitted accept_rebuild relinking
    hnone
  rw [failure, (run_first firstFails).2, trace_firstFails] at hbefore
  rw [trace_relinking] at hstill hopened
  obtain ⟨hnow, hlater⟩ := hopened (by simp)
  have hlinking : (readmitted.applyAll relinking).readLog "demo" = .ok (some "linking\n") :=
    hnow.trans (by decide)
  refine ⟨own_initial, accept_rebuild, hnone, hrunning (by simp [trace]),
    (hbefore firstBuild (by rfl)).2.trans (by decide), hstill (by simp), hlinking, ?_⟩
  have hnobody : ∀ c ∈ ((readmitted.applyAll relinking).trace ending).admitted,
      c.project ≠ rebuild.project := by
    rw [admitted_of_inner (by simp [ending, Move.isInner])]
    exact fun c hc => absurd hc List.not_mem_nil
  obtain ⟨written, rest, hwritten, hrest⟩ := hlater ending hnobody
  obtain rfl : "linking\n" = written := by
    have hsame := hlinking.symm.trans hwritten
    simpa using hsame
  exact ⟨rest, hrest⟩

/-- **A log of an earlier build after the admission of the next one.** The second build of a project
has been admitted and its project runs; what is in its log is not empty, and is no beginning of what
will be there in the end, since the build goes on to write nothing. -/
theorem earlier_text_after_acknowledgement :
    ((start (.sample "logs") .empty .initial).applyAll failure).accept false .android
        (.sample "demo") = .ok (rebuild, readmitted) ∧
      readmitted.registry.get "demo" = .running ∧
      readmitted.readLog "demo" =
        .ok (some "compiling\n[buildrunner] build failed with exit code 2\n") ∧
      (readmitted.applyAll rebuilding).readLog "demo" = .ok (some "") := by
  have h := smooth_readmitted.logged
  have hfinal := kept_by_run (fun _ _ _ _ h hs => h.step own_initial hs) h rebuilding
  rw [failure, (run_first firstFails).2, trace_firstFails] at h hfinal
  rw [trace_rebuilding] at hfinal
  refine ⟨accept_rebuild, by decide, ?_, ?_⟩
  · rw [h.readLog_eq (p := "demo") (b := firstBuild) (by rfl)]
    decide
  · rw [hfinal.readLog_eq (p := "demo") (b := rebuild) (by rfl)]
    decide

end Dispatcher

end BuildService
