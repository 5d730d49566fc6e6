import BuildService.Proofs.LogFiles
import BuildService.Proofs.SingleFlight
import BuildService.Sample
/-!
Logs over whole runs: the log of a project is, byte by byte, what its latest
build has written, and at the end one closing line.

A log belongs to the last build of its project that opened it, its owner. `Logged`
says of every log that has an owner that it is a file that holds the text of the
owner, and that the owner, as long as it writes, stands at the end of this file.
Whatever happens writes at most one log, that of the build that it happens to;
this build is live, so by single flight it is the only one of its project, and
no other log is touched. Whether the owner is the latest build of the project is
a question apart, answered by `Logged.owner`: it is, unless the latest build has
still to open its log, or failed to.
-/

set_option autoImplicit false

namespace BuildService

/-! ## What a trace says of logs -/

/-- The build whose log is opened, if that is what happens. -/
def Happening.opened? : Happening → Option Build
  | .opened b => some b
  | _ => none

/-- The line that is written into the log of a build. -/
def Happening.line? (b : Build) : Happening → Option String
  | .wrote c line => if c = b then some line else none
  | _ => none

/-- The build whose log is opened or written. -/
def Happening.writer? : Happening → Option Build
  | .opened b | .wrote b _ | .closed b _ => some b
  | _ => none

/-- The log that a build at this stage writes. -/
def Stage.sink? : Stage → Option LogSink
  | opened sink | asking sink | running sink => some sink
  | _ => none

namespace Trace

/-- The builds that opened their logs, in order. -/
def opened (tr : Trace) : List Build := tr.filterMap Happening.opened?

/-- The build of a project that opened the log last. -/
def owner? (tr : Trace) (project : String) : Option Build :=
  tr.opened.reverse.find? (·.project == project)

/-- The lines that a build has written, in order. -/
def written (tr : Trace) (b : Build) : List String := tr.filterMap (Happening.line? b)

/-- The closing line of a build, if it has ended and there is one. -/
def trailer? (tr : Trace) (timeout : Duration) (b : Build) : Option String :=
  (tr.result? b).bind (BuildResult.trailer timeout)

/-- What the log of a build has to be: the lines that it has written and then its closing line,
each with a line feed behind it. -/
def text (tr : Trace) (timeout : Duration) (b : Build) : String :=
  String.join ((tr.written b ++ (tr.trailer? timeout b).toList).map (· ++ "\n"))

/-- Whether opening the log of a build has not failed, and the build has not been given up before it
had a log. Who is given up later keeps what was written. -/
def KeepsLog (tr : Trace) (b : Build) : Prop :=
  (∀ cause, .unopened b cause ∉ tr) ∧ ∀ heir, .dropped b .arrived heir ∉ tr

theorem opened_append (tr : Trace) (e : Happening) :
    opened (tr ++ [e]) = tr.opened ++ e.opened?.toList := filterMap_append_one _ tr e

theorem written_append (tr : Trace) (e : Happening) (b : Build) :
    written (tr ++ [e]) b = tr.written b ++ (e.line? b).toList := filterMap_append_one _ tr e

/-- The owner of a log stays the owner if nobody opens one. -/
theorem owner?_append_of_none (tr : Trace) {e : Happening} (h : e.opened? = none)
    (project : String) : owner? (tr ++ [e]) project = tr.owner? project := by
  rw [owner?, opened_append, h, Option.toList_none, List.append_nil, owner?]

/-- A build that opens a log owns it, and no other one. -/
theorem owner?_append_opened (tr : Trace) (b : Build) (project : String) :
    owner? (tr ++ [.opened b]) project =
      if b.project = project then some b else tr.owner? project := by
  rw [owner?, opened_append]
  exact find?_reverse_append_one _ _ _

/-- The owner of a log just opens it, or was its owner before. -/
theorem eq_or_owner? {tr : Trace} {e : Happening} {project : String} {b : Build}
    (h : owner? (tr ++ [e]) project = some b) : e = .opened b ∨ tr.owner? project = some b := by
  cases e with
  | opened c =>
    rw [owner?_append_opened] at h
    split at h
    · obtain rfl := Option.some.inj h
      exact .inl rfl
    · exact .inr h
  | _ =>
    rw [owner?_append_of_none tr rfl] at h
    exact .inr h

theorem mem_of_owner? {tr : Trace} {project : String} {b : Build}
    (h : tr.owner? project = some b) : b ∈ tr.opened ∧ b.project = project :=
  ⟨List.mem_reverse.1 (List.mem_of_find?_eq_some h), by simpa using List.find?_some h⟩

theorem mem_opened {tr : Trace} {b : Build} : b ∈ tr.opened ↔ .opened b ∈ tr :=
  mem_filterMap_iff fun e b => by cases e <;> simp [Happening.opened?]

end Trace

/-- What happens to another build adds no line to the log of this one. -/
theorem Happening.line?_eq_none {e : Happening} {b : Build} (h : e.build? ≠ some b) :
    e.line? b = none := by
  cases e <;> simp_all [Happening.line?, Happening.build?]

namespace Trace

variable {tr : Trace} {e : Happening} {b : Build} {timeout : Duration}

/-- What happens to another build leaves the text of this one as it is. -/
theorem text_append_of_ne (h : e.build? ≠ some b) :
    text (tr ++ [e]) timeout b = tr.text timeout b := by
  simp [text, trailer?, written_append, result?_append, Happening.line?_eq_none h,
    Happening.result?_eq_none h]

/-- As long as a build has not ended, its text only grows. -/
theorem text_append_of_open (timeout : Duration) (e : Happening) (h : tr.result? b = none) :
    text (tr ++ [e]) timeout b = tr.text timeout b ++
      String.join (((e.line? b).toList ++
        ((e.result? b).bind (BuildResult.trailer timeout)).toList).map (· ++ "\n")) := by
  simp [text, trailer?, written_append, result?_append, h, String.join_append]

/-- A line that is written before the end comes last. -/
theorem text_append_wrote (timeout : Duration) (line : String) (h : tr.result? b = none) :
    text (tr ++ [.wrote b line]) timeout b = tr.text timeout b ++ (line ++ "\n") := by
  rw [text_append_of_open timeout _ h]
  simp [Happening.line?, Happening.result?]

/-- The closing line comes after all others. -/
theorem text_append_closed (timeout : Duration) (result : BuildResult) (h : tr.result? b = none) :
    text (tr ++ [.closed b result]) timeout b =
      tr.text timeout b ++
        String.join ((result.trailer timeout).toList.map (· ++ "\n")) := by
  rw [text_append_of_open timeout _ h]
  simp [Happening.line?, Happening.result?]

/-- Only what is written into the log of a build adds to its text, as long as the log could be
opened. -/
theorem text_append_of_not_writer (hw : e.writer? ≠ some b)
    (hu : ∀ cause, e ≠ .unopened b cause) :
    text (tr ++ [e]) timeout b = tr.text timeout b := by
  have hline : e.line? b = none := by
    cases e <;> simp_all [Happening.line?, Happening.writer?]
  have hresult : e.result? b = none := by
    cases e <;> simp_all [Happening.result?, Happening.writer?]
  simp [text, trailer?, written_append, result?_append, hline, hresult]

end Trace

namespace LogSink

theorem lineBytes_eq (line : String) : lineBytes line = Utf8.encode (line ++ "\n") := by
  rw [Utf8.encode_append]
  rfl

end LogSink

/-- What passes every check has a project id that is inside its allow-list. -/
theorem isProjectId_of_validate {r : Request} (h : r.validate = .ok ()) :
    Request.isProjectId r.projectId = true := by
  unfold Request.validate at h
  split at h
  · rename_i hnone
    have hfield := List.findSome?_eq_none_iff.1 hnone .projectId (by decide)
    simp only [Request.fieldFault?, Request.projectIdFault?, Request.get, Option.map_eq_none_iff]
      at hfield
    by_contra hc
    simp [hc] at hfield
  · cases h

namespace Dispatcher

/-- What a step does to a build without writing its log leaves its place in the log alone. -/
theorem Next.sink?_eq {stage stage' : Stage} {e : Happening} (h : Next stage e stage')
    (hw : e.writer? = none) : stage'.sink? = stage.sink? := by
  cases h <;> first | rfl | cases hw

/-- Who writes a log has opened it just now or has written it before. -/
theorem Next.opened_or_sink {stage stage' : Stage} {e : Happening} {sink : LogSink}
    (h : Next stage e stage') (hs : stage'.sink? = some sink) :
    (∃ c, e = .opened c) ∨ e.opened? = none ∧ ∃ sink', stage.sink? = some sink' := by
  cases h with
  | opened c _ => exact .inl ⟨c, rfl⟩
  | unopened => cases hs
  | closed => cases hs
  | released => cases hs
  | _ => exact .inr ⟨rfl, _, rfl⟩

/-- Two live builds of one project are one build. -/
theorem Truthful.eq_of_project {s : Dispatcher} {tr : Trace} (h : Truthful s tr) {b c : Build}
    (hb : b ∈ s.live) (hc : c ∈ s.live) (hp : b.project = c.project) : b = c := by
  have := h.latest b hb
  rw [hp, h.latest c hc] at this
  exact (Option.some.inj this).symm

/-- A log that is a file with a text in it is read as this text. -/
theorem readLog_of_holds {s : Dispatcher} {p text : String} {n : NodeId}
    (h : s.logs.Holds s.disk p n (Utf8.encode text)) : s.readLog p = .ok (some text) := by
  delta readLog
  rw [LogStore.read_of_holds h]

/-! ## The invariant -/

/-- The log of a build is a file that holds its text, and if the build still writes, it stands at
the end of this file. -/
def Keeps (timeout : Duration) (s : Dispatcher) (tr : Trace) (b : Build) : Prop :=
  ∃ n, s.logs.Holds s.disk b.project n (Utf8.encode (tr.text timeout b)) ∧
    ∀ stage sink, ⟨b, stage⟩ ∈ s.tasks → stage.sink? = some sink →
      sink.node = n ∧ sink.position = (Utf8.encode (tr.text timeout b)).length

/-- What the disk, the live builds and the trace say of logs, on a disk that was `disk` at the
start. -/
structure Logged (settings : Settings) (disk : Disk) (s : Dispatcher) (tr : Trace) : Prop where
  truthful : Truthful s tr
  same : s.settings = settings
  /-- A project id that was admitted is inside its allow-list. -/
  valid : ∀ b ∈ tr.admitted, Request.isProjectId b.project = true
  prepared : (s.disk = disk ∧ tr.opened = []) ∨ s.logs.Prepared s.disk
  /-- Who has not opened its log has not written anything. -/
  arrived : ∀ t ∈ s.tasks, t.stage = .arrived → t.build ∉ tr.opened ∧ tr.written t.build = []
  /-- Who writes a log owns it. -/
  sink : ∀ t ∈ s.tasks, ∀ sink, t.stage.sink? = some sink →
    tr.owner? t.build.project = some t.build
  log : ∀ p b, tr.owner? p = some b → Keeps settings.timeout s tr b
  /-- The latest build of a project owns the log, unless it has not opened it; and then it is about
  to open it, or did not come to that. -/
  owner : ∀ p b, tr.latest? p = some b → tr.owner? p = some b ∨
    b ∉ tr.opened ∧ (tr.KeepsLog b → ⟨b, .arrived⟩ ∈ s.tasks)

namespace Logged

variable {settings : Settings} {disk : Disk} {s s' : Dispatcher} {tr : Trace} {e : Happening}

theorem numbered (h : Logged settings disk s tr) : Numbered s :=
  h.truthful.accounted.rooted.numbered

theorem valid_of_live (h : Logged settings disk s tr) {b : Build} (hb : b ∈ s.live) :
    Request.isProjectId b.project = true :=
  h.valid b ((h.truthful.live_iff b).1 hb).1

/-- Who has opened its log is not about to open it. -/
theorem not_mem_opened (h : Logged settings disk s tr) {b : Build}
    (hb : s.task? b.id = some ⟨b, .arrived⟩) : b ∉ tr.opened :=
  (h.arrived _ (mem_of_task? hb) rfl).1

theorem valid_step (h : Logged settings disk s tr) (hs : Step s e s') :
    ∀ b ∈ Trace.admitted (tr ++ [e]), Request.isProjectId b.project = true := by
  intro b hb
  rw [Trace.admitted_append, List.mem_append, Option.mem_toList] at hb
  rcases hb with hb | hb
  · exact h.valid b hb
  · cases hs with
    | admitted _ hc =>
      obtain rfl := Option.some.inj hb
      exact isProjectId_of_validate (check_eq_ok_iff.1 hc).2.1
    | _ => cases hb

theorem arrived_step (h : Logged settings disk s tr) (hs : Step s e s') :
    ∀ t ∈ s'.tasks, t.stage = .arrived →
      t.build ∉ Trace.opened (tr ++ [e]) ∧ Trace.written (tr ++ [e]) t.build = [] := by
  intro t ht hstage
  rw [Trace.opened_append, Trace.written_append, List.mem_append, not_or, Option.mem_toList]
  rcases hs.mem_tasks h.numbered ht with ⟨hmem, hother⟩ | ⟨stage, -, -, hnext⟩ | ⟨rfl, hnew, -⟩
  · obtain ⟨hopened, hwritten⟩ := h.arrived t hmem hstage
    rw [hwritten, Happening.line?_eq_none hother]
    refine ⟨⟨hopened, ?_⟩, rfl⟩
    cases e <;> simp_all [Happening.opened?, Happening.build?]
  · rw [hstage] at hnext
    cases hnext
  · have hfresh := (h.truthful.accounted.rooted.fresh hnew).2
    refine ⟨⟨fun hb => hfresh _ (Trace.mem_opened.1 hb) rfl, by simp [Happening.opened?]⟩, ?_⟩
    have hnone : tr.written t.build = [] :=
      List.filterMap_eq_nil_iff.2 fun e he => Happening.line?_eq_none (hfresh e he)
    rw [hnone]
    rfl

/-- While its owner is live, nobody else opens a log. -/
theorem owner?_kept (h : Logged settings disk s tr) (hs : Step s e s') {b : Build}
    (hb : b ∈ s.live) (hne : e.build? ≠ some b) :
    Trace.owner? (tr ++ [e]) b.project = tr.owner? b.project := by
  cases hs with
  | @opened c _ _ ht _ =>
    rw [Trace.owner?_append_opened, if_neg]
    intro hp
    exact hne (congrArg some (h.truthful.eq_of_project (mem_live_of_task? ht) hb hp))
  | _ => exact Trace.owner?_append_of_none tr rfl _

theorem sink_step (h : Logged settings disk s tr) (hs : Step s e s') :
    ∀ t ∈ s'.tasks, ∀ sink, t.stage.sink? = some sink →
      Trace.owner? (tr ++ [e]) t.build.project = some t.build := by
  intro t ht sink hsink
  rcases hs.mem_tasks h.numbered ht with ⟨hmem, hother⟩ | ⟨stage, hmem, hb, hnext⟩ | ⟨-, -, harr⟩
  · rw [h.owner?_kept hs (List.mem_map_of_mem hmem) hother]
    exact h.sink t hmem sink hsink
  · rcases hnext.opened_or_sink hsink with ⟨c, rfl⟩ | ⟨ho, sink', hs⟩
    · obtain rfl := Option.some.inj hb
      rw [Trace.owner?_append_opened, if_pos rfl]
    · rw [Trace.owner?_append_of_none tr ho]
      exact h.sink ⟨t.build, stage⟩ hmem sink' hs
  · rw [harr] at hsink
    cases hsink

/-- What is about to open its log opens it, or stays so, or loses it. -/
theorem arrived_kept (h : Logged settings disk s tr) (hs : Step s e s') {b : Build}
    (hb : ⟨b, .arrived⟩ ∈ s.tasks) (hk : Trace.KeepsLog (tr ++ [e]) b) :
    e = .opened b ∨ ⟨b, .arrived⟩ ∈ s'.tasks := by
  by_cases he : e.build? = some b
  · rcases hs.exists_next h.numbered hb he with ⟨stage, hnext, -⟩ | ⟨_, -, hst⟩ | ⟨heir, rfl⟩
    · cases hnext with
      | opened c sink =>
        obtain rfl := Option.some.inj he
        exact .inl rfl
      | unopened c cause =>
        obtain rfl := Option.some.inj he
        exact absurd (List.mem_append_right _ (List.mem_singleton_self _)) (hk.1 cause)
    · cases hst
    · exact absurd (List.mem_append_right _ (List.mem_singleton_self _)) (hk.2 heir)
  · exact .inr (hs.mem_tasks_of_ne h.numbered hb he)

theorem owner_step (h : Logged settings disk s tr) (hs : Step s e s') :
    ∀ p b, Trace.latest? (tr ++ [e]) p = some b → Trace.owner? (tr ++ [e]) p = some b ∨
      b ∉ Trace.opened (tr ++ [e]) ∧ (Trace.KeepsLog (tr ++ [e]) b → ⟨b, .arrived⟩ ∈ s'.tasks) := by
  intro p b hp
  rcases Trace.eq_or_latest? hp with rfl | hlat
  · cases hs with
    | admitted hid _ =>
      refine .inr ⟨?_, fun _ => List.mem_append_right _ (List.mem_singleton_self _)⟩
      rw [Trace.opened_append, List.mem_append]
      rintro (hc | hc)
      · exact (h.truthful.accounted.rooted.fresh hid).2 _ (Trace.mem_opened.1 hc) rfl
      · cases hc
  obtain rfl := (Trace.mem_of_latest? hlat).2
  by_cases ho : e = .opened b
  · refine .inl ?_
    rw [ho, Trace.owner?_append_opened, if_pos rfl]
  -- Who opens a log is the latest build of its project, so it is one of another project.
  have hkept : Trace.owner? (tr ++ [e]) b.project = tr.owner? b.project := by
    cases hs with
    | @opened c _ _ ht _ =>
      rw [Trace.owner?_append_opened, if_neg]
      intro hc
      have hcb := h.truthful.latest c (mem_live_of_task? ht)
      rw [hc, hlat] at hcb
      exact ho (congrArg Happening.opened (Option.some.inj hcb).symm)
    | _ => exact Trace.owner?_append_of_none tr rfl _
  rw [hkept]
  refine (h.owner _ b hlat).imp_right fun howner => ⟨?_, fun hk => ?_⟩
  · rw [Trace.mem_opened, List.mem_append, List.mem_singleton, ← Trace.mem_opened]
    exact not_or.2 ⟨howner.1, fun he => ho he.symm⟩
  · have hbefore : tr.KeepsLog b :=
      ⟨fun cause hc => hk.1 cause (List.mem_append_left _ hc),
        fun heir hc => hk.2 heir (List.mem_append_left _ hc)⟩
    exact (h.arrived_kept hs (howner.2 hbefore) hk).resolve_left ho

/-! ## The disk, step by step -/

/-- A log can be opened only where logs are their own. -/
theorem own_of_makeDirs (h : Logged settings disk s tr)
    (hown : ∀ d, disk.makeDirs settings.logsDir = .ok d → LogStore.Own ⟨settings.logsDir⟩ d)
    {d : Disk} (hd : s.disk.makeDirs s.logs.dir = .ok d) : s.logs.Own d := by
  rcases h.prepared with ⟨hdisk, -⟩ | hp
  · have hdir : s.logs = ⟨settings.logsDir⟩ := by rw [logs, h.same]
    rw [hdir] at hd ⊢
    rw [hdisk] at hd
    exact hown d hd
  · rw [Disk.makeDirs_of_allMade hp.made] at hd
    exact Except.ok.inj hd ▸ hp.own

/-- The directory of the logs is there once a log was opened, and is not made again. -/
theorem makeDirs_eq (h : Logged settings disk s tr) (ho : tr.opened ≠ []) {d : Disk}
    (hd : s.disk.makeDirs s.logs.dir = .ok d) : d = s.disk := by
  rcases h.prepared with ⟨-, hnone⟩ | hp
  · exact absurd hnone ho
  · rw [Disk.makeDirs_of_allMade hp.made] at hd
    exact (Except.ok.inj hd).symm

/-- Who writes a log has its own, and the disk is ready for it. -/
theorem of_running (h : Logged settings disk s tr) {b : Build} {sink : LogSink}
    (hb : s.task? b.id = some ⟨b, .running sink⟩) :
    Keeps settings.timeout s tr b ∧ s.logs.Prepared s.disk ∧ tr.result? b = none := by
  have hmem := mem_of_task? hb
  have ho := h.sink _ hmem sink rfl
  refine ⟨h.log _ b ho, ?_, h.truthful.accounted.stage _ hmem⟩
  rcases h.prepared with ⟨-, hnone⟩ | hp
  · have := (Trace.mem_of_owner? ho).1
    rw [hnone] at this
    cases this
  · exact hp

/-- Writing one line more. -/
theorem keeps_line (h : Logged settings disk s tr) {b : Build} {sink : LogSink}
    (hb : s.task? b.id = some ⟨b, .running sink⟩) (line : String) :
    ∃ n d, sink.writeLine s.disk line =
        .ok ({ sink with position := sink.position + (LogSink.lineBytes line).length }, d) ∧
      sink.node = n ∧
      sink.position = (Utf8.encode (tr.text settings.timeout b)).length ∧
      s.logs.Changed s.disk d b.project n
        (Utf8.encode (tr.text settings.timeout b ++ (line ++ "\n"))) := by
  obtain ⟨⟨n, hn, hsink⟩, hp, -⟩ := h.of_running hb
  obtain ⟨hnode, hpos⟩ := hsink _ sink (mem_of_task? hb) rfl
  obtain ⟨d, hd, hch⟩ := LogStore.writeLine_of_holds hp (h.valid_of_live (mem_live_of_task? hb)) hn
    hnode hpos line
  refine ⟨n, d, hd, hnode, hpos, ?_⟩
  rwa [LogSink.lineBytes_eq, ← Utf8.encode_append] at hch

/-- What a step that writes a log leaves behind: the text of the build that writes it, and all
other logs as they were. -/
structure Writes (timeout : Duration) (s s' : Dispatcher) (tr : Trace) (e : Happening) (b : Build) :
    Prop where
  keeps : Keeps timeout s' (tr ++ [e]) b
  prepared : s.logs.Prepared s'.disk
  others : tr.opened ≠ [] → ∀ q m bs, Request.isProjectId q = true → q ≠ b.project →
    s.logs.Holds s.disk q m bs → s.logs.Holds s'.disk q m bs

/-- A log that is opened is empty, and so is the text of a build that has written nothing yet. -/
theorem writes_opened (h : Logged settings disk s tr)
    (hown : ∀ d, disk.makeDirs settings.logsDir = .ok d → LogStore.Own ⟨settings.logsDir⟩ d)
    {b : Build} {sink : LogSink} {d : Disk} (hb : s.task? b.id = some ⟨b, .arrived⟩)
    (hr : s.logs.reset s.disk b.project = (.ok sink, d)) :
    Writes settings.timeout s ({ s with disk := d }.setStage b.id (.opened sink)) tr
      (.opened b) b := by
  have hv := h.valid_of_live (mem_live_of_task? hb)
  obtain ⟨d₁, hd₁, hch, hpos⟩ :=
    LogStore.changed_of_reset hv (fun _ hd => h.own_of_makeDirs hown hd) hr
  have htext : Trace.text (tr ++ [.opened b]) settings.timeout b = "" := by
    have hwritten := (h.arrived _ (mem_of_task? hb) rfl).2
    have hresult : tr.result? b = none := h.truthful.accounted.stage _ (mem_of_task? hb)
    simp [Trace.text, Trace.trailer?, Trace.written_append, Trace.result?_append, hwritten,
      hresult, Happening.line?, Happening.result?]
  refine ⟨⟨sink.node, ?_, ?_⟩, hch.prepared, ?_⟩
  · rw [htext]
    exact hch.holds
  · intro stage sink' ht hsink
    obtain rfl := stage_eq_of_mem_setStage h.numbered hb ht
    obtain rfl := Option.some.inj hsink
    exact ⟨rfl, by rw [htext, hpos]; rfl⟩
  · -- The directory is made for the first log only, and then there are no others yet.
    intro ho q m bs hq hne hh
    refine hch.others q m bs hq hne ?_
    rwa [h.makeDirs_eq ho hd₁]

/-- A line is written behind the text so far, and the build stands behind the line then. -/
theorem writes_wrote (h : Logged settings disk s tr) {b : Build} {sink sink' : LogSink} {d : Disk}
    {line : String} (hb : s.task? b.id = some ⟨b, .running sink⟩)
    (hw : sink.writeLine s.disk line = .ok (sink', d)) :
    Writes settings.timeout s ({ s with disk := d }.setStage b.id (.running sink')) tr
      (.wrote b line) b := by
  obtain ⟨n, d', hd, hnode, hpos, hch⟩ := h.keeps_line hb line
  rw [hd] at hw
  cases hw
  have htext := Trace.text_append_wrote settings.timeout line (h.of_running hb).2.2
  refine ⟨⟨n, ?_, ?_⟩, hch.prepared, fun _ => hch.others⟩
  · rw [htext]
    exact hch.holds
  · intro stage sink' ht hsink
    obtain rfl := stage_eq_of_mem_setStage h.numbered hb ht
    obtain rfl := Option.some.inj hsink
    refine ⟨hnode, ?_⟩
    rw [htext, Utf8.encode_append, List.length_append, ← hpos, LogSink.lineBytes_eq]

/-- The closing line, if there is one, is written like any other line. -/
theorem changed_trailed (h : Logged settings disk s tr) {b : Build} {sink : LogSink}
    (hb : s.task? b.id = some ⟨b, .running sink⟩) (result : BuildResult) :
    ∃ n, s.logs.Changed s.disk (s.trailed sink result) b.project n
      (Utf8.encode (tr.text settings.timeout b ++
        String.join ((result.trailer settings.timeout).toList.map (· ++ "\n")))) := by
  have htimeout : s.settings.timeout = settings.timeout := by rw [h.same]
  cases hline : result.trailer settings.timeout with
  | none =>
    have hd : s.trailed sink result = s.disk := by
      simp only [trailed, htimeout, hline]
    obtain ⟨⟨n, hn, -⟩, hp, -⟩ := h.of_running hb
    rw [hd]
    exact ⟨n, hp, by simpa using hn, fun _ _ _ _ _ hh => hh⟩
  | some line =>
    obtain ⟨n, d, hwrite, -, -, hch⟩ := h.keeps_line hb line
    have hd : s.trailed sink result = d := by
      simp only [trailed, htimeout, hline, hwrite]
    rw [hd]
    exact ⟨n, by simpa using hch⟩

theorem writes_closed (h : Logged settings disk s tr) {b : Build} {sink : LogSink}
    (hb : s.task? b.id = some ⟨b, .running sink⟩) (result : BuildResult) :
    Writes settings.timeout s
      ({ s with disk := s.trailed sink result }.setStage b.id (.closed result)) tr
      (.closed b result) b := by
  obtain ⟨n, hch⟩ := h.changed_trailed hb result
  rw [← Trace.text_append_closed settings.timeout result (h.of_running hb).2.2] at hch
  refine ⟨⟨n, hch.holds, ?_⟩, hch.prepared, fun _ => hch.others⟩
  intro stage sink' ht hsink
  obtain rfl := stage_eq_of_mem_setStage h.numbered hb ht
  cases hsink

/-- **A step that writes a log writes this one alone.** -/
theorem writes_of_writer (h : Logged settings disk s tr)
    (hown : ∀ d, disk.makeDirs settings.logsDir = .ok d → LogStore.Own ⟨settings.logsDir⟩ d)
    (hs : Step s e s') {b : Build} (hw : e.writer? = some b) :
    Writes settings.timeout s s' tr e b := by
  cases hs with
  | opened hb hr =>
    obtain rfl := Option.some.inj hw
    exact h.writes_opened hown hb hr
  | wrote hb hwrite =>
    obtain rfl := Option.some.inj hw
    exact h.writes_wrote hb hwrite
  | closed hb =>
    obtain rfl := Option.some.inj hw
    exact h.writes_closed hb _
  | _ => cases hw

/-- What does not write a log makes the directory of the logs at most. -/
theorem disk_of_not_writer (hs : Step s e s') (hw : e.writer? = none) :
    s'.disk = s.disk ∨ s.disk.makeDirs s.logs.dir = .ok s'.disk := by
  cases hs with
  | unopened _ hr => exact LogStore.disk_of_reset_error hr
  | opened => cases hw
  | wrote => cases hw
  | closed => cases hw
  | _ => exact .inl rfl

/-- Who writes a log owns it then. -/
theorem owner?_of_writer (h : Logged settings disk s tr) (hs : Step s e s') {b : Build}
    (hw : e.writer? = some b) : Trace.owner? (tr ++ [e]) b.project = some b := by
  cases hs with
  | opened _ _ =>
    obtain rfl := Option.some.inj hw
    rw [Trace.owner?_append_opened, if_pos rfl]
  | wrote hb _ =>
    obtain rfl := Option.some.inj hw
    rw [Trace.owner?_append_of_none tr rfl]
    exact h.sink _ (mem_of_task? hb) _ rfl
  | closed hb =>
    obtain rfl := Option.some.inj hw
    rw [Trace.owner?_append_of_none tr rfl]
    exact h.sink _ (mem_of_task? hb) _ rfl
  | _ => cases hw

section

variable (h : Logged settings disk s tr)
  (hown : ∀ d, disk.makeDirs settings.logsDir = .ok d → LogStore.Own ⟨settings.logsDir⟩ d)
  (hs : Step s e s')
include h hown hs

theorem prepared_step :
    (s'.disk = disk ∧ Trace.opened (tr ++ [e]) = []) ∨ s'.logs.Prepared s'.disk := by
  have hlogs := hs.logs_eq
  rw [hlogs]
  cases hw : e.writer? with
  | some b => exact .inr (h.writes_of_writer hown hs hw).prepared
  | none =>
    have hopened : Trace.opened (tr ++ [e]) = tr.opened := by
      rw [Trace.opened_append]
      cases e <;> simp_all [Happening.opened?, Happening.writer?]
    rw [hopened]
    rcases disk_of_not_writer hs hw with hd | hd
    · rw [hd]
      exact h.prepared
    · exact .inr ⟨Disk.allMade_of_makeDirs hd, h.own_of_makeDirs hown hd⟩

/-- The log of a build that does not write just now is not touched. -/
theorem holds_kept {b : Build} (ho : tr.owner? b.project = some b)
    (ho' : Trace.owner? (tr ++ [e]) b.project = some b) (hw : e.writer? ≠ some b) {n : NodeId}
    {bytes : List UInt8} (hn : s.logs.Holds s.disk b.project n bytes) :
    s.logs.Holds s'.disk b.project n bytes := by
  have hopened : tr.opened ≠ [] := List.ne_nil_of_mem (Trace.mem_of_owner? ho).1
  cases hc : e.writer? with
  | none =>
    rcases disk_of_not_writer hs hc with hd | hd
    · rwa [hd]
    · rwa [h.makeDirs_eq hopened hd]
  | some c =>
    have hv : Request.isProjectId b.project = true := by
      refine h.valid b (h.truthful.accounted.rooted.mentioned (.opened b) ?_ b rfl)
      exact Trace.mem_opened.1 (Trace.mem_of_owner? ho).1
    refine (h.writes_of_writer hown hs hc).others hopened _ n bytes hv ?_ hn
    -- Who writes owns what it writes, so the log of `b` is written by `b`.
    intro hp
    have hown' := h.owner?_of_writer hs hc
    rw [← hp, ho'] at hown'
    exact hw (hc.trans hown'.symm)

theorem log_step :
    ∀ p b, Trace.owner? (tr ++ [e]) p = some b → Keeps settings.timeout s' (tr ++ [e]) b := by
  intro p b ho'
  obtain rfl := (Trace.mem_of_owner? ho').2
  by_cases hw : e.writer? = some b
  · exact (h.writes_of_writer hown hs hw).keeps
  have ho : tr.owner? b.project = some b := by
    rcases Trace.eq_or_owner? ho' with rfl | ho
    · exact absurd rfl hw
    · exact ho
  -- An owner has opened its log, so opening it cannot fail any more.
  have hunopened : ∀ cause, e ≠ .unopened b cause := by
    rintro cause rfl
    cases hs with
    | unopened hb _ => exact h.not_mem_opened hb (Trace.mem_of_owner? ho).1
  have hlogs := hs.logs_eq
  obtain ⟨n, hn, hsink⟩ := h.log _ b ho
  refine ⟨n, ?_, ?_⟩
  · rw [Trace.text_append_of_not_writer hw hunopened, hlogs]
    exact h.holds_kept hown hs ho ho' hw hn
  · intro stage sink ht hst
    rw [Trace.text_append_of_not_writer hw hunopened]
    rcases hs.mem_tasks h.numbered ht with ⟨hmem, -⟩ | ⟨before, hmem, hb, hnext⟩ | ⟨-, -, harr⟩
    · exact hsink stage sink hmem hst
    · have hnone : e.writer? = none := by
        cases e <;> simp_all [Happening.writer?, Happening.build?]
      exact hsink before sink hmem (hnext.sink?_eq hnone ▸ hst)
    · obtain rfl : stage = .arrived := harr
      cases hst

theorem step : Logged settings disk s' (tr ++ [e]) :=
  ⟨h.truthful.step hs, hs.settings_eq.trans h.same, h.valid_step hs, h.prepared_step hown hs,
    h.arrived_step hs, h.sink_step hs, h.log_step hown hs, h.owner_step hs⟩

end

/-- In a settled state the latest build of a project owns the log. -/
theorem owner_of_settled (h : Logged settings disk s tr) (hset : s.isSettled = true) {p : String}
    {b : Build} (hp : tr.latest? p = some b) (hk : tr.KeepsLog b) : tr.owner? p = some b := by
  refine (h.owner p b hp).resolve_right fun ⟨_, harr⟩ => ?_
  -- A build that has still to open its log is not blocked.
  have hblocked := List.all_eq_true.1 hset _ (harr hk)
  simp [isBlocked, waits, Stage.isRunning, Stage.isAsking] at hblocked

/-- The log of a project is the text of its owner. -/
theorem readLog_eq (h : Logged settings disk s tr) {p : String} {b : Build}
    (ho : tr.owner? p = some b) : s.readLog p = .ok (some (tr.text settings.timeout b)) := by
  obtain rfl := (Trace.mem_of_owner? ho).2
  obtain ⟨n, hn, -⟩ := h.log _ b ho
  exact readLog_of_holds hn

end Logged

/-- The invariant holds in every run of a service whose registry was empty. -/
theorem logged (settings : Settings) (disk : Disk)
    (hown : ∀ d, disk.makeDirs settings.logsDir = .ok d → LogStore.Own ⟨settings.logsDir⟩ d)
    (moves : List Move) :
    Logged settings disk ((start settings .empty disk).applyAll moves)
      ((start settings .empty disk).trace moves) := by
  refine run_induction ?_ (fun _ _ _ _ h hs => h.step hown hs) moves
  exact ⟨truthful settings disk [], rfl, by simp [Trace.admitted],
    .inl ⟨rfl, by simp [Trace.opened]⟩, by simp [start], by simp [start],
    by simp [Trace.owner?, Trace.opened], by simp [Trace.latest?, Trace.admitted]⟩

/-! ## Texts over time -/

section

variable {s s' : Dispatcher} {tr : Trace} {e : Happening} {b : Build}

/-- What happens to a build that has ended does not change its text. -/
theorem Accounted.text_of_ended (h : Accounted s tr) (hs : Step s e s') (timeout : Duration)
    (hr : tr.result? b ≠ none) : Trace.text (tr ++ [e]) timeout b = tr.text timeout b := by
  have hstage : ∀ {stage}, s.task? b.id = some ⟨b, stage⟩ → stage.result? ≠ none :=
    fun hb hc => hr ((h.stage _ (mem_of_task? hb)).trans hc)
  refine Trace.text_append_of_not_writer ?_ ?_
  -- Who opens or writes a log is at a stage at which it has not ended.
  · intro hw
    cases hs with
    | opened hb _ =>
      obtain rfl := Option.some.inj hw
      exact hstage hb rfl
    | wrote hb _ =>
      obtain rfl := Option.some.inj hw
      exact hstage hb rfl
    | closed hb =>
      obtain rfl := Option.some.inj hw
      exact hstage hb rfl
    | _ => cases hw
  · rintro cause rfl
    cases hs with
    | unopened hb _ => exact hstage hb rfl

/-- A text grows at its end, and only while the build is live. -/
theorem Accounted.text_step (h : Accounted s tr) (hs : Step s e s') (timeout : Duration)
    (b : Build) :
    ∃ suffix, Trace.text (tr ++ [e]) timeout b = tr.text timeout b ++ suffix ∧
      (b ∉ s.live → suffix = "") := by
  by_cases hb : e.build? = some b
  · by_cases hr : tr.result? b = none
    · refine ⟨_, Trace.text_append_of_open timeout e hr, fun hl => ?_⟩
      obtain ⟨rfl, -⟩ := (hs.mem_live hb).resolve_left hl
      rfl
    · exact ⟨"", by rw [h.text_of_ended hs timeout hr, String.append_empty], fun _ => rfl⟩
  · exact ⟨"", by rw [Trace.text_append_of_ne hb, String.append_empty], fun _ => rfl⟩

end

/-- What a later moment says of a build that was admitted by an earlier one, after which `tr` is the
trace. -/
structure Since (settings : Settings) (disk : Disk) (s : Dispatcher) (tr : Trace) (b : Build)
    (s' : Dispatcher) (more : Trace) : Prop where
  logged : Logged settings disk s' (tr ++ more)
  /-- The latest build was the latest one before. -/
  latest : Trace.latest? (tr ++ more) b.project = some b → tr.latest? b.project = some b
  dead : b ∉ s.live → b ∉ s'.live
  text : ∃ after, Trace.text (tr ++ more) settings.timeout b = tr.text settings.timeout b ++ after ∧
    (b ∉ s.live → after = "")

theorem Since.step {settings : Settings} {disk : Disk} {s s₁ s₂ : Dispatcher} {tr more : Trace}
    {b : Build} {e : Happening}
    (hown : ∀ d, disk.makeDirs settings.logsDir = .ok d → LogStore.Own ⟨settings.logsDir⟩ d)
    (hb : b ∈ tr.admitted) (h : Since settings disk s tr b s₁ more) (hs : Step s₁ e s₂) :
    Since settings disk s tr b s₂ (more ++ [e]) := by
  have hnew : e ≠ .admitted b := by
    rintro rfl
    cases hs with
    | admitted hid _ =>
      refine (h.logged.truthful.accounted.rooted.fresh hid).1 ?_
      rw [Trace.admitted, List.filterMap_append]
      exact List.mem_append_left _ hb
  obtain ⟨after, hafter, hdead⟩ := h.text
  obtain ⟨suffix, hsuffix, hquiet⟩ :=
    h.logged.truthful.accounted.text_step hs settings.timeout b
  constructor
  · rw [← List.append_assoc]
    exact h.logged.step hown hs
  · intro hlat
    rw [← List.append_assoc] at hlat
    exact h.latest ((Trace.eq_or_latest? hlat).resolve_left hnew)
  · intro hl hl'
    rcases hs.live_subset hl' with hl' | rfl
    · exact h.dead hl hl'
    · exact hnew rfl
  · refine ⟨after ++ suffix, ?_, fun hl => ?_⟩
    · rw [← List.append_assoc, hsuffix, hafter, String.append_assoc]
    · rw [hdead hl, hquiet (h.dead hl), String.append_empty]

/-- **Exact logs.** On a disk on which the logs that exist already are plain files and no two of them
the same, whatever builds are asked for, called, ended, given up and recorded in whatever order:
- in a settled state the log of a project is what its latest build has written, line by line, and
  then its closing line, if it has ended and there is one; unless the log of this build could not be
  opened, or the build was given up before it was;
- once a build has opened its log, and until another build of the project is admitted, what is read
  later begins with what was read before; and from the moment when the build is not live any more
  the log does not change. -/
theorem readLog_eq_text (settings : Settings) (disk : Disk)
    (hown : ∀ d, disk.makeDirs settings.logsDir = .ok d → LogStore.Own ⟨settings.logsDir⟩ d)
    (moves : List Move) :
    let s := (start settings .empty disk).applyAll moves
    let tr := (start settings .empty disk).trace moves
    (s.isSettled = true → ∀ p b, tr.latest? p = some b → tr.KeepsLog b →
      s.readLog p = .ok (some (String.join
        ((tr.written b ++ ((tr.result? b).bind (BuildResult.trailer settings.timeout)).toList).map
          (· ++ "\n"))))) ∧
    ∀ later b,
      let s' := (start settings .empty disk).applyAll (moves ++ later)
      let tr' := (start settings .empty disk).trace (moves ++ later)
      .opened b ∈ tr → tr'.latest? b.project = some b →
      ∃ before after, s.readLog b.project = .ok (some before) ∧
        s'.readLog b.project = .ok (some (before ++ after)) ∧ (b ∉ s.live → after = "") := by
  intro s tr
  have h : Logged settings disk s tr := logged settings disk hown moves
  refine ⟨fun hset p b hp hk => h.readLog_eq (h.owner_of_settled hset hp hk), ?_⟩
  intro later b s' tr' hopened hlatest
  have hs' : s' = s.applyAll later := applyAll_append _ _ _
  have htr' : tr' = tr ++ s.trace later := trace_append _ _ _
  have hb : b ∈ tr.admitted := h.truthful.accounted.rooted.mentioned _ hopened b rfl
  have hsince : Since settings disk s tr b (s.applyAll later) (s.trace later) := by
    refine run_induction ?_ (fun _ _ _ _ hw hstep => hw.step hown hb hstep) later
    exact ⟨by rwa [List.append_nil], by rw [List.append_nil]; exact id, id,
      "", by rw [List.append_nil, String.append_empty], fun _ => rfl⟩
  rw [htr'] at hlatest
  rw [hs']
  obtain ⟨after, hafter, hdead⟩ := hsince.text
  have owner : ∀ {s₁ tr₁}, Logged settings disk s₁ tr₁ → .opened b ∈ tr₁ →
      tr₁.latest? b.project = some b → tr₁.owner? b.project = some b := by
    intro s₁ tr₁ h₁ ho hl
    exact (h₁.owner _ b hl).resolve_right fun hc => hc.1 (Trace.mem_opened.2 ho)
  refine ⟨_, after, h.readLog_eq (owner h hopened (hsince.latest hlatest)), ?_, hdead⟩
  rw [← hafter]
  exact hsince.logged.readLog_eq (owner hsince.logged (List.mem_append_left _ hopened) hlatest)

/-! ## A build on a new disk -/

section

open Disk

/-- The disk on which only the directory of the logs has been made. -/
def logsDisk : Disk := Disk.initial.addNode 6 "logs" (.directory 6 [])

theorem initial_makeDirs : Disk.initial.makeDirs "logs" = .ok logsDisk := by
  have hl : Disk.initial.locate false "logs" = .ok (.free 6 "logs") :=
    locate_eq_ok_iff.2
      ⟨⟨rfl, rfl, by decide⟩, .free ⟨5, [], rfl⟩ ⟨by decide, by decide, by decide⟩ rfl⟩
  have ha : ancestors "logs" = ["logs"] := by decide
  simp only [makeDirs, ha, missingFrom, makeDir, hl]
  rfl

theorem not_hasLink_logs : ¬logsDisk.HasLink 32 := by
  rintro ⟨target, ht⟩
  cases ht

theorem own_initial (d : Disk) (h : Disk.initial.makeDirs "logs" = .ok d) :
    LogStore.Own ⟨"logs"⟩ d := by
  obtain rfl := Except.ok.inj (initial_makeDirs.symm.trans h)
  refine LogStore.own_of_fresh (k := 32) ⟨?_, 6, [], rfl⟩ fun _ => rfl
  exact .enter (n := 32) ⟨by decide, by decide, by decide⟩ rfl not_hasLink_logs (.here _ _)

theorem reset_initial : LogStore.reset ⟨"logs"⟩ Disk.initial "demo" =
    (.ok ⟨"logs/demo_log.txt", 33, 0⟩,
      logsDisk.addNode 32 "demo_log.txt" (.file (.ofBytes []) false)) := by
  have hpath : LogStore.pathFor ⟨"logs"⟩ "demo" = "logs/demo_log.txt" := by decide
  have hnames : pathNames "logs/demo_log.txt" = ["logs", "demo_log.txt"] := by decide
  have hl : logsDisk.locate true "logs/demo_log.txt" = .ok (.free 32 "demo_log.txt") := by
    rw [locate_eq_ok_iff, hnames]
    exact ⟨⟨by decide, by decide, by decide⟩,
      .enter (n := 32) ⟨by decide, by decide, by decide⟩ rfl not_hasLink_logs
        (.free ⟨6, [], rfl⟩ ⟨by decide, by decide, by decide⟩ rfl)⟩
  simp only [LogStore.reset, initial_makeDirs, hpath, create, hl]
  rfl

end

/-- The first build of a service that has never built anything. -/
def firstBuild : Build := ⟨0, .sample "demo", false⟩

/-- The service when the first build has been admitted. -/
def firstAdmitted : Dispatcher :=
  (start (.sample "logs") .empty .initial).apply (.accept false .android (.sample "demo"))

/-- The service when the log of the first build is open. -/
def firstOpened : Dispatcher where
  settings := .sample "logs"
  registry := ⟨[("demo", .running)], by decide, by decide⟩
  disk := logsDisk.addNode 32 "demo_log.txt" (.file (.ofBytes []) false)
  permits := .start 4
  stopping := false
  tasks := [⟨firstBuild, .opened ⟨"logs/demo_log.txt", 33, 0⟩⟩]
  calls := []
  endings := []
  nextId := 1

theorem firstAdmitted_openLog :
    firstAdmitted.apply (.openLog 0) = firstOpened ∧
      firstAdmitted.happening? (.openLog 0) = some (.opened firstBuild) := by
  have ht : firstAdmitted.task? 0 = some ⟨firstBuild, .arrived⟩ := by rfl
  have hr : firstAdmitted.logs.reset firstAdmitted.disk firstBuild.project = _ := reset_initial
  constructor
  · simp only [apply, openLog, ht, hr]
    rfl
  · simp only [happening?, ht, hr]

/-- A run begins with the admission of the first build and its log. -/
theorem run_first (ms : List Move) :
    (start (.sample "logs") .empty .initial).applyAll
        (.accept false .android (.sample "demo") :: .openLog 0 :: ms) = firstOpened.applyAll ms ∧
    (start (.sample "logs") .empty .initial).trace
        (.accept false .android (.sample "demo") :: .openLog 0 :: ms) =
      .admitted firstBuild :: .opened firstBuild :: firstOpened.trace ms := by
  have hadmitted : (start (.sample "logs") .empty .initial).happening?
      (.accept false .android (.sample "demo")) = some (.admitted firstBuild) := by rfl
  have harrived : (start (.sample "logs") .empty .initial).apply
      (.accept false .android (.sample "demo")) = firstAdmitted := rfl
  obtain ⟨hrun, htrace⟩ := run_cons hadmitted harrived (.openLog 0 :: ms)
  obtain ⟨hrun', htrace'⟩ := run_cons firstAdmitted_openLog.2 firstAdmitted_openLog.1 ms
  exact ⟨hrun.trans hrun', by rw [htrace, htrace']⟩

/-- What the first build does when its log is open: it writes a line and fails. -/
def firstFails : List Move :=
  [.ask 0, .call 0, .writeLine 0 "compiling", .close 0 (.ok (.failed 2)), .giveBack 0, .record 0]

theorem trace_firstFails : firstOpened.trace firstFails =
    [.granted firstBuild, .called firstBuild, .wrote firstBuild "compiling",
      .closed firstBuild (.ok (.failed 2)), .released firstBuild none,
      .recorded firstBuild (.ok (.failed 2))] := by
  rfl

/-- The log of a build that has failed: the line that it wrote, and the closing line. -/
theorem readLog_of_failed :
    (∀ d, Disk.initial.makeDirs "logs" = .ok d → LogStore.Own ⟨"logs"⟩ d) ∧
      ((start (.sample "logs") .empty .initial).applyAll
        (.accept false .android (.sample "demo") :: .openLog 0 :: firstFails)).readLog "demo" =
          .ok (some "compiling\n[buildrunner] build failed with exit code 2\n") := by
  refine ⟨own_initial, ?_⟩
  obtain ⟨hrun, htrace⟩ := run_first firstFails
  rw [trace_firstFails] at htrace
  have hset : ((start (.sample "logs") .empty .initial).applyAll
      (.accept false .android (.sample "demo") :: .openLog 0 :: firstFails)).isSettled = true := by
    rw [hrun]
    decide
  have hmain := (readLog_eq_text (.sample "logs") .initial own_initial
    (.accept false .android (.sample "demo") :: .openLog 0 :: firstFails)).1 hset "demo" firstBuild
      (by rw [htrace]; rfl) (by rw [htrace]; exact ⟨by simp, by simp⟩)
  rw [htrace] at hmain
  refine hmain.trans ?_
  decide

end Dispatcher

end BuildService
