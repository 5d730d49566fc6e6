import BuildService.Proofs.ConfinedDisk
import BuildService.Proofs.Logs
import BuildService.Proofs.Trigger
/-!
Project ids reach the registry and the disk only if they are accepted.

A project id is checked in two places, when a build is admitted and when a log is
asked for. The state of a project is given without any check, so that it reveals
nothing about other ids is a fact about the keys of the registry, and holds only
because every key has passed the first check (`Confines.keys`). The same invariant
says where the open logs are, and so that lines are written nowhere else.

What is read is shown by comparing two disks: an answer is the same on both if
the logs of accepted ids are (`answer_on`).
-/

set_option autoImplicit false

namespace BuildService

/-! ## Names of logs -/

namespace Request

theorem validateProjectId_eq_ok_iff {p : String} :
    validateProjectId p = .ok () ↔ isProjectId p = true := by
  unfold validateProjectId projectIdFault?
  cases isProjectId p <;> simp

end Request

namespace LogStore

/-- A name that stays where it is put, whatever reads it as a path. -/
structure IsSafeName (name : String) : Prop where
  chars : ∀ c ∈ name.toList, c ≠ '/' ∧ c ≠ '\\' ∧ c ≠ '\x00' ∧ Text.isBlank c = false
  special : name ≠ "." ∧ name ≠ ".."
  visible : name.toList.head? ≠ some '.'
  short : name.utf8ByteSize ≤ 136

variable {s : LogStore} {p q : String}

/-- A blank is no name character: those that are ASCII stand below them. -/
theorem isBlank_of_isNameChar {c : Char} (h : Request.isNameChar c = true) :
    Text.isBlank c = false := by
  have hbounds : 45 ≤ c.toNat ∧ c.toNat ≤ 122 := by
    simp only [Request.isNameChar, Bool.or_eq_true, beq_iff_eq] at h
    rcases h with ((h | rfl) | rfl) | rfl
    · have hranges : (decide ('A'.val ≤ c.val ∧ c.val ≤ 'Z'.val) ||
          ('a'.val ≤ c.val && c.val ≤ 'z'.val) || ('0'.val ≤ c.val && c.val ≤ '9'.val)) = true := h
      simp only [Bool.or_eq_true, Bool.and_eq_true, decide_eq_true_eq, UInt32.le_iff_toNat_le]
        at hranges
      -- The bounds as numbers, since `omega` does not look into characters.
      have hA : 'A'.val.toNat = 65 := rfl
      have ha : 'a'.val.toNat = 97 := rfl
      have h0 : '0'.val.toNat = 48 := rfl
      have hle : c.toNat ≤ 122 := val_le_of_isAlphanumeric h
      have hc : c.toNat = c.val.toNat := rfl
      omega
    all_goals decide
  simp only [Text.isBlank, Bool.or_eq_false_iff, Bool.and_eq_false_iff, decide_eq_false_iff_not,
    beq_eq_false_iff_ne, ne_eq]
  omega

theorem safe_of_isNameChar {c : Char} (h : Request.isNameChar c = true) :
    c ≠ '/' ∧ c ≠ '\\' ∧ c ≠ '\x00' ∧ Text.isBlank c = false := by
  refine ⟨?_, ?_, ?_, isBlank_of_isNameChar h⟩ <;>
  · rintro rfl
    revert h
    decide

/-- **The log of an accepted project id has a safe name.** -/
theorem isSafeName_logName (hp : Request.isProjectId p = true) : IsSafeName (logName p) := by
  obtain ⟨⟨c, cs, hcs, hc, hlen⟩, hall⟩ := chars_of_isProjectId hp
  have hplain := isPlain_logName hp
  refine ⟨fun x hx => ?_, ⟨hplain.1, hplain.2.1⟩, ?_, ?_⟩
  · rw [toList_logName, List.mem_append] at hx
    rcases hx with hx | hx
    · exact safe_of_isNameChar (hall x hx)
    · have hend : "_log.txt".toList.all Request.isNameChar = true := by decide
      exact safe_of_isNameChar (List.all_eq_true.1 hend x hx)
  · rw [toList_logName, hcs]
    rintro ⟨⟩
    revert hc
    decide
  · -- An id has at most 128 characters, each of one byte, and the ending has eight.
    have hsize := utf8ByteSize_ofList_of_ascii fun c hc => utf8Size_of_isNameChar (hall c hc)
    have hend : "_log.txt".utf8ByteSize = 8 := by decide
    rw [String.ofList_toList, hcs, List.length_cons] at hsize
    rw [logName, String.utf8ByteSize_append, hsize, hend]
    omega

/-- Two projects have two logs. -/
theorem pathFor_injective (hp : Request.isProjectId p = true) (hq : Request.isProjectId q = true)
    (h : s.pathFor p = s.pathFor q) : p = q := by
  have hnames := (pathNames_pathFor (s := s) hp .initial).1
  rw [h, (pathNames_pathFor hq .initial).1] at hnames
  exact (logName_injective (List.cons.inj (List.append_cancel_left hnames)).1).symm

end LogStore

/-! ## The keys of the registry -/

namespace Registry

variable {r r' : Registry} {project : String} {state : JobState} {e : String × JobState}

theorem mem_put (h : state ≠ .unknown) (he : e ∈ (r.put project state h).entries) :
    e.1 = project ∨ e ∈ r.entries := by
  rcases List.mem_cons.1 he with rfl | he
  · exact .inl rfl
  · exact .inr (List.mem_filter.1 he).1

theorem mem_of_tryBegin (h : r.tryBegin project = .ok r') (he : e ∈ r'.entries) :
    e.1 = project ∨ e ∈ r.entries := by
  unfold tryBegin at h
  split at h
  · cases h
  · cases h
    exact mem_put (by decide) he

theorem mem_complete (he : e ∈ (r.complete project state).2.entries) :
    e.1 = project ∨ e ∈ r.entries := by
  unfold complete at he
  split at he
  · rename_i hends
    refine mem_put (fun hu => ?_) he
    rw [hu] at hends
    cases hends.1
  · exact .inr he

/-- A project that has no key has not been built. -/
theorem get_eq_unknown (h : ∀ e ∈ r.entries, e.1 ≠ project) : r.get project = .unknown := by
  have hnone : r.entries.find? (·.1 == project) = none := by
    simpa [List.find?_eq_none] using fun a b he => h (a, b) he
  rw [get, hnone]
  rfl

end Registry

namespace Dispatcher

/-! ## The invariant -/

/-- Every project that is known has an accepted id, every log that is open is the log of its
project, and on the disk nothing but logs has changed. -/
structure Confines (store : LogStore) (disk : Disk) (s : Dispatcher) : Prop where
  numbered : Numbered s
  same : s.logs = store
  keys : ∀ e ∈ s.registry.entries, Request.isProjectId e.1 = true
  projects : ∀ t ∈ s.tasks, Request.isProjectId t.build.project = true
  sinks : ∀ t ∈ s.tasks, ∀ sink, t.stage.sink? = some sink →
    s.disk.locate true (store.pathFor t.build.project) = .ok (.found sink.node)
  confined : store.Confined disk s.disk

namespace Confines

variable {store : LogStore} {disk : Disk} {s s' u : Dispatcher} {b : Build} {e : Happening}
  {stage stage' : Stage}

theorem project_of_task? (h : Confines store disk s) (hb : s.task? b.id = some ⟨b, stage⟩) :
    Request.isProjectId b.project = true :=
  h.projects _ (mem_of_task? hb)

theorem isLog (h : Confines store disk s) {sink : LogSink} (hb : s.task? b.id = some ⟨b, stage⟩)
    (hsink : stage.sink? = some sink) : store.IsLog s.disk sink.node :=
  ⟨b.project, h.project_of_task? hb, h.sinks _ (mem_of_task? hb) sink hsink⟩

/-- One build moves on, and the disk changes for it. -/
theorem setStage (h : Confines store disk s) (hb : s.task? b.id = some ⟨b, stage⟩)
    (hlogs : u.logs = s.logs) (hregistry : u.registry = s.registry) (htasks : u.tasks = s.tasks)
    (hdisk : store.Confined s.disk u.disk)
    (hsink : ∀ sink, stage'.sink? = some sink →
      u.disk.locate true (store.pathFor b.project) = .ok (.found sink.node))
    (hn : Numbered (u.setStage b.id stage')) : Confines store disk (u.setStage b.id stage') := by
  have hcases : ∀ t ∈ (u.setStage b.id stage').tasks, t ∈ s.tasks ∨ t = ⟨b, stage'⟩ := by
    -- `u` has the tasks of `s`, so numbers are unique among them.
    intro t ht
    have ht' : t ∈ (s.setStage b.id stage').tasks := by
      simpa only [Dispatcher.setStage, htasks] using ht
    exact ((mem_tasks_setStage h.numbered hb).1 ht').imp_left And.left
  refine ⟨hn, hlogs.trans h.same, ?_, ?_, ?_, h.confined.trans hdisk⟩
  · rw [registry_setStage, hregistry]
    exact h.keys
  · intro t ht
    rcases hcases t ht with ht | rfl
    · exact h.projects t ht
    · exact h.project_of_task? hb
  · intro t ht sink hs
    -- The logs of other builds are where they were, because paths lead on where they led.
    rcases hcases t ht with ht | rfl
    · exact Disk.locate_found_mono hdisk.grown (h.sinks t ht sink hs)
    · exact hsink sink hs

/-- One build leaves. -/
theorem dismiss (h : Confines store disk s) (hlogs : u.logs = s.logs)
    (hkeys : ∀ e ∈ u.registry.entries, e.1 = b.project ∨ e ∈ s.registry.entries)
    (hb : s.task? b.id = some ⟨b, stage⟩) (htasks : u.tasks = s.tasks) (hdisk : u.disk = s.disk)
    (hn : Numbered (u.dismiss b.id)) : Confines store disk (u.dismiss b.id) := by
  have hmem : ∀ t ∈ (u.dismiss b.id).tasks, t ∈ s.tasks := by
    intro t ht
    rw [← htasks]
    exact (mem_tasks_dismiss.1 ht).1
  refine ⟨hn, hlogs.trans h.same, fun e he => ?_, fun t ht => h.projects t (hmem t ht), ?_, ?_⟩
  · rcases hkeys e he with heq | he
    · rw [heq]
      exact h.project_of_task? hb
    · exact h.keys e he
  · intro t ht sink hs
    rw [disk_dismiss, hdisk]
    exact h.sinks t (hmem t ht) sink hs
  · rw [disk_dismiss, hdisk]
    exact h.confined

theorem admission (h : Confines store disk s) {platform : Platform} {registry : Registry}
    (hc : s.check platform b.request = .ok registry)
    (hn : Numbered { s with
      registry := registry, tasks := s.tasks ++ [⟨b, .arrived⟩], nextId := s.nextId + 1 }) :
    Confines store disk { s with
      registry := registry, tasks := s.tasks ++ [⟨b, .arrived⟩], nextId := s.nextId + 1 } := by
  obtain ⟨-, hvalid, hbegin⟩ := check_eq_ok_iff.1 hc
  have hproject : Request.isProjectId b.project = true := isProjectId_of_validate hvalid
  refine ⟨hn, h.same, fun e he => ?_, fun t ht => ?_, fun t ht sink hs => ?_, h.confined⟩
  · rcases Registry.mem_of_tryBegin hbegin he with heq | he
    · rw [heq]
      exact hproject
    · exact h.keys e he
  · rcases List.mem_append.1 ht with ht | ht
    · exact h.projects t ht
    · rw [List.mem_singleton.1 ht]
      exact hproject
  · rcases List.mem_append.1 ht with ht | ht
    · exact h.sinks t ht sink hs
    · rw [List.mem_singleton.1 ht] at hs
      cases hs

/-- The closing line is written into the log, or it is not. -/
theorem trailed (h : Confines store disk s) {sink : LogSink}
    (hb : s.task? b.id = some ⟨b, .running sink⟩) (result : BuildResult) :
    store.Confined s.disk (s.trailed sink result) := by
  unfold Dispatcher.trailed
  split
  · exact .refl store s.disk
  · split
    · exact .refl store s.disk
    · rename_i hw
      exact (LogStore.Confined.writeLine (h.isLog hb rfl) hw).1

/-- **Every step keeps the service confined.** -/
theorem step (h : Confines store disk s) (hs : Step s e s') : Confines store disk s' := by
  have hn := h.numbered.step hs
  cases hs with
  | admitted hid hc => exact h.admission hc hn
  | @opened b sink d hb hr =>
    rw [h.same] at hr
    have hd := LogStore.Confined.reset (s := store) (d := s.disk) (h.project_of_task? hb)
    rw [hr] at hd
    refine h.setStage hb rfl rfl rfl hd (fun sink' hsink => ?_) hn
    cases hsink
    exact (LogStore.locate_of_reset hr).1
  | @unopened b cause d hb hr =>
    rw [h.same] at hr
    have hd := LogStore.Confined.reset (s := store) (d := s.disk) (h.project_of_task? hb)
    rw [hr] at hd
    exact h.setStage hb rfl rfl rfl hd (fun _ hsink => by cases hsink) hn
  | granted hb _ =>
    exact h.setStage hb rfl rfl rfl (.refl ..) (h.sinks _ (mem_of_task? hb)) hn
  | queued hb _ =>
    exact h.setStage hb rfl rfl rfl (.refl ..) (h.sinks _ (mem_of_task? hb)) hn
  | called hb _ =>
    exact h.setStage hb rfl rfl rfl (.refl ..) (h.sinks _ (mem_of_task? hb)) hn
  | @wrote b sink sink' d line hb hw =>
    obtain ⟨hd, hnode⟩ := LogStore.Confined.writeLine (h.isLog hb rfl) hw
    refine h.setStage hb rfl rfl rfl hd (fun sink'' hsink => ?_) hn
    cases hsink
    rw [hnode]
    exact Disk.locate_found_mono hd.grown (h.sinks _ (mem_of_task? hb) sink rfl)
  | refused _ _ => exact h
  | closed hb => exact h.setStage hb rfl rfl rfl (h.trailed hb _) (fun _ hsink => by cases hsink) hn
  | released hb => exact h.setStage hb rfl rfl rfl (.refl ..) (fun _ hsink => by cases hsink) hn
  | recorded hb => exact h.dismiss rfl (fun _ he => Registry.mem_complete he) hb rfl rfl hn
  | dropped hb _ _ => exact h.dismiss rfl (fun _ he => .inr he) hb rfl rfl hn
  | stopped => exact ⟨hn, h.same, h.keys, h.projects, h.sinks, h.confined⟩

/-- A project whose id is not accepted is unknown. -/
theorem get_eq_unknown (h : Confines store disk s) {p : String}
    (hp : Request.isProjectId p = false) : s.registry.get p = .unknown := by
  refine Registry.get_eq_unknown fun e he heq => ?_
  rw [← heq, h.keys e he] at hp
  cases hp

end Confines

/-- A service stays confined in every run. -/
theorem confines (settings : Settings) (disk : Disk) (moves : List Move) :
    Confines ⟨settings.logsDir⟩ disk ((start settings .empty disk).applyAll moves) := by
  have hstart : Confines ⟨settings.logsDir⟩ disk (start settings .empty disk) :=
    ⟨(rooted settings .empty disk []).numbered, rfl, by simp [start, Registry.empty],
      by simp [start], by simp [start], .refl _ disk⟩
  refine run_induction (P := fun s _ => Confines ⟨settings.logsDir⟩ disk s) hstart ?_ moves
  exact fun _ _ _ _ h hs => h.step hs

end Dispatcher

/-! ## What answers depend on -/

/-- The same service on another disk. -/
def Dispatcher.on (s : Dispatcher) (d : Disk) : Dispatcher := { s with disk := d }

namespace Route

theorem segments_of_isSegment (name : String) {segment : String} (hname : '/' ∉ name.toList)
    (h : IsSegment segment) : segments ("/" ++ name ++ "/" ++ segment) = ["", name, segment] := by
  have hlist : ("/" ++ name ++ "/" ++ segment).toList =
      [] ++ '/' :: (name.toList ++ '/' :: segment.toList) := by
    simp [String.toList_append]
  rw [segments_eq_iff, hlist]
  exact splitOn_eq_cons_cons_iff.2 ⟨by simp, _, rfl, splitOn_eq_cons_cons_iff.2
    ⟨hname, _, rfl, splitOn_eq_singleton_iff.2 ⟨rfl, h.2⟩⟩⟩

/-- The path of a log. -/
theorem ofPath?_logs {segment : String} (h : IsSegment segment) :
    ofPath? ("/logs/" ++ segment) = some (.logs segment) := by
  have hparts : segments ("/logs/" ++ segment) = ["", "logs", segment] :=
    segments_of_isSegment "logs" (by decide) h
  simp [ofPath?, hparts, String.isEmpty_iff, h.1]

/-- The path of a state. -/
theorem ofPath?_status {segment : String} (h : IsSegment segment) :
    ofPath? ("/status/" ++ segment) = some (.status segment) := by
  have hparts : segments ("/status/" ++ segment) = ["", "status", segment] :=
    segments_of_isSegment "status" (by decide) h
  simp [ofPath?, hparts, String.isEmpty_iff, h.1]

end Route

namespace Api

open Http

variable {s : Dispatcher} {d : Disk} {m : Message} {segment p : String}

/-- Who triggers a build looks at no file. -/
theorem trigger_on (s : Dispatcher) (d : Disk) (segment : String) (m : Message) :
    trigger (s.on d) segment m =
      (trigger s segment m).map fun done => (done.1, done.2.on d) := by
  have haccept : ∀ platform r, (s.on d).accept false platform r =
      (s.accept false platform r).map fun admitted => (admitted.1, admitted.2.on d) := by
    intro platform r
    have hcheck : (s.on d).check platform r = s.check platform r := rfl
    rw [Dispatcher.accept, Dispatcher.accept, hcheck]
    cases s.check platform r <;> rfl
  cases hname : segmentValue "platform" segment with
  | error e => simp only [trigger, hname, Except.map]
  | ok name =>
    cases hbody : readBody m with
    | error e => simp only [trigger, hname, hbody, Except.map]
    | ok r =>
      cases hplatform : platformOf name with
      | error e => simp only [trigger, hname, hbody, hplatform, Except.map]
      | ok platform =>
        simp only [trigger, hname, hbody, hplatform, haccept]
        cases s.accept false platform r <;> rfl

/-- Who asks for a log looks at the log of an accepted id, or at no file. -/
theorem showLog_on (h : ∀ p, Request.isProjectId p = true → s.logs.read d p = s.logs.read s.disk p)
    (segment : String) : showLog (s.on d) segment = showLog s segment := by
  cases hvalue : segmentValue "project_id" segment with
  | error e => simp only [showLog, hvalue]
  | ok p =>
    cases hp : Request.validateProjectId p with
    | error e => simp only [showLog, hvalue, hp]
    | ok u =>
      have hread : (s.on d).readLog p = s.readLog p := by
        have hlogs : (s.on d).logs.read (s.on d).disk p = s.logs.read s.disk p :=
          h p (Request.validateProjectId_eq_ok_iff.1 hp)
        delta Dispatcher.readLog
        rw [hlogs]
      simp only [showLog, hvalue, hp, hread]

/-- **An answer depends on the disk only through the logs of accepted ids**, and leaves it alone. -/
theorem answer_on (h : ∀ p, Request.isProjectId p = true → s.logs.read d p = s.logs.read s.disk p)
    (m : Message) : answer (s.on d) m = ((answer s m).1, (answer s m).2.on d) := by
  have hrun : ∀ route,
      run (s.on d) m route = (run s m route).map fun done => (done.1, done.2.on d) := by
    intro route
    cases route with
    | build segment => exact trigger_on s d segment m
    | logs segment =>
      rw [run, run, showLog_on h]
      cases showLog s segment <;> rfl
    | status segment =>
      have hstatus : showStatus (s.on d) segment = showStatus s segment := rfl
      rw [run, run, hstatus]
      cases showStatus s segment <;> rfl
    | health => rfl
  have hdecide : decide (s.on d) m = (decide s m).map fun done => (done.1, done.2.on d) := by
    cases hroute : Route.ofPath? m.target.path with
    | none => simp only [decide, hroute, Except.map]
    | some route =>
      cases htakes : route.takes m.method with
      | false => simp [decide, hroute, htakes, Except.map]
      | true => simpa only [decide, hroute, htakes, if_true] using hrun route
  rw [answer, answer, hdecide]
  cases decide s m <;> rfl

/-- A log is refused when its id is. -/
theorem answer_of_rejected_logs (hm : m.method = "GET") (hp : m.target.path = "/logs/" ++ segment)
    (hs : Route.IsSegment segment) (hdecode : Text.percentDecode? segment = some p)
    (hrejected : Request.isProjectId p = false) :
    answer s m = (ofFault (.invalidField .projectId Request.Reason.projectId.message), s) := by
  have hvalidate : Request.validateProjectId p =
      .error (.invalidField .projectId Request.Reason.projectId.message) := by
    simp [Request.validateProjectId, Request.projectIdFault?, hrejected]
  have hshow : showLog s segment =
      .error (.fault (.invalidField .projectId Request.Reason.projectId.message)) := by
    simp only [showLog, segmentValue, hdecode, hvalidate]
  have hdecide : decide s m =
      .error (.fault (.invalidField .projectId Request.Reason.projectId.message)) := by
    rw [decide, hp, Route.ofPath?_logs hs]
    simp [Route.takes, Route.isTrigger, hm, run, hshow, Except.map]
  rw [answer, hdecide, hm]
  rfl

/-- A state is given for every id. -/
theorem answer_of_status (hm : m.method = "GET") (hp : m.target.path = "/status/" ++ segment)
    (hs : Route.IsSegment segment) (hdecode : Text.percentDecode? segment = some p) :
    answer s m = (.object 200 "status" (s.registry.get p).name, s) := by
  have hdecide : decide s m = .ok (.object 200 "status" (s.registry.get p).name, s) := by
    rw [decide, hp, Route.ofPath?_status hs]
    simp [Route.takes, Route.isTrigger, hm, run, showStatus, segmentValue, hdecode, Except.map]
  rw [answer, hdecide, hm]
  rfl

/-! ## Runs with requests -/

/-- What can come in a run: a move, which may ask for a build in any way, or a request over HTTP. -/
inductive Input where
  | move (m : Dispatcher.Move)
  | request (m : Message)

/-- The state after an input. -/
def take (s : Dispatcher) : Input → Dispatcher
  | .move m => s.apply m
  | .request m => (answer s m).2

/-- The state after several inputs. -/
def takeAll (s : Dispatcher) (inputs : List Input) : Dispatcher := inputs.foldl take s

/-- A request does what some move does, or nothing. -/
theorem take_request (s : Dispatcher) (m : Message) :
    take s (.request m) = s ∨ ∃ r, take s (.request m) = s.apply (.accept false .android r) := by
  rcases accepts_or_unchanged s m with ⟨segment, r, h⟩ | ⟨-, hsame⟩
  · obtain ⟨registry, hbegin, hanswer⟩ := answer_of_accepts h
    have hcheck : s.check .android r = .ok registry :=
      Dispatcher.check_eq_ok_iff.2 ⟨rfl, h.valid, hbegin⟩
    refine .inr ⟨r, ?_⟩
    rw [take, hanswer]
    simp only [Dispatcher.apply, Dispatcher.accept, hcheck, admitting]
  · exact .inl hsame

/-- So every run with requests is a run of moves. -/
theorem exists_moves (s : Dispatcher) (inputs : List Input) :
    ∃ moves, takeAll s inputs = s.applyAll moves := by
  induction inputs generalizing s with
  | nil => exact ⟨[], rfl⟩
  | cons input inputs ih =>
    obtain ⟨moves, hmoves⟩ := ih (take s input)
    have hrest : takeAll s (input :: inputs) = (take s input).applyAll moves := hmoves
    cases input with
    | move m => exact ⟨m :: moves, hrest⟩
    | request m =>
      rcases take_request s m with hsame | ⟨r, hsame⟩
      · exact ⟨moves, hrest.trans (by rw [hsame])⟩
      · exact ⟨.accept false .android r :: moves, hrest.trans (by rw [hsame]; rfl)⟩

/-- **Project ids are confined, from the request to the file.**

Whatever is asked over HTTP and otherwise, and whatever builds do in between, on any disk:
- every key of the registry is an accepted id;
- whatever has been made or changed on the disk is the log of an accepted id or a directory for the
  logs to be in;
- no answer depends on a file other than the logs of accepted ids;
- the log of an accepted id is a safe name in the log directory, and no two ids share one;
- the log of any other id is refused and its state is unknown, and both without a look at the disk,
  however the id is encoded. -/
theorem ids_and_files_confined (settings : Settings) (disk : Disk) (inputs : List Input) :
    let s := takeAll (.start settings .empty disk) inputs
    let logs : LogStore := ⟨settings.logsDir⟩
    (∀ e ∈ s.registry.snapshot, Request.validateProjectId e.1 = .ok ()) ∧
    logs.Confined disk s.disk ∧
    (∀ m d, (∀ p, Request.validateProjectId p = .ok () → logs.read d p = logs.read s.disk p) →
      answer (s.on d) m = ((answer s m).1, (answer s m).2.on d)) ∧
    (∀ p, Request.validateProjectId p = .ok () →
      logs.pathFor p = Disk.join logs.dir (LogStore.logName p) ∧
      Disk.pathNames (logs.pathFor p) = Disk.pathNames logs.dir ++ [LogStore.logName p] ∧
      LogStore.IsSafeName (LogStore.logName p)) ∧
    (∀ p q, Request.validateProjectId p = .ok () → Request.validateProjectId q = .ok () →
      logs.pathFor p = logs.pathFor q → p = q) ∧
    ∀ m segment p, m.method = "GET" → Route.IsSegment segment →
      Text.percentDecode? segment = some p → Request.validateProjectId p ≠ .ok () →
      (m.target.path = "/logs/" ++ segment →
        (answer s m).1.status = 400 ∧ ∀ d, answer (s.on d) m = ((answer s m).1, s.on d)) ∧
      (m.target.path = "/status/" ++ segment →
        (answer s m).1 = .object 200 "status" "unknown" ∧
          ∀ d, answer (s.on d) m = ((answer s m).1, s.on d)) := by
  intro s logs
  have hconfines : Dispatcher.Confines logs disk s := by
    obtain ⟨moves, hmoves⟩ := exists_moves (.start settings .empty disk) inputs
    rw [show s = _ from hmoves]
    exact Dispatcher.confines settings disk moves
  refine ⟨fun e he => ?_, hconfines.confined, fun m d hread => ?_, fun p hp => ?_,
    fun p q hp hq hpath => ?_, fun m segment p hm hs hdecode hrejected => ⟨fun hp => ?_, fun hp => ?_⟩⟩
  · exact Request.validateProjectId_eq_ok_iff.2 (hconfines.keys e he)
  · refine answer_on (fun p hp => ?_) m
    rw [hconfines.same]
    exact hread p (Request.validateProjectId_eq_ok_iff.2 hp)
  · have hp := Request.validateProjectId_eq_ok_iff.1 hp
    exact ⟨rfl, (LogStore.pathNames_pathFor hp disk).1, LogStore.isSafeName_logName hp⟩
  · exact LogStore.pathFor_injective (Request.validateProjectId_eq_ok_iff.1 hp)
      (Request.validateProjectId_eq_ok_iff.1 hq) hpath
  · have hno : Request.isProjectId p = false := by
      simpa [Request.validateProjectId_eq_ok_iff] using hrejected
    rw [answer_of_rejected_logs hm hp hs hdecode hno]
    exact ⟨rfl, fun d => answer_of_rejected_logs hm hp hs hdecode hno⟩
  · have hno : Request.isProjectId p = false := by
      simpa [Request.validateProjectId_eq_ok_iff] using hrejected
    have hunknown : ∀ d, ((s.on d).registry.get p).name = "unknown" := fun d => by
      rw [show (s.on d).registry.get p = .unknown from hconfines.get_eq_unknown hno]
      rfl
    rw [answer_of_status hm hp hs hdecode, show (s.registry.get p).name = "unknown" from
      hunknown s.disk]
    refine ⟨rfl, fun d => ?_⟩
    rw [answer_of_status hm hp hs hdecode, hunknown d]

/-- An id that leads out of the log directory, its slash encoded, while a build is live: no log is
shown, whatever stands where it leads. -/
theorem answer_of_escaping_id :
    let s := takeAll (.start (.sample "logs") .empty .initial)
      [.move (.accept false .android (.sample "demo"))]
    let m : Message := ⟨"GET", ⟨"/logs/..%2F"⟩, none, []⟩
    s.live ≠ [] ∧ (answer s m).1.status = 400 ∧
      ∀ d, answer (s.on d) m = ((answer s m).1, s.on d) := by
  intro s m
  have hrefused := ((ids_and_files_confined (.sample "logs") .initial
    [.move (.accept false .android (.sample "demo"))]).2.2.2.2.2 m "..%2F" "../" rfl
      ⟨by decide, by decide⟩ (by decide) (by decide)).1 rfl
  exact ⟨by decide, hrefused⟩

end Api

end BuildService
