import BuildService.Simulation
import BuildService.Proofs.Lines
import BuildService.Proofs.OpenLogs
import BuildService.Proofs.Scenes
/-!
Running a program is one of the runs of a scene.

`watchFor` takes the things that happen to a program in the order of their times.
At each of them the scene makes two steps: somebody else moves, and the watch
meets what they have brought about (`Scene.Depicts`). So whatever holds in all
runs of scenes holds of a program that is run, whatever it does and when.

The scene also says what the program has given out. A course is told by the lines
that it would give out if it came to its end (`Course.Gives`), and those of a
process are the lines of its whole output (`gives_course`): in which chunks the
output came is of no account any more.
-/

set_option autoImplicit false

namespace BuildService

/-! ## Courses -/

/-- A course gives out these lines if it comes to its end: the lines that are left while the output
is open, then that it is closed, then the exit. It may break off at any place. -/
inductive Course.Gives : Bool → Course → List String → Prop where
  | unfinished (lines : List String) : Gives true [] lines
  | line (t : Nat) (s : String) {rest : Course} {lines : List String} (h : Gives true rest lines) :
      Gives true ((t, .line s) :: rest) (s :: lines)
  | closed (t : Nat) {rest : Course} (h : Gives false rest []) :
      Gives true ((t, .closed) :: rest) []
  | running : Gives false [] []
  | exited (t : Nat) (status : ExitStatus) : Gives false [(t, .exited status)] []

namespace Course.Gives

variable {isOpen : Bool} {t : Nat} {s : String} {status : ExitStatus} {rest : Course}
  {lines more : List String}

/-- Lines that come first are given out first. -/
theorem append_lines (h : Gives true rest more) (stamped : List (Nat × String)) :
    Gives true (stamped.map (fun (t, s) => (t, Deed.line s)) ++ rest)
      (stamped.map (·.2) ++ more) := by
  induction stamped with
  | nil => exact h
  | cons e stamped ih => exact .line e.1 e.2 ih

/-- What comes first says whether the output is open and which lines are left. -/
theorem of_line (h : Gives isOpen ((t, .line s) :: rest) lines) :
    isOpen = true ∧ ∃ more, lines = s :: more ∧ Gives true rest more := by
  cases h with
  | line _ _ h => exact ⟨rfl, _, rfl, h⟩

theorem of_closed (h : Gives isOpen ((t, .closed) :: rest) lines) :
    isOpen = true ∧ lines = [] ∧ Gives false rest [] := by
  cases h with
  | closed _ h => exact ⟨rfl, rfl, h⟩

theorem of_exited (h : Gives isOpen ((t, .exited status) :: rest) lines) :
    isOpen = false ∧ lines = [] := by
  cases h with
  | exited => exact ⟨rfl, rfl⟩

end Course.Gives

namespace Behaviour

/-- All that comes out. -/
def output (b : Behaviour) : List UInt8 := b.chunks.flatMap (·.2)

theorem output_delay (b : Behaviour) (span : Nat) : (b.delay span).output = b.output := by
  simp [output, delay, List.flatMap_map]

/-- The lines of the chunks are the lines of what they hold together. -/
theorem timedLines_eq (r : Output.Reader) (chunks : List (Nat × List UInt8)) :
    ∃ stamped : List (Nat × String),
      timedLines r chunks = (stamped.map (fun (t, s) => (t, Deed.line s)),
        (r.feed (chunks.flatMap (·.2))).2) ∧
      stamped.map (·.2) = (r.feed (chunks.flatMap (·.2))).1 := by
  induction chunks generalizing r with
  | nil => exact ⟨[], rfl, rfl⟩
  | cons chunk chunks ih =>
    obtain ⟨t, bytes⟩ := chunk
    obtain ⟨stamped, htimed, hstamped⟩ := ih (r.feed bytes).2
    refine ⟨(r.feed bytes).1.map (fun s => (t, s)) ++ stamped, ?_, ?_⟩
    · simp only [timedLines, htimed, List.flatMap_cons, Output.Reader.feed_append, List.map_append,
        List.map_map]
      rfl
    · simp only [List.flatMap_cons, Output.Reader.feed_append, List.map_append, hstamped,
        List.map_map, Function.comp_def, List.map_id']

/-- **A process gives out the lines of its output**, however it is cut into chunks. -/
theorem gives_course (b : Behaviour) : Course.Gives true b.course (Output.lines b.output) := by
  obtain ⟨stamped, htimed, hstamped⟩ := timedLines_eq .start b.chunks
  have hlines : Output.lines b.output =
      stamped.map (·.2) ++ (Output.Reader.start.feed (b.chunks.flatMap (·.2))).2.finish := by
    rw [hstamped]
    rfl
  rw [hlines]
  unfold course
  rw [htimed]
  cases b.closed with
  | none =>
    rw [← List.append_nil (List.map _ stamped)]
    exact (Course.Gives.unfinished _).append_lines stamped
  | some t =>
    -- What the reader still holds when the output is closed is one more line, at that time.
    have hall {exit : Course} (hexit : Course.Gives false exit []) :=
      ((Course.Gives.closed t hexit).append_lines
        ((Output.Reader.start.feed (b.chunks.flatMap (·.2))).2.finish.map
          fun s => (t, s))).append_lines stamped
    cases b.exited with
    | none => simpa [Function.comp_def] using hall .running
    | some e => simpa [Function.comp_def] using hall (.exited (max t e.1) e.2)

end Behaviour

/-! ## A program that is run -/

/-- What happens next is the first thing in the course, unless the watch is ended before. -/
theorem Supervised.next_cases (s : Supervised) (stopped : Option Nat) :
    (∃ t deed rest, s.ahead = (t, deed) :: rest ∧ s.next stopped = (t, .inl deed)) ∨
      ∃ t, s.next stopped = (t, .inr .deadline) ∨ s.next stopped = (t, .inr .cancelled) := by
  -- One time and one reason stand against the course: whichever of the two comes first.
  have hforced : ∃ (u : Nat) (o : Occurrence), (o = .deadline ∨ o = .cancelled) ∧
      (s.ahead = [] → s.next stopped = (u, .inr o)) ∧
      ∀ t deed rest, s.ahead = (t, deed) :: rest →
        s.next stopped = if t < u then (t, .inl deed) else (u, .inr o) := by
    cases stopped with
    | none => exact ⟨s.deadline, .deadline, .inl rfl, by simp +contextual [next]⟩
    | some t =>
      by_cases ht : max t s.started ≤ s.deadline
      · exact ⟨max t s.started, .cancelled, .inr rfl, by simp +contextual [next, ht]⟩
      · exact ⟨s.deadline, .deadline, .inl rfl, by simp +contextual [next, ht]⟩
  obtain ⟨u, o, ho, hnil, hcons⟩ := hforced
  have hended : (∃ t, s.next stopped = (t, .inr o)) →
      ∃ t, s.next stopped = (t, .inr .deadline) ∨ s.next stopped = (t, .inr .cancelled) := by
    rintro ⟨t, ht⟩
    rcases ho with rfl | rfl
    · exact ⟨t, .inl ht⟩
    · exact ⟨t, .inr ht⟩
  cases hahead : s.ahead with
  | nil => exact .inr (hended ⟨u, hnil hahead⟩)
  | cons e rest =>
    have hnext := hcons e.1 e.2 rest hahead
    by_cases ht : e.1 < u
    · exact .inl ⟨e.1, e.2, rest, rfl, hnext.trans (if_pos ht)⟩
    · exact .inr (hended ⟨u, hnext.trans (if_neg ht)⟩)

/-- Watches over a program that behaves like this, from its start to its end. -/
def supervise (d : Disk) (sink : LogSink) (c : Command) (timeout : Duration)
    (stopped : Option Nat) (b : Behaviour) : BuildResult × Disk :=
  let s : Supervised := ⟨c, timeout, 0, (b.delay startupTime).course, Watch.start⟩
  watchFor stopped (s.ahead.length + 3) d sink s

/-- A command is run by watching over the program that it starts. -/
theorem runCommand_eq (d : Disk) (sink : LogSink) (c : Command) (timeout : Duration)
    (stopped : Option Nat) :
    runCommand d sink c timeout stopped =
      match Launch.start d c timeout.millis with
      | .error cause => (.error (.spawn c.program cause), d)
      | .ok (b, d) => supervise d sink c timeout stopped b := by
  unfold runCommand Supervised.start
  cases Launch.start d c timeout.millis <;> rfl

namespace Scene

/-- The scene of a program that is watched over, some time after its log was `sink₀` on the disk
`d₀`: the reader is never ahead of the watch, and what is still to come completes the output. -/
structure Depicts (out : List String) (sink₀ : LogSink) (d₀ : Disk) (s : Supervised)
    (sink : LogSink) (d : Disk) (x : Scene) : Prop where
  reachable : x.Reachable
  watch : x.watch = s.watch
  log : sink₀.writeLines d₀ s.watch.written.reverse = .ok (sink, d)
  lines : ∃ ls, out = x.delivered ++ ls ∧ (x.ended = true → ls = []) ∧
    (s.watch.result = none → Course.Gives s.watch.isOpen s.ahead ls)
  going : s.watch.result = none → x.waiting = [] ∧ x.status = none ∧ x.ended = !s.watch.isOpen

namespace Depicts

variable {out : List String} {sink₀ : LogSink} {d₀ : Disk} {s : Supervised} {sink sink' : LogSink}
  {d d' : Disk} {x : Scene}

/-- The watch meets something that somebody else has just brought about. -/
theorem meets (h : Depicts out sink₀ d₀ s sink d x) {y : Scene} {o : Occurrence} (hs : Step x y)
    (hwatch : y.watch = s.watch) (hoffers : y.Offers o) (hattends : s.watch.attends o = true)
    (hlog : sink₀.writeLines d₀ (s.watch.react o).written.reverse = .ok (sink', d'))
    {ls : List String} (hout : out = (y.meet o).delivered ++ ls)
    (hended : (y.meet o).ended = true → ls = [])
    (hgives : (s.watch.react o).result = none →
      Course.Gives (s.watch.react o).isOpen (s.ahead.drop 1) ls)
    (hgoing : (s.watch.react o).result = none → (y.meet o).waiting = [] ∧
      (y.meet o).status = none ∧ (y.meet o).ended = !(s.watch.react o).isOpen) (t : Nat) :
    Depicts out sink₀ d₀ (s.advance t o).2 sink' d' (y.meet o) := by
  have hstep : (s.advance t o).2.watch = s.watch.react o := if_pos hattends
  have hahead : (s.advance t o).2.ahead = s.ahead.drop 1 := rfl
  refine ⟨(h.reachable.tail hs).tail (.meets o hoffers (hwatch ▸ hattends)), ?_, ?_, ?_, ?_⟩
  · -- Whoever moves first leaves the watch alone, so it reacts as that of the program.
    rw [← hwatch] at hattends
    rw [hstep, ← hwatch, ← show y.watch.step o = y.watch.react o from if_pos hattends]
    cases o <;> rfl
  · rw [hstep]
    exact hlog
  · rw [hstep, hahead]
    exact ⟨ls, hout, hended, hgives⟩
  · rw [hstep]
    exact hgoing

/-- The reader delivers the line that comes next. -/
theorem delivers (h : Depicts out sink₀ d₀ s sink d x) (hgoing : s.watch.result = none) {t : Nat}
    {text : String} {rest : Course} (hahead : s.ahead = (t, .line text) :: rest) :
    ∃ ls, out = x.delivered ++ [text] ++ ls ∧ x.ended = false ∧ s.watch.isOpen = true ∧
      Course.Gives true rest ls ∧
      Step x { x with delivered := x.delivered ++ [text], waiting := [text] } := by
  obtain ⟨ls, hout, -, hgives⟩ := h.lines
  obtain ⟨hwaiting, -, hreader⟩ := h.going hgoing
  have hgives := hgives hgoing
  rw [hahead] at hgives
  obtain ⟨hopen, more, rfl, hrest⟩ := hgives.of_line
  have hreader : x.ended = false := by rw [hreader, hopen]; rfl
  have hstep := Step.delivers text hreader (by rw [hwaiting]; decide) (h.watch ▸ hgoing)
  rw [hwaiting] at hstep
  exact ⟨more, by rw [hout, List.append_assoc]; rfl, hreader, hopen, hrest, hstep⟩

theorem line (h : Depicts out sink₀ d₀ s sink d x) (hgoing : s.watch.result = none) {t : Nat}
    {text : String} {rest : Course} (hahead : s.ahead = (t, .line text) :: rest)
    (hw : sink.writeLine d text = .ok (sink', d')) :
    ∃ y, Depicts out sink₀ d₀ (s.advance t (.line text)).2 sink' d' y := by
  obtain ⟨ls, hout, hreader, hopen, hgives, hs⟩ := h.delivers hgoing hahead
  refine ⟨_, h.meets hs h.watch (o := .line text) rfl (by simp [Watch.attends, hgoing, hopen])
    ?_ hout (fun hc => ?_) (fun _ => ?_) (fun _ => ?_) t⟩
  · simpa [Watch.react] using (LogSink.writeLines_append_one h.log text).trans hw
  · cases hreader.symm.trans hc
  · rw [Watch.react, hopen, hahead]
    exact hgives
  · exact ⟨rfl, (h.going hgoing).2⟩

theorem refused (h : Depicts out sink₀ d₀ s sink d x) (hgoing : s.watch.result = none) {t : Nat}
    {text : String} {rest : Course} (hahead : s.ahead = (t, .line text) :: rest)
    (cause : IoFault) :
    ∃ y, Depicts out sink₀ d₀ (s.advance t (.refused text cause)).2 sink d y := by
  obtain ⟨ls, hout, hreader, hopen, -, hs⟩ := h.delivers hgoing hahead
  refine ⟨_, h.meets hs h.watch (o := .refused text cause) rfl
    (by simp [Watch.attends, hgoing, hopen]) h.log hout (fun hc => ?_) (fun hc => ?_)
    (fun hc => ?_) t⟩
  · cases hreader.symm.trans hc
  · cases hc
  · cases hc

theorem closed (h : Depicts out sink₀ d₀ s sink d x) (hgoing : s.watch.result = none) {t : Nat}
    {rest : Course} (hahead : s.ahead = (t, .closed) :: rest) :
    ∃ y, Depicts out sink₀ d₀ (s.advance t .closed).2 sink d y := by
  obtain ⟨ls, hout, -, hgives⟩ := h.lines
  obtain ⟨hwaiting, hstatus, -⟩ := h.going hgoing
  have hgives := hgives hgoing
  rw [hahead] at hgives
  obtain ⟨hopen, rfl, hrest⟩ := hgives.of_closed
  refine ⟨_, h.meets .hangsUp h.watch (o := .closed) ⟨rfl, hwaiting⟩
    (by simp [Watch.attends, hgoing, hopen]) h.log hout (fun _ => rfl) (fun _ => ?_)
    (fun _ => ⟨hwaiting, hstatus, rfl⟩) t⟩
  rw [hahead]
  exact hrest

theorem exited (h : Depicts out sink₀ d₀ s sink d x) (hgoing : s.watch.result = none) {t : Nat}
    {status : ExitStatus} {rest : Course} (hahead : s.ahead = (t, .exited status) :: rest) :
    ∃ y, Depicts out sink₀ d₀ (s.advance t (.exited status)).2 sink d y := by
  obtain ⟨ls, hout, -, hgives⟩ := h.lines
  have hgives := hgives hgoing
  rw [hahead] at hgives
  obtain ⟨hclosed, rfl⟩ := hgives.of_exited
  refine ⟨_, h.meets (.exits status (h.going hgoing).2.1) h.watch (o := .exited status) rfl
    (by simp [Watch.attends, hgoing, hclosed]) h.log hout (fun _ => rfl) (fun hc => ?_)
    (fun hc => ?_) t⟩
  · cases hc
  · cases hc

/-- The watch is ended from outside. -/
theorem forced (h : Depicts out sink₀ d₀ s sink d x) (hgoing : s.watch.result = none)
    {o : Occurrence} (ho : o = .deadline ∨ o = .cancelled) (t : Nat) :
    ∃ y, Depicts out sink₀ d₀ (s.advance t o).2 sink d y := by
  obtain ⟨ls, hout, hended, -⟩ := h.lines
  rcases ho with rfl | rfl
  · exact ⟨_, h.meets .expires h.watch (o := .deadline) rfl (by simp [Watch.attends, hgoing])
      h.log hout hended (fun hc => by cases hc) (fun hc => by cases hc) t⟩
  · exact ⟨_, h.meets .stops h.watch (o := .cancelled) rfl (by simp [Watch.attends, hgoing])
      h.log hout hended (fun hc => by cases hc) (fun hc => by cases hc) t⟩

/-- **Every program that is watched over is depicted at its end.** -/
theorem watchFor (stopped : Option Nat) {n : Nat} (h : Depicts out sink₀ d₀ s sink d x)
    (hn : 1 ≤ n) (hfuel : s.watch.result = none → s.ahead.length + 2 ≤ n) :
    ∃ y s' sink', Depicts out sink₀ d₀ s' sink' (watchFor stopped n d sink s).2 y ∧
      s'.watch.result = some (watchFor stopped n d sink s).1 := by
  induction n generalizing s sink d x with
  | zero => exact absurd hn (by decide)
  | succ n ih =>
    cases hgoing : s.watch.result with
    | some r =>
      simp only [BuildService.watchFor, hgoing]
      exact ⟨x, s, sink, h, hgoing⟩
    | none =>
      have hroom := hfuel hgoing
      -- Each thing that happens takes the first deed away or ends the watch.
      have hdeed {t : Nat} {o : Occurrence} (hne : s.ahead ≠ []) :
          (s.advance t o).2.watch.result = none → (s.advance t o).2.ahead.length + 2 ≤ n := by
        intro _
        have := List.length_pos_iff.2 hne
        simp only [Supervised.advance, List.length_drop]
        omega
      have hend {t : Nat} {o : Occurrence} (ho : o = .deadline ∨ o = .cancelled) :
          (s.advance t o).2.watch.result = none → (s.advance t o).2.ahead.length + 2 ≤ n := by
        rcases ho with rfl | rfl <;>
          simp [Supervised.advance, Watch.step, Watch.attends, Watch.react, hgoing]
      rcases s.next_cases stopped with ⟨t, deed, rest, hahead, hnext⟩ | ⟨t, hnext | hnext⟩
      · have hne : s.ahead ≠ [] := by simp [hahead]
        cases deed with
        | line text =>
          cases hw : sink.writeLine d text with
          | ok written =>
            obtain ⟨y, hy⟩ := h.line hgoing hahead hw
            simp only [BuildService.watchFor, hgoing, hnext, hw]
            exact ih hy (by omega) (hdeed hne)
          | error cause =>
            obtain ⟨y, hy⟩ := h.refused hgoing hahead cause
            simp only [BuildService.watchFor, hgoing, hnext, hw]
            exact ih hy (by omega) (hdeed hne)
        | closed =>
          obtain ⟨y, hy⟩ := h.closed hgoing hahead
          simp only [BuildService.watchFor, hgoing, hnext]
          exact ih hy (by omega) (hdeed hne)
        | exited status =>
          obtain ⟨y, hy⟩ := h.exited hgoing hahead
          simp only [BuildService.watchFor, hgoing, hnext]
          exact ih hy (by omega) (hdeed hne)
      · obtain ⟨y, hy⟩ := h.forced hgoing (.inl rfl) t
        simp only [BuildService.watchFor, hgoing, hnext]
        exact ih hy (by omega) (hend (.inl rfl))
      · obtain ⟨y, hy⟩ := h.forced hgoing (.inr rfl) t
        simp only [BuildService.watchFor, hgoing, hnext]
        exact ih hy (by omega) (hend (.inr rfl))

end Depicts

/-- **A program that is watched over has one of the runs above**, and the lines that it has written
are in its log. What the reader delivers are the lines of its output. -/
theorem exists_of_supervise (d : Disk) (sink : LogSink) (c : Command) (timeout : Duration)
    (stopped : Option Nat) (b : Behaviour) :
    ∃ x : Scene, x.Reachable ∧
      x.watch.result = some (supervise d sink c timeout stopped b).1 ∧
      (∃ sink', sink.writeLines d x.watch.written.reverse =
        .ok (sink', (supervise d sink c timeout stopped b).2)) ∧
      x.delivered <+: Output.lines b.output ∧
      (x.ended = true → x.delivered = Output.lines b.output) := by
  have hgives := (b.delay startupTime).gives_course
  rw [Behaviour.output_delay] at hgives
  have hstart : Depicts (Output.lines b.output) sink d
      ⟨c, timeout, 0, (b.delay startupTime).course, Watch.start⟩ sink d start :=
    { reachable := .refl
      watch := rfl
      log := rfl
      lines := ⟨_, rfl, fun hc => absurd hc (by decide), fun _ => hgives⟩
      going := fun _ => ⟨rfl, rfl, rfl⟩ }
  obtain ⟨x, s, sink', hx, hresult⟩ := hstart.watchFor stopped
    (n := (b.delay startupTime).course.length + 3) (by omega) (fun _ => by simp)
  obtain ⟨ls, hout, hended, -⟩ := hx.lines
  refine ⟨x, hx.reachable, ?_, ⟨sink', ?_⟩, ⟨ls, hout.symm⟩, fun hc => ?_⟩
  · rw [hx.watch]
    exact hresult
  · rw [hx.watch]
    exact hx.log
  · rw [hout, hended hc, List.append_nil]

/-- **What a watch reports is true, and its log has lost no line**, in whatever order things happen.
Success and failure are reported only when the output is closed and everything that was delivered is
in the log; the code is that of the exit. A watch that is ended before has a reason, kills the tool,
and has written the first of the lines without gaps. After the end nothing is written. A program that
is run is one of these cases, and one that cannot be started writes nothing. -/
theorem result_justified_and_lines_kept :
    (∀ x : Scene, x.Reachable →
      x.watch.written.reverse <+: x.delivered ∧
      ∀ r, x.watch.result = some r →
        x.Justifies r ∧ r ≠ .ok (.failed 0) ∧ ∀ y, Steps x y → y.watch = x.watch) ∧
    ∀ (d : Disk) (sink : LogSink) (c : Command) (timeout : Duration) (stopped : Option Nat),
      (∀ program cause,
        (runCommand d sink c timeout stopped).1 = .error (.spawn program cause) →
          (runCommand d sink c timeout stopped).2 = d) ∧
      ∀ b d₁, Launch.start d c timeout.millis = .ok (b, d₁) →
        ∃ x : Scene, x.Reachable ∧
          x.watch.result = some (runCommand d sink c timeout stopped).1 ∧
          (∃ sink', sink.writeLines d₁ x.watch.written.reverse =
            .ok (sink', (runCommand d sink c timeout stopped).2)) ∧
          x.delivered <+: Output.lines b.output ∧
          (x.ended = true → x.delivered = Output.lines b.output) := by
  refine ⟨fun x hx => ⟨hx.accounted.isPrefix_written, fun r hr => ?_⟩,
    fun d sink c timeout stopped => ⟨fun program cause hspawn => ?_, fun b d₁ hlaunch => ?_⟩⟩
  · have hdue := hx.accounted.due r hr
    exact ⟨hdue, hdue.ne_failed_zero, fun y hs => Steps.watch_eq hs hr⟩
  · rw [runCommand_eq] at hspawn ⊢
    cases hlaunch : Launch.start d c timeout.millis with
    | error e => rfl
    | ok started =>
      -- A program that has been started ends with another fault, if with any.
      rw [hlaunch] at hspawn
      obtain ⟨x, hx, hr, -⟩ := exists_of_supervise started.2 sink c timeout stopped started.1
      obtain ⟨s, e, he, -⟩ := hx.accounted.due _ (hr.trans (congrArg some hspawn))
      cases he
  · rw [runCommand_eq, hlaunch]
    exact exists_of_supervise d₁ sink c timeout stopped b

/-- A tool may exit while its lines still wait; they are written all the same. -/
theorem exists_exited_before_taken :
    ∃ x : Scene, x.Reachable ∧ x.watch.result = some (.ok (.failed 3)) ∧
      x.watch.written.reverse = ["compiling", "error"] ∧ x.Justifies (.ok (.failed 3)) := by
  have h₁ : Reachable _ := .single (.delivers "compiling" rfl (by decide) rfl)
  have h₂ := h₁.tail (.delivers "error" rfl (by decide) rfl)
  have h₃ := h₂.tail (.exits (.code 3) rfl)
  have h₄ := h₃.tail .hangsUp
  have h₅ := h₄.tail (.meets (.line "compiling") rfl rfl)
  have h₆ := h₅.tail (.meets (.line "error") rfl rfl)
  have h₇ := h₆.tail (.meets .closed ⟨rfl, rfl⟩ rfl)
  have h₈ := h₇.tail (.meets (.exited (.code 3)) rfl rfl)
  exact ⟨_, h₈, rfl, rfl, ((result_justified_and_lines_kept.1 _ h₈).2 _ rfl).1⟩

end Scene

end BuildService
