import BuildService.Supervision
import Mathlib.Logic.Relation
/-!
A watch and what goes on around it.

A `Watch` reacts to what happens, but it does not say what can happen. That is up
to others: a reader delivers lines into a queue of bounded length and hangs up
when the output has come to its end; the tool exits before its last line was taken
or after; the clock runs out and the service stops whenever they like. In a
`Scene` each of them acts on its own, and the watch meets one of the things that
it is offered then. So the runs of `Scene.Step` are the orders in which all this
can happen.

That no line is lost is an account of the lines (`Scene.Accounted`): each line
that was delivered has been written, or could not be written, or still waits. It
would not do to say that the watch has written what it was given, because a tool
that has exited may have lines in the queue; that they are all taken first comes
from the order in which the watch looks at things.
-/

set_option autoImplicit false

namespace BuildService

/-! ## Scenes -/

/-- A watch, the reader and the queue between them, and what there is for the watch to notice. -/
structure Scene where
  watch : Watch
  /-- The lines that the reader has delivered. -/
  delivered : List String
  /-- Those of them that have not been taken. -/
  waiting : List String
  /-- The line that was taken and could not be written. -/
  refused : Option String
  /-- Whether the reader has hung up. -/
  ended : Bool
  /-- How the tool has exited, once it has. -/
  status : Option ExitStatus
  /-- Whether the time is up. -/
  expired : Bool
  /-- Whether the service stops. -/
  stopping : Bool

namespace Watch

variable {w : Watch} {o : Occurrence}

/-- A watch looks at nothing after its end. -/
theorem result_of_attends (h : w.attends o = true) : w.result = none := by
  cases o <;> simp_all [attends]

end Watch

namespace Scene

/-- The tool has just been started. -/
def start : Scene := ⟨Watch.start, [], [], none, false, none, false, false⟩

/-- How many lines may wait. -/
def capacity : Nat := 256

/-- What the watch may find when it looks. The output is closed only when the queue is empty. -/
def Offers (x : Scene) : Occurrence → Prop
  | .line s => x.waiting.head? = some s
  | .refused s _ => x.waiting.head? = some s
  | .closed => x.ended = true ∧ x.waiting = []
  | .exited status => x.status = some status
  | .deadline => x.expired = true
  | .cancelled => x.stopping = true

/-- What becomes of a scene when something happens to its watch. -/
def meet (x : Scene) : Occurrence → Scene
  | .line s => { x with watch := x.watch.step (.line s), waiting := x.waiting.drop 1 }
  | .refused s cause =>
    { x with
      watch := x.watch.step (.refused s cause)
      waiting := x.waiting.drop 1
      refused := some s }
  | o => { x with watch := x.watch.step o }

/-- What can happen next. -/
inductive Step (x : Scene) : Scene → Prop where
  /-- The reader delivers a line: there is room, and somebody to take it. -/
  | delivers (s : String) (hreader : x.ended = false) (hroom : x.waiting.length < capacity)
      (hwatch : x.watch.result = none) :
      Step x { x with delivered := x.delivered ++ [s], waiting := x.waiting ++ [s] }
  /-- The reader comes to the end of the output, or cannot go on. -/
  | hangsUp : Step x { x with ended := true }
  | exits (status : ExitStatus) (htool : x.status = none) :
      Step x { x with status := some status }
  | expires : Step x { x with expired := true }
  | stops : Step x { x with stopping := true }
  /-- The watch looks at one of the things there are. -/
  | meets (o : Occurrence) (hoffers : x.Offers o) (hattends : x.watch.attends o = true) :
      Step x (x.meet o)

/-- Some steps later. -/
abbrev Steps : Scene → Scene → Prop := Relation.ReflTransGen Step

/-- What can come of a tool that is started. -/
def Reachable (x : Scene) : Prop := Steps start x

/-! ## What a result means -/

/-- The output is closed, and every line that was delivered is in the log, once and in order. -/
structure Drained (x : Scene) : Prop where
  closed : x.watch.isOpen = false
  ended : x.ended = true
  lines : x.watch.written.reverse = x.delivered

/-- What is behind a result. -/
def Justifies (x : Scene) : BuildResult → Prop
  | .ok .success => x.Drained ∧ x.status = some (.code 0)
  | .ok (.failed code) =>
    x.Drained ∧ ((∃ n, n ≠ 0 ∧ x.status = some (.code n) ∧ code = n) ∨
      ∃ n, x.status = some (.signal n) ∧ code = -1)
  | .ok .stuck =>
    x.expired = true ∧ x.watch.killed = true ∧ x.watch.written.reverse <+: x.delivered
  | .ok .cancelled =>
    x.stopping = true ∧ x.watch.killed = true ∧ x.watch.written.reverse <+: x.delivered
  | .error e =>
    ∃ s cause, e = .io cause ∧ x.refused = some s ∧ x.watch.killed = true ∧
      x.watch.written.reverse ++ [s] <+: x.delivered

/-- What is behind a result stays behind it when more comes to be known. -/
theorem Justifies.mono {x y : Scene} {r : BuildResult} (h : x.Justifies r)
    (hwatch : y.watch = x.watch) (hdelivered : y.delivered = x.delivered)
    (hrefused : y.refused = x.refused) (hended : x.ended = true → y.ended = true)
    (hstatus : ∀ status, x.status = some status → y.status = some status)
    (hexpired : x.expired = true → y.expired = true)
    (hstopping : x.stopping = true → y.stopping = true) : y.Justifies r := by
  have hdrained (hx : x.Drained) : y.Drained :=
    ⟨hwatch ▸ hx.closed, hended hx.ended, hwatch ▸ hdelivered ▸ hx.lines⟩
  match r, h with
  | .ok .success, ⟨hx, hcode⟩ => exact ⟨hdrained hx, hstatus _ hcode⟩
  | .ok (.failed _), ⟨hx, .inl ⟨n, hn, hcode, heq⟩⟩ =>
    exact ⟨hdrained hx, .inl ⟨n, hn, hstatus _ hcode, heq⟩⟩
  | .ok (.failed _), ⟨hx, .inr ⟨n, hcode, heq⟩⟩ =>
    exact ⟨hdrained hx, .inr ⟨n, hstatus _ hcode, heq⟩⟩
  | .ok .stuck, ⟨hx, hkilled, hlines⟩ =>
    exact ⟨hexpired hx, hwatch ▸ hkilled, hwatch ▸ hdelivered ▸ hlines⟩
  | .ok .cancelled, ⟨hx, hkilled, hlines⟩ =>
    exact ⟨hstopping hx, hwatch ▸ hkilled, hwatch ▸ hdelivered ▸ hlines⟩
  | .error _, ⟨s, cause, he, hs, hkilled, hlines⟩ =>
    exact ⟨s, cause, he, hrefused.trans hs, hwatch ▸ hkilled, hwatch ▸ hdelivered ▸ hlines⟩

/-- No build fails with code 0. -/
theorem Justifies.ne_failed_zero {x : Scene} {r : BuildResult} (h : x.Justifies r) :
    r ≠ .ok (.failed 0) := by
  rintro rfl
  obtain ⟨-, ⟨n, hn, -, hcode⟩ | ⟨-, -, hcode⟩⟩ := h
  · exact hn (by omega)
  · omega

/-- An exit says by itself what it comes to. -/
theorem justifies_outcome {x : Scene} {status : ExitStatus} (hx : x.Drained)
    (hstatus : x.status = some status) : x.Justifies (.ok status.outcome) := by
  cases status with
  | code n =>
    cases n with
    | zero => exact ⟨hx, hstatus⟩
    | succ n => exact ⟨hx, .inl ⟨n + 1, by omega, hstatus, rfl⟩⟩
  | signal n => exact ⟨hx, .inr ⟨n, hstatus, rfl⟩⟩

/-! ## The account of the lines -/

/-- Where the lines are that were delivered, and what is behind a result. -/
structure Accounted (x : Scene) : Prop where
  lines : x.delivered = x.watch.written.reverse ++ x.refused.toList ++ x.waiting
  closed : x.watch.isOpen = false → x.ended = true ∧ x.waiting = []
  going : x.watch.result = none → x.refused = none
  due : ∀ r, x.watch.result = some r → x.Justifies r

theorem accounted_start : Accounted start := by
  refine ⟨rfl, fun hc => ?_, fun _ => rfl, fun r hr => ?_⟩
  · cases hc
  · cases hr

namespace Accounted

variable {x y : Scene} {o : Occurrence}

/-- The lines that are written come first. -/
theorem isPrefix_written (h : x.Accounted) : x.watch.written.reverse <+: x.delivered := by
  rw [h.lines, List.append_assoc]
  exact List.prefix_append _ _

theorem meet (h : x.Accounted) (hoffers : x.Offers o) (hattends : x.watch.attends o = true) :
    (x.meet o).Accounted := by
  have hgoing := Watch.result_of_attends hattends
  have hrefused := h.going hgoing
  have hlines : x.delivered = x.watch.written.reverse ++ x.waiting := by
    simpa [hrefused] using h.lines
  have hstep : x.watch.step o = x.watch.react o := if_pos hattends
  cases o with
  | line s =>
    -- The first line that waits becomes the last one that is written.
    obtain ⟨rest, hwaiting⟩ := List.head?_eq_some_iff.1 hoffers
    have hopen := (Bool.and_eq_true_iff.1 hattends).2
    simp only [Scene.meet, hstep, Watch.react]
    refine ⟨by simp [hlines, hwaiting, hrefused], fun hc => ?_, fun _ => hrefused, fun r hr => ?_⟩
    · exact absurd (hopen.symm.trans hc) (by decide)
    · exact absurd (hgoing.symm.trans hr) (by simp)
  | refused s cause =>
    -- It stays between the lines that are written and those that wait, and ends the watch.
    obtain ⟨rest, hwaiting⟩ := List.head?_eq_some_iff.1 hoffers
    have hopen := (Bool.and_eq_true_iff.1 hattends).2
    simp only [Scene.meet, hstep, Watch.react]
    refine ⟨by simp [hlines, hwaiting], fun hc => ?_, fun hc => ?_, fun r hr => ?_⟩
    · exact absurd (hopen.symm.trans hc) (by decide)
    · cases hc
    · cases hr
      exact ⟨s, cause, rfl, rfl, rfl, by simp [hlines, hwaiting]⟩
  | closed =>
    simp only [Scene.meet, hstep, Watch.react]
    exact ⟨h.lines, fun _ => hoffers, h.going, fun r hr => absurd (hgoing.symm.trans hr) (by simp)⟩
  | exited status =>
    -- An exit is looked at only when the output is closed, and then nothing waits any more.
    have hclosed : x.watch.isOpen = false := by
      simpa using (Bool.and_eq_true_iff.1 hattends).2
    obtain ⟨hended, hwaiting⟩ := h.closed hclosed
    rw [hwaiting, List.append_nil] at hlines
    simp only [Scene.meet, hstep, Watch.react]
    refine ⟨h.lines, h.closed, fun _ => hrefused, fun r hr => ?_⟩
    cases hr
    exact justifies_outcome ⟨hclosed, hended, hlines.symm⟩ hoffers
  | deadline =>
    simp only [Scene.meet, hstep, Watch.react]
    refine ⟨h.lines, h.closed, fun _ => hrefused, fun r hr => ?_⟩
    cases hr
    exact ⟨hoffers, rfl, h.isPrefix_written⟩
  | cancelled =>
    simp only [Scene.meet, hstep, Watch.react]
    refine ⟨h.lines, h.closed, fun _ => hrefused, fun r hr => ?_⟩
    cases hr
    exact ⟨hoffers, rfl, h.isPrefix_written⟩

/-- **The account holds on.** -/
theorem step (h : x.Accounted) (hs : Step x y) : y.Accounted := by
  cases hs with
  | delivers s hreader hroom hwatch =>
    refine ⟨by simp [h.lines], fun hc => ?_, h.going, fun r hr => ?_⟩
    · exact absurd ((h.closed hc).1.symm.trans hreader) (by decide)
    · exact absurd (hwatch.symm.trans hr) (by simp)
  | hangsUp =>
    -- From here on others move; nothing that a result rests on is taken back.
    refine ⟨h.lines, fun hc => ⟨rfl, (h.closed hc).2⟩, h.going, fun r hr => ?_⟩
    exact (h.due r hr).mono rfl rfl rfl (fun _ => rfl) (fun _ => id) id id
  | exits status htool =>
    refine ⟨h.lines, h.closed, h.going, fun r hr => ?_⟩
    exact (h.due r hr).mono rfl rfl rfl id (fun st hst => by simp [htool] at hst) id id
  | expires =>
    refine ⟨h.lines, h.closed, h.going, fun r hr => ?_⟩
    exact (h.due r hr).mono rfl rfl rfl id (fun _ => id) (fun _ => rfl) id
  | stops =>
    refine ⟨h.lines, h.closed, h.going, fun r hr => ?_⟩
    exact (h.due r hr).mono rfl rfl rfl id (fun _ => id) id (fun _ => rfl)
  | meets o hoffers hattends => exact h.meet hoffers hattends

end Accounted

variable {x y : Scene}

/-- The account holds in every run. -/
theorem Reachable.accounted (h : x.Reachable) : x.Accounted := by
  induction h with
  | refl => exact accounted_start
  | tail _ hs ih => exact ih.step hs

/-- The watch does nothing after its end. -/
theorem Step.watch_eq {r : BuildResult} (hs : Step x y) (hr : x.watch.result = some r) :
    y.watch = x.watch := by
  cases hs with
  | meets o hoffers hattends =>
    rw [Watch.result_of_attends hattends] at hr
    cases hr
  | _ => rfl

/-- Whatever happens after its end, nothing more is written. -/
theorem Steps.watch_eq {r : BuildResult} (hs : Steps x y) (hr : x.watch.result = some r) :
    y.watch = x.watch := by
  induction hs with
  | refl => rfl
  | tail _ hs ih => exact (hs.watch_eq (ih ▸ hr)).trans ih

end Scene

end BuildService
