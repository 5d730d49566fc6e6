import BuildService.Proofs.Calls
import BuildService.Proofs.Logs
import BuildService.Proofs.OtherLogs
/-!
What a build does to other projects: nothing, whatever becomes of it and whatever is
on the disk.

That it leaves their jobs alone is a matter of the registry, which is asked for one
project at a time. That it leaves their logs alone is a matter of the disk, and holds
for every log that is not at the place of its own (`Dispatcher.Spares`). For that it
has to be known that an open log is written where its path leads, and it is opened
there and paths lead on where they led (`Placed`).
-/

set_option autoImplicit false

namespace BuildService

namespace Dispatcher

variable {s s' : Dispatcher} {e : Happening} {b : Build}

/-- The closing line is written, or the disk stays as it is. -/
theorem trailed_cases (s : Dispatcher) (sink : LogSink) (result : BuildResult) :
    s.trailed sink result = s.disk ∨ ∃ line sink' d, sink.writeLine s.disk line = .ok (sink', d) ∧
      s.trailed sink result = d := by
  unfold trailed
  split
  · exact .inl rfl
  · split
    · exact .inl rfl
    · exact .inr ⟨_, _, _, ‹_›, rfl⟩

/-- A closing line that cannot be written leaves the disk as it is. -/
theorem trailed_of_error {sink : LogSink} {result : BuildResult} {line : String} {cause : IoFault}
    (hline : result.trailer s.settings.timeout = some line)
    (hw : sink.writeLine s.disk line = .error cause) : s.trailed sink result = s.disk := by
  simp only [trailed, hline, hw]

/-- Paths that lead somewhere lead there after every step. -/
theorem Step.extends (hs : Step s e s') : Disk.Extends s.disk s'.disk := by
  have written : ∀ {sink sink' : LogSink} {d : Disk} {line : String},
      sink.writeLine s.disk line = .ok (sink', d) → Disk.Extends s.disk d := fun hw =>
    Disk.extends_writeAt (LogStore.writeAt_of_writeLine hw).2
  cases hs with
  | @opened b _ _ _ hr =>
    have hx := s.logs.extends_reset s.disk b.project
    rwa [hr] at hx
  | @unopened b _ _ _ hr =>
    have hx := s.logs.extends_reset s.disk b.project
    rwa [hr] at hx
  | wrote _ hw => exact written hw
  | @closed _ sink result _ =>
    rcases s.trailed_cases sink result with hsame | ⟨line, sink', d, hw, hd⟩
    · rw [disk_setStage, hsame]
      exact .refl _
    · rw [disk_setStage, hd]
      exact written hw
  | _ => exact .refl _

/-! ## Where open logs are -/

/-- Every open log is written where its path leads. -/
structure Placed (s : Dispatcher) : Prop where
  numbered : Numbered s
  place : ∀ b stage, ⟨b, stage⟩ ∈ s.tasks → ∀ sink, stage.sink? = some sink →
    s.disk.locate true (s.logs.pathFor b.project) = .ok (.found sink.node)

namespace Placed

theorem of_task? (h : Placed s) {stage : Stage} {sink : LogSink}
    (hb : s.task? b.id = some ⟨b, stage⟩) (hsink : stage.sink? = some sink) :
    s.disk.locate true (s.logs.pathFor b.project) = .ok (.found sink.node) :=
  h.place b stage (mem_of_task? hb) sink hsink

theorem step (h : Placed s) (hs : Step s e s') : Placed s' := by
  refine ⟨h.numbered.step hs, fun c stage ht sink hsink => ?_⟩
  rw [hs.logs_eq]
  -- What was open before leads where it led, since paths do.
  have kept : ∀ {stage' : Stage} {sink' : LogSink}, ⟨c, stage'⟩ ∈ s.tasks →
      stage'.sink? = some sink' → sink.node = sink'.node →
      s'.disk.locate true (s.logs.pathFor c.project) = .ok (.found sink.node) :=
    fun hmem hsink hnode => hnode ▸ Disk.locate_found_mono hs.extends (h.place c _ hmem _ hsink)
  rcases hs.mem_tasks h.numbered ht with ⟨hmem, -⟩ | ⟨stage', hmem, hb, hnext⟩ | ⟨-, -, harr⟩
  · exact kept hmem hsink rfl
  · by_cases hw : e.writer? = none
    · exact kept hmem ((hnext.sink?_eq hw).symm.trans hsink) rfl
    · cases hs with
      | opened ht' hr =>
        obtain rfl := Option.some.inj hb
        rw [stage_eq_of_mem_setStage h.numbered ht' ht] at hsink
        obtain rfl := Option.some.inj hsink
        exact (LogStore.locate_of_reset hr).1
      | @wrote _ _ _ _ _ ht' hwrite =>
        obtain rfl := Option.some.inj hb
        rw [stage_eq_of_mem_setStage h.numbered ht' ht] at hsink
        obtain rfl := Option.some.inj hsink
        exact kept (mem_of_task? ht') rfl (LogStore.writeAt_of_writeLine hwrite).1
      | closed ht' =>
        obtain rfl := Option.some.inj hb
        rw [stage_eq_of_mem_setStage h.numbered ht' ht] at hsink
        cases hsink
      | _ => exact absurd rfl hw
  · rw [show stage = .arrived from harr] at hsink
    cases hsink

end Placed

/-- In every run open logs are written where their paths lead. -/
theorem placed (settings : Settings) (registry : Registry) (disk : Disk) (moves : List Move) :
    Placed ((start settings registry disk).applyAll moves) :=
  run_induction (P := fun s _ => Placed s)
    ⟨(rooted settings registry disk []).numbered, fun _ _ ht => absurd ht List.not_mem_nil⟩
    (fun _ _ _ _ h hs => h.step hs) moves

/-! ## Other projects -/

/-- No project but one has another job state than before, and no log that is not at the place of the
log of this project reads otherwise, once the directory of the logs is made. -/
structure Spares (s s' : Dispatcher) (p : String) : Prop where
  jobs : ∀ q, q ≠ p → s'.registry.get q = s.registry.get q
  logs : s.logs.LeavesOthers s.disk s'.disk p

/-- What happens to a build is seen in no job but that of its project. -/
theorem Step.get_of_ne (hs : Step s e s') (hocc : Occupied s) (hb : e.build? = some b) {q : String}
    (hq : q ≠ b.project) : s'.registry.get q = s.registry.get q := by
  by_cases hi : e.isInner = true
  · rw [(hs.inner hi).2.1]
  cases hs with
  | admitted _ hc =>
    obtain rfl := Option.some.inj hb
    exact ((Registry.get_of_tryBegin (check_eq_ok_iff.1 hc).2.2).2 q).trans (if_neg hq)
  | @recorded _ result ht =>
    obtain rfl := Option.some.inj hb
    exact (Registry.get_complete result.state_isTerminal
      (hocc.running _ (mem_live_of_task? ht)) q).trans (if_neg hq)
  | dropped _ _ _ => rfl
  | _ => exact absurd rfl hi

/-- **What happens to a build spares the other projects.** -/
theorem Step.spares (hs : Step s e s') (hocc : Occupied s) (hp : Placed s)
    (hb : e.build? = some b) : Spares s s' b.project := by
  refine ⟨fun q hq => hs.get_of_ne hocc hb hq, ?_⟩
  cases hs with
  | @opened c _ _ _ hr =>
    obtain rfl := Option.some.inj hb
    have hreset := s.logs.leavesOthers_reset s.disk c.project
    rwa [hr] at hreset
  | @unopened c _ _ _ hr =>
    obtain rfl := Option.some.inj hb
    have hreset := s.logs.leavesOthers_reset s.disk c.project
    rwa [hr] at hreset
  | wrote ht hw =>
    obtain rfl := Option.some.inj hb
    exact LogStore.leavesOthers_writeLine (hp.of_task? ht rfl) hw
  | @closed _ sink result ht =>
    obtain rfl := Option.some.inj hb
    rcases s.trailed_cases sink result with hsame | ⟨line, sink', d, hw, hd⟩
    · rw [disk_setStage, hsame]
      exact LogStore.leavesOthers_refl _ _ _
    · rw [disk_setStage, hd]
      exact LogStore.leavesOthers_writeLine (hp.of_task? ht rfl) hw
  | _ => exact LogStore.leavesOthers_refl _ _ _

end Dispatcher

end BuildService
