import BuildService.Proofs.Progress
import BuildService.Proofs.Stopping
/-!
A service that is told to stop comes to rest, and everything that was under way
is recorded as failed.

Only the tools have to do something for it: each that is still to end ends as
cancelled. There may be any number of builds that wait for a permit; each of them
gets the one that a cancelled build gives back, calls its tool, and is cancelled
in turn. Nothing is said of the order in which this happens. As long as somebody
is live somebody can go on (`Allotted.canDrain`), and nobody goes on for ever
(`exists_drain`), so what is left to say is how a state looks in which nobody can
go on: `Drained`.

That a build was cancelled is read off its record. Nobody is live any more, so
every build that was not given up has been recorded; what is recorded is what it
ended with; and an end that came after the service was told to stop is that of a
cancelled tool, as long as every log could be opened.
-/

set_option autoImplicit false

namespace BuildService

namespace Dispatcher

variable {settings : Settings} {disk : Disk} {n : Nat} {s s' : Dispatcher} {tr more : Trace}
  {moves : List Move} {b : Build}

/-! ## To the end -/

/-- **Builds can come to their ends**, whatever state they are in, and it takes no more moves than
there are stages before them. -/
theorem exists_drain (h : Allotted n s tr) (hpos : 1 ≤ n) :
    ∃ rest : List Move, (∀ m ∈ rest, m.isDraining = true) ∧ rest.length ≤ s.ahead ∧
      (s.applyAll rest).live = [] := by
  -- Every move brings some build nearer to its end, and none is admitted.
  induction hk : s.ahead using Nat.strongRecOn generalizing s tr with
  | ind k ih =>
    by_cases hlive : s.tasks = []
    · exact ⟨[], by simp, Nat.zero_le _, List.map_eq_nil_iff.2 hlive⟩
    obtain ⟨m, e, hm, he, hadv⟩ := h.canDrain hpos hlive
    have hs := step_apply he
    have hlost : 0 < e.lost := of_decide_eq_true hadv
    have haccount := hs.ahead_add_lost h.rooted.numbered
    rw [Happening.gained_eq_zero_of_advances hadv] at haccount
    obtain ⟨rest, hrest, hlen, hnobody⟩ := ih (s.apply m).ahead (by omega) (h.step hs) rfl
    refine ⟨m :: rest, ?_, by simp only [List.length_cons]; omega, hnobody⟩
    simpa using ⟨hm, hrest⟩

/-! ## What does not change any more -/

/-- The text of a build that has ended stays as it is. -/
theorem Accounted.text_eq_of_ended (h : Accounted s tr) (timeout : Duration)
    (hb : tr.result? b ≠ none) (moves : List Move) :
    Trace.text (tr ++ s.trace moves) timeout b = tr.text timeout b := by
  refine (kept_by_run (I := fun s' tr' => Accounted s' tr' ∧ tr'.result? b ≠ none ∧
    tr'.text timeout b = tr.text timeout b) ?_ ⟨h, hb, rfl⟩ moves).2.2
  rintro s₁ tr₁ e s₂ ⟨ha, hr, htext⟩ hs
  refine ⟨ha.step hs, ?_, (ha.text_of_ended hs timeout hr).trans htext⟩
  rw [Trace.result?_append]
  exact fun hnone => hr (Option.or_eq_none_iff.1 hnone).1

/-- A build that is not live and was not given up was recorded. -/
theorem Truthful.exists_recorded (h : Truthful s tr) (hb : b ∈ tr.admitted) (hl : b ∉ s.live)
    (hd : ¬tr.Dropped b) : ∃ result, .recorded b result ∈ tr := by
  by_contra hnone
  exact hl ((h.live_iff b).2 ⟨hb, fun result hr => hnone ⟨result, hr⟩, hd⟩)

/-- The latest build of a project that is not at work was recorded, and the project has the state
that its result comes to. -/
theorem Truthful.exists_recorded_of_isTerminal (h : Truthful s tr) {p : String}
    (hp : (s.registry.get p).isTerminal = true) :
    ∃ b result, tr.latest? p = some b ∧ b ∉ s.live ∧ .recorded b result ∈ tr := by
  cases hb : tr.latest? p with
  | none =>
    rw [h.unknown p hb] at hp
    cases hp
  | some b =>
    have hrest : ¬(b ∈ s.live ∨ tr.Dropped b) := fun hc => by
      rw [h.running p b hb hc] at hp
      cases hp
    obtain ⟨hl, hd⟩ := not_or.1 hrest
    obtain ⟨result, hr⟩ := h.exists_recorded (Trace.mem_of_latest? hb).1 hl hd
    exact ⟨b, result, rfl, hl, hr⟩

/-- The latest build of a project owns its log once it is not live any more, if the log could be
opened and the build was not given up. -/
theorem Logged.owner?_eq_of_not_live (h : Logged settings disk s tr) {p : String}
    (hb : tr.latest? p = some b) (hl : b ∉ s.live) (hd : ¬tr.Dropped b)
    (hopens : ∀ cause, .unopened b cause ∉ tr) : tr.owner? p = some b := by
  refine (h.owner p b hb).resolve_right fun ⟨_, harr⟩ => hl ?_
  exact List.mem_map_of_mem (harr ⟨hopens, fun heir hc => hd ⟨_, heir, hc⟩⟩)

theorem Logged.readLog_eq_of_not_live (h : Logged settings disk s tr) {p : String}
    (hb : tr.latest? p = some b) (hl : b ∉ s.live) (hd : ¬tr.Dropped b)
    (hopens : ∀ cause, .unopened b cause ∉ tr) :
    s.readLog p = .ok (some (tr.text settings.timeout b)) :=
  h.readLog_eq (h.owner?_eq_of_not_live hb hl hd hopens)

/-! ## At rest -/

/-- What has become of a service that was told to stop in the state `s`, when `tr` had happened, and
that has come to the state `s'` since, when `more` had happened: nobody is live, all permits are
free, and every build that was under way or came later was cancelled. -/
structure Drained (settings : Settings) (s s' : Dispatcher) (tr more : Trace) : Prop where
  live : s'.live = []
  free : s'.permits.free = settings.maxBuilds
  queue : s'.permits.queue = []
  /-- A build that had not ended, or came later, was cancelled, unless its caller gave it up. -/
  cancelled : ∀ b, Unfinished s tr more b → ¬more.Dropped b → .recorded b (.ok .cancelled) ∈ more
  /-- A build that had ended, but was not yet recorded, is recorded with what it ended with. -/
  ended : ∀ b ∈ s.live, ∀ result, tr.result? b = some result → ¬more.Dropped b →
    .recorded b result ∈ more ∧ (Trace.latest? (tr ++ more) b.project = some b →
      s'.registry.get b.project = result.state)
  /-- The project of a build that had not ended, or came later, has failed, and the log of its
  latest build is what this build has written and then the line that says that it was cancelled. -/
  failed : ∀ b, Unfinished s tr more b → ∃ c, Trace.latest? (tr ++ more) b.project = some c ∧
    Unfinished s tr more c ∧ (¬more.Dropped c →
      s'.registry.get b.project = .failed ∧
      s'.readLog b.project = .ok (some (String.join
        ((Trace.written (tr ++ more) c ++
          ["[buildrunner] build cancelled: server shutting down"]).map (· ++ "\n")))))
  /-- What was at rest stays as it was, unless it is built again. -/
  kept : ∀ p, (s.registry.get p).isTerminal = true → (∀ b ∈ more.admitted, b.project ≠ p) →
    s'.registry.get p = s.registry.get p ∧ s'.readLog p = s.readLog p

/-- Where nobody is live, nobody holds a permit or waits for one. -/
theorem Allotted.permits_of_nobody (h : Allotted n s tr) (hlive : s.live = []) :
    s.permits.free = n ∧ s.permits.queue = [] := by
  have hline : s.permits.line = [] := List.eq_nil_iff_forall_not_mem.2 fun id hid => by
    have hmem := h.live id hid
    rw [hlive] at hmem
    cases hmem
  obtain ⟨hholders, hqueue⟩ := List.append_eq_nil_iff.1 hline
  have htotal := h.total
  rw [Permits.total, hholders, List.length_nil, Nat.add_zero] at htotal
  exact ⟨htotal, hqueue⟩

/-- A build that was live, or came later, and was not given up since, was not given up at all. -/
theorem Truthful.not_dropped (h : Truthful s tr)
    (hb : b ∈ s.live ∨ b ∈ (s.trace moves).admitted) (hd : ¬(s.trace moves).Dropped b) :
    ¬Trace.Dropped (tr ++ s.trace moves) b := by
  rintro ⟨stage, heir, hmem⟩
  rcases List.mem_append.1 hmem with hmem | hmem
  · rcases hb with hlive | hadmitted
    · exact ((h.live_iff b).1 hlive).2.2 ⟨stage, heir, hmem⟩
    · exact (h.accounted.rooted.unheard hadmitted).2 _ hmem rfl
  · exact hd ⟨stage, heir, hmem⟩

namespace Unfinished

theorem live_or_admitted (hb : Unfinished s tr more b) : b ∈ s.live ∨ b ∈ more.admitted :=
  hb.imp_left And.left

theorem mem_admitted (h : Rooted s tr) (hb : Unfinished s tr more b) :
    b ∈ Trace.admitted (tr ++ more) :=
  Trace.mem_admitted_append.2 (hb.live_or_admitted.imp_left (h.live b))

/-- The latest build of the project of such a build is such a build. -/
theorem exists_latest (h : Truthful s tr) (hb : Unfinished s tr more b) :
    ∃ c, Trace.latest? (tr ++ more) b.project = some c ∧ Unfinished s tr more c := by
  rw [Trace.latest?_append_run]
  cases hc : more.latest? b.project with
  | some c => exact ⟨c, rfl, .inr (Trace.mem_of_latest? hc).1⟩
  | none =>
    -- Then no build of the project came later, and the build is the only live one of it.
    have hlive := hb.resolve_right fun hadm => Trace.latest?_eq_none_iff.1 hc b hadm rfl
    exact ⟨b, h.latest b hlive.1, .inl hlive⟩

/-- If tools that end are cancelled, such a build was cancelled when it is recorded. -/
theorem eq_cancelled (h : Truthful s tr)
    (hcancel : ∀ b result, .closed b result ∈ s.trace moves → result = .ok .cancelled)
    (hopens : ∀ b cause, .unopened b cause ∉ s.trace moves)
    (hb : Unfinished s tr (s.trace moves) b) {result : BuildResult}
    (hr : .recorded b result ∈ s.trace moves) : result = .ok .cancelled := by
  obtain ⟨e, he, hend⟩ := hb.exists_end h hr
  cases e with
  | closed c r =>
    simp only [Happening.result?] at hend
    split at hend
    · rw [← Option.some.inj hend]
      exact hcancel c r he
    · cases hend
  | unopened c cause => exact absurd he (hopens c cause)
  | _ => cases hend

end Unfinished

/-- **At rest everything was cancelled.** Where nobody is live any more after a service was told to
stop, all logs could be opened, and the tools that ended since were cancelled, all builds are
accounted for. -/
theorem Logged.drained (h : Logged settings disk s tr)
    (hown : ∀ d, disk.makeDirs settings.logsDir = .ok d → LogStore.Own ⟨settings.logsDir⟩ d)
    (ha : Allotted settings.maxBuilds s tr)
    (hopens : ∀ b cause, .unopened b cause ∉ tr ++ s.trace moves)
    (hcancel : ∀ b result, .closed b result ∈ s.trace moves → result = .ok .cancelled)
    (hlive : (s.applyAll moves).live = []) :
    Drained settings s (s.applyAll moves) tr (s.trace moves) := by
  have hlater : Logged settings disk (s.applyAll moves) (tr ++ s.trace moves) :=
    kept_by_run (fun _ _ _ _ h hs => h.step hown hs) h moves
  have htruth := h.truthful
  have htruth' := hlater.truthful
  have hpermits := Allotted.permits_of_nobody
    (kept_by_run (fun _ _ _ _ h hs => h.step hs) ha moves) hlive
  have hgone : ∀ c, c ∉ (s.applyAll moves).live := fun c hc => by
    rw [hlive] at hc
    cases hc
  have hrecorded : ∀ c, Unfinished s tr (s.trace moves) c → ¬(s.trace moves).Dropped c →
      .recorded c (.ok .cancelled) ∈ s.trace moves := by
    intro c hc hd
    obtain ⟨result, hr⟩ := htruth'.exists_recorded (hc.mem_admitted htruth.accounted.rooted)
      (hgone c) (htruth.not_dropped hc.live_or_admitted hd)
    -- It was recorded, and not before the service was told to stop.
    have hmore := (List.mem_append.1 hr).resolve_left (hc.not_recorded htruth result)
    rwa [hc.eq_cancelled htruth hcancel
      (fun b cause hu => hopens b cause (List.mem_append_right _ hu)) hmore] at hmore
  refine ⟨hlive, hpermits.1, hpermits.2, hrecorded, ?_, ?_, ?_⟩
  · intro c hc result hend hd
    have hadm : c ∈ Trace.admitted (tr ++ s.trace moves) :=
      Trace.mem_admitted_append.2 (.inl ((htruth.live_iff c).1 hc).1)
    obtain ⟨r, hr⟩ := htruth'.exists_recorded hadm (hgone c) (htruth.not_dropped (.inl hc) hd)
    have hsame := htruth'.accounted.recorded c r hr
    rw [Trace.result?_append_run, hend, Option.some_or] at hsame
    obtain rfl := Option.some.inj hsame
    exact ⟨(List.mem_append.1 hr).resolve_left (((htruth.live_iff c).1 hc).2.1 result),
      fun hlatest => htruth'.ended _ c result hlatest hr⟩
  · intro b hb
    obtain ⟨c, hlatest, hc⟩ := hb.exists_latest htruth
    refine ⟨c, hlatest, hc, fun hd => ?_⟩
    have hr : .recorded c (.ok .cancelled) ∈ tr ++ s.trace moves :=
      List.mem_append_right _ (hrecorded c hc hd)
    refine ⟨htruth'.ended _ c _ hlatest hr, ?_⟩
    rw [hlater.readLog_eq_of_not_live hlatest (hgone c)
        (htruth.not_dropped hc.live_or_admitted hd) (hopens c),
      Trace.text, Trace.trailer?, htruth'.accounted.recorded c _ hr]
    rfl
  · intro p hp hnew
    obtain ⟨b, result, hlatest, hl, hr⟩ := htruth.exists_recorded_of_isTerminal hp
    have hr' : .recorded b result ∈ tr ++ s.trace moves := List.mem_append_left _ hr
    have hlatest' : Trace.latest? (tr ++ s.trace moves) p = some b := by
      rw [Trace.latest?_append_run, Trace.latest?_eq_none_iff.2 hnew, Option.none_or, hlatest]
    have hended : tr.result? b ≠ none := by
      rw [htruth.accounted.recorded b result hr]
      exact Option.some_ne_none _
    constructor
    · rw [htruth'.ended p b result hlatest' hr', htruth.ended p b result hlatest hr]
    · rw [hlater.readLog_eq_of_not_live hlatest' (hgone b) (htruth'.apart b result hr') (hopens b),
        h.readLog_eq_of_not_live hlatest hl (htruth.apart b result hr)
          (fun cause hu => hopens b cause (List.mem_append_left _ hu)),
        htruth.accounted.text_eq_of_ended settings.timeout hended moves]

end Dispatcher

end BuildService
