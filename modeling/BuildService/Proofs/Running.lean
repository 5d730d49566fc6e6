import BuildService.Proofs.Progress
/-!
Who runs, and how one state of a service comes from another.

A build runs from the call of its tool until the tool ends or the build is given up
(`Step.runs_iff`). Which moves can change this is known from their kind, and so is
which of them can add to what is before the live builds. So of a state that comes
from another one by moves of some kind (`GoesBy`), little more has to be known than
the kind.
-/

set_option autoImplicit false

namespace BuildService

namespace Dispatcher

variable {s s' s'' : Dispatcher} {tr : Trace} {e : Happening} {b c : Build} {m : Move}
  {P Q : Move → Bool}

/-! ## Who runs -/

/-- Whether the tool of a build has been called and has not ended. -/
def Runs (s : Dispatcher) (b : Build) : Prop := ∃ sink, ⟨b, .running sink⟩ ∈ s.tasks

theorem Runs.mem_live (h : s.Runs b) : b ∈ s.live :=
  h.elim fun _ ht => List.mem_map_of_mem ht

theorem Runs.exists_task? (h : s.Runs b) (hn : Numbered s) :
    ∃ sink, s.task? b.id = some ⟨b, .running sink⟩ :=
  h.imp fun _ ht => (task?_eq_some_iff hn).2 ⟨ht, rfl⟩

/-- A build starts to run by a call of its tool, and runs until the tool ends or the build is given
up. -/
theorem Step.runs_iff (hn : Numbered s) (hs : Step s e s') (c : Build) :
    s'.Runs c ↔ e = .called c ∨
      s.Runs c ∧ (∀ result, e ≠ .closed c result) ∧ ∀ stage heir, e ≠ .dropped c stage heir := by
  constructor
  · rintro ⟨sink, ht⟩
    -- It ran before and nothing happened to it, or it has come to this stage just now.
    rcases hs.mem_tasks hn ht with ⟨hmem, hother⟩ | ⟨stage, hmem, hb, hnext⟩ | ⟨-, -, harr⟩
    · refine .inr ⟨⟨sink, hmem⟩, ?_, ?_⟩
      · rintro result rfl
        exact hother rfl
      · rintro stage heir rfl
        exact hother rfl
    · cases hnext with
      | called c' sink =>
        obtain rfl := Option.some.inj hb
        exact .inl rfl
      | wrote c' line sink' => exact .inr ⟨⟨_, hmem⟩, by simp, by simp⟩
      | refused c' line cause => exact .inr ⟨⟨_, hmem⟩, by simp, by simp⟩
    · cases harr
  · rintro (rfl | ⟨⟨sink, ht⟩, hclosed, hdropped⟩)
    · cases hs with
      | called hb _ => exact ⟨_, (mem_tasks_setStage hn hb).2 (.inr rfl)⟩
    · by_cases hb : e.build? = some c
      · rcases hs.exists_next hn ht hb with ⟨stage, hnext, hmem⟩ | ⟨_, -, hstage⟩ | ⟨heir, rfl⟩
        · cases hnext with
          | wrote => exact ⟨_, hmem⟩
          | refused => exact ⟨_, hmem⟩
          | closed c' result =>
            obtain rfl := Option.some.inj hb
            exact absurd rfl (hclosed result)
        · cases hstage
        · exact absurd rfl (hdropped _ heir)
      · exact ⟨sink, hs.mem_tasks_of_ne hn ht hb⟩

/-- A tool that ends was running, and its log gets the closing line of the result. -/
theorem Step.of_closed {result : BuildResult} (hs : Step s (.closed b result) s') :
    ∃ sink, s.task? b.id = some ⟨b, .running sink⟩ ∧ s'.disk = s.trailed sink result := by
  cases hs with
  | closed ht => exact ⟨_, ht, rfl⟩

/-- A build is given up at the stage at which it is. -/
theorem Step.mem_tasks_of_dropped {stage : Stage} {heir : Option BuildId}
    (hs : Step s (.dropped b stage heir) s') : ⟨b, stage⟩ ∈ s.tasks := by
  cases hs with
  | dropped ht _ _ => exact mem_of_task? ht

/-- Who calls its tool has only asked for its permit, so the tool was not called before. -/
theorem Step.not_runs_of_called (hn : Numbered s) (hs : Step s (.called b) s') : ¬s.Runs b := by
  intro hb
  obtain ⟨sink, ht⟩ := hb.exists_task? hn
  cases hs with
  | called ht' _ =>
    rw [ht] at ht'
    cases ht'

/-- That who runs has called its tool is kept. -/
theorem Step.called_of_runs (hs : Step s e s') (hn : Numbered s)
    (h : ∀ c, s.Runs c → .called c ∈ tr) (hc : s'.Runs c) : .called c ∈ tr ++ [e] := by
  rcases (hs.runs_iff hn c).1 hc with rfl | ⟨hbefore, -⟩
  · exact List.mem_append_right _ List.mem_cons_self
  · exact List.mem_append_left _ (h c hbefore)

theorem called_of_runs (settings : Settings) (registry : Registry) (disk : Disk)
    (moves : List Move) (hb : ((start settings registry disk).applyAll moves).Runs b) :
    .called b ∈ (start settings registry disk).trace moves := by
  refine (run_induction (P := fun s tr => Numbered s ∧ ∀ c, s.Runs c → .called c ∈ tr)
    ⟨(rooted settings registry disk []).numbered, ?_⟩ ?_ moves).2 b hb
  · rintro c ⟨sink, ht⟩
    cases ht
  · rintro s tr e s' ⟨hn, hcalled⟩ hs
    exact ⟨hn.step hs, fun c => hs.called_of_runs hn hcalled⟩

/-! ## Kinds of moves -/

/-- Whether a move neither calls a tool nor ends one. -/
def Move.isQuiet : Move → Bool
  | .call _ | .close _ _ | .abandon _ => false
  | _ => true

/-- Whether a move writes a line. -/
def Move.isLine : Move → Bool
  | .writeLine _ _ => true
  | _ => false

/-- Whether a move is one of a build whose tool has been called. -/
def Move.isOnward : Move → Bool
  | .writeLine _ _ | .close _ _ | .giveBack _ | .record _ => true
  | _ => false

/-- Whether a move is one of a build on its way. -/
def Move.isInner : Move → Bool
  | .accept _ _ _ | .abandon _ | .stop => false
  | _ => true

theorem Move.isQuiet_of_isLine (h : m.isLine = true) : m.isQuiet = true := by
  cases m <;> first | rfl | cases h

theorem Move.isOnward_of_isLine (h : m.isLine = true) : m.isOnward = true := by
  cases m <;> first | rfl | cases h

theorem Move.isInner_of_isOnward (h : m.isOnward = true) : m.isInner = true := by
  cases m <;> first | rfl | cases h

/-- Builds on their way admit nobody. -/
theorem admitted_of_inner {moves : List Move} (hinner : ∀ m ∈ moves, m.isInner = true) :
    (s.trace moves).admitted = [] := by
  refine List.eq_nil_iff_forall_not_mem.2 fun c hc => ?_
  obtain ⟨before, m, after, rfl, hm⟩ := exists_move_of_mem_trace (Trace.mem_admitted.1 hc)
  have hkind := hinner m (by simp)
  rw [eq_move_of_happening? hm] at hkind
  cases hkind

theorem Numbered.apply (h : Numbered s) (m : Move) : Numbered (s.apply m) := by
  rcases step_of_happening? s m with ⟨-, hsame⟩ | ⟨e, -, hs⟩
  · rwa [hsame]
  · exact h.step hs

/-- Quiet moves leave those who run running. -/
theorem runs_apply (hn : Numbered s) (hm : m.isQuiet = true) (c : Build) :
    (s.apply m).Runs c ↔ s.Runs c := by
  rcases step_of_happening? s m with ⟨-, hsame⟩ | ⟨e, he, hs⟩
  · rw [hsame]
  · rw [hs.runs_iff hn]
    rw [eq_move_of_happening? he] at hm
    cases e <;> simp [Happening.move, Move.isQuiet] at hm ⊢

/-- A build that is finished does not run any more; all others do as before. -/
theorem runs_finish (hn : Numbered s) (hb : s.Runs b) (result : BuildResult) (c : Build) :
    (s.finish b.id result).Runs c ↔ s.Runs c ∧ c ≠ b := by
  obtain ⟨sink, ht⟩ := hb.exists_task? hn
  have hclose := step_apply (happening?_close ht result)
  have hfinish : s.finish b.id result =
      ((s.apply (.close b.id result)).apply (.giveBack b.id)).apply (.record b.id) := rfl
  have hn₁ := hn.apply (.close b.id result)
  -- Only the first of the three moves is not quiet.
  rw [hfinish, runs_apply (hn₁.apply _) rfl, runs_apply hn₁ rfl, hclose.runs_iff hn]
  simp [eq_comm]

theorem Runs.id_eq_iff (hb : s.Runs b) (hn : Numbered s) (hc : s.Runs c) : c.id = b.id ↔ c = b :=
  ⟨fun hid => List.inj_on_of_nodup_map hn.nodup hc.mem_live hb.mem_live hid, congrArg Build.id⟩

/-- A build that its caller may give up, and does, does not run any more; all others do as
before. -/
theorem runs_abandon (hn : Numbered s) {id : BuildId}
    (hawaited : ∀ b ∈ s.live, b.id = id → b.awaited = true) (c : Build) :
    (s.abandon id).Runs c ↔ s.Runs c ∧ c.id ≠ id := by
  have habandon : s.abandon id = s.apply (.abandon id) := rfl
  rw [habandon]
  rcases step_of_happening? s (.abandon id) with ⟨hnone, hsame⟩ | ⟨e, he, hs⟩
  · rw [hsame]
    refine ⟨fun hc => ⟨hc, ?_⟩, And.left⟩
    -- A build of this number that ran could be given up.
    rintro rfl
    obtain ⟨sink, ht⟩ := hc.exists_task? hn
    simp [happening?, ht, hawaited c hc.mem_live rfl, Stage.isLeaving] at hnone
  · have hmove := eq_move_of_happening? he
    cases e with
    | dropped b stage heir =>
      cases hmove
      rw [hs.runs_iff hn]
      have hb : b ∈ s.live := (hs.mem_live rfl).resolve_right (by simp)
      have hother : s.Runs c → (c.id ≠ b.id ↔ b ≠ c) := fun hc => not_congr
        ⟨fun hid => (List.inj_on_of_nodup_map hn.nodup hc.mem_live hb hid).symm,
          fun he => he ▸ rfl⟩
      constructor
      · rintro (hc | ⟨hc, -, hne⟩)
        · cases hc
        · exact ⟨hc, (hother hc).2 fun he => hne stage heir (he ▸ rfl)⟩
      · rintro ⟨hc, hid⟩
        refine .inr ⟨hc, by simp, fun stage' heir' he => (hother hc).1 hid ?_⟩
        cases he
        rfl
    | _ => cases hmove

/-- Only to be told to stop sets the flag. -/
theorem Step.stopping_eq (hs : Step s e s') (he : e ≠ .stopped) : s'.stopping = s.stopping := by
  cases hs with
  | stopped => exact absurd rfl he
  | _ => rfl

theorem stopping_apply (hm : m ≠ .stop) : (s.apply m).stopping = s.stopping := by
  rcases step_of_happening? s m with ⟨-, hsame⟩ | ⟨e, he, hs⟩
  · rw [hsame]
  · refine hs.stopping_eq ?_
    rintro rfl
    exact hm (eq_move_of_happening? he)

/-- By which nobody is admitted, nobody comes to have more before it. -/
theorem ahead_apply_le (hn : Numbered s) (hm : m.isInner = true) :
    (s.apply m).ahead ≤ s.ahead := by
  rcases step_of_happening? s m with ⟨-, hsame⟩ | ⟨e, he, hs⟩
  · exact Nat.le_of_eq (congrArg ahead hsame)
  · have haccount := hs.ahead_add_lost hn
    rw [eq_move_of_happening? he] at hm
    have hgained : e.gained = 0 := by
      cases e <;> simp [Happening.move, Move.isInner, Happening.gained] at hm ⊢
    omega

/-- What brings a build nearer to its end leaves less before all of them. -/
theorem ahead_apply_lt (hn : Numbered s) (he : s.happening? m = some e) (hadv : e.advances = true) :
    (s.apply m).ahead < s.ahead := by
  have haccount := (step_apply he).ahead_add_lost hn
  rw [Happening.gained_eq_zero_of_advances hadv] at haccount
  have hlost : 0 < e.lost := of_decide_eq_true hadv
  omega

/-! ## Going on by moves of a kind -/

/-- A state comes from another one by moves of a kind. -/
def GoesBy (P : Move → Bool) (s s' : Dispatcher) : Prop :=
  ∃ moves, (∀ m ∈ moves, P m = true) ∧ s' = s.applyAll moves

namespace GoesBy

theorem refl (P : Move → Bool) (s : Dispatcher) : GoesBy P s s := ⟨[], by simp, rfl⟩

theorem one (hm : P m = true) : GoesBy P s (s.apply m) := ⟨[m], by simpa using hm, rfl⟩

theorem trans (h : GoesBy P s s') (h' : GoesBy P s' s'') : GoesBy P s s'' := by
  obtain ⟨ms, hms, rfl⟩ := h
  obtain ⟨ms', hms', rfl⟩ := h'
  exact ⟨ms ++ ms', List.forall_mem_append.2 ⟨hms, hms'⟩, (applyAll_append _ _ _).symm⟩

theorem mono (h : GoesBy P s s') (hPQ : ∀ m, P m = true → Q m = true) : GoesBy Q s s' :=
  h.imp fun _ hms => hms.imp_left fun hP m hm => hPQ m (hP m hm)

theorem finish {id : BuildId} {result : BuildResult} (hclose : P (.close id result) = true)
    (hgive : P (.giveBack id) = true) (hrecord : P (.record id) = true) :
    GoesBy P s (s.finish id result) :=
  ((one hclose).trans (one hgive)).trans (one hrecord)

/-- What moves of the kind keep is kept. -/
theorem keeps {I : Dispatcher → Prop} (h : GoesBy P s s') (hI : I s)
    (step : ∀ s m, I s → P m = true → I (s.apply m)) : I s' := by
  obtain ⟨ms, hms, rfl⟩ := h
  induction ms generalizing s with
  | nil => exact hI
  | cons m ms ih =>
    obtain ⟨hm, hms⟩ := List.forall_mem_cons.1 hms
    exact ih (step s m hI hm) hms

/-- What holds of every run holds of one that ends here. -/
theorem exists_trace {I : Dispatcher → Trace → Prop} (h : GoesBy P s s')
    (hI : ∀ moves, I (s.applyAll moves) (s.trace moves)) : ∃ tr, I s' tr := by
  obtain ⟨moves, -, rfl⟩ := h
  exact ⟨_, hI moves⟩

theorem numbered (h : GoesBy P s s') (hn : Numbered s) : Numbered s' :=
  h.keeps hn fun _ m hn _ => hn.apply m

theorem runs_iff (h : GoesBy Move.isQuiet s s') (hn : Numbered s) (c : Build) :
    s'.Runs c ↔ s.Runs c :=
  (h.keeps (I := fun s' => Numbered s' ∧ (s'.Runs c ↔ s.Runs c)) ⟨hn, .rfl⟩
    fun _ m hI hm => ⟨hI.1.apply m, (runs_apply hI.1 hm c).trans hI.2⟩).2

theorem stopping_eq (h : GoesBy P s s') (hP : P .stop = false) : s'.stopping = s.stopping :=
  h.keeps (I := fun s' => s'.stopping = s.stopping) rfl fun s₁ m hI hm => by
    rw [stopping_apply, hI]
    rintro rfl
    rw [hP] at hm
    cases hm

theorem ahead_le (h : GoesBy Move.isInner s s') (hn : Numbered s) : s'.ahead ≤ s.ahead :=
  (h.keeps (I := fun s' => Numbered s' ∧ s'.ahead ≤ s.ahead) ⟨hn, Nat.le_refl _⟩
    fun _ m hI hm => ⟨hI.1.apply m, Nat.le_trans (ahead_apply_le hI.1 hm) hI.2⟩).2

/-- Who is live then was live before, if nobody is admitted. -/
theorem live_subset (h : GoesBy Move.isInner s s') (hb : b ∈ s'.live) : b ∈ s.live := by
  refine h.keeps (I := fun s' => b ∈ s'.live → b ∈ s.live) id (fun s₁ m hI hm hb => ?_) hb
  rcases step_of_happening? s₁ m with ⟨-, hsame⟩ | ⟨e, he, hs⟩
  · exact hI (hsame ▸ hb)
  · refine hI ((hs.live_subset hb).resolve_right ?_)
    rintro rfl
    rw [eq_move_of_happening? he] at hm
    cases hm

end GoesBy

/-- Who is admitted is live then, and is waited for if it was asked for so. -/
theorem of_accept {awaited : Bool} {platform : Platform} {r : Request}
    (h : s.accept awaited platform r = .ok (b, s')) :
    s.apply (.accept awaited platform r) = s' ∧ b.awaited = awaited ∧ b ∈ s'.live := by
  refine ⟨by simp only [apply, h], ?_⟩
  unfold accept at h
  split at h
  · cases h
  · cases h
    exact ⟨rfl, by simp [live]⟩

theorem Step.id_of_admitted (hs : Step s (.admitted b) s') : b.id = s.nextId := by
  cases hs with
  | admitted hid _ => exact hid

theorem eq_of_accept {awaited : Bool} {platform : Platform} {r : Request}
    (h : s.accept awaited platform r = .ok (b, s')) : b = ⟨s.nextId, r, awaited⟩ := by
  unfold accept at h
  split at h <;> cases h
  rfl

theorem step_of_accept {awaited : Bool} {platform : Platform} {r : Request}
    (h : s.accept awaited platform r = .ok (b, s')) : Step s (.admitted b) s' := by
  have hm : s.happening? (.accept awaited platform r) = some (.admitted b) := by
    simp only [happening?, h]
  exact (of_accept h).1 ▸ step_apply hm

/-! ## What can move -/

theorem of_nextMove? {t : Task} (h : s.nextMove? = some (t, m)) :
    t ∈ s.tasks ∧ moveOf? t = some m := by
  obtain ⟨u, hu, hm⟩ := List.exists_of_findSome?_eq_some h
  obtain ⟨m', hm', heq⟩ := Option.map_eq_some_iff.1 hm
  cases heq
  exact ⟨hu, hm'⟩

theorem moveOf?_eq_none_of_nextMove? {t : Task} (h : s.nextMove? = none) (ht : t ∈ s.tasks) :
    moveOf? t = none :=
  Option.map_eq_none_iff.1 (List.findSome?_eq_none_iff.1 h t ht)

theorem mem_ready_iff {t : Task} :
    t ∈ s.ready ↔
      s.task? t.build.id = some t ∧ t.stage.isAsking = true ∧ t.build.id ∈ s.permits.holders := by
  simp only [ready, List.mem_filter, List.mem_filterMap]
  constructor
  · rintro ⟨⟨id, hid, ht⟩, hstage⟩
    obtain rfl := id_of_task? ht
    exact ⟨ht, hstage, hid⟩
  · rintro ⟨ht, hstage, hid⟩
    exact ⟨⟨_, hid, ht⟩, hstage⟩

end Dispatcher

end BuildService
