import BuildService.Proofs.Awaiting
/-!
Two ways to have a build made: to wait for it, or not to.

A caller who waits is told how the build ended; one who does not can only look at
the registry and the log. Both are admitted by the same move but for what `Awaiting`
takes away, so what is left to say is what the caller who waits is told.
`EndsWith` says where it comes from: from the tool, or from the log that could not
be opened, and the closing line and the recorded state are those of this result.
That the result stands in the endings says that it was recorded for a build of this
number; `Filed` says that there is only one.
-/

set_option autoImplicit false

namespace BuildService

namespace Dispatcher

variable {settings : Settings} {registry : Registry} {disk : Disk} {s s₁ : Dispatcher}
  {tr : Trace} {e : Happening} {b : Build} {result : BuildResult}

/-! ## Single steps -/

theorem Step.of_unopened {cause : IoFault} (hs : Step s (.unopened b cause) s₁) :
    s.task? b.id = some ⟨b, .arrived⟩ ∧
      ∃ disk, s.logs.reset s.disk b.project = (.error cause, disk) := by
  cases hs with
  | unopened ht hr => exact ⟨ht, _, hr⟩

/-- The job of a build that is recorded goes from running to the state of its result. -/
theorem Step.get_of_recorded (hs : Step s (.recorded b result) s₁) (hocc : Occupied s) :
    s.registry.get b.project = .running ∧ s₁.registry.get b.project = result.state := by
  cases hs with
  | recorded ht =>
    -- A live build keeps its project running, so the registry takes its end.
    have hrunning := hocc.running b (mem_live_of_task? ht)
    exact ⟨hrunning,
      (Registry.get_complete result.state_isTerminal hrunning b.project).trans (if_pos rfl)⟩

/-! ## What is on file -/

/-- The endings are those of the builds that were recorded, and these have numbers of their own and
are not live any more. -/
structure Filed (s : Dispatcher) (tr : Trace) : Prop where
  accounted : Accounted s tr
  nodup : (tr.admitted.map (·.id)).Nodup
  recorded : ∀ x ∈ s.endings, ∃ b, b.id = x.1 ∧ .recorded b x.2 ∈ tr
  gone : ∀ b result, .recorded b result ∈ tr → b ∉ s.live

namespace Filed

theorem step (h : Filed s tr) (hs : Step s e s₁) : Filed s₁ (tr ++ [e]) := by
  refine ⟨h.accounted.step hs, ?_, ?_, ?_⟩
  · rw [Trace.admitted_append, List.map_append]
    cases hs with
    | @admitted b _ _ hid _ =>
      refine List.nodup_append.2 ⟨h.nodup, List.nodup_singleton _, ?_⟩
      -- The number of the new build is greater than all that were given.
      rintro i hi j hj rfl
      obtain ⟨c, hc, rfl⟩ := List.mem_map.1 hi
      have hlt : c.id < s.nextId := h.accounted.rooted.below c hc
      exact Nat.ne_of_lt hlt ((List.mem_singleton.1 hj).trans hid)
    | _ => simpa [Happening.admitted?] using h.nodup
  · intro x hx
    have hold : x ∈ s.endings → ∃ b, b.id = x.1 ∧ .recorded b x.2 ∈ tr ++ [e] := fun hx =>
      (h.recorded x hx).imp fun _ hb => hb.imp_right (List.mem_append_left _)
    cases hs with
    | @recorded b result _ =>
      rcases List.mem_append.1 hx with hx | hx
      · exact hold hx
      · obtain rfl := List.mem_singleton.1 hx
        exact ⟨b, rfl, List.mem_append_right _ List.mem_cons_self⟩
    | _ => exact hold hx
  · intro b result hr hl
    rcases List.mem_append.1 hr with hbefore | hnow
    · refine h.gone b result hbefore ((hs.live_subset hl).resolve_right ?_)
      rintro rfl
      exact (h.accounted.rooted.fresh hs.id_of_admitted).2 (.recorded b result) hbefore rfl
    · obtain rfl := List.mem_singleton.1 hnow
      cases hs with
      | recorded _ =>
        rw [live_dismiss] at hl
        simpa using (List.mem_filter.1 hl).2

/-- The ending that is found under a number is that of the build of this number. -/
theorem recorded_of_ending? (h : Filed s tr) (hb : b ∈ tr.admitted)
    (hend : s.ending? b.id = some result) : .recorded b result ∈ tr := by
  obtain ⟨x, hx, rfl⟩ := Option.map_eq_some_iff.1 hend
  obtain ⟨c, hid, hc⟩ := h.recorded x (List.mem_of_find?_eq_some hx)
  have hfound : x.1 = b.id := by simpa using List.find?_some hx
  have hadmitted := h.accounted.rooted.mentioned _ hc c rfl
  rwa [List.inj_on_of_nodup_map h.nodup hadmitted hb (hid.trans hfound)] at hc

end Filed

theorem filed (settings : Settings) (registry : Registry) (disk : Disk) (moves : List Move) :
    Filed ((start settings registry disk).applyAll moves)
      ((start settings registry disk).trace moves) :=
  run_induction ⟨accounted settings registry disk [], by simp [Trace.admitted], by simp [start],
    by simp⟩ (fun _ _ _ _ h hs => h.step hs) moves

/-! ## Where a result comes from -/

/-- How a build comes to its end by some moves: its result is what its tool reports, or the fault
for which its log could not be opened; the line that closes its log is that of this result; and so
is the state that is recorded. -/
structure EndsWith (s : Dispatcher) (b : Build) (moves : List Move) (result : BuildResult) :
    Prop where
  reported :
    (∃ before after sink, moves = before ++ .close b.id result :: after ∧
      (s.applyAll before).task? b.id = some ⟨b, .running sink⟩ ∧
      (s.applyAll (before ++ [.close b.id result])).disk =
        (s.applyAll before).trailed sink result) ∨
    ∃ before after cause disk, moves = before ++ .openLog b.id :: after ∧
      (s.applyAll before).task? b.id = some ⟨b, .arrived⟩ ∧
      (s.applyAll before).logs.reset (s.applyAll before).disk b.project = (.error cause, disk) ∧
      result = .error (.io cause)
  recorded : ∃ before after, moves = before ++ .record b.id :: after ∧
    (s.applyAll before).registry.get b.project = .running ∧
    (s.applyAll (before ++ [.record b.id])).registry.get b.project = result.state

/-- What is recorded of a build comes about after its admission. -/
theorem endsWith_of_recorded (hfiled : Filed s tr) (hocc : Occupied s)
    (hnew : ∀ e ∈ tr, e.build? = some b → e = .admitted b) {later : List Move}
    (hr : .recorded b result ∈ tr ++ s.trace later) : EndsWith s b later result := by
  have hlater : ∀ e : Happening, e.build? = some b → e ≠ .admitted b → e ∈ tr ++ s.trace later →
      ∃ before m after, later = before ++ m :: after ∧
        (s.applyAll before).happening? m = some e := fun e hb hne he =>
    exists_move_of_mem_trace ((List.mem_append.1 he).resolve_left fun he => hne (hnew e he hb))
  have hend := (kept_by_run (fun _ _ _ _ h hs => h.step hs) hfiled later).accounted.recorded b _ hr
  constructor
  · obtain ⟨e, he, hres⟩ := List.exists_of_findSome?_eq_some hend
    cases e with
    | closed c result' =>
      obtain ⟨rfl, hresult⟩ : c = b ∧ some result' = some result := by
        simpa only [Happening.result?, Option.ite_none_right_eq_some] using hres
      obtain rfl := Option.some.inj hresult
      obtain ⟨before, m, after, rfl, hm⟩ := hlater (.closed c result') rfl (by simp) he
      obtain rfl : m = .close c.id result' := eq_move_of_happening? hm
      obtain ⟨sink, ht, hdisk⟩ := (step_apply hm).of_closed
      exact .inl ⟨before, after, sink, rfl, ht, by rw [applyAll_append_one, hdisk]⟩
    | unopened c cause =>
      obtain ⟨rfl, hresult⟩ : c = b ∧ some (.error (.io cause)) = some result := by
        simpa only [Happening.result?, Option.ite_none_right_eq_some] using hres
      obtain ⟨before, m, after, rfl, hm⟩ := hlater (.unopened c cause) rfl (by simp) he
      obtain rfl : m = .openLog c.id := eq_move_of_happening? hm
      obtain ⟨ht, d, hreset⟩ := (step_apply hm).of_unopened
      exact .inr ⟨before, after, cause, d, rfl, ht, hreset, (Option.some.inj hresult).symm⟩
    | _ => cases hres
  · obtain ⟨before, m, after, rfl, hm⟩ := hlater (.recorded b result) rfl (by simp) hr
    obtain rfl : m = .record b.id := eq_move_of_happening? hm
    have hbefore : Occupied (s.applyAll before) :=
      @kept_by_run (fun s _ => Occupied s) (fun _ _ _ _ h hs => h.step hs) s tr hocc before
    refine ⟨before, after, rfl, ?_⟩
    rw [applyAll_append_one]
    exact (step_apply hm).get_of_recorded hbefore

/-! ## Admitted with and without a caller who waits -/

/-- What is known of a build right after its admission. -/
structure Fresh (s : Dispatcher) (tr : Trace) (b : Build) : Prop where
  filed : Filed s tr
  occupied : Occupied s
  admitted : b ∈ tr.admitted
  unheard : ∀ e ∈ tr, e.build? = some b → e = .admitted b
  below : b.id < s.nextId

namespace Fresh

theorem of_accept {moves : List Move} {awaited : Bool} {platform : Platform} {r : Request}
    (h : ((start settings registry disk).applyAll moves).accept awaited platform r = .ok (b, s₁)) :
    Fresh s₁ ((start settings registry disk).trace moves ++ [.admitted b]) b := by
  have hs := step_of_accept h
  have hfiled := Dispatcher.filed settings registry disk moves
  have hfresh := hfiled.accounted.rooted.fresh hs.id_of_admitted
  have hfiled' := hfiled.step hs
  have hadmitted : b ∈ Trace.admitted
      ((start settings registry disk).trace moves ++ [.admitted b]) :=
    Trace.mem_admitted.2 (List.mem_append_right _ List.mem_cons_self)
  refine ⟨hfiled', (Dispatcher.occupied settings registry disk moves).step hs, hadmitted, ?_,
    hfiled'.accounted.rooted.below b hadmitted⟩
  intro e he hb
  rcases List.mem_append.1 he with he | he
  · exact absurd hb (hfresh.2 e he)
  · exact List.mem_singleton.1 he

variable {later : List Move}

/-- A build with an ending was recorded. -/
theorem recorded (h : Fresh s tr b) (hend : (s.applyAll later).ending? b.id = some result) :
    .recorded b result ∈ tr ++ s.trace later :=
  (kept_by_run (fun _ _ _ _ h hs => h.step hs) h.filed later).recorded_of_ending?
    (Trace.mem_admitted_append.2 (.inl h.admitted)) hend

theorem endsWith (h : Fresh s tr b) (hend : (s.applyAll later).ending? b.id = some result) :
    EndsWith s b later result :=
  endsWith_of_recorded h.filed h.occupied h.unheard (h.recorded hend)

/-- No live build has the number of a build with an ending. -/
theorem id_ne (h : Fresh s tr b) (hend : (s.applyAll later).ending? b.id = some result) :
    ∀ c ∈ (s.applyAll later).live, c.id ≠ b.id := by
  have hfiled := kept_by_run (fun _ _ _ _ h hs => h.step hs) h.filed later
  intro c hc hid
  have hadmitted : b ∈ Trace.admitted (tr ++ s.trace later) :=
    Trace.mem_admitted_append.2 (.inl h.admitted)
  have hlive := hfiled.accounted.rooted.live c hc
  rw [List.inj_on_of_nodup_map hfiled.nodup hlive hadmitted hid] at hc
  exact hfiled.gone b result (h.recorded hend) hc

end Fresh

/-- A build that is waited for to its end is built like one that nobody waits for. -/
theorem applyAll_of_accept {moves later : List Move} {platform : Platform} {r : Request}
    (h : ((start settings registry disk).applyAll moves).accept true platform r = .ok (b, s₁))
    (hm : ∀ m ∈ later, m ≠ .abandon b.id)
    (hend : (s₁.applyAll later).ending? b.id = some result) :
    (s₁.unawait b.id).applyAll later = s₁.applyAll later ∧ EndsWith s₁ b later result := by
  have hfresh := Fresh.of_accept h
  rw [applyAll_unawait hfresh.below hm]
  exact ⟨unawait_eq (hfresh.id_ne hend), hfresh.endsWith hend⟩

/-- Until the next admission the project of a build that has an ending is in the state of its
result. -/
theorem get_of_inner {moves later : List Move} {platform : Platform} {r : Request}
    (h : ((start settings .empty disk).applyAll moves).accept true platform r = .ok (b, s₁))
    (hinner : ∀ m ∈ later, m.isInner = true)
    (hend : (s₁.applyAll later).ending? b.id = some result) :
    (s₁.applyAll later).registry.get b.project = result.state := by
  have htruth := kept_by_run (fun _ _ _ _ h hs => h.step hs)
    ((truthful settings disk moves).step (step_of_accept h)) later
  have hnone : (s₁.trace later).latest? b.project = none := by
    rw [Trace.latest?_eq_none_iff, admitted_of_inner hinner]
    exact fun c hc => absurd hc List.not_mem_nil
  refine htruth.ended b.project b result ?_ ((Fresh.of_accept h).recorded hend)
  rw [Trace.latest?_append_run, hnone, Option.none_or, Trace.latest?_append_admitted, if_pos rfl]

end Dispatcher

namespace Rehearsal

open Dispatcher

variable {settings : Settings} {disk : Disk} {s : Rehearsal} {b : Build} {d : Dispatcher}
  {platform : Platform} {r : Request} {result : BuildResult}

/-- What comes of a submission, said by what comes of the same with a caller who waits. -/
theorem submit_eq (hstaged : Staged none s) (h : s.service.accept true platform r = .ok (b, d)) :
    s.submit platform r = (.ok (), { s with service := d }.settle.unawait b.id) := by
  have hid : b.id = s.service.nextId := congrArg Build.id (eq_of_accept h)
  have hold : s.unawait b.id = s := unawait_eq hstaged fun c hc =>
    Nat.ne_of_lt (hid ▸ hstaged.numbered.below c hc)
  have hheld : s.held.map (Held.unawait b.id) = s.held := congrArg held hold
  have hsame : ({ s with service := d.unawait b.id } : Rehearsal) =
      ({ s with service := d } : Rehearsal).unawait b.id := by simp only [unawait, hheld]
  simp only [submit, accept_false hstaged.numbered h, hsame, settle_unawait]

/-- What a caller who waits is told, and what a caller who does not could find out. -/
theorem execute_eq_iff (hstaged : Staged none s)
    (h : s.service.accept true platform r = .ok (b, d)) :
    (s.execute platform r).1 = .ok (some result) ↔
      (s.submit platform r).2.service.ending? b.id = some result := by
  have hend : ({ s with service := d }.settle.unawait b.id).service.ending? b.id =
      { s with service := d }.settle.service.ending? b.id := rfl
  rw [submit_eq hstaged h, hend]
  simp only [execute, h]
  cases { s with service := d }.settle.service.ending? b.id <;> simp

/-- If the build comes to its end, both leave the same state. -/
theorem execute_of_ending (hstaged : Staged none s) {moves : List Move}
    (hmoves : s.service = (Dispatcher.start settings .empty disk).applyAll moves)
    (h : s.service.accept true platform r = .ok (b, d))
    (hend : (s.execute platform r).1 = .ok (some result)) :
    s.submit platform r = (.ok (), (s.execute platform r).2) ∧
      ∃ later, (∀ m ∈ later, m.isInner = true) ∧
        (s.execute platform r).2.service = d.applyAll later ∧ EndsWith d b later result ∧
        (s.execute platform r).2.service.registry.get r.projectId = result.state := by
  have hadmitted : Staged none { s with service := d } := by
    rw [← (Dispatcher.of_accept h).1]
    exact hstaged.quiet (.one rfl)
  obtain ⟨hrest, -, later, hinner, hlater⟩ := hadmitted.settle
  have hresult : { s with service := d }.settle.service.ending? b.id = some result := by
    have := (execute_eq_iff hstaged h).1 hend
    rwa [submit_eq hstaged h] at this
  have hexecute : (s.execute platform r).2 = { s with service := d }.settle := by
    simp only [execute, h, hresult]
  rw [hlater] at hresult
  rw [hmoves] at h
  have hid := (Fresh.of_accept h).id_ne hresult
  rw [← hlater] at hid
  refine ⟨?_, later, hinner, by rw [hexecute, hlater], (Fresh.of_accept h).endsWith hresult, ?_⟩
  · rw [submit_eq hstaged (hmoves ▸ h), unawait_eq hrest hid, hexecute]
  · have hproject : r.projectId = b.project := by rw [eq_of_accept h]; rfl
    rw [hexecute, hlater, hproject]
    exact get_of_inner h hinner hresult

end Rehearsal

/-- **To wait for a build or not makes no difference to what is built.** Whatever the disk and the
settings:
- in every reachable state, whatever the registry held at the start, a request is admitted with a
  caller who waits exactly if it is without one, and is refused with the same fault; if it is
  admitted then, whatever happens afterwards, as long as the caller waits: once the build has an
  ending, the two states are equal, with the registry, the disk, the permits and the calls; and the
  ending is what the tool reported, or the fault for which the log could not be opened, and the
  closing line and the recorded state are those of this result;
- in every rehearsal, so in every settled state that scripts lead to, submitting a request and
  executing it are refused with the same fault and change nothing then; executing it gives a result
  exactly if the build that is submitted has this ending when nothing moves any more; and then the
  two rehearsals are equal, the result came about as above, and the project is in its state. -/
theorem submit_and_execute_agree (settings : Settings) (disk : Disk) :
    (∀ (registry : Registry) (moves : List Dispatcher.Move) (platform : Platform) (r : Request),
      let s := (Dispatcher.start settings registry disk).applyAll moves
      (∀ e, s.accept true platform r = .error e ↔ s.accept false platform r = .error e) ∧
      ∀ b s₁, s.accept true platform r = .ok (b, s₁) →
        ∃ s₂, s.accept false platform r = .ok ({ b with awaited := false }, s₂) ∧
        ∀ later result, (∀ m ∈ later, m ≠ .abandon b.id) →
          (s₁.applyAll later).ending? b.id = some result →
          s₂.applyAll later = s₁.applyAll later ∧ Dispatcher.EndsWith s₁ b later result) ∧
    ∀ (gate : Gate) (fallback : Script) (occasions : List Rehearsal.Occasion)
      (platform : Platform) (r : Request),
      let s := (Rehearsal.start settings disk gate fallback).occurAll occasions
      (∀ e, (s.execute platform r).1 = .error e ↔ (s.submit platform r).1 = .error e) ∧
      (∀ e, (s.submit platform r).1 = .error e →
        (s.execute platform r).2 = s ∧ (s.submit platform r).2 = s) ∧
      ∀ result, ((s.execute platform r).1 = .ok (some result) ↔
          (s.submit platform r).1 = .ok () ∧
            (s.submit platform r).2.service.ending? s.service.nextId = some result) ∧
        ((s.execute platform r).1 = .ok (some result) →
          (s.execute platform r).2 = (s.submit platform r).2 ∧
          ∃ b d later, s.service.accept true platform r = .ok (b, d) ∧
            (∀ m ∈ later, m.isInner = true) ∧
            (s.execute platform r).2.service = d.applyAll later ∧
            Dispatcher.EndsWith d b later result ∧
            (s.execute platform r).2.service.registry.get r.projectId = result.state) := by
  refine ⟨fun registry moves platform r => ?_, fun gate fallback occasions platform r => ?_⟩
  · intro s
    refine ⟨fun e => ?_, fun b s₁ h => ?_⟩
    · rw [Dispatcher.accept_eq_error_iff, Dispatcher.accept_eq_error_iff]
    · have hn := (Dispatcher.rooted settings registry disk moves).numbered
      refine ⟨s₁.unawait b.id, ?_, fun later result hm hend => ?_⟩
      · rw [Dispatcher.accept_false hn h, Build.unawait, if_pos rfl]
      · exact Dispatcher.applyAll_of_accept h hm hend
  · intro s
    have hrests := Rehearsal.rests_occurAll settings disk gate fallback occasions
    obtain ⟨moves, -, hmoves⟩ := hrests.reached
    refine ⟨fun e => ?_, fun e he => ?_, fun result => ?_⟩
    · rw [Rehearsal.execute_eq_error_iff, Rehearsal.submit_eq_error_iff]
    · have hrefused := Rehearsal.submit_eq_error_iff.1 he
      rw [Rehearsal.execute_of_refused hrefused, Rehearsal.submit_of_refused hrefused]
      exact ⟨rfl, rfl⟩
    cases hacc : s.service.accept true platform r with
    | error e =>
      have hrefused := (Dispatcher.accept_eq_error_iff true).1 hacc
      simp [Rehearsal.execute_of_refused hrefused, Rehearsal.submit_of_refused hrefused]
    | ok x =>
      obtain ⟨b, d⟩ := x
      have hid : b.id = s.service.nextId := congrArg Build.id (Dispatcher.eq_of_accept hacc)
      refine ⟨?_, fun hend => ?_⟩
      · rw [Rehearsal.execute_eq_iff hrests.staged hacc, hid,
          Rehearsal.submit_eq hrests.staged hacc]
        simp
      · obtain ⟨hsubmit, later, hinner, hlater, hends, hstate⟩ :=
          Rehearsal.execute_of_ending hrests.staged hmoves hacc hend
        rw [hsubmit]
        exact ⟨rfl, b, d, later, rfl, hinner, hlater, hends, hstate⟩

end BuildService
