import BuildService.Proofs.Drain
import BuildService.Proofs.Rehearsals
/-!
A service that is told to stop drains, in whatever order things happen and in every
rehearsal of gated scripts.

What `Drain` says of all runs has two assumptions about the tools: that those that
end were cancelled, and that things went on until nobody could go on. Scripts that
wait at a gate are tools of this kind. Once the service is told to stop, no gate lets
anybody through any more, a run that comes to a gate is cancelled there, and those that
waited already are cancelled one after the other (`Closing.next?`). So a rehearsal
that is told to stop has nobody live when it comes to rest, and the same holds after
everything that comes from outside later (`Closing.react`).
-/

set_option autoImplicit false

namespace BuildService

namespace Dispatcher

variable {s s' : Dispatcher} {e : Happening} {b : Build} {moves : List Move} {P : Move → Bool}

/-- Whether a move gives nobody up, and cancels the tool if it ends one. -/
def Move.isCancelling : Move → Bool
  | .close _ result => result = .ok .cancelled
  | .abandon _ => false
  | _ => true

theorem Move.isCancelling_of_isQuiet {m : Move} (h : m.isQuiet = true) : m.isCancelling = true := by
  cases m <;> first | rfl | cases h

section

variable (h : ∀ m ∈ moves, m.isCancelling = true)
include h

theorem eq_cancelled_of_closed {result : BuildResult} (hb : .closed b result ∈ s.trace moves) :
    result = .ok .cancelled := by
  obtain ⟨before, m, after, rfl, he⟩ := exists_move_of_mem_trace hb
  have hm := h m (List.mem_append_right _ List.mem_cons_self)
  rw [eq_move_of_happening? he] at hm
  exact of_decide_eq_true hm

theorem not_dropped_of_isCancelling (b : Build) : ¬(s.trace moves).Dropped b := by
  rintro ⟨stage, heir, hb⟩
  obtain ⟨before, m, after, rfl, he⟩ := exists_move_of_mem_trace hb
  have hm := h m (List.mem_append_right _ List.mem_cons_self)
  rw [eq_move_of_happening? he] at hm
  cases hm

end

theorem GoesBy.stopping (h : GoesBy P s s') (hs : s.stopping = true) : s'.stopping = true :=
  h.keeps (I := fun s => s.stopping = true) hs fun _ m hs _ => stopping_applyAll hs [m]

theorem Step.endings_subset (hs : Step s e s') : s.endings ⊆ s'.endings := by
  cases hs with
  | recorded => exact List.subset_append_left _ _
  | _ => exact List.Subset.refl _

/-- A live build that is not given up stays live until its end is recorded. -/
theorem Step.live_or_ending (hn : Numbered s) (hs : Step s e s') (hb : b ∈ s.live)
    (hd : ∀ stage heir, e ≠ .dropped b stage heir) :
    b ∈ s'.live ∨ ∃ result, (b.id, result) ∈ s'.endings := by
  obtain ⟨t, hmem, rfl⟩ := List.mem_map.1 hb
  have ht : ⟨t.build, t.stage⟩ ∈ s.tasks := hmem
  by_cases he : e.build? = some t.build
  · rcases hs.exists_next hn ht he with ⟨stage', -, ht'⟩ | ⟨result, rfl, -⟩ | ⟨heir, rfl⟩
    · exact .inl (List.mem_map.2 ⟨_, ht', rfl⟩)
    · cases hs with
      | recorded _ => exact .inr ⟨result, List.mem_append_right _ (List.mem_singleton_self _)⟩
    · exact absurd rfl (hd t.stage heir)
  · exact .inl (List.mem_map_of_mem (hs.mem_tasks_of_ne hn ht he))

/-- Who was live and was not given up has an end once nobody is live any more. -/
theorem GoesBy.exists_ending (h : GoesBy Move.isCancelling s s') (hn : Numbered s)
    (hb : b ∈ s.live) (hnobody : s'.tasks = []) : ∃ result, s'.ending? b.id = some result := by
  have hend : Numbered s' ∧ (b ∈ s'.live ∨ ∃ result, (b.id, result) ∈ s'.endings) := by
    refine h.keeps (I := fun s' => Numbered s' ∧
      (b ∈ s'.live ∨ ∃ result, (b.id, result) ∈ s'.endings)) ⟨hn, .inl hb⟩ ?_
    rintro s₁ m ⟨hn₁, hI⟩ hm
    refine ⟨hn₁.apply m, ?_⟩
    rcases step_of_happening? s₁ m with ⟨-, hsame⟩ | ⟨e, he, hs⟩
    · rwa [hsame]
    rcases hI with hlive | ⟨result, hmem⟩
    · refine hs.live_or_ending hn₁ hlive ?_
      rintro stage heir rfl
      rw [eq_move_of_happening? he] at hm
      cases hm
    · exact .inr ⟨result, hs.endings_subset hmem⟩
  obtain ⟨result, hmem⟩ := hend.2.resolve_left fun hlive => by
    rw [live, hnobody] at hlive
    cases hlive
  have hfound : (s'.endings.find? (·.1 == b.id)).isSome = true :=
    List.find?_isSome.2 ⟨_, hmem, by simp⟩
  obtain ⟨x, hx⟩ := Option.isSome_iff_exists.1 hfound
  exact ⟨x.2, by rw [ending?, hx, Option.map_some]⟩

end Dispatcher

namespace Rehearsal

open Dispatcher

variable {settings : Settings} {disk : Disk} {s s' : Rehearsal} {b : Build} {o : Occasion}

/-! ## Scripts -/

/-- Whether something from outside brings no script that goes past its gate. -/
def Occasion.isGated : Occasion → Bool
  | .script _ s => s.gated
  | _ => true

theorem scriptFor_arrive (b : Build) (script : Script) :
    (s.arrive b script).scriptFor = s.scriptFor := by
  unfold Rehearsal.arrive
  (repeat' split) <;> rfl

theorem scriptFor_next? (hs : s.next? = some s') : s'.scriptFor = s.scriptFor := by
  unfold Rehearsal.next? at hs
  split at hs
  · cases hs
    rfl
  split at hs
  · cases hs
    rw [perform_eq]
    split
    · rfl
    · exact scriptFor_arrive (s := { s with service := s.written _ }) _ _
  split at hs
  · obtain ⟨x, -, rfl⟩ := Option.map_eq_some_iff.1 hs
    rfl
  · cases hs

theorem scriptFor_settle (s : Rehearsal) : s.settle.scriptFor = s.scriptFor :=
  settleFor_keeps (I := fun s' => s'.scriptFor = s.scriptFor) rfl
    (fun _ _ h hs => (scriptFor_next? hs).trans h) _

/-- Where all scripts are gated, they stay so. -/
theorem Reaction.gated (hr : Reaction s o s') (h : ∀ p, (s.scriptFor p).gated = true)
    (ho : o.isGated = true) (p : String) : (s'.scriptFor p).gated = true := by
  suffices hsame : (∃ q script, o = .script q script ∧ s' = s.setScript q script) ∨
      s'.scriptFor = s.scriptFor by
    rcases hsame with ⟨q, script, rfl, rfl⟩ | hsame
    · simp only [setScript, scriptFor, List.lookup_cons]
      split
      · exact ho
      · exact h p
    · rw [hsame]
      exact h p
  cases hr with
  | scripted q script => exact .inl ⟨q, script, rfl, rfl⟩
  | still => exact .inr rfl
  | settled => exact .inr (scriptFor_settle _)
  | moved => exact .inr (scriptFor_settle _)
  | passed => exact .inr (scriptFor_settle _)
  | @abandoned _ _ next =>
    exact .inr ((scriptFor_settle _).trans (scriptFor_settle { s with service := next }))

/-! ## Told to stop -/

/-- A rehearsal of gated scripts whose service has been told to stop. -/
structure Closing (settings : Settings) (disk : Disk) (s : Rehearsal) : Prop where
  staged : Staged none s
  reached : GoesBy (fun _ => true) (.start settings .empty disk) s.service
  stopping : s.service.stopping = true
  gated : ∀ p, (s.scriptFor p).gated = true

/-- On a disk that is ready, who has called its tool can write all its lines. -/
theorem writeLines_eq_ok (hready : LogStore.Ready ⟨settings.logsDir⟩ disk) {service : Dispatcher}
    (hreached : GoesBy (fun _ => true) (.start settings .empty disk) service)
    (hb : service.Runs b) (lines : List String) : (writeLines service b.id lines).1 = .ok () := by
  induction lines generalizing service with
  | nil => rfl
  | cons line lines ih =>
    obtain ⟨tr, hsmooth⟩ := hreached.exists_trace (smooth settings disk hready)
    have hn := hsmooth.logged.numbered
    obtain ⟨sink, ht⟩ := hb.exists_task? hn
    obtain ⟨n, d, hd, -⟩ := hsmooth.logged.keeps_line ht line
    have hw : service.writeLine b.id line = (.ok (), service.apply (.writeLine b.id line)) := by
      simp only [apply, writeLine, ht, hd]
    rw [writeLines, hw]
    exact ih (hreached.trans (.one rfl)) ((runs_apply hn rfl b).2 hb)

namespace Closing

/-- A build that calls its tool now is cancelled as soon as it has written its lines. -/
theorem perform_eq (h : Closing settings disk s)
    (hready : LogStore.Ready ⟨settings.logsDir⟩ disk)
    (hb : s.service.happening? (.call b.id) = some (.called b)) :
    s.perform b = { s with service := s.written b }.finish b.id (.ok .cancelled) := by
  have hcalled : (s.service.apply (.call b.id)).Runs b :=
    ((step_apply hb).runs_iff h.staged.numbered b).2 (.inl rfl)
  have hlines := writeLines_eq_ok hready (h.reached.trans (.one rfl)) hcalled
    (s.scriptFor b.project).lines
  have hstopping : (s.written b).stopping = true :=
    (goesBy_written s b).stopping ((GoesBy.one (P := fun _ => true) rfl).stopping h.stopping)
  rw [Rehearsal.perform_eq, hlines]
  simp only [arrive, h.gated b.project, Bool.not_true, Bool.false_eq_true, if_false, hstopping,
    if_true]

/-- What happens by itself now cancels the tools that end. -/
theorem next? (h : Closing settings disk s) (hready : LogStore.Ready ⟨settings.logsDir⟩ disk)
    (hs : s.next? = some s') :
    Closing settings disk s' ∧ GoesBy Move.isCancelling s.service s'.service := by
  obtain ⟨hstaged, -, hinner⟩ := h.staged.next? hs
  have hclosing : Closing settings disk s' := {
    staged := hstaged
    reached := h.reached.trans (hinner.mono fun _ _ => rfl)
    stopping := hinner.stopping h.stopping
    gated := fun p => by
      rw [scriptFor_next? hs]
      exact h.gated p }
  refine ⟨hclosing, ?_⟩
  unfold Rehearsal.next? at hs
  split at hs
  · rename_i t m hm
    cases hs
    obtain ⟨b, stage⟩ := t
    have hmove := (of_nextMove? hm).2
    have hcancel : m.isCancelling = true := by
      cases stage <;> cases hmove <;> rfl
    exact .one hcancel
  split at hs
  · rename_i t ts hr
    cases hs
    obtain ⟨ht, hasking, hp⟩ := mem_ready_iff.1 (hr ▸ List.mem_cons_self : t ∈ s.service.ready)
    obtain ⟨b, stage⟩ := t
    cases stage with
    | asking sink =>
      rw [h.perform_eq hready (happening?_call ht hp)]
      have hlines : GoesBy Move.isCancelling (s.service.apply (.call b.id)) (s.written b) :=
        (goesBy_written s b).mono fun m hm => by cases m <;> first | rfl | cases hm
      exact (GoesBy.one (m := .call b.id) rfl).trans (hlines.trans (.finish rfl rfl rfl))
    | _ => cases hasking
  split at hs
  · obtain ⟨x, -, rfl⟩ := Option.map_eq_some_iff.1 hs
    exact .finish rfl rfl rfl
  · cases hs

/-- Where nothing moves any more nobody is live. -/
theorem tasks_eq_nil (h : Closing settings disk s) (hpos : 1 ≤ settings.maxBuilds)
    (hnone : s.next? = none) : s.service.tasks = [] := by
  obtain ⟨tr, hallotted⟩ := h.reached.exists_trace (allotted settings .empty disk)
  by_contra hlive
  obtain ⟨t, ht, hw⟩ := hallotted.exists_not_waits hpos hlive
  -- It waits for no permit, so for its tool; but nobody is at a gate.
  have hblocked := List.all_eq_true.1 (h.staged.isSettled hnone) t ht
  rw [isBlocked, hw, Bool.or_false] at hblocked
  obtain ⟨b, stage⟩ := t
  cases stage with
  | running sink =>
    have hmem := (h.staged.held_iff b).2 ⟨⟨sink, ht⟩, by simp⟩
    rw [(next?_eq_none_iff.1 hnone).2.2 h.stopping] at hmem
    cases hmem
  | _ => cases hblocked

/-- **A rehearsal that is told to stop comes to rest with nobody live.** -/
theorem settle (h : Closing settings disk s) (hready : LogStore.Ready ⟨settings.logsDir⟩ disk)
    (hpos : 1 ≤ settings.maxBuilds) :
    Closing settings disk s.settle ∧
      GoesBy Move.isCancelling s.service s.settle.service ∧
      s.settle.service.tasks = [] := by
  have hkept : Closing settings disk s.settle ∧
      GoesBy Move.isCancelling s.service s.settle.service :=
    settleFor_keeps (I := fun s' => Closing settings disk s' ∧
      GoesBy Move.isCancelling s.service s'.service) ⟨h, .refl _ _⟩
      (fun s₁ s₂ hI hs => (hI.1.next? hready hs).imp_right hI.2.trans) _
  exact ⟨hkept.1, hkept.2, hkept.1.tasks_eq_nil hpos h.staged.settle.2.1⟩

/-- A move from outside that neither calls a tool nor ends one, and what follows. -/
theorem move (h : Closing settings disk s) {m : Move} (hm : m.isQuiet = true) :
    Closing settings disk { s with service := s.service.apply m } where
  staged := h.staged.quiet (.one hm)
  reached := h.reached.trans (.one rfl)
  stopping := (GoesBy.one (P := fun _ => true) rfl).stopping h.stopping
  gated := h.gated

/-- **Whatever comes from outside later**, nobody is live afterwards; tools that end are cancelled,
and no build is given up. -/
theorem react (h : Closing settings disk s) (hready : LogStore.Ready ⟨settings.logsDir⟩ disk)
    (hpos : 1 ≤ settings.maxBuilds) (hrest : s.service.tasks = []) (ho : o.isGated = true)
    (hr : Reaction s o s') :
    Closing settings disk s' ∧ GoesBy Move.isCancelling s.service s'.service ∧
      s'.service.tasks = [] := by
  have hrests := hr.rests h.staged (h.staged.next?_eq_none hrest)
  have hclosing : Closing settings disk s' := {
    staged := hrests.staged
    reached := h.reached.trans hrests.reached
    stopping := hrests.reached.stopping h.stopping
    gated := hr.gated h.gated ho }
  refine ⟨hclosing, ?_, hclosing.tasks_eq_nil hpos hrests.rest⟩
  cases hr with
  | scripted => exact .refl _ _
  | still => exact .refl _ _
  | settled => exact (h.settle hready hpos).2.1
  | moved hm =>
    exact .trans (.one (Move.isCancelling_of_isQuiet hm)) ((h.move hm).settle hready hpos).2.1
  | passed hx =>
    rw [h.staged.held_eq_nil hrest] at hx
    cases hx
  | @abandoned _ b _ platform r hacc hnone =>
    -- The build has come to its end by now, so it is not given up.
    obtain ⟨rfl, -, hlive⟩ := of_accept hacc
    obtain ⟨-, hg, hrest'⟩ := (h.move (m := .accept true platform r) rfl).settle hready hpos
    obtain ⟨result, hend⟩ :=
      hg.exists_ending (h.staged.numbered.apply (.accept true platform r)) hlive hrest'
    rw [hnone] at hend
    cases hend

theorem occurAll (h : Closing settings disk s) (hready : LogStore.Ready ⟨settings.logsDir⟩ disk)
    (hpos : 1 ≤ settings.maxBuilds) (hrest : s.service.tasks = []) {occasions : List Occasion}
    (ho : ∀ o ∈ occasions, o.isGated = true) :
    GoesBy Move.isCancelling s.service (s.occurAll occasions).service ∧
      (s.occurAll occasions).service.tasks = [] ∧ (s.occurAll occasions).held = [] := by
  induction occasions generalizing s with
  | nil => exact ⟨.refl _ _, hrest, h.staged.held_eq_nil hrest⟩
  | cons o os ih =>
    obtain ⟨ho, hos⟩ := List.forall_mem_cons.1 ho
    obtain ⟨h', hg, hrest'⟩ := h.react hready hpos hrest ho (reaction_occur s o)
    obtain ⟨hg', hend⟩ := ih h' hrest' hos
    exact ⟨hg.trans hg', hend⟩

end Closing

/-- Where all scripts are gated at the start and all that come later are, all are. -/
theorem gated_occurAll (h : ∀ p, (s.scriptFor p).gated = true) {occasions : List Occasion}
    (ho : ∀ o ∈ occasions, o.isGated = true) (p : String) :
    ((s.occurAll occasions).scriptFor p).gated = true := by
  induction occasions generalizing s with
  | nil => exact h p
  | cons o os ih =>
    obtain ⟨ho, hos⟩ := List.forall_mem_cons.1 ho
    exact ih ((reaction_occur s o).gated h ho) hos

/-- **A rehearsal that is told to stop**, and whatever comes from outside later: it has gone on by
moves that give up nobody and end tools by cancelling them, and nobody is live. -/
theorem Rests.stop_occurAll {gate : Gate} {fallback : Script}
    (h : Rests (start settings disk gate fallback) s) (hgated : ∀ p, (s.scriptFor p).gated = true)
    (hready : LogStore.Ready ⟨settings.logsDir⟩ disk) (hpos : 1 ≤ settings.maxBuilds)
    {after : List Occasion} (hafter : ∀ o ∈ after, o.isGated = true) :
    ∃ later : List Move, (∀ m ∈ later, m.isCancelling = true) ∧
      (s.stop.occurAll after).service = s.service.applyAll (.stop :: later) ∧
      (s.stop.occurAll after).service.live = [] ∧ (s.stop.occurAll after).held = [] := by
  have hclosing : Closing settings disk { s with service := s.service.apply .stop } := {
    staged := h.staged.quiet (.one rfl)
    reached := h.reached.trans (.one (m := .stop) rfl)
    stopping := rfl
    gated := hgated }
  obtain ⟨hstop, hg, hrest⟩ := hclosing.settle hready hpos
  obtain ⟨hg', hrest', hheld⟩ := hstop.occurAll hready hpos hrest hafter
  obtain ⟨later, hcancel, hlater⟩ := hg.trans hg'
  exact ⟨later, hcancel, hlater, List.map_eq_nil_iff.2 hrest', hheld⟩

end Rehearsal

/-! ## Draining -/

section

open Dispatcher

/-- **A service that is told to stop drains.** With at least one permit, on a disk on which the logs
that exist already are plain files and no two of them the same, whatever has happened before the
service is told to stop, and however many builds run and wait then:
- in a settled state every live build runs or waits, so none of them has ended;
- whatever happens later, in whatever order: not more can happen to builds besides the lines that
  they write than there were stages before them, and six for each build that is still admitted;
  nobody can go on only where nobody is live; and to come to that, it is enough that builds go on by
  themselves and tools that run are cancelled;
- if all logs could be opened and all tools that have ended since were cancelled, then the service
  has drained where nobody can go on: nobody is live, all permits are free, and the projects of all
  builds that had not ended, or came later, have failed, with logs that end by saying so; and what
  was at rest before is as it was;
- on a disk on which no log fails, in a rehearsal of gated scripts, this is what has become of the
  service as soon as it is told to stop, and after whatever comes from outside later; and no build
  is given up on the way. -/
theorem stop_drains (settings : Settings) (disk : Disk) (hpos : 1 ≤ settings.maxBuilds)
    (hown : ∀ d, disk.makeDirs settings.logsDir = .ok d → LogStore.Own ⟨settings.logsDir⟩ d) :
    (∀ before after : List Move,
      let s := (Dispatcher.start settings .empty disk).applyAll before
      let tr := (Dispatcher.start settings .empty disk).trace before
      let s' := s.applyAll (.stop :: after)
      let more := s.trace (.stop :: after)
      (s.isSettled = true → ∀ b ∈ s.live, Unfinished s tr more b) ∧
      more.advances.length + s'.ahead ≤ s.ahead + 6 * more.admitted.length ∧
      (¬s'.CanDrain ↔ s'.live = []) ∧
      (∃ rest : List Move, (∀ m ∈ rest, m.isDraining = true) ∧ rest.length ≤ s'.ahead ∧
        (s'.applyAll rest).live = []) ∧
      ((∀ b cause, .unopened b cause ∉ tr ++ more) →
        (∀ b result, .closed b result ∈ more → result = .ok .cancelled) →
        ¬s'.CanDrain → Drained settings s s' tr more)) ∧
    (LogStore.Ready ⟨settings.logsDir⟩ disk →
      ∀ (gate : Gate) (fallback : Script) (before after : List Rehearsal.Occasion),
        fallback.gated = true → (∀ o ∈ before, o.isGated = true) →
        (∀ o ∈ after, o.isGated = true) →
        let s := (Rehearsal.start settings disk gate fallback).occurAll before
        let s' := s.stop.occurAll after
        s.service.isSettled = true ∧ s'.held = [] ∧
          ∃ moves later : List Move,
            s.service = (Dispatcher.start settings .empty disk).applyAll moves ∧
            s'.service = s.service.applyAll (.stop :: later) ∧
            (∀ b, ¬(s.service.trace (.stop :: later)).Dropped b) ∧
            Drained settings s.service s'.service
              ((Dispatcher.start settings .empty disk).trace moves)
              (s.service.trace (.stop :: later))) := by
  have hlogged := logged settings disk hown
  have hallotted := allotted settings .empty disk
  constructor
  · intro before after s tr s' more
    have hallotted' : Allotted settings.maxBuilds s' (tr ++ more) :=
      kept_by_run (fun _ _ _ _ h hs => h.step hs) (hallotted before) (.stop :: after)
    refine ⟨fun hset b hb => .inl ⟨hb, ?_⟩,
      length_advances_add_ahead_le (hallotted before).rooted.numbered (.stop :: after),
      hallotted'.not_canDrain_iff hpos, exists_drain hallotted' hpos, fun hopens hcancel hc =>
        (hlogged before).drained hown (hallotted before) hopens hcancel
          ((hallotted'.not_canDrain_iff hpos).1 hc)⟩
    -- A build that runs or waits is at a stage that says nothing of an end.
    obtain ⟨t, ht, rfl⟩ := List.mem_map.1 hb
    have hblocked := List.all_eq_true.1 hset t ht
    rw [(hlogged before).truthful.accounted.stage t ht]
    obtain ⟨b, stage⟩ := t
    cases stage <;> first | rfl | cases hblocked
  · intro hready gate fallback before after hfallback hbefore hafter s s'
    have hrests := Rehearsal.rests_occurAll settings disk gate fallback before
    have hgated := Rehearsal.gated_occurAll (s := Rehearsal.start settings disk gate fallback)
      (fun _ => hfallback) hbefore
    obtain ⟨later, hcancel, hlater, hlive, hheld⟩ :=
      hrests.stop_occurAll hgated hready hpos hafter
    obtain ⟨moves, -, hmoves⟩ := id hrests.reached
    have hcancel' : ∀ m ∈ .stop :: later, m.isCancelling = true :=
      List.forall_mem_cons.2 ⟨rfl, hcancel⟩
    have hservice : s.service = (Dispatcher.start settings .empty disk).applyAll moves := hmoves
    refine ⟨hrests.isSettled, hheld, moves, later, hmoves, hlater,
      not_dropped_of_isCancelling hcancel', ?_⟩
    have hnobody : (s.service.applyAll (.stop :: later)).live = [] := hlater ▸ hlive
    rw [show s'.service = s.service.applyAll (.stop :: later) from hlater]
    rw [hservice] at hnobody ⊢
    have hopens := (smooth settings disk hready (moves ++ .stop :: later)).opens
    rw [trace_append] at hopens
    exact (hlogged moves).drained hown (hallotted moves) hopens
      (fun _ _ => eq_cancelled_of_closed hcancel') hnobody

/-- How a build that runs and one that waits are cancelled, the second one with the permit of the
first. -/
def cancellations : List Move :=
  handover ++ [.record 0, .close 1 (.ok .cancelled), .giveBack 1, .record 1]

/-- The script of a build that waits at its gate before it succeeds. -/
def waitingScript : Script := { Script.empty with gated := true }

/-- The two builds of a service that builds one at a time have failed when they are cancelled; and a
rehearsal with these builds, which is told to stop and then asked for one of them again, has nobody
left. -/
theorem contention_drained :
    1 ≤ oneAtATime.maxBuilds ∧
      (∀ d, Disk.initial.makeDirs oneAtATime.logsDir = .ok d →
        LogStore.Own ⟨oneAtATime.logsDir⟩ d) ∧
      (let s := (Dispatcher.start oneAtATime .empty .initial).applyAll contention
      let s' := s.applyAll (.stop :: cancellations)
      s'.live = [] ∧ s'.permits.free = 1 ∧ s'.registry.get firstBuild.project = .failed ∧
        s'.registry.get secondBuild.project = .failed) ∧
      LogStore.Ready ⟨oneAtATime.logsDir⟩ Disk.initial ∧
      let s := (Rehearsal.start oneAtATime .initial .common waitingScript).occurAll
        [.submit .android (.sample "demo"), .submit .android (.sample "next")]
      let s' := s.stop.occurAll [.submit .android (.sample "demo")]
      s'.held = [] ∧ s'.service.live = [] ∧ s'.service.permits.free = 1 := by
  obtain ⟨-, hheld, _, _, -, -, -, hrehearsed⟩ :=
    (stop_drains oneAtATime .initial (by decide) own_initial).2 LogStore.ready_initial .common
      waitingScript [.submit .android (.sample "demo"), .submit .android (.sample "next")]
      [.submit .android (.sample "demo")] rfl (by decide) (by decide)
  refine ⟨by decide, own_initial, ?_, LogStore.ready_initial, hheld, hrehearsed.live,
    hrehearsed.free⟩
  intro s s'
  obtain ⟨hsettled, -, hblocked, -, hdrained⟩ :=
    (stop_drains oneAtATime .initial (by decide) own_initial).1 contention cancellations
  have hopens := (smooth oneAtATime .initial LogStore.ready_initial
    (contention ++ .stop :: cancellations)).opens
  rw [trace_append, applyAll_contention] at hopens
  rw [applyAll_contention] at hsettled hblocked hdrained
  have htrace : contended.trace (.stop :: cancellations) =
      [.stopped, .closed firstBuild (.ok .cancelled), .released firstBuild (some 1),
        .called secondBuild, .recorded firstBuild (.ok .cancelled),
        .closed secondBuild (.ok .cancelled), .released secondBuild none,
        .recorded secondBuild (.ok .cancelled)] := by rfl
  have hcancel : ∀ b result, .closed b result ∈ contended.trace (.stop :: cancellations) →
      result = .ok .cancelled := by
    intro b result hb
    rw [htrace] at hb
    simp only [List.mem_cons, Happening.closed.injEq, List.not_mem_nil, reduceCtorEq,
      false_or, or_false] at hb
    rcases hb with ⟨-, hr⟩ | ⟨-, hr⟩ <;> exact hr
  have h := hdrained hopens hcancel (hblocked.2 (by rfl))
  have hkept : ∀ b, ¬(contended.trace (.stop :: cancellations)).Dropped b := by
    rw [htrace]
    simp [Trace.Dropped]
  have hlive := hsettled (by rfl)
  have hfailed : ∀ b ∈ contended.live,
      (contended.applyAll (.stop :: cancellations)).registry.get b.project = .failed := by
    intro b hb
    obtain ⟨c, -, -, hc⟩ := h.failed b (hlive b hb)
    exact (hc (hkept c)).1
  have hs' : s' = contended.applyAll (.stop :: cancellations) :=
    congrArg (applyAll · (.stop :: cancellations)) applyAll_contention
  rw [hs']
  exact ⟨h.live, h.free, hfailed firstBuild (by simp [contended, live]),
    hfailed secondBuild (by simp [contended, live])⟩

end

end BuildService
