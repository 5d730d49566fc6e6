import BuildService.Rehearsal
import BuildService.Proofs.Confinement
import BuildService.Proofs.Calls
import BuildService.Proofs.Running
/-!
Runs of scripted builds: every step from outside comes to rest, and what it does to
the service is a run of moves.

Whatever is proved of all runs holds of rehearsals once their steps are known to be
moves (`Staged.next?`, `Reaction.rests`). Rest is a matter of counting: `settle` has
as many steps as there are stages before the live builds, and every step leaves one
of them behind (`Staged.settle`). For this the runs at the gates have to be exactly
those whose tool was called and has not ended, since a run at a gate that is not
live any more would be let go without effect. While a build writes its lines it has
been called and is not at a gate yet; `Staged` says which build this is, if there is
one.
-/

set_option autoImplicit false

namespace BuildService

namespace Rehearsal

open Dispatcher

variable {s s' : Rehearsal} {b : Build} {away : Option Build} {service : Dispatcher}

/-! ## At the gates -/

theorem mem_held_filter (id : BuildId) (c : Build) :
    c ∈ (s.held.filter (·.build.id != id)).map (·.build) ↔
      c ∈ s.held.map (·.build) ∧ c.id ≠ id := by
  simp only [List.mem_map, List.mem_filter, bne_iff_ne]
  constructor
  · rintro ⟨x, ⟨hx, hne⟩, rfl⟩
    exact ⟨⟨x, hx, rfl⟩, hne⟩
  · rintro ⟨⟨x, hx, rfl⟩, hne⟩
    exact ⟨x, ⟨hx, hne⟩, rfl⟩

/-- The runs at the gates are those whose tool was called and has not ended; except for one run, if
there is one that has not come to its gate yet. -/
structure Staged (away : Option Build) (s : Rehearsal) : Prop where
  numbered : Numbered s.service
  held_iff : ∀ c, c ∈ s.held.map (·.build) ↔ s.service.Runs c ∧ away ≠ some c

namespace Staged

theorem quiet (h : Staged away s) (hg : GoesBy Move.isQuiet s.service service) :
    Staged away { s with service := service } :=
  ⟨hg.numbered h.numbered, fun c => by rw [hg.runs_iff h.numbered c]; exact h.held_iff c⟩

theorem finish (h : Staged away s) (hb : s.service.Runs b) (result : BuildResult) :
    Staged away (s.finish b.id result) := by
  have hg : GoesBy (fun _ => true) s.service (s.service.finish b.id result) :=
    .finish rfl rfl rfl
  refine ⟨hg.numbered h.numbered, fun c => ?_⟩
  have hruns : (s.finish b.id result).service.Runs c ↔ s.service.Runs c ∧ c ≠ b :=
    runs_finish h.numbered hb result c
  rw [hruns]
  -- Who leaves the gate is found by its number, and the number is that of one build only.
  refine (mem_held_filter b.id c).trans ?_
  rw [h.held_iff]
  constructor
  · rintro ⟨⟨hc, haway⟩, hne⟩
    exact ⟨⟨hc, fun he => hne ((hb.id_eq_iff h.numbered hc).2 he)⟩, haway⟩
  · rintro ⟨⟨hc, hne⟩, haway⟩
    exact ⟨⟨hc, haway⟩, fun hid => hne ((hb.id_eq_iff h.numbered hc).1 hid)⟩

/-- The build that was on its way to a gate has ended. -/
theorem finish_away (h : Staged (some b) s) (hb : s.service.Runs b) (result : BuildResult) :
    Staged none (s.finish b.id result) := by
  obtain ⟨hn, hheld⟩ := h.finish hb result
  refine ⟨hn, fun c => (hheld c).trans (and_congr_right fun hc => ?_)⟩
  have hne : c ≠ b := ((runs_finish h.numbered hb result c).1 hc).2
  simp [hne.symm]

/-- The build that was on its way to a gate waits there. -/
theorem hold (h : Staged (some b) s) (hb : s.service.Runs b) (script : Script) :
    Staged none { s with held := s.held ++ [⟨b, script⟩] } := by
  refine ⟨h.numbered, fun c => ?_⟩
  have hheld := h.held_iff c
  by_cases hc : c = b
  · subst hc
    simp [hb]
  · have hne : (some b : Option Build) ≠ some c := fun he => hc (Option.some.inj he).symm
    simpa [hc, hne] using hheld

theorem arrive (h : Staged (some b) s) (hb : s.service.Runs b) (script : Script) :
    Staged none (s.arrive b script) := by
  unfold Rehearsal.arrive
  split
  · exact h.finish_away hb _
  split
  · exact h.finish_away hb _
  split
  · split
    · have hopen : Staged (some b) { s with openings := false } := ⟨h.numbered, h.held_iff⟩
      exact hopen.finish_away hb _
    · exact h.hold hb script
  · dsimp only
    split
    · rename_i x hx
      -- Another run of the project has to leave first, and this one is not at the gate.
      obtain ⟨hruns, hne⟩ := (h.held_iff x.build).1
        (List.mem_map_of_mem (List.mem_of_find?_eq_some hx))
      have hother : b ≠ x.build := fun he => hne (congrArg some he)
      refine hold (h.finish hruns _) ?_ script
      exact (runs_finish h.numbered hruns _ b).2 ⟨hb, hother⟩
    · exact h.hold hb script

end Staged

theorem goesBy_finish (id : BuildId) (result : BuildResult) :
    GoesBy Move.isOnward s.service (s.finish id result).service := .finish rfl rfl rfl

theorem goesBy_arrive (b : Build) (script : Script) :
    GoesBy Move.isOnward s.service (s.arrive b script).service := by
  unfold Rehearsal.arrive
  split
  · exact goesBy_finish _ _
  split
  · exact goesBy_finish _ _
  split
  · split
    · exact goesBy_finish (s := { s with openings := false }) _ _
    · exact .refl _ _
  · dsimp only
    split
    · exact goesBy_finish _ _
    · exact .refl _ _

/-- To write lines is to make that many moves, or fewer if one fails. -/
theorem goesBy_writeLines (service : Dispatcher) (id : BuildId) (lines : List String) :
    GoesBy Move.isLine service (writeLines service id lines).2 := by
  induction lines generalizing service with
  | nil => exact .refl _ _
  | cons line lines ih =>
    have hone : GoesBy Move.isLine service (service.writeLine id line).2 :=
      .one (m := .writeLine id line) rfl
    unfold writeLines
    split
    · rename_i next hw
      rw [hw] at hone
      exact hone.trans (ih next)
    · rename_i hw
      rwa [hw] at hone

/-- The service when a build has called its tool and has written its lines. -/
def written (s : Rehearsal) (b : Build) : Dispatcher :=
  (writeLines (s.service.apply (.call b.id)) b.id (s.scriptFor b.project).lines).2

theorem goesBy_written (s : Rehearsal) (b : Build) :
    GoesBy Move.isLine (s.service.apply (.call b.id)) (s.written b) :=
  goesBy_writeLines _ _ _

/-- Who calls its tool is then on its way to its gate. -/
theorem Staged.written (h : Staged none s)
    (hb : s.service.happening? (.call b.id) = some (.called b)) :
    Staged (some b) { s with service := s.written b } ∧ (s.written b).Runs b := by
  have hs := step_apply hb
  have hruns := hs.runs_iff h.numbered
  have hnew : ¬s.service.Runs b := hs.not_runs_of_called h.numbered
  have hcalled : Staged (some b) { s with service := s.service.apply (.call b.id) } := by
    refine ⟨h.numbered.apply (.call b.id), fun c => (h.held_iff c).trans ?_⟩
    rw [hruns]
    by_cases hc : b = c
    · subst hc
      simp [hnew]
    · simp [hc]
  have hquiet : GoesBy Move.isQuiet (s.service.apply (.call b.id)) (s.written b) :=
    (goesBy_written s b).mono fun _ => Move.isQuiet_of_isLine
  exact ⟨hcalled.quiet hquiet, (hquiet.runs_iff hcalled.numbered b).2 ((hruns b).2 (.inl rfl))⟩

/-- A build that was called and could write its lines comes to its gate. -/
theorem perform_eq (s : Rehearsal) (b : Build) :
    s.perform b =
      match (writeLines (s.service.apply (.call b.id)) b.id (s.scriptFor b.project).lines).1 with
      | .error e => { s with service := s.written b }.finish b.id (.error (.io e))
      | .ok () => { s with service := s.written b }.arrive b (s.scriptFor b.project) := by
  have hcall : s.service.call b.id = s.service.apply (.call b.id) := rfl
  simp only [Rehearsal.perform, written, hcall]
  generalize writeLines _ _ _ = w
  obtain ⟨_ | _, service⟩ := w <;> rfl

theorem Staged.perform (h : Staged none s)
    (hb : s.service.happening? (.call b.id) = some (.called b)) : Staged none (s.perform b) := by
  obtain ⟨hstaged, hruns⟩ := h.written hb
  rw [perform_eq]
  split
  · exact hstaged.finish_away hruns _
  · exact hstaged.arrive hruns _

theorem goesBy_perform (s : Rehearsal) (b : Build) :
    GoesBy Move.isOnward (s.service.apply (.call b.id)) (s.perform b).service := by
  have hwritten : GoesBy Move.isOnward (s.service.apply (.call b.id)) (s.written b) :=
    (goesBy_written s b).mono fun _ => Move.isOnward_of_isLine
  rw [perform_eq]
  split
  · exact hwritten.trans (goesBy_finish (s := { s with service := s.written b }) _ _)
  · exact hwritten.trans (goesBy_arrive (s := { s with service := s.written b }) _ _)

/-! ## Coming to rest -/

/-- The next thing that happens by itself brings some build nearer to its end, and is a run of
moves. -/
theorem Staged.next? (h : Staged none s) (hs : s.next? = some s') :
    Staged none s' ∧ s'.service.ahead < s.service.ahead ∧
      GoesBy Move.isInner s.service s'.service := by
  have hn := h.numbered
  -- Each of them begins with a move that does.
  suffices hfirst : Staged none s' ∧ ∃ m e, m.isInner = true ∧ s.service.happening? m = some e ∧
      e.advances = true ∧ GoesBy Move.isInner (s.service.apply m) s'.service by
    obtain ⟨hstaged, m, e, hm, he, hadv, hg⟩ := hfirst
    refine ⟨hstaged, ?_, (GoesBy.one hm).trans hg⟩
    exact Nat.lt_of_le_of_lt (hg.ahead_le (hn.apply m)) (ahead_apply_lt hn he hadv)
  unfold Rehearsal.next? at hs
  split at hs
  · rename_i t m hm
    cases hs
    obtain ⟨ht, hmove⟩ := of_nextMove? hm
    obtain ⟨-, e, he, hadv⟩ := exists_happening_of_moveOf? hn ht hmove
    have hkind : m.isQuiet = true ∧ m.isInner = true := by
      obtain ⟨b, stage⟩ := t
      cases stage <;> cases hmove <;> exact ⟨rfl, rfl⟩
    exact ⟨h.quiet (.one hkind.1), m, e, hkind.2, he, hadv, .refl _ _⟩
  split at hs
  · rename_i t ts hready
    cases hs
    obtain ⟨ht, hasking, hp⟩ := mem_ready_iff.1 (hready ▸ List.mem_cons_self : t ∈ s.service.ready)
    obtain ⟨b, stage⟩ := t
    cases stage with
    | asking sink =>
      have he := happening?_call ht hp
      exact ⟨h.perform he, .call b.id, _, rfl, he, rfl,
        (goesBy_perform s b).mono fun _ => Move.isInner_of_isOnward⟩
    | _ => cases hasking
  split at hs
  · obtain ⟨x, hx, rfl⟩ := Option.map_eq_some_iff.1 hs
    have hruns : s.service.Runs x.build :=
      ((h.held_iff _).1 (List.mem_map_of_mem (List.mem_of_mem_head? hx))).1
    obtain ⟨sink, ht⟩ := hruns.exists_task? hn
    let closed := s.service.apply (.close x.build.id (.ok .cancelled))
    have hrest : GoesBy Move.isInner closed
        ((closed.apply (.giveBack x.build.id)).apply (.record x.build.id)) :=
      .trans (.one rfl) (.one rfl)
    exact ⟨h.finish hruns _, _, _, rfl, happening?_close ht _, rfl, hrest⟩
  · cases hs

/-- Where nobody is live nobody is at a gate. -/
theorem Staged.held_eq_nil (h : Staged none s) (ht : s.service.tasks = []) : s.held = [] :=
  List.map_eq_nil_iff.1 <| List.eq_nil_iff_forall_not_mem.2 fun b hb => by
    obtain ⟨⟨sink, hmem⟩, -⟩ := (h.held_iff b).1 hb
    rw [ht] at hmem
    cases hmem

/-- Nothing moves by itself exactly if no build goes on by itself, none has a permit that it has
still to use, and none waits at a gate of a service that is told to stop. -/
theorem next?_eq_none_iff :
    s.next? = none ↔ s.service.nextMove? = none ∧ s.service.ready = [] ∧
      (s.service.stopping = true → s.held = []) := by
  unfold Rehearsal.next?
  split
  · rename_i hm
    simp [hm]
  · rename_i hm
    split
    · rename_i hr
      simp [hr]
    · rename_i hr
      simp [hm, hr]

theorem Staged.next?_eq_none (h : Staged none s) (ht : s.service.tasks = []) :
    s.next? = none := by
  refine next?_eq_none_iff.2 ⟨by simp [nextMove?, ht], ?_, fun _ => h.held_eq_nil ht⟩
  refine List.eq_nil_iff_forall_not_mem.2 fun t hr => ?_
  have hmem := mem_of_task? (mem_ready_iff.1 hr).1
  rw [ht] at hmem
  cases hmem

/-- Where nothing moves by itself, every live build waits, for a permit or for its tool. -/
theorem Staged.isSettled (h : Staged none s) (hnone : s.next? = none) :
    s.service.isSettled = true := by
  obtain ⟨hmove, hready, -⟩ := next?_eq_none_iff.1 hnone
  refine List.all_eq_true.2 fun t ht => ?_
  have hstill := moveOf?_eq_none_of_nextMove? hmove ht
  have htask := (task?_eq_some_iff h.numbered).2 ⟨ht, rfl⟩
  obtain ⟨b, stage⟩ := t
  cases stage with
  | asking sink =>
    have hp : b.id ∉ s.service.permits.holders := fun hp => by
      have hmem : ⟨b, .asking sink⟩ ∈ s.service.ready := mem_ready_iff.2 ⟨htask, rfl, hp⟩
      rw [hready] at hmem
      cases hmem
    simp [isBlocked, waits, holds, Stage.isRunning, Stage.isAsking, hp]
  | running sink => rfl
  | _ => cases hstill

/-- What every step that follows by itself keeps is kept on the way to rest. -/
theorem settleFor_keeps {I : Rehearsal → Prop} (h : I s)
    (step : ∀ s s', I s → s.next? = some s' → I s') (n : Nat) : I (s.settleFor n) := by
  induction n generalizing s with
  | zero => exact h
  | succ n ih =>
    unfold Rehearsal.settleFor
    split
    · exact h
    · rename_i s' hs
      exact ih (step s s' h hs)

theorem Staged.settleFor {n : Nat} (h : Staged none s) (hn : s.service.ahead ≤ n) :
    Staged none (s.settleFor n) ∧ (s.settleFor n).next? = none ∧
      GoesBy Move.isInner s.service (s.settleFor n).service := by
  induction n generalizing s with
  | zero =>
    -- Nothing is ahead of anybody, so nobody is live.
    have ht := ahead_eq_zero_iff.1 (Nat.le_zero.1 hn)
    exact ⟨h, h.next?_eq_none ht, .refl _ _⟩
  | succ n ih =>
    unfold Rehearsal.settleFor
    split
    · rename_i hnone
      exact ⟨h, hnone, .refl _ _⟩
    · rename_i s' hs
      obtain ⟨hstaged, hlt, hg⟩ := h.next? hs
      obtain ⟨hstaged', hnone, hg'⟩ := ih hstaged (by omega)
      exact ⟨hstaged', hnone, hg.trans hg'⟩

/-- **A rehearsal comes to rest after every step**, and what it does on the way is a run of moves
of builds. -/
theorem Staged.settle (h : Staged none s) :
    Staged none s.settle ∧ s.settle.next? = none ∧
      GoesBy Move.isInner s.service s.settle.service :=
  h.settleFor (Nat.le_refl _)

/-- One rehearsal comes from another one by moves, and is at rest. -/
structure Rests (s s' : Rehearsal) : Prop where
  staged : Staged none s'
  rest : s'.next? = none
  reached : GoesBy (fun _ => true) s.service s'.service

namespace Rests

variable {s₁ s₂ : Rehearsal}

theorem of_settle (h : Staged none s₁) (hg : GoesBy (fun _ => true) s.service s₁.service) :
    Rests s s₁.settle := by
  obtain ⟨hstaged, hrest, hinner⟩ := h.settle
  exact ⟨hstaged, hrest, hg.trans (hinner.mono fun _ _ => rfl)⟩

theorem of_eq (h : Staged none s) (hrest : s.next? = none) (hservice : s₁.service = s.service)
    (hheld : s₁.held = s.held) : Rests s s₁ := by
  refine ⟨⟨hservice ▸ h.numbered, fun c => ?_⟩, ?_, hservice ▸ .refl _ _⟩
  · rw [hservice, hheld]
    exact h.held_iff c
  · rw [next?_eq_none_iff, hservice, hheld]
    exact next?_eq_none_iff.1 hrest

theorem trans (h : Rests s s₁) (h' : Rests s₁ s₂) : Rests s s₂ :=
  ⟨h'.staged, h'.rest, h.reached.trans h'.reached⟩

theorem isSettled (h : Rests s s₁) : s₁.service.isSettled = true := h.staged.isSettled h.rest

end Rests

/-! ## Steps from outside -/

/-- What can come from outside. -/
inductive Occasion where
  | script (project : String) (script : Script)
  | submit (platform : Platform) (r : Request)
  | execute (platform : Platform) (r : Request)
  | openFor (project : String)
  | openOnce
  | answer (m : Http.Message)
  | stop

/-- The rehearsal after something has come from outside, at rest again. -/
def occur (s : Rehearsal) : Occasion → Rehearsal
  | .script project script => s.setScript project script
  | .submit platform r => (s.submit platform r).2
  | .execute platform r => (s.execute platform r).2
  | .openFor project => (s.openFor project).2
  | .openOnce => s.openOnce
  | .answer m => (s.answer m).2
  | .stop => s.stop

/-- The rehearsal after several occasions. -/
def occurAll (s : Rehearsal) (occasions : List Occasion) : Rehearsal := occasions.foldl occur s

/-- A rehearsal of a new service, in which all projects have one script. -/
def start (settings : Settings) (disk : Disk) (gate : Gate) (fallback : Script) : Rehearsal where
  service := .start settings .empty disk
  gate := gate
  scripts := []
  fallback := fallback
  held := []
  openings := false

/-- A build that is given up leaves its gate. -/
theorem Staged.abandon (h : Staged none s) {id : BuildId}
    (hawaited : ∀ b ∈ s.service.live, b.id = id → b.awaited = true) :
    Staged none { s with
      service := s.service.abandon id
      held := s.held.filter (·.build.id != id) } := by
  refine ⟨h.numbered.apply (.abandon id), fun c => (mem_held_filter id c).trans ?_⟩
  rw [runs_abandon h.numbered hawaited, h.held_iff]
  exact and_right_comm

/-- Who still has the number of a build when it would have to be waited for without an end is this
build, since nobody came in between. -/
theorem Staged.awaited_of_accept (h : Staged none s) {platform : Platform} {r : Request}
    (hacc : s.service.accept true platform r = .ok (b, service)) :
    ∀ c ∈ { s with service := service }.settle.service.live, c.id = b.id → c.awaited = true := by
  obtain ⟨rfl, hawaited, hlive⟩ := Dispatcher.of_accept hacc
  have haccepted : Staged none { s with service := s.service.apply (.accept true platform r) } :=
    h.quiet (.one rfl)
  intro c hc hid
  have hsame := List.inj_on_of_nodup_map haccepted.numbered.nodup
    (haccepted.settle.2.2.live_subset hc) hlive hid
  exact hsame ▸ hawaited

/-- What can come of something from outside. Nothing but a script changes the scripts, and only the
common gate remembers anything else than what the builds do. -/
inductive Reaction (s : Rehearsal) : Occasion → Rehearsal → Prop
  | scripted (project : String) (script : Script) :
    Reaction s (.script project script) (s.setScript project script)
  | still {o : Occasion} (openings : Bool) : Reaction s o { s with openings := openings }
  | settled {o : Occasion} : Reaction s o s.settle
  | moved {o : Occasion} {m : Move} (hm : m.isQuiet = true) :
    Reaction s o { s with service := s.service.apply m }.settle
  /-- A run is let through. -/
  | passed {o : Occasion} {x : Held} (hx : x ∈ s.held) (result : BuildResult) :
    Reaction s o (s.finish x.build.id result).settle
  /-- A build that would have to be waited for without an end is given up. -/
  | abandoned {o : Occasion} {c : Build} {next : Dispatcher} {platform : Platform} {r : Request}
    (hacc : s.service.accept true platform r = .ok (c, next))
    (hnone : { s with service := next }.settle.service.ending? c.id = none) :
    Reaction s o ({ { s with service := next }.settle with
      service := { s with service := next }.settle.service.abandon c.id
      held := { s with service := next }.settle.held.filter (·.build.id != c.id) } :
        Rehearsal).settle

/-- A build that is admitted is a move, and then the service goes on. -/
theorem Reaction.of_accept {awaited : Bool} {platform : Platform} {r : Request}
    (hacc : s.service.accept awaited platform r = .ok (b, service)) (o : Occasion) :
    Reaction s o { s with service := service }.settle := by
  rw [← (Dispatcher.of_accept hacc).1]
  exact .moved rfl

theorem reaction_occur (s : Rehearsal) (o : Occasion) : Reaction s o (s.occur o) := by
  cases o with
  | script project script => exact .scripted project script
  | submit platform r =>
    simp only [occur, submit]
    split
    · exact .still s.openings
    · exact .of_accept ‹_› _
  | execute platform r =>
    simp only [occur, execute]
    split
    · exact .still s.openings
    · rename_i hacc
      split
      · exact .of_accept hacc _
      · exact .abandoned hacc ‹_›
  | openFor project =>
    simp only [occur, openFor]
    split
    · exact .still s.openings
    · exact .passed (List.mem_of_find?_eq_some ‹_›) _
  | openOnce =>
    simp only [occur, openOnce]
    split
    · exact .still true
    · rename_i hx
      exact .passed (hx ▸ List.mem_cons_self) _
  | answer m =>
    have hanswer : (Api.answer s.service m).2 = Api.take s.service (.request m) := rfl
    simp only [occur, answer]
    -- Most requests only read.
    rcases Api.take_request s.service m with hsame | ⟨r, hsame⟩
    · rw [hanswer, hsame]
      exact .settled
    · rw [hanswer, hsame]
      exact .moved rfl
  | stop => exact .moved (m := .stop) rfl

/-- **Whatever comes from outside, the rehearsal goes on by moves and comes to rest.** -/
theorem Reaction.rests {o : Occasion} (h : Staged none s) (hrest : s.next? = none)
    (hr : Reaction s o s') : Rests s s' := by
  cases hr with
  | scripted => exact .of_eq h hrest rfl rfl
  | still => exact .of_eq h hrest rfl rfl
  | settled => exact .of_settle h (.refl _ _)
  | moved hm => exact .of_settle (h.quiet (.one hm)) (.one rfl)
  | passed hx result =>
    exact .of_settle (h.finish ((h.held_iff _).1 (List.mem_map_of_mem hx)).1 result)
      (.finish rfl rfl rfl)
  | @abandoned _ b _ platform r hacc _ =>
    have hgiven := h.awaited_of_accept hacc
    obtain ⟨rfl, -, -⟩ := Dispatcher.of_accept hacc
    have haccepted : Staged none { s with service := s.service.apply (.accept true platform r) } :=
      h.quiet (.one rfl)
    obtain ⟨hstaged, -, hg⟩ := haccepted.settle
    have hadmitted : GoesBy (fun _ => true) s.service
        { s with service := s.service.apply (.accept true platform r) }.settle.service :=
      .trans (.one (m := .accept true platform r) rfl) (hg.mono fun _ _ => rfl)
    exact .of_settle (hstaged.abandon hgiven) (hadmitted.trans (.one (m := .abandon b.id) rfl))

/-- Every rehearsal of a new service is a run of moves that has come to rest. -/
theorem rests_occurAll (settings : Settings) (disk : Disk) (gate : Gate) (fallback : Script)
    (occasions : List Occasion) :
    Rests (start settings disk gate fallback)
      ((start settings disk gate fallback).occurAll occasions) := by
  induction occasions using List.reverseRecOn with
  | nil =>
    have hstaged : Staged none (start settings disk gate fallback) := by
      refine ⟨(rooted settings .empty disk []).numbered, fun c => ?_⟩
      simp [start, Dispatcher.start, Runs]
    exact ⟨hstaged, hstaged.next?_eq_none rfl, .refl _ _⟩
  | append_singleton os o ih =>
    rw [occurAll, List.foldl_append]
    exact ih.trans ((reaction_occur _ o).rests ih.staged ih.rest)

end Rehearsal

end BuildService
