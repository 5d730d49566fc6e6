import BuildService.Proofs.Rehearsals
import BuildService.Proofs.Stopping
import BuildService.Proofs.Turnstile
/-!
Rehearsals at the common gate are runs at a turnstile.

A rehearsal takes the lines of a run, its way through the gate and its end in one go, and
goes on until nothing moves before anything else comes from outside. So it is one of the
runs that `Turnstile.Step` allows, one in which every run that is let through returns
before the next one is, and the account of the notifications holds of it
(`Rehearsal.Sharing.occur`).

What has to be looked at is the one moment at which a build is given up: nothing moves
then, so this build has not been let through.
-/

set_option autoImplicit false

namespace BuildService

/-- Whether a move brings a build to its tool or away from it, or admits one. -/
def Dispatcher.Move.isAside : Dispatcher.Move → Bool
  | .accept _ _ _ | .openLog _ | .ask _ | .giveBack _ | .record _ => true
  | _ => false

namespace Turnstile

variable {lines : List String} {outcome : Outcome} {x y z : Turnstile} {ps ps' : Passages}
  {p : Passage} {b : Build} {n k : Nat}

theorem Steps.trans (h : Steps lines outcome x ps y) (h' : Steps lines outcome y ps' z) :
    Steps lines outcome x (ps ++ ps') z := by
  induction h' with
  | refl => rwa [List.append_nil]
  | tail _ hs ih =>
    rw [← List.append_assoc]
    exact ih.tail hs

/-- A state comes from another one in the course of so many notifications, and whoever is let
through on the way returns before the next one is. -/
def Comes (lines : List String) (outcome : Outcome) (n : Nat) (x y : Turnstile) : Prop :=
  ∃ ps, Steps lines outcome x ps y ∧ ps.notified = n ∧ ps.returned outcome = ps.passed

namespace Comes

theorem refl (x : Turnstile) : Comes lines outcome 0 x x := ⟨[], .refl, rfl, rfl⟩

theorem trans (h : Comes lines outcome n x y) (h' : Comes lines outcome k y z) :
    Comes lines outcome (n + k) x z := by
  obtain ⟨ps, hps, rfl, hret⟩ := h
  obtain ⟨ps', hps', rfl, hret'⟩ := h'
  exact ⟨ps ++ ps', hps.trans hps', by simp, by simp [hret, hret']⟩

theorem after (h : Comes lines outcome 0 x y) (h' : Comes lines outcome n y z) :
    Comes lines outcome n x z := by
  have htrans := h.trans h'
  rwa [Nat.zero_add] at htrans

/-- Nobody is let through and nobody returns. -/
theorem one (hs : Step lines outcome x p y) (hp : p.passed? = none)
    (hr : p.returned? outcome = none) : Comes lines outcome p.isNotified.toNat x y :=
  ⟨[p], .tail .refl hs, by simp, by simp [hp, hr]⟩

/-- A build goes on to its tool or from it. -/
theorem aside {m : Dispatcher.Move} (hm : m.isAside = true) (x : Turnstile) :
    Comes lines outcome 0 x { x with service := x.service.apply m } := by
  rcases Dispatcher.step_of_happening? x.service m with ⟨-, hsame⟩ | ⟨e, he, hs⟩
  · rw [hsame]
    exact .refl x
  · rw [Dispatcher.eq_move_of_happening? he] at hm
    have haside : e.isAside = true := by cases e <;> first | rfl | cases hm
    have hret : (Passage.service e).returned? outcome = none := by
      cases e <;> first | rfl | cases haside
    exact one (.goes haside hs) rfl hret

/-- Who returns is recorded. -/
theorem finish {result : BuildResult}
    (h : Comes lines outcome n x { y with service := y.service.apply (.close b.id result) }) :
    Comes lines outcome n x { y with service := y.service.finish b.id result } :=
  (h.trans (aside (m := .giveBack b.id) rfl _)).trans (aside (m := .record b.id) rfl _)

/-- A run is let through, returns and is recorded. -/
theorem through (hs : Step lines outcome x p y) (hp : p.passed? = some b)
    (hr : p.returned? outcome = none) (hthrough : y.through = [b]) (hn : y.service.Numbered)
    (hb : y.service.Runs b) :
    Comes lines outcome p.isNotified.toNat x
      { y with service := y.service.finish b.id (.ok outcome), through := [] } := by
  obtain ⟨sink, ht⟩ := hb.exists_task? hn
  have hclosed := Dispatcher.step_apply (Dispatcher.happening?_close ht (.ok outcome))
  have hreturned : Step lines outcome y (.service (.closed b (.ok outcome))) { y with
      service := y.service.apply (.close b.id (.ok outcome))
      through := y.through.erase b } :=
    .returned (hthrough ▸ List.mem_singleton_self b) hclosed
  rw [hthrough, List.erase_cons_head] at hreturned
  have hquiet : (Passage.service (.closed b (.ok outcome))).isNotified = false := rfl
  have hpassed : (Passage.service (.closed b (.ok outcome))).passed? = none := rfl
  have hret : (Passage.service (.closed b (.ok outcome))).returned? outcome = some b := if_pos rfl
  have h : Comes lines outcome p.isNotified.toNat x { y with
      service := y.service.apply (.close b.id (.ok outcome))
      through := [] } :=
    ⟨_, .tail (.tail .refl hs) hreturned, by simp [hquiet], by simp [hp, hr, hpassed, hret]⟩
  exact finish (y := { y with through := [] }) h

/-- A run that could not write a line returns the fault and is recorded. -/
theorem fails {cause : IoFault} (hfailing : x.failing = [(b, cause)]) (hn : x.service.Numbered)
    (hb : x.service.Runs b) :
    Comes lines outcome 0 x
      { x with service := x.service.finish b.id (.error (.io cause)), failing := [] } := by
  obtain ⟨sink, ht⟩ := hb.exists_task? hn
  have hclosed := Dispatcher.step_apply (Dispatcher.happening?_close ht (.error (.io cause)))
  have h : Comes lines outcome 0 x { x with
      service := x.service.apply (.close b.id (.error (.io cause)))
      failing := x.failing.erase (b, cause) } :=
    one (.fails (hfailing ▸ List.mem_singleton_self (b, cause)) hclosed) rfl rfl
  rw [hfailing, List.erase_cons_head] at h
  exact finish (y := { x with failing := [] }) h

end Comes

end Turnstile

namespace Rehearsal

open Dispatcher Turnstile

variable {lines : List String} {outcome : Outcome} {s s' : Rehearsal} {b : Build}

/-! ## Rehearsals with one script -/

/-- The script of a run that waits at its gate before it returns an outcome. -/
def gatedScript (lines : List String) (outcome : Outcome) : Script :=
  ⟨lines, true, .outcome outcome⟩

/-- The turnstile of a rehearsal: nobody is on the way to the gate or from it. -/
def turnstile (s : Rehearsal) : Turnstile where
  service := s.service
  writing := []
  waiting := s.held.map (·.build)
  through := []
  failing := []
  stored := s.openings

/-- All runs follow one script and share the common gate, and nobody has stopped the service. -/
structure Sharing (lines : List String) (outcome : Outcome) (s : Rehearsal) : Prop where
  gate : s.gate = .common
  scripts : s.scripts = []
  fallback : s.fallback = gatedScript lines outcome
  held : ∀ x ∈ s.held, x.script = gatedScript lines outcome
  nodup : (s.held.map (·.build)).Nodup
  going : s.service.stopping = false

/-- A run that is on its way to the gate is not there. -/
theorem Staged.not_mem_held (h : Staged (some b) s) : b ∉ s.held.map (·.build) := fun hmem =>
  ((h.held_iff b).1 hmem).2 rfl

theorem Staged.filter_held (h : Staged (some b) s) (hb : s.service.Runs b) :
    s.held.filter (·.build.id != b.id) = s.held := by
  refine List.filter_eq_self.2 fun x hx => bne_iff_ne.2 fun hid => ?_
  have hmem : x.build ∈ s.held.map (·.build) := List.mem_map_of_mem hx
  have hsame := (hb.id_eq_iff h.numbered ((h.held_iff _).1 hmem).1).1 hid
  exact h.not_mem_held (hsame ▸ hmem)

/-- Where nothing moves a build may be given up, since no run is on its way from the gate. -/
theorem Staged.comes_abandon (h : Staged none s) (hrest : s.next? = none) {id : BuildId}
    (hawaited : ∀ b ∈ s.service.live, b.id = id → b.awaited = true) (lines : List String)
    (outcome : Outcome) :
    Comes lines outcome 0 s.turnstile
      ({ s with
        service := s.service.apply (.abandon id)
        held := s.held.filter (·.build.id != id) } : Rehearsal).turnstile := by
  rcases step_of_happening? s.service (.abandon id) with ⟨hnone, hsame⟩ | ⟨e, he, hs⟩
  · -- Nobody of this number is there.
    have hall : s.held.filter (·.build.id != id) = s.held := by
      refine List.filter_eq_self.2 fun x hx => bne_iff_ne.2 ?_
      have hruns := ((h.held_iff x.build).1 (List.mem_map_of_mem hx)).1
      have habandon := runs_abandon h.numbered hawaited x.build
      rw [show s.service.abandon id = s.service from hsame] at habandon
      exact (habandon.1 hruns).2
    rw [hsame, hall]
    exact .refl _
  · have hmove := eq_move_of_happening? he
    cases e with
    | dropped b stage heir =>
      cases hmove
      have hblocked := List.all_eq_true.1 (h.isSettled hrest) ⟨b, stage⟩ hs.mem_tasks_of_dropped
      have hresult : stage.result? = none := by
        cases stage <;> first | rfl | cases hblocked
      have hwaiting : (s.held.filter (·.build.id != b.id)).map (·.build) =
          (s.held.map (·.build)).filter (·.id != b.id) := by
        rw [List.filter_map]
        rfl
      simp only [turnstile, hwaiting]
      exact .one (.dropped (x := s.turnstile) (by simp [turnstile]) (by simp [turnstile]) hresult
        hs) rfl rfl
    | _ => cases hmove

namespace Sharing

theorem scriptFor (h : Sharing lines outcome s) (project : String) :
    s.scriptFor project = gatedScript lines outcome := by
  rw [Rehearsal.scriptFor, h.scripts, List.lookup_nil, Option.getD_none, h.fallback]

theorem finish (h : Sharing lines outcome s) (id : BuildId) (result : BuildResult) :
    Sharing lines outcome (s.finish id result) where
  gate := h.gate
  scripts := h.scripts
  fallback := h.fallback
  held x hx := h.held x (List.mem_of_mem_filter hx)
  nodup := h.nodup.sublist (List.filter_sublist.map _)
  going := (goesBy_finish id result).stopping_eq rfl |>.trans h.going

/-- A run that has written its lines goes through the gate if it is open, and otherwise waits. -/
theorem arrive (h : Sharing lines outcome s) (hst : Staged (some b) s) (hb : s.service.Runs b) :
    Sharing lines outcome (s.arrive b (gatedScript lines outcome)) ∧
      Comes lines outcome 0 ⟨s.service, [(b, [])], s.held.map (·.build), [], [], s.openings⟩
        (s.arrive b (gatedScript lines outcome)).turnstile := by
  have harrive : s.arrive b (gatedScript lines outcome) =
      if s.openings then { s with openings := false }.finish b.id (.ok outcome)
      else { s with held := s.held ++ [⟨b, gatedScript lines outcome⟩] } := by
    simp [Rehearsal.arrive, gatedScript, h.going, h.gate, resultOf]
  have hwriting : (b, []) ∈ [(b, ([] : List String))] := List.mem_singleton_self _
  rw [harrive]
  cases hopen : s.openings with
  | true =>
    have hsharing : Sharing lines outcome { s with openings := false } :=
      ⟨h.gate, h.scripts, h.fallback, h.held, h.nodup, h.going⟩
    have hpasses : Turnstile.Step lines outcome
        ⟨s.service, [(b, [])], s.held.map (·.build), [], [], true⟩ (.reached b true)
        ⟨s.service, [], s.held.map (·.build), [b], [], false⟩ := by
      simpa using Turnstile.Step.passes
        (x := ⟨s.service, [(b, [])], s.held.map (·.build), [], [], true⟩) hwriting rfl
    refine ⟨hsharing.finish _ _, ?_⟩
    rw [if_pos rfl, turnstile, Rehearsal.finish, hst.filter_held hb]
    exact .through hpasses rfl rfl rfl hst.numbered hb
  | false =>
    have hwaits : Turnstile.Step lines outcome
        ⟨s.service, [(b, [])], s.held.map (·.build), [], [], false⟩ (.reached b false)
        ⟨s.service, [], s.held.map (·.build) ++ [b], [], [], false⟩ := by
      simpa using Turnstile.Step.waits
        (x := ⟨s.service, [(b, [])], s.held.map (·.build), [], [], false⟩) hwriting rfl
    rw [if_neg Bool.false_ne_true]
    refine ⟨⟨h.gate, h.scripts, h.fallback, ?_, ?_, h.going⟩, ?_⟩
    · intro x hx
      rcases List.mem_append.1 hx with hx | hx
      · exact h.held x hx
      · rw [List.mem_singleton.1 hx]
    · rw [List.map_append, List.map_singleton]
      exact h.nodup.append (List.nodup_singleton b) (List.disjoint_singleton.2 hst.not_mem_held)
    · rw [turnstile, List.map_append, List.map_singleton]
      exact .one hwaits rfl rfl

/-- A run writes its lines one after the other, up to one that cannot be written. -/
theorem comes_writeLines {service : Dispatcher} (hn : Numbered service) (hb : service.Runs b)
    (lines : List String) (outcome : Outcome) (ls : List String) (waiting : List Build)
    (stored : Bool) :
    match writeLines service b.id ls with
    | (.ok (), service') => Comes lines outcome 0 ⟨service, [(b, ls)], waiting, [], [], stored⟩
        ⟨service', [(b, [])], waiting, [], [], stored⟩
    | (.error cause, service') =>
      Comes lines outcome 0 ⟨service, [(b, ls)], waiting, [], [], stored⟩
        ⟨service', [], waiting, [], [(b, cause)], stored⟩ := by
  induction ls generalizing service with
  | nil => exact .refl _
  | cons line ls ih =>
    obtain ⟨sink, ht⟩ := hb.exists_task? hn
    have hmem : (b, line :: ls) ∈ [(b, line :: ls)] := List.mem_singleton_self _
    rw [writeLines]
    cases hw : sink.writeLine service.disk line with
    | error cause =>
      have hline : service.writeLine b.id line = (.error cause, service) := by
        simp only [Dispatcher.writeLine, ht, hw]
      have hrefused : Turnstile.Step lines outcome
          ⟨service, [(b, line :: ls)], waiting, [], [], stored⟩
          (.service (.refused b line cause)) ⟨service, [], waiting, [], [(b, cause)], stored⟩ := by
        simpa using Turnstile.Step.refused
          (x := ⟨service, [(b, line :: ls)], waiting, [], [], stored⟩) hmem (.refused ht hw)
      rw [hline]
      exact .one hrefused rfl rfl
    | ok written =>
      obtain ⟨sink', disk⟩ := written
      have hs := Dispatcher.Step.wrote ht hw
      have hline : service.writeLine b.id line =
          (.ok (), { service with disk := disk }.setStage b.id (.running sink')) := by
        simp only [Dispatcher.writeLine, ht, hw]
      generalize { service with disk := disk }.setStage b.id (.running sink') = next at hs hline
      have hwrote : Turnstile.Step lines outcome
          ⟨service, [(b, line :: ls)], waiting, [], [], stored⟩ (.service (.wrote b line))
          ⟨next, [(b, ls)], waiting, [], [], stored⟩ := by
        simpa using Turnstile.Step.wrote
          (x := ⟨service, [(b, line :: ls)], waiting, [], [], stored⟩) hmem hs
      have hfirst := Comes.one hwrote rfl rfl
      have hrest := ih (hn.step hs) ((hs.runs_iff hn b).2 (.inr ⟨hb, by simp, by simp⟩))
      rw [hline]
      dsimp only
      generalize writeLines next b.id ls = w at hrest ⊢
      obtain ⟨cause | _, service'⟩ := w
      · exact hfirst.trans hrest
      · exact hfirst.trans hrest

theorem perform (h : Sharing lines outcome s) (hst : Staged none s)
    (hb : s.service.happening? (.call b.id) = some (.called b)) :
    Sharing lines outcome (s.perform b) ∧
      Comes lines outcome 0 s.turnstile (s.perform b).turnstile := by
  obtain ⟨hstaged, hruns⟩ := hst.written hb
  have hs := step_apply hb
  have hcalled : Comes lines outcome 0 s.turnstile
      ⟨s.service.apply (.call b.id), [(b, lines)], s.held.map (·.build), [], [], s.openings⟩ :=
    .one (.called hs) rfl rfl
  have hlines := comes_writeLines (hst.numbered.step hs)
    ((hs.runs_iff hst.numbered b).2 (.inl rfl)) lines outcome lines (s.held.map (·.build))
    s.openings
  have hwritten : Sharing lines outcome { s with service := s.written b } := by
    refine ⟨h.gate, h.scripts, h.fallback, h.held, h.nodup, ?_⟩
    have hline := (goesBy_written s b).stopping_eq rfl
    exact (hline.trans (stopping_apply (by simp))).trans h.going
  have hlist : (gatedScript lines outcome).lines = lines := rfl
  rw [perform_eq, h.scriptFor, hlist]
  rw [written, h.scriptFor, hlist] at hwritten hstaged hruns ⊢
  generalize writeLines _ b.id lines = w at hlines hwritten hstaged hruns ⊢
  obtain ⟨cause | _, service⟩ := w
  · refine ⟨hwritten.finish _ _, (hcalled.after hlines).after ?_⟩
    show Comes lines outcome 0 _
      ({ s with service := service }.finish b.id (.error (.io cause))).turnstile
    rw [turnstile, Rehearsal.finish, hstaged.filter_held hruns]
    exact .fails (x := ⟨service, [], s.held.map (·.build), [], [(b, cause)], s.openings⟩) rfl
      hstaged.numbered hruns
  · obtain ⟨hsharing, harrive⟩ := hwritten.arrive hstaged hruns
    exact ⟨hsharing, (hcalled.after hlines).after harrive⟩

theorem next? (h : Sharing lines outcome s) (hst : Staged none s) (hs : s.next? = some s') :
    Sharing lines outcome s' ∧ Comes lines outcome 0 s.turnstile s'.turnstile := by
  unfold Rehearsal.next? at hs
  split at hs
  · rename_i t m hm
    cases hs
    have hmove := (of_nextMove? hm).2
    have hkind : m.isAside = true ∧ m ≠ .stop := by
      obtain ⟨b, stage⟩ := t
      cases stage <;> cases hmove <;> exact ⟨rfl, by simp⟩
    exact ⟨⟨h.gate, h.scripts, h.fallback, h.held, h.nodup, (stopping_apply hkind.2).trans h.going⟩,
      .aside hkind.1 s.turnstile⟩
  split at hs
  · rename_i t ts hready
    cases hs
    obtain ⟨ht, hasking, hp⟩ := mem_ready_iff.1 (hready ▸ List.mem_cons_self : t ∈ s.service.ready)
    obtain ⟨b, stage⟩ := t
    cases stage with
    | asking sink => exact h.perform hst (happening?_call ht hp)
    | _ => cases hasking
  · rw [if_neg (by simp [h.going])] at hs
    cases hs

/-- On its way to rest a rehearsal stays one of the runs at the turnstile. -/
theorem settle (h : Sharing lines outcome s) (hst : Staged none s) :
    Sharing lines outcome s.settle ∧ Comes lines outcome 0 s.turnstile s.settle.turnstile :=
  (settleFor_keeps (I := fun s' => Staged none s' ∧ Sharing lines outcome s' ∧
      Comes lines outcome 0 s.turnstile s'.turnstile) ⟨hst, h, .refl _⟩
    (fun s₁ s₂ hI hs => by
      obtain ⟨hst, hsharing, hcomes⟩ := hI
      obtain ⟨hsharing', hcomes'⟩ := hsharing.next? hst hs
      exact ⟨(hst.next? hs).1, hsharing', hcomes.trans hcomes'⟩) _).2

/-- A build that is admitted or given up. -/
theorem moved (h : Sharing lines outcome s) {m : Move} (hm : m ≠ .stop) {held : List Held}
    (hheld : held.Sublist s.held) :
    Sharing lines outcome { s with service := s.service.apply m, held := held } where
  gate := h.gate
  scripts := h.scripts
  fallback := h.fallback
  held x hx := h.held x (hheld.subset hx)
  nodup := h.nodup.sublist (hheld.map _)
  going := (stopping_apply hm).trans h.going

/-- When the first run that waits leaves, the others are those behind it. -/
theorem filter_held (h : Sharing lines outcome s) (hst : Staged none s) {x : Held}
    {rest : List Held} (hheld : s.held = x :: rest) :
    s.held.filter (·.build.id != x.build.id) = rest := by
  have hruns : ∀ y ∈ s.held, s.service.Runs y.build := fun y hy =>
    ((hst.held_iff _).1 (List.mem_map_of_mem hy)).1
  have hnodup := h.nodup
  rw [hheld, List.map_cons, List.nodup_cons] at hnodup
  rw [hheld, List.filter_cons_of_neg (by simp)]
  refine List.filter_eq_self.2 fun y hy => bne_iff_ne.2 fun hid => hnodup.1 ?_
  have hsame := ((hruns x (hheld ▸ List.mem_cons_self)).id_eq_iff hst.numbered
    (hruns y (hheld ▸ List.mem_cons_of_mem _ hy))).1 hid
  exact hsame ▸ List.mem_map_of_mem hy

theorem openOnce (h : Sharing lines outcome s) (hst : Staged none s) :
    Sharing lines outcome s.openOnce ∧ Comes lines outcome 1 s.turnstile s.openOnce.turnstile := by
  unfold Rehearsal.openOnce
  split
  · rename_i hnobody
    have hwaiting : s.turnstile.waiting = [] := by rw [turnstile, hnobody, List.map_nil]
    refine ⟨⟨h.gate, h.scripts, h.fallback, h.held, h.nodup, h.going⟩, ?_⟩
    cases hopen : s.openings with
    | true =>
      have hsame : ({ s with openings := true } : Rehearsal).turnstile = s.turnstile := by
        rw [turnstile, turnstile, hopen]
      rw [hsame]
      exact .one (.loses hwaiting hopen) rfl rfl
    | false => exact .one (.stores hwaiting hopen) rfl rfl
  · rename_i x rest hheld
    have hresult : s.resultOf x.script = .ok outcome := by
      rw [h.held x (hheld ▸ List.mem_cons_self)]
      rfl
    rw [hresult]
    have hruns : s.service.Runs x.build :=
      ((hst.held_iff _).1 (List.mem_map_of_mem (hheld ▸ List.mem_cons_self))).1
    have htaken : Comes lines outcome 1 s.turnstile
        (s.finish x.build.id (.ok outcome)).turnstile := by
      have hrest : s.held.filter (·.build.id != x.build.id) = rest := h.filter_held hst hheld
      have hwaiting : s.turnstile.waiting = x.build :: rest.map (·.build) := by
        rw [turnstile, hheld, List.map_cons]
      rw [turnstile, Rehearsal.finish, hrest]
      exact .through (.taken hwaiting) rfl rfl rfl hst.numbered hruns
    obtain ⟨hsharing, hsettle⟩ := (h.finish x.build.id (.ok outcome)).settle
      (hst.finish hruns (.ok outcome))
    exact ⟨hsharing, htaken.trans hsettle⟩

end Sharing

/-! ## What comes from outside -/

/-- Whether a build is asked for or the common gate is notified. -/
def Occasion.isGate : Occasion → Bool
  | .submit _ _ | .execute _ _ | .openOnce => true
  | _ => false

def Occasion.isOpening : Occasion → Bool
  | .openOnce => true
  | _ => false

/-- **Whatever is asked for**, a rehearsal goes on as one of the runs at the turnstile, with a
notification where the gate is opened. -/
theorem Sharing.occur (h : Sharing lines outcome s) (hst : Staged none s) {o : Occasion}
    (ho : o.isGate = true) :
    Sharing lines outcome (s.occur o) ∧
      Comes lines outcome o.isOpening.toNat s.turnstile (s.occur o).turnstile := by
  have haccept : ∀ {awaited platform r b service},
      s.service.accept awaited platform r = .ok (b, service) →
      Staged none { s with service := service } ∧
        Sharing lines outcome { s with service := service } ∧
        Comes lines outcome 0 s.turnstile { s with service := service }.turnstile := by
    intro awaited platform r b service hacc
    obtain ⟨rfl, -, -⟩ := of_accept hacc
    exact ⟨hst.quiet (.one rfl), h.moved (by simp) (List.Sublist.refl _),
      .aside (m := .accept awaited platform r) rfl s.turnstile⟩
  cases o with
  | submit platform r =>
    simp only [Rehearsal.occur, submit]
    split
    · exact ⟨h, .refl _⟩
    · obtain ⟨hst', hsharing, hcomes⟩ := haccept ‹_›
      exact (hsharing.settle hst').imp_right hcomes.after
  | execute platform r =>
    simp only [Rehearsal.occur, execute]
    split
    · exact ⟨h, .refl _⟩
    · rename_i b service hacc
      obtain ⟨hst', hsharing, hcomes⟩ := haccept hacc
      obtain ⟨hsharing', hsettle⟩ := hsharing.settle hst'
      obtain ⟨hst'', hrest', -⟩ := hst'.settle
      have hwaited := hcomes.after hsettle
      split
      · exact ⟨hsharing', hwaited⟩
      · have hgiven := hst.awaited_of_accept hacc
        have habandon := hst''.comes_abandon hrest' hgiven lines outcome
        obtain ⟨hsharing'', hend⟩ := (hsharing'.moved (m := .abandon b.id) (by simp)
          List.filter_sublist).settle (hst''.abandon hgiven)
        exact ⟨hsharing'', (hwaited.after habandon).after hend⟩
  | openOnce => exact h.openOnce hst
  | _ => cases ho

/-- A rehearsal in which builds are asked for and the gate is notified is one of the runs at the
turnstile of a new service. -/
theorem sharing_occurAll (settings : Settings) (disk : Disk) (lines : List String)
    (outcome : Outcome) {occasions : List Occasion} (ho : ∀ o ∈ occasions, o.isGate = true) :
    let s := (start settings disk .common (gatedScript lines outcome)).occurAll occasions
    Sharing lines outcome s ∧
      Comes lines outcome (occasions.countP Occasion.isOpening) (Turnstile.start settings disk)
        s.turnstile := by
  induction occasions using List.reverseRecOn with
  | nil =>
    refine ⟨⟨rfl, rfl, rfl, ?_, List.nodup_nil, rfl⟩, .refl _⟩
    intro x hx
    cases hx
  | append_singleton os o ih =>
    obtain ⟨hsharing, hcomes⟩ := ih fun o ho' => ho o (List.mem_append_left _ ho')
    have hrests := rests_occurAll settings disk .common (gatedScript lines outcome) os
    obtain ⟨hsharing', hcomes'⟩ := hsharing.occur hrests.staged
      (ho o (List.mem_append_right _ (List.mem_singleton_self o)))
    rw [List.countP_append, List.countP_singleton, occurAll, List.foldl_append]
    refine ⟨hsharing', ?_⟩
    have hcount : (if o.isOpening = true then 1 else 0) = o.isOpening.toNat := by
      cases o.isOpening <;> rfl
    rw [hcount]
    exact hcomes.trans hcomes'

end Rehearsal

namespace Turnstile

open Rehearsal

/-- **Every notification is accounted for.** Let runs of one script share a gate, on a disk on which
the logs that exist already are plain files and no two of them the same. Whatever builds are asked
for and given up, whenever the gate is notified, and in whatever order all of this comes: where
nobody is about to do anything,
- those who have returned the outcome are those who were let through, and they are as many as the
  notifications, without those that came when one was stored and no run waited, and without the one
  that is stored now, if one is;
- none is stored while a run waits;
- who was let through and who waits stand in this order in the line of those who have come to the
  gate, each of them once; and nobody is missing from it but who was given up;
- the calls of the tool are those of the runs that were started, in this order, one for each;
- whoever waits has all its lines in its log.

A rehearsal in which builds are asked for and the gate is notified is one of these runs, where each
run returns before the next one is let through. -/
theorem notifications_accounted (settings : Settings) (disk : Disk) (lines : List String)
    (outcome : Outcome)
    (hown : ∀ d, disk.makeDirs settings.logsDir = .ok d → LogStore.Own ⟨settings.logsDir⟩ d) :
    (∀ ps x, Steps lines outcome (start settings disk) ps x → x.Settled →
      (ps.passed.Perm (ps.returned outcome) ∧
        (ps.returned outcome).length + ps.lost + x.stored.toNat = ps.notified) ∧
      (x.stored = true → x.waiting = []) ∧
      (ps.reached.Nodup ∧ (ps.passed ++ x.waiting).Sublist ps.reached ∧
        ∀ b ∈ ps.reached, b ∈ ps.passed ++ x.waiting ∨ ps.happenings.Dropped b) ∧
      (x.service.calls = ps.happenings.callers.map
          (fun b => ⟨settings.command b.request, settings.timeout⟩) ∧
        (ps.happenings.callers.map (·.id)).Nodup) ∧
      ∀ b ∈ x.waiting,
        x.service.readLog b.project = .ok (some (String.join (lines.map (· ++ "\n"))))) ∧
    ∀ occasions : List Occasion, (∀ o ∈ occasions, o.isGate = true) →
      let s :=
        (Rehearsal.start settings disk .common (gatedScript lines outcome)).occurAll occasions
      ∃ ps, Steps lines outcome (start settings disk) ps s.turnstile ∧ s.turnstile.Settled ∧
        ps.notified = occasions.countP Occasion.isOpening ∧ ps.returned outcome = ps.passed := by
  refine ⟨fun ps x hsteps hset => ?_, fun occasions ho => ?_⟩
  · have h := hsteps.sound hown
    refine ⟨⟨h.perm_passed_returned hset, h.returned_eq hset⟩, h.counted.idle,
      ⟨h.inLine.nodup, h.inLine.order, h.inLine.gone⟩, ⟨h.invoked.calls, ?_⟩,
      fun b hb => h.readLog_of_waiting hb⟩
    rw [Trace.map_id_callers]
    exact h.invoked.nodup
  · obtain ⟨ps, hsteps, hnotified, hreturned⟩ :=
      (sharing_occurAll settings disk lines outcome ho).2
    have hrests := rests_occurAll settings disk .common (gatedScript lines outcome) occasions
    exact ⟨ps, hsteps, ⟨hrests.isSettled, rfl, rfl, rfl⟩, hnotified, hreturned⟩

/-- A gate that is notified twice before anybody comes and once later: some of these three
notifications may be lost or stored, and all others have let somebody through who has returned. -/
theorem three_notifications_accounted :
    (∀ d, Disk.initial.makeDirs Dispatcher.oneAtATime.logsDir = .ok d →
      LogStore.Own ⟨Dispatcher.oneAtATime.logsDir⟩ d) ∧
    ∃ ps x, Steps ["compiling"] .success (start Dispatcher.oneAtATime .initial) ps x ∧ x.Settled ∧
      ps.notified = 3 ∧ (ps.returned .success).length + ps.lost + x.stored.toNat = 3 := by
  obtain ⟨hsettled, hrehearsed⟩ := notifications_accounted Dispatcher.oneAtATime .initial
    ["compiling"] .success Dispatcher.own_initial
  obtain ⟨ps, hsteps, hset, hnotified, -⟩ := hrehearsed
    [.openOnce, .openOnce, .submit .android (.sample "demo"), .execute .android (.sample "next"),
      .openOnce] (by decide)
  have hthree : ps.notified = 3 := hnotified
  refine ⟨Dispatcher.own_initial, ps, _, hsteps, hset, hthree, ?_⟩
  rw [← hthree]
  exact (hsettled ps _ hsteps hset).1.2

end Turnstile

end BuildService
