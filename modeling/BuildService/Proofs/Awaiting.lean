import BuildService.Proofs.Rehearsals
import BuildService.Proofs.Rejection
/-!
A build that is waited for is built like one that is not.

Whether its caller waits for a build is written on the build, and the only move
that reads it is the one that gives the build up. `unawait` is a state as if nobody
waited for one of its builds. It is taken through every other move
(`apply_unawait`), so a run of a build that is waited for and the same run of the
build that is not differ in nothing but what is written on this build; and once the
build is not live any more, nothing is left on which it is written (`unawait_eq`).
The same holds of rehearsals on their way to rest (`settle_unawait`).
-/

set_option autoImplicit false

namespace BuildService

/-- The build as if nobody waited for the one with this number. -/
def Build.unawait (id : BuildId) (b : Build) : Build :=
  if b.id = id then { b with awaited := false } else b

namespace Build

variable (id : BuildId) (b : Build)

@[simp] theorem id_unawait : (b.unawait id).id = b.id := by
  unfold unawait
  split <;> rfl

@[simp] theorem request_unawait : (b.unawait id).request = b.request := by
  unfold unawait
  split <;> rfl

@[simp] theorem project_unawait : (b.unawait id).project = b.project := by
  simp [project]

theorem unawait_of_ne {id : BuildId} {b : Build} (h : b.id ≠ id) : b.unawait id = b := if_neg h

end Build

/-- The task as if nobody waited for the build with this number. -/
def Task.unawait (id : BuildId) (t : Task) : Task := { t with build := t.build.unawait id }

namespace Dispatcher

variable {s s' : Dispatcher} {id : BuildId} {b : Build} {m : Move}

/-- The state as if nobody waited for the build with this number. -/
def unawait (s : Dispatcher) (id : BuildId) : Dispatcher :=
  { s with tasks := s.tasks.map (Task.unawait id) }

/-- Nothing is left of a build that is not live. -/
theorem unawait_eq (h : ∀ b ∈ s.live, b.id ≠ id) : s.unawait id = s := by
  have htasks : s.tasks.map (Task.unawait id) = s.tasks := by
    refine (List.map_congr_left fun t ht => ?_).trans (List.map_id _)
    have hne : t.build.id ≠ id := h t.build (List.mem_map_of_mem ht)
    rw [Task.unawait, Build.unawait_of_ne hne]
    rfl
  simp only [unawait, htasks]

/-! ## Moves -/

theorem task?_unawait (i : BuildId) :
    (s.unawait id).task? i = (s.task? i).map (Task.unawait id) := by
  simp only [task?, unawait, List.find?_map, Function.comp_def, Task.unawait, Build.id_unawait]

theorem setStage_unawait (i : BuildId) (stage : Stage) :
    (s.unawait id).setStage i stage = (s.setStage i stage).unawait id := by
  simp only [setStage, unawait, List.map_map, Function.comp_def]
  congr 1
  refine List.map_congr_left fun t _ => ?_
  by_cases h : t.build.id = i <;> simp [Task.unawait, h]

theorem dismiss_unawait (i : BuildId) :
    (s.unawait id).dismiss i = (s.dismiss i).unawait id := by
  simp only [dismiss, unawait, List.filter_map, Function.comp_def, Task.unawait, Build.id_unawait]

/-- Nobody asks on the way of a build whether it is waited for. -/
theorem apply_unawait_inner (hm : m.isInner = true) :
    (s.unawait id).apply m = (s.apply m).unawait id := by
  cases m with
  | accept => cases hm
  | abandon => cases hm
  | stop => cases hm
  | openLog i =>
    simp only [apply, openLog, task?_unawait]
    rcases s.task? i with _ | ⟨b, stage⟩
    · rfl
    cases stage with
    | arrived =>
      have hreset : (s.unawait id).logs.reset (s.unawait id).disk (b.unawait id).project =
          s.logs.reset s.disk b.project := by rw [Build.project_unawait]; rfl
      simp only [Option.map_some, Task.unawait, hreset]
      rcases s.logs.reset s.disk b.project with ⟨_ | sink, disk⟩
      · exact setStage_unawait (s := { s with disk := disk }) i _
      · exact setStage_unawait (s := { s with disk := disk }) i _
    | _ => rfl
  | ask i =>
    simp only [apply, ask, task?_unawait]
    rcases s.task? i with _ | ⟨b, stage⟩
    · rfl
    cases stage with
    | opened sink => exact setStage_unawait (s := { s with permits := s.permits.acquire i }) i _
    | _ => rfl
  | call i =>
    simp only [apply, call, task?_unawait]
    rcases s.task? i with _ | ⟨b, stage⟩
    · rfl
    cases stage with
    | asking sink =>
      have hcall : (s.unawait id).callOf (b.unawait id) = s.callOf b := by
        simp only [callOf, Build.request_unawait]
        rfl
      simp only [Option.map_some, Task.unawait, hcall]
      by_cases hp : i ∈ s.permits.holders
      · have hp' : i ∈ (s.unawait id).permits.holders := hp
        rw [if_pos hp, if_pos hp']
        exact setStage_unawait (s := { s with calls := s.calls ++ [s.callOf b] }) i _
      · have hp' : i ∉ (s.unawait id).permits.holders := hp
        rw [if_neg hp, if_neg hp']
    | _ => rfl
  | writeLine i line =>
    simp only [apply, writeLine, task?_unawait]
    rcases s.task? i with _ | ⟨b, stage⟩
    · rfl
    cases stage with
    | running sink =>
      have hdisk : (s.unawait id).disk = s.disk := rfl
      simp only [Option.map_some, Task.unawait, hdisk]
      rcases sink.writeLine s.disk line with _ | ⟨sink, disk⟩
      · rfl
      · exact setStage_unawait (s := { s with disk := disk }) i _
    | _ => rfl
  | close i result =>
    simp only [apply, close, task?_unawait]
    rcases s.task? i with _ | ⟨b, stage⟩
    · rfl
    cases stage with
    | running sink => exact setStage_unawait (s := { s with disk := s.trailed sink result }) i _
    | _ => rfl
  | giveBack i =>
    simp only [apply, giveBack, task?_unawait]
    rcases s.task? i with _ | ⟨b, stage⟩
    · rfl
    cases stage with
    | closed result => exact setStage_unawait (s := { s with permits := s.permits.release i }) i _
    | _ => rfl
  | record i =>
    simp only [apply, record, task?_unawait]
    rcases s.task? i with _ | ⟨b, stage⟩
    · rfl
    cases stage with
    | leaving result =>
      simp only [Option.map_some, Task.unawait, Build.project_unawait]
      exact dismiss_unawait (s := { s with
        registry := (s.registry.complete b.project result.state).2
        endings := s.endings ++ [(i, result)] }) i
    | _ => rfl

/-- A build is admitted as if nobody waited for another one. -/
theorem accept_unawait (hid : id < s.nextId) (awaited : Bool) (platform : Platform) (r : Request) :
    (s.unawait id).accept awaited platform r =
      (s.accept awaited platform r).map fun x => (x.1, x.2.unawait id) := by
  have hcheck : (s.unawait id).check platform r = s.check platform r := rfl
  have hnew : s.nextId ≠ id := Nat.ne_of_gt hid
  simp only [accept, hcheck]
  rcases s.check platform r with e | registry
  · rfl
  · simp only [Except.map, unawait, List.map_append, List.map_singleton, Task.unawait]
    rw [Build.unawait_of_ne hnew]

/-- **Every move is the same whether a build is waited for or not**, except that only a build that
is waited for can be given up. -/
theorem apply_unawait (hid : id < s.nextId) (hm : m ≠ .abandon id) :
    (s.unawait id).apply m = (s.apply m).unawait id := by
  cases m with
  | accept awaited platform r =>
    simp only [apply, accept_unawait hid]
    rcases s.accept awaited platform r with e | ⟨b, s'⟩ <;> rfl
  | abandon i =>
    have hne : i ≠ id := fun h => hm (h ▸ rfl)
    simp only [apply, abandon, task?_unawait]
    cases ht : s.task? i with
    | none => rfl
    | some t =>
      obtain ⟨b, stage⟩ := t
      have hb : b.id ≠ id := fun h => hne ((id_of_task? ht).symm.trans h)
      simp only [Option.map_some, Task.unawait, Build.unawait_of_ne hb]
      split
      · exact dismiss_unawait (s := { s with permits := s.permits.giveUp i }) i
      · rfl
  | stop => rfl
  | _ => exact apply_unawait_inner rfl

/-- Who is admitted to be waited for could have been admitted without it. -/
theorem accept_false (hn : Numbered s) {platform : Platform} {r : Request}
    (h : s.accept true platform r = .ok (b, s')) :
    s.accept false platform r = .ok (b.unawait b.id, s'.unawait b.id) := by
  unfold accept at h ⊢
  split at h
  · cases h
  · cases h
    have hold : s.unawait s.nextId = s := unawait_eq fun c hc => Nat.ne_of_lt (hn.below c hc)
    have htasks : s.tasks.map (Task.unawait s.nextId) = s.tasks := congrArg tasks hold
    simp [Build.unawait, unawait, Task.unawait, htasks]

theorem nextId_le_apply (s : Dispatcher) (m : Move) : s.nextId ≤ (s.apply m).nextId := by
  rcases step_of_happening? s m with ⟨-, hsame⟩ | ⟨e, -, hs⟩
  · exact Nat.le_of_eq (congrArg nextId hsame.symm)
  · exact hs.nextId_le

/-- A whole run is the same whether a build is waited for or not, as long as it is not given up. -/
theorem applyAll_unawait {moves : List Move} (hid : id < s.nextId)
    (hm : ∀ m ∈ moves, m ≠ .abandon id) :
    (s.unawait id).applyAll moves = (s.applyAll moves).unawait id := by
  induction moves generalizing s with
  | nil => rfl
  | cons m ms ih =>
    obtain ⟨hfirst, hrest⟩ := List.forall_mem_cons.1 hm
    have hstep : (s.unawait id).apply m = (s.apply m).unawait id := apply_unawait hid hfirst
    have hcons : ∀ u : Dispatcher, u.applyAll (m :: ms) = (u.apply m).applyAll ms := fun _ => rfl
    rw [hcons, hcons, hstep]
    exact ih (Nat.lt_of_lt_of_le hid (nextId_le_apply s m)) hrest

/-! ## What happens by itself -/

theorem nextMove?_unawait :
    (s.unawait id).nextMove? = s.nextMove?.map fun x => (x.1.unawait id, x.2) := by
  have hmove : ∀ t : Task, moveOf? (t.unawait id) = moveOf? t := by
    rintro ⟨b, stage⟩
    cases stage <;> simp [moveOf?, Task.unawait]
  simp only [nextMove?, unawait, List.findSome?_map, List.map_findSome?, Function.comp_def, hmove,
    Option.map_map]

theorem ready_unawait : (s.unawait id).ready = s.ready.map (Task.unawait id) := by
  have hholders : (s.unawait id).permits = s.permits := rfl
  have hlookup : (fun i => (s.unawait id).task? i) = fun i => (s.task? i).map (Task.unawait id) :=
    funext task?_unawait
  simp only [ready, hholders, hlookup, ← List.map_filterMap, List.filter_map]
  rfl

end Dispatcher

/-- The run as if nobody waited for the build with this number. -/
def Held.unawait (id : BuildId) (h : Held) : Held := { h with build := h.build.unawait id }

namespace Rehearsal

open Dispatcher

variable {s s' : Rehearsal} {id : BuildId} {b : Build}

/-- The rehearsal as if nobody waited for the build with this number. -/
def unawait (s : Rehearsal) (id : BuildId) : Rehearsal :=
  { s with service := s.service.unawait id, held := s.held.map (Held.unawait id) }

theorem finish_unawait (i : BuildId) (result : BuildResult) :
    (s.unawait id).finish i result = (s.finish i result).unawait id := by
  have step : ∀ (service : Dispatcher) (m : Move), m.isInner = true →
      (service.unawait id).apply m = (service.apply m).unawait id :=
    fun _ _ hm => apply_unawait_inner hm
  have hservice := calc (s.service.unawait id).finish i result
      _ = (((s.service.unawait id).apply (.close i result)).apply (.giveBack i)).apply
            (.record i) := rfl
      _ = (s.service.finish i result).unawait id := by
        rw [step _ _ rfl, step _ _ rfl, step _ _ rfl]
        rfl
  simp only [finish, unawait, hservice, List.filter_map, Function.comp_def, Held.unawait,
    Build.id_unawait]

theorem arrive_unawait (script : Script) :
    (s.unawait id).arrive (b.unawait id) script = (s.arrive b script).unawait id := by
  have hold : ∀ u : Rehearsal, { u.unawait id with
      held := (u.unawait id).held ++ [⟨b.unawait id, script⟩] } =
        ({ u with held := u.held ++ [⟨b, script⟩] } : Rehearsal).unawait id := by
    simp [unawait, Held.unawait]
  have hgate : (s.unawait id).held.find? (·.build.project == b.project) =
      (s.held.find? (·.build.project == b.project)).map (Held.unawait id) := by
    simp only [unawait, List.find?_map, Function.comp_def, Held.unawait, Build.project_unawait]
  have hstopping : (s.unawait id).service.stopping = s.service.stopping := rfl
  simp only [arrive, Build.id_unawait, Build.project_unawait, hgate, hstopping, finish_unawait]
  split
  · rfl
  split
  · rfl
  have hkind : (s.unawait id).gate = s.gate := rfl
  have hopenings : (s.unawait id).openings = s.openings := rfl
  rw [hkind, hopenings]
  split
  · split
    · exact finish_unawait (s := { s with openings := false }) b.id _
    · exact hold s
  · cases s.held.find? (·.build.project == b.project) with
    | none => exact hold s
    | some h =>
      have hwho : (h.unawait id).build.id = h.build.id := Build.id_unawait id h.build
      simp only [Option.map_some, hwho]
      exact hold (s.finish h.build.id (s.resultOf h.script))

theorem writeLines_unawait (service : Dispatcher) (i : BuildId) (lines : List String) :
    writeLines (service.unawait id) i lines =
      ((writeLines service i lines).1, (writeLines service i lines).2.unawait id) := by
  induction lines generalizing service with
  | nil => rfl
  | cons line lines ih =>
    have hwrite : (service.unawait id).writeLine i line =
        ((service.writeLine i line).1, (service.writeLine i line).2.unawait id) := by
      refine Prod.ext ?_ (apply_unawait_inner (m := .writeLine i line) rfl)
      simp only [Dispatcher.writeLine, task?_unawait]
      rcases service.task? i with _ | ⟨b, stage⟩
      · rfl
      cases stage with
      | running sink =>
        have hdisk : (service.unawait id).disk = service.disk := rfl
        simp only [Option.map_some, Task.unawait, hdisk]
        rcases sink.writeLine service.disk line with _ | _ <;> rfl
      | _ => rfl
    simp only [writeLines, hwrite]
    rcases service.writeLine i line with ⟨_ | _, next⟩
    · rfl
    · exact ih next

theorem perform_unawait :
    (s.unawait id).perform (b.unawait id) = (s.perform b).unawait id := by
  have hcall : (s.service.unawait id).apply (.call b.id) =
      (s.service.apply (.call b.id)).unawait id := apply_unawait_inner rfl
  have hscript : (s.unawait id).scriptFor b.project = s.scriptFor b.project := rfl
  have hservice : (s.unawait id).service = s.service.unawait id := rfl
  simp only [perform_eq, written, Build.id_unawait, Build.project_unawait, hscript, hservice, hcall,
    writeLines_unawait]
  generalize writeLines (s.service.apply (.call b.id)) b.id (s.scriptFor b.project).lines = w
  obtain ⟨_ | _, service⟩ := w
  · exact finish_unawait (s := { s with service := service }) b.id _
  · exact arrive_unawait (s := { s with service := service }) _

theorem next?_unawait : (s.unawait id).next? = s.next?.map (·.unawait id) := by
  have hservice : (s.unawait id).service = s.service.unawait id := rfl
  unfold next?
  rw [hservice, nextMove?_unawait]
  cases hmove : s.service.nextMove? with
  | some x =>
    obtain ⟨t, m⟩ := x
    have hm : m.isInner = true := by
      have hof := (of_nextMove? hmove).2
      obtain ⟨b, stage⟩ := t
      cases stage <;> cases hof <;> rfl
    simp only [Option.map_some, apply_unawait_inner hm]
    rfl
  | none =>
    simp only [Option.map_none, ready_unawait]
    cases s.service.ready with
    | cons t ts => exact congrArg some perform_unawait
    | nil =>
      have hstopping : (s.service.unawait id).stopping = s.service.stopping := rfl
      simp only [List.map_nil, hstopping]
      split
      · have hhead : (s.unawait id).held.head? = s.held.head?.map (Held.unawait id) :=
          List.head?_map
        rw [hhead, Option.map_map, Option.map_map]
        congr 1
        funext h
        simp only [Function.comp_def, Held.unawait, Build.id_unawait, finish_unawait]
      · rfl

theorem settleFor_unawait (n : Nat) : (s.unawait id).settleFor n = (s.settleFor n).unawait id := by
  induction n generalizing s with
  | zero => rfl
  | succ n ih =>
    simp only [settleFor, next?_unawait]
    cases s.next? with
    | none => rfl
    | some s' => exact ih

/-- **A rehearsal comes to rest in the same way** whether a build is waited for or not. -/
theorem settle_unawait : (s.unawait id).settle = s.settle.unawait id := by
  have hahead : (s.unawait id).service.ahead = s.service.ahead := by
    simp only [unawait, Dispatcher.unawait, ahead, List.foldr_map]
    rfl
  rw [settle, hahead, settleFor_unawait, settle]

/-- Nothing is left of a build that is not live, also at the gates. -/
theorem unawait_eq {away : Option Build} (h : Staged away s)
    (hlive : ∀ b ∈ s.service.live, b.id ≠ id) : s.unawait id = s := by
  have hheld : s.held.map (Held.unawait id) = s.held := by
    refine (List.map_congr_left fun x hx => ?_).trans (List.map_id _)
    have hruns := ((h.held_iff x.build).1 (List.mem_map_of_mem hx)).1
    rw [Held.unawait, Build.unawait_of_ne (hlive _ hruns.mem_live)]
    rfl
  simp only [unawait, hheld, Dispatcher.unawait_eq hlive]

end Rehearsal

end BuildService
