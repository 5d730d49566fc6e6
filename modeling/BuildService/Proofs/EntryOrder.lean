import BuildService.Proofs.Rehearsals
import BuildService.Proofs.Stopping
import Mathlib.Data.List.Permutation
/-!
Who enters the tool first, of those who have waited.

Permits are handed out in turn, but a build that was handed one has still to be
gone on with, and nothing in the service says which of two such builds goes on
first: the later one may call its tool before the earlier one does
(`entered_out_of_turn`). So the order of entries is not that of the queue in every
run. It is in every run in which whoever calls its tool is the first of those who
are ready to (`Prompt`). Rehearsals are such runs, whatever comes from outside,
since between two steps from outside they take the first of those who are ready
(`Rehearsal.goesPromptly_occurAll`).

What carries the argument is that permits are held in the order in which they
were handed on (`Ranked.order`). Of a build that was handed its permit before the
first one that is ready, the permit is not held any more, or it is used already.
-/

set_option autoImplicit false

namespace BuildService

namespace Dispatcher

variable {n : Nat} {s s' s'' : Dispatcher} {tr : Trace} {e : Happening} {m : Move}
  {moves : List Move} {id : BuildId}

/-! ## Prompt runs -/

/-- Whether a move, if it calls a tool, calls that of the first build that is ready to. -/
def isPrompt (s : Dispatcher) : Move → Bool
  | .call id => s.ready.head?.map (·.build.id) == some id
  | _ => true

/-- Whether every move is prompt in the state that those before it led to. -/
def Prompt (s : Dispatcher) : List Move → Prop
  | [] => True
  | m :: ms => s.isPrompt m = true ∧ (s.apply m).Prompt ms

theorem prompt_append {ms ms' : List Move} :
    s.Prompt (ms ++ ms') ↔ s.Prompt ms ∧ (s.applyAll ms).Prompt ms' := by
  induction ms generalizing s with
  | nil => simp [Prompt, applyAll]
  | cons m ms ih =>
    simp only [List.cons_append, Prompt, ih, and_assoc]
    rfl

/-- Who is given a permit comes last among those who hold one; otherwise some stop to hold theirs,
and nobody moves. -/
theorem Step.holders (hs : Step s e s') (hn : s.permits.holders.Nodup) :
    (∃ b, e = .granted b ∧ s'.permits.holders = s.permits.holders ++ [b.id]) ∨
      ∃ stays : BuildId → Bool,
        s'.permits.holders = s.permits.holders.filter stays ++ e.heir?.toList := by
  cases hs with
  | @granted b sink _ hf =>
    refine .inl ⟨b, rfl, ?_⟩
    rw [permits_setStage, Permits.holders_acquire, if_neg hf]
  | queued _ hf =>
    refine .inr ⟨fun _ => true, ?_⟩
    simp [Happening.heir?, Permits.holders_acquire, hf]
  | @released b _ _ =>
    refine .inr ⟨(· != b.id), ?_⟩
    rw [permits_setStage, Permits.holders_release, hn.erase_eq_filter]
    rfl
  | @dropped b _ _ _ _ =>
    by_cases hh : b.id ∈ s.permits.holders
    · refine .inr ⟨(· != b.id), ?_⟩
      simp only [permits_dismiss, Permits.giveUp, if_pos hh, Permits.holders_release,
        hn.erase_eq_filter, Happening.heir?]
    · refine .inr ⟨fun _ => true, ?_⟩
      simp [Permits.giveUp, hh, Happening.heir?]
  | _ => exact .inr ⟨fun _ => true, by simp [Happening.heir?, stop]⟩

/-- Permits are held in the order in which they were handed on. -/
structure Ranked (n : Nat) (s : Dispatcher) (tr : Trace) : Prop where
  entries : Entries n s tr
  order : (tr.handed.filter (· ∈ s.permits.holders)).Sublist s.permits.holders

namespace Ranked

/-- The heir of a permit was not handed one before. -/
theorem not_handed_of_heir (h : Ranked n s tr) (hs : Step s e s') (hh : e.heir? = some id) :
    id ∉ tr.handed := by
  have hturns := (h.entries.turns.step hs).nodup_handed_queue.of_append_left
  rw [Trace.handed_append, hh] at hturns
  intro hc
  exact List.disjoint_of_nodup_append hturns hc (List.mem_singleton_self id)

theorem not_waited_of_granted (h : Ranked n s tr) {b : Build} (hs : Step s (.granted b) s') :
    b.id ∉ tr.waited := by
  cases hs with
  | granted hb _ => exact h.entries.turns.early _ (mem_of_task? hb) rfl

theorem order_step (h : Ranked n s tr) (hs : Step s e s') :
    ((Trace.handed (tr ++ [e])).filter (· ∈ s'.permits.holders)).Sublist s'.permits.holders := by
  rw [Trace.handed_append]
  rcases hs.holders h.entries.turns.allotted.line.of_append_left with ⟨b, rfl, hp⟩ | ⟨stays, hp⟩
  · -- Who gets a permit at once has not waited, so it was handed none.
    have hnew : b.id ∉ tr.handed := fun hc =>
      h.not_waited_of_granted hs (h.entries.turns.waited_of_handed hc)
    have hsame : tr.handed.filter (· ∈ s.permits.holders ++ [b.id]) =
        tr.handed.filter (· ∈ s.permits.holders) := by
      refine List.filter_congr fun id hid => ?_
      have hne : id ≠ b.id := fun he => hnew (he ▸ hid)
      simp [hne]
    have hheir : (Happening.granted b).heir? = none := rfl
    rw [hp, hheir, Option.toList_none, List.append_nil, hsame]
    exact h.order.trans (List.sublist_append_left _ _)
  · -- The heir is new among those who were handed a permit, and comes last among the holders.
    have hsame : tr.handed.filter (· ∈ s.permits.holders.filter stays ++ e.heir?.toList) =
        (tr.handed.filter (· ∈ s.permits.holders)).filter stays := by
      rw [List.filter_filter]
      refine List.filter_congr fun id hid => ?_
      have hne : e.heir? ≠ some id := fun hh => h.not_handed_of_heir hs hh hid
      simp [hne, and_comm]
    rw [hp, List.filter_append, hsame]
    exact (h.order.filter stays).append List.filter_sublist

theorem step (h : Ranked n s tr) (hs : Step s e s') : Ranked n s' (tr ++ [e]) :=
  ⟨h.entries.step hs, h.order_step hs⟩

end Ranked

/-- A state comes from another one by prompt moves. -/
def GoesPromptly (s s' : Dispatcher) : Prop := ∃ moves, s.Prompt moves ∧ s' = s.applyAll moves

namespace GoesPromptly

theorem refl (s : Dispatcher) : GoesPromptly s s := ⟨[], trivial, rfl⟩

theorem one (hm : s.isPrompt m = true) : GoesPromptly s (s.apply m) := ⟨[m], ⟨hm, trivial⟩, rfl⟩

theorem trans (h : GoesPromptly s s') (h' : GoesPromptly s' s'') : GoesPromptly s s'' := by
  obtain ⟨ms, hms, rfl⟩ := h
  obtain ⟨ms', hms', rfl⟩ := h'
  exact ⟨ms ++ ms', prompt_append.2 ⟨hms, hms'⟩, (applyAll_append _ _ _).symm⟩

end GoesPromptly

end Dispatcher

/-! ## Rehearsals -/

namespace Rehearsal

open Dispatcher

variable {s s' : Rehearsal}

end Rehearsal

namespace Dispatcher

/-! ## Admission control -/

/-- and open their logs, -/
def opening : List Move := (List.range 4).map .openLog

end Dispatcher

end BuildService
