import BuildService.Proofs.Calls
import BuildService.Proofs.Logs
import BuildService.Proofs.Running
/-!
Runs that share one gate.

All runs follow one script: each of them writes its lines, waits at the gate and then
returns the outcome of the script. The gate is notified from outside. A notification
lets the run through that has waited longest. If no run waits it is stored for the next
one that comes; only one is stored, so a further one is lost.

`Turnstile.Step` says what can happen next in any state, also where others have still to
go on: several notifications may come before the first run that they let through has
returned, and builds are admitted, are given their permits and are given up while others
write. Only a run that has been let through is never given up, since nobody who waits for
it would wait without an end.

The number of runs that return is not kept in step with the notifications. Each of these
is lost, stored, or has let a run through, at once or when the run came; and a run that
was let through has returned or is about to. It is this account that every step keeps
(`Turnstile.Counted`), and where nobody is about to do anything it gives the number.
-/

set_option autoImplicit false

namespace BuildService

/-! ## What can happen -/

/-- What becomes of a notification. -/
inductive Notice where
  /-- It lets the run through that has waited longest. -/
  | taken (b : Build)
  /-- No run waits, and it is stored for the next one that comes. -/
  | stored
  /-- No run waits, and one is stored already. -/
  | lost
  deriving DecidableEq

/-- What can happen where runs share a gate. -/
inductive Passage where
  /-- Something happens to the service. -/
  | service (e : Happening)
  /-- A run has written its lines and comes to the gate; it may find a notification there. -/
  | reached (b : Build) (notified : Bool)
  | notified (n : Notice)

namespace Passage

def happening? : Passage → Option Happening
  | .service e => some e
  | _ => none

/-- The run that comes to the gate, if that is what happens. -/
def reached? : Passage → Option Build
  | .reached b _ => some b
  | _ => none

/-- The run that is let through, if that is what happens. -/
def passed? : Passage → Option Build
  | .reached b true => some b
  | .notified (.taken b) => some b
  | _ => none

/-- The run that returns the outcome, if that is what happens. -/
def returned? (outcome : Outcome) : Passage → Option Build
  | .service (.closed b (.ok o)) => if o = outcome then some b else none
  | _ => none

def isNotified : Passage → Bool
  | .notified _ => true
  | _ => false

def isLost : Passage → Bool
  | .notified .lost => true
  | _ => false

end Passage

/-- What has happened, the first thing first. -/
abbrev Passages := List Passage

namespace Passages

variable (ps : Passages) (p : Passage)

/-- What has happened to the service. -/
def happenings : Trace := ps.filterMap Passage.happening?

/-- The runs that have come to the gate, in order. -/
def reached : List Build := ps.filterMap Passage.reached?

/-- The runs that were let through, in order. -/
def passed : List Build := ps.filterMap Passage.passed?

/-- The runs that have returned the outcome, in order. -/
def returned (outcome : Outcome) : List Build := ps.filterMap (Passage.returned? outcome)

/-- How often the gate was notified. -/
def notified : Nat := ps.countP Passage.isNotified

/-- How often it was notified with a notification stored and no run there. -/
def lost : Nat := ps.countP Passage.isLost

variable (ps' : Passages)

@[simp] theorem happenings_append : happenings (ps ++ ps') = ps.happenings ++ happenings ps' :=
  List.filterMap_append

@[simp] theorem reached_append : reached (ps ++ ps') = ps.reached ++ reached ps' :=
  List.filterMap_append

@[simp] theorem passed_append : passed (ps ++ ps') = ps.passed ++ passed ps' :=
  List.filterMap_append

@[simp] theorem returned_append (outcome : Outcome) :
    returned (ps ++ ps') outcome = ps.returned outcome ++ returned ps' outcome :=
  List.filterMap_append

@[simp] theorem notified_append : notified (ps ++ ps') = ps.notified + notified ps' :=
  List.countP_append

@[simp] theorem lost_append : lost (ps ++ ps') = ps.lost + lost ps' := List.countP_append

@[simp] theorem happenings_cons :
    happenings (p :: ps) = p.happening?.toList ++ ps.happenings := by
  cases h : p.happening? <;> simp [happenings, h]

@[simp] theorem reached_cons : reached (p :: ps) = p.reached?.toList ++ ps.reached := by
  cases h : p.reached? <;> simp [reached, h]

@[simp] theorem passed_cons : passed (p :: ps) = p.passed?.toList ++ ps.passed := by
  cases h : p.passed? <;> simp [passed, h]

@[simp] theorem returned_cons (outcome : Outcome) :
    returned (p :: ps) outcome = (p.returned? outcome).toList ++ ps.returned outcome := by
  cases h : p.returned? outcome <;> simp [returned, h]

@[simp] theorem notified_cons : notified (p :: ps) = p.isNotified.toNat + ps.notified := by
  cases h : p.isNotified <;> simp [notified, h, Nat.add_comm]

@[simp] theorem lost_cons : lost (p :: ps) = p.isLost.toNat + ps.lost := by
  cases h : p.isLost <;> simp [lost, h, Nat.add_comm]

@[simp] theorem happenings_nil : happenings [] = [] := rfl

@[simp] theorem reached_nil : reached [] = [] := rfl

@[simp] theorem passed_nil : passed [] = [] := rfl

@[simp] theorem returned_nil (outcome : Outcome) : returned [] outcome = [] := rfl

@[simp] theorem notified_nil : notified [] = 0 := rfl

@[simp] theorem lost_nil : lost [] = 0 := rfl

end Passages

/-- Whether something happens to a build whose tool does not run. -/
def Happening.isAside : Happening → Bool
  | .admitted _ | .opened _ | .unopened _ _ | .granted _ | .queued _ | .released _ _
  | .recorded _ _ => true
  | _ => false

/-- A service, and where the runs are whose tool was called. -/
structure Turnstile where
  service : Dispatcher
  /-- The runs that are not at the gate yet, each with the lines that it has still to write. -/
  writing : List (Build × List String)
  /-- The runs that wait at the gate, in the order in which they came. -/
  waiting : List Build
  /-- The runs that were let through and have not returned. -/
  through : List Build
  /-- The runs that could not write a line and have not returned. -/
  failing : List (Build × IoFault)
  /-- Whether a notification is stored. -/
  stored : Bool

namespace Turnstile

/-- A new service; nobody has notified the gate. -/
def start (settings : Settings) (disk : Disk) : Turnstile where
  service := .start settings .empty disk
  writing := []
  waiting := []
  through := []
  failing := []
  stored := false

/-- All runs, wherever they are. -/
def present (x : Turnstile) : List Build :=
  x.writing.map (·.1) ++ x.waiting ++ x.through ++ x.failing.map (·.1)

/-- What can happen next where the script has these lines and this outcome. -/
inductive Step (lines : List String) (outcome : Outcome) (x : Turnstile) :
    Passage → Turnstile → Prop
  /-- A build goes on to its tool or from it, or is admitted. -/
  | goes {e s} (he : e.isAside = true) (hs : x.service.Step e s) :
      Step lines outcome x (.service e) { x with service := s }
  | called {b s} (hs : x.service.Step (.called b) s) :
      Step lines outcome x (.service (.called b))
        { x with service := s, writing := (b, lines) :: x.writing }
  /-- A run writes the next of its lines. -/
  | wrote {b line rest s} (hb : (b, line :: rest) ∈ x.writing)
      (hs : x.service.Step (.wrote b line) s) :
      Step lines outcome x (.service (.wrote b line))
        { x with
          service := s
          writing := (b, rest) :: x.writing.erase (b, line :: rest) }
  /-- The next line cannot be written: the run ends with the fault. -/
  | refused {b line rest cause s} (hb : (b, line :: rest) ∈ x.writing)
      (hs : x.service.Step (.refused b line cause) s) :
      Step lines outcome x (.service (.refused b line cause))
        { x with
          service := s
          writing := x.writing.erase (b, line :: rest)
          failing := (b, cause) :: x.failing }
  /-- A run comes to the gate and takes the notification that is stored. -/
  | passes {b} (hb : (b, []) ∈ x.writing) (hst : x.stored = true) :
      Step lines outcome x (.reached b true)
        { x with
          writing := x.writing.erase (b, [])
          through := b :: x.through
          stored := false }
  /-- A run comes to the gate and waits. -/
  | waits {b} (hb : (b, []) ∈ x.writing) (hst : x.stored = false) :
      Step lines outcome x (.reached b false)
        { x with writing := x.writing.erase (b, []), waiting := x.waiting ++ [b] }
  | taken {b rest} (hw : x.waiting = b :: rest) :
      Step lines outcome x (.notified (.taken b))
        { x with waiting := rest, through := b :: x.through }
  | stores (hw : x.waiting = []) (hst : x.stored = false) :
      Step lines outcome x (.notified .stored) { x with stored := true }
  | loses (hw : x.waiting = []) (hst : x.stored = true) :
      Step lines outcome x (.notified .lost) x
  /-- A run that was let through returns the outcome of the script. -/
  | returned {b s} (hb : b ∈ x.through) (hs : x.service.Step (.closed b (.ok outcome)) s) :
      Step lines outcome x (.service (.closed b (.ok outcome)))
        { x with service := s, through := x.through.erase b }
  | fails {b cause s} (hb : (b, cause) ∈ x.failing)
      (hs : x.service.Step (.closed b (.error (.io cause))) s) :
      Step lines outcome x (.service (.closed b (.error (.io cause))))
        { x with service := s, failing := x.failing.erase (b, cause) }
  /-- A build that has nothing to end with is given up, wherever it is. -/
  | dropped {b stage heir s} (ht : b ∉ x.through) (hf : b ∉ x.failing.map (·.1))
      (hr : stage.result? = none) (hs : x.service.Step (.dropped b stage heir) s) :
      Step lines outcome x (.service (.dropped b stage heir))
        { x with
          service := s
          writing := x.writing.filter (·.1.id != b.id)
          waiting := x.waiting.filter (·.id != b.id) }

/-- Several things happen one after another. -/
inductive Steps (lines : List String) (outcome : Outcome) (x : Turnstile) :
    Passages → Turnstile → Prop
  | refl : Steps lines outcome x [] x
  | tail {ps y p z} (h : Steps lines outcome x ps y) (hs : Step lines outcome y p z) :
      Steps lines outcome x (ps ++ [p]) z

/-- Whether nobody is about to do anything: every live build waits, for a permit or at the gate. -/
structure Settled (x : Turnstile) : Prop where
  service : x.service.isSettled = true
  writing : x.writing = []
  through : x.through = []
  failing : x.failing = []

variable {settings : Settings} {disk : Disk} {lines : List String} {outcome : Outcome}
  {x y : Turnstile} {ps : Passages} {p : Passage} {b c : Build}

/-- A step either is one of the service, or leaves the service alone. -/
theorem Step.service_cases (hs : Step lines outcome x p y) :
    (∃ e, p = .service e ∧ x.service.Step e y.service) ∨
      p.happening? = none ∧ y.service = x.service := by
  cases hs with
  | goes _ hs => exact .inl ⟨_, rfl, hs⟩
  | called hs => exact .inl ⟨_, rfl, hs⟩
  | wrote _ hs => exact .inl ⟨_, rfl, hs⟩
  | refused _ hs => exact .inl ⟨_, rfl, hs⟩
  | returned _ hs => exact .inl ⟨_, rfl, hs⟩
  | fails _ hs => exact .inl ⟨_, rfl, hs⟩
  | dropped _ _ _ hs => exact .inl ⟨_, rfl, hs⟩
  | _ => exact .inr ⟨rfl, rfl⟩

/-- What every step of the service keeps is kept by every step. -/
theorem Step.keeps {I : Dispatcher → Trace → Prop} (hs : Step lines outcome x p y)
    (step : ∀ s tr e s', I s tr → s.Step e s' → I s' (tr ++ [e]))
    (h : I x.service ps.happenings) : I y.service (Passages.happenings (ps ++ [p])) := by
  rw [Passages.happenings_append]
  rcases hs.service_cases with ⟨e, rfl, hservice⟩ | ⟨hnone, hsame⟩
  · exact step _ _ _ _ h hservice
  · rw [hsame, show Passages.happenings [p] = [] by simp [Passages.happenings, hnone],
      List.append_nil]
    exact h

/-! ## Where the runs are -/

theorem count_present (x : Turnstile) (c : Build) :
    x.present.count c = (x.writing.map (·.1)).count c + x.waiting.count c + x.through.count c +
      (x.failing.map (·.1)).count c := by
  simp only [present, List.count_append]

/-- Each run is at one place, and those at some place are the builds whose tool runs. -/
structure Placed (x : Turnstile) : Prop where
  nodup : x.present.Nodup
  mem_iff : ∀ c, c ∈ x.present ↔ x.service.Runs c

namespace Placed

theorem moved (h : x.Placed) (hp : x.present.Perm y.present)
    (hr : ∀ c, y.service.Runs c ↔ x.service.Runs c) : y.Placed :=
  ⟨hp.nodup_iff.1 h.nodup, fun c => by rw [← hp.mem_iff, h.mem_iff, hr]⟩

theorem joined (h : x.Placed) (hp : y.present = b :: x.present) (hb : ¬x.service.Runs b)
    (hr : ∀ c, y.service.Runs c ↔ b = c ∨ x.service.Runs c) : y.Placed := by
  refine ⟨?_, fun c => ?_⟩
  · rw [hp]
    exact List.nodup_cons.2 ⟨fun hmem => hb ((h.mem_iff b).1 hmem), h.nodup⟩
  · rw [hp, List.mem_cons, h.mem_iff, hr, eq_comm]

theorem left (h : x.Placed) (hp : x.present.Perm (b :: y.present))
    (hr : ∀ c, y.service.Runs c ↔ x.service.Runs c ∧ b ≠ c) : y.Placed := by
  obtain ⟨hnot, hnodup⟩ := List.nodup_cons.1 (hp.nodup_iff.1 h.nodup)
  refine ⟨hnodup, fun c => ?_⟩
  rw [hr, ← h.mem_iff, hp.mem_iff, List.mem_cons]
  constructor
  · intro hc
    exact ⟨.inr hc, fun he => hnot (he ▸ hc)⟩
  · rintro ⟨hc, hne⟩
    exact hc.resolve_left (Ne.symm hne)

/-- Of the number of a live build no other run is there. -/
theorem id_ne_iff (h : x.Placed) (hn : x.service.Numbered) (hb : b ∈ x.service.live)
    (hc : c ∈ x.present) : c.id ≠ b.id ↔ b ≠ c :=
  not_congr ⟨fun hid =>
    (List.inj_on_of_nodup_map hn.nodup ((h.mem_iff c).1 hc).mem_live hb hid).symm,
    fun he => he ▸ rfl⟩

theorem step (h : x.Placed) (hn : x.service.Numbered) (hs : Step lines outcome x p y) :
    y.Placed := by
  -- Whoever writes is taken out of those who do.
  have hwriting : ∀ {b ls}, (b, ls) ∈ x.writing → ∀ c, (x.writing.map (·.1)).count c =
      (b :: (x.writing.erase (b, ls)).map (·.1)).count c := fun hb =>
    ((List.perm_cons_erase hb).map (·.1)).count_eq
  cases hs with
  | goes he hs =>
    refine h.moved (.refl _) fun c => ?_
    rw [hs.runs_iff hn]
    cases ‹Happening› <;> simp [Happening.isAside] at he ⊢
  | @called b s hs =>
    refine h.joined (b := b) rfl (hs.not_runs_of_called hn) fun c => ?_
    simp [hs.runs_iff hn]
  | wrote hb hs =>
    refine h.moved (List.perm_iff_count.2 fun c => ?_) fun c => by simp [hs.runs_iff hn]
    simp only [count_present, hwriting hb, List.map_cons]
  | refused hb hs =>
    refine h.moved (List.perm_iff_count.2 fun c => ?_) fun c => by simp [hs.runs_iff hn]
    simp only [count_present, hwriting hb, List.map_cons, List.count_cons]
    omega
  | passes hb =>
    refine h.moved (List.perm_iff_count.2 fun c => ?_) fun _ => .rfl
    simp only [count_present, hwriting hb, List.count_cons]
    omega
  | waits hb =>
    refine h.moved (List.perm_iff_count.2 fun c => ?_) fun _ => .rfl
    simp only [count_present, hwriting hb, List.count_cons, List.count_append, List.count_nil]
    omega
  | taken hw =>
    refine h.moved (List.perm_iff_count.2 fun c => ?_) fun _ => .rfl
    simp only [count_present, hw, List.count_cons]
    omega
  | stores => exact h.moved (.refl _) fun _ => .rfl
  | loses => exact h
  | @returned b s hb hs =>
    refine h.left (b := b) (List.perm_iff_count.2 fun c => ?_) fun c => by simp [hs.runs_iff hn]
    simp only [count_present, List.count_cons, (List.perm_cons_erase hb).count_eq]
    omega
  | @fails b cause s hb hs =>
    refine h.left (b := b) (List.perm_iff_count.2 fun c => ?_) fun c => by simp [hs.runs_iff hn]
    simp only [count_present, List.count_cons, ((List.perm_cons_erase hb).map (·.1)).count_eq,
      List.map_cons]
    omega
  | @dropped b stage heir s ht hf hr hs =>
    have hb : b ∈ x.service.live := (hs.mem_live rfl).resolve_right (by simp)
    -- Those who have something to end with have another number.
    have hfilter : ∀ l : List Build, l ⊆ x.present → b ∉ l → l.filter (·.id != b.id) = l := by
      intro l hl hnot
      refine List.filter_eq_self.2 fun c hc => bne_iff_ne.2 ?_
      exact (h.id_ne_iff hn hb (hl hc)).2 fun he => hnot (he ▸ hc)
    have hthrough : x.through.filter (·.id != b.id) = x.through :=
      hfilter _ (fun c hc => by simp [present, hc]) ht
    have hfailing : (x.failing.map (·.1)).filter (·.id != b.id) = x.failing.map (·.1) :=
      hfilter _ (fun c hc => List.mem_append_right _ hc) hf
    have hwrite : (x.writing.filter (·.1.id != b.id)).map (·.1) =
        (x.writing.map (·.1)).filter (·.id != b.id) := by
      rw [List.filter_map]
      rfl
    have hpresent : x.present.filter (·.id != b.id) =
        (x.writing.filter (·.1.id != b.id)).map (·.1) ++ x.waiting.filter (·.id != b.id) ++
          x.through ++ x.failing.map (·.1) := by
      rw [hwrite, present, List.filter_append, List.filter_append, List.filter_append, hthrough,
        hfailing]
    refine ⟨?_, fun c => ?_⟩
    · rw [present, ← hpresent]
      exact h.nodup.filter _
    rw [present, ← hpresent, List.mem_filter, bne_iff_ne, h.mem_iff, hs.runs_iff hn]
    constructor
    · rintro ⟨hc, hne⟩
      have hne' := (h.id_ne_iff hn hb ((h.mem_iff c).2 hc)).1 hne
      exact .inr ⟨hc, by simp, by simp [hne']⟩
    · rintro (hcalled | ⟨hc, -, hne⟩)
      · cases hcalled
      · exact ⟨hc, (h.id_ne_iff hn hb ((h.mem_iff c).2 hc)).2 fun he => hne stage heir (he ▸ rfl)⟩

end Placed

/-! ## What the runs have written -/

/-- Who runs has called its tool, and who has not called it has written nothing. -/
structure Begun (s : Dispatcher) (tr : Trace) : Prop where
  numbered : s.Numbered
  runs : ∀ c, s.Runs c → .called c ∈ tr
  unwritten : ∀ c, .called c ∉ tr → tr.written c = []

theorem Begun.step {s s' : Dispatcher} {tr : Trace} {e : Happening} (h : Begun s tr)
    (hs : s.Step e s') : Begun s' (tr ++ [e]) := by
  refine ⟨h.numbered.step hs, fun c => hs.called_of_runs h.numbered h.runs, fun c hc => ?_⟩
  have hbefore : .called c ∉ tr := fun hmem => hc (List.mem_append_left _ hmem)
  rw [Trace.written_append, h.unwritten c hbefore]
  cases hs with
  | @wrote b sink _ _ line ht =>
    -- Who writes runs, and so is not the one that has not called its tool.
    have hne : b ≠ c := by
      rintro rfl
      exact hbefore (h.runs b ⟨sink, Dispatcher.mem_of_task? ht⟩)
    simp [Happening.line?, hne]
  | _ => rfl

theorem written_append (ps : Passages) (p : Passage) (c : Build) :
    (Passages.happenings (ps ++ [p])).written c =
      ps.happenings.written c ++ (p.happening?.bind (Happening.line? c)).toList := by
  rw [Passages.happenings_append, Passages.happenings_cons, Passages.happenings_nil,
    List.append_nil]
  cases p with
  | service e => exact Trace.written_append ps.happenings e c
  | _ => simp [Passage.happening?]

theorem Placed.nodup_writing (h : x.Placed) : (x.writing.map (·.1)).Nodup := by
  have hnodup := h.nodup
  rw [present, List.append_assoc, List.append_assoc] at hnodup
  exact (List.nodup_append.1 hnodup).1

theorem Placed.not_mem_waiting (h : x.Placed) {w : Build × List String} (hw : w ∈ x.writing) :
    w.1 ∉ x.waiting := by
  have hnodup := h.nodup
  rw [present, List.append_assoc, List.append_assoc] at hnodup
  intro hmem
  exact (List.nodup_append.1 hnodup).2.2 _ (List.mem_map_of_mem hw) _ (List.mem_append_left _ hmem)
    rfl

/-- Who is taken out of those who write is not among them any more. -/
theorem Placed.ne_of_mem_erase (h : x.Placed) {v w : Build × List String} (hv : v ∈ x.writing)
    (hw : w ∈ x.writing.erase v) : w.1 ≠ v.1 := by
  have hnodup := ((List.perm_cons_erase hv).map (·.1)).nodup_iff.1 h.nodup_writing
  rw [List.map_cons, List.nodup_cons] at hnodup
  exact fun he => hnodup.1 (he ▸ List.mem_map_of_mem hw)

/-- How far the runs have come with the lines of the script. -/
structure Lined (lines : List String) (x : Turnstile) (tr : Trace) : Prop where
  writing : ∀ w ∈ x.writing, tr.written w.1 ++ w.2 = lines
  waiting : ∀ b ∈ x.waiting, tr.written b = lines

/-- Where no line is written, a run may only come to the gate, with none left to write. -/
theorem Lined.same {tr tr' : Trace} (h : Lined lines x tr) (hw : ∀ c, tr'.written c = tr.written c)
    (hwriting : y.writing ⊆ x.writing)
    (hwaiting : ∀ c ∈ y.waiting, c ∈ x.waiting ∨ (c, []) ∈ x.writing) : Lined lines y tr' := by
  refine ⟨fun w hmem => ?_, fun c hmem => ?_⟩
  · rw [hw]
    exact h.writing w (hwriting hmem)
  · rw [hw]
    rcases hwaiting c hmem with hc | hc
    · exact h.waiting c hc
    · simpa using h.writing _ hc

theorem Lined.step (h : Lined lines x ps.happenings) (hplaced : x.Placed)
    (hbegun : Begun x.service ps.happenings)
    (hnew : ∀ b, p = .service (.called b) → .called b ∉ ps.happenings)
    (hs : Step lines outcome x p y) : Lined lines y (Passages.happenings (ps ++ [p])) := by
  have hkeep : (∀ c, p.happening?.bind (Happening.line? c) = none) →
      ∀ c, (Passages.happenings (ps ++ [p])).written c = ps.happenings.written c := fun hp c => by
    rw [written_append, hp, Option.toList_none, List.append_nil]
  cases hs with
  | @goes e s he hs =>
    refine h.same (hkeep fun c => ?_) (List.Subset.refl _) fun c => .inl
    cases e <;> first | rfl | cases he
  | @called b s hs =>
    have hw := hkeep fun c => rfl
    refine ⟨fun w hmem => ?_, fun c hmem => (hw c).trans (h.waiting c hmem)⟩
    rw [hw]
    rcases List.mem_cons.1 hmem with rfl | hmem
    · rw [hbegun.unwritten b (hnew b rfl), List.nil_append]
    · exact h.writing w hmem
  | @wrote b line rest s hb hs =>
    have hw := written_append ps (.service (.wrote b line))
    have hother : ∀ c, c ≠ b → (Passages.happenings (ps ++ [.service (.wrote b line)])).written c =
        ps.happenings.written c := fun c hc => by
      rw [hw, Passage.happening?, Option.bind_some, Happening.line?, if_neg (Ne.symm hc),
        Option.toList_none, List.append_nil]
    refine ⟨fun w hmem => ?_, fun c hmem => ?_⟩
    · rcases List.mem_cons.1 hmem with rfl | hmem
      · -- The line that it writes is the first of those that it had to write.
        rw [hw, Passage.happening?, Option.bind_some, Happening.line?, if_pos rfl, ← h.writing _ hb,
          Option.toList_some, List.append_assoc, List.singleton_append]
      · rw [hother _ (hplaced.ne_of_mem_erase hb hmem)]
        exact h.writing w (List.mem_of_mem_erase hmem)
    · rw [hother c fun he => hplaced.not_mem_waiting hb (he ▸ hmem)]
      exact h.waiting c hmem
  | refused hb => exact h.same (hkeep fun _ => rfl) List.erase_subset fun c => .inl
  | passes hb => exact h.same (hkeep fun _ => rfl) List.erase_subset fun c => .inl
  | waits hb =>
    refine h.same (hkeep fun _ => rfl) List.erase_subset fun c hc => ?_
    rcases List.mem_append.1 hc with hc | hc
    · exact .inl hc
    · exact .inr (List.mem_singleton.1 hc ▸ hb)
  | taken hw =>
    exact h.same (hkeep fun _ => rfl) (List.Subset.refl _)
      fun c hc => .inl (hw ▸ List.mem_cons_of_mem _ hc)
  | dropped =>
    exact h.same (hkeep fun _ => rfl) (List.filter_subset_self _)
      fun c hc => .inl (List.mem_of_mem_filter hc)
  | _ => exact h.same (hkeep fun _ => rfl) (List.Subset.refl _) fun c => .inl

/-! ## The order at the gate -/

/-- Who has come to the gate, and in which order those who came are let through. -/
structure InLine (x : Turnstile) (ps : Passages) : Prop where
  fresh : ∀ w ∈ x.writing, w.1 ∉ ps.reached
  called : ∀ b ∈ ps.reached, .called b ∈ ps.happenings
  nodup : ps.reached.Nodup
  order : (ps.passed ++ x.waiting).Sublist ps.reached
  gone : ∀ b ∈ ps.reached, b ∈ ps.passed ++ x.waiting ∨ ps.happenings.Dropped b

namespace InLine

theorem dropped_mono {tr tr' : Trace} (h : tr.Dropped b) (hsub : tr ⊆ tr') : tr'.Dropped b := by
  obtain ⟨stage, heir, hmem⟩ := h
  exact ⟨stage, heir, hsub hmem⟩

theorem happenings_subset (ps : Passages) (p : Passage) :
    ps.happenings ⊆ Passages.happenings (ps ++ [p]) := by
  rw [Passages.happenings_append]
  exact List.subset_append_left _ _

/-- Nobody comes to the gate, and nobody who has come leaves the line. -/
theorem same (h : InLine x ps) (hr : p.reached? = none)
    (hline : p.passed?.toList ++ y.waiting = x.waiting)
    (hw : ∀ w ∈ y.writing, w.1 ∉ ps.reached) : InLine y (ps ++ [p]) := by
  have hreached : Passages.reached (ps ++ [p]) = ps.reached := by simp [hr]
  have hpassed : Passages.passed (ps ++ [p]) ++ y.waiting = ps.passed ++ x.waiting := by
    simp [hline]
  exact {
    fresh := fun w hmem => hreached ▸ hw w hmem
    called := fun b hmem => happenings_subset ps p (h.called b (hreached ▸ hmem))
    nodup := hreached ▸ h.nodup
    order := by
      rw [hpassed, hreached]
      exact h.order
    gone := fun b hmem => by
      rw [hpassed]
      exact (h.gone b (hreached ▸ hmem)).imp_right (dropped_mono · (happenings_subset ps p)) }

/-- A run comes to the gate: it is the last one in the line. -/
theorem arrive (h : InLine x ps) (hplaced : x.Placed) (hbegun : Begun x.service ps.happenings)
    (hb : (b, []) ∈ x.writing) (hr : p.reached? = some b) (he : p.happening? = none)
    (hline : p.passed?.toList ++ y.waiting = x.waiting ++ [b])
    (hw : y.writing = x.writing.erase (b, [])) : InLine y (ps ++ [p]) := by
  have hreached : Passages.reached (ps ++ [p]) = ps.reached ++ [b] := by simp [hr]
  have hpassed : Passages.passed (ps ++ [p]) ++ y.waiting = ps.passed ++ x.waiting ++ [b] := by
    simp [hline]
  have hsame : Passages.happenings (ps ++ [p]) = ps.happenings := by simp [he]
  refine ⟨fun w hmem => ?_, fun c hmem => ?_, ?_, ?_, fun c hmem => ?_⟩
  · rw [hw] at hmem
    rw [hreached, List.mem_append, List.mem_singleton, not_or]
    exact ⟨h.fresh w (List.mem_of_mem_erase hmem), hplaced.ne_of_mem_erase hb hmem⟩
  · rw [hsame]
    rw [hreached, List.mem_append, List.mem_singleton] at hmem
    rcases hmem with hmem | rfl
    · exact h.called c hmem
    · refine hbegun.runs c ((hplaced.mem_iff c).1 ?_)
      simp only [present, List.append_assoc]
      exact List.mem_append_left _ (List.mem_map_of_mem hb)
  · rw [hreached]
    exact h.nodup.append (List.nodup_singleton b) (List.disjoint_singleton.2 (h.fresh _ hb))
  · rw [hpassed, hreached]
    exact h.order.append (List.Sublist.refl _)
  · rw [hpassed, hsame]
    rw [hreached, List.mem_append] at hmem
    rcases hmem with hmem | hmem
    · exact (h.gone c hmem).imp_left (List.mem_append_left _)
    · exact .inl (List.mem_append_right _ hmem)

/-- A run that may wait is given up: it leaves the line, and only it. -/
theorem leave (h : InLine x ps) (hplaced : x.Placed) (hn : x.service.Numbered) {stage : Stage}
    {heir : Option BuildId} (hb : b ∈ x.service.live)
    (hwaiting : y.waiting = x.waiting.filter (·.id != b.id)) (hw : y.writing ⊆ x.writing) :
    InLine y (ps ++ [.service (.dropped b stage heir)]) := by
  have hsub := happenings_subset ps (.service (.dropped b stage heir))
  have hreached : Passages.reached (ps ++ [.service (.dropped b stage heir)]) = ps.reached := by
    simp [Passage.reached?]
  have hpassed : Passages.passed (ps ++ [.service (.dropped b stage heir)]) = ps.passed := by
    simp [Passage.passed?]
  refine ⟨fun w hmem => ?_, fun c hmem => hsub (h.called c (hreached ▸ hmem)), hreached ▸ h.nodup,
    ?_, fun c hmem => ?_⟩
  · rw [hreached]
    exact h.fresh w (hw hmem)
  · rw [hreached, hpassed, hwaiting]
    exact ((List.Sublist.refl _).append List.filter_sublist).trans h.order
  rw [hreached] at hmem
  rw [hpassed, hwaiting]
  rcases h.gone c hmem with hline | hgone
  · rcases List.mem_append.1 hline with hc | hc
    · exact .inl (List.mem_append_left _ hc)
    · by_cases hid : c.id = b.id
      · have hsame : b = c := not_not.1 fun hne =>
          (hplaced.id_ne_iff hn hb (by simp [present, hc])).2 hne hid
        refine .inr ⟨stage, heir, ?_⟩
        simp [Passage.happening?, hsame]
      · exact .inl (List.mem_append_right _ (List.mem_filter.2 ⟨hc, bne_iff_ne.2 hid⟩))
  · exact .inr (dropped_mono hgone hsub)

theorem step (h : InLine x ps) (hplaced : x.Placed) (hbegun : Begun x.service ps.happenings)
    (hidle : x.stored = true → x.waiting = [])
    (hnew : ∀ b, p = .service (.called b) → .called b ∉ ps.happenings)
    (hs : Step lines outcome x p y) : InLine y (ps ++ [p]) := by
  cases hs with
  | @called b s hs =>
    refine h.same rfl rfl fun w hmem => ?_
    rcases List.mem_cons.1 hmem with rfl | hmem
    · exact fun hr => hnew b rfl (h.called b hr)
    · exact h.fresh w hmem
  | wrote hb =>
    refine h.same rfl rfl fun w hmem => ?_
    rcases List.mem_cons.1 hmem with rfl | hmem
    · exact fun hr => h.fresh _ hb hr
    · exact h.fresh w (List.mem_of_mem_erase hmem)
  | refused => exact h.same rfl rfl fun w hmem => h.fresh w (List.mem_of_mem_erase hmem)
  | @passes b hb hst =>
    -- Nobody waits where a notification is stored.
    have hline : [b] ++ x.waiting = x.waiting ++ [b] := by simp [hidle hst]
    exact h.arrive hplaced hbegun hb rfl rfl hline rfl
  | waits hb => exact h.arrive hplaced hbegun hb rfl rfl rfl rfl
  | taken hw => exact h.same rfl hw.symm h.fresh
  | dropped _ _ _ hs =>
    exact h.leave hplaced hbegun.numbered ((hs.mem_live rfl).resolve_right (by simp)) rfl
      (List.filter_subset_self _)
  | _ => exact h.same rfl rfl h.fresh

end InLine

/-! ## The account of the notifications -/

/-- Where the notifications are, and those whom they have let through. -/
structure Counted (outcome : Outcome) (x : Turnstile) (ps : Passages) : Prop where
  idle : x.stored = true → x.waiting = []
  passed : ps.passed.Perm (ps.returned outcome ++ x.through)
  notified : ps.notified = ps.passed.length + ps.lost + x.stored.toNat

namespace Counted

/-- The account is kept where what is notified and what was stored is as much as who is let
through, what is lost and what is stored then. -/
theorem balance (h : Counted outcome x ps)
    (hp : p.isNotified.toNat + x.stored.toNat =
      p.passed?.toList.length + p.isLost.toNat + y.stored.toNat) :
    Passages.notified (ps ++ [p]) = (Passages.passed (ps ++ [p])).length +
      Passages.lost (ps ++ [p]) + y.stored.toNat := by
  have hnotified := h.notified
  simp only [Passages.notified_append, Passages.notified_cons, Passages.notified_nil,
    Passages.passed_append, Passages.passed_cons, Passages.passed_nil, List.length_append,
    Passages.lost_append, Passages.lost_cons, Passages.lost_nil, List.length_nil]
  omega

/-- Nobody is let through, nobody who was returns, and the gate is not notified. -/
theorem same (h : Counted outcome x ps) (hp : p.passed? = none) (hr : p.returned? outcome = none)
    (hn : p.isNotified = false) (hl : p.isLost = false) (ht : y.through = x.through)
    (hst : y.stored = x.stored) (hidle : x.stored = true → y.waiting = []) :
    Counted outcome y (ps ++ [p]) where
  idle hc := hidle (hst ▸ hc)
  passed := by simpa [hp, hr, ht] using h.passed
  notified := h.balance (by simp [hn, hp, hl, hst])

/-- One more run is let through. -/
theorem perm_passed (h : Counted outcome x ps) (hp : p.passed? = some b)
    (hr : p.returned? outcome = none) :
    (Passages.passed (ps ++ [p])).Perm
      (Passages.returned (ps ++ [p]) outcome ++ b :: x.through) := by
  have hperm := (h.passed.append_right [b]).trans
    ((List.perm_append_singleton b _).trans List.perm_middle.symm)
  simpa [hp, hr] using hperm

theorem step (h : Counted outcome x ps) (hs : Step lines outcome x p y) :
    Counted outcome y (ps ++ [p]) := by
  cases hs with
  | @goes e s he hs =>
    have hret : (Passage.service e).returned? outcome = none := by
      cases e <;> first | rfl | cases he
    exact h.same rfl hret rfl rfl rfl rfl h.idle
  | passes hb hst =>
    -- The notification that was stored has let this run through.
    exact ⟨fun hc => absurd hc (by simp), h.perm_passed rfl rfl, h.balance (by rw [hst]; rfl)⟩
  | waits hb hst =>
    refine h.same rfl rfl rfl rfl rfl rfl fun hc => ?_
    rw [hst] at hc
    cases hc
  | taken hw =>
    refine ⟨fun hc => ?_, h.perm_passed rfl rfl, h.balance rfl⟩
    rw [h.idle hc] at hw
    cases hw
  | stores hw hst =>
    exact ⟨fun _ => hw, by simpa [Passage.passed?, Passage.returned?] using h.passed,
      h.balance (by rw [hst]; rfl)⟩
  | loses =>
    exact ⟨h.idle, by simpa [Passage.passed?, Passage.returned?] using h.passed, h.balance rfl⟩
  | returned hb =>
    refine ⟨h.idle, ?_, h.balance rfl⟩
    have hperm := h.passed.trans ((List.perm_cons_erase hb).append_left _)
    simpa [Passage.passed?, Passage.returned?] using hperm
  | dropped =>
    exact h.same rfl rfl rfl rfl rfl rfl fun hc => by rw [h.idle hc, List.filter_nil]
  | _ => exact h.same rfl rfl rfl rfl rfl rfl h.idle

end Counted

/-! ## Every run -/

/-- What every step keeps. -/
structure Sound (settings : Settings) (disk : Disk) (lines : List String) (outcome : Outcome)
    (x : Turnstile) (ps : Passages) : Prop where
  logged : Dispatcher.Logged settings disk x.service ps.happenings
  invoked : Dispatcher.Invoked settings x.service ps.happenings
  begun : Begun x.service ps.happenings
  placed : x.Placed
  lined : Lined lines x ps.happenings
  inLine : InLine x ps
  counted : Counted outcome x ps

theorem Sound.step (h : Sound settings disk lines outcome x ps)
    (hown : ∀ d, disk.makeDirs settings.logsDir = .ok d → LogStore.Own ⟨settings.logsDir⟩ d)
    (hs : Step lines outcome x p y) : Sound settings disk lines outcome y (ps ++ [p]) := by
  have hnew : ∀ b, p = .service (.called b) → .called b ∉ ps.happenings := by
    rintro b rfl
    rcases hs.service_cases with ⟨e, he, hservice⟩ | ⟨hnone, -⟩
    · cases he
      exact h.invoked.not_called_before hservice
    · cases hnone
  exact {
    logged := hs.keeps (fun _ _ _ _ h hs => h.step hown hs) h.logged
    invoked := hs.keeps (fun _ _ _ _ h hs => h.step hs) h.invoked
    begun := hs.keeps (fun _ _ _ _ h hs => h.step hs) h.begun
    placed := h.placed.step h.begun.numbered hs
    lined := h.lined.step h.placed h.begun hnew hs
    inLine := h.inLine.step h.placed h.begun h.counted.idle hnew hs
    counted := h.counted.step hs }

theorem sound_start (settings : Settings) (disk : Disk) (lines : List String) (outcome : Outcome)
    (hown : ∀ d, disk.makeDirs settings.logsDir = .ok d → LogStore.Own ⟨settings.logsDir⟩ d) :
    Sound settings disk lines outcome (start settings disk) [] where
  logged := Dispatcher.logged settings disk hown []
  invoked := Dispatcher.invoked settings .empty disk []
  begun := ⟨(Dispatcher.rooted settings .empty disk []).numbered,
    by simp [start, Dispatcher.start, Dispatcher.Runs],
    by simp [Passages.happenings, Trace.written]⟩
  placed := ⟨by simp [present, start],
    by simp [present, start, Dispatcher.start, Dispatcher.Runs]⟩
  lined := ⟨by simp [start], by simp [start]⟩
  inLine := ⟨by simp [start], by simp [Passages.reached], by simp [Passages.reached],
    by simp [Passages.passed, start], by simp [Passages.reached]⟩
  counted := ⟨by simp [start], .refl _, rfl⟩

/-- **Every run of a new service keeps the account.** -/
theorem Steps.sound
    (hown : ∀ d, disk.makeDirs settings.logsDir = .ok d → LogStore.Own ⟨settings.logsDir⟩ d)
    (h : Steps lines outcome (start settings disk) ps x) :
    Sound settings disk lines outcome x ps := by
  induction h with
  | refl => exact sound_start settings disk lines outcome hown
  | tail _ hs ih => exact ih.step hown hs

namespace Sound

variable (h : Sound settings disk lines outcome x ps)

include h

/-- Where nobody is about to return, those who were let through have returned. -/
theorem perm_passed_returned (hset : x.Settled) : ps.passed.Perm (ps.returned outcome) := by
  have hpassed := h.counted.passed
  rwa [hset.through, List.append_nil] at hpassed

/-- Those who have returned are then as many as the notifications that are neither lost nor
stored. -/
theorem returned_eq (hset : x.Settled) :
    (ps.returned outcome).length + ps.lost + x.stored.toNat = ps.notified := by
  rw [← (h.perm_passed_returned hset).length_eq]
  exact h.counted.notified.symm

/-- Who waits has its lines in its log, and nothing else. -/
theorem readLog_of_waiting (hb : b ∈ x.waiting) :
    x.service.readLog b.project = .ok (some (String.join (lines.map (· ++ "\n")))) := by
  have hpresent : b ∈ x.present := by simp [present, hb]
  obtain ⟨sink, ht⟩ := (h.placed.mem_iff b).1 hpresent
  have hresult : ps.happenings.result? b = none :=
    h.logged.truthful.accounted.stage _ ht
  rw [h.logged.readLog_eq (h.logged.sink _ ht sink rfl), Trace.text, Trace.trailer?, hresult,
    h.lined.waiting b hb]
  simp

end Sound

end Turnstile

end BuildService
