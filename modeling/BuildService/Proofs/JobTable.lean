import BuildService.Registry
import Mathlib
/-!
The table of jobs as callers see it who use it at the same time.

Every operation takes the lock of the table before its first look and lets it go
after its last change, so the calls of all callers come one after the other: a
list of calls is any interleaving of any number of callers, also of callers who
go on from the answers they got. What such a list does is its history, with the
answer to each call and the table that the call left.

For one project a call does one of three things: it begins the job, it ends the
job, or it leaves the state as it was. `Effect` is this case distinction, and all
that is said of histories is proved from it by induction on the calls. A project
whose state is never stored directly goes from not running to running and back,
and the one who brings it there is the first who asks.
-/

set_option autoImplicit false

namespace BuildService

namespace Registry

/-! ## Calls and what comes of them -/

/-- What may be asked of the table. -/
inductive Action where
  | get (project : String)
  | set (project : String) (state : JobState)
  | tryBegin (project : String)
  | complete (project : String) (state : JobState)
  | snapshot

/-- The project that an action is about; a snapshot is about none. -/
def Action.project? : Action → Option String
  | .get p => some p
  | .set p _ => some p
  | .tryBegin p => some p
  | .complete p _ => some p
  | .snapshot => none

/-- Whether an action stores the state of a project without looking at it. -/
def Action.Stores (a : Action) (project : String) : Prop := ∃ state, a = .set project state

inductive Answer where
  | state (state : JobState)
  | stored
  | begun
  | refused (fault : Fault)
  | completed (changed : Bool)
  | entries (entries : List (String × JobState))

/-- One call: what was asked, what came back, and the table afterwards. -/
structure Turn where
  action : Action
  answer : Answer
  after : Registry

def turn (r : Registry) (a : Action) : Turn :=
  match a with
  | .get p => ⟨a, .state (r.get p), r⟩
  | .set p state => ⟨a, .stored, r.set p state⟩
  | .tryBegin p =>
    match r.tryBegin p with
    | .ok r' => ⟨a, .begun, r'⟩
    | .error e => ⟨a, .refused e, r⟩
  | .complete p state => ⟨a, .completed (r.complete p state).1, (r.complete p state).2⟩
  | .snapshot => ⟨a, .entries r.snapshot, r⟩

/-- What a list of calls comes to, call by call. -/
def history (r : Registry) : List Action → List Turn
  | [] => []
  | a :: calls => r.turn a :: (r.turn a).after.history calls

/-- The table after a list of calls. -/
def after (r : Registry) (calls : List Action) : Registry :=
  calls.foldl (fun r a => (r.turn a).after) r

namespace Turn

/-- Whether this call is the one that began the job of a project. -/
def begins (t : Turn) (project : String) : Bool :=
  match t.action, t.answer with
  | .tryBegin p, .begun => p == project
  | _, _ => false

/-- Whether this call is the one that ended the job of a project. -/
def ends (t : Turn) (project : String) : Bool :=
  match t.action, t.answer with
  | .complete p _, .completed true => p == project
  | _, _ => false

end Turn

/-! ## The single call -/

section Call

variable (r : Registry) (p q : String) (state : JobState)

theorem get_erase : (r.erase p).get q = if q = p then .unknown else r.get q := by
  by_cases hq : q = p
  · subst hq
    have hnone : (r.entries.filter (·.1 != q)).find? (·.1 == q) = none := by
      simp [List.find?_eq_none]
    simp [get, erase, hnone]
  · simp only [get, erase, hq, if_false, List.find?_filter]
    congr 3
    funext e
    by_cases he : e.1 = q
    · simp [he, hq]
    · simp [he]

/-- Whatever is stored is read back; storing `unknown` is the same as forgetting. -/
theorem get_set : (r.set p state).get q = if q = p then state else r.get q := by
  unfold set
  split
  · next hu => rw [get_erase, hu]
  · next hu => exact get_put r p q state hu

theorem tryBegin_of_running (h : r.get p = .running) :
    r.tryBegin p = .error (.alreadyRunning p) := by
  simp [tryBegin, h]

theorem exists_tryBegin_of_not_running (h : r.get p ≠ .running) : ∃ r', r.tryBegin p = .ok r' := by
  simp [tryBegin, h]

theorem complete_of_running (ht : state.isTerminal = true) (h : r.get p = .running) :
    (r.complete p state).1 = true := by
  simp [complete, ht, h]

/-- A completion that comes too late, or with a state in which no job ends, changes nothing. -/
theorem complete_of_not (h : ¬(state.isTerminal = true ∧ r.get p = .running)) :
    r.complete p state = (false, r) := by
  simp [complete, h]

/-- The table lists exactly what is known. -/
theorem mem_snapshot_iff : (p, state) ∈ r.snapshot ↔ r.get p = state ∧ state ≠ .unknown := by
  constructor
  · intro hm
    refine ⟨?_, r.known _ hm⟩
    obtain ⟨e, he⟩ : ∃ e, r.entries.find? (·.1 == p) = some e :=
      Option.isSome_iff_exists.1 (List.find?_isSome.2 ⟨(p, state), hm, by simp⟩)
    -- A project stands in the table once, so what is found is this entry.
    have hp : e.1 = p := by simpa using List.find?_some he
    have : e = (p, state) :=
      List.inj_on_of_nodup_map r.nodup (List.mem_of_find?_eq_some he) hm hp
    simp [get, he, this]
  · rintro ⟨hget, hu⟩
    cases he : r.entries.find? (·.1 == p) with
    | none =>
      simp only [get, he, Option.map_none, Option.getD_none] at hget
      exact absurd hget.symm hu
    | some e =>
      simp only [get, he, Option.map_some, Option.getD_some] at hget
      have hp : e.1 = p := by simpa using List.find?_some he
      have : e = (p, state) := Prod.ext hp hget
      exact this ▸ List.mem_of_find?_eq_some he

@[simp] theorem turn_action (a : Action) : (r.turn a).action = a := by
  unfold turn
  split <;> try rfl
  split <;> rfl

/-- A job is begun exactly if it is not running; if it is, the caller hears so and nothing
changes. -/
theorem turn_tryBegin :
    if r.get p = .running then
      (r.turn (.tryBegin p)).answer = .refused (.alreadyRunning p) ∧
        (r.turn (.tryBegin p)).after = r
    else
      (r.turn (.tryBegin p)).answer = .begun ∧
        (r.turn (.tryBegin p)).after.get p = .running := by
  split
  · next h => simp [turn, tryBegin_of_running r p h]
  · next h =>
    obtain ⟨r', hb⟩ := exists_tryBegin_of_not_running r p h
    simp [turn, hb, (get_of_tryBegin hb).2 p]

/-- A job is ended exactly if it is running and the state is one in which a job ends; otherwise
nothing changes. -/
theorem turn_complete :
    if state.isTerminal = true ∧ r.get p = .running then
      (r.turn (.complete p state)).answer = .completed true ∧
        (r.turn (.complete p state)).after.get p = state
    else
      (r.turn (.complete p state)).answer = .completed false ∧
        (r.turn (.complete p state)).after = r := by
  split
  · next h =>
    simp [turn, complete_of_running r p state h.1 h.2, get_complete h.1 h.2 p]
  · next h => simp [turn, complete_of_not r p state h]

end Call

section Effect

variable {r : Registry} {p : String}

/-- What a call can do to one project. -/
inductive Effect (r : Registry) (p : String) (t : Turn) : Prop where
  /-- It finds the job not running and begins it. -/
  | begun (begins : t.begins p = true) (ends : t.ends p = false)
      (idle : r.get p ≠ .running) (running : t.after.get p = .running)
  /-- It finds the job running and ends it. -/
  | ended (state : JobState) (begins : t.begins p = false) (ends : t.ends p = true)
      (action : t.action = .complete p state) (terminal : state.isTerminal = true)
      (running : r.get p = .running) (settled : t.after.get p = state)
  /-- It leaves the state as it was: it did not begin a job that could have been begun, nor end
  one that could have been ended. -/
  | kept (begins : t.begins p = false) (ends : t.ends p = false)
      (same : t.after.get p = r.get p)
      (late : t.action = .tryBegin p →
        r.get p = .running ∧ t.answer = .refused (.alreadyRunning p))
      (vain : ∀ state, t.action = .complete p state →
        ¬(state.isTerminal = true ∧ r.get p = .running))

namespace Effect

variable {t : Turn}

theorem of_begins (h : Effect r p t) (hb : t.begins p = true) :
    r.get p ≠ .running ∧ t.after.get p = .running := by
  cases h with
  | begun _ _ idle running => exact ⟨idle, running⟩
  | ended _ begins => exact absurd hb (by simp [begins])
  | kept begins => exact absurd hb (by simp [begins])

theorem of_ends (h : Effect r p t) (he : t.ends p = true) :
    r.get p = .running ∧ t.after.get p ≠ .running := by
  cases h with
  | begun _ ends => exact absurd he (by simp [ends])
  | ended state _ _ _ terminal running settled =>
    refine ⟨running, fun e => ?_⟩
    obtain rfl : state = .running := settled.symm.trans e
    cases terminal
  | kept _ ends => exact absurd he (by simp [ends])

end Effect

/-- A call about another project leaves the state as it was. -/
theorem get_turn_of_ne {a : Action} (h : a.project? ≠ some p) :
    (r.turn a).after.get p = r.get p := by
  cases a with
  | get q => rfl
  | snapshot => rfl
  | set q state =>
    have hne : p ≠ q := fun e => h (by rw [e]; rfl)
    simp [turn, get_set, hne]
  | tryBegin q =>
    have hne : p ≠ q := fun e => h (by rw [e]; rfl)
    cases hb : r.tryBegin q with
    | error e => simp [turn, hb]
    | ok r' => simp [turn, hb, (get_of_tryBegin hb).2 p, hne]
  | complete q state =>
    have hne : p ≠ q := fun e => h (by rw [e]; rfl)
    by_cases hc : state.isTerminal = true ∧ r.get q = .running
    · simp [turn, get_complete hc.1 hc.2 p, hne]
    · simp [turn, complete_of_not r q state hc]

/-- Every call does one of the three to a project, unless it stores its state. -/
theorem effect (r : Registry) {a : Action} (h : ¬a.Stores p) : Effect r p (r.turn a) := by
  by_cases hp : a.project? = some p
  · cases a with
    | snapshot => cases hp
    | set q state =>
      obtain rfl : q = p := Option.some.inj hp
      exact absurd ⟨state, rfl⟩ h
    | get q => exact .kept rfl rfl rfl (fun e => nomatch e) (fun _ e => nomatch e)
    | tryBegin q =>
      obtain rfl : q = p := Option.some.inj hp
      have ht := turn_tryBegin r q
      split at ht
      · next hr =>
        refine .kept ?_ ?_ (by rw [ht.2]) (fun _ => ⟨hr, ht.1⟩) (fun _ e => ?_)
        · simp [Turn.begins, ht.1]
        · simp [Turn.ends, ht.1]
        · simp at e
      · next hr =>
        exact .begun (by simp [Turn.begins, ht.1]) (by simp [Turn.ends, ht.1]) hr ht.2
    | complete q state =>
      obtain rfl : q = p := Option.some.inj hp
      have ht := turn_complete r q state
      split at ht
      · next hc =>
        exact .ended state (by simp [Turn.begins, ht.1]) (by simp [Turn.ends, ht.1]) (by simp)
          hc.1 hc.2 ht.2
      · next hc =>
        refine .kept ?_ ?_ (by rw [ht.2]) (fun e => ?_) (fun st e => ?_)
        · simp [Turn.begins, ht.1]
        · simp [Turn.ends, ht.1]
        · simp at e
        · simp only [turn_action, Action.complete.injEq, true_and] at e
          exact e ▸ hc
  · -- A call about another project is none of the two kinds for this one.
    have hb : (r.turn a).begins p = false := by
      cases a <;> simp_all [Turn.begins, Action.project?]
      split <;> simp_all
    have he : (r.turn a).ends p = false := by
      cases a <;> simp_all [Turn.ends, Action.project?]
      split <;> simp_all
    refine .kept hb he (get_turn_of_ne hp) (fun e => ?_) (fun st e => ?_)
    · rw [turn_action] at e
      exact absurd (by rw [e]; rfl) hp
    · rw [turn_action] at e
      exact absurd (by rw [e]; rfl) hp

end Effect

/-! ## Histories -/

section History

variable {r : Registry} {p : String} {calls : List Action}

theorem after_cons (r : Registry) (a : Action) (calls : List Action) :
    r.after (a :: calls) = (r.turn a).after.after calls := rfl

/-- Where a history is cut, the calls can be cut. -/
theorem exists_of_history_eq {before later : List Turn} {t : Turn}
    (h : r.history calls = before ++ t :: later) : ∃ first a rest, calls = first ++ a :: rest ∧
      r.history first = before ∧ t = (r.after first).turn a ∧ t.after.history rest = later := by
  induction before generalizing r calls with
  | nil =>
    cases calls with
    | nil => cases h
    | cons a calls =>
      obtain ⟨rfl, hl⟩ := List.cons.inj h
      exact ⟨[], a, calls, rfl, rfl, rfl, hl⟩
  | cons u before ih =>
    cases calls with
    | nil => cases h
    | cons b calls =>
      obtain ⟨rfl, hl⟩ := List.cons.inj h
      obtain ⟨first, a, rest, rfl, hf, ht, hr⟩ := ih hl
      exact ⟨b :: first, a, rest, rfl, by rw [history, hf], ht, hr⟩

/-- The balance of a project: how often its job was begun and how often it was ended differ by
whether it runs, now or when the counting began. -/
theorem countP_begins (hp : ∀ a ∈ calls, ¬a.Stores p) :
    (r.history calls).countP (·.begins p) + (if r.get p = .running then 1 else 0) =
      (r.history calls).countP (·.ends p) +
        (if (r.after calls).get p = .running then 1 else 0) := by
  induction calls generalizing r with
  | nil => rfl
  | cons a calls ih =>
    have hrest := @ih (r.turn a).after fun b hb => hp b (List.mem_cons_of_mem a hb)
    simp only [history, List.countP_cons]
    rw [after_cons]
    cases effect r (hp a List.mem_cons_self) with
    | begun begins ends idle running =>
      simp only [running, if_true] at hrest
      simp only [begins, ends, idle, if_true, if_false, Bool.false_eq_true]
      omega
    | ended state begins ends action terminal running settled =>
      have hstate : state ≠ .running := by
        rintro rfl
        cases terminal
      simp only [settled, hstate, if_false] at hrest
      simp only [begins, ends, running, if_true, if_false, Bool.false_eq_true]
      omega
    | kept begins ends same =>
      rw [same] at hrest
      simp only [begins, ends, if_false, Bool.false_eq_true]
      exact hrest

/-- While nobody begins the job of a project that does not run, its state stays what it is, and
every attempt to end it is in vain. -/
theorem settled_of_no_begin (hp : ∀ a ∈ calls, ¬a.Stores p) (hidle : r.get p ≠ .running)
    (hnone : ∀ t ∈ r.history calls, t.begins p = false) :
    ∀ t ∈ r.history calls, t.ends p = false ∧ t.after.get p = r.get p := by
  induction calls generalizing r with
  | nil => exact fun t ht => nomatch ht
  | cons a calls ih =>
    obtain ⟨hends, hsame⟩ :
        (r.turn a).ends p = false ∧ (r.turn a).after.get p = r.get p := by
      cases effect r (hp a List.mem_cons_self) with
      | begun begins => exact absurd begins (by simp [hnone _ List.mem_cons_self])
      | ended _ _ _ _ _ running => exact absurd running hidle
      | kept _ ends same => exact ⟨ends, same⟩
    have hrest := ih (fun b hb => hp b (List.mem_cons_of_mem a hb)) (hsame ▸ hidle)
      fun t ht => hnone t (List.mem_cons_of_mem _ ht)
    rw [hsame] at hrest
    rintro t (_ | ⟨_, ht⟩)
    · exact ⟨hends, hsame⟩
    · exact hrest t ht

/-- While nobody ends the job of a project that runs, every attempt to begin it is refused. -/
theorem refused_of_no_end (hp : ∀ a ∈ calls, ¬a.Stores p) (hrun : r.get p = .running)
    (hnone : ∀ t ∈ r.history calls, t.ends p = false) :
    ∀ t ∈ r.history calls, t.begins p = false ∧
      (t.action = .tryBegin p → t.answer = .refused (.alreadyRunning p)) := by
  induction calls generalizing r with
  | nil => exact fun t ht => nomatch ht
  | cons a calls ih =>
    cases effect r (hp a List.mem_cons_self) with
    | begun _ _ idle => exact absurd hrun idle
    | ended _ _ ends => exact absurd ends (by simp [hnone _ List.mem_cons_self])
    | kept begins _ same late _ =>
      have hrest := ih (fun b hb => hp b (List.mem_cons_of_mem a hb)) (same.trans hrun)
        fun t ht => hnone t (List.mem_cons_of_mem _ ht)
      rintro t (_ | ⟨_, ht⟩)
      · exact ⟨begins, fun e => (late e).2⟩
      · exact hrest t ht

/-- If the job of a project runs and one of the calls ends it, then the first attempt to end it
in a state in which jobs end is the one that counts; up to it the job runs. -/
theorem exists_first_end (hp : ∀ a ∈ calls, ¬a.Stores p) (hrun : r.get p = .running)
    (hsome : ∃ t ∈ r.history calls, t.ends p = true) :
    ∃ (before : List Turn) (t : Turn) (later : List Turn) (state : JobState),
      r.history calls = before ++ t :: later ∧
      (t.ends p = true ∧ t.action = .complete p state ∧ state.isTerminal = true ∧
        t.after.get p = state) ∧
      ∀ u ∈ before, u.after.get p = .running ∧
        ∀ st, u.action = .complete p st → st.isTerminal = false := by
  induction calls generalizing r with
  | nil =>
    obtain ⟨t, ht, -⟩ := hsome
    cases ht
  | cons a calls ih =>
    cases effect r (hp a List.mem_cons_self) with
    | begun _ _ idle => exact absurd hrun idle
    | ended state _ ends action terminal _ settled =>
      exact ⟨[], _, _, state, rfl, ⟨ends, action, terminal, settled⟩, fun u hu => nomatch hu⟩
    | kept _ ends same _ vain =>
      obtain ⟨t, ht, hend⟩ := hsome
      have ht : t ∈ (r.turn a).after.history calls := by
        rcases List.mem_cons.1 ht with rfl | ht
        · rw [ends] at hend
          cases hend
        · exact ht
      obtain ⟨before, u, later, state, heq, hu, hbefore⟩ :=
        ih (fun b hb => hp b (List.mem_cons_of_mem a hb)) (same.trans hrun) ⟨t, ht, hend⟩
      refine ⟨r.turn a :: before, u, later, state, by rw [history, heq, List.cons_append], hu, ?_⟩
      rintro v (_ | ⟨_, hv⟩)
      · exact ⟨same.trans hrun, fun st e =>
          Bool.eq_false_iff.2 fun ht => vain st e ⟨ht, hrun⟩⟩
      · exact hbefore v hv

/-- If the job of a project does not run and one of the calls begins it, then it is the first
attempt that does. -/
theorem exists_first_begin (hp : ∀ a ∈ calls, ¬a.Stores p) (hidle : r.get p ≠ .running)
    (hsome : ∃ t ∈ r.history calls, t.begins p = true) :
    ∃ (before : List Turn) (t : Turn) (later : List Turn),
      r.history calls = before ++ t :: later ∧
      (t.begins p = true ∧ t.after.get p = .running) ∧
      ∀ u ∈ before, u.action ≠ .tryBegin p := by
  induction calls generalizing r with
  | nil =>
    obtain ⟨t, ht, -⟩ := hsome
    cases ht
  | cons a calls ih =>
    cases effect r (hp a List.mem_cons_self) with
    | begun begins _ _ running =>
      exact ⟨[], _, _, rfl, ⟨begins, running⟩, fun u hu => nomatch hu⟩
    | ended _ _ _ _ _ running => exact absurd running hidle
    | kept begins _ same late _ =>
      obtain ⟨t, ht, hbegin⟩ := hsome
      have ht : t ∈ (r.turn a).after.history calls := by
        rcases List.mem_cons.1 ht with rfl | ht
        · rw [begins] at hbegin
          cases hbegin
        · exact ht
      obtain ⟨before, u, later, heq, hu, hbefore⟩ :=
        ih (fun b hb => hp b (List.mem_cons_of_mem a hb)) (same ▸ hidle) ⟨t, ht, hbegin⟩
      refine ⟨r.turn a :: before, u, later, by rw [history, heq, List.cons_append], hu, ?_⟩
      rintro v (_ | ⟨_, hv⟩)
      · exact fun e => hidle (late e).1
      · exact hbefore v hv

end History

/-! ## Every history -/

section Between

variable {r : Registry} {p : String} {calls : List Action}

/-- The calls between two calls of a history, and the tables they go from and come to. -/
theorem exists_middle {before between later : List Turn} {t t' : Turn}
    (heq : r.history calls = before ++ t :: (between ++ t' :: later)) :
    ∃ (s : Registry) (a : Action) (middle : List Action) (a' : Action),
      (∀ c ∈ a :: (middle ++ [a']), c ∈ calls) ∧ t = s.turn a ∧
      t.after.history middle = between ∧ t' = (t.after.after middle).turn a' := by
  obtain ⟨first, a, rest, rfl, -, ht, hrest⟩ := exists_of_history_eq heq
  obtain ⟨middle, a', last, rfl, hbetween, ht', -⟩ := exists_of_history_eq hrest
  refine ⟨r.after first, a, middle, a', fun c hc => ?_, ht, hbetween, ht'⟩
  simp only [List.mem_cons, List.mem_append, List.not_mem_nil, or_false] at hc ⊢
  tauto

/-- Between two calls that begin the job of a project exactly one call ends it. -/
theorem exists_end_between (hp : ∀ a ∈ calls, ¬a.Stores p) {before between later : List Turn}
    {b b' : Turn} (heq : r.history calls = before ++ b :: (between ++ b' :: later))
    (hb : b.begins p = true) (hb' : b'.begins p = true)
    (hnone : ∀ t ∈ between, t.begins p = false) :
    ∃ (first : List Turn) (e : Turn) (rest : List Turn) (state : JobState),
      between = first ++ e :: rest ∧
      (e.action = .complete p state ∧ e.answer = .completed true ∧ state.isTerminal = true ∧
        e.after.get p = state) ∧
      (∀ t ∈ first, t.after.get p = .running ∧
        ∀ st, t.action = .complete p st → st.isTerminal = false) ∧
      ∀ t ∈ rest, t.ends p = false ∧ t.after.get p = state := by
  obtain ⟨s, a, middle, a', hmem, rfl, rfl, rfl⟩ := exists_middle heq
  have hrun := ((effect s (hp a (hmem a (by simp)))).of_begins hb).2
  have hidle := ((effect _ (hp a' (hmem a' (by simp)))).of_begins hb').1
  have hmid : ∀ c ∈ middle, ¬c.Stores p := fun c hc => hp c (hmem c (by simp [hc]))
  generalize (s.turn a).after = s at hrun hidle hnone ⊢
  -- The job went from running to not running and was not begun: the balance says that it ended.
  have hsome : ∃ t ∈ s.history middle, t.ends p = true := by
    have hcount := countP_begins (r := s) hmid
    have hzero : (s.history middle).countP (·.begins p) = 0 :=
      List.countP_eq_zero.2 fun t ht => by simp [hnone t ht]
    rw [hzero, if_pos hrun, if_neg hidle] at hcount
    exact List.countP_pos_iff.1 (by omega)
  obtain ⟨first, e, rest, state, hcut, ⟨hends, haction, hterminal, hget⟩, hfirst⟩ :=
    exists_first_end hmid hrun hsome
  refine ⟨first, e, rest, state, hcut, ⟨haction, ?_, hterminal, hget⟩, hfirst, ?_⟩
  · unfold Turn.ends at hends
    split at hends
    · assumption
    · cases hends
  · obtain ⟨c₁, c, c₂, rfl, -, he, rfl⟩ := exists_of_history_eq hcut
    have hsettled : e.after.get p ≠ .running := by
      rw [he] at hends ⊢
      exact ((effect _ (hmid c (by simp))).of_ends hends).2
    have hlast : ∀ d ∈ c₂, ¬d.Stores p := fun d hd => hmid d (by simp [hd])
    have hlater := settled_of_no_begin hlast hsettled fun t ht => hnone t (by rw [hcut]; simp [ht])
    rwa [hget] at hlater

/-- Between two calls that end the job of a project exactly one of those that try to begin it
does: the first. -/
theorem exists_begin_between (hp : ∀ a ∈ calls, ¬a.Stores p) {before between later : List Turn}
    {e e' : Turn} (heq : r.history calls = before ++ e :: (between ++ e' :: later))
    (he : e.ends p = true) (he' : e'.ends p = true)
    (hnone : ∀ t ∈ between, t.ends p = false) :
    ∃ (first : List Turn) (b : Turn) (rest : List Turn),
      between = first ++ b :: rest ∧
      (b.action = .tryBegin p ∧ b.answer = .begun ∧ b.after.get p = .running) ∧
      (∀ t ∈ first, t.action ≠ .tryBegin p) ∧
      ∀ t ∈ rest, t.action = .tryBegin p → t.answer = .refused (.alreadyRunning p) := by
  obtain ⟨s, a, middle, a', hmem, rfl, rfl, rfl⟩ := exists_middle heq
  have hidle := ((effect s (hp a (hmem a (by simp)))).of_ends he).2
  have hrun := ((effect _ (hp a' (hmem a' (by simp)))).of_ends he').1
  have hmid : ∀ c ∈ middle, ¬c.Stores p := fun c hc => hp c (hmem c (by simp [hc]))
  generalize (s.turn a).after = s at hrun hidle hnone ⊢
  have hsome : ∃ t ∈ s.history middle, t.begins p = true := by
    have hcount := countP_begins (r := s) hmid
    have hzero : (s.history middle).countP (·.ends p) = 0 :=
      List.countP_eq_zero.2 fun t ht => by simp [hnone t ht]
    rw [hzero, if_pos hrun, if_neg hidle] at hcount
    exact List.countP_pos_iff.1 (by omega)
  obtain ⟨first, b, rest, hcut, ⟨hbegins, hget⟩, hfirst⟩ := exists_first_begin hmid hidle hsome
  refine ⟨first, b, rest, hcut, ?_, hfirst, ?_⟩
  · unfold Turn.begins at hbegins
    split at hbegins
    · next hact hans => exact ⟨by rw [hact, eq_of_beq hbegins], hans, hget⟩
    · cases hbegins
  · obtain ⟨c₁, c, c₂, rfl, -, rfl, rfl⟩ := exists_of_history_eq hcut
    have hlast : ∀ d ∈ c₂, ¬d.Stores p := fun d hd => hmid d (by simp [hd])
    exact fun t ht => (refused_of_no_end hlast hget
      (fun u hu => hnone u (by rw [hcut]; simp [hu])) t ht).2

end Between

/-- **Each project is an automaton of its own.** Whatever calls come in whatever order, at every
moment:
- the table lists each project that is known once, with the state that `get` answers, and never
  one that is `unknown`; reading changes nothing;
- a call about one project leaves the states of all others alone;
- `set` stores what it is given; `tryBegin` is refused exactly if the job is running, and then
  changes nothing; `complete` answers `true` exactly if the job is running and the state is one
  in which jobs end, and `false` changes nothing.

So if the state of a project is never stored directly:
- its job was begun once more than it was ended if it is running, and else just as often;
- between two calls that begin it exactly one ends it: the first that comes with a state in
  which jobs end; this state stays until the job is begun again;
- between two calls that end it exactly one of those that try to begin it does: the first. -/
theorem begun_and_ended_in_turn (calls : List Action) :
    let r := empty.after calls
    let turns := empty.history calls
    ((r.snapshot.map Prod.fst).Nodup ∧
      (∀ p state, (p, state) ∈ r.snapshot ↔ r.get p = state ∧ state ≠ .unknown) ∧
      (∀ p, r.turn (.get p) = ⟨.get p, .state (r.get p), r⟩) ∧
      r.turn .snapshot = ⟨.snapshot, .entries r.snapshot, r⟩) ∧
    (∀ a p, a.project? ≠ some p → (r.turn a).after.get p = r.get p) ∧
    (∀ p state, (r.turn (.set p state)).after.get p = state) ∧
    (∀ p, if r.get p = .running then
        (r.turn (.tryBegin p)).answer = .refused (.alreadyRunning p) ∧
          (r.turn (.tryBegin p)).after = r
      else
        (r.turn (.tryBegin p)).answer = .begun ∧
          (r.turn (.tryBegin p)).after.get p = .running) ∧
    (∀ p state, if state.isTerminal = true ∧ r.get p = .running then
        (r.turn (.complete p state)).answer = .completed true ∧
          (r.turn (.complete p state)).after.get p = state
      else
        (r.turn (.complete p state)).answer = .completed false ∧
          (r.turn (.complete p state)).after = r) ∧
    ∀ p, (∀ a ∈ calls, ¬a.Stores p) →
      turns.countP (·.begins p) =
        turns.countP (·.ends p) + (if r.get p = .running then 1 else 0) ∧
      (∀ before b between b' later, turns = before ++ b :: (between ++ b' :: later) →
        b.begins p = true → b'.begins p = true → (∀ t ∈ between, t.begins p = false) →
        ∃ first e rest state, between = first ++ e :: rest ∧
          (e.action = .complete p state ∧ e.answer = .completed true ∧
            state.isTerminal = true ∧ e.after.get p = state) ∧
          (∀ t ∈ first, t.after.get p = .running ∧
            ∀ st, t.action = .complete p st → st.isTerminal = false) ∧
          ∀ t ∈ rest, t.ends p = false ∧ t.after.get p = state) ∧
      ∀ before e between e' later, turns = before ++ e :: (between ++ e' :: later) →
        e.ends p = true → e'.ends p = true → (∀ t ∈ between, t.ends p = false) →
        ∃ first b rest, between = first ++ b :: rest ∧
          (b.action = .tryBegin p ∧ b.answer = .begun ∧ b.after.get p = .running) ∧
          (∀ t ∈ first, t.action ≠ .tryBegin p) ∧
          ∀ t ∈ rest, t.action = .tryBegin p → t.answer = .refused (.alreadyRunning p) := by
  intro r turns
  refine ⟨⟨r.nodup, fun p state => mem_snapshot_iff r p state, fun _ => rfl, rfl⟩,
    fun a p h => get_turn_of_ne h, fun p state => ?_, turn_tryBegin r, turn_complete r,
    fun p hp => ⟨?_, ?_, ?_⟩⟩
  · simp [turn, get_set]
  · have hcount := countP_begins (r := empty) hp
    have hidle : empty.get p ≠ .running := by simp [get, empty]
    rwa [if_neg hidle] at hcount
  · exact fun _ _ _ _ _ heq hb hb' hnone => exists_end_between hp heq hb hb' hnone
  · exact fun _ _ _ _ _ heq he he' hnone => exists_begin_between hp heq he he' hnone

end Registry

end BuildService
