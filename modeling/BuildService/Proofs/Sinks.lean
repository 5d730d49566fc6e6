import BuildService.Proofs.Bystanders
import BuildService.Proofs.OtherLogs
import BuildService.Proofs.OutputLogs
import BuildService.Proofs.Readiness
/-!
Many sinks at once.

A sink is an open file with a position of its own. As long as a log has one sink this
cannot be told from a sink that appends, and this is how the service uses it. Nothing
in a store keeps to that, though: a log can be opened again while a sink of it is
alive. So what is said here is what a sink does in general. It writes where it stands
(`LogStore.Ledger`), and it appends exactly if that is the end of the log.

A ledger knows neither the disk nor its nodes. It has the bytes of every log and the
position of every sink, and follows from what was done alone. That the disk agrees
with it after every sequence of steps (`LogStore.Fits`) rests on one thing, which is
that a log which is opened again is the same file as before.
-/

set_option autoImplicit false

namespace BuildService

namespace Content

variable {old new : List UInt8} {position : Nat}

theorem length_spliced (old new : List UInt8) (position : Nat) :
    (spliced old position new).length = max old.length (position + new.length) := by
  simp only [spliced, List.length_append, List.length_take, List.length_replicate,
    List.length_drop]
  omega

/-- Bytes are written behind the others at the end, and nowhere else. -/
theorem spliced_eq_append_iff (hne : new ≠ []) :
    spliced old position new = old ++ new ↔ position = old.length := by
  constructor
  · intro h
    have hlen := congrArg List.length h
    have hpos := List.length_pos_iff.2 hne
    rw [length_spliced, List.length_append] at hlen
    omega
  · rintro rfl
    simp [spliced]

end Content

theorem LogSink.lineBytes_ne_nil (line : String) : lineBytes line ≠ [] := by
  simp [lineBytes]

namespace LogStore

open Disk

/-! ## Using a store -/

/-- What can be done with a store and with its sinks, which are numbered in the order in which they
were opened. -/
inductive Use where
  | reset (project : String)
  | write (sink : Nat) (line : String)
  | read (project : String)
  deriving DecidableEq, Repr

/-- What has been done: a log was opened, or a line was written. -/
inductive Deed where
  | opened (project : String)
  | wrote (sink : Nat) (line : String)
  deriving DecidableEq, Repr

/-- A disk and the sinks that are alive, each with the project whose log it is. -/
structure Desk where
  disk : Disk
  sinks : List (String × LogSink)

/-- One step. What fails leaves no deed, and what is read changes nothing. -/
def use (s : LogStore) (w : Desk) : Use → Desk × Option Deed
  | .reset p =>
    match s.reset w.disk p with
    | (.error _, d) => (⟨d, w.sinks⟩, none)
    | (.ok sink, d) => (⟨d, w.sinks ++ [(p, sink)]⟩, some (.opened p))
  | .write k line =>
    match w.sinks[k]? with
    | none => (w, none)
    | some (p, sink) =>
      match sink.writeLine w.disk line with
      | .error _ => (w, none)
      | .ok (sink, d) => (⟨d, w.sinks.set k (p, sink)⟩, some (.wrote k line))
  | .read _ => (w, none)

/-- Steps one after the other. -/
def run (s : LogStore) (w : Desk) : List Use → Desk × List Deed
  | [] => (w, [])
  | u :: uses =>
    let (w, deed) := s.use w u
    let (w, deeds) := s.run w uses
    (w, deed.toList ++ deeds)

/-! ## What follows from what was done -/

/-- The bytes of the logs that were opened, and of each sink the project and where it stands. -/
structure Ledger where
  bytes : String → Option (List UInt8)
  sinks : List (String × Nat)

namespace Ledger

def empty : Ledger := ⟨fun _ => none, []⟩

/-- The ledger in which a log has these bytes. -/
def setBytes (L : Ledger) (p : String) (bs : List UInt8) : Ledger :=
  { L with bytes := fun q => if q = p then some bs else L.bytes q }

/-- A log that is opened is empty, and its new sink stands at the beginning. A line goes where its
sink stands, whatever became of the log meanwhile. -/
def add (L : Ledger) : Deed → Ledger
  | .opened p => { L.setBytes p [] with sinks := L.sinks ++ [(p, 0)] }
  | .wrote k line =>
    match L.sinks[k]? with
    | none => L
    | some (p, position) =>
      { L.setBytes p (Content.spliced ((L.bytes p).getD []) position (LogSink.lineBytes line)) with
        sinks := L.sinks.set k (p, position + (LogSink.lineBytes line).length) }

def after (deeds : List Deed) : Ledger := deeds.foldl add empty

theorem after_append_one (deeds : List Deed) (deed : Deed) :
    after (deeds ++ [deed]) = (after deeds).add deed := by
  rw [after, List.foldl_append]
  rfl

end Ledger

/-! ## The disk agrees with the ledger -/

variable {s : LogStore} {d : Disk} {w : Desk} {L : Ledger} {p : String}

/-- The logs that were opened are files with the bytes of the ledger, which all their sinks write,
and the sinks stand where the ledger says. -/
structure Fits (s : LogStore) (d : Disk) (w : Desk) (L : Ledger) : Prop where
  prepared : (w.disk = d ∧ ∀ p, L.bytes p = none) ∨ s.Prepared w.disk
  valid : ∀ p bs, L.bytes p = some bs → Request.isProjectId p = true
  holds : ∀ p bs, L.bytes p = some bs → ∃ n, s.Holds w.disk p n bs
  opened : ∀ t ∈ w.sinks, ∃ bs, L.bytes t.1 = some bs ∧ s.Holds w.disk t.1 t.2.node bs
  sinks : L.sinks = w.sinks.map fun t => (t.1, t.2.position)

namespace Fits

theorem empty (s : LogStore) (d : Disk) : Fits s d ⟨d, []⟩ .empty where
  prepared := .inl ⟨rfl, fun _ => rfl⟩
  valid _ _ h := by cases h
  holds _ _ h := by cases h
  opened _ h := by cases h
  sinks := rfl

/-- Where a log was opened, the disk is prepared. -/
theorem prepared_of_some (h : Fits s d w L) {bs : List UInt8} (hp : L.bytes p = some bs) :
    s.Prepared w.disk := by
  rcases h.prepared with ⟨-, hnone⟩ | hprepared
  · rw [hnone p] at hp
    cases hp
  · exact hprepared

/-- Before the first log is opened the disk is that of the start, and afterwards making the
directory of the logs changes nothing. -/
theorem own (h : Fits s d w L) (hown : ∀ d₁, d.makeDirs s.dir = .ok d₁ → s.Own d₁) :
    ∀ d₁, w.disk.makeDirs s.dir = .ok d₁ → s.Own d₁ := by
  intro d₁ hm
  rcases h.prepared with ⟨hdisk, -⟩ | hprepared
  · exact hown d₁ (hdisk ▸ hm)
  · rw [makeDirs_of_allMade hprepared.made] at hm
    obtain rfl := Except.ok.inj hm
    exact hprepared.own

/-- One log has other bytes now, and nothing else is different. -/
theorem setBytes (h : Fits s d w L) (hv : Request.isProjectId p = true) {d' : Disk} {n : NodeId}
    {bs : List UInt8} (hprepared : s.Prepared d') (hh : s.Holds d' p n bs)
    (hothers : ∀ q m bs', L.bytes q = some bs' → q ≠ p → s.Holds w.disk q m bs' →
      s.Holds d' q m bs')
    (hnode : ∀ t ∈ w.sinks, t.1 = p → t.2.node = n) :
    Fits s d ⟨d', w.sinks⟩ (L.setBytes p bs) := by
  have hself : (L.setBytes p bs).bytes p = some bs := if_pos rfl
  have hother : ∀ q, q ≠ p → (L.setBytes p bs).bytes q = L.bytes q := fun q hq => if_neg hq
  constructor
  · exact .inr hprepared
  · intro q bs' hq
    by_cases hqp : q = p
    · rwa [hqp]
    · rw [hother q hqp] at hq
      exact h.valid q bs' hq
  · intro q bs' hq
    by_cases hqp : q = p
    · subst hqp
      rw [hself] at hq
      obtain rfl := Option.some.inj hq
      exact ⟨n, hh⟩
    · rw [hother q hqp] at hq
      obtain ⟨m, hm⟩ := h.holds q bs' hq
      exact ⟨m, hothers q m bs' hq hqp hm⟩
  · intro t ht
    obtain ⟨bs', hbs, hold⟩ := h.opened t ht
    by_cases htp : t.1 = p
    · refine ⟨bs, by rw [htp, hself], ?_⟩
      rw [htp, hnode t ht htp]
      exact hh
    · exact ⟨bs', by rw [hother _ htp, hbs], hothers _ _ bs' hbs htp hold⟩
  · exact h.sinks

/-- The sinks of a log may be others, as long as they write its file. -/
theorem withSinks (h : Fits s d w L) (sink : LogSink) (sinks : List (String × LogSink))
    {bs : List UInt8} (hbs : L.bytes p = some bs) (hh : s.Holds w.disk p sink.node bs)
    (hsinks : ∀ t ∈ sinks, t ∈ w.sinks ∨ t = (p, sink)) :
    Fits s d ⟨w.disk, sinks⟩ { L with sinks := sinks.map fun t => (t.1, t.2.position) } := by
  refine ⟨h.prepared, h.valid, h.holds, ?_, rfl⟩
  intro t ht
  rcases hsinks t ht with ht | rfl
  · exact h.opened t ht
  · exact ⟨bs, hbs, hh⟩

/-- **A log that is opened is empty, and all others are as they were.** If it was open before, its
older sinks write the same file as the new one. -/
theorem reset (h : Fits s d w L) (hown : ∀ d₁, d.makeDirs s.dir = .ok d₁ → s.Own d₁)
    (hv : Request.isProjectId p = true) {sink : LogSink} {d' : Disk}
    (hr : s.reset w.disk p = (.ok sink, d')) :
    Fits s d ⟨d', w.sinks ++ [(p, sink)]⟩ (L.add (.opened p)) := by
  obtain ⟨d₁, hm, hch, hposition⟩ := changed_of_reset hv (h.own hown) hr
  have hx : Extends w.disk d' := by
    have hgrown := extends_reset s w.disk p
    rwa [hr] at hgrown
  have hfits : Fits s d ⟨d', w.sinks⟩ (L.setBytes p []) := by
    apply h.setBytes hv hch.prepared hch.holds
    · intro q n bs hq hne hh
      rw [makeDirs_of_allMade (h.prepared_of_some hq).made] at hm
      obtain rfl := Except.ok.inj hm
      exact hch.others q n bs (h.valid q bs hq) hne hh
    · intro t ht htp
      obtain ⟨bs, -, hh⟩ := h.opened t ht
      -- The path led to the node of the older sink, and it leads there still.
      have hplace := locate_found_mono hx hh.place
      rw [htp, hch.holds.place] at hplace
      exact (Place.found.inj (Except.ok.inj hplace)).symm
  have hnew := hfits.withSinks sink (w.sinks ++ [(p, sink)]) (if_pos rfl) hch.holds (by simp)
  simpa only [Ledger.add, h.sinks, List.map_append, List.map_cons, List.map_nil, hposition]
    using hnew

/-- A log that could not be opened is as it was, though the directory may have been made. -/
theorem reset_error (h : Fits s d w L) (hown : ∀ d₁, d.makeDirs s.dir = .ok d₁ → s.Own d₁)
    {cause : IoFault} {d' : Disk} (hr : s.reset w.disk p = (.error cause, d')) :
    Fits s d ⟨d', w.sinks⟩ L := by
  rcases disk_of_reset_error hr with rfl | hm
  · exact h
  rcases h.prepared with ⟨-, hnone⟩ | hprepared
  · -- No log was opened so far, so there is none to compare.
    have hsome : ∀ {q bs}, L.bytes q ≠ some bs := by
      intro q bs hq
      rw [hnone q] at hq
      cases hq
    refine ⟨.inr ⟨allMade_of_makeDirs hm, h.own hown d' hm⟩, h.valid, ?_, ?_, h.sinks⟩
    · intro q bs hq
      exact absurd hq hsome
    · intro t ht
      obtain ⟨bs, hbs, -⟩ := h.opened t ht
      exact absurd hbs hsome
  · rw [makeDirs_of_allMade hprepared.made] at hm
    obtain rfl := Except.ok.inj hm
    exact h

/-- **A line is written where its sink stands.** -/
theorem write (h : Fits s d w L) {k : Nat} {sink : LogSink} (hk : w.sinks[k]? = some (p, sink))
    (line : String) : ∃ sink' d', sink.writeLine w.disk line = .ok (sink', d') ∧
      Fits s d ⟨d', w.sinks.set k (p, sink')⟩ (L.add (.wrote k line)) := by
  obtain ⟨bs, hbs, hh⟩ := h.opened _ (List.mem_of_getElem? hk)
  have hprepared := h.prepared_of_some hbs
  obtain ⟨d', hw, hch⟩ := splice_of_holds hprepared (h.valid p bs hbs) hh rfl line
  have hfits : Fits s d ⟨d', w.sinks⟩
      (L.setBytes p (Content.spliced bs sink.position (LogSink.lineBytes line))) := by
    apply h.setBytes (h.valid p bs hbs) hch.prepared hch.holds
    · intro q n bs' hq hne hother
      exact hch.others q n bs' (h.valid q bs' hq) hne hother
    · intro t ht htp
      obtain ⟨bs', -, hold⟩ := h.opened t ht
      have hplace := hold.place
      rw [htp, hh.place] at hplace
      exact (Place.found.inj (Except.ok.inj hplace)).symm
  have hstands : L.sinks[k]? = some (p, sink.position) := by
    rw [h.sinks, List.getElem?_map, hk]
    rfl
  have hadd : L.add (.wrote k line) =
      { L.setBytes p (Content.spliced bs sink.position (LogSink.lineBytes line)) with
        sinks := L.sinks.set k (p, sink.position + (LogSink.lineBytes line).length) } := by
    simp only [Ledger.add, hstands, hbs, Option.getD_some]
  let sink' : LogSink :=
    { sink with position := sink.position + (LogSink.lineBytes line).length }
  refine ⟨sink', d', hw, ?_⟩
  have hnew := hfits.withSinks sink' (w.sinks.set k (p, sink')) (if_pos rfl) hch.holds
    fun t ht => List.mem_or_eq_of_mem_set ht
  rw [hadd, h.sinks]
  simpa only [List.map_set] using hnew

/-- A step leaves disk and ledger in agreement. -/
theorem use (h : Fits s d w L) (hown : ∀ d₁, d.makeDirs s.dir = .ok d₁ → s.Own d₁) (u : Use)
    (hv : ∀ p, u = .reset p → Request.isProjectId p = true) :
    Fits s d (s.use w u).1 ((s.use w u).2.toList.foldl Ledger.add L) := by
  cases u with
  | reset p =>
    simp only [LogStore.use]
    split
    · exact h.reset_error hown ‹_›
    · exact h.reset hown (hv p rfl) ‹_›
  | write k line =>
    simp only [LogStore.use]
    split
    · exact h
    · rename_i p sink hk
      obtain ⟨sink', d', hw, hfits⟩ := h.write hk line
      simp only [hw]
      exact hfits
  | read p => exact h

/-- **After every sequence of steps the disk agrees with the ledger.** -/
theorem run (h : Fits s d w L) (hown : ∀ d₁, d.makeDirs s.dir = .ok d₁ → s.Own d₁)
    {uses : List Use} (hv : ∀ p, .reset p ∈ uses → Request.isProjectId p = true) :
    Fits s d (s.run w uses).1 ((s.run w uses).2.foldl Ledger.add L) := by
  induction uses generalizing w L with
  | nil => exact h
  | cons u uses ih =>
    have hstep := h.use hown u fun p hu => hv p (hu ▸ List.mem_cons_self)
    have hrest := ih hstep fun p hp => hv p (List.mem_cons_of_mem _ hp)
    simpa only [LogStore.run, List.foldl_append] using hrest

end Fits

/-! ## Logs with one sink -/

/-- The project whose log is opened, if that is what was done. -/
def Deed.opened? : Deed → Option String
  | .opened p => some p
  | .wrote _ _ => none

/-- The line that was written through a sink. -/
def Deed.line? (k : Nat) : Deed → Option String
  | .opened _ => none
  | .wrote j line => if j = k then some line else none

/-- The projects whose logs were opened. The sinks have the numbers of this list. -/
def openers (deeds : List Deed) : List String := deeds.filterMap Deed.opened?

/-- The lines that were written through a sink. -/
def linesThrough (k : Nat) (deeds : List Deed) : List String := deeds.filterMap (Deed.line? k)

theorem openers_append (early late : List Deed) :
    openers (early ++ late) = openers early ++ openers late := List.filterMap_append

theorem linesThrough_append_one (k : Nat) (deeds : List Deed) (deed : Deed) :
    linesThrough k (deeds ++ [deed]) = linesThrough k deeds ++ (deed.line? k).toList := by
  rw [linesThrough, List.filterMap_append]
  cases h : deed.line? k with
  | none => simp [linesThrough, h]
  | some line => simp [linesThrough, h]

namespace Ledger

theorem map_fst_sinks_after (deeds : List Deed) :
    (after deeds).sinks.map (·.1) = openers deeds := by
  induction deeds using List.reverseRecOn with
  | nil => rfl
  | append_singleton deeds deed ih =>
    rw [after_append_one, openers_append, ← ih]
    cases deed with
    | opened p => simp [add, openers, Deed.opened?]
    | wrote k line =>
      simp only [add, openers, List.filterMap_cons, Deed.opened?, List.filterMap_nil,
        List.append_nil]
      cases hk : (after deeds).sinks[k]? with
      | none => rfl
      | some t =>
        have hfst : ((after deeds).sinks.map (·.1))[k]? = some t.1 := by
          rw [List.getElem?_map, hk]
          rfl
        obtain ⟨hlt, ht⟩ := List.getElem?_eq_some_iff.1 hfst
        simp only [List.map_set]
        rw [← ht, List.set_getElem_self]

theorem openers_of_sinks {deeds : List Deed} {k position : Nat}
    (h : (after deeds).sinks[k]? = some (p, position)) : (openers deeds)[k]? = some p := by
  rw [← map_fst_sinks_after, List.getElem?_map, h]
  rfl

/-- A log of which a sink stands at the end. -/
structure AtEnd (L : Ledger) (p : String) (k : Nat) (bs : List UInt8) : Prop where
  bytes : L.bytes p = some bs
  stands : L.sinks[k]? = some (p, bs.length)

namespace AtEnd

variable {k : Nat} {bs : List UInt8}

theorem opened (L : Ledger) (p : String) : (L.add (.opened p)).AtEnd p L.sinks.length [] where
  bytes := if_pos rfl
  stands := List.getElem?_concat_length

/-- The sink appends, and stands at the end again. -/
theorem wrote (h : L.AtEnd p k bs) (line : String) :
    (L.add (.wrote k line)).AtEnd p k (bs ++ LogSink.lineBytes line) := by
  have hend : Content.spliced bs bs.length (LogSink.lineBytes line) =
      bs ++ LogSink.lineBytes line :=
    (Content.spliced_eq_append_iff (LogSink.lineBytes_ne_nil line)).2 rfl
  have hlt := (List.getElem?_eq_some_iff.1 h.stands).1
  constructor
  · simp only [add, h.stands, h.bytes, setBytes, Option.getD_some, if_true, hend]
  · simp only [add, h.stands, List.getElem?_set_self hlt, List.length_append]

theorem opened_of_ne (h : L.AtEnd p k bs) {q : String} (hq : p ≠ q) :
    (L.add (.opened q)).AtEnd p k bs := by
  have hlt := (List.getElem?_eq_some_iff.1 h.stands).1
  constructor
  · simp only [add, setBytes, if_neg hq, h.bytes]
  · simp only [add]
    rw [List.getElem?_append_left hlt, h.stands]

/-- Sinks of other logs do not write into this one. -/
theorem wrote_of_ne (h : L.AtEnd p k bs) {j : Nat} (hj : j ≠ k)
    (hother : ∀ position, L.sinks[j]? ≠ some (p, position)) (line : String) :
    (L.add (.wrote j line)).AtEnd p k bs := by
  simp only [add]
  cases hsink : L.sinks[j]? with
  | none => exact h
  | some t =>
    obtain ⟨q, position⟩ := t
    have hpq : p ≠ q := by
      rintro rfl
      exact hother position hsink
    constructor
    · simp only [setBytes, if_neg hpq, h.bytes]
    · simp only [List.getElem?_set_ne hj, h.stands]

end AtEnd

/-- **As long as a log is written through its newest sink alone, it holds the lines of this sink**,
and the sink stands at its end. -/
theorem atEnd_of_newest {early late : List Deed} (hlast : .opened p ∉ late)
    (honly : ∀ j line, .wrote j line ∈ late →
      (openers (early ++ .opened p :: late))[j]? = some p → j = (openers early).length) :
    (after (early ++ .opened p :: late)).AtEnd p (openers early).length
      ((linesThrough (openers early).length late).flatMap LogSink.lineBytes) := by
  induction late using List.reverseRecOn with
  | nil =>
    have hlen : (after early).sinks.length = (openers early).length := by
      rw [← map_fst_sinks_after, List.length_map]
    rw [after_append_one, ← hlen]
    exact .opened _ p
  | append_singleton late deed ih =>
    have hcut : early ++ .opened p :: (late ++ [deed]) = early ++ .opened p :: late ++ [deed] := by
      simp
    rw [List.mem_append, not_or] at hlast
    rw [hcut] at honly ⊢
    -- A sink that was opened before the last deed has its number in both lists.
    have hopened : ∀ {j : Nat}, (openers (early ++ .opened p :: late))[j]? = some p →
        (openers (early ++ .opened p :: late ++ [deed]))[j]? = some p := by
      intro j hj
      rw [openers_append, List.getElem?_append_left (List.getElem?_eq_some_iff.1 hj).1, hj]
    have hbefore := ih hlast.1 fun j line hmem hj =>
      honly j line (List.mem_append_left _ hmem) (hopened hj)
    rw [after_append_one, linesThrough_append_one]
    cases deed with
    | opened q =>
      rw [Deed.line?, Option.toList_none, List.append_nil]
      refine hbefore.opened_of_ne ?_
      rintro rfl
      exact hlast.2 (List.mem_singleton_self _)
    | wrote j line =>
      by_cases hj : j = (openers early).length
      · rw [hj, Deed.line?, if_pos rfl, Option.toList_some, List.flatMap_append, List.flatMap_cons,
          List.flatMap_nil, List.append_nil]
        exact hbefore.wrote line
      · rw [Deed.line?, if_neg hj, Option.toList_none, List.append_nil]
        refine hbefore.wrote_of_ne hj ?_ line
        intro position hsink
        have hown := hopened (openers_of_sinks hsink)
        exact hj (honly j line (List.mem_append_right _ (List.mem_singleton_self _)) hown)

end Ledger

/-! ## What sinks do -/

/-- **A sink writes where it stands, and this need not be the end of its log.** After every sequence
of steps, with as many sinks alive as one likes, the logs that were opened hold what follows from
the deeds alone. A line that is written through one of the sinks goes where this sink stands: what
is there is overwritten, and a gap is filled with zeros. It is put behind the rest if and only if
the sink stands at the end. No other log is touched by it. So a log that has been written, since it
was opened last, through the sink of this time alone is read as the lines that were written. -/
theorem sinks_write_where_they_stand {s : LogStore} {d : Disk} {uses : List Use}
    (hown : ∀ d₁, d.makeDirs s.dir = .ok d₁ → s.Own d₁)
    (hv : ∀ p, .reset p ∈ uses → Request.isProjectId p = true) {w : Desk} {deeds : List Deed}
    (hrun : s.run ⟨d, []⟩ uses = (w, deeds)) :
    (∀ p bs, (Ledger.after deeds).bytes p = some bs →
      w.disk.read (s.pathFor p) = .ok bs ∧ s.read w.disk p = .ok (some (Utf8.lossy bs))) ∧
    (∀ (k : Nat) (p : String) (sink : LogSink), w.sinks[k]? = some (p, sink) →
      ∃ bs, (Ledger.after deeds).bytes p = some bs ∧
      (Ledger.after deeds).sinks[k]? = some (p, sink.position) ∧
      ∀ line, ∃ sink' d', sink.writeLine w.disk line = .ok (sink', d') ∧
        d'.read (s.pathFor p) =
          .ok (Content.spliced bs sink.position (LogSink.lineBytes line)) ∧
        (d'.read (s.pathFor p) = .ok (bs ++ LogSink.lineBytes line) ↔
          sink.position = bs.length) ∧
        ∀ q, Request.isProjectId q = true → q ≠ p → s.read d' q = s.read w.disk q) ∧
    ∀ p early late, deeds = early ++ .opened p :: late → .opened p ∉ late →
      (∀ j line, .wrote j line ∈ late → (openers deeds)[j]? = some p →
        j = (openers early).length) →
      s.read w.disk p = .ok (some
        (String.join ((linesThrough (openers early).length late).map (· ++ "\n")))) := by
  have hfits : Fits s d w (Ledger.after deeds) := by
    have hrest := (Fits.empty s d).run hown hv
    rwa [hrun] at hrest
  have hreads : ∀ p bs, (Ledger.after deeds).bytes p = some bs →
      w.disk.read (s.pathFor p) = .ok bs ∧ s.read w.disk p = .ok (some (Utf8.lossy bs)) := by
    intro p bs hp
    obtain ⟨n, hn⟩ := hfits.holds p bs hp
    refine ⟨hn.read_bytes, ?_⟩
    delta LogStore.read
    rw [hn.read_bytes]
  refine ⟨hreads, ?_, ?_⟩
  · intro k p sink hk
    obtain ⟨bs, hbs, hh⟩ := hfits.opened _ (List.mem_of_getElem? hk)
    have hvalid := hfits.valid p bs hbs
    have hprepared := hfits.prepared_of_some hbs
    refine ⟨bs, hbs, by rw [hfits.sinks, List.getElem?_map, hk]; rfl, ?_⟩
    intro line
    obtain ⟨d', hw, hch⟩ := splice_of_holds hprepared hvalid hh rfl line
    refine ⟨_, d', hw, hch.holds.read_bytes, ?_, ?_⟩
    · rw [hch.holds.read_bytes, Except.ok.injEq]
      exact Content.spliced_eq_append_iff (LogSink.lineBytes_ne_nil line)
    · intro q hq hne
      exact read_writeLine hprepared hvalid hq hne hh rfl hw
  · rintro p early late rfl hlast honly
    have hbytes := (Ledger.atEnd_of_newest hlast honly).bytes
    rw [LogSink.flatMap_lineBytes] at hbytes
    rw [(hreads p _ hbytes).2, Utf8.lossy_encode]

/-! ## Disks on which nothing fails -/

/-- The deed that a step comes to if it does not fail. -/
def Use.deed? : Use → Option Deed
  | .reset p => some (.opened p)
  | .write k line => some (.wrote k line)
  | .read _ => none

/-- Lines are written through sinks that there are; at first there are so many. -/
def Use.FindSinks : Nat → List Use → Prop
  | _, [] => True
  | n, .reset _ :: uses => FindSinks (n + 1) uses
  | n, .write k _ :: uses => k < n ∧ FindSinks n uses
  | n, .read _ :: uses => FindSinks n uses

/-- What is known while nothing has failed: without a deed the disk is that of the start. -/
structure Smoothly (s : LogStore) (d : Disk) (w : Desk) (L : Ledger) : Prop
    extends Fits s d w L where
  untouched : (∀ p, L.bytes p = none) → w.disk = d

/-- Where there is a sink, a log was opened. -/
theorem Fits.smoothly (h : Fits s d w L) {t : String × LogSink} (ht : t ∈ w.sinks) :
    Smoothly s d w L := by
  refine ⟨h, ?_⟩
  intro hnone
  obtain ⟨bs, hbs, -⟩ := h.opened t ht
  rw [hnone t.1] at hbs
  cases hbs

namespace Smoothly

/-- A log can be opened at every moment, since logs that are open show that their directory is
there. -/
theorem exists_reset (h : Smoothly s d w L) (hready : s.Ready d)
    (hv : Request.isProjectId p = true) : ∃ sink d', s.reset w.disk p = (.ok sink, d') := by
  by_cases hnone : ∀ q, L.bytes q = none
  · obtain ⟨d₁, hm, hown, k, hk⟩ := hready.made
    rw [h.untouched hnone]
    exact LogStore.exists_reset hm hown hk hv (hready.short p hv)
  · obtain ⟨q, hq⟩ := not_forall.1 hnone
    obtain ⟨bs, hbs⟩ := Option.ne_none_iff_exists'.1 hq
    obtain ⟨n, hn⟩ := h.holds q bs hbs
    obtain ⟨-, k, hk⟩ := exists_home (h.valid q bs hbs) hn.place
    have hprepared := h.prepared_of_some hbs
    exact LogStore.exists_reset (makeDirs_of_allMade hprepared.made) hprepared.own hk hv
      (hready.short p hv)

/-- **On a disk that is ready every step is done.** -/
theorem run_eq (h : Smoothly s d w L) (hready : s.Ready d) {uses : List Use}
    (hv : ∀ p, .reset p ∈ uses → Request.isProjectId p = true)
    (hsinks : Use.FindSinks w.sinks.length uses) :
    (s.run w uses).2 = uses.filterMap Use.deed? := by
  induction uses generalizing w L with
  | nil => rfl
  | cons u uses ih =>
    have hrest : ∀ p, .reset p ∈ uses → Request.isProjectId p = true := fun p hp =>
      hv p (List.mem_cons_of_mem _ hp)
    cases u with
    | reset p =>
      have hp := hv p List.mem_cons_self
      obtain ⟨sink, d', hr⟩ := h.exists_reset hready hp
      have hfits := h.reset hready.own hp hr
      have hlen : Use.FindSinks (w.sinks ++ [(p, sink)]).length uses := by
        rw [List.length_append]
        exact hsinks
      have hdeeds := ih (hfits.smoothly (t := (p, sink)) (by simp)) hrest hlen
      simp only [run, LogStore.use, hr, hdeeds, Option.toList_some, List.filterMap_cons, Use.deed?,
        List.singleton_append]
    | write k line =>
      obtain ⟨hk, hsinks⟩ := hsinks
      rcases ht : w.sinks[k] with ⟨p, sink⟩
      have hsink : w.sinks[k]? = some (p, sink) := by rw [List.getElem?_eq_getElem hk, ht]
      obtain ⟨sink', d', hw, hfits⟩ := h.write hsink line
      have hlen : Use.FindSinks (w.sinks.set k (p, sink')).length uses := by
        rwa [List.length_set]
      have hdeeds := ih (hfits.smoothly (List.mem_set hk _)) hrest hlen
      simp only [run, LogStore.use, hsink, hw, hdeeds, Option.toList_some, List.filterMap_cons,
        Use.deed?, List.singleton_append]
    | read p =>
      have hdeeds := ih h hrest hsinks
      simp only [run, LogStore.use, hdeeds, Option.toList_none, List.filterMap_cons, Use.deed?,
        List.nil_append]

end Smoothly

/-- On a disk that is ready, what was done is what the steps say. -/
theorem run_of_ready (hready : s.Ready d) {uses : List Use}
    (hv : ∀ p, .reset p ∈ uses → Request.isProjectId p = true) (hsinks : Use.FindSinks 0 uses) :
    (s.run ⟨d, []⟩ uses).2 = uses.filterMap Use.deed? :=
  Smoothly.run_eq ⟨.empty s d, fun _ => rfl⟩ hready hv hsinks

/-- A log is opened, and written through its one sink. -/
def plainUses : List Use := [.reset "p", .write 0 "a", .write 0 "b"]

/-- A log is opened again while a sink of it is alive, and this sink goes on. -/
def staleUses : List Use := [.reset "p", .write 0 "a", .reset "p", .write 0 "b"]

theorem isProjectId_of_mem {uses : List Use} (h : uses = plainUses ∨ uses = staleUses) :
    ∀ p, .reset p ∈ uses → Request.isProjectId p = true := by
  intro p hp
  have hname : p = "p" := by
    rcases h with rfl | rfl
    · simpa [plainUses] using hp
    · simpa [staleUses] using hp
  rw [hname]
  decide

theorem deeds_plainUses : (run ⟨"logs"⟩ ⟨Disk.initial, []⟩ plainUses).2 =
    [.opened "p", .wrote 0 "a", .wrote 0 "b"] :=
  run_of_ready ready_initial (isProjectId_of_mem (.inl rfl)) (by simp [plainUses, Use.FindSinks])

theorem deeds_staleUses : (run ⟨"logs"⟩ ⟨Disk.initial, []⟩ staleUses).2 =
    [.opened "p", .wrote 0 "a", .opened "p", .wrote 0 "b"] :=
  run_of_ready ready_initial (isProjectId_of_mem (.inr rfl)) (by simp [staleUses, Use.FindSinks])

/-- Through its one sink two lines are written one behind the other. -/
theorem plain_sink_appends :
    read ⟨"logs"⟩ (run ⟨"logs"⟩ ⟨Disk.initial, []⟩ plainUses).1.disk "p" =
      .ok (some "a\nb\n") := by
  have happends := (sinks_write_where_they_stand ready_initial.own
    (isProjectId_of_mem (.inl rfl)) rfl).2.2 "p" [] [.wrote 0 "a", .wrote 0 "b"] deeds_plainUses
    (by decide)
  apply happends
  intro j line hmem _
  have hj : j = 0 := by
    simp only [List.mem_cons, Deed.wrote.injEq, List.not_mem_nil, or_false] at hmem
    omega
  rw [hj]
  rfl

/-- The older sink stands behind its first line still. It leaves a gap in front of the second, where
a sink that appends would leave none. -/
theorem stale_sink_does_not_append :
    (run ⟨"logs"⟩ ⟨Disk.initial, []⟩ staleUses).2 =
      [.opened "p", .wrote 0 "a", .opened "p", .wrote 0 "b"] ∧
    read ⟨"logs"⟩ (run ⟨"logs"⟩ ⟨Disk.initial, []⟩ staleUses).1.disk "p" =
      .ok (some "\x00\x00b\n") ∧ "\x00\x00b\n" ≠ "b\n" := by
  refine ⟨deeds_staleUses, ?_, by decide⟩
  have hfits := (Fits.empty ⟨"logs"⟩ Disk.initial).run ready_initial.own
    (isProjectId_of_mem (.inr rfl))
  rw [deeds_staleUses] at hfits
  have hbytes : (Ledger.after [.opened "p", .wrote 0 "a", .opened "p", .wrote 0 "b"]).bytes "p" =
      some (Utf8.encode "\x00\x00b\n") := by decide
  obtain ⟨n, hn⟩ := hfits.holds "p" _ hbytes
  exact read_of_holds hn

end LogStore

end BuildService
