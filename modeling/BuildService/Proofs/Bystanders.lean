import BuildService.Proofs.Logs
import BuildService.Proofs.OpenLogs
/-!
Logs that nobody writes.

`Logged` says what is in the log of a project that has been built. The log of any
other project may be there as well, from before the service was started, or may
not be there, and what is said here is that it stays as it is: nobody else's log
is opened or written under its name, and nobody else's file is the same.

There is one exception, which comes before all others. The directory of the logs
is made when the first log is opened, and a path that leads through a directory
that was missing may lead to something that was there all the time, as `x/..` does.
So the logs are compared with what they are once the directory is made (`Spared`).
-/

set_option autoImplicit false

namespace BuildService

namespace LogStore

open Disk

variable {s : LogStore} {d d' : Disk} {k n : NodeId} {p q : String}

/-! ## What reading a log depends on -/

/-- A text that is no path is none on any disk. -/
theorem read_of_not_isPath (h : ¬IsPath (s.pathFor q)) : s.read d' q = s.read d q := by
  have hlocate : d'.locate true (s.pathFor q) = d.locate true (s.pathFor q) := by
    unfold locate
    split
    · rfl
    split
    · rfl
    split
    · rfl
    · rename_i hnul hempty hsize
      exact absurd ⟨by simpa using hnul, by simpa using hempty, by omega⟩ h
  have hread : d'.read (s.pathFor q) = d.read (s.pathFor q) := by
    unfold Disk.read find
    rw [hlocate]
    cases hl : d.locate true (s.pathFor q) with
    | error e => rfl
    | ok place => exact absurd (locate_eq_ok_iff.1 hl).1 h
  unfold LogStore.read
  rw [hread]

/-- **What is read depends on one name in the log directory**, and on what is in the file that this
name stands for. -/
theorem read_congr (ho : s.Own d) (hk : s.Home d k) (ho' : s.Own d') (hk' : s.Home d' k)
    (hv : Request.isProjectId q = true) (hchild : d'.child? k (logName q) = d.child? k (logName q))
    (hbytes : ∀ n, d.locate false (s.pathFor q) = .ok (.found n) → d'.bytes n = d.bytes n) :
    s.read d' q = s.read d q := by
  by_cases hpath : IsPath (s.pathFor q)
  · -- On both disks the path leads to what the name stands for.
    have hlocate : ∀ {d : Disk}, s.Own d → s.Home d k →
        d.locate true (s.pathFor q) = .ok (d.entry k (logName q)) := by
      intro d ho hk
      refine (hk.locate_eq hv (.inr fun n hn => ?_)).2 ⟨hpath, rfl⟩
      obtain ⟨c, x, hfile⟩ := ho.file q n hv ((hk.locate_found_iff hv).2 ⟨hpath, hn⟩)
      exact not_hasLink_of_file hfile
    have hentry : d'.entry k (logName q) = d.entry k (logName q) := by
      simp only [entry, hchild]
    have hread : d'.read (s.pathFor q) = d.read (s.pathFor q) := by
      simp only [Disk.read, find, hlocate ho hk, hlocate ho' hk', hentry]
      cases hc : d.child? k (logName q) with
      | none => simp only [entry, hc]
      | some n =>
        simpa only [entry, hc] using hbytes n ((hk.locate_found_iff hv).2 ⟨hpath, hc⟩)
    unfold LogStore.read
    rw [hread]
  · exact read_of_not_isPath hpath

/-! ## Opening and writing another log -/

section

variable (hp : s.Prepared d) (hv : Request.isProjectId p = true)
  (hq : Request.isProjectId q = true) (hne : q ≠ p)
include hp hv hq hne

/-- Writing into the file of a log is not seen in any other one. -/
theorem read_setNode {c : Content} {x : Bool} (c' : Content) (x' : Bool)
    (hl : d.locate false (s.pathFor p) = .ok (.found n)) (hn : d.node? n = some (.file c x)) :
    s.read (d.setNode n (.file c' x')) q = s.read d q := by
  obtain ⟨-, k, hk⟩ := exists_home hv hl
  have hch := changed_setNode hp hv c' x' hl hn
  refine read_congr hp.own hk hch.prepared.own (hk.mono (extends_setNode_file hn)) hq
    (child?_setNode_file hn) fun m hm => ?_
  have hmn : m ≠ n := by
    rintro rfl
    exact hne (hp.own.apart q p m hq hv hm hl)
  rw [bytes, bytes, node?_setNode hn, if_neg hmn]

/-- A log that is made is not seen in any other one. -/
theorem read_addNode (hk : s.Home d k) (hpath : IsPath (s.pathFor p))
    (hc : d.child? k (logName p) = none) :
    s.read (d.addNode k (logName p) (.file (.ofBytes []) false)) q = s.read d q := by
  have hch := changed_addNode hp hv hk hpath hc
  have hx : Extends d (d.addNode k (logName p) (.file (.ofBytes []) false)) :=
    extends_addNode hk.directory hc (by simp) (by simp)
  refine read_congr hp.own hk hch.prepared.own (hk.mono hx) hq ?_ fun m hm => ?_
  · rw [child?_addNode hk.directory _ (by simp), if_neg]
    exact fun hname => hne (logName_injective hname.2)
  · -- What was there is a file, so it is neither the new one nor the directory.
    obtain ⟨c, x, hm⟩ := hp.own.file q m hq hm
    obtain ⟨parent, names, hdir, hnode⟩ :=
      node?_addNode hk.directory (logName p) (.file (.ofBytes []) false)
    have hmk : m ≠ k := by
      rintro rfl
      rw [hdir] at hm
      cases hm
    rw [bytes, bytes, hnode, if_neg (Nat.ne_of_lt (lt_length_of_node? hm)), if_neg hmk]

theorem read_create (h : d.create (s.pathFor p) = .ok (n, d')) : s.read d' q = s.read d q := by
  rcases create_cases h with ⟨k', name, hl, rfl, rfl⟩ | ⟨hl, ⟨c, x, hn, rfl⟩ | ⟨rfl, -⟩⟩
  · obtain ⟨hpath, k, hk⟩ := exists_home hv hl
    have hentry := hp.own.locate_true hk hv hl
    unfold entry at hentry
    split at hentry
    · cases hentry
    · rename_i hc
      cases hentry
      exact read_addNode hp hv hq hne hk hpath hc
  · obtain ⟨hpath, k, hk⟩ := exists_home hv hl
    have hfound : d.locate false (s.pathFor p) = .ok (.found n) :=
      (hk.locate_eq hv (.inl rfl)).2 ⟨hpath, hp.own.locate_true hk hv hl⟩
    exact read_setNode hp hv hq hne _ _ hfound hn
  · rfl

/-- **Opening a log is not seen in any other one**, once the directory is made. -/
theorem read_reset {d₀ : Disk} {sink : LogSink} (hm : d₀.makeDirs s.dir = .ok d)
    (h : s.reset d₀ p = (.ok sink, d')) : s.read d' q = s.read d q := by
  simp only [reset, hm] at h
  split at h
  · cases h
  · rename_i hcreate
    cases h
    exact read_create hp hv hq hne hcreate

/-- **Writing a line into a log is not seen in any other one.** -/
theorem read_writeLine {sink sink' : LogSink} {bytes : List UInt8} (hh : s.Holds d p n bytes)
    (hnode : sink.node = n) {line : String} (h : sink.writeLine d line = .ok (sink', d')) :
    s.read d' q = s.read d q := by
  obtain ⟨c, x, hn, -⟩ := hh.file
  simp only [LogSink.writeLine, writeAt, hnode, hn] at h
  cases h
  exact read_setNode hp hv hq hne _ _ hh.place hn

end

end LogStore

namespace Dispatcher

variable {settings : Settings} {disk : Disk} {s s' : Dispatcher} {tr : Trace} {e : Happening}

/-- What one log reads like decides what is answered. -/
theorem readLog_congr {q : String} (h : s'.logs.read s'.disk q = s.logs.read s.disk q) :
    s'.readLog q = s.readLog q := by
  delta readLog
  rw [h]

/-! ## Over whole runs -/

/-- Whoever has an owner keeps one. -/
theorem Trace.owner?_eq_none_of_append {q : String}
    (h : Trace.owner? (tr ++ [e]) q = none) : tr.owner? q = none := by
  cases e with
  | opened c =>
    rw [Trace.owner?_append_opened] at h
    split at h
    · cases h
    · exact h
  | _ => rwa [Trace.owner?_append_of_none tr rfl] at h

/-- Logs that nobody has opened read as they did on an earlier disk, or as they would have read on
it with the directory of the logs made. -/
structure Spared (settings : Settings) (disk base : Disk) (s : Dispatcher) (tr : Trace) : Prop where
  logged : Logged settings disk s tr
  reads : s.disk = base ∨ ∃ made, base.makeDirs settings.logsDir = .ok made ∧
    s.disk.AllMade settings.logsDir ∧
    ∀ q, Request.isProjectId q = true → tr.owner? q = none →
      s.logs.read s.disk q = LogStore.read ⟨settings.logsDir⟩ made q

namespace Spared

variable {base : Disk}

theorem logs_eq (h : Spared settings disk base s tr) : s.logs = ⟨settings.logsDir⟩ := by
  rw [logs, h.logged.same]

/-- What makes the directory and leaves the other logs alone changes nothing for them. -/
theorem reads_of_made (h : Spared settings disk base s tr) {made d : Disk}
    (hm : s.disk.makeDirs settings.logsDir = .ok made) (hd : d.AllMade settings.logsDir)
    (hread : ∀ q, Request.isProjectId q = true → Trace.owner? (tr ++ [e]) q = none →
      s.logs.read d q = s.logs.read made q) :
    ∃ made, base.makeDirs settings.logsDir = .ok made ∧ d.AllMade settings.logsDir ∧
      ∀ q, Request.isProjectId q = true → Trace.owner? (tr ++ [e]) q = none →
        s.logs.read d q = LogStore.read ⟨settings.logsDir⟩ made q := by
  rw [h.logs_eq] at hread
  rcases h.reads with hdisk | ⟨made', hm', hall, hreads⟩
  · exact ⟨made, hdisk ▸ hm, hd, h.logs_eq ▸ hread⟩
  · -- The directory was there already.
    obtain rfl := Except.ok.inj (hm.symm.trans (Disk.makeDirs_of_allMade hall))
    refine ⟨made', hm', hd, fun q hq hnone => ?_⟩
    have hbefore := hreads q hq (Trace.owner?_eq_none_of_append hnone)
    rw [h.logs_eq] at hbefore ⊢
    exact (hread q hq hnone).trans hbefore

/-- A build that writes a line leaves the logs that nobody has opened alone. -/
theorem reads_line (h : Spared settings disk base s tr) {b : Build} {sink sink' : LogSink}
    {d : Disk} {line : String} (hb : s.task? b.id = some ⟨b, .running sink⟩)
    (hw : sink.writeLine s.disk line = .ok (sink', d)) :
    ∀ q, Request.isProjectId q = true → tr.owner? q = none →
      s.logs.read d q = s.logs.read s.disk q := by
  intro q hq hnone
  obtain ⟨⟨n, hn, hsink⟩, hp, -⟩ := h.logged.of_running hb
  have hv := h.logged.valid_of_live (mem_live_of_task? hb)
  refine LogStore.read_writeLine hp hv hq ?_ hn (hsink _ sink (mem_of_task? hb) rfl).1 hw
  -- Who writes a log owns it.
  rintro rfl
  rw [h.logged.sink _ (mem_of_task? hb) sink rfl] at hnone
  cases hnone

theorem step (h : Spared settings disk base s tr)
    (hown : ∀ d, disk.makeDirs settings.logsDir = .ok d → LogStore.Own ⟨settings.logsDir⟩ d)
    (hs : Step s e s') : Spared settings disk base s' (tr ++ [e]) := by
  have hlogged := h.logged.step hown hs
  refine ⟨hlogged, ?_⟩
  have hlogs := hs.logs_eq
  rw [hlogs]
  -- Whoever writes a log has made the directory before.
  have made : Trace.opened (tr ++ [e]) ≠ [] → s'.disk.AllMade settings.logsDir := by
    intro ho
    have hmade := (hlogged.prepared.resolve_left fun hc => ho hc.2).made
    rwa [hlogs, h.logs_eq] at hmade
  have kept : s'.disk = s.disk → s'.disk = base ∨
      ∃ made, base.makeDirs settings.logsDir = .ok made ∧ s'.disk.AllMade settings.logsDir ∧
        ∀ q, Request.isProjectId q = true → Trace.owner? (tr ++ [e]) q = none →
          s.logs.read s'.disk q = LogStore.read ⟨settings.logsDir⟩ made q := by
    intro hd
    rw [hd]
    rcases h.reads with hbase | ⟨made, hm, hall, hreads⟩
    · exact .inl hbase
    · exact .inr ⟨made, hm, hall, fun q hq hnone =>
        hreads q hq (Trace.owner?_eq_none_of_append hnone)⟩
  have written : ∀ {b : Build} {sink : LogSink}, s.task? b.id = some ⟨b, .running sink⟩ →
      (∀ q, Request.isProjectId q = true → tr.owner? q = none →
        s.logs.read s'.disk q = s.logs.read s.disk q) →
      ∃ made, base.makeDirs settings.logsDir = .ok made ∧ s'.disk.AllMade settings.logsDir ∧
        ∀ q, Request.isProjectId q = true → Trace.owner? (tr ++ [e]) q = none →
          s.logs.read s'.disk q = LogStore.read ⟨settings.logsDir⟩ made q := by
    intro b sink hb hd
    have hopened := (Trace.mem_of_owner? (h.logged.sink _ (mem_of_task? hb) sink rfl)).1
    have hall := (h.logged.of_running hb).2.1.made
    rw [h.logs_eq] at hall
    refine h.reads_of_made (Disk.makeDirs_of_allMade hall) (made ?_) fun q hq hnone =>
      hd q hq (Trace.owner?_eq_none_of_append hnone)
    rw [Trace.opened_append]
    exact List.append_ne_nil_of_left_ne_nil (List.ne_nil_of_mem hopened) _
  cases hs with
  | @opened b sink d hb hr =>
    have hv := h.logged.valid_of_live (mem_live_of_task? hb)
    obtain ⟨d₁, hm, -⟩ :=
      LogStore.changed_of_reset hv (fun _ hd => h.logged.own_of_makeDirs hown hd) hr
    have hp : s.logs.Prepared d₁ :=
      ⟨Disk.allMade_of_makeDirs hm, h.logged.own_of_makeDirs hown hm⟩
    refine .inr (h.reads_of_made (h.logs_eq ▸ hm) (made ?_) fun q hq hnone => ?_)
    · rw [Trace.opened_append]
      exact List.append_ne_nil_of_right_ne_nil _ (List.cons_ne_nil _ _)
    · refine LogStore.read_reset hp hv hq ?_ hm hr
      rintro rfl
      rw [Trace.owner?_append_opened, if_pos rfl] at hnone
      cases hnone
  | unopened hb hr =>
    -- The directory may have been made before the log failed.
    rcases LogStore.disk_of_reset_error hr with rfl | hm
    · exact kept rfl
    · rw [h.logs_eq] at hm
      exact .inr (h.reads_of_made hm (Disk.allMade_of_makeDirs hm) fun _ _ _ => rfl)
  | wrote hb hw => exact .inr (written hb (h.reads_line hb hw))
  | @closed b sink result hb =>
    refine .inr (written hb fun q hq hnone => ?_)
    simp only [disk_setStage, trailed]
    split
    · rfl
    · split
      · rfl
      · exact h.reads_line hb ‹_› q hq hnone
  | _ => exact kept rfl

/-- A log that nobody has opened reads as it did, if it was so already with the directory made. -/
theorem read_eq (h : Spared settings disk base s tr) {made : Disk}
    (hall : s.disk.AllMade settings.logsDir)
    (hm : base.makeDirs settings.logsDir = .ok made) {q : String}
    (hq : Request.isProjectId q = true) (hnone : tr.owner? q = none) :
    s.logs.read s.disk q = LogStore.read ⟨settings.logsDir⟩ made q := by
  rcases h.reads with hdisk | ⟨made', hm', -, hreads⟩
  · -- Then the directory was there already.
    rw [hdisk] at hall
    obtain rfl := Except.ok.inj ((Disk.makeDirs_of_allMade hall).symm.trans hm)
    rw [hdisk, h.logs_eq]
  · obtain rfl := Except.ok.inj (hm'.symm.trans hm)
    exact hreads q hq hnone

end Spared

/-- **The logs that nobody opens are spared**: from any state of a run on they read as they do in
this state, or as they would with the directory of the logs made. -/
theorem Logged.spared (h : Logged settings disk s tr)
    (hown : ∀ d, disk.makeDirs settings.logsDir = .ok d → LogStore.Own ⟨settings.logsDir⟩ d)
    (moves : List Move) :
    Spared settings disk s.disk (s.applyAll moves) (tr ++ s.trace moves) :=
  kept_by_run (fun _ _ _ _ h hs => h.step hown hs) ⟨h, .inl rfl⟩ moves

end Dispatcher

end BuildService
