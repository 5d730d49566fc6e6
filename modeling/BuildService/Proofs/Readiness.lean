import BuildService.Proofs.Logs
/-!
Disks on which no log fails.

Most of what is said of runs has an exception for logs that cannot be opened. On
a disk that is ready (`LogStore.Ready`) there are none: the directory of the logs
can be made, what stands in it already are plain files of their own, and no name
of a log is too long for a path. This is asked of the disk at the start only. It
lasts for a whole run, since the service itself puts nothing but logs there
(`Smooth`); so neither opening a log nor writing a line into it ever fails.
-/

set_option autoImplicit false

namespace BuildService

namespace LogStore

open Disk

variable {s : LogStore} {d d₁ : Disk} {k : NodeId} {p : String}

/-- A disk on which every log can be opened and written. -/
structure Ready (s : LogStore) (d : Disk) : Prop where
  made : ∃ d₁, d.makeDirs s.dir = .ok d₁ ∧ s.Own d₁ ∧ ∃ k, s.Home d₁ k
  short : ∀ p, Request.isProjectId p = true → IsPath (s.pathFor p)

theorem Ready.own (h : s.Ready d) : ∀ d₁, d.makeDirs s.dir = .ok d₁ → s.Own d₁ := by
  intro d₁ hd
  obtain ⟨d₂, hm, ho, -⟩ := h.made
  obtain rfl := Except.ok.inj (hd.symm.trans hm)
  exact ho

/-- In the log directory a log can be made, or it is there and can be emptied. -/
theorem exists_create (ho : s.Own d) (hk : s.Home d k) (hv : Request.isProjectId p = true)
    (hpath : IsPath (s.pathFor p)) : ∃ made, d.create (s.pathFor p) = .ok made := by
  have hfile : ∀ n, d.child? k (logName p) = some n → ∃ c x, d.node? n = some (.file c x) :=
    fun n hn => ho.file p n hv ((hk.locate_found_iff hv).2 ⟨hpath, hn⟩)
  have hl : d.locate true (s.pathFor p) = .ok (d.entry k (logName p)) := by
    refine (hk.locate_eq hv (.inr fun n hn => ?_)).2 ⟨hpath, rfl⟩
    obtain ⟨c, x, h⟩ := hfile n hn
    exact not_hasLink_of_file h
  cases hc : d.child? k (logName p) with
  | none =>
    have he : d.entry k (logName p) = .free k (logName p) := by simp only [entry, hc]
    rw [create, hl, he]
    exact ⟨_, rfl⟩
  | some n =>
    obtain ⟨c, x, hn⟩ := hfile n hc
    have he : d.entry k (logName p) = .found n := by simp only [entry, hc]
    rw [create, hl, he]
    simp only [hn]
    exact ⟨_, rfl⟩

/-- A log can be opened where its directory can be made. -/
theorem exists_reset (hm : d.makeDirs s.dir = .ok d₁) (ho : s.Own d₁) (hk : s.Home d₁ k)
    (hv : Request.isProjectId p = true) (hpath : IsPath (s.pathFor p)) :
    ∃ sink d', s.reset d p = (.ok sink, d') := by
  obtain ⟨⟨n, d'⟩, hc⟩ := exists_create ho hk hv hpath
  exact ⟨⟨s.pathFor p, n, 0⟩, d', by simp only [reset, hm, hc]⟩

/-- A log that is not there yet is a new file with nothing in it. -/
theorem reset_of_free (hm : d.makeDirs s.dir = .ok d₁) (hk : s.Home d₁ k)
    (hv : Request.isProjectId p = true) (hpath : IsPath (s.pathFor p))
    (hc : d₁.child? k (logName p) = none) :
    s.reset d p = (.ok ⟨s.pathFor p, d₁.nodes.length, 0⟩,
      d₁.addNode k (logName p) (.file (.ofBytes []) false)) := by
  have hl : d₁.locate true (s.pathFor p) = .ok (.free k (logName p)) := by
    refine (hk.locate_eq hv (.inr fun n hn => ?_)).2 ⟨hpath, by simp only [entry, hc]⟩
    rw [hc] at hn
    cases hn
  simp only [reset, hm, create, hl]

/-- The directory of the logs on a disk on which only this one has been made. -/
theorem home_logsDisk : Home ⟨"logs"⟩ Dispatcher.logsDisk 32 :=
  ⟨.enter (n := 32) ⟨by decide, by decide, by decide⟩ rfl Dispatcher.not_hasLink_logs (.here _ _),
    6, [], rfl⟩

/-- A path is short enough if the directory is not very long, since a project id is not. -/
theorem isPath_pathFor (hv : Request.isProjectId p = true)
    (hnul : s.dir.toList.contains '\x00' = false) (hlen : s.dir.utf8ByteSize ≤ 3800) :
    IsPath (s.pathFor p) := by
  have hname : (logName p).utf8ByteSize ≤ 255 := (isPlain_logName hv).2.2
  have hfull : (logName p).isEmpty = false := by
    obtain ⟨⟨c, cs, hcs, -, -⟩, -⟩ := chars_of_isProjectId hv
    have hlist : (logName p).toList ≠ [] := by simp [toList_logName, hcs]
    simpa [String.isEmpty_iff, ← String.toList_eq_nil_iff] using hlist
  have hclean : (logName p).toList.contains '\x00' = false := by
    have hnone : '\x00' ∉ (logName p).toList := by
      rw [toList_logName, List.mem_append, not_or]
      refine ⟨fun h => ?_, by decide⟩
      have hchar := (chars_of_isProjectId hv).2 _ h
      revert hchar
      decide
    simpa using hnone
  have hpath : s.pathFor p = join s.dir (logName p) := rfl
  rw [hpath, join, isAbsolute_logName hv, if_neg Bool.false_ne_true]
  split
  · exact ⟨hclean, hfull, by omega⟩
  split
  all_goals
    have hslash : ("/" : String).utf8ByteSize = 1 := by decide
    refine ⟨?_, ?_, ?_⟩
    · simp_all [String.toList_append]
    · simp_all [String.isEmpty_iff]
    · simp only [String.utf8ByteSize_append]
      omega

/-- On a new disk logs in a directory of their own do not fail. -/
theorem ready_initial : Ready ⟨"logs"⟩ Disk.initial where
  made := ⟨Dispatcher.logsDisk, Dispatcher.initial_makeDirs,
    Dispatcher.own_initial _ Dispatcher.initial_makeDirs, 32, home_logsDisk⟩
  short p hv := isPath_pathFor hv (by decide) (by decide)

end LogStore

namespace Dispatcher

variable {settings : Settings} {disk : Disk} {s s' : Dispatcher} {tr : Trace} {e : Happening}

/-- A log that can be opened is open then. -/
theorem apply_openLog {b : Build} {sink : LogSink} {disk : Disk}
    (ht : s.task? b.id = some ⟨b, .arrived⟩)
    (hr : s.logs.reset s.disk b.project = (.ok sink, disk)) :
    s.apply (.openLog b.id) = { s with disk := disk }.setStage b.id (.opened sink) := by
  simp only [apply, openLog, ht, hr]

/-- No log has failed, and none will: the disk is as it was at the start, or has logs on it. -/
structure Smooth (settings : Settings) (disk : Disk) (s : Dispatcher) (tr : Trace) : Prop where
  logged : Logged settings disk s tr
  untouched : tr.opened = [] → s.disk = disk
  opens : ∀ b cause, .unopened b cause ∉ tr
  writes : ∀ b line cause, .refused b line cause ∉ tr

namespace Smooth

/-- Where a log was opened, its directory is the one in which all logs are. -/
theorem exists_home (h : Smooth settings disk s tr) (ho : tr.opened ≠ []) :
    s.logs.Prepared s.disk ∧ ∃ k, s.logs.Home s.disk k := by
  obtain ⟨b, hb⟩ := List.exists_mem_of_ne_nil _ ho
  have hadmitted : b ∈ tr.admitted :=
    h.logged.truthful.accounted.rooted.mentioned _ (Trace.mem_opened.1 hb) b rfl
  -- The last build of its project that opened the log has left a file there.
  obtain ⟨c, hc⟩ : ∃ c, tr.owner? b.project = some c := by
    rw [Trace.owner?, ← Option.isSome_iff_exists, List.find?_isSome]
    exact ⟨b, List.mem_reverse.2 hb, by simp⟩
  obtain ⟨n, hn, -⟩ := h.logged.log _ c hc
  have hv : Request.isProjectId c.project = true := by
    rw [(Trace.mem_of_owner? hc).2]
    exact h.logged.valid b hadmitted
  refine ⟨?_, (LogStore.exists_home hv hn.place).2⟩
  exact h.logged.prepared.resolve_left fun hnone => ho hnone.2

/-- Every log can be opened, at every moment. -/
theorem exists_reset (h : Smooth settings disk s tr)
    (hready : LogStore.Ready ⟨settings.logsDir⟩ disk) {p : String}
    (hv : Request.isProjectId p = true) : ∃ sink d, s.logs.reset s.disk p = (.ok sink, d) := by
  have hlogs : s.logs = ⟨settings.logsDir⟩ := by rw [logs, h.logged.same]
  by_cases ho : tr.opened = []
  · obtain ⟨d₁, hm, hown, k, hk⟩ := hready.made
    rw [h.untouched ho, hlogs]
    exact LogStore.exists_reset hm hown hk hv (hready.short p hv)
  · obtain ⟨hp, k, hk⟩ := h.exists_home ho
    refine LogStore.exists_reset (Disk.makeDirs_of_allMade hp.made) hp.own hk hv ?_
    rw [hlogs]
    exact hready.short p hv

/-- Who has called its tool has opened its log. -/
theorem opened_of_running (h : Smooth settings disk s tr) {b : Build} {sink : LogSink}
    (hb : s.task? b.id = some ⟨b, .running sink⟩) : tr.opened ≠ [] :=
  List.ne_nil_of_mem (Trace.mem_of_owner? (h.logged.sink _ (mem_of_task? hb) sink rfl)).1

theorem step (h : Smooth settings disk s tr) (hready : LogStore.Ready ⟨settings.logsDir⟩ disk)
    (hs : Step s e s') : Smooth settings disk s' (tr ++ [e]) := by
  have hlogged := h.logged.step hready.own hs
  have hopens : ∀ b cause, e ≠ .unopened b cause := by
    rintro b cause rfl
    cases hs with
    | unopened hb hr =>
      obtain ⟨sink, d, hreset⟩ :=
        h.exists_reset hready (h.logged.valid_of_live (mem_live_of_task? hb))
      rw [hreset] at hr
      cases hr
  have hwrites : ∀ b line cause, e ≠ .refused b line cause := by
    rintro b line cause rfl
    cases hs with
    | refused hb hw =>
      obtain ⟨n, d, hd, -⟩ := h.logged.keeps_line hb line
      rw [hd] at hw
      cases hw
  refine ⟨hlogged, ?_, ?_, ?_⟩
  · intro ho
    rw [Trace.opened_append] at ho
    obtain ⟨hbefore, hnow⟩ := List.append_eq_nil_iff.1 ho
    -- What changes the disk opens a log or has opened it before.
    cases hs with
    | opened _ _ => cases hnow
    | unopened _ _ => exact absurd rfl (hopens _ _)
    | wrote hb _ => exact absurd hbefore (h.opened_of_running hb)
    | closed hb => exact absurd hbefore (h.opened_of_running hb)
    | _ => exact h.untouched hbefore
  · intro b cause hmem
    rcases List.mem_append.1 hmem with hmem | hmem
    · exact h.opens b cause hmem
    · exact hopens b cause (List.mem_singleton.1 hmem).symm
  · intro b line cause hmem
    rcases List.mem_append.1 hmem with hmem | hmem
    · exact h.writes b line cause hmem
    · exact hwrites b line cause (List.mem_singleton.1 hmem).symm

/-- Who is admitted can open its log. -/
theorem exists_opened (h : Smooth settings disk s tr)
    (hready : LogStore.Ready ⟨settings.logsDir⟩ disk) {b : Build}
    (ht : s.task? b.id = some ⟨b, .arrived⟩) :
    ∃ sink d, s.happening? (.openLog b.id) = some (.opened b) ∧
      s.apply (.openLog b.id) = { s with disk := d }.setStage b.id (.opened sink) ∧
      Smooth settings disk ({ s with disk := d }.setStage b.id (.opened sink))
        (tr ++ [.opened b]) := by
  obtain ⟨sink, d, hr⟩ := h.exists_reset hready (h.logged.valid_of_live (mem_live_of_task? ht))
  have he : s.happening? (.openLog b.id) = some (.opened b) := by
    simp only [happening?, ht, hr]
  have happly := apply_openLog ht hr
  exact ⟨sink, d, he, happly, happly ▸ h.step hready (step_apply he)⟩

end Smooth

/-- **On a disk that is ready no log fails**, in any run. -/
theorem smooth (settings : Settings) (disk : Disk)
    (hready : LogStore.Ready ⟨settings.logsDir⟩ disk) (moves : List Move) :
    Smooth settings disk ((start settings .empty disk).applyAll moves)
      ((start settings .empty disk).trace moves) := by
  refine run_induction ?_ (fun _ _ _ _ h hs => h.step hready hs) moves
  exact ⟨logged settings disk hready.own [], fun _ => rfl, by simp, by simp⟩

end Dispatcher

end BuildService
