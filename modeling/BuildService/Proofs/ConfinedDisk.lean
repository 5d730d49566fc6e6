import BuildService.Proofs.LogFiles
import BuildService.Proofs.OpenLogs
/-!
What a log store may do to a disk.

A disk is compared with what it was before (`LogStore.Confined`). Whatever is new
on it is a log, or one of the directories in which logs are; whatever was there
and is another now is a log, or a directory that has got new names; and every new
name stands for something new. A log is meant here by its path: it is what the
path of an accepted project id leads to, through links or not, and nothing is
assumed about the disk.

Confined changes add up (`Confined.trans`), because paths lead on where they led.
So it is enough to look at each operation on its own.
-/

set_option autoImplicit false

namespace BuildService

namespace Disk

variable {d d' : Disk} {k n : NodeId} {name path : String} {node : Node}

@[simp] theorem length_setNode (d : Disk) (n : NodeId) (node : Node) :
    (d.setNode n node).nodes.length = d.nodes.length := by
  simp [setNode]

theorem length_addNode (hk : d.HasDirectory k) (name : String) (node : Node) :
    (d.addNode k name node).nodes.length = d.nodes.length + 1 := by
  obtain ⟨parent, names, hk⟩ := hk
  simp [addNode, hk]

/-- A directory is made at a free place, and found there. -/
theorem makeDir_cases (h : d.makeDir path = .ok d') :
    ∃ k name, d.locate false path = .ok (.free k name) ∧
      d' = d.addNode k name (.directory k []) := by
  unfold makeDir at h
  split at h
  · cases h
  · cases h
  · rename_i k name hl
    cases h
    exact ⟨k, name, hl, rfl⟩

section

variable {r : Disk → Disk → Prop} (refl : ∀ d, r d d)
  (trans : ∀ {d₁ d₂ d₃}, r d₁ d₂ → r d₂ d₃ → r d₁ d₃)
include refl

theorem missingFrom_rel {paths : List String}
    (make : ∀ {d d' : Disk}, ∀ path ∈ paths, d.makeDir path = .ok d' → r d d') {count : Nat}
    (h : d.missingFrom paths = .ok (count, d')) : r d d' := by
  induction paths generalizing count with
  | nil =>
    cases h
    exact refl _
  | cons path paths ih =>
    unfold missingFrom at h
    split at h
    · rename_i hm
      cases h
      exact make path List.mem_cons_self hm
    · split at h
      · cases hmiss : d.missingFrom paths with
        | error e =>
          rw [hmiss] at h
          cases h
        | ok found =>
          rw [hmiss] at h
          cases h
          exact ih (fun path hpath => make path (List.mem_cons_of_mem _ hpath)) hmiss
      · split at h
        · cases h
          exact refl _
        · cases h

include trans

theorem makeEach_rel {paths : List String}
    (make : ∀ {d d' : Disk}, ∀ path ∈ paths, d.makeDir path = .ok d' → r d d')
    (h : d.makeEach paths = .ok d') : r d d' := by
  induction paths generalizing d with
  | nil =>
    cases h
    exact refl _
  | cons path paths ih =>
    have hpaths : ∀ {d d' : Disk}, ∀ p ∈ paths, d.makeDir p = .ok d' → r d d' := fun p hp =>
      make p (List.mem_cons_of_mem _ hp)
    unfold makeEach at h
    split at h
    · rename_i hm
      exact trans (make path List.mem_cons_self hm) (ih hpaths h)
    · split at h
      · exact ih hpaths h
      · cases h

/-- What making one directory does, and what adds up, is what making a directory and all above it
does. -/
theorem makeDirs_rel
    (make : ∀ {d d' : Disk}, ∀ p ∈ ancestors path, d.makeDir p = .ok d' → r d d')
    (h : d.makeDirs path = .ok d') : r d d' := by
  unfold makeDirs at h
  simp only at h
  split at h
  · cases h
  · rename_i hmiss
    refine trans (missingFrom_rel refl make hmiss) (makeEach_rel refl trans (fun p hp => ?_) h)
    exact make p (List.mem_of_mem_take (List.mem_reverse.1 hp))

end

namespace Extends

theorem refl (d : Disk) : Extends d d :=
  ⟨rfl, fun _ _ names h => ⟨names, h⟩, fun _ _ _ h => h, fun _ _ => Iff.rfl⟩

theorem trans {d₁ : Disk} (h : Extends d d₁) (h' : Extends d₁ d') : Extends d d' where
  base := h'.base.trans h.base
  directory k parent names hk := by
    obtain ⟨names₁, hk⟩ := h.directory k parent names hk
    exact h'.directory k parent names₁ hk
  child k name n hc := h'.child k name n (h.child k name n hc)
  link n target := (h'.link n target).trans (h.link n target)

end Extends

end Disk

namespace LogStore

open Disk

variable {s : LogStore} {d d' d₁ : Disk} {k n : NodeId} {p : String}

/-- The log of a project whose id is accepted. -/
def IsLog (s : LogStore) (d : Disk) (n : NodeId) : Prop :=
  ∃ p, Request.isProjectId p = true ∧ d.locate true (s.pathFor p) = .ok (.found n)

/-- The log directory or one above it. -/
def IsAbove (s : LogStore) (d : Disk) (n : NodeId) : Prop :=
  d.HasDirectory n ∧ ∃ path ∈ ancestors s.dir, d.locate false path = .ok (.found n)

theorem IsLog.mono (h : s.IsLog d n) (hx : Extends d d') : s.IsLog d' n := by
  obtain ⟨p, hp, hl⟩ := h
  exact ⟨p, hp, locate_found_mono hx hl⟩

theorem IsAbove.mono (h : s.IsAbove d n) (hx : Extends d d') : s.IsAbove d' n := by
  obtain ⟨hn, path, hpath, hl⟩ := h
  exact ⟨hx.hasDirectory hn, path, hpath, locate_found_mono hx hl⟩

/-- **A disk has changed only where logs are.** -/
structure Confined (s : LogStore) (d d' : Disk) : Prop where
  grown : Extends d d'
  length : d.nodes.length ≤ d'.nodes.length
  /-- What was there is as it was, or a directory with more names, or a log. -/
  kept : ∀ n, n < d.nodes.length →
    d'.node? n = d.node? n ∨ d'.HasDirectory n ∨ s.IsLog d' n
  /-- What is new is a log, or made for the logs to be in. -/
  made : ∀ n, d.nodes.length ≤ n → n < d'.nodes.length → s.IsLog d' n ∨ s.IsAbove d' n
  /-- New names stand for new things. -/
  named : ∀ k name n, d'.child? k name = some n → d.child? k name = some n ∨ d.nodes.length ≤ n

namespace Confined

theorem refl (s : LogStore) (d : Disk) : s.Confined d d where
  grown := .refl d
  length := Nat.le_refl _
  kept _ _ := .inl rfl
  made _ h h' := absurd h' (Nat.not_lt.2 h)
  named _ _ _ h := .inl h

/-- Confined changes add up. -/
theorem trans (h : s.Confined d d₁) (h' : s.Confined d₁ d') : s.Confined d d' where
  grown := h.grown.trans h'.grown
  length := Nat.le_trans h.length h'.length
  kept n hn := by
    -- What was a log or a directory in between is one still.
    rcases h'.kept n (Nat.lt_of_lt_of_le hn h.length) with heq | hdir | hlog
    · rw [heq]
      rcases h.kept n hn with heq | hdir | hlog
      · exact .inl heq
      · exact .inr (.inl (h'.grown.hasDirectory hdir))
      · exact .inr (.inr (hlog.mono h'.grown))
    · exact .inr (.inl hdir)
    · exact .inr (.inr hlog)
  made n hn hn' := by
    by_cases hlt : n < d₁.nodes.length
    · exact (h.made n hn hlt).imp (·.mono h'.grown) (·.mono h'.grown)
    · exact h'.made n (Nat.not_lt.1 hlt) hn'
  named k name n hc := by
    rcases h'.named k name n hc with hc | hn
    · exact h.named k name n hc
    · exact .inr (Nat.le_trans h.length hn)

/-- Writing into the file of a log. -/
theorem setNode {c : Content} {x : Bool} (hn : d.node? n = some (.file c x)) (hlog : s.IsLog d n)
    (c' : Content) (x' : Bool) : s.Confined d (d.setNode n (.file c' x')) where
  grown := extends_setNode_file hn
  length := Nat.le_of_eq (length_setNode ..).symm
  kept m _ := by
    by_cases hm : m = n
    · exact .inr (.inr (hm ▸ hlog.mono (extends_setNode_file hn)))
    · exact .inl (by rw [node?_setNode hn, if_neg hm])
  made m h h' := absurd h' (Nat.not_lt.2 (by rwa [length_setNode]))
  named k name m hc := by
    rw [child?_setNode_file hn] at hc
    exact .inl hc

/-- Making a log, or a directory for the logs to be in. -/
theorem addNode {name : String} {node : Node} (hk : d.HasDirectory k)
    (hc : d.child? k name = none)
    (hleaf : ∀ parent names, node = .directory parent names → names = [])
    (hlink : ∀ target, node ≠ .link target)
    (hnew : s.IsLog (d.addNode k name node) d.nodes.length ∨
      s.IsAbove (d.addNode k name node) d.nodes.length) :
    s.Confined d (d.addNode k name node) where
  grown := extends_addNode hk hc hleaf hlink
  length := by
    rw [length_addNode hk]
    exact Nat.le_succ _
  kept m hm := by
    obtain ⟨parent, names, -, hnode⟩ := node?_addNode hk name node
    by_cases hmk : m = k
    · exact .inr (.inl (hmk ▸ (extends_addNode hk hc hleaf hlink).hasDirectory hk))
    · exact .inl (by rw [hnode, if_neg (Nat.ne_of_lt hm), if_neg hmk])
  made m h h' := by
    rw [length_addNode hk] at h'
    -- Only one thing is new.
    obtain rfl : m = d.nodes.length := by omega
    exact hnew
  named j other m hc' := by
    rw [child?_addNode hk name hleaf] at hc'
    split at hc'
    · cases hc'
      exact .inr (Nat.le_refl _)
    · exact .inl hc'

/-- Opening the log of a project whose id is accepted. -/
theorem create (hp : Request.isProjectId p = true) (h : d.create (s.pathFor p) = .ok (n, d')) :
    s.Confined d d' := by
  have hplace := (locate_of_create h).1
  rcases create_cases h with ⟨k, name, hl, rfl, rfl⟩ | ⟨hl, ⟨c, x, hn, rfl⟩ | ⟨rfl, -⟩⟩
  · obtain ⟨hk, hc⟩ := (locate_eq_ok_iff.1 hl).2.of_free
    exact addNode hk hc (by simp) (by simp) (.inl ⟨p, hp, hplace⟩)
  · exact setNode hn ⟨p, hp, hl⟩ _ _
  · exact refl s _

/-- Making one of the directories in which logs are. -/
theorem makeDir {path : String} (hpath : path ∈ ancestors s.dir) (h : d.makeDir path = .ok d') :
    s.Confined d d' := by
  obtain ⟨k, name, hl, rfl⟩ := makeDir_cases h
  obtain ⟨hk, hc⟩ := (locate_eq_ok_iff.1 hl).2.of_free
  have hleaf : ∀ parent names, Node.directory k [] = .directory parent names → names = [] := by
    rintro parent names ⟨⟩
    rfl
  obtain ⟨_, _, -, hnode⟩ := node?_addNode hk name (.directory k [])
  have hdir : (d.addNode k name (.directory k [])).HasDirectory d.nodes.length :=
    ⟨k, [], by rw [hnode, if_pos rfl]⟩
  exact addNode hk hc hleaf (by simp)
    (.inr ⟨hdir, path, hpath, locate_addNode hl hleaf (by simp)⟩)

theorem makeDirs (h : d.makeDirs s.dir = .ok d') : s.Confined d d' :=
  makeDirs_rel (refl s) trans (fun _ hpath h => makeDir hpath h) h

/-- **Emptying a log**, whether this succeeds or not. -/
theorem reset (hp : Request.isProjectId p = true) : s.Confined d (s.reset d p).2 := by
  unfold LogStore.reset
  split
  · exact refl s _
  · rename_i hmake
    split
    · exact makeDirs hmake
    · rename_i hcreate
      exact (makeDirs hmake).trans (create hp hcreate)

/-- **Writing a line** through a sink that stands in a log. -/
theorem writeLine {sink sink' : LogSink} {line : String} (hlog : s.IsLog d sink.node)
    (h : sink.writeLine d line = .ok (sink', d')) :
    s.Confined d d' ∧ sink'.node = sink.node := by
  unfold LogSink.writeLine Disk.writeAt at h
  split at h
  · cases h
  · rename_i hw
    cases h
    refine ⟨?_, rfl⟩
    split at hw
    · rename_i hn
      cases hw
      exact setNode hn hlog _ _
    · split at hw
      · cases hw
        exact refl s _
      · cases hw
    · cases hw
      exact refl s _

end Confined

end LogStore

end BuildService
