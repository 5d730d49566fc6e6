import BuildService.Proofs.ConfinedDisk
/-!
What opening and writing one log does to all the others, on any disk.

Elsewhere every log is assumed to be a file of its own. Here nothing is assumed: a
log may be a link, to another log as well, or stand for nothing, or be named by a
path that leads nowhere. So logs are told apart by their places and not by their
names, and two of them have to do with each other exactly if they are at one place
(`LogStore.Shares`). What is written at another place leaves a log as it reads
(`LogStore.SameLog`).

Two disks are compared along one path (`Disk.Alike`). Where the path leads on the
earlier one, it leads there on the later one and the same bytes are there; and where
it leads nowhere, it leads nowhere still, though the reason may be another one, as a
name that was missing may now be that of a file.
-/

set_option autoImplicit false

namespace BuildService

namespace Disk

variable {d d' d₁ : Disk} {k n : NodeId} {name path : String} {place : Place} {c c' : Content}
  {x x' : Bool}

/-! ## Disks along one path -/

/-- A path leads somewhere on a later disk only if it did before, and then it is read as it was. -/
structure Alike (d d' : Disk) (path : String) : Prop where
  leads : ∀ place, d'.locate true path = .ok place → ∃ place, d.locate true path = .ok place
  read : ∀ place, d.locate true path = .ok place → d'.read path = d.read path

theorem Alike.refl (d : Disk) (path : String) : Alike d d path :=
  ⟨fun place h => ⟨place, h⟩, fun _ _ => rfl⟩

/-- A path leads to the same place, unless that was a free name that has been taken. -/
theorem locate_kept (hx : Extends d d') (h : d.locate true path = .ok place)
    (hfree : ∀ k name, place = .free k name → d'.child? k name = none) :
    d'.locate true path = .ok place := by
  rw [locate_eq_ok_iff] at h ⊢
  rw [origin, hx.base]
  refine ⟨h.1, ?_⟩
  have hsettle : d'.settle place = place := by
    cases place with
    | found n => rfl
    | free k name => simp only [settle, entry, hfree k name rfl]
  rw [← hsettle]
  refine h.2.mono hx fun k name n hplace hchild => ?_
  rw [hfree k name hplace] at hchild
  cases hchild

theorem alike_of_extends (hx : Extends d d')
    (hback : ∀ place, d'.locate true path = .ok place → ∃ place, d.locate true path = .ok place)
    (hfree : ∀ k name, d.locate true path = .ok (.free k name) → d'.child? k name = none)
    (hbytes : ∀ n, d.locate true path = .ok (.found n) → d'.bytes n = d.bytes n) :
    Alike d d' path := by
  refine ⟨hback, fun place h => ?_⟩
  have hkept := locate_kept hx h fun k name hplace => hfree k name (hplace ▸ h)
  cases place with
  | found n => simp only [Disk.read, find, h, hkept, hbytes n h]
  | free k name => simp only [Disk.read, find, h, hkept]

/-! ## Writing into a file -/

/-- A file that is written was a file before, so nothing is lost on the way back either. -/
theorem extends_of_setNode_file (h : d.node? n = some (.file c x)) :
    Extends (d.setNode n (.file c' x')) d := by
  have hlt := lt_length_of_node? h
  have hnode : (d.setNode n (.file c' x')).node? n = some (.file c' x') := by
    rw [node?_setNode h, if_pos rfl]
  have hback : (d.setNode n (.file c' x')).setNode n (.file c x) = d := by
    have hold : d.nodes[n] = .file c x := Option.some.inj ((List.getElem?_eq_getElem hlt).symm.trans h)
    simp only [setNode, List.set_set, ← hold, List.set_getElem_self]
  have hx : Extends (d.setNode n (.file c' x')) ((d.setNode n (.file c' x')).setNode n (.file c x)) :=
    extends_setNode_file hnode
  rwa [hback] at hx

/-- What is written into a file is not read along a path that leads elsewhere. -/
theorem alike_setNode (h : d.node? n = some (.file c x)) (hne : d.locate true path ≠ .ok (.found n)) :
    Alike d (d.setNode n (.file c' x')) path := by
  have hchild : ∀ k name, (d.setNode n (.file c' x')).child? k name = d.child? k name := fun _ _ =>
    child?_setNode_file h
  have free : ∀ {d : Disk} {k : NodeId} {name : String},
      d.locate true path = .ok (.free k name) → d.child? k name = none := fun hl =>
    (locate_eq_ok_iff.1 hl).2.of_free.2
  refine alike_of_extends (extends_setNode_file h) (fun place hl => ⟨place, ?_⟩)
    (fun k name hl => ?_) fun m hl => ?_
  · refine locate_kept (extends_of_setNode_file h) hl ?_
    rintro k name rfl
    rw [← hchild]
    exact free hl
  · rw [hchild]
    exact free hl
  · have hm : m ≠ n := by
      rintro rfl
      exact hne hl
    rw [bytes, bytes, node?_setNode h, if_neg hm]

/-! ## Making a file -/

section

variable (hk : d.HasDirectory k)
include hk

/-- What is a directory when a file has been made was one, under the same parent. -/
theorem directory_of_addNode_file {m p : NodeId} {ns : List (String × NodeId)}
    (hm : (d.addNode k name (.file c x)).node? m = some (.directory p ns)) :
    ∃ ns', d.node? m = some (.directory p ns') := by
  obtain ⟨parent, names, hdir, hnode⟩ := node?_addNode hk name (.file c x)
  rw [hnode] at hm
  split at hm
  · cases hm
  · split at hm
    · rename_i hmk
      cases hm
      exact ⟨names, hmk ▸ hdir⟩
    · exact ⟨ns, hm⟩

/-- What a name stands for when a file has been made it stood for before, or it is the file. -/
theorem child?_of_addNode_file {m m' : NodeId} {other : String}
    (hm : (d.addNode k name (.file c x)).child? m other = some m') :
    (m = k ∧ other = name ∧ m' = d.nodes.length) ∨ d.child? m other = some m' := by
  rw [child?_addNode hk name (by simp)] at hm
  split at hm
  · rename_i hnew
    exact .inl ⟨hnew.1, hnew.2, (Option.some.inj hm).symm⟩
  · exact .inr hm

theorem not_hasDirectory_addNode_file :
    ¬(d.addNode k name (.file c x)).HasDirectory d.nodes.length := by
  obtain ⟨parent, names, -, hnode⟩ := node?_addNode hk name (.file c x)
  rintro ⟨p, ns, hd⟩
  rw [hnode, if_pos rfl] at hd
  cases hd

variable (hc : d.child? k name = none)
include hc

/-- Names that lead somewhere when a file has been made led somewhere before. A walk can only end at
the file, and then the last name was free. -/
theorem Leads.of_addNode_file {links : Nat} {k' : NodeId} {names : List String}
    (h : Leads (d.addNode k name (.file c x)) true links k' names place) :
    ∃ place, Leads d true links k' names place := by
  have hx : Extends d (d.addNode k name (.file c x)) := extends_addNode hk hc (by simp) (by simp)
  induction h with
  | here => exact ⟨_, .here _ _⟩
  | dot hd _ ih =>
    obtain ⟨place, h⟩ := ih
    obtain ⟨p, ns, hd⟩ := hd
    obtain ⟨ns', hd⟩ := directory_of_addNode_file hk hd
    exact ⟨place, .dot ⟨p, ns', hd⟩ h⟩
  | up hd _ ih =>
    obtain ⟨place, h⟩ := ih
    obtain ⟨ns', hd⟩ := directory_of_addNode_file hk hd
    exact ⟨place, .up hd h⟩
  | @free _ m other hd hp hnone =>
    obtain ⟨p, ns, hd⟩ := hd
    obtain ⟨ns', hd⟩ := directory_of_addNode_file hk hd
    refine ⟨_, .free ⟨p, ns', hd⟩ hp ?_⟩
    cases hm : d.child? m other with
    | none => rfl
    | some m' =>
      rw [hx.child _ _ _ hm] at hnone
      cases hnone
  | stop _ _ _ hf => cases hf
  | link hp hm hl hf _ ih =>
    obtain ⟨place, h⟩ := ih
    have hold := (hx.link _ _).1 hl
    rcases child?_of_addNode_file hk hm with ⟨-, -, rfl⟩ | hm
    · exact absurd (lt_length_of_node? hold) (Nat.lt_irrefl _)
    · exact ⟨place, .link hp hm hold hf h⟩
  | enter hp hm hl hrest ih =>
    rcases child?_of_addNode_file hk hm with ⟨hmk, hother, rfl⟩ | hm
    · -- Nothing leads on from a file.
      have hnodir : ¬(d.addNode k name (.file c x)).HasDirectory d.nodes.length :=
        not_hasDirectory_addNode_file hk
      cases hrest with
      | here => exact ⟨_, .free (hmk ▸ hk) hp (by rw [hmk, hother, hc])⟩
      | dot hd => exact absurd hd hnodir
      | up hd => exact absurd ⟨_, _, hd⟩ hnodir
      | free hd => exact absurd hd hnodir
      | stop _ hm => exact absurd (hasDirectory_of_child? hm) hnodir
      | link _ hm => exact absurd (hasDirectory_of_child? hm) hnodir
      | enter _ hm => exact absurd (hasDirectory_of_child? hm) hnodir
    · obtain ⟨place, h⟩ := ih
      exact ⟨place, .enter hp hm (hx.hasLink_iff.not.1 hl) h⟩

/-- A file that is made is not read along a path that does not lead to its name. -/
theorem alike_addNode (hne : d.locate true path ≠ .ok (.free k name)) :
    Alike d (d.addNode k name (.file (.ofBytes []) x)) path := by
  have hx : Extends d (d.addNode k name (.file (.ofBytes []) x)) :=
    extends_addNode hk hc (by simp) (by simp)
  refine alike_of_extends hx (fun place hl => ?_) (fun k' name' hl => ?_) fun m _ => ?_
  · rw [locate_eq_ok_iff, origin, hx.base] at hl
    obtain ⟨place, h⟩ := hl.2.of_addNode_file hk hc
    exact ⟨place, locate_eq_ok_iff.2 ⟨hl.1, h⟩⟩
  · rw [child?_addNode hk name (by simp), if_neg]
    · exact (locate_eq_ok_iff.1 hl).2.of_free.2
    · rintro ⟨rfl, rfl⟩
      exact hne hl
  · obtain ⟨parent, names, hdir, hnode⟩ := node?_addNode hk name (.file (.ofBytes []) x)
    rw [bytes, bytes, hnode]
    by_cases hnew : m = d.nodes.length
    · -- The number stood for nothing, and nothing is read where nothing is.
      have hold : d.node? m = none := List.getElem?_eq_none (Nat.le_of_eq hnew.symm)
      rw [if_pos hnew, hold]
      rfl
    · rw [if_neg hnew]
      by_cases hmk : m = k
      · rw [if_pos hmk, hmk, hdir]
      · rw [if_neg hmk]

end

theorem extends_create (h : d.create path = .ok (n, d')) : Extends d d' := by
  rcases create_cases h with ⟨k, name, hl, rfl, rfl⟩ | ⟨hl, ⟨c, x, hn, rfl⟩ | ⟨rfl, -⟩⟩
  · obtain ⟨hk, hc⟩ := (locate_eq_ok_iff.1 hl).2.of_free
    exact extends_addNode hk hc (by simp) (by simp)
  · exact extends_setNode_file hn
  · exact .refl _

/-- What opening a file does is not read along a path that leads elsewhere. -/
theorem alike_create {other : String} (h : d.create path = .ok (n, d'))
    (hne : d.locate true other ≠ d.locate true path) : Alike d d' other := by
  rcases create_cases h with ⟨k, name, hl, rfl, rfl⟩ | ⟨hl, ⟨c, x, hn, rfl⟩ | ⟨rfl, -⟩⟩
  · obtain ⟨hk, hc⟩ := (locate_eq_ok_iff.1 hl).2.of_free
    exact alike_addNode hk hc (hl ▸ hne)
  · exact alike_setNode hn (hl ▸ hne)
  · exact .refl _ _

/-- Bytes are written into a file, or nothing changes. -/
theorem writeAt_cases {position : Nat} {new : List UInt8} (h : d.writeAt n position new = .ok d') :
    (∃ c c' x, d.node? n = some (.file c x) ∧ d' = d.setNode n (.file c' x)) ∨ d' = d := by
  unfold writeAt at h
  split at h
  · rename_i c x hn
    cases h
    exact .inl ⟨c, _, x, hn, rfl⟩
  · split at h
    · cases h
      exact .inr rfl
    · cases h
  · cases h
    exact .inr rfl

theorem extends_writeAt {position : Nat} {new : List UInt8}
    (h : d.writeAt n position new = .ok d') : Extends d d' := by
  rcases writeAt_cases h with ⟨c, c', x, hn, rfl⟩ | rfl
  · exact extends_setNode_file hn
  · exact .refl _

/-- What is written into an open file is not read along a path that leads elsewhere. -/
theorem alike_writeAt {position : Nat} {new : List UInt8} (h : d.writeAt n position new = .ok d')
    (hne : d.locate true path ≠ .ok (.found n)) : Alike d d' path := by
  rcases writeAt_cases h with ⟨c, c', x, hn, rfl⟩ | rfl
  · exact alike_setNode hn hne
  · exact .refl _ _

/-! ## Making directories -/

/-- Everything that was on one disk is where it was on another one, and has the same bytes. -/
structure Grows (d d' : Disk) : Prop where
  grown : Extends d d'
  length : d.nodes.length ≤ d'.nodes.length
  bytes : ∀ n < d.nodes.length, d'.bytes n = d.bytes n

namespace Grows

theorem refl (d : Disk) : Grows d d := ⟨.refl d, Nat.le_refl _, fun _ _ => rfl⟩

theorem trans (h : Grows d d₁) (h' : Grows d₁ d') : Grows d d' where
  grown := h.grown.trans h'.grown
  length := Nat.le_trans h.length h'.length
  bytes n hn := (h'.bytes n (Nat.lt_of_lt_of_le hn h.length)).trans (h.bytes n hn)

theorem makeDir (h : d.makeDir path = .ok d') : Grows d d' := by
  obtain ⟨k, name, hl, rfl⟩ := makeDir_cases h
  obtain ⟨hk, hc⟩ := (locate_eq_ok_iff.1 hl).2.of_free
  have hleaf : ∀ parent names, Node.directory k [] = .directory parent names → names = [] := by
    rintro parent names ⟨⟩
    rfl
  refine ⟨extends_addNode hk hc hleaf (by simp), ?_, fun n hn => ?_⟩
  · rw [length_addNode hk]
    exact Nat.le_succ _
  · obtain ⟨parent, names, hdir, hnode⟩ := node?_addNode hk name (.directory k [])
    rw [Disk.bytes, Disk.bytes, hnode, if_neg (Nat.ne_of_lt hn)]
    by_cases hnk : n = k
    · rw [if_pos hnk, hnk, hdir]
    · rw [if_neg hnk]

theorem makeDirs (h : d.makeDirs path = .ok d') : Grows d d' :=
  makeDirs_rel refl trans (fun _ _ h => makeDir h) h

end Grows

end Disk

namespace LogStore

open Disk

variable {s : LogStore} {d d' base : Disk} {p q : String}

/-! ## Logs at one place -/

/-- The logs of two projects are at one place: one file, or one name that is still free. -/
def Shares (s : LogStore) (d : Disk) (p q : String) : Prop :=
  ∃ place, d.locate true (s.pathFor p) = .ok place ∧ d.locate true (s.pathFor q) = .ok place

/-- A log holds the same text on two disks, or none on both. Where its path leads somewhere, the
answers of a reader are the same in everything. -/
structure SameLog (s : LogStore) (d d' : Disk) (q : String) : Prop where
  text : ∀ text, s.read d' q = .ok (some text) ↔ s.read d q = .ok (some text)
  answer : ∀ place, d.locate true (s.pathFor q) = .ok place → s.read d' q = s.read d q

theorem exists_place_of_read {text : String} (h : s.read d q = .ok (some text)) :
    ∃ place, d.locate true (s.pathFor q) = .ok place := by
  cases hl : d.locate true (s.pathFor q) with
  | ok place => exact ⟨place, rfl⟩
  | error e =>
    have hread : d.read (s.pathFor q) = .error e := by simp only [Disk.read, find, hl]
    delta LogStore.read at h
    rw [hread] at h
    dsimp only at h
    split at h <;> cases h

theorem read_congr_path (h : d'.read (s.pathFor q) = d.read (s.pathFor q)) :
    s.read d' q = s.read d q := by
  delta LogStore.read
  rw [h]

theorem sameLog_of_alike (h : Alike d d' (s.pathFor q)) : s.SameLog d d' q := by
  have hanswer : ∀ place, d.locate true (s.pathFor q) = .ok place → s.read d' q = s.read d q :=
    fun place hl => read_congr_path (h.read place hl)
  refine ⟨fun text => ⟨fun ht => ?_, fun ht => ?_⟩, hanswer⟩
  · obtain ⟨place, hl⟩ := exists_place_of_read ht
    obtain ⟨place, hl⟩ := h.leads place hl
    rwa [hanswer place hl] at ht
  · obtain ⟨place, hl⟩ := exists_place_of_read ht
    rwa [hanswer place hl]

theorem SameLog.refl (s : LogStore) (d : Disk) (q : String) : s.SameLog d d q :=
  ⟨fun _ => .rfl, fun _ _ => rfl⟩

/-- What is written through a sink stays where the sink stands. -/
theorem writeAt_of_writeLine {sink sink' : LogSink} {line : String}
    (h : sink.writeLine d line = .ok (sink', d')) : sink'.node = sink.node ∧
      d.writeAt sink.node sink.position (LogSink.lineBytes line) = .ok d' := by
  unfold LogSink.writeLine at h
  split at h
  · cases h
  · rename_i hw
    cases h
    exact ⟨rfl, hw⟩

/-- The disk on which logs are compared when one of them is opened: the one that there is, unless the
directory of the logs has still to be made, and then the one on which it is. Logs that could be read
before it was made are read as they were. -/
structure Basis (s : LogStore) (d base : Disk) : Prop where
  made : base = d ∨ ¬d.AllMade s.dir ∧ d.makeDirs s.dir = .ok base
  kept : ∀ q n, d.locate true (s.pathFor q) = .ok (.found n) → n < d.nodes.length →
    s.read base q = s.read d q

theorem Basis.refl (s : LogStore) (d : Disk) : s.Basis d d := ⟨.inl rfl, fun _ _ _ _ => rfl⟩

/-- What is done to one log shows in no log at another place. -/
def LeavesOthers (s : LogStore) (d d' : Disk) (p : String) : Prop :=
  ∃ base, s.Basis d base ∧ ∀ q, ¬s.Shares base p q → s.SameLog base d' q

theorem leavesOthers_refl (s : LogStore) (d : Disk) (p : String) : s.LeavesOthers d d p :=
  ⟨d, .refl s d, fun q _ => .refl s d q⟩

/-- A line that is written into a log is read in no log at another place. -/
theorem leavesOthers_writeLine {sink sink' : LogSink} {line : String}
    (hplace : d.locate true (s.pathFor p) = .ok (.found sink.node))
    (h : sink.writeLine d line = .ok (sink', d')) : s.LeavesOthers d d' p :=
  ⟨d, .refl s d, fun _ hq =>
    sameLog_of_alike (alike_writeAt (writeAt_of_writeLine h).2 fun hl => hq ⟨_, hplace, hl⟩)⟩

theorem basis_of_makeDirs (h : d.makeDirs s.dir = .ok base) : s.Basis d base := by
  refine ⟨?_, fun q n hl hn => ?_⟩
  · by_cases hall : d.AllMade s.dir
    · exact .inl (Except.ok.inj (h.symm.trans (makeDirs_of_allMade hall)))
    · exact .inr ⟨hall, h⟩
  · have hgrows := Grows.makeDirs h
    have hkept := locate_found_mono hgrows.grown hl
    refine read_congr_path ?_
    simp only [Disk.read, find, hl, hkept, hgrows.bytes n hn]

theorem extends_reset (s : LogStore) (d : Disk) (p : String) : Extends d (s.reset d p).2 := by
  unfold reset
  split
  · exact .refl d
  · rename_i hm
    have hmade := (Grows.makeDirs hm).grown
    split
    · exact hmade
    · rename_i hcreate
      exact hmade.trans (extends_create hcreate)

/-- **Opening a log leaves the logs at other places as they are**, whether it succeeds or not. -/
theorem leavesOthers_reset (s : LogStore) (d : Disk) (p : String) :
    s.LeavesOthers d (s.reset d p).2 p := by
  unfold reset
  split
  · exact s.leavesOthers_refl d p
  · rename_i base hm
    refine ⟨base, basis_of_makeDirs hm, fun q hq => ?_⟩
    split
    · exact .refl s base q
    · rename_i hcreate
      refine sameLog_of_alike ?_
      by_cases hsame : base.locate true (s.pathFor q) = base.locate true (s.pathFor p)
      · -- Of two paths that lead to one place, neither leads anywhere here.
        have hnone : ∀ place, base.locate true (s.pathFor p) ≠ .ok place := fun place hl =>
          hq ⟨place, hl, hsame.trans hl⟩
        rcases create_cases hcreate with ⟨k, name, hl, -⟩ | ⟨hl, -⟩
        · exact absurd hl (hnone _)
        · exact absurd hl (hnone _)
      · exact alike_create hcreate hsame

end LogStore

end BuildService
