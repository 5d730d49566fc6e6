import BuildService.LogStore
import BuildService.Proofs.Paths
import BuildService.Proofs.Utf8
import BuildService.Request
/-!
Logs as files: what opening, writing and reading the log of one project does to
the logs of all.

A project id that is inside its allow-list is the name of a file in the log
directory and of nothing else: it holds no slash, is no `.` and no `..`, and is
not too long. So the logs of two projects are two names in one directory, and
all that is asked of the disk is that such a name, where it exists already,
stands for a plain file of its own (`LogStore.Own`).
-/

set_option autoImplicit false

namespace BuildService

/-! ## Project ids as names -/

/-- A text of ASCII characters has as many bytes as characters. -/
theorem utf8ByteSize_ofList_of_ascii {cs : List Char} (h : ∀ c ∈ cs, c.utf8Size = 1) :
    (String.ofList cs).utf8ByteSize = cs.length := by
  induction cs with
  | nil => rfl
  | cons c cs ih =>
    rw [String.ofList_cons, String.utf8ByteSize_append, String.utf8ByteSize_singleton,
      h c List.mem_cons_self, ih fun c hc => h c (List.mem_cons_of_mem _ hc), List.length_cons]
    omega

namespace LogStore

open Disk

/-- The name of the log of a project. -/
def logName (project : String) : String := project ++ "_log.txt"

section

variable {project : String} (hv : Request.isProjectId project = true)
include hv

/-- A project id begins with a letter or a digit, is not too long, and has name characters only. -/
theorem chars_of_isProjectId :
    (∃ c cs, project.toList = c :: cs ∧ Request.isAlphanumeric c = true ∧ cs.length ≤ 127) ∧
      ∀ c ∈ project.toList, Request.isNameChar c = true := by
  unfold Request.isProjectId at hv
  split at hv
  · cases hv
  · rename_i c cs hcs
    simp only [Bool.and_eq_true, decide_eq_true_eq, List.all_eq_true] at hv
    refine ⟨⟨c, cs, hcs, hv.1.1, hv.1.2⟩, fun x hx => ?_⟩
    rw [hcs, List.mem_cons] at hx
    rcases hx with rfl | hx
    · simp [Request.isNameChar, hv.1.1]
    · exact hv.2 x hx

end

/-- Letters and digits stand below the end of the ASCII range. -/
theorem val_le_of_isAlphanumeric {c : Char} (h : Request.isAlphanumeric c = true) :
    c.val.toNat ≤ 122 := by
  have hranges : (decide ('A'.val ≤ c.val ∧ c.val ≤ 'Z'.val) ||
      ('a'.val ≤ c.val && c.val ≤ 'z'.val) || ('0'.val ≤ c.val && c.val ≤ '9'.val)) = true := h
  simp only [Bool.or_eq_true, Bool.and_eq_true, decide_eq_true_eq, UInt32.le_iff_toNat_le]
    at hranges
  have hZ : 'Z'.val.toNat = 90 := rfl
  have hz : 'z'.val.toNat = 122 := rfl
  have h9 : '9'.val.toNat = 57 := rfl
  omega

theorem utf8Size_of_isNameChar {c : Char} (h : Request.isNameChar c = true) : c.utf8Size = 1 := by
  rw [Char.utf8Size_eq_one_iff, UInt32.le_iff_toNat_le]
  simp only [Request.isNameChar, Bool.or_eq_true, beq_iff_eq] at h
  rcases h with ((h | rfl) | rfl) | rfl
  · have htop : UInt32.toNat 127 = 127 := rfl
    have hle := val_le_of_isAlphanumeric h
    omega
  all_goals decide

theorem toList_logName (project : String) :
    (logName project).toList = project.toList ++ "_log.txt".toList := by
  rw [logName, String.toList_append]

section

variable {project : String} (hv : Request.isProjectId project = true)
include hv

/-- The name of a log is looked up in a directory. -/
theorem isPlain_logName : IsPlain (logName project) := by
  obtain ⟨⟨c, cs, hcs, hc, hlen⟩, hall⟩ := chars_of_isProjectId hv
  have hlist := toList_logName project
  rw [hcs] at hlist
  have hlong : 8 < (logName project).toList.length := by
    have hend : "_log.txt".toList.length = 8 := by decide
    rw [hlist, List.length_append, List.length_cons, hend]
    omega
  refine ⟨?_, ?_, ?_⟩
  · intro h
    rw [h] at hlong
    simp at hlong
  · intro h
    rw [h] at hlong
    simp at hlong
  · have hsize := utf8ByteSize_ofList_of_ascii
      fun c hc => utf8Size_of_isNameChar (hall c hc)
    rw [String.ofList_toList, hcs, List.length_cons] at hsize
    rw [logName, String.utf8ByteSize_append, hsize]
    have hend : "_log.txt".utf8ByteSize = 8 := by decide
    omega

/-- The name of a log is one name of a path. -/
theorem pathNames_logName : pathNames (logName project) = [logName project] := by
  obtain ⟨⟨c, cs, hcs, -, -⟩, hall⟩ := chars_of_isProjectId hv
  have hslash : '/' ∉ (logName project).toList := by
    rw [toList_logName project, List.mem_append, not_or]
    refine ⟨fun h => ?_, by decide⟩
    have := hall _ h
    revert this
    decide
  have hne : (logName project).toList ≠ [] := by
    rw [toList_logName project, hcs]
    simp
  rw [pathNames, List.splitOn_eq_singleton hslash, List.filter_cons_of_pos (by simpa using hne)]
  simp

theorem isAbsolute_logName : isAbsolute (logName project) = false := by
  obtain ⟨⟨c, cs, hcs, hc, -⟩, -⟩ := chars_of_isProjectId hv
  rw [isAbsolute, toList_logName project, hcs]
  simp only [List.cons_append, List.head?_cons, beq_eq_false_iff_ne, ne_eq, Option.some.injEq]
  rintro rfl
  revert hc
  decide

end

/-- The logs of two projects have two names. -/
theorem logName_injective {p q : String} (h : logName p = logName q) : p = q := by
  have hl := congrArg String.toList h
  rw [logName, logName, String.toList_append, String.toList_append] at hl
  exact String.toList_injective (List.append_cancel_right hl)

/-! ## Where logs are -/

variable {s : LogStore} {d d' : Disk} {follow : Bool} {place : Place} {k n : NodeId} {p q : String}

/-- The path of a log has one more name than that of the directory, and begins where this one
does. -/
theorem pathNames_pathFor (hv : Request.isProjectId p = true) (d : Disk) :
    pathNames (s.pathFor p) = pathNames s.dir ++ [logName p] ∧
      d.origin (s.pathFor p) = d.origin s.dir := by
  have hname : pathNames (logName p) = [logName p] := pathNames_logName hv
  have habs := isAbsolute_logName hv
  have hpath : s.pathFor p = join s.dir (logName p) := rfl
  rw [hpath, join, habs, if_neg Bool.false_ne_true]
  split
  · rename_i hempty
    rw [String.isEmpty_iff] at hempty
    rw [hempty]
    exact ⟨hname, by rw [origin, origin, habs]; rfl⟩
  rename_i hne
  have hne : s.dir.toList ≠ [] := by simpa [String.isEmpty_iff] using hne
  have horigin : ∀ rest, d.origin (s.dir ++ rest) = d.origin s.dir := by
    intro rest
    rw [origin, origin, isAbsolute, isAbsolute, String.toList_append,
      List.head?_append_of_ne_nil _ hne]
  have hsplit : ∀ xs, (xs ++ '/' :: (logName p).toList).splitOn '/' =
      xs.splitOn '/' ++ (logName p).toList.splitOn '/' := by
    intro xs
    exact List.splitOn_append_cons_self xs _
  split
  -- The directory ends in a slash, or one is put between it and the name.
  · rename_i hlast
    refine ⟨?_, horigin _⟩
    obtain ⟨xs, hxs⟩ : ∃ xs, s.dir.toList = xs ++ ['/'] := by
      rw [beq_iff_eq, List.getLast?_eq_some_iff] at hlast
      exact hlast
    have hdir : pathNames s.dir = ((xs.splitOn '/').filter (!·.isEmpty)).map String.ofList := by
      have := List.splitOn_append_cons_self (a := '/') xs []
      rw [pathNames, hxs, this]
      simp [List.filter_append]
    rw [hdir, pathNames, String.toList_append, hxs, List.append_assoc, List.singleton_append, hsplit,
      List.filter_append, List.map_append]
    exact congrArg _ hname
  · refine ⟨?_, by rw [String.append_assoc]; exact horigin _⟩
    have hlist : (s.dir ++ "/" ++ logName p).toList = s.dir.toList ++ '/' :: (logName p).toList := by
      simp [String.toList_append]
    rw [pathNames, hlist, hsplit, List.filter_append, List.map_append]
    exact congrArg _ hname

/-- The directory in which the logs are. -/
structure Home (s : LogStore) (d : Disk) (k : NodeId) : Prop where
  leads : Leads d true linkLimit (d.origin s.dir) (pathNames s.dir) (.found k)
  directory : d.HasDirectory k

theorem Home.mono (h : s.Home d k) (hx : Extends d d') : s.Home d' k :=
  ⟨by rw [origin, hx.base]; exact h.leads.found_mono hx, hx.hasDirectory h.directory⟩

/-- What a log that can be looked up says about the directory. -/
theorem exists_home (hv : Request.isProjectId p = true)
    (h : d.locate follow (s.pathFor p) = .ok place) : IsPath (s.pathFor p) ∧ ∃ k, s.Home d k := by
  obtain ⟨hpath, hl⟩ := locate_eq_ok_iff.1 h
  obtain ⟨hnames, horigin⟩ := pathNames_pathFor (s := s) hv d
  rw [hnames, horigin] at hl
  obtain ⟨k, hk, hd⟩ := hl.of_snoc (isPlain_logName hv)
  exact ⟨hpath, k, hk, hd⟩

/-- **A log is what its name stands for in the log directory.** -/
theorem Home.locate_eq (h : s.Home d k) (hv : Request.isProjectId p = true)
    (hl : follow = false ∨ ∀ n, d.child? k (logName p) = some n → ¬d.HasLink n) :
    d.locate follow (s.pathFor p) = .ok place ↔
      IsPath (s.pathFor p) ∧ place = d.entry k (logName p) := by
  obtain ⟨hnames, horigin⟩ := pathNames_pathFor (s := s) hv d
  have hentry := h.leads.snoc h.directory (isPlain_logName hv) hl
  rw [locate_eq_ok_iff, hnames, horigin]
  refine and_congr_right fun _ => ⟨fun hp => hp.unique hentry, ?_⟩
  rintro rfl
  exact hentry

theorem Home.locate_found_iff (h : s.Home d k) (hv : Request.isProjectId p = true) :
    d.locate false (s.pathFor p) = .ok (.found n) ↔
      IsPath (s.pathFor p) ∧ d.child? k (logName p) = some n := by
  rw [h.locate_eq hv (.inl rfl), entry]
  refine and_congr_right fun _ => ?_
  rcases d.child? k (logName p) with - | m
  · simp
  · simp [eq_comm]

/-! ## Logs that are nobody else's -/

/-- Where logs exist already, each is a plain file, and no two of them are the same. -/
structure Own (s : LogStore) (d : Disk) : Prop where
  file : ∀ p n, Request.isProjectId p = true → d.locate false (s.pathFor p) = .ok (.found n) →
    ∃ c x, d.node? n = some (.file c x)
  apart : ∀ p q n, Request.isProjectId p = true → Request.isProjectId q = true →
    d.locate false (s.pathFor p) = .ok (.found n) →
    d.locate false (s.pathFor q) = .ok (.found n) → p = q

/-- A disk on which logs are opened or have been opened. -/
structure Prepared (s : LogStore) (d : Disk) : Prop where
  made : d.AllMade s.dir
  own : s.Own d

/-- The log of a project is a file that holds these bytes. -/
structure Holds (s : LogStore) (d : Disk) (p : String) (n : NodeId) (bytes : List UInt8) : Prop where
  place : d.locate false (s.pathFor p) = .ok (.found n)
  file : ∃ c x, d.node? n = some (.file c x) ∧ c.bytes = bytes

theorem not_hasLink_of_file {c : Content} {x : Bool} (h : d.node? n = some (.file c x)) :
    ¬d.HasLink n := by
  rintro ⟨target, ht⟩
  rw [h] at ht
  cases ht

theorem Holds.locate {bytes : List UInt8} (h : s.Holds d p n bytes) :
    d.locate true (s.pathFor p) = .ok (.found n) := by
  obtain ⟨c, x, hn, -⟩ := h.file
  obtain ⟨hpath, hl⟩ := locate_eq_ok_iff.1 h.place
  exact locate_eq_ok_iff.2 ⟨hpath, hl.follow_of_found (not_hasLink_of_file hn)⟩

/-- What is in a log is read byte for byte. -/
theorem Holds.read_bytes {bytes : List UInt8} (h : s.Holds d p n bytes) :
    d.read (s.pathFor p) = .ok bytes := by
  obtain ⟨c, x, hn, hc⟩ := h.file
  simp only [Disk.read, find, h.locate, Disk.bytes, hn, hc]

/-- A text that is in a log is read. -/
theorem read_of_holds {text : String} (h : s.Holds d p n (Utf8.encode text)) :
    s.read d p = .ok (some text) := by
  delta LogStore.read
  rw [h.read_bytes]
  simp only [Utf8.lossy_encode]

/-- Where logs are their own, a log is opened at its name in the log directory, and nowhere
else. -/
theorem Own.locate_true (ho : s.Own d) (hk : s.Home d k) (hv : Request.isProjectId p = true)
    (h : d.locate true (s.pathFor p) = .ok place) : place = d.entry k (logName p) := by
  obtain ⟨hpath, -⟩ := locate_eq_ok_iff.1 h
  refine ((hk.locate_eq hv (.inr fun n hn => ?_)).1 h).2
  obtain ⟨c, x, hfile⟩ := ho.file p n hv ((hk.locate_found_iff hv).2 ⟨hpath, hn⟩)
  exact not_hasLink_of_file hfile

/-- Logs stay their own on a disk that has grown, if the only new name in the log directory is the
log of one project and stands for a new file. -/
theorem Own.grow (ho : s.Own d) (hk : s.Home d k) (hx : Extends d d')
    (hfile : ∀ m c x, d.node? m = some (.file c x) → ∃ c' x', d'.node? m = some (.file c' x'))
    (hnew : ∀ name m, d'.child? k name = some m → d.child? k name = some m ∨
      (name = logName p ∧ d.node? m = none ∧ ∃ c x, d'.node? m = some (.file c x))) :
    s.Own d' := by
  have back : ∀ {q m}, Request.isProjectId q = true →
      d'.locate false (s.pathFor q) = .ok (.found m) →
      d.locate false (s.pathFor q) = .ok (.found m) ∨
        (logName q = logName p ∧ d.node? m = none ∧ ∃ c x, d'.node? m = some (.file c x)) := by
    intro q m hv hl
    obtain ⟨hpath, hc⟩ := ((hk.mono hx).locate_found_iff hv).1 hl
    exact (hnew _ _ hc).imp_left fun h => (hk.locate_found_iff hv).2 ⟨hpath, h⟩
  -- What a log leads to now it led to before, except for the new name.
  constructor
  · intro q m hv hl
    rcases back hv hl with h | ⟨-, -, h⟩
    · obtain ⟨c, x, h⟩ := ho.file q m hv h
      exact hfile m c x h
    · exact h
  · intro q r m hq hr hlq hlr
    rcases back hq hlq with h₁ | ⟨h₁, hn₁, -⟩ <;> rcases back hr hlr with h₂ | ⟨h₂, hn₂, -⟩
    · exact ho.apart q r m hq hr h₁ h₂
    · obtain ⟨c, x, h⟩ := ho.file q m hq h₁
      rw [hn₂] at h
      cases h
    · obtain ⟨c, x, h⟩ := ho.file r m hr h₂
      rw [hn₁] at h
      cases h
    · exact logName_injective (h₁.trans h₂.symm)

/-- Where there is no log yet, logs are their own. -/
theorem own_of_fresh (hk : s.Home d k) (hc : ∀ name, d.child? k name = none) : s.Own d := by
  have hnone : ∀ p n, Request.isProjectId p = true →
      d.locate false (s.pathFor p) ≠ .ok (.found n) := by
    intro p n hv hl
    have hn := ((hk.locate_found_iff hv).1 hl).2
    rw [hc] at hn
    cases hn
  exact ⟨fun p n hv hl => absurd hl (hnone p n hv),
    fun p _ n hv _ hl => absurd hl (hnone p n hv)⟩

/-- One log has been opened or written, and the others have not been touched. -/
structure Changed (s : LogStore) (d d' : Disk) (p : String) (n : NodeId) (bytes : List UInt8) :
    Prop where
  prepared : s.Prepared d'
  holds : s.Holds d' p n bytes
  others : ∀ q m bs, Request.isProjectId q = true → q ≠ p → s.Holds d q m bs → s.Holds d' q m bs

section

variable (hp : s.Prepared d) (hv : Request.isProjectId p = true)
include hp hv

/-- Writing into the file of a log. -/
theorem changed_setNode {c : Content} {x : Bool} (c' : Content) (x' : Bool)
    (hl : d.locate false (s.pathFor p) = .ok (.found n)) (hn : d.node? n = some (.file c x)) :
    s.Changed d (d.setNode n (.file c' x')) p n c'.bytes := by
  have hx : Extends d (d.setNode n (.file c' x')) := extends_setNode_file hn
  obtain ⟨-, k, hk⟩ := exists_home hv hl
  have hother : ∀ m, m ≠ n → (d.setNode n (.file c' x')).node? m = d.node? m := fun m hm => by
    rw [node?_setNode hn, if_neg hm]
  have hself : (d.setNode n (.file c' x')).node? n = some (.file c' x') := by
    rw [node?_setNode hn, if_pos rfl]
  refine ⟨⟨hp.made.mono hx, hp.own.grow (p := p) hk hx ?_ ?_⟩,
    ⟨locate_found_mono hx hl, c', x', hself, rfl⟩, ?_⟩
  · intro m c₁ x₁ hm
    by_cases h : m = n
    · exact ⟨c', x', h ▸ hself⟩
    · exact ⟨c₁, x₁, (hother m h).trans hm⟩
  · intro name m hm
    rw [child?_setNode_file hn] at hm
    exact .inl hm
  · intro q m bs hq hne hh
    -- Another project's log is another file.
    have hmn : m ≠ n := by
      rintro rfl
      exact hne (hp.own.apart q p m hq hv hh.place hl)
    obtain ⟨c₁, x₁, hm, hb⟩ := hh.file
    exact ⟨locate_found_mono hx hh.place, c₁, x₁, (hother m hmn).trans hm, hb⟩

/-- Making the file of a log. -/
theorem changed_addNode (hk : s.Home d k) (hpath : IsPath (s.pathFor p))
    (hc : d.child? k (logName p) = none) :
    s.Changed d (d.addNode k (logName p) (.file (.ofBytes []) false)) p d.nodes.length [] := by
  have hleaf : ∀ parent names, Node.file (.ofBytes []) false = .directory parent names →
      names = [] := by simp
  have hx : Extends d (d.addNode k (logName p) (.file (.ofBytes []) false)) :=
    extends_addNode hk.directory hc hleaf (by simp)
  obtain ⟨parent, names, hdir, hnode⟩ :=
    node?_addNode hk.directory (logName p) (.file (.ofBytes []) false)
  have hchild := child?_addNode hk.directory (logName p) hleaf
  have hfresh : d.node? d.nodes.length = none := List.getElem?_eq_none (Nat.le_refl _)
  have hself := (hnode d.nodes.length).trans (if_pos rfl)
  have hkept : ∀ m c x, d.node? m = some (.file c x) →
      (d.addNode k (logName p) (.file (.ofBytes []) false)).node? m = some (.file c x) := by
    intro m c x hm
    rw [hnode, if_neg (Nat.ne_of_lt (lt_length_of_node? hm)), if_neg, hm]
    rintro rfl
    rw [hdir] at hm
    cases hm
  refine ⟨⟨hp.made.mono hx, hp.own.grow (p := p) hk hx (fun m c x hm => ⟨c, x, hkept m c x hm⟩) ?_⟩,
    ⟨?_, _, _, hself, Content.bytes_ofBytes []⟩, ?_⟩
  · intro name m hm
    rw [hchild] at hm
    split at hm
    · rename_i h
      obtain rfl := Option.some.inj hm
      exact .inr ⟨h.2, hfresh, _, _, hself⟩
    · exact .inl hm
  · rw [(hk.mono hx).locate_found_iff hv, hchild, if_pos ⟨rfl, rfl⟩]
    exact ⟨hpath, rfl⟩
  · intro q m bs hq hne hh
    obtain ⟨c, x, hm, hb⟩ := hh.file
    exact ⟨locate_found_mono hx hh.place, c, x, hkept m c x hm, hb⟩

/-- **A log that is opened is empty.** -/
theorem changed_of_create (h : d.create (s.pathFor p) = .ok (n, d')) : s.Changed d d' p n [] := by
  unfold create at h
  split at h
  · cases h
  · -- There is no log yet: the free place is its name in the log directory.
    rename_i k' name hl
    cases h
    obtain ⟨hpath, k, hk⟩ := exists_home hv hl
    have hentry := hp.own.locate_true hk hv hl
    unfold entry at hentry
    split at hentry
    · cases hentry
    · rename_i hc
      cases hentry
      exact changed_addNode hp hv hk hpath hc
  · -- There is one: it is a file, and it is emptied.
    rename_i m hl
    obtain ⟨hpath, k, hk⟩ := exists_home hv hl
    have hentry := hp.own.locate_true hk hv hl
    have hfound : d.locate false (s.pathFor p) = .ok (.found m) :=
      (hk.locate_eq hv (.inl rfl)).2 ⟨hpath, hentry⟩
    obtain ⟨c, x, hm⟩ := hp.own.file p m hv hfound
    simp only [hm] at h
    cases h
    have hch := changed_setNode hp hv (.ofBytes []) x hfound hm
    rwa [Content.bytes_ofBytes] at hch

/-- A line is written where the sink stands, whether this is the end of the log or not. -/
theorem splice_of_holds {bytes : List UInt8} (hh : s.Holds d p n bytes) {sink : LogSink}
    (hnode : sink.node = n) (line : String) :
    ∃ d', sink.writeLine d line =
        .ok ({ sink with position := sink.position + (LogSink.lineBytes line).length }, d') ∧
      s.Changed d d' p n (Content.spliced bytes sink.position (LogSink.lineBytes line)) := by
  obtain ⟨c, x, hn, hc⟩ := hh.file
  refine ⟨d.setNode n (.file (c.overwrite sink.position (LogSink.lineBytes line)) x), ?_, ?_⟩
  · simp only [LogSink.writeLine, writeAt, hnode, hn]
  · have hch := changed_setNode hp hv (c.overwrite sink.position (LogSink.lineBytes line)) x
      hh.place hn
    rwa [Content.bytes_overwrite, hc] at hch

/-- **A line that is written at the end of its log is put behind the others.** -/
theorem writeLine_of_holds {bytes : List UInt8} (hh : s.Holds d p n bytes) {sink : LogSink}
    (hnode : sink.node = n) (hpos : sink.position = bytes.length) (line : String) :
    ∃ d', sink.writeLine d line =
        .ok ({ sink with position := sink.position + (LogSink.lineBytes line).length }, d') ∧
      s.Changed d d' p n (bytes ++ LogSink.lineBytes line) := by
  have hend : Content.spliced bytes sink.position (LogSink.lineBytes line) =
      bytes ++ LogSink.lineBytes line := by
    rw [hpos, Content.spliced]
    simp
  have hch := splice_of_holds hp hv hh hnode line
  rwa [hend] at hch

end

/-- What opening a log does, if it succeeds: the directory is made, and the log is empty. -/
theorem changed_of_reset {sink : LogSink} (hv : Request.isProjectId p = true)
    (ho : ∀ d₁, d.makeDirs s.dir = .ok d₁ → s.Own d₁) (h : s.reset d p = (.ok sink, d')) :
    ∃ d₁, d.makeDirs s.dir = .ok d₁ ∧ s.Changed d₁ d' p sink.node [] ∧ sink.position = 0 := by
  unfold reset at h
  split at h
  · cases h
  · rename_i d₁ hm
    split at h
    · cases h
    · rename_i n d₂ hcreate
      cases h
      exact ⟨d₁, hm, changed_of_create ⟨allMade_of_makeDirs hm, ho d₁ hm⟩ hv hcreate, rfl⟩

/-- What opening a log does, if it fails: the directory may have been made. -/
theorem disk_of_reset_error {cause : IoFault} (h : s.reset d p = (.error cause, d')) :
    d' = d ∨ d.makeDirs s.dir = .ok d' := by
  unfold reset at h
  split at h
  · cases h
    exact .inl rfl
  · rename_i d₁ hm
    split at h
    · cases h
      exact .inr hm
    · cases h

end LogStore

end BuildService
