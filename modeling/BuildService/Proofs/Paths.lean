import BuildService.Disk
import Mathlib.Data.List.Basic
/-!
Where paths lead, and that they lead there still when the disk has grown.

`Leads` describes a walk that succeeds, one case for each kind of name, and
`walk_eq_ok_iff` says that these are the walks that the disk makes. So a fact
about paths is an induction with seven cases, and none of the failures of a walk
comes up in it. The disk grows by new names and by bytes written into files; a
path that leads somewhere leads to the same place then (`Leads.mono`), except
that a name that was free may be taken.
-/

set_option autoImplicit false

namespace BuildService.Disk

variable {d d' : Disk} {follow : Bool} {links : Nat} {k n : NodeId} {name : String}
  {names rest : List String} {place : Place}

/-! ## Walks that succeed -/

/-- Whether something is a directory. -/
def HasDirectory (d : Disk) (k : NodeId) : Prop :=
  ∃ parent names, d.node? k = some (.directory parent names)

/-- Whether a name is looked up in a directory, and short enough for it. -/
def IsPlain (name : String) : Prop := name ≠ "." ∧ name ≠ ".." ∧ name.utf8ByteSize ≤ 255

/-- Whether something is a link. -/
def HasLink (d : Disk) (n : NodeId) : Prop := ∃ target, d.node? n = some (.link target)

/-- The names lead from a directory to a place, through so many links at most. -/
inductive Leads (d : Disk) (follow : Bool) : Nat → NodeId → List String → Place → Prop
  | here (links : Nat) (k : NodeId) : Leads d follow links k [] (.found k)
  | dot {links : Nat} {k : NodeId} {rest : List String} {place : Place} (hk : d.HasDirectory k)
      (h : Leads d follow links k rest place) : Leads d follow links k ("." :: rest) place
  | up {links : Nat} {k parent : NodeId} {names : List (String × NodeId)} {rest : List String}
      {place : Place} (hk : d.node? k = some (.directory parent names))
      (h : Leads d follow links parent rest place) : Leads d follow links k (".." :: rest) place
  | free {links : Nat} {k : NodeId} {name : String} (hk : d.HasDirectory k) (hp : IsPlain name)
      (hc : d.child? k name = none) : Leads d follow links k [name] (.free k name)
  | stop {links : Nat} {k n : NodeId} {name : String} (hp : IsPlain name)
      (hc : d.child? k name = some n) (hn : d.HasLink n) (hf : follow = false) :
      Leads d follow links k [name] (.found n)
  | link {links : Nat} {k n : NodeId} {name target : String} {rest : List String} {place : Place}
      (hp : IsPlain name) (hc : d.child? k name = some n) (hn : d.node? n = some (.link target))
      (hf : rest ≠ [] ∨ follow = true)
      (h : Leads d follow links (if isAbsolute target then top else k) (pathNames target ++ rest)
        place) : Leads d follow (links + 1) k (name :: rest) place
  | enter {links : Nat} {k n : NodeId} {name : String} {rest : List String} {place : Place}
      (hp : IsPlain name) (hc : d.child? k name = some n) (hn : ¬d.HasLink n)
      (h : Leads d follow links n rest place) : Leads d follow links k (name :: rest) place

/-- What has names is a directory. -/
theorem hasDirectory_of_child? (h : d.child? k name = some n) : d.HasDirectory k := by
  unfold child? at h
  split at h
  · exact ⟨_, _, ‹_›⟩
  · cases h

/-- **The walks that succeed.** -/
theorem walk_eq_ok_iff :
    d.walk follow links k names = .ok place ↔ Leads d follow links k names place := by
  constructor
  · intro h
    fun_induction d.walk follow links k names with
    | case1 =>
      cases h
      exact .here _ _
    | case2 _ _ _ _ _ hk ih => exact .dot ⟨_, _, hk⟩ (ih h)
    | case3 _ _ _ _ _ hk _ ih => exact .up hk (ih h)
    | case5 _ _ _ _ _ _ hk h1 h2 h3 hc hr =>
      cases h
      obtain rfl := List.isEmpty_iff.1 hr
      exact .free ⟨_, _, hk⟩ ⟨h1, h2, Nat.not_lt.1 h3⟩ hc
    | case7 _ _ _ _ _ _ hk h1 h2 h3 _ hc _ hn hr =>
      cases h
      simp only [Bool.and_eq_true, Bool.not_eq_true', List.isEmpty_iff] at hr
      obtain ⟨rfl, hf⟩ := hr
      exact .stop ⟨h1, h2, Nat.not_lt.1 h3⟩ hc ⟨_, hn⟩ hf
    | case9 _ _ rest _ _ hk h1 h2 h3 _ hc _ hn hr _ ih =>
      refine .link ⟨h1, h2, Nat.not_lt.1 h3⟩ hc hn ?_ (by simpa using ih h)
      cases rest <;> simp_all
    | case10 _ _ _ _ _ _ hk h1 h2 h3 _ hc hn ih =>
      exact .enter ⟨h1, h2, Nat.not_lt.1 h3⟩ hc (fun ⟨t, ht⟩ => hn t ht) (ih h)
    | _ => cases h
  · intro h
    induction h with
    | here => rw [walk]
    | dot hk _ ih =>
      obtain ⟨_, _, hk⟩ := hk
      rw [walk, hk]
      simpa using ih
    | up hk _ ih =>
      rw [walk, hk]
      simpa using ih
    | free hk hp hc =>
      obtain ⟨_, _, hk⟩ := hk
      rw [walk, hk]
      simp only [hp.1, hp.2.1, if_false, if_neg (Nat.not_lt.2 hp.2.2), hc, List.isEmpty_nil,
        if_true]
    | stop hp hc hn hf =>
      obtain ⟨_, _, hk⟩ := hasDirectory_of_child? hc
      obtain ⟨_, hn⟩ := hn
      rw [walk, hk]
      simp only [hp.1, hp.2.1, if_false, if_neg (Nat.not_lt.2 hp.2.2), hc, hn]
      simp [hf]
    | link hp hc hn hf _ ih =>
      obtain ⟨_, _, hk⟩ := hasDirectory_of_child? hc
      rw [walk, hk]
      simp only [hp.1, hp.2.1, if_false, if_neg (Nat.not_lt.2 hp.2.2), hc, hn]
      rw [if_neg (by rcases hf with hf | hf <;> simp [hf]), ih]
    | enter hp hc hn _ ih =>
      obtain ⟨_, _, hk⟩ := hasDirectory_of_child? hc
      rw [walk, hk]
      simp only [hp.1, hp.2.1, if_false, if_neg (Nat.not_lt.2 hp.2.2), hc]
      split
      · exact absurd ⟨_, ‹_›⟩ hn
      · exact ih

/-- A walk leads to one place. -/
theorem Leads.unique {place' : Place} (h : Leads d follow links k names place)
    (h' : Leads d follow links k names place') : place = place' :=
  Except.ok.inj ((walk_eq_ok_iff.2 h).symm.trans (walk_eq_ok_iff.2 h'))

/-- A name that a walk finds free is free in a directory. -/
theorem Leads.of_free {k' : NodeId} (h : Leads d follow links k names (.free k' name)) :
    d.HasDirectory k' ∧ d.child? k' name = none := by
  generalize hp : Place.free k' name = place at h
  induction h with
  | here => cases hp
  | stop => cases hp
  | free hk _ hc =>
    cases hp
    exact ⟨hk, hc⟩
  | dot _ _ ih => exact ih hp
  | up _ _ ih => exact ih hp
  | link _ _ _ _ _ ih => exact ih hp
  | enter _ _ _ _ ih => exact ih hp

/-- To a name that is free it makes no difference whether the last name is looked through. -/
theorem Leads.follow_of_free {k' : NodeId} (h : Leads d follow links k names (.free k' name)) :
    Leads d true links k names (.free k' name) := by
  generalize hp : Place.free k' name = place at h ⊢
  induction h with
  | here => cases hp
  | stop => cases hp
  | free hk hn hc => exact .free hk hn hc
  | dot hk _ ih => exact .dot hk (ih hp)
  | up hk _ ih => exact .up hk (ih hp)
  | link hn hc hl _ _ ih => exact .link hn hc hl (.inr rfl) (ih hp)
  | enter hn hc hl _ ih => exact .enter hn hc hl (ih hp)

/-- To something that is no link it makes no difference either. -/
theorem Leads.follow_of_found (h : Leads d follow links k names (.found n)) (hn : ¬d.HasLink n) :
    Leads d true links k names (.found n) := by
  generalize hp : Place.found n = place at h ⊢
  induction h with
  | here => exact .here _ _
  | stop _ _ hl _ =>
    cases hp
    exact absurd hl hn
  | free => cases hp
  | dot hk _ ih => exact .dot hk (ih hp)
  | up hk _ ih => exact .up hk (ih hp)
  | link hp' hc hl _ _ ih => exact .link hp' hc hl (.inr rfl) (ih hp)
  | enter hp' hc hl _ ih => exact .enter hp' hc hl (ih hp)

/-! ## The last name -/

/-- What a name stands for in a directory, be it something or nothing. -/
def entry (d : Disk) (k : NodeId) (name : String) : Place :=
  match d.child? k name with
  | some n => .found n
  | none => .free k name

/-- A path with one more name leads to what this name stands for in the directory that the path
leads to. -/
theorem Leads.snoc {k' : NodeId} (h : Leads d true links k names (.found k'))
    (hk : d.HasDirectory k') (hp : IsPlain name)
    (hl : follow = false ∨ ∀ n, d.child? k' name = some n → ¬d.HasLink n) :
    Leads d follow links k (names ++ [name]) (d.entry k' name) := by
  generalize hq : Place.found k' = place at h
  induction h with
  | here =>
    cases hq
    unfold entry
    split
    · rename_i n hc
      by_cases hn : d.HasLink n
      · exact .stop hp hc hn (hl.resolve_right fun h => h n hc hn)
      · exact .enter hp hc hn (.here _ _)
    · exact .free hk hp ‹_›
  | dot hd _ ih => exact .dot hd (ih hq)
  | up hd _ ih => exact .up hd (ih hq)
  | free => cases hq
  | stop _ _ _ hf => cases hf
  | link hp' hc hn _ _ ih =>
    exact .link hp' hc hn (.inl (by simp)) (by simpa using ih hq)
  | enter hp' hc hn _ ih => exact .enter hp' hc hn (ih hq)

/-- A path whose last name is looked up leads through a directory. -/
theorem Leads.of_snoc (hp : IsPlain name) (h : Leads d follow links k (names ++ [name]) place) :
    ∃ k', Leads d true links k names (.found k') ∧ d.HasDirectory k' := by
  -- The names of a link's target come before the rest, so the names vary in the induction; the
  -- last one stays.
  generalize hns : names ++ [name] = all at h
  induction h generalizing names with
  | here => simp at hns
  | dot hk _ ih =>
    rcases names with - | ⟨first, names⟩
    · exact absurd (List.cons.inj hns).1 hp.1
    · obtain ⟨rfl, htail⟩ := List.cons.inj hns
      obtain ⟨k', h, hk'⟩ := ih htail
      exact ⟨k', .dot hk h, hk'⟩
  | up hk _ ih =>
    rcases names with - | ⟨first, names⟩
    · exact absurd (List.cons.inj hns).1 hp.2.1
    · obtain ⟨rfl, htail⟩ := List.cons.inj hns
      obtain ⟨k', h, hk'⟩ := ih htail
      exact ⟨k', .up hk h, hk'⟩
  | free hk _ _ =>
    rcases names with - | ⟨first, names⟩
    · exact ⟨_, .here _ _, hk⟩
    · simp at hns
  | stop _ hc _ _ =>
    rcases names with - | ⟨first, names⟩
    · exact ⟨_, .here _ _, hasDirectory_of_child? hc⟩
    · simp at hns
  | @link _ _ _ _ target rest _ hp' hc hn _ _ ih =>
    rcases names with - | ⟨first, names⟩
    · exact ⟨_, .here _ _, hasDirectory_of_child? hc⟩
    · obtain ⟨rfl, htail⟩ := List.cons.inj hns
      have hall : (pathNames target ++ names) ++ [name] = pathNames target ++ rest := by
        rw [List.append_assoc]
        exact congrArg _ htail
      obtain ⟨k', h, hk'⟩ := ih hall
      exact ⟨k', .link hp' hc hn (.inr rfl) h, hk'⟩
  | enter hp' hc hn _ ih =>
    rcases names with - | ⟨first, names⟩
    · exact ⟨_, .here _ _, hasDirectory_of_child? hc⟩
    · obtain ⟨rfl, htail⟩ := List.cons.inj hns
      obtain ⟨k', h, hk'⟩ := ih htail
      exact ⟨k', .enter hp' hc hn h, hk'⟩

/-! ## A disk that grows -/

/-- Everything that was on one disk is where it was on another one. -/
structure Extends (d d' : Disk) : Prop where
  base : d'.base = d.base
  directory : ∀ k parent names, d.node? k = some (.directory parent names) →
    ∃ names', d'.node? k = some (.directory parent names')
  child : ∀ k name n, d.child? k name = some n → d'.child? k name = some n
  link : ∀ n target, d'.node? n = some (.link target) ↔ d.node? n = some (.link target)

namespace Extends

theorem hasDirectory (hx : Extends d d') (h : d.HasDirectory k) : d'.HasDirectory k := by
  obtain ⟨parent, names, h⟩ := h
  obtain ⟨names', h⟩ := hx.directory k parent names h
  exact ⟨parent, names', h⟩

theorem hasLink_iff (hx : Extends d d') : d'.HasLink n ↔ d.HasLink n :=
  exists_congr fun target => hx.link n target

end Extends

/-- Where a place is found later: a name that was free may have been taken. -/
def settle (d : Disk) : Place → Place
  | .found n => .found n
  | .free k name => d.entry k name

/-- **Paths lead where they led.** -/
theorem Leads.mono (hx : Extends d d') (h : Leads d follow links k names place)
    (hl : ∀ k' name n, place = .free k' name → d'.child? k' name = some n → ¬d.HasLink n) :
    Leads d' follow links k names (d'.settle place) := by
  induction h with
  | here => exact .here _ _
  | dot hk _ ih => exact .dot (hx.hasDirectory hk) (ih hl)
  | up hk _ ih =>
    obtain ⟨_, hk⟩ := hx.directory _ _ _ hk
    exact .up hk (ih hl)
  | free hk hp hc =>
    unfold settle entry
    simp only
    split
    · exact .enter hp ‹_› (hx.hasLink_iff.not.2 (hl _ _ _ rfl ‹_›)) (.here _ _)
    · exact .free (hx.hasDirectory hk) hp ‹_›
  | stop hp hc hn hf => exact .stop hp (hx.child _ _ _ hc) (hx.hasLink_iff.2 hn) hf
  | link hp hc hn hf _ ih => exact .link hp (hx.child _ _ _ hc) ((hx.link _ _).2 hn) hf (ih hl)
  | enter hp hc hn _ ih => exact .enter hp (hx.child _ _ _ hc) (hx.hasLink_iff.not.2 hn) (ih hl)

theorem Leads.found_mono (hx : Extends d d') (h : Leads d follow links k names (.found n)) :
    Leads d' follow links k names (.found n) :=
  h.mono hx fun _ _ _ hp => by cases hp

/-! ## New names and new bytes -/

theorem lt_length_of_node? {node : Node} (h : d.node? n = some node) : n < d.nodes.length :=
  (List.getElem?_eq_some_iff.1 h).1

theorem node?_setNode {node old : Node} (h : d.node? n = some old) (m : NodeId) :
    (d.setNode n node).node? m = if m = n then some node else d.node? m := by
  have hlt := lt_length_of_node? h
  simp only [node?, setNode] at *
  by_cases hm : m = n
  · subst hm
    simp [hlt]
  · rw [if_neg hm, List.getElem?_set_ne (Ne.symm hm)]

section

variable {c c' : Content} {x x' : Bool}

/-- What is written into a file is not seen in any directory. -/
theorem child?_setNode_file (h : d.node? n = some (.file c x)) :
    (d.setNode n (.file c' x')).child? k name = d.child? k name := by
  unfold child?
  rw [node?_setNode h]
  by_cases hk : k = n
  · rw [if_pos hk, hk, h]
  · rw [if_neg hk]

/-- Writing into a file changes no path. -/
theorem extends_setNode_file (h : d.node? n = some (.file c x)) :
    Extends d (d.setNode n (.file c' x')) where
  base := rfl
  directory k parent names hk := by
    refine ⟨names, ?_⟩
    rw [node?_setNode h, if_neg ?_, hk]
    rintro rfl
    rw [h] at hk
    cases hk
  child k name m hc := by rw [child?_setNode_file h, hc]
  link m target := by
    rw [node?_setNode h]
    by_cases hm : m = n
    · rw [if_pos hm, hm, h]
      simp
    · rw [if_neg hm]

end

section

variable {node : Node} (hk : d.HasDirectory k)
include hk

/-- What is on the disk when something has been put into a directory under a name. -/
theorem node?_addNode (name : String) (node : Node) :
    ∃ parent names, d.node? k = some (.directory parent names) ∧
      ∀ m, (d.addNode k name node).node? m =
        if m = d.nodes.length then some node
        else if m = k then
          some (.directory parent ((name, d.nodes.length) :: names.filter (·.1 != name)))
        else d.node? m := by
  obtain ⟨parent, names, h⟩ := hk
  have hlt := lt_length_of_node? h
  refine ⟨parent, names, h, fun m => ?_⟩
  unfold addNode
  rw [h]
  simp only [node?]
  -- The new node, the directory that has got its name, and everything else.
  by_cases hm : m = d.nodes.length
  · subst hm
    simp
  rw [if_neg hm]
  by_cases hmk : m = k
  · subst hmk
    simp [hlt, List.getElem?_append_left]
  rw [if_neg hmk]
  by_cases hml : m < d.nodes.length
  · rw [List.getElem?_append_left (by simpa using hml), List.getElem?_set_ne (Ne.symm hmk)]
  · have hgt : d.nodes.length < m := Nat.lt_of_le_of_ne (Nat.not_lt.1 hml) (Ne.symm hm)
    rw [List.getElem?_eq_none (by
      simp only [List.length_append, List.length_set, List.length_singleton]
      exact hgt), List.getElem?_eq_none (Nat.le_of_lt hgt)]

/-- A new node with nothing in it is what its name stands for, and no other name changes. -/
theorem child?_addNode (name : String)
    (hleaf : ∀ parent names, node = .directory parent names → names = []) (m : NodeId)
    (other : String) :
    (d.addNode k name node).child? m other =
      if m = k ∧ other = name then some d.nodes.length else d.child? m other := by
  obtain ⟨parent, names, h, hnode⟩ := node?_addNode hk name node
  have hlt := lt_length_of_node? h
  unfold child?
  rw [hnode]
  by_cases hm : m = d.nodes.length
  · have hmk : m ≠ k := by
      rintro rfl
      exact Nat.ne_of_lt hlt hm
    have hold : d.node? m = none := List.getElem?_eq_none (Nat.le_of_eq hm.symm)
    rw [if_pos hm, if_neg (fun hc => hmk hc.1), hold]
    cases node with
    | directory parent names => simp [hleaf parent names rfl]
    | _ => rfl
  rw [if_neg hm]
  by_cases hmk : m = k
  · subst hmk
    rw [if_pos rfl, h]
    by_cases ho : other = name
    · simp [ho]
    · have hne : (name == other) = false := by simpa using fun e => ho e.symm
      simp only [List.find?_cons, hne, ho, and_false, if_false, List.find?_filter]
      congr 2
      funext e
      by_cases he : e.1 = other
      · simp [he, ho]
      · simp [he]
  · rw [if_neg hmk, if_neg (fun hc => hmk hc.1)]

/-- A new node that is no link leaves every path as it was, except the one to it. -/
theorem extends_addNode (hc : d.child? k name = none)
    (hleaf : ∀ parent names, node = .directory parent names → names = [])
    (hnode : ∀ target, node ≠ .link target) :
    Extends d (d.addNode k name node) := by
  obtain ⟨parent, names, h, hn⟩ := node?_addNode hk name node
  have hlt := lt_length_of_node? h
  constructor
  · simp only [addNode, h]
  · intro m p ns hm
    have hml := lt_length_of_node? hm
    rw [hn, if_neg (Nat.ne_of_lt hml)]
    by_cases hmk : m = k
    · subst hmk
      rw [h] at hm
      cases hm
      exact ⟨_, if_pos rfl⟩
    · exact ⟨ns, by rw [if_neg hmk, hm]⟩
  · intro m other n' hm
    rw [child?_addNode hk name hleaf, if_neg, hm]
    rintro ⟨rfl, rfl⟩
    rw [hc] at hm
    cases hm
  · intro m target
    rw [hn]
    by_cases hm : m = d.nodes.length
    · have hold : d.node? m = none := List.getElem?_eq_none (Nat.le_of_eq hm.symm)
      rw [if_pos hm, hold]
      simpa using hnode target
    rw [if_neg hm]
    by_cases hmk : m = k
    · subst hmk
      rw [if_pos rfl, h]
      simp
    · rw [if_neg hmk]

end

/-! ## Paths as texts -/

/-- Where the walk of a path begins. -/
def origin (d : Disk) (path : String) : NodeId := if isAbsolute path then top else d.base

/-- Whether a text is looked up as a path at all. -/
def IsPath (path : String) : Prop :=
  path.toList.contains '\x00' = false ∧ path.isEmpty = false ∧ path.utf8ByteSize ≤ 4095

variable {path : String}

/-- **Where a path leads**, if it leads anywhere. -/
theorem locate_eq_ok_iff :
    d.locate follow path = .ok place ↔
      IsPath path ∧ Leads d follow linkLimit (d.origin path) (pathNames path) place := by
  rw [← walk_eq_ok_iff, IsPath, origin, locate]
  split
  · simp_all
  split
  · simp_all
  split
  · rename_i hsize
    simp [Nat.not_le.2 hsize]
  · rename_i h1 h2 h3
    simp only [Bool.not_eq_true] at h1 h2
    simp only [h1, h2, Nat.not_lt.1 h3, and_self, true_and]

theorem locate_found_mono (hx : Extends d d') (h : d.locate follow path = .ok (.found n)) :
    d'.locate follow path = .ok (.found n) := by
  rw [locate_eq_ok_iff] at h ⊢
  rw [origin, hx.base]
  exact ⟨h.1, h.2.found_mono hx⟩

theorem isDirectory_iff :
    d.isDirectory path = true ↔ ∃ n, d.locate true path = .ok (.found n) ∧ d.HasDirectory n := by
  unfold isDirectory find HasDirectory
  rcases hl : d.locate true path with e | (n | ⟨k, name⟩)
  · simp
  · simp only [Except.ok.injEq, Place.found.injEq, exists_eq_left']
    split <;> simp_all
  · simp

theorem isDirectory_mono (hx : Extends d d') (h : d.isDirectory path = true) :
    d'.isDirectory path = true := by
  obtain ⟨n, hn, hd⟩ := isDirectory_iff.1 h
  exact isDirectory_iff.2 ⟨n, locate_found_mono hx hn, hx.hasDirectory hd⟩

/-! ## Making directories -/

/-- That something exists already is found out by making it, not by looking for it. -/
theorem locate_ne_fileExists : d.locate follow path ≠ .error .fileExists := by
  have hwalk : ∀ links k names, d.walk follow links k names ≠ .error .fileExists := by
    intro links k names
    fun_induction d.walk follow links k names <;> simp_all <;> decide
  unfold locate
  split
  · simp only [ne_eq, Except.error.injEq]
    decide
  split
  · simp only [ne_eq, Except.error.injEq]
    decide
  split
  · simp only [ne_eq, Except.error.injEq]
    decide
  · exact hwalk _ _ _

theorem makeDir_eq_fileExists_iff :
    d.makeDir path = .error .fileExists ↔ ∃ n, d.locate false path = .ok (.found n) := by
  unfold makeDir
  rcases hl : d.locate false path with e | (n | ⟨k, name⟩)
  · simp only [Except.error.injEq, reduceCtorEq, exists_false, iff_false]
    rintro rfl
    exact locate_ne_fileExists hl
  · simp
  · simp

/-- Whether a path leads to a directory that cannot be made again. -/
def IsMade (d : Disk) (path : String) : Prop :=
  d.makeDir path = .error .fileExists ∧ d.isDirectory path = true

theorem IsMade.mono (hx : Extends d d') (h : d.IsMade path) : d'.IsMade path := by
  obtain ⟨n, hn⟩ := makeDir_eq_fileExists_iff.1 h.1
  exact ⟨makeDir_eq_fileExists_iff.2 ⟨n, locate_found_mono hx hn⟩, isDirectory_mono hx h.2⟩

/-- What is put at a free place is found there, unless it is a link. -/
theorem locate_addNode {node : Node} (h : d.locate follow path = .ok (.free k name))
    (hleaf : ∀ parent names, node = .directory parent names → names = [])
    (hnode : ∀ target, node ≠ .link target) :
    (d.addNode k name node).locate follow path = .ok (.found d.nodes.length) := by
  obtain ⟨hp, hw⟩ := locate_eq_ok_iff.1 h
  obtain ⟨hk, hc⟩ := hw.of_free
  have hx := extends_addNode hk hc hleaf hnode
  have hchild := child?_addNode hk name hleaf
  -- The number of the new node stood for nothing before, in particular for no link.
  have hnew : ¬d.HasLink d.nodes.length := by
    rintro ⟨target, ht⟩
    exact Nat.lt_irrefl _ (lt_length_of_node? ht)
  have hentry : (d.addNode k name node).entry k name = .found d.nodes.length := by
    simp [entry, hchild]
  rw [locate_eq_ok_iff, origin, hx.base]
  refine ⟨hp, ?_⟩
  rw [← hentry]
  refine hw.mono hx fun k' name' n hplace hn => ?_
  cases hplace
  rw [hchild, if_pos ⟨rfl, rfl⟩] at hn
  exact Option.some.inj hn ▸ hnew

/-- What is made is there. -/
theorem isMade_of_makeDir (h : d.makeDir path = .ok d') : d'.IsMade path := by
  unfold makeDir at h
  split at h
  · cases h
  · cases h
  · rename_i k name hl
    cases h
    obtain ⟨hp, hw⟩ := locate_eq_ok_iff.1 hl
    have hthrough : d.locate true path = .ok (.free k name) :=
      locate_eq_ok_iff.2 ⟨hp, hw.follow_of_free⟩
    have hleaf : ∀ p ns, Node.directory k [] = .directory p ns → ns = [] := by
      rintro p ns ⟨⟩
      rfl
    obtain ⟨_, _, _, hnode⟩ := node?_addNode hw.of_free.1 name (.directory k [])
    have hdir : (d.addNode k name (.directory k [])).HasDirectory d.nodes.length :=
      ⟨k, [], by rw [hnode, if_pos rfl]⟩
    exact ⟨makeDir_eq_fileExists_iff.2 ⟨_, locate_addNode hl hleaf (by simp)⟩,
      isDirectory_iff.2 ⟨_, locate_addNode hthrough hleaf (by simp), hdir⟩⟩

/-- Whether a directory and all above it have been made. -/
def AllMade (d : Disk) (path : String) : Prop := ∀ first ∈ (ancestors path).head?, d.IsMade first

theorem AllMade.mono (hx : Extends d d') (h : d.AllMade path) : d'.AllMade path :=
  fun first hf => (h first hf).mono hx

/-- Directories that have been made are left alone. -/
theorem makeDirs_of_allMade (h : d.AllMade path) : d.makeDirs path = .ok d := by
  unfold AllMade at h
  unfold makeDirs
  cases ha : ancestors path with
  | nil => rfl
  | cons first above =>
    obtain ⟨hmake, hdir⟩ := h first (by rw [ha]; rfl)
    have hne : IoFault.fileExists ≠ IoFault.notFound := by decide
    simp [missingFrom, hmake, hdir, makeEach, hne]

theorem makeEach_append_one {paths : List String} (h : d.makeEach (paths ++ [path]) = .ok d') :
    d'.IsMade path := by
  induction paths generalizing d with
  | nil =>
    simp only [List.nil_append, makeEach] at h
    split at h
    · rename_i hm
      cases h
      exact isMade_of_makeDir hm
    · rename_i e hm
      split at h
      · rename_i hc
        cases h
        simp only [Bool.and_eq_true, decide_eq_true_eq] at hc
        exact ⟨hc.1 ▸ hm, hc.2⟩
      · cases h
  | cons first paths ih =>
    simp only [List.cons_append, makeEach] at h
    split at h
    · exact ih h
    · split at h
      · exact ih h
      · cases h

/-- After a directory and all above it were made they are there. -/
theorem allMade_of_makeDirs (h : d.makeDirs path = .ok d') : d'.AllMade path := by
  intro first hf
  unfold makeDirs at h
  cases ha : ancestors path with
  | nil =>
    rw [ha] at hf
    cases hf
  | cons first' above =>
    obtain rfl : first' = first := by simpa [ha] using hf
    simp only [ha, missingFrom] at h
    split at h
    · cases h
    · rename_i n d₁ hn
      split at hn
      · rename_i hm
        cases hn
        simp only [List.take_zero, List.reverse_nil, makeEach] at h
        cases h
        exact isMade_of_makeDir hm
      · rename_i e hm
        split at hn
        · rcases hmiss : d.missingFrom above with e' | ⟨n', d'⟩
          · rw [hmiss] at hn
            cases hn
          · rw [hmiss] at hn
            cases hn
            rw [List.take_succ_cons, List.reverse_cons] at h
            exact makeEach_append_one h
        · split at hn
          · rename_i hc
            cases hn
            simp only [List.take_zero, List.reverse_nil, makeEach] at h
            cases h
            simp only [Bool.and_eq_true, decide_eq_true_eq] at hc
            exact ⟨hc.1 ▸ hm, hc.2⟩
          · cases hn

end BuildService.Disk
