import BuildService.Toml.Document
import Mathlib.Data.List.Nodup
/-!
A document gives no key twice.

Tables are put together from pieces, so that two pieces do not give one key is not
something that can be seen in any single piece. What can be said of each is that it
adds to a table whose keys are different from one another and leaves one of that
kind. This is carried here through whole documents, down to the tables in braces and
in arrays (`distinct_of_parse?`).

It is what makes the order of a document immaterial: an entry that is anywhere in a
table is the one that is found there (`Entries.get?_eq_some_iff`).
-/

set_option autoImplicit false

namespace BuildService.Toml

/-- No table in a value gives a key twice. -/
inductive Value.Distinct : Value → Prop where
  | string (s : String) : Distinct (.string s)
  | integer (n : Int) : Distinct (.integer n)
  | boolean (b : Bool) : Distinct (.boolean b)
  | float : Distinct .float
  | moment : Distinct .moment
  | array {vs : List Value} (h : ∀ v ∈ vs, v.Distinct) : Distinct (.array vs)
  | tables {vs : List Value} (h : ∀ v ∈ vs, v.Distinct) : Distinct (.tables vs)
  | table {origin : Origin} {es : List (String × Value)} (hkeys : (es.map Prod.fst).Nodup)
      (h : ∀ e ∈ es, e.2.Distinct) : Distinct (.table origin es)

namespace Entries

/-- The keys of a table are different from one another, and so are those of the tables in it. -/
structure Distinct (es : Entries) : Prop where
  keys : (es.map Prod.fst).Nodup
  values : ∀ e ∈ es, e.2.Distinct

variable {es es' inner : Entries} {key : String} {v : Value} {origin : Origin}

theorem distinct_nil : Distinct [] := ⟨List.nodup_nil, by simp⟩

theorem distinct_of_table (h : (Value.table origin es).Distinct) : es.Distinct := by
  cases h with
  | table hkeys h => exact ⟨hkeys, h⟩

theorem Distinct.table (h : es.Distinct) (origin : Origin) : (Value.table origin es).Distinct :=
  .table h.keys h.values

/-! ## Looking up -/

theorem mem_of_get? (h : es.get? key = some v) : (key, v) ∈ es := by
  obtain ⟨e, he, rfl⟩ := Option.map_eq_some_iff.1 h
  have hkey : e.1 = key := by simpa using List.find?_some he
  have hmem := List.mem_of_find?_eq_some he
  rwa [← hkey]

theorem get?_eq_none_iff : es.get? key = none ↔ ∀ v, (key, v) ∉ es := by
  constructor
  · intro h v hv
    rw [get?, Option.map_eq_none_iff, List.find?_eq_none] at h
    have hne := h _ hv
    simp at hne
  · intro h
    cases hg : es.get? key with
    | none => rfl
    | some v => exact absurd (mem_of_get? hg) (h v)

/-- **What is in a table is found there**, wherever it stands. -/
theorem get?_eq_some_iff (h : es.Distinct) : es.get? key = some v ↔ (key, v) ∈ es := by
  constructor
  · exact mem_of_get?
  · intro hv
    cases hg : es.get? key with
    | none => exact absurd hv (get?_eq_none_iff.1 hg v)
    | some w =>
      have hw := mem_of_get? hg
      have hsame := List.inj_on_of_nodup_map h.keys hw hv rfl
      rw [(Prod.mk.inj hsame).2]

/-! ## Putting in -/

theorem map_fst_put (es : Entries) (key : String) (v : Value) :
    (es.put key v).map Prod.fst =
      if key ∈ es.map Prod.fst then es.map Prod.fst else es.map Prod.fst ++ [key] := by
  induction es with
  | nil => simp [put]
  | cons e es ih =>
    by_cases he : e.1 = key
    · simp [put, he]
    · have hne : key ≠ e.1 := fun h => he h.symm
      have hput : put key v (e :: es) = e :: put key v es := by simp [put, he]
      rw [hput, List.map_cons, ih]
      by_cases hmem : key ∈ es.map Prod.fst
      · rw [if_pos hmem, if_pos (by simp [hmem])]
        rfl
      · rw [if_neg hmem, if_neg (by simpa [hne] using hmem)]
        rfl

theorem mem_put {e : String × Value} (h : e ∈ es.put key v) : e ∈ es ∨ e = (key, v) := by
  induction es with
  | nil => exact .inr (by simpa [put] using h)
  | cons first es ih =>
    unfold put at h
    split at h
    · rcases List.mem_cons.1 h with rfl | h
      · exact .inr rfl
      · exact .inl (List.mem_cons_of_mem _ h)
    · rcases List.mem_cons.1 h with rfl | h
      · exact .inl List.mem_cons_self
      · exact (ih h).imp_left (List.mem_cons_of_mem _)

theorem Distinct.put (h : es.Distinct) (hv : v.Distinct) : (es.put key v).Distinct := by
  constructor
  · rw [map_fst_put]
    split
    · exact h.keys
    · rename_i hnew
      rw [List.nodup_append]
      refine ⟨h.keys, List.nodup_singleton key, ?_⟩
      intro a ha b hb
      rw [List.mem_singleton.1 hb]
      rintro rfl
      exact hnew ha
  · intro e he
    rcases mem_put he with he | rfl
    · exact h.values e he
    · exact hv

/-! ## Pieces of tables -/

/-- A piece that leaves the table at the end of a way distinct leaves all tables on the way so. -/
theorem Distinct.enter {passes : Origin → Bool} {change : Origin → Entries → Option Entries}
    (hchange : ∀ own es es', es.Distinct → change own es = some es' → es'.Distinct)
    {way : List String} {own : Origin} (h : es.Distinct)
    (he : enter origin passes change way own es = some es') : es'.Distinct := by
  induction way generalizing own es es' with
  | nil => exact hchange own es es' h he
  | cons key way ih =>
    unfold Entries.enter at he
    split at he
    · obtain ⟨inner, hinner, rfl⟩ := Option.map_eq_some_iff.1 he
      exact h.put ((ih distinct_nil hinner).table origin)
    · rename_i o old hget
      split at he
      · obtain ⟨inner, hinner, rfl⟩ := Option.map_eq_some_iff.1 he
        have hold : Distinct old := distinct_of_table (h.values _ (mem_of_get? hget))
        exact h.put ((ih hold hinner).table o)
      · cases he
    · rename_i ts hget
      have hts : (Value.tables ts).Distinct := h.values _ (mem_of_get? hget)
      have hall : ∀ v ∈ ts.reverse, v.Distinct := by
        intro v hv
        cases hts with
        | tables hts => exact hts v (List.mem_reverse.1 hv)
      split at he
      · rename_i o old before hlast
        rw [hlast] at hall
        obtain ⟨inner, hinner, rfl⟩ := Option.map_eq_some_iff.1 he
        have hold : Distinct old := distinct_of_table (hall _ List.mem_cons_self)
        refine h.put (.tables fun v hv => ?_)
        rcases List.mem_cons.1 (List.mem_reverse.1 hv) with rfl | hv
        · exact (ih hold hinner).table o
        · exact hall v (List.mem_cons_of_mem _ hv)
      · cases he
    · cases he

theorem Distinct.addKey {way : List String} (h : es.Distinct) (hv : v.Distinct)
    (ha : es.addKey way key v = some es') : es'.Distinct := by
  refine h.enter ?_ ha
  intro own es es' hes hadd
  split at hadd
  · cases hadd
  split at hadd
  · cases hadd
  · obtain rfl := Option.some.inj hadd
    exact hes.put hv

theorem Distinct.openTable {way : List String} (h : es.Distinct)
    (ho : es.openTable way key = some es') : es'.Distinct := by
  refine h.enter ?_ ho
  intro own es es' hes hopen
  split at hopen
  · obtain rfl := Option.some.inj hopen
    exact hes.put (distinct_nil.table .header)
  · rename_i inner hget
    obtain rfl := Option.some.inj hopen
    have hinner : Distinct inner := distinct_of_table (hes.values _ (mem_of_get? hget))
    exact hes.put (hinner.table .header)
  · cases hopen

theorem Distinct.openArrayTable {way : List String} (h : es.Distinct)
    (ho : es.openArrayTable way key = some es') : es'.Distinct := by
  have hfresh : (Value.table .header []).Distinct := distinct_nil.table .header
  refine h.enter ?_ ho
  intro own es es' hes hopen
  split at hopen
  · obtain rfl := Option.some.inj hopen
    refine hes.put (.tables fun v hv => ?_)
    rw [List.mem_singleton.1 hv]
    exact hfresh
  · rename_i ts hget
    obtain rfl := Option.some.inj hopen
    have hts : (Value.tables ts).Distinct := hes.values _ (mem_of_get? hget)
    refine hes.put (.tables fun v hv => ?_)
    rcases List.mem_append.1 hv with hv | hv
    · cases hts with
      | tables hts => exact hts v hv
    · rw [List.mem_singleton.1 hv]
      exact hfresh
  · cases hopen

end Entries

/-! ## Values -/

theorem distinct_of_scalar? {word : List Char} {v : Value} (h : scalar? word = some v) :
    v.Distinct := by
  unfold scalar? at h
  split at h
  · obtain rfl := Option.some.inj h
    exact .boolean true
  split at h
  · obtain rfl := Option.some.inj h
    exact .boolean false
  split at h
  · obtain rfl := Option.some.inj h
    exact .integer _
  split at h
  · obtain rfl := Option.some.inj h
    exact .float
  split at h
  · obtain rfl := Option.some.inj h
    exact .moment
  · cases h

/-- Every value that is read at a certain depth is distinct. -/
def DistinctAt (depth : Nat) : Prop :=
  ∀ (i : Input) (t : Taken Char Value i.length), value depth i = some t → t.value.Distinct

section

variable {depth size : Nat}

/-- The elements of an array. The induction is on the length of what is left to read. -/
theorem distinct_elements (hvalue : DistinctAt depth) {done : List Value} {i : Input}
    {h : i.length < size} {t : Taken Char (List Value) size} (hdone : ∀ v ∈ done, v.Distinct)
    (ht : elements depth size done i h = some t) : ∀ v ∈ t.value, v.Distinct := by
  induction hn : i.length using Nat.strongRecOn generalizing i done with
  | _ n ih =>
  rw [elements.eq_def] at ht
  split at ht
  · cases ht
  · cases ht
  · rename_i c more hj _
    split at ht
    · obtain rfl := Option.some.inj ht
      intro v hv
      exact hdone v (List.mem_reverse.1 hv)
    · split at ht
      · cases ht
      · rename_i element hread
        have helement : ∀ v ∈ element.value :: done, v.Distinct := by
          intro v hv
          rcases List.mem_cons.1 hv with rfl | hv
          · exact hvalue _ _ hread
          · exact hdone v hv
        have hshort := element.shorter
        split at ht
        · cases ht
        · cases ht
        · rename_i mark rest hk _
          split at ht
          · refine ih rest.length ?_ helement ht rfl
            simp only [List.length_cons] at hj hk hshort
            omega
          split at ht
          · obtain rfl := Option.some.inj ht
            intro v hv
            exact helement v (List.mem_reverse.1 hv)
          · cases ht

/-- The members of a table in braces. -/
theorem distinct_members (hvalue : DistinctAt depth) {done : Entries} {i : Input}
    {h : i.length < size} {t : Taken Char Entries size} (hdone : done.Distinct)
    (ht : members depth size done i h = some t) : t.value.Distinct := by
  induction hn : i.length using Nat.strongRecOn generalizing i done with
  | _ n ih =>
  rw [members.eq_def] at ht
  split at ht
  · cases ht
  · cases ht
  · rename_i c more hj _
    split at ht
    · obtain rfl := Option.some.inj ht
      exact hdone
    split at ht
    · cases ht
    · rename_i key _
      have hkey := key.shorter
      split at ht
      · rename_i after hrest
        have hafter := length_skipBlanks_le after
        split at ht
        · cases ht
        · rename_i member hread
          have hmember := member.shorter
          split at ht
          · cases ht
          · rename_i entries hadd
            have hentries : entries.Distinct := hdone.addKey (hvalue _ _ hread) hadd
            split at ht
            · cases ht
            · cases ht
            · rename_i mark rest hk _
              split at ht
              · refine ih rest.length ?_ hentries ht rfl
                simp only [hrest, List.length_cons] at hj hk hkey
                omega
              split at ht
              · obtain rfl := Option.some.inj ht
                exact hentries
              · cases ht
      · cases ht

end

theorem distinct_scalarAt {c : Char} {rest : Input} {t : Taken Char Value (rest.length + 1)}
    (h : scalarAt c rest = some t) : t.value.Distinct := by
  unfold scalarAt at h
  dsimp only at h
  split at h
  · cases h
  · rename_i v hscalar
    split at h
    · obtain rfl := Option.some.inj h
      exact distinct_of_scalar? hscalar
    · cases h

/-- **A value gives no key twice.** What is in brackets lies one level deeper, so the induction is on
the depth. -/
theorem distinct_value (depth : Nat) : DistinctAt depth := by
  induction depth with
  | zero =>
    intro i t h
    rw [value.eq_def] at h
    split at h
    · cases h
    · rename_i c rest
      split at h
      · obtain ⟨s, -, rfl⟩ := Option.map_eq_some_iff.1 h
        exact .string _
      split at h
      · cases h
      split at h
      · cases h
      · exact distinct_scalarAt h
  | succ depth ih =>
    intro i t h
    rw [value.eq_def] at h
    split at h
    · cases h
    · rename_i c rest
      split at h
      · obtain ⟨s, -, rfl⟩ := Option.map_eq_some_iff.1 h
        exact .string _
      split at h
      · obtain ⟨vs, hvs, rfl⟩ := Option.map_eq_some_iff.1 h
        exact .array (distinct_elements ih (by simp) hvs)
      split at h
      · obtain ⟨es, hes, rfl⟩ := Option.map_eq_some_iff.1 h
        exact (distinct_members ih Entries.distinct_nil hes).table .braces
      · exact distinct_scalarAt h

/-! ## Documents -/

variable {d : Document}

theorem distinct_line {i : Input} {t : Taken Char Document i.length} (h : d.entries.Distinct)
    (ht : line d i = some t) : t.value.entries.Distinct := by
  unfold line at ht
  split at ht
  · split at ht
    · cases ht
    split at ht
    · split at ht
      · rename_i d' _ hopen
        obtain rfl := Option.some.inj ht
        obtain ⟨es, hes, rfl⟩ := Option.map_eq_some_iff.1 hopen
        exact h.openArrayTable hes
      · cases ht
    · cases ht
  · split at ht
    · cases ht
    split at ht
    · split at ht
      · rename_i d' _ hopen
        obtain rfl := Option.some.inj ht
        obtain ⟨es, hes, rfl⟩ := Option.map_eq_some_iff.1 hopen
        exact h.openTable hes
      · cases ht
    · cases ht
  · split at ht
    · cases ht
    split at ht
    · split at ht
      · cases ht
      · rename_i v hread
        split at ht
        · rename_i d' _ hassign
          obtain rfl := Option.some.inj ht
          obtain ⟨es, hes, rfl⟩ := Option.map_eq_some_iff.1 hassign
          exact h.enter (fun _ _ _ hes hadd => hes.addKey (distinct_value _ _ _ hread) hadd) hes
        · cases ht
    · cases ht

theorem distinct_lines {i : Input} {d' : Document} (h : d.entries.Distinct)
    (hd : lines d i = some d') : d'.entries.Distinct := by
  induction hn : i.length using Nat.strongRecOn generalizing i d with
  | _ n ih =>
  rw [lines.eq_def] at hd
  split at hd
  · cases hd
  · obtain rfl := Option.some.inj hd
    exact h
  · rename_i c rest hj _
    split at hd
    · cases hd
    · rename_i t hline
      have hshort := t.shorter
      exact ih t.rest.length (by omega) (distinct_line h hline) hd rfl

/-- **No document gives a key twice**, on any level. -/
theorem distinct_of_parse? {s : String} {es : Entries} (h : parse? s = some es) : es.Distinct := by
  obtain ⟨d, hd, rfl⟩ := Option.map_eq_some_iff.1 h
  exact distinct_lines (d := .start) Entries.distinct_nil hd

end BuildService.Toml
