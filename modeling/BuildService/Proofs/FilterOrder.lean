import BuildService.LogFilter
import Mathlib.Data.List.Induction
/-!
How directives come to stand in a filter.

They are put into their places one after the other, and one that is about the same events
takes the place of an earlier one. Put that way, what a filter holds depends on all
directives and on their order. But those about targets and bare levels never meet: a target
is always more specific than none, and a dynamic directive is never about the same events as
one that is not. So the directives about targets can be told from those of the list that
are about targets, and the base level from the bare levels of the list, whatever else is
in it (`LogFilter.targets_ofDirectives`, `LogFilter.base_ofDirectives`).
-/

set_option autoImplicit false

namespace BuildService

/-! ## Directives about targets -/

namespace Directive

variable {d e : Directive} {es ts : List Directive}

/-- A directive about a target and nothing else. -/
def isTarget (d : Directive) : Bool := d.target.isSome && !d.isDynamic

/-- A directive about everything: a bare level. -/
def isBase (d : Directive) : Bool := d.target.isNone && !d.isDynamic

theorem isDynamic_of_isTarget (h : d.isTarget = true) : d.isDynamic = false := by
  simpa using (Bool.and_eq_true_iff.1 h).2

theorem isDynamic_of_isBase (h : d.isBase = true) : d.isDynamic = false := by
  simpa using (Bool.and_eq_true_iff.1 h).2

theorem not_isTarget_of_isBase (h : d.isBase = true) : ¬d.isTarget = true := by
  intro ht
  have hnone := (Bool.and_eq_true_iff.1 h).1
  have hsome := (Bool.and_eq_true_iff.1 ht).1
  rw [Option.isNone_iff_eq_none] at hnone
  rw [hnone] at hsome
  cases hsome

theorem filter_not_isDynamic {q : Directive → Bool} (hq : ∀ d, q d = true → d.isDynamic = false)
    (ds : List Directive) : (ds.filter (!·.isDynamic)).filter q = ds.filter q := by
  rw [List.filter_filter]
  apply List.filter_congr
  intro d _
  by_cases hd : q d = true
  · simp [hd, hq d hd]
  · simp [hd]

theorem compareSpecific_of_target_of_base (hd : d.isTarget = true) (he : e.isBase = true) :
    compareSpecific d e = .gt := by
  simp only [isTarget, isBase, Bool.and_eq_true, Option.isSome_iff_exists,
    Option.isNone_iff_eq_none] at hd he
  obtain ⟨⟨t, ht⟩, -⟩ := hd
  simp only [compareSpecific, ht, he.1]
  rfl

theorem compareSpecific_of_base_of_target (hd : d.isBase = true) (he : e.isTarget = true) :
    compareSpecific d e = .lt := by
  simp only [isTarget, isBase, Bool.and_eq_true, Option.isSome_iff_exists,
    Option.isNone_iff_eq_none] at hd he
  obtain ⟨⟨t, ht⟩, -⟩ := he
  simp only [compareSpecific, ht, hd.1]
  rfl

theorem compareSpecific_of_base (hd : d.isBase = true) (he : e.isBase = true) :
    compareSpecific d e = .eq := by
  simp only [isBase, isDynamic, Bool.and_eq_true, Bool.not_eq_true', Bool.or_eq_false_iff,
    Option.isNone_iff_eq_none, Option.isSome_eq_false_iff, Bool.not_eq_false',
    List.isEmpty_iff] at hd he
  simp only [compareSpecific, hd.1, hd.2.1, hd.2.2, he.1, he.2.1, he.2.2]
  rfl

/-- A directive about a target is put in front of a bare level. -/
theorem insert_target (hd : d.isTarget = true) {b : Option Directive}
    (hb : ∀ e ∈ b, e.isBase = true) : d.insert (ts ++ b.toList) = d.insert ts ++ b.toList := by
  induction ts with
  | nil =>
    cases b with
    | none => rfl
    | some e =>
      simp only [List.nil_append, Option.toList_some, insert,
        compareSpecific_of_target_of_base hd (hb e rfl), List.singleton_append]
  | cons t ts ih =>
    simp only [List.cons_append, insert, ih]
    split <;> rfl

/-- A bare level is put behind all directives about targets, in the place of another one. -/
theorem insert_base (hd : d.isBase = true) (hts : ∀ t ∈ ts, t.isTarget = true)
    {b : Option Directive} (hb : ∀ e ∈ b, e.isBase = true) : d.insert (ts ++ b.toList) = ts ++ [d] := by
  induction ts with
  | nil =>
    cases b with
    | none => rfl
    | some e =>
      simp only [List.nil_append, Option.toList_some, insert,
        compareSpecific_of_base hd (hb e rfl)]
  | cons t ts ih =>
    obtain ⟨ht, hts⟩ := List.forall_mem_cons.1 hts
    simp only [List.cons_append, insert, compareSpecific_of_base_of_target hd ht, ih hts]

theorem mem_insert (h : e ∈ d.insert es) : e = d ∨ e ∈ es := by
  induction es with
  | nil => exact .inl (List.mem_singleton.1 h)
  | cons x es ih =>
    unfold insert at h
    split at h
    · exact List.mem_cons.1 h
    · exact (List.mem_cons.1 h).imp_right (List.mem_cons_of_mem _)
    · rcases List.mem_cons.1 h with rfl | h
      · exact .inr List.mem_cons_self
      · exact (ih h).imp_right (List.mem_cons_of_mem _)

/-- Directives that are about the same events are both dynamic or neither is. -/
theorem isDynamic_eq_of_compareSpecific (h : compareSpecific d e = .eq) :
    d.isDynamic = e.isDynamic := by
  simp only [compareSpecific, Ordering.then_eq_eq, Nat.compare_eq_eq] at h
  obtain ⟨-, hspan, hfields, -⟩ := h
  have hempty : d.fields.isEmpty = e.fields.isEmpty := by
    rw [Bool.eq_iff_iff, List.isEmpty_iff_length_eq_zero, List.isEmpty_iff_length_eq_zero, hfields]
  have hsome : d.span.isSome = e.span.isSome := by
    revert hspan
    cases d.span.isSome <;> cases e.span.isSome <;> decide
  rw [isDynamic, isDynamic, hsome, hempty]

/-- A dynamic directive leaves the others as they are. -/
theorem filter_insert_of_isDynamic (h : d.isDynamic = true) :
    (d.insert es).filter (!·.isDynamic) = es.filter (!·.isDynamic) := by
  induction es with
  | nil => simp [insert, h]
  | cons e es ih =>
    unfold insert
    split
    · simp [h]
    · rename_i heq
      have he := (isDynamic_eq_of_compareSpecific heq).symm.trans h
      simp [h, he]
    · rw [List.filter_cons, List.filter_cons, ih]

/-- Puts directives into their places, one after the other. -/
def insertAll (ds es : List Directive) : List Directive := ds.foldl (fun es d => d.insert es) es

theorem insertAll_append (ds ds' es : List Directive) :
    insertAll (ds ++ ds') es = insertAll ds' (insertAll ds es) := List.foldl_append

theorem insertAll_append_one (ds : List Directive) (d : Directive) (es : List Directive) :
    insertAll (ds ++ [d]) es = d.insert (insertAll ds es) := insertAll_append ds [d] es

theorem filter_insertAll_of_isDynamic {ds : List Directive} (hds : ∀ d ∈ ds, d.isDynamic = true) :
    (insertAll ds es).filter (!·.isDynamic) = es.filter (!·.isDynamic) := by
  induction ds generalizing es with
  | nil => rfl
  | cons d ds ih =>
    obtain ⟨hd, hds⟩ := List.forall_mem_cons.1 hds
    have hrest : (insertAll ds (d.insert es)).filter (!·.isDynamic) =
        (d.insert es).filter (!·.isDynamic) := ih hds
    exact hrest.trans (filter_insert_of_isDynamic hd)

theorem forall_insertAll {P : Directive → Prop} {ds : List Directive} (hds : ∀ d ∈ ds, P d)
    (hes : ∀ e ∈ es, P e) : ∀ e ∈ insertAll ds es, P e := by
  induction ds generalizing es with
  | nil => exact hes
  | cons d ds ih =>
    obtain ⟨hd, hds⟩ := List.forall_mem_cons.1 hds
    apply ih hds
    intro e he
    rcases mem_insert he with rfl | he
    · exact hd
    · exact hes e he

/-- **Directives that are not dynamic stand in two groups**: those about targets, as if there were
no others, and behind them the last bare level. -/
theorem insertAll_of_plain {ds : List Directive} (hds : ∀ d ∈ ds, d.isDynamic = false) :
    insertAll ds [] =
      insertAll (ds.filter isTarget) [] ++ ((ds.filter isBase).getLast?).toList := by
  induction ds using List.reverseRecOn with
  | nil => rfl
  | append_singleton ds d ih =>
    have hd : d.isDynamic = false := hds d (by simp)
    have ih := ih fun e he => hds e (List.mem_append_left _ he)
    have hbase : ∀ e ∈ (ds.filter isBase).getLast?, e.isBase = true := fun e he =>
      (List.mem_filter.1 (List.mem_of_getLast? he)).2
    rw [insertAll_append_one, ih, List.filter_append, List.filter_append]
    by_cases ht : d.isTarget = true
    · have hb : d.isBase = false := by
        simp only [isTarget, isBase, hd, Bool.not_false, Bool.and_true] at ht ⊢
        simpa using ht
      simp only [List.filter_cons, ht, hb, if_true, Bool.false_eq_true, if_false, List.filter_nil,
        List.append_nil]
      rw [insert_target ht hbase, insertAll_append_one]
    · have hb : d.isBase = true := by
        simp only [isTarget, isBase, hd, Bool.not_false, Bool.and_true] at ht ⊢
        simpa using ht
      have htargets : ∀ t ∈ insertAll (ds.filter isTarget) [], t.isTarget = true :=
        forall_insertAll (fun t ht => (List.mem_filter.1 ht).2) (by simp)
      rw [insert_base hb htargets hbase]
      simp [ht, hb]

end Directive

namespace LogFilter

open Directive

variable {f : LogFilter} {ds : List Directive}

/-- The directives of a filter that are about a target and nothing else. -/
def targets (f : LogFilter) : List Directive := f.plain.filter isTarget

/-- The bare levels of a filter. -/
def base (f : LogFilter) : List Directive := f.plain.filter isBase

/-- What is not dynamic in a filter is what comes of the directives that are not. -/
theorem filter_plain_ofDirectives (ds : List Directive) :
    (ofDirectives ds).plain.filter (!·.isDynamic) =
      insertAll (ds.filter isTarget) [] ++ ((ds.filter isBase).getLast?).toList := by
  have hplain : (ofDirectives ds).plain = insertAll (ds.filter fun d => d.isDynamic && d.isStatic)
      (insertAll (ds.filter (!·.isDynamic)) []) := insertAll_append _ _ _
  have hdynamic : ∀ d ∈ ds.filter (fun d => d.isDynamic && d.isStatic), d.isDynamic = true :=
    fun d hd => (Bool.and_eq_true_iff.1 (List.mem_filter.1 hd).2).1
  have hothers : ∀ d ∈ ds.filter (!·.isDynamic), d.isDynamic = false := by
    intro d hd
    simpa using (List.mem_filter.1 hd).2
  have hself : (insertAll (ds.filter (!·.isDynamic)) []).filter (!·.isDynamic) =
      insertAll (ds.filter (!·.isDynamic)) [] := by
    rw [List.filter_eq_self]
    intro d hd
    have hd := forall_insertAll (P := fun d => d.isDynamic = false) hothers (by simp) d hd
    simp [hd]
  rw [hplain, filter_insertAll_of_isDynamic hdynamic, hself, insertAll_of_plain hothers,
    filter_not_isDynamic (fun _ => isDynamic_of_isTarget),
    filter_not_isDynamic (fun _ => isDynamic_of_isBase)]

/-- **The directives about targets are those that would be there without all others.** -/
theorem targets_ofDirectives (ds : List Directive) :
    (ofDirectives ds).targets = insertAll (ds.filter isTarget) [] := by
  have htargets : ∀ t ∈ insertAll (ds.filter isTarget) [], t.isTarget = true :=
    forall_insertAll (fun t ht => (List.mem_filter.1 ht).2) (by simp)
  have hbase : ((ds.filter isBase).getLast?).toList.filter isTarget = [] := by
    rw [List.filter_eq_nil_iff]
    intro d hd
    have hd := (List.mem_filter.1 (List.mem_of_getLast? (Option.mem_toList.1 hd))).2
    exact not_isTarget_of_isBase hd
  rw [targets, ← filter_not_isDynamic (fun _ => isDynamic_of_isTarget), filter_plain_ofDirectives,
    List.filter_append, hbase, List.append_nil, List.filter_eq_self.2 htargets]

/-- **The base level is the last one that is given.** -/
theorem base_ofDirectives (ds : List Directive) :
    (ofDirectives ds).base = ((ds.filter isBase).getLast?).toList := by
  have htargets : (insertAll (ds.filter isTarget) []).filter isBase = [] := by
    rw [List.filter_eq_nil_iff]
    intro d hd hb
    have hd := forall_insertAll (P := fun d => d.isTarget = true)
      (fun t ht => (List.mem_filter.1 ht).2) (by simp) d hd
    exact not_isTarget_of_isBase hb hd
  have hbase : ∀ d ∈ ((ds.filter isBase).getLast?).toList, d.isBase = true := by
    intro d hd
    exact (List.mem_filter.1 (List.mem_of_getLast? (Option.mem_toList.1 hd))).2
  rw [base, ← filter_not_isDynamic (fun _ => isDynamic_of_isBase), filter_plain_ofDirectives,
    List.filter_append, htargets, List.nil_append, List.filter_eq_self.2 hbase]

end LogFilter

end BuildService
