import BuildService.Request.Decoding
import BuildService.Sample
import BuildService.Proofs.JsonValues
import Mathlib.Data.List.Pairwise
/-!
Which objects are build requests, and which request each of them is.

An object is taken apart into its members (`Members`), in the order in which they stand,
each with the bytes of its name and of its value. What is read is said about the members
alone: neither their order, nor the spelling of a name or a value, nor the blanks, nor
members that give no field have a part in it (`GivesEach`). In particular a second name
for a field is a second time that the field is given, and no object in which that
happens is a request.

The reader goes from member to member. What one member does to the values so far is
`Joins`, and what all of them do comes of it by induction on the grammar.
-/

set_option autoImplicit false

namespace BuildService.Request

open Json

/-! ## Objects and their members -/

/-- A member: what stands between the quotes of its name, and the text of its value. -/
structure Member where
  name : Input
  value : Input

/-- The members that stand between the brackets of an object, at least one of them. -/
inductive Members : List Member → Input → Prop
  | last {name value lead front back} (hl : NameText name lead) (hf : Blanks front)
      (hv : Written .value value) (hb : Blanks back) :
      Members [⟨name, value⟩] (lead ++ (front ++ (value ++ back)))
  | more {name value lead front back ms items} (hl : NameText name lead) (hf : Blanks front)
      (hv : Written .value value) (hb : Blanks back) (h : Members ms items) :
      Members (⟨name, value⟩ :: ms) (lead ++ (front ++ (value ++ (back ++ mark ',' :: items))))

/-- A text that is an object with these members, blanks around it allowed. -/
def IsObject (ms : List Member) (text : Input) : Prop :=
  ∃ front inside back, text = front ++ mark '{' :: (inside ++ mark '}' :: back) ∧
    Blanks front ∧ Blanks back ∧ (ms = [] ∧ Blanks inside ∨ Members ms inside)

variable {ms : List Member} {m : Member} {vs vs' : Values} {f : Field} {s : String} {r : Request}
  {i items text tail gap rest : Input}

/-- Whatever stands between the brackets of an object has members. -/
theorem exists_members {part : Part} (h : Written part items) (hp : part = .items .object) :
    ∃ ms, Members ms items := by
  induction h with
  | scalar => cases hp
  | empty => cases hp
  | nested => cases hp
  | last hl hf hv hb =>
    cases hp
    cases hl with
    | member hl => exact ⟨_, .last hl hf hv hb⟩
  | more hl hf hv hb _ _ ih =>
    cases hp
    obtain ⟨ms, hms⟩ := ih rfl
    cases hl with
    | member hl => exact ⟨_, .more hl hf hv hb hms⟩

/-- Every value that begins with the bracket of an object is one, with blanks around it or not. -/
theorem exists_isObject {value front back : Input} (h : Written .value value)
    (hb : value.head? = some (mark '{')) (hfront : Blanks front) (hback : Blanks back) :
    ∃ ms, IsObject ms (front ++ (value ++ back)) := by
  cases h with
  | scalar h =>
    obtain ⟨b, rest, hi, hbegins, -⟩ := skipScalar_of_scalar h (show Delimited [] by simp [Delimited])
    rw [List.append_nil] at hi
    rw [hi, List.head?_cons, Option.some.injEq] at hb
    exact absurd (by rw [hb]; decide) hbegins.bracket
  | @empty frame gap hgap =>
    cases frame with
    | array => exact absurd (Option.some.inj hb) (by decide)
    | object =>
      refine ⟨[], front, gap, back, ?_, hfront, hback, .inl ⟨rfl, hgap⟩⟩
      rw [List.cons_append, List.append_assoc]
      rfl
  | @nested frame items h =>
    cases frame with
    | array => exact absurd (Option.some.inj hb) (by decide)
    | object =>
      obtain ⟨ms, hms⟩ := exists_members h rfl
      refine ⟨ms, front, items, back, ?_, hfront, hback, .inr hms⟩
      rw [List.cons_append, List.append_assoc]
      rfl

/-! ## What a member gives -/

/-- The name of the member is one of the names of a field. -/
def Member.Gives (m : Member) (f : Field) : Prop :=
  ∃ s, Spells m.name s ∧ (s = f.name ∨ f.alias? = some s)

/-- The value of the member is a string. -/
def Member.IsString (m : Member) : Prop :=
  ∃ body, Body body ∧ m.value = mark '"' :: (body ++ [mark '"'])

/-- The value of the member is a string that spells a text. -/
def Member.IsText (m : Member) (s : String) : Prop :=
  ∃ body, Spells body s ∧ m.value = mark '"' :: (body ++ [mark '"'])

/-- Every name is a text, and every field is given by one member and by no more, with its value in
the request as a string. -/
structure GivesEach (ms : List Member) (r : Request) : Prop where
  names : ∀ m ∈ ms, ∃ s, Spells m.name s
  once : ∀ f, ms.Pairwise fun x y => x.Gives f → ¬ y.Gives f
  value : ∀ f, ∃ m ∈ ms, m.Gives f ∧ m.IsText (r.get f)

theorem spells_unique {body : Input} {s₁ s₂ : String} (h₁ : Spells body s₁) (h₂ : Spells body s₂) :
    s₁ = s₂ := by
  have hread := (string_of_spells h₁ []).symm.trans (string_of_spells h₂ [])
  injection hread with hread
  injection hread

theorem Member.IsText.unique {s₁ s₂ : String} (h₁ : m.IsText s₁) (h₂ : m.IsText s₂) : s₁ = s₂ := by
  obtain ⟨body₁, hs₁, hv₁⟩ := h₁
  obtain ⟨body₂, hs₂, hv₂⟩ := h₂
  obtain rfl : body₁ = body₂ := by
    rw [hv₁, List.cons.injEq] at hv₂
    exact List.append_cancel_right hv₂.2
  exact spells_unique hs₁ hs₂

theorem Member.IsText.isString (h : m.IsText s) : m.IsString := by
  obtain ⟨body, hs, hv⟩ := h
  exact ⟨body, hs.isBody, hv⟩

/-- No two fields have a name in common. -/
theorem ofMember?_eq_some_iff : Field.ofMember? s = some f ↔ s = f.name ∨ f.alias? = some s := by
  constructor
  · intro h
    have hname := List.find?_some h
    simp only [Bool.or_eq_true, beq_iff_eq] at hname
    exact hname.imp_left Eq.symm
  · rintro (rfl | h)
    · cases f <;> decide
    · cases f <;> cases h <;> decide

theorem gives_iff (h : Spells m.name s) : m.Gives f ↔ Field.ofMember? s = some f := by
  rw [ofMember?_eq_some_iff]
  constructor
  · rintro ⟨s', hs', hname⟩
    rwa [spells_unique h hs']
  · exact fun hname => ⟨s, h, hname⟩

/-- A value that begins with a quote is a string. -/
theorem isString_of_quote {value : Input} (h : Written .value value)
    (hq : value.head? = some (mark '"')) :
    ∃ body, Body body ∧ value = mark '"' :: (body ++ [mark '"']) := by
  cases h with
  | scalar h =>
    cases h with
    | word h =>
      simp only [List.mem_cons, List.not_mem_nil, or_false] at h
      rcases h with rfl | rfl | rfl <;> exact absurd hq (by decide)
    | number h =>
      obtain ⟨d, rest, rfl, hd⟩ := h.exists_cons
      rw [show d = mark '"' from Option.some.inj hq] at hd
      exact absurd hd (by decide)
    | negative => exact absurd (Option.some.inj hq) (by decide)
    | string h => exact ⟨_, h, rfl⟩
  | empty frame => exact absurd (Option.some.inj hq) (by cases frame <;> decide)
  | @nested frame => exact absurd (Option.some.inj hq) (by cases frame <;> decide)

/-! ## Reading a member -/

/-- What one member does to the values that have been read so far. -/
inductive Joins (vs : Values) (m : Member) : Values → Prop
  | field {given text} (hf : m.Gives given) (hn : vs.get? given = none) (hv : m.IsText text) :
      Joins vs m ((given, text) :: vs)
  | other {name} (hs : Spells m.name name) (hf : ∀ f, ¬ m.Gives f) : Joins vs m vs

theorem expectMark_of_blanks {c : Char} (hc : c.toNat < 0x80) (hb : isBlank (mark c) = false)
    (hg : Blanks gap) (hi : i = gap ++ mark c :: rest) (hr : rest.length < i.length) :
    expectMark c i = .ok ⟨(), rest, hr⟩ := by
  subst hi
  have hgap := skipBlanks_append hg hb rest
  rw [expectMark]
  split <;> rename_i hcons <;> rw [hgap] at hcons <;> cases hcons
  rw [if_pos (byteChar_mark hc)]

theorem valueAt_of_isText {place : String} (h : m.IsText s) (hg : Blanks gap)
    (hi : i = gap ++ (m.value ++ tail)) (hr : tail.length < i.length) :
    valueAt place i = .ok ⟨s, tail, hr⟩ := by
  obtain ⟨body, hs, hv⟩ := h
  have hgap : skipBlanks i = mark '"' :: (body ++ mark '"' :: tail) := by
    rw [hi, hv, List.cons_append, List.append_assoc, skipBlanks_append hg (by decide)]
    rfl
  rw [valueAt, expectString]
  split <;> rename_i hcons <;> rw [hgap] at hcons <;> cases hcons
  rw [if_pos (by decide), string_of_spells hs]
  rfl

/-- A value that is read as a string is one, and spells what was read. -/
theorem isText_of_valueAt {place : String} (hw : Written .value m.value) (hg : Blanks gap)
    (hi : i = gap ++ (m.value ++ tail)) {t : Taken UInt8 String i.length}
    (h : valueAt place i = .ok t) : m.IsText t.value ∧ t.rest = tail := by
  have hgap : skipBlanks i = m.value ++ tail := by rw [hi, hw.skipBlanks_value hg]
  have hread : expectString "a string" i = .ok t := by
    rw [valueAt] at h
    cases he : expectString "a string" i with
    | error e => rw [he] at h; cases h
    | ok t' => rw [he] at h; exact h
  rw [expectString] at hread
  split at hread
  · cases hread
  · rename_i b more hcons
    split at hread
    · rename_i hb
      obtain ⟨body, hbody, hv⟩ := isString_of_quote hw (by
        obtain ⟨c, rest, hvalue, -⟩ := hw.exists_cons rfl
        rw [hgap, hvalue, List.cons_append, List.cons.injEq] at hcons
        rw [hvalue, List.head?_cons, hcons.1, eq_mark hb])
      rw [hgap, hv, List.cons_append, List.append_assoc] at hcons
      obtain rfl : more = body ++ mark '"' :: tail := (List.cons.inj hcons).2.symm
      cases hstring : string (body ++ mark '"' :: tail) with
      | error e => rw [hstring] at hread; cases hread
      | ok t' =>
        obtain ⟨hspells, hrest⟩ := spells_of_string hbody hstring
        rw [hstring] at hread
        cases hread
        exact ⟨⟨body, hspells, hv⟩, hrest⟩
    · cases hread

/-- The bytes of a member from its name on, with what follows it. -/
def Follows (m : Member) (i tail : Input) : Prop :=
  ∃ back front, Blanks back ∧ Blanks front ∧ Body m.name ∧ Written .value m.value ∧
    Delimited tail ∧ i = m.name ++ mark '"' :: (back ++ mark ':' :: (front ++ (m.value ++ tail)))

/-- A member is read where it joins the values so far. -/
theorem member_of_joins (h : Joins vs m vs') (hi : Follows m i tail) (hr : tail.length < i.length) :
    member vs i = .ok ⟨vs', tail, hr⟩ := by
  obtain ⟨back, front, hback, hfront, hname, hvalue, htail, rfl⟩ := hi
  have hcolon := expectMark_of_blanks (c := ':') (by decide) (by decide) hback rfl
    (length_lt_cut back (front ++ (m.value ++ tail)))
  have hlen : tail.length < (front ++ (m.value ++ tail)).length :=
    hvalue.length_lt_of_skipBlanks (hvalue.skipBlanks_value hfront tail) (Nat.le_refl _)
  cases h with
  | @field f s hf hn hv =>
    obtain ⟨name, hspells, -⟩ := id hf
    rw [member]
    simp only [string_of_spells hspells, (gives_iff hspells).1 hf, hn, Option.isSome_none,
      Bool.false_eq_true, if_false, hcolon, valueAt_of_isText hv hfront rfl hlen]
    rfl
  | @other name hs hf =>
    have hnone : Field.ofMember? name = none :=
      Option.eq_none_iff_forall_ne_some.2 fun f h => hf f ((gives_iff hs).2 h)
    rw [member]
    simp only [string_of_spells hs, hnone, hcolon,
      skipValue_of_written hvalue hfront htail rfl hlen]
    rfl

/-- Where a member is read it joins the values so far, and all of it has been read. -/
theorem joins_of_member (hi : Follows m i tail) {t : Taken UInt8 Values i.length}
    (h : member vs i = .ok t) : Joins vs m t.value ∧ t.rest = tail := by
  obtain ⟨back, front, hback, hfront, hname, hvalue, htail, rfl⟩ := hi
  have hcolon := expectMark_of_blanks (c := ':') (by decide) (by decide) hback rfl
    (length_lt_cut back (front ++ (m.value ++ tail)))
  rw [member] at h
  split at h
  · cases h
  · rename_i name hstring
    obtain ⟨hspells, hrest⟩ := spells_of_string hname hstring
    obtain ⟨name, after, hshort⟩ := name
    obtain rfl : after = back ++ mark ':' :: (front ++ (m.value ++ tail)) := hrest
    simp only [hcolon] at h
    split at h
    · rename_i f hf
      have hgives : m.Gives f := (gives_iff hspells).2 hf
      split at h
      · cases h
      · rename_i hnone
        cases hread : valueAt name (front ++ (m.value ++ tail)) with
        | error e => rw [hread] at h; cases h
        | ok t' =>
          rw [hread] at h
          cases h
          obtain ⟨hv, hrest⟩ := isText_of_valueAt hvalue hfront rfl hread
          exact ⟨.field hgives (by simpa using hnone) hv, hrest⟩
    · rename_i hf
      rw [skipValue_of_written hvalue hfront htail rfl (hvalue.length_lt_of_skipBlanks
        (hvalue.skipBlanks_value hfront tail) (Nat.le_refl _))] at h
      cases h
      refine ⟨.other hspells fun f hgives => ?_, rfl⟩
      rw [(gives_iff hspells).1 hgives] at hf
      cases hf

/-! ## Reading the members one after another -/

/-- What members one after another do to the values that have been read before them. -/
inductive JoinsAll : Values → List Member → Values → Prop
  | nil {before} : JoinsAll before [] before
  | cons {before first between rest after} (h : Joins before first between)
      (ht : JoinsAll between rest after) : JoinsAll before (first :: rest) after

theorem laterMembers_of_close (hi : skipBlanks i = mark '}' :: tail) :
    laterMembers vs i = vs.complete.map fun r => (r, tail) := by
  rw [laterMembers]
  split <;> rename_i hcons <;> rw [hi] at hcons <;> cases hcons
  rw [if_pos (by decide)]

theorem laterMembers_of_comma {more : Input} (hi : skipBlanks i = mark ',' :: items)
    (hm : skipBlanks items = mark '"' :: more) :
    laterMembers vs i = member vs more >>= fun t => laterMembers t.value t.rest := by
  conv_lhs => rw [laterMembers]
  split <;> rename_i hcons <;> rw [hi] at hcons <;> cases hcons
  rw [if_neg (by decide), if_pos (by decide)]
  split <;> rename_i hcons <;> rw [hm] at hcons <;> cases hcons
  rw [if_pos (by decide)]
  cases member vs more <;> rfl

theorem Follows.shorter (h : Follows m i tail) : tail.length < i.length := by
  obtain ⟨back, front, -, hfront, -, hvalue, -, rfl⟩ := h
  have hlen : tail.length < (front ++ (m.value ++ tail)).length :=
    hvalue.length_lt_of_skipBlanks (hvalue.skipBlanks_value hfront tail) (Nat.le_refl _)
  simp only [List.length_append, List.length_cons] at hlen ⊢
  omega

/-- The reader goes on behind a member exactly where it joins the values so far. -/
theorem member_bind_iff (hi : Follows m i tail) {after : Input} :
    (member vs i >>= fun t => laterMembers t.value t.rest) = .ok (r, after) ↔
      ∃ mid, Joins vs m mid ∧ laterMembers mid tail = .ok (r, after) := by
  constructor
  · intro h
    cases hread : member vs i with
    | error e => rw [hread] at h; cases h
    | ok t =>
      rw [hread] at h
      obtain ⟨hjoins, hrest⟩ := joins_of_member hi hread
      exact ⟨t.value, hjoins, by rw [← hrest]; exact h⟩
  · rintro ⟨mid, hjoins, h⟩
    rw [member_of_joins hjoins hi hi.shorter]
    exact h

/-- Where a member begins, its name begins, and the rest of it follows. -/
theorem exists_follows {name value lead front : Input} (hl : NameText name lead) (hf : Blanks front)
    (hv : Written .value value) (ht : Delimited tail) : ∃ more,
      skipBlanks (lead ++ (front ++ (value ++ tail))) = mark '"' :: more ∧
        Follows ⟨name, value⟩ more tail := by
  obtain ⟨hgap, hn, hback⟩ := hl
  refine ⟨_, ?_, _, front, hback, hf, hn, hv, ht, rfl⟩
  rw [List.append_assoc, List.cons_append, skipBlanks_append hgap (by decide)]
  simp only [List.append_assoc, List.cons_append, List.nil_append]

/-- What the reader makes of the members in `items`: it takes all of them, up to the bracket that
closes, exactly where they join one another and leave no field without a value. -/
theorem Members.read (h : Members ms items) (tail : Input) :
    ∃ more, skipBlanks (items ++ mark '}' :: tail) = mark '"' :: more ∧ ∀ vs r after,
      (member vs more >>= fun t => laterMembers t.value t.rest) = .ok (r, after) ↔
        after = tail ∧ ∃ vs', JoinsAll vs ms vs' ∧ vs'.complete = .ok r := by
  induction h with
  | @last name value lead front back hl hf hv hb =>
    have hend : Delimited (back ++ mark '}' :: tail) :=
      delimited_append hb (delimited_closing .object tail)
    obtain ⟨more, hmore, hfollows⟩ := exists_follows hl hf hv hend
    refine ⟨more, by simpa only [List.append_assoc] using hmore, fun vs r after => ?_⟩
    have hclose : ∀ mid : Values, laterMembers mid (back ++ mark '}' :: tail) =
        mid.complete.map fun r => (r, tail) := fun _ =>
      laterMembers_of_close (skipBlanks_append hb (isBlank_bracket .object).2 tail)
    rw [member_bind_iff hfollows]
    constructor
    · rintro ⟨mid, hjoins, h⟩
      rw [hclose] at h
      cases hc : mid.complete with
      | error e => rw [hc] at h; cases h
      | ok r' =>
        rw [hc] at h
        cases h
        exact ⟨rfl, mid, .cons hjoins .nil, hc⟩
    · rintro ⟨rfl, vs', hall, hc⟩
      cases hall with
      | cons hjoins hnil =>
        cases hnil
        exact ⟨vs', hjoins, by rw [hclose, hc]; rfl⟩
  | @more name value lead front back ms items hl hf hv hb _ ih =>
    obtain ⟨next, hnext, hread⟩ := ih
    obtain ⟨more, hmore, hfollows⟩ := exists_follows hl hf hv
      (delimited_append hb (delimited_comma (items ++ mark '}' :: tail)))
    refine ⟨more, by simpa only [List.append_assoc, List.cons_append] using hmore,
      fun vs r after => ?_⟩
    rw [member_bind_iff hfollows]
    have hcomma : ∀ mid : Values,
        laterMembers mid (back ++ mark ',' :: (items ++ mark '}' :: tail)) =
          member mid next >>= fun t => laterMembers t.value t.rest := fun _ =>
      laterMembers_of_comma (skipBlanks_append hb (by decide) _) hnext
    constructor
    · rintro ⟨mid, hjoins, h⟩
      rw [hcomma, hread] at h
      obtain ⟨hafter, vs', hall, hc⟩ := h
      exact ⟨hafter, vs', .cons hjoins hall, hc⟩
    · rintro ⟨hafter, vs', hall, hc⟩
      cases hall with
      | cons hjoins hall =>
        exact ⟨_, hjoins, by rw [hcomma, hread]; exact ⟨hafter, vs', hall, hc⟩⟩

theorem map_eq_ok_iff {result : Except Json.Fault Request} {after : Input} :
    (result.map fun r => (r, tail)) = .ok (r, after) ↔ after = tail ∧ result = .ok r := by
  cases result with
  | error e => exact iff_of_false (fun h => by cases h) (fun h => by cases h.2)
  | ok r' =>
    constructor
    · intro h
      cases h
      exact ⟨rfl, rfl⟩
    · rintro ⟨rfl, h⟩
      cases h
      rfl

theorem members_of_quote (hi : skipBlanks i = mark '"' :: rest) :
    members i = member [] rest >>= fun t => laterMembers t.value t.rest := by
  rw [members, hi]
  simp only [show byteChar (mark '"') = '"' by decide, show ¬ ('"' = '}') by decide, if_false,
    if_true]
  cases member [] rest <;> rfl

theorem members_eq_ok_iff (h : ms = [] ∧ Blanks items ∨ Members ms items) {after : Input} :
    members (items ++ mark '}' :: tail) = .ok (r, after) ↔
      after = tail ∧ ∃ vs, JoinsAll [] ms vs ∧ vs.complete = .ok r := by
  rcases h with ⟨rfl, hblank⟩ | h
  · have hclose := skipBlanks_append hblank (isBlank_bracket .object).2 tail
    rw [members, show skipBlanks (items ++ mark '}' :: tail) = mark '}' :: tail from hclose]
    simp only [show byteChar (mark '}') = '}' by decide, if_true]
    rw [map_eq_ok_iff]
    refine and_congr_right fun _ => ⟨fun h => ⟨[], .nil, h⟩, ?_⟩
    rintro ⟨vs, hall, h⟩
    cases hall
    exact h
  · obtain ⟨more, hmore, hread⟩ := h.read tail
    rw [members_of_quote hmore, hread []]

theorem ofJson_of_open (hi : skipBlanks i = mark '{' :: rest) :
    ofJson i = members rest >>= fun t => expectEnd t.2 >>= fun _ => .ok t.1 := by
  rw [ofJson, hi]
  rfl

/-- An object is read exactly where its members join one another and leave no field without a
value. -/
theorem ofJson_eq_ok_iff (h : IsObject ms text) :
    ofJson text = .ok r ↔ ∃ vs, JoinsAll [] ms vs ∧ vs.complete = .ok r := by
  obtain ⟨front, inside, back, rfl, hfront, hback, hinside⟩ := h
  have hopen : skipBlanks (front ++ mark '{' :: (inside ++ mark '}' :: back)) =
      mark '{' :: (inside ++ mark '}' :: back) :=
    skipBlanks_append hfront (isBlank_bracket .object).1 _
  have hend : expectEnd back = .ok () := by
    have hall := skipBlanks_append_blanks hback []
    rw [List.append_nil] at hall
    rw [expectEnd, hall]
    rfl
  have hmembers : ∀ r after, members (inside ++ mark '}' :: back) = .ok (r, after) ↔
      after = back ∧ ∃ vs, JoinsAll [] ms vs ∧ vs.complete = .ok r := fun _ _ =>
    members_eq_ok_iff hinside
  rw [ofJson_of_open hopen]
  constructor
  · intro h
    obtain ⟨⟨r', after⟩, hread, h⟩ := exists_of_bind_eq_ok h
    obtain ⟨-, -, h⟩ := exists_of_bind_eq_ok h
    obtain rfl : r' = r := by injection h
    exact ((hmembers r' after).1 hread).2
  · intro h
    rw [(hmembers r back).2 ⟨rfl, h⟩]
    show (expectEnd back >>= fun _ => Except.ok r) = .ok r
    rw [hend]
    rfl

/-! ## What members give together -/

theorem get?_cons (vs : Values) (f g : Field) (s : String) :
    Values.get? ((f, s) :: vs) g = if f = g then some s else vs.get? g := by
  simp only [Values.get?, List.find?_cons, beq_eq_decide]
  by_cases h : f = g <;> simp [h]

theorem complete_eq_ok_iff : vs.complete = .ok r ↔ ∀ f, vs.get? f = some (r.get f) := by
  unfold Values.complete
  constructor
  · intro h f
    split at h
    · cases h
    · rename_i hnone
      have hsome := List.find?_eq_none.1 hnone f (by cases f <;> decide)
      obtain ⟨s, hs⟩ := Option.ne_none_iff_exists'.1 (by simpa using hsome)
      rw [← Except.ok.inj h, get_ofValues, hs]
      rfl
  · intro h
    have hnone : Field.all.find? (fun f => (vs.get? f).isNone) = none :=
      List.find?_eq_none.2 fun f _ => by simp [h f]
    rw [hnone]
    refine congrArg Except.ok ?_
    rw [← ofValues_get r]
    exact congrArg ofValues (funext fun f => by rw [h f]; rfl)

theorem Member.Gives.unique {f g : Field} (hf : m.Gives f) (hg : m.Gives g) : f = g := by
  obtain ⟨s, hs, -⟩ := id hf
  exact Option.some.inj (((gives_iff hs).1 hf).symm.trans ((gives_iff hs).1 hg))

theorem Joins.exists_name (h : Joins vs m vs') : ∃ s, Spells m.name s := by
  cases h with
  | field hf =>
    obtain ⟨s, hs, -⟩ := hf
    exact ⟨s, hs⟩
  | other hs => exact ⟨_, hs⟩

/-- One member changes the value of the field that it gives, which had none, and no other. -/
theorem Joins.get? (h : Joins vs m vs') (f : Field) :
    ¬ m.Gives f ∧ vs'.get? f = vs.get? f ∨
      m.Gives f ∧ vs.get? f = none ∧ ∃ s, m.IsText s ∧ vs'.get? f = some s := by
  cases h with
  | @field g s hg hn hv =>
    by_cases hf : m.Gives f
    · obtain rfl := hg.unique hf
      exact .inr ⟨hf, hn, s, hv, by rw [get?_cons, if_pos rfl]⟩
    · refine .inl ⟨hf, ?_⟩
      rw [get?_cons, if_neg]
      rintro rfl
      exact hf hg
  | other _ hf => exact .inl ⟨hf f, rfl⟩

/-- What members do that join one another: no two of them give the same field, none of them a field
that had a value, and the values behind them are those that they give and those that were there. -/
theorem JoinsAll.gives (h : JoinsAll vs ms vs') :
    (∀ m ∈ ms, ∃ s, Spells m.name s) ∧ ∀ f,
      (ms.Pairwise fun x y => x.Gives f → ¬ y.Gives f) ∧
      (vs.get? f ≠ none → ∀ m ∈ ms, ¬ m.Gives f) ∧
      ∀ s, vs'.get? f = some s ↔ vs.get? f = some s ∨ ∃ m ∈ ms, m.Gives f ∧ m.IsText s := by
  induction h with
  | nil => simp
  | @cons vs m mid ms vs' hjoins _ ih =>
    refine ⟨List.forall_mem_cons.2 ⟨hjoins.exists_name, ih.1⟩, fun f => ?_⟩
    obtain ⟨hpairwise, hnone, hvalue⟩ := ih.2 f
    rcases hjoins.get? f with ⟨hf, hmid⟩ | ⟨hf, hfree, t, ht, hmid⟩
    · refine ⟨List.pairwise_cons.2 ⟨fun _ _ h => absurd h hf, hpairwise⟩, fun h => ?_, fun s => ?_⟩
      · exact List.forall_mem_cons.2 ⟨hf, hnone (by rwa [hmid])⟩
      · rw [hvalue, hmid, List.exists_mem_cons_iff]
        simp only [hf, false_and, false_or]
    · have hrest := hnone (by rw [hmid]; exact Option.some_ne_none t)
      refine ⟨List.pairwise_cons.2 ⟨fun y hy _ => hrest y hy, hpairwise⟩,
        fun h => absurd hfree h, fun s => ?_⟩
      rw [hvalue, hmid, hfree, List.exists_mem_cons_iff, Option.some.injEq]
      constructor
      · rintro (rfl | ⟨y, hy, hgives, -⟩)
        · exact .inr (.inl ⟨hf, ht⟩)
        · exact absurd hgives (hrest y hy)
      · rintro (h | ⟨-, hs⟩ | h)
        · cases h
        · exact .inl (ht.unique hs)
        · exact .inr h

/-- Members of which no two give the same field, and no one a field that has a value already, join
one another where the values they give are strings. -/
theorem exists_joinsAll (hnames : ∀ m ∈ ms, ∃ s, Spells m.name s)
    (honce : ∀ f, ms.Pairwise fun x y => x.Gives f → ¬ y.Gives f)
    (hgiven : ∀ m ∈ ms, ∀ f, m.Gives f → vs.get? f = none ∧ ∃ s, m.IsText s) :
    ∃ vs', JoinsAll vs ms vs' := by
  induction ms generalizing vs with
  | nil => exact ⟨vs, .nil⟩
  | cons m ms ih =>
    obtain ⟨⟨name, hname⟩, hnames⟩ := List.forall_mem_cons.1 hnames
    obtain ⟨hm, hgiven⟩ := List.forall_mem_cons.1 hgiven
    have hjoins : ∃ mid, Joins vs m mid := by
      by_cases hf : ∃ f, m.Gives f
      · obtain ⟨f, hf⟩ := hf
        obtain ⟨hfree, s, hs⟩ := hm f hf
        exact ⟨_, .field hf hfree hs⟩
      · exact ⟨vs, .other hname (not_exists.1 hf)⟩
    obtain ⟨mid, hjoins⟩ := hjoins
    obtain ⟨vs', hall⟩ := ih hnames (fun f => (List.pairwise_cons.1 (honce f)).2) fun y hy f hf => by
      obtain ⟨hfree, hs⟩ := hgiven y hy f hf
      rcases hjoins.get? f with ⟨-, hmid⟩ | ⟨hgives, -⟩
      · exact ⟨hmid.trans hfree, hs⟩
      · exact absurd hf ((List.pairwise_cons.1 (honce f)).1 y hy hgives)
    exact ⟨vs', .cons hjoins hall⟩

/-- Whichever member gives a field has its value as a string. -/
theorem GivesEach.isText (h : GivesEach ms r) (hm : m ∈ ms) (hf : m.Gives f) :
    m.IsText (r.get f) := by
  obtain ⟨m', hm', hf', hs⟩ := h.value f
  have hsymm : Std.Symm fun x y : Member => x.Gives f → ¬ y.Gives f :=
    ⟨fun _ _ h hy hx => h hx hy⟩
  -- The member that is known to have the value is the only one to give the field.
  have hsame : m' = m := by
    by_contra hne
    exact (h.once f).forall hm' hm hne hf' hf
  exact hsame ▸ hs

/-- Members that join one another and leave no field without a value are those that give each
field once. -/
theorem givesEach_iff : GivesEach ms r ↔ ∃ vs, JoinsAll [] ms vs ∧ vs.complete = .ok r := by
  constructor
  · intro h
    obtain ⟨vs, hall⟩ : ∃ vs, JoinsAll [] ms vs := exists_joinsAll h.names h.once
      fun m hm f hf => ⟨rfl, r.get f, h.isText hm hf⟩
    refine ⟨vs, hall, complete_eq_ok_iff.2 fun f => ?_⟩
    exact ((hall.gives.2 f).2.2 _).2 (.inr (h.value f))
  · rintro ⟨vs, hall, hc⟩
    obtain ⟨hnames, hgives⟩ := hall.gives
    refine ⟨hnames, fun f => (hgives f).1, fun f => ?_⟩
    rcases ((hgives f).2.2 _).1 (complete_eq_ok_iff.1 hc f) with h | h
    · cases h
    · exact h

/-! ## Objects that are requests -/

/-- An object is a build request exactly if its names are texts and its members give every field
once and as a string, under whichever name and in whatever order, and then it is the request with
these values. An object that gives a field twice, or leaves one out, or gives one a value that is no
string, is refused. -/
theorem ofJson_object (h : IsObject ms text) :
    (∀ r, ofJson text = .ok r ↔ GivesEach ms r) ∧
    ∀ f, ((∃ x y, [x, y].Sublist ms ∧ x.Gives f ∧ y.Gives f) ∨ (∀ m ∈ ms, ¬ m.Gives f) ∨
        ∃ m ∈ ms, m.Gives f ∧ ¬ m.IsString) →
      ∃ fault, ofJson text = .error fault := by
  have hiff : ∀ r, ofJson text = .ok r ↔ GivesEach ms r := fun r => by
    rw [ofJson_eq_ok_iff h, givesEach_iff]
  refine ⟨hiff, fun f hf => ?_⟩
  cases hread : ofJson text with
  | error fault => exact ⟨fault, rfl⟩
  | ok r =>
    have hgives := (hiff r).1 hread
    obtain ⟨m', hm', hf', hs⟩ := hgives.value f
    rcases hf with ⟨x, y, hsub, hx, hy⟩ | hnone | ⟨m, hm, hm', hstring⟩
    · exact absurd hy (List.pairwise_iff_forall_sublist.1 (hgives.once f) hsub hx)
    · exact absurd hf' (hnone m' hm')
    · exact absurd (hgives.isText hm hm').isString hstring

/-! ### A body with everything that may stand in one -/

/-- A text between quotes. -/
def quoted (body : Input) : Input := mark '"' :: (body ++ [mark '"'])

/-- A member whose name and value are spelled by their own bytes. -/
def Member.plain (name value : String) : Member := ⟨Utf8.encode name, quoted (Utf8.encode value)⟩

/-- What stands between the quotes where the first character is written as a unit. -/
def unitFirst (digits : List Char) (rest : String) : Input :=
  mark '\\' :: (mark 'u' :: digits.map mark ++ Utf8.encode rest)

/-- Members with the same blanks wherever blanks may stand. -/
def spacedItems (gap : Input) : List Member → Input
  | [] => []
  | [m] =>
    gap ++ mark '"' :: (m.name ++ mark '"' :: (gap ++ [mark ':'])) ++ (gap ++ (m.value ++ gap))
  | m :: ms =>
    gap ++ mark '"' :: (m.name ++ mark '"' :: (gap ++ [mark ':'])) ++
      (gap ++ (m.value ++ (gap ++ mark ',' :: spacedItems gap ms)))

def spaced (gap : Input) (ms : List Member) : Input :=
  gap ++ mark '{' :: (spacedItems gap ms ++ mark '}' :: gap)

/-- Whether a member may stand in an object. -/
def Member.Stands (m : Member) : Prop := Body m.name ∧ Written .value m.value

theorem isObject_spaced (hg : Blanks gap) (hne : ms ≠ []) (hms : ∀ m ∈ ms, m.Stands) :
    IsObject ms (spaced gap ms) := by
  refine ⟨gap, spacedItems gap ms, gap, rfl, hg, hg, .inr ?_⟩
  induction ms with
  | nil => exact absurd rfl hne
  | cons m ms ih =>
    obtain ⟨⟨hname, hvalue⟩, hms⟩ := List.forall_mem_cons.1 hms
    have hlead := NameText.mk hg hname hg
    cases ms with
    | nil => exact .last hlead hg hvalue hg
    | cons m' ms => exact .more hlead hg hvalue hg (ih (List.cons_ne_nil m' ms) hms)

/-- Members that spell given names give each field once if these names do. -/
theorem givesEach_of_names {entries : List (Member × String)}
    (hs : ∀ x ∈ entries, Spells x.1.name x.2)
    (honce : ∀ f, entries.Pairwise fun x y =>
      Field.ofMember? x.2 = some f → Field.ofMember? y.2 ≠ some f)
    (hvalue : ∀ f, ∃ x ∈ entries, Field.ofMember? x.2 = some f ∧ x.1.IsText (r.get f)) :
    GivesEach (entries.map (·.1)) r where
  names m hm := by
    obtain ⟨x, hx, rfl⟩ := List.mem_map.1 hm
    exact ⟨x.2, hs x hx⟩
  once f := by
    rw [List.pairwise_map]
    refine (honce f).imp_of_mem fun hx hy h hfx hfy => ?_
    exact h ((gives_iff (hs _ hx)).1 hfx) ((gives_iff (hs _ hy)).1 hfy)
  value f := by
    obtain ⟨x, hx, hf, ht⟩ := hvalue f
    exact ⟨x.1, List.mem_map_of_mem hx, (gives_iff (hs x hx)).2 hf, ht⟩

theorem spells_plain (h : ∀ c ∈ s.toList, c ≠ '"' ∧ c ≠ '\\' ∧ 0x20 ≤ c.toNat) :
    Spells (Utf8.encode s) s :=
  .of_allPlain (allPlain_encode_iff.2 h)

theorem written_quoted {body : Input} (h : Spells body s) : Written .value (quoted body) :=
  .scalar (.string h.isBody)

theorem written_null : Written .value (['n', 'u', 'l', 'l'].map mark) :=
  .scalar (.word (by decide))

/-- The name of the address with its first letter as a unit, -/
theorem spells_url : Spells (unitFirst ['0', '0', '7', '5'] "rl") "url" := by
  have hhex : Hex (['0', '0', '7', '5'].map mark) 0x75 :=
    .mk (w := 0) (x := 0) (y := 7) (z := 5) rfl rfl rfl rfl
  exact .escaped (.unit hhex (.inl (by decide))) (spells_plain (s := "rl") (by simp))

/-- and so the name of the app. -/
theorem spells_app : Spells (unitFirst ['0', '0', '4', '5'] "xample App") "Example App" := by
  have hhex : Hex (['0', '0', '4', '5'].map mark) 0x45 :=
    .mk (w := 0) (x := 0) (y := 4) (z := 5) rfl rfl rfl rfl
  exact .escaped (.unit hhex (.inl (by decide))) (spells_plain (s := "xample App") (by simp))

/-- The members of a body, each with the name that it spells: some fields have their second names,
and one member is of no field. -/
def variegated : List (Member × String) :=
  [(.plain "projectId" "demo", "projectId"),
    (⟨unitFirst ['0', '0', '7', '5'] "rl", quoted (Utf8.encode "https://api.example.com")⟩, "url"),
    (⟨Utf8.encode "note", ['[', 'n', 'u', 'l', 'l', ']'].map mark⟩, "note"),
    (.plain "appEnv" "production", "appEnv"),
    (.plain "socket_project_token" "tok_abc123", "socket_project_token"),
    (⟨Utf8.encode "appName", quoted (unitFirst ['0', '0', '4', '5'] "xample App")⟩, "appName"),
    (.plain "style_url" "https://maps.example.com/style.json", "style_url"),
    (.plain "appPackageName" "com.example.app", "appPackageName")]

theorem spells_of_mem_variegated {x : Member × String} (hx : x ∈ variegated) :
    Spells x.1.name x.2 := by
  simp only [variegated, List.mem_cons, List.not_mem_nil, or_false] at hx
  rcases hx with rfl | rfl | rfl | rfl | rfl | rfl | rfl | rfl
  case inr.inl => exact spells_url
  all_goals exact spells_plain (by simp)

theorem written_of_mem_variegated {x : Member × String} (hx : x ∈ variegated) :
    Written .value x.1.value := by
  simp only [variegated, List.mem_cons, List.not_mem_nil, or_false] at hx
  rcases hx with rfl | rfl | rfl | rfl | rfl | rfl | rfl | rfl
  case inr.inr.inl =>
    have hitem : Written (.items .array) ([] ++ ([] ++ (['n', 'u', 'l', 'l'].map mark ++ []))) :=
      .last .element (by simp [Blanks]) written_null (by simp [Blanks])
    exact .nested hitem
  case inr.inr.inr.inr.inr.inl => exact written_quoted spells_app
  all_goals exact written_quoted (spells_plain (by simp))

theorem stands_of_mem_variegated : ∀ m ∈ variegated.map (·.1), m.Stands := by
  intro m hm
  obtain ⟨x, hx, rfl⟩ := List.mem_map.1 hm
  exact ⟨(spells_of_mem_variegated hx).isBody, written_of_mem_variegated hx⟩

theorem givesEach_variegated : GivesEach (variegated.map (·.1)) (sample "demo") := by
  refine givesEach_of_names (fun x hx => spells_of_mem_variegated hx) (fun f => ?_) fun f => ?_
  · have hnames : (variegated.map (·.2)).Pairwise fun x y =>
        Field.ofMember? x = some f → Field.ofMember? y ≠ some f := by
      cases f <;> decide
    exact List.pairwise_map.1 hnames
  · have htext : ∀ {name : Input} (s : String),
        (∀ c ∈ s.toList, c ≠ '"' ∧ c ≠ '\\' ∧ 0x20 ≤ c.toNat) →
        Member.IsText ⟨name, quoted (Utf8.encode s)⟩ s := fun _ h => ⟨_, spells_plain h, rfl⟩
    have hmem : ∀ {i : Nat} (hi : i < variegated.length), variegated[i] ∈ variegated := fun hi =>
      List.getElem_mem hi
    cases f with
    | url =>
      exact ⟨_, hmem (i := 1) (by decide), by decide, htext "https://api.example.com" (by simp)⟩
    | appEnv => exact ⟨_, hmem (i := 3) (by decide), by decide, htext "production" (by simp)⟩
    | projectToken => exact ⟨_, hmem (i := 4) (by decide), by decide, htext "tok_abc123" (by simp)⟩
    | projectId => exact ⟨_, hmem (i := 0) (by decide), by decide, htext "demo" (by simp)⟩
    | styleUrl =>
      exact ⟨_, hmem (i := 6) (by decide), by decide,
        htext "https://maps.example.com/style.json" (by simp)⟩
    | appName => exact ⟨_, hmem (i := 5) (by decide), by decide, _, spells_app, rfl⟩
    | packageName =>
      exact ⟨_, hmem (i := 7) (by decide), by decide, htext "com.example.app" (by simp)⟩

/-- A line break and two blanks. -/
def lineGap : Input := ['\n', ' ', ' '].map mark

/-- An address that is no string. -/
def nullAddress : Member := ⟨Utf8.encode "url", ['n', 'u', 'l', 'l'].map mark⟩

/-- A body whose members are in no special order, with escapes, blanks, names of both kinds and a
member of no field is a request. With its project given once more under the other name, or not at
all, or with an address that is no string, it is none. -/
theorem ofJson_variegated :
    ofJson (spaced lineGap (variegated.map (·.1))) = .ok (sample "demo") ∧
    (∃ fault, ofJson (spaced lineGap
      (.plain "socket_project_id" "demo" :: variegated.map (·.1))) = .error fault) ∧
    (∃ fault, ofJson (spaced lineGap (variegated.map (·.1)).tail) = .error fault) ∧
    ∃ fault, ofJson (spaced lineGap ((variegated.map (·.1)).set 1 nullAddress)) = .error fault := by
  have hgap : Blanks lineGap := List.all_eq_true.1 (by decide : lineGap.all isBlank = true)
  have hid : Spells (Utf8.encode "socket_project_id") "socket_project_id" := spells_plain (by simp)
  have hdemo : Spells (Utf8.encode "demo") "demo" := spells_plain (by simp)
  have hurl : Spells nullAddress.name "url" := spells_plain (by simp)
  have hfirst : Spells (Utf8.encode "projectId") "projectId" := spells_plain (by simp)
  refine ⟨?_, ?_, ?_, ?_⟩
  · have hobject := isObject_spaced hgap (by simp [variegated]) stands_of_mem_variegated
    exact ((ofJson_object hobject).1 _).2 givesEach_variegated
  · have hstands : (Member.plain "socket_project_id" "demo").Stands :=
      ⟨hid.isBody, written_quoted hdemo⟩
    have hobject := isObject_spaced hgap (List.cons_ne_nil _ _)
      (List.forall_mem_cons.2 ⟨hstands, stands_of_mem_variegated⟩)
    have hboth : [Member.plain "socket_project_id" "demo", .plain "projectId" "demo"].Sublist
        (.plain "socket_project_id" "demo" :: variegated.map (·.1)) :=
      (List.singleton_sublist.2 List.mem_cons_self).cons_cons _
    exact (ofJson_object hobject).2 .projectId (.inl ⟨_, _, hboth, (gives_iff hid).2 (by decide),
      (gives_iff hfirst).2 (by decide)⟩)
  · have hobject : IsObject (variegated.map (·.1)).tail _ :=
      isObject_spaced hgap (by simp [variegated]) fun m hm =>
        stands_of_mem_variegated m (List.mem_of_mem_tail hm)
    refine (ofJson_object hobject).2 .projectId (.inr (.inl fun m hm => ?_))
    rw [← List.map_tail] at hm
    obtain ⟨x, hx, rfl⟩ := List.mem_map.1 hm
    rw [gives_iff (spells_of_mem_variegated (List.mem_of_mem_tail hx))]
    have hnames : (variegated.tail.all fun x => Field.ofMember? x.2 != some .projectId) = true := by
      decide
    simpa using List.all_eq_true.1 hnames x hx
  · have hobject : IsObject ((variegated.map (·.1)).set 1 nullAddress) _ :=
      isObject_spaced hgap (by simp [variegated]) fun m hm => (List.mem_or_eq_of_mem_set hm).elim
        (stands_of_mem_variegated m) fun he => he ▸ ⟨hurl.isBody, written_null⟩
    refine (ofJson_object hobject).2 .url (.inr (.inr ⟨nullAddress,
      List.mem_set (by decide) nullAddress, (gives_iff hurl).2 (by decide), ?_⟩))
    rintro ⟨body, -, hvalue⟩
    exact absurd (List.cons.inj hvalue).1 (by decide)

end BuildService.Request
