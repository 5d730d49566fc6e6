import BuildService.Sample
import BuildService.Proofs.RequestBodies
/-!
Which requests are read back from a body that escapes nothing.

The plain body of a request writes every value between quotes just as it is
(`Request.plainJson`). A value may then break out of its string in many ways: a quote
ends it too soon, an escape stands for less than it takes, a backslash at the end
swallows the quote behind it, and whatever follows may be members that were never
meant. None of these gives the request back, and two numbers are enough to see it. A
string is never shorter than the bytes that it spells, and as long only if nothing in
it is escaped (`Spelling.eq_or_shorter`). And it has no more quotes than it spells, since
each of its quotes stands behind a backslash (`Spelling.count_quote_le`). So if the bytes
of a value spell themselves, the string cannot end before them and cannot go on behind
them (`allPlain_of_spelling`), whatever stands there.

What a member gives is never replaced by a later one, so a value that was read wrongly
stays wrong (`get_of_laterMembers`). Hence the fields can be taken one after the other:
as long as the request comes out, each of them is plain and has been read as it was.
-/

set_option autoImplicit false

namespace BuildService.Json

variable {body tail rest : Input} {bytes out : List UInt8} {s : String}

/-! ## What a string spells -/

theorem Hex.length {ds : Input} {n : Nat} (h : Hex ds n) : ds.length = 4 := by
  cases h
  rfl

theorem Hex.quote_not_mem {ds : Input} {n : Nat} (h : Hex ds n) : mark '"' ∉ ds := by
  have hquote : Text.hexValue? (byteChar (mark '"')) = none := by decide
  cases h with
  | mk ha hb hc hd =>
    intro hmem
    simp only [List.mem_cons, List.not_mem_nil, or_false] at hmem
    rcases hmem with rfl | rfl | rfl | rfl
    · rw [hquote] at ha
      cases ha
    · rw [hquote] at hb
      cases hb
    · rw [hquote] at hc
      cases hc
    · rw [hquote] at hd
      cases hd

/-- An escape, with its backslash, is longer than what it stands for. -/
theorem Escaped.length_lt {e : Input} (h : Escaped e out) : out.length < e.length + 1 := by
  have hchar : ∀ c : Char, (String.utf8EncodeChar c).length ≤ 4 := fun c => by
    rw [String.length_utf8EncodeChar]
    exact c.utf8Size_le_four
  cases h with
  | short => simp
  | unit hd =>
    refine Nat.lt_of_le_of_lt (hchar _) ?_
    simp only [List.length_cons, hd.length]
    omega
  | pair hd _ he =>
    refine Nat.lt_of_le_of_lt (hchar _) ?_
    simp only [List.length_cons, List.length_append, hd.length, he.length]
    omega

/-- A quote in an escape is what the escape stands for. -/
theorem Escaped.count_quote_le {e : Input} (h : Escaped e out) :
    e.count (mark '"') ≤ out.count (mark '"') := by
  -- No letter and no digit of a unit is a quote.
  have hunit : ∀ {ds : Input} {n : Nat}, Hex ds n → (mark 'u' :: ds).count (mark '"') = 0 := by
    intro ds n hd
    rw [List.count_cons_of_ne (by decide), List.count_eq_zero_of_not_mem hd.quote_not_mem]
  cases h with
  | @short c d hc =>
    have hall : (shortEscapes.all fun p =>
        decide ([mark p.1].count (mark '"') ≤ [mark p.2].count (mark '"'))) = true := by decide
    exact of_decide_eq_true (List.all_eq_true.1 hall (c, d) hc)
  | unit hd =>
    rw [hunit hd]
    exact Nat.zero_le _
  | pair hd _ he =>
    rw [← List.cons_append, List.count_append, hunit hd, List.count_cons_of_ne (by decide),
      hunit he]
    exact Nat.zero_le _

/-- A string spells itself, if nothing in it is escaped, and otherwise something shorter. -/
theorem Spelling.eq_or_shorter (h : Spelling body bytes) :
    (body = bytes ∧ AllPlain body) ∨ bytes.length < body.length := by
  induction h with
  | nil => exact .inl ⟨rfl, by simp [AllPlain]⟩
  | plain hb _ ih =>
    rcases ih with ⟨rfl, hplain⟩ | hlt
    · exact .inl ⟨rfl, List.forall_mem_cons.2 ⟨hb, hplain⟩⟩
    · exact .inr (Nat.succ_lt_succ hlt)
  | @escaped e out body bytes he _ ih =>
    have hlt := he.length_lt
    have hle : bytes.length ≤ body.length := by
      rcases ih with ⟨rfl, -⟩ | hlt
      · exact Nat.le_refl _
      · exact Nat.le_of_lt hlt
    refine .inr ?_
    simp only [List.length_cons, List.length_append]
    omega

/-- A string holds no more quotes than it spells. -/
theorem Spelling.count_quote_le (h : Spelling body bytes) :
    body.count (mark '"') ≤ bytes.count (mark '"') := by
  induction h with
  | nil => exact Nat.le_refl _
  | plain hb _ ih =>
    rw [List.count_cons_of_ne hb.1, List.count_cons_of_ne hb.1]
    exact ih
  | escaped he _ ih =>
    rw [List.count_cons_of_ne (by decide), List.count_append, List.count_append]
    exact Nat.add_le_add he.count_quote_le ih

/-- **Bytes in front of a quote that are what the string there spells are plain**, whatever
follows. -/
theorem allPlain_of_spelling (h : Spelling body bytes)
    (hcut : bytes ++ mark '"' :: rest = body ++ mark '"' :: tail) : AllPlain bytes := by
  rcases h.eq_or_shorter with ⟨rfl, hplain⟩ | hlt
  · exact hplain
  rcases List.append_eq_append_iff.1 hcut with ⟨more, rfl, hmore⟩ | ⟨more, rfl, -⟩
  · -- The string goes on behind the bytes, so it holds a quote more than they do.
    have hcount := h.count_quote_le
    cases more with
    | nil => simp at hlt
    | cons x more =>
      obtain rfl : mark '"' = x := (List.cons.inj hmore).1
      rw [List.count_append, List.count_cons_self] at hcount
      omega
  · rw [List.length_append] at hlt
    omega

/-- A text in front of a quote that is read as itself has plain bytes, and no others are read. -/
theorem allPlain_of_string {t : Taken UInt8 String (Utf8.encode s ++ mark '"' :: rest).length}
    (h : string (Utf8.encode s ++ mark '"' :: rest) = .ok t) (hs : t.value = s) :
    AllPlain (Utf8.encode s) ∧ t.rest = rest := by
  obtain ⟨body, hspells, hcut⟩ := exists_spells_of_string h
  rw [hs] at hspells
  have hplain := allPlain_of_spelling hspells hcut
  exact ⟨hplain, (body_unique (Spelling.of_allPlain hplain).isBody hspells.isBody hcut).2.symm⟩

end BuildService.Json

namespace BuildService.Request

open Json

variable {r : Request} {f : Field} {vs : Values} {i tail after : Input} {s : String}

/-! ## The text of a plain body -/

/-- A member from its name on, with its value between quotes as it is; `tail` stands behind it. -/
def plainMember (r : Request) (f : Field) (tail : Input) : Input :=
  Utf8.encode f.name ++ mark '"' :: mark ':' :: mark '"' ::
    (Utf8.encode (r.get f) ++ mark '"' :: tail)

/-- The members that follow another one, and the bracket that closes. -/
def plainMembers (r : Request) : List Field → Input
  | [] => [mark '}']
  | f :: fs => mark ',' :: mark '"' :: plainMember r f (plainMembers r fs)

theorem encode_intercalate (t : String) (ts : List String) :
    Utf8.encode (",".intercalate (t :: ts)) =
      Utf8.encode t ++ ts.flatMap fun t => mark ',' :: Utf8.encode t := by
  induction ts generalizing t with
  | nil => simp [String.intercalate_singleton]
  | cons u ts ih =>
    rw [String.intercalate_cons_cons, Utf8.encode_append, Utf8.encode_append, ih,
      show Utf8.encode "," = [mark ','] by decide, List.flatMap_cons]
    simp only [List.append_assoc, List.cons_append, List.nil_append]

theorem encode_plainJson (r : Request) :
    Utf8.encode r.plainJson =
      mark '{' :: mark '"' :: plainMember r .url (plainMembers r Field.all.tail) := by
  have hmembers : ∀ fs : List Field,
      (fs.map fun f => "\"" ++ f.name ++ "\":\"" ++ r.get f ++ "\"").flatMap
          (fun t => mark ',' :: Utf8.encode t) ++ [mark '}'] = plainMembers r fs := by
    intro fs
    induction fs with
    | nil => rfl
    | cons f fs ih =>
      rw [List.map_cons, List.flatMap_cons, plainMembers, plainMember, ← ih]
      simp only [Utf8.encode_append, show Utf8.encode "\"" = [mark '"'] by decide,
        show Utf8.encode "\":\"" = [mark '"', mark ':', mark '"'] by decide, List.append_assoc,
        List.cons_append, List.nil_append]
  rw [plainJson, Utf8.encode_append, Utf8.encode_append, Field.all, List.map_cons,
    encode_intercalate, List.tail_cons, ← hmembers, plainMember]
  simp only [Utf8.encode_append, show Utf8.encode "\"" = [mark '"'] by decide,
    show Utf8.encode "\x7b" = [mark '{'] by decide,
    show Utf8.encode "\x7d" = [mark '}'] by decide,
    show Utf8.encode "\":\"" = [mark '"', mark ':', mark '"'] by decide, List.append_assoc,
    List.cons_append, List.nil_append]

/-! ## A value once read stays -/

theorem get?_of_member {t : Taken UInt8 Values i.length} (h : member vs i = .ok t)
    (hf : vs.get? f = some s) : t.value.get? f = some s := by
  rw [member] at h
  split at h
  · cases h
  · rename_i name _
    split at h
    · rename_i g _
      split at h
      · cases h
      · rename_i hfree
        split at h
        · cases h
        · rename_i colon _
          cases hread : valueAt name.value colon.rest with
          | error e => rw [hread] at h; cases h
          | ok v =>
            rw [hread] at h
            cases h
            have hne : g ≠ f := fun hg => hfree (by rw [hg, hf]; rfl)
            rw [get?_cons, if_neg hne, hf]
    · split at h
      · cases h
      · rename_i colon _
        cases hread : skipValue colon.rest with
        | error e => rw [hread] at h; cases h
        | ok v =>
          rw [hread] at h
          cases h
          exact hf

theorem get_of_laterMembers (h : laterMembers vs i = .ok (r, after)) (hf : vs.get? f = some s) :
    r.get f = s := by
  fun_induction laterMembers vs i with
  | case2 vs i b rest hi hclose =>
    obtain ⟨-, hc⟩ := map_eq_ok_iff.1 h
    exact Option.some.inj ((complete_eq_ok_iff.1 hc f).symm.trans hf)
  | case5 vs i b rest hi _ _ c more hr _ t hread _ _ _ ih => exact ih h (get?_of_member hread hf)
  | _ => cases h

/-! ## Member by member -/

/-- The bytes of a name of a field spell it. -/
theorem spells_encode_name (f : Field) : Spells (Utf8.encode f.name) f.name := by
  have hplain : AllPlain (Utf8.encode f.name) := by
    rw [allPlain_encode_iff]
    cases f <;> simp [Field.name]
  exact .of_allPlain hplain

/-- After its name, a member is read as its value is. -/
theorem member_plainMember (hfree : vs.get? f = none) (tail : Input) :
    (member vs (plainMember r f tail) >>= fun t => laterMembers t.value t.rest) =
      (string (Utf8.encode (r.get f) ++ mark '"' :: tail)).mapError (faultAt f.name) >>= fun t =>
        laterMembers ((f, t.value) :: vs) t.rest := by
  have hnone : Blanks [] := by simp [Blanks]
  have hcolon : expectMark ':'
        (mark ':' :: mark '"' :: (Utf8.encode (r.get f) ++ mark '"' :: tail)) =
      .ok ⟨(), mark '"' :: (Utf8.encode (r.get f) ++ mark '"' :: tail), Nat.lt_succ_self _⟩ :=
    expectMark_of_blanks (by decide) (by decide) hnone rfl _
  rw [plainMember, member]
  simp only [string_of_spells (spells_encode_name f), ofMember?_eq_some_iff.2 (.inl rfl), hfree,
    Option.isSome_none, Bool.false_eq_true, if_false, hcolon]
  have hquote : skipBlanks (mark '"' :: (Utf8.encode (r.get f) ++ mark '"' :: tail)) =
      mark '"' :: (Utf8.encode (r.get f) ++ mark '"' :: tail) := rfl
  rw [valueAt, expectString]
  split <;> rename_i hcons <;> rw [hquote] at hcons <;> cases hcons
  rw [if_pos (by decide)]
  cases string (Utf8.encode (r.get f) ++ mark '"' :: tail) <;> rfl

/-- The request comes out of a member and of what follows it exactly if the value of the member is
plain, and so is read as it is. -/
theorem member_plainMember_iff (hfree : vs.get? f = none) :
    (member vs (plainMember r f tail) >>= fun t => laterMembers t.value t.rest) = .ok (r, after) ↔
      AllPlain (Utf8.encode (r.get f)) ∧
        laterMembers ((f, r.get f) :: vs) tail = .ok (r, after) := by
  rw [member_plainMember hfree]
  constructor
  · intro h
    obtain ⟨t, hread, hlater⟩ := exists_of_bind_eq_ok h
    have hstring : string (Utf8.encode (r.get f) ++ mark '"' :: tail) = .ok t := by
      cases hs : string (Utf8.encode (r.get f) ++ mark '"' :: tail) with
      | error e => rw [hs] at hread; cases hread
      | ok t' => rw [hs] at hread; exact hread
    -- Whatever comes behind it, the value that was read is the one in the request.
    have hvalue : r.get f = t.value :=
      get_of_laterMembers hlater (by rw [get?_cons, if_pos rfl])
    obtain ⟨hplain, hrest⟩ := allPlain_of_string hstring hvalue.symm
    rw [← hvalue, hrest] at hlater
    exact ⟨hplain, hlater⟩
  · rintro ⟨hplain, hlater⟩
    rw [string_of_spells (.of_allPlain hplain)]
    exact hlater

/-- The request comes out of the members of the fields in `fs` if these are plain and the others
have been read. -/
theorem laterMembers_plainMembers_iff {fs : List Field} (hnodup : fs.Nodup)
    (hvs : ∀ f, vs.get? f = if f ∈ fs then none else some (r.get f)) :
    laterMembers vs (plainMembers r fs) = .ok (r, after) ↔
      after = [] ∧ ∀ f ∈ fs, AllPlain (Utf8.encode (r.get f)) := by
  induction fs generalizing vs with
  | nil =>
    have hc : vs.complete = .ok r := complete_eq_ok_iff.2 fun f => by
      rw [hvs, if_neg List.not_mem_nil]
    have hclose : skipBlanks [mark '}'] = mark '}' :: [] := rfl
    rw [plainMembers, laterMembers_of_close hclose, map_eq_ok_iff]
    simp [hc]
  | cons f fs ih =>
    obtain ⟨hf, hnodup⟩ := List.nodup_cons.1 hnodup
    have hfree : vs.get? f = none := by rw [hvs, if_pos List.mem_cons_self]
    have hnext : ∀ g, Values.get? ((f, r.get f) :: vs) g =
        if g ∈ fs then none else some (r.get g) := by
      intro g
      rw [get?_cons, hvs]
      by_cases hg : f = g
      · rw [if_pos hg, ← hg, if_neg hf]
      · simp only [if_neg hg, List.mem_cons, or_iff_right (Ne.symm hg)]
    rw [plainMembers, laterMembers_of_comma rfl rfl, member_plainMember_iff hfree, ih hnodup hnext,
      List.forall_mem_cons]
    tauto

/-- The plain body is the request again exactly if all of its values are plain. -/
theorem ofJson_plainJson_eq_ok_iff :
    ofJson (Utf8.encode r.plainJson) = .ok r ↔ ∀ f, AllPlain (Utf8.encode (r.get f)) := by
  have hnodup : Field.all.tail.Nodup := by decide
  have hfirst : ∀ f, Values.get? [(.url, r.get .url)] f =
      if f ∈ Field.all.tail then none else some (r.get f) := fun f => by cases f <;> rfl
  have hfields : ∀ f : Field, f = .url ∨ f ∈ Field.all.tail := fun f => by cases f <;> decide
  have hmembers : ∀ after,
      members (mark '"' :: plainMember r .url (plainMembers r Field.all.tail)) = .ok (r, after) ↔
        after = [] ∧ ∀ f, AllPlain (Utf8.encode (r.get f)) := by
    intro after
    rw [members_of_quote rfl, member_plainMember_iff rfl,
      laterMembers_plainMembers_iff hnodup hfirst]
    constructor
    · rintro ⟨hurl, hafter, hothers⟩
      refine ⟨hafter, fun f => ?_⟩
      rcases hfields f with rfl | hf
      · exact hurl
      · exact hothers f hf
    · rintro ⟨hafter, hall⟩
      exact ⟨hall .url, hafter, fun f _ => hall f⟩
  rw [encode_plainJson, ofJson_of_open rfl]
  constructor
  · intro h
    obtain ⟨⟨r', after⟩, hread, h⟩ := exists_of_bind_eq_ok h
    obtain ⟨-, -, h⟩ := exists_of_bind_eq_ok h
    obtain rfl : r' = r := by injection h
    exact ((hmembers after).1 hread).2
  · intro h
    rw [(hmembers []).2 ⟨rfl, h⟩]
    rfl

/-! ## The round trip -/

/-- **A plain body is read back as its request exactly if no value holds a quote, a backslash or a
character below the blank.** From the body of any other request an error comes, or another request,
whatever its values put between the members. -/
theorem ofJson_plainJson (r : Request) :
    (ofJson (Utf8.encode r.plainJson) = .ok r ↔
      ∀ f, ∀ c ∈ (r.get f).toList, c ≠ '"' ∧ c ≠ '\\' ∧ 0x20 ≤ c.toNat) ∧
    ((∃ f, ∃ c ∈ (r.get f).toList, c = '"' ∨ c = '\\' ∨ c.toNat < 0x20) →
      (∃ fault, ofJson (Utf8.encode r.plainJson) = .error fault) ∨
        ∃ other, other ≠ r ∧ ofJson (Utf8.encode r.plainJson) = .ok other) := by
  have hiff : ofJson (Utf8.encode r.plainJson) = .ok r ↔
      ∀ f, ∀ c ∈ (r.get f).toList, c ≠ '"' ∧ c ≠ '\\' ∧ 0x20 ≤ c.toNat := by
    rw [ofJson_plainJson_eq_ok_iff]
    exact forall_congr' fun f => allPlain_encode_iff
  refine ⟨hiff, ?_⟩
  rintro ⟨f, c, hc, hbad⟩
  cases hread : ofJson (Utf8.encode r.plainJson) with
  | error fault => exact .inl ⟨fault, rfl⟩
  | ok other =>
    refine .inr ⟨other, ?_, rfl⟩
    rintro rfl
    obtain ⟨hq, hs, hlow⟩ := hiff.1 hread f c hc
    rcases hbad with rfl | rfl | hlt
    · exact hq rfl
    · exact hs rfl
    · exact absurd hlow (Nat.not_le.2 hlt)

/-- A package name that ends its string and adds a member of its own is cut there: the body is read
as another request. -/
theorem ofJson_plainJson_cut :
    ofJson (Utf8.encode (sample "demo").plainJson) = .ok (sample "demo") ∧
    ((∃ fault, ofJson (Utf8.encode
        ((sample "demo").setField .packageName "com.example\",\"more\":\"").plainJson) =
          .error fault) ∨
      ∃ other, other ≠ (sample "demo").setField .packageName "com.example\",\"more\":\"" ∧
        ofJson (Utf8.encode
          ((sample "demo").setField .packageName "com.example\",\"more\":\"").plainJson) =
            .ok other) :=
  ⟨(ofJson_plainJson (sample "demo")).1.2 fun f => by
      cases f <;> simp [Request.get, sample],
    (ofJson_plainJson _).2 ⟨.packageName, '"', by decide, .inl rfl⟩⟩

end BuildService.Request
