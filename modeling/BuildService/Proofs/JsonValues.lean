import BuildService.Proofs.JsonTexts
/-!
Values of JSON, and that any of them is read past.

A value nests through its items, so one grammar covers both: the values, and what stands
between two brackets (`Written`). The items of an object differ from those of an array in
what leads them, the name and a colon (`Lead`), and in nothing else.

The reader that skips keeps the open brackets in a list and never looks at the ones below
the last. Hence reading past a value leaves the list as it was, whatever it is
(`Written.passed`), and that is proved along the grammar.
-/

set_option autoImplicit false

namespace BuildService.Json

/-! ## The grammar -/

/-- A value that holds no other value. -/
inductive Scalar : Input → Prop
  | word {cs} (h : cs ∈ [['n', 'u', 'l', 'l'], ['t', 'r', 'u', 'e'], ['f', 'a', 'l', 's', 'e']]) :
      Scalar (cs.map mark)
  | number {i} (h : Numeral i) : Scalar i
  | negative {i} (h : Numeral i) : Scalar (mark '-' :: i)
  | string {body} (h : Body body) : Scalar (mark '"' :: (body ++ [mark '"']))

/-- The bracket that opens a frame. -/
def Frame.opening : Frame → Char
  | .array => '['
  | .object => '{'

/-- A name between its quotes, and the colon behind it. -/
inductive NameText (name : Input) : Input → Prop
  | mk {front back} (hf : Blanks front) (hn : Body name) (hb : Blanks back) :
      NameText name (front ++ mark '"' :: (name ++ mark '"' :: (back ++ [mark ':'])))

/-- What stands in front of the value of an item: nothing in an array, a name and a colon in an
object. -/
inductive Lead : Frame → Input → Prop
  | element : Lead .array []
  | member {name lead} (h : NameText name lead) : Lead .object lead

/-- What a text may be: a value, or the items between the brackets of a frame. -/
inductive Part where
  | value
  | items (frame : Frame)

inductive Written : Part → Input → Prop
  | scalar {i} (h : Scalar i) : Written .value i
  | empty (frame : Frame) {gap} (h : Blanks gap) :
      Written .value (mark frame.opening :: (gap ++ [mark frame.closing]))
  | nested {frame : Frame} {items} (h : Written (.items frame) items) :
      Written .value (mark frame.opening :: (items ++ [mark frame.closing]))
  | last {frame lead front value back} (hl : Lead frame lead) (hf : Blanks front)
      (hv : Written .value value) (hb : Blanks back) :
      Written (.items frame) (lead ++ (front ++ (value ++ back)))
  | more {frame lead front value back items} (hl : Lead frame lead) (hf : Blanks front)
      (hv : Written .value value) (hb : Blanks back) (h : Written (.items frame) items) :
      Written (.items frame) (lead ++ (front ++ (value ++ (back ++ mark ',' :: items))))

/-! ## Scalars -/

variable {i rest tail gap : Input} {b : UInt8} {size : Nat} {stack : List Frame} {frame : Frame}

theorem literal_map_mark (cs : List Char) (h : ∀ c ∈ cs, c.toNat < 0x80) (tail : Input) :
    ∃ hr, literal cs (cs.map mark ++ tail) = .ok ⟨tail, hr⟩ := by
  induction cs with
  | nil => exact ⟨Nat.le_refl _, rfl⟩
  | cons c cs ih =>
    obtain ⟨hc, hcs⟩ := List.forall_mem_cons.1 h
    obtain ⟨hr, hliteral⟩ := ih hcs
    refine ⟨Nat.le_succ_of_le hr, ?_⟩
    show literal (c :: cs) (mark c :: (cs.map mark ++ tail)) = _
    simp only [literal, byteChar_mark hc, if_true, hliteral]

/-- A byte that begins a value that is no array and no object. -/
structure BeginsScalar (b : UInt8) : Prop where
  blank : isBlank b = false
  bracket : byteChar b ∉ ['[', ']', '{', '}']

theorem byteChar_ne_of_isDigit (h : isDigit b = true) {c : Char} (hc : c.isDigit = false) :
    byteChar b ≠ c := by
  rintro rfl
  rw [isDigit, hc] at h
  cases h

theorem beginsScalar_of_isDigit (h : isDigit b = true) : BeginsScalar b := by
  have hne := fun {c : Char} => byteChar_ne_of_isDigit (c := c) h
  constructor
  · simp only [isBlank, Bool.or_eq_false_iff, beq_eq_false_iff_ne]
    exact ⟨⟨⟨hne rfl, hne rfl⟩, hne rfl⟩, hne rfl⟩
  · simp only [List.mem_cons, List.not_mem_nil, or_false, not_or]
    exact ⟨hne rfl, hne rfl, hne rfl, hne rfl⟩

theorem skipScalar_of_isDigit (h : isDigit b = true) :
    skipScalar b rest = (number .malformed (b :: rest)).map fun t => ⟨(), t.rest, t.shorter⟩ := by
  have hne := fun {c : Char} => byteChar_ne_of_isDigit (c := c) h
  unfold skipScalar
  rw [if_neg (hne rfl), if_neg (hne rfl), if_neg (hne rfl), if_neg (hne rfl), if_neg (hne rfl),
    if_pos h]

theorem Numeral.exists_cons (h : Numeral i) : ∃ d rest, i = d :: rest ∧ isDigit d = true := by
  cases h with
  | @mk whole _ _ hw =>
    cases whole with
    | nil => exact absurd rfl hw.1
    | cons d whole => exact ⟨d, _, rfl, hw.2 d List.mem_cons_self⟩

/-- A word is read if its first letter is the one by which the reader knows it. -/
theorem skipScalar_of_word (c : Char) (cs : List Char) (hcs : ∀ x ∈ cs, x.toNat < 0x80)
    (hread : ∀ rest, skipScalar (mark c) rest =
      (literal cs rest).map fun r => ⟨(), r.1, Nat.lt_succ_of_le r.2⟩) (tail : Input) :
    ∃ hr, skipScalar (mark c) (cs.map mark ++ tail) = .ok ⟨(), tail, hr⟩ := by
  obtain ⟨hr, hliteral⟩ := literal_map_mark cs hcs tail
  refine ⟨Nat.lt_succ_of_le hr, ?_⟩
  rw [hread, hliteral]
  rfl

theorem skipScalar_of_scalar (h : Scalar i) (ht : Delimited tail) : ∃ b rest,
    i ++ tail = b :: rest ∧ BeginsScalar b ∧ ∃ hr, skipScalar b rest = .ok ⟨(), tail, hr⟩ := by
  cases h with
  | word h =>
    simp only [List.mem_cons, List.not_mem_nil, or_false] at h
    rcases h with rfl | rfl | rfl
    · refine ⟨mark 'n', _, rfl, ⟨by decide, by decide⟩,
        skipScalar_of_word 'n' ['u', 'l', 'l'] (by simp) (fun rest => ?_) tail⟩
      unfold skipScalar
      exact if_pos (by decide)
    · refine ⟨mark 't', _, rfl, ⟨by decide, by decide⟩,
        skipScalar_of_word 't' ['r', 'u', 'e'] (by simp) (fun rest => ?_) tail⟩
      unfold skipScalar
      rw [if_neg (by decide), if_pos (by decide)]
    · refine ⟨mark 'f', _, rfl, ⟨by decide, by decide⟩,
        skipScalar_of_word 'f' ['a', 'l', 's', 'e'] (by simp) (fun rest => ?_) tail⟩
      unfold skipScalar
      rw [if_neg (by decide), if_neg (by decide), if_pos (by decide)]
  | number h =>
    obtain ⟨d, rest, rfl, hd⟩ := h.exists_cons
    obtain ⟨value, hr, hnumber⟩ := number_of_numeral .malformed h ht rfl
    refine ⟨d, rest ++ tail, rfl, beginsScalar_of_isDigit hd, hr, ?_⟩
    rw [skipScalar_of_isDigit hd, show number .malformed (d :: (rest ++ tail)) = _ from hnumber]
    rfl
  | negative h =>
    obtain ⟨d, rest, rfl, hd⟩ := h.exists_cons
    obtain ⟨value, hr, hnumber⟩ := number_of_numeral .malformed h ht rfl
    refine ⟨mark '-', d :: (rest ++ tail), rfl, ⟨by decide, by decide⟩, Nat.lt_succ_of_lt hr, ?_⟩
    unfold skipScalar
    rw [if_neg (by decide), if_neg (by decide), if_neg (by decide), if_neg (by decide),
      if_pos (by decide)]
    simp only [show number .malformed (d :: (rest ++ tail)) = _ from hnumber]
    rfl
  | @string body h =>
    refine ⟨mark '"', body ++ mark '"' :: tail, by simp, ⟨by decide, by decide⟩,
      Nat.lt_succ_of_lt (length_lt_cut body tail), ?_⟩
    unfold skipScalar
    rw [if_neg (by decide), if_neg (by decide), if_neg (by decide), if_pos (by decide),
      skipString_of_body h]
    rfl

/-! ## Steps of the reader that skips -/

/-- What an item of a frame begins with. -/
def Frame.await : Frame → Await
  | .array => .value
  | .object => .key

section Steps

variable {i rest tail : Input} {b : UInt8} {size : Nat} {stack : List Frame} {frame : Frame}

theorem skipFrom_done (h : tail.length + Await.next.behind ≤ size) :
    skipFrom size .next [] tail h = .ok ⟨(), tail, h⟩ := by
  rw [skipFrom]

theorem skipFrom_open {h : i.length + Await.value.behind ≤ size}
    (hi : skipBlanks i = mark frame.opening :: rest)
    (h' : rest.length + Await.first.behind ≤ size) :
    skipFrom size .value stack i h = skipFrom size .first (frame :: stack) rest h' := by
  rw [skipFrom]
  split <;> rename_i hcons <;> rw [hi] at hcons <;> cases hcons
  cases frame <;> rfl

theorem skipFrom_scalar {h : i.length + Await.value.behind ≤ size} {hr : tail.length < rest.length + 1}
    (hi : skipBlanks i = b :: rest) (hb : BeginsScalar b)
    (hs : skipScalar b rest = .ok ⟨(), tail, hr⟩) (h' : tail.length + Await.next.behind ≤ size) :
    skipFrom size .value stack i h = skipFrom size .next stack tail h' := by
  have hopen := hb.bracket
  simp only [List.mem_cons, List.not_mem_nil, or_false, not_or] at hopen
  rw [skipFrom]
  split <;> rename_i hcons <;> rw [hi] at hcons <;> cases hcons
  simp only [hopen.1, hopen.2.2.1, if_false, hs]

theorem skipFrom_key {h : i.length + Await.key.behind ≤ size} {t : Taken UInt8 Unit i.length}
    (ht : skipKey i = .ok t) (h' : t.rest.length + Await.value.behind ≤ size) :
    skipFrom size .key stack i h = skipFrom size .value stack t.rest h' := by
  conv_lhs => rw [skipFrom]
  simp only [ht]

theorem skipFrom_first_close {h : i.length + Await.first.behind ≤ size}
    (hi : skipBlanks i = mark frame.closing :: rest) (h' : rest.length + Await.next.behind ≤ size) :
    skipFrom size .first (frame :: stack) i h = skipFrom size .next stack rest h' := by
  have hclosing : byteChar (mark frame.closing) = frame.closing := by cases frame <;> decide
  rw [skipFrom]
  split <;> rename_i hcons <;> rw [hi] at hcons <;> cases hcons
  simp only [hclosing, if_true]

theorem skipFrom_first_item {h : i.length + Await.first.behind ≤ size}
    (hi : skipBlanks i = b :: rest) (hb : byteChar b ≠ frame.closing)
    (h' : (b :: rest).length + frame.await.behind ≤ size) :
    skipFrom size .first (frame :: stack) i h =
      skipFrom size frame.await (frame :: stack) (b :: rest) h' := by
  rw [skipFrom]
  split <;> rename_i hcons <;> rw [hi] at hcons <;> cases hcons
  simp only [hb, if_false]
  cases frame <;> rfl

theorem skipFrom_close {h : i.length + Await.next.behind ≤ size}
    (hi : skipBlanks i = mark frame.closing :: rest) (h' : rest.length + Await.next.behind ≤ size) :
    skipFrom size .next (frame :: stack) i h = skipFrom size .next stack rest h' := by
  have hclosing : byteChar (mark frame.closing) = frame.closing := by cases frame <;> decide
  rw [skipFrom]
  split <;> rename_i hcons <;> rw [hi] at hcons <;> cases hcons
  simp only [hclosing, if_true]

theorem skipFrom_comma {h : i.length + Await.next.behind ≤ size}
    (hi : skipBlanks i = mark ',' :: rest) (h' : rest.length + frame.await.behind ≤ size) :
    skipFrom size .next (frame :: stack) i h =
      skipFrom size frame.await (frame :: stack) rest h' := by
  have hcomma : byteChar (mark ',') = ',' := by decide
  have hclosing : ',' ≠ frame.closing := by cases frame <;> decide
  rw [skipFrom]
  split <;> rename_i hcons <;> rw [hi] at hcons <;> cases hcons
  simp only [hcomma, hclosing, if_false, if_true]
  cases frame <;> rfl

end Steps

/-! ## Whole values -/

theorem isBlank_of_skipBlanks (hi : skipBlanks i = b :: rest) : isBlank b = false := by
  have hhead : b ∈ (i.dropWhile isBlank).head? := by
    rw [show i.dropWhile isBlank = b :: rest from hi]
    rfl
  exact eq_false_of_head?_dropWhile hhead

theorem skipBlanks_of_head (hb : isBlank b = false) (rest : Input) :
    skipBlanks (b :: rest) = b :: rest :=
  skipBlanks_append (show Blanks [] by simp [Blanks]) hb rest

theorem skipBlanks_append_blanks (h : Blanks gap) (i : Input) :
    skipBlanks (gap ++ i) = skipBlanks i := by
  rw [skipBlanks, List.dropWhile_append_of_pos h, skipBlanks]

theorem delimited_append (h : Blanks gap) (ht : Delimited tail) : Delimited (gap ++ tail) := by
  cases gap with
  | nil => exact ht
  | cons b gap =>
    intro c hc
    obtain rfl : b = c := Option.some.inj hc
    exact .inl (h b List.mem_cons_self)

theorem delimited_comma (i : Input) : Delimited (mark ',' :: i) := by
  intro b hb
  obtain rfl : mark ',' = b := Option.some.inj hb
  exact .inr (.inl rfl)

theorem delimited_closing (frame : Frame) (i : Input) : Delimited (mark frame.closing :: i) := by
  intro b hb
  obtain rfl : mark frame.closing = b := Option.some.inj hb
  cases frame
  · exact .inr (.inr (.inl rfl))
  · exact .inr (.inr (.inr rfl))

theorem isBlank_bracket (frame : Frame) :
    isBlank (mark frame.opening) = false ∧ isBlank (mark frame.closing) = false := by
  cases frame <;> decide

/-- A value begins with a byte that is neither a blank nor a bracket that closes. -/
theorem Written.exists_cons {part : Part} (h : Written part i) (hp : part = .value) :
    ∃ b rest, i = b :: rest ∧ isBlank b = false ∧ byteChar b ≠ ']' ∧ byteChar b ≠ '}' := by
  have hopening : ∀ frame : Frame, isBlank (mark frame.opening) = false ∧
      byteChar (mark frame.opening) ≠ ']' ∧ byteChar (mark frame.opening) ≠ '}' := by
    rintro (_ | _) <;> decide
  cases h with
  | scalar h =>
    obtain ⟨b, rest, hi, hb, -⟩ := skipScalar_of_scalar h (show Delimited [] by simp [Delimited])
    rw [List.append_nil] at hi
    have hbracket := hb.bracket
    simp only [List.mem_cons, List.not_mem_nil, or_false, not_or] at hbracket
    exact ⟨b, rest, hi, hb.blank, hbracket.2.1, hbracket.2.2.2⟩
  | empty frame => exact ⟨_, _, rfl, hopening frame⟩
  | nested => exact ⟨_, _, rfl, hopening _⟩
  | last => cases hp
  | more => cases hp

/-- The name of a member and its colon. -/
theorem skipKey_of_body {name back : Input} (hn : Body name) (hb : Blanks back)
    (hi : skipBlanks i = mark '"' :: (name ++ mark '"' :: (back ++ mark ':' :: rest))) :
    ∃ hr, skipKey i = .ok ⟨(), rest, hr⟩ := by
  have hquote : byteChar (mark '"') = '"' := by decide
  have hcolon : byteChar (mark ':') = ':' := by decide
  have hgap := skipBlanks_append hb (show isBlank (mark ':') = false by decide) rest
  refine ⟨?_, ?_⟩
  · have hlen := length_skipBlanks_le i
    rw [hi] at hlen
    simp only [List.length_cons, List.length_append] at hlen
    omega
  · rw [skipKey]
    split <;> rename_i hcons <;> rw [hi] at hcons <;> cases hcons
    simp only [hquote, if_true, skipString_of_body hn]
    split <;> rename_i hcons <;> rw [hgap] at hcons <;> cases hcons
    simp only [hcolon, if_true]

/-- What leads an item is passed, and then its value is awaited. -/
theorem Lead.passed {lead k : Input} (hl : Lead frame lead)
    (hi : skipBlanks i = skipBlanks (lead ++ k)) (h : i.length + frame.await.behind ≤ size) :
    ∃ j h', skipFrom size frame.await stack i h = skipFrom size .value stack j h' ∧
      skipBlanks j = skipBlanks k := by
  cases hl with
  | element => exact ⟨i, h, rfl, hi⟩
  | member hn =>
    obtain ⟨hf, hn, hb⟩ := hn
    rw [List.append_assoc, skipBlanks_append_blanks hf, List.cons_append,
      skipBlanks_of_head (by decide), List.append_assoc, List.cons_append, List.append_assoc,
      List.singleton_append] at hi
    obtain ⟨hr, hkey⟩ := skipKey_of_body hn hb hi
    have hbound : k.length + Await.value.behind ≤ size := by
      have hlen : i.length + 1 ≤ size := h
      show k.length + 0 ≤ size
      omega
    exact ⟨k, hbound, skipFrom_key hkey hbound, rfl⟩

/-- The first item begins with something else than the bracket that closes. -/
theorem Written.items_head {part : Part} (h : Written part i) (hp : part = .items frame)
    (tail : Input) : ∃ b rest, skipBlanks (i ++ tail) = b :: rest ∧ byteChar b ≠ frame.closing := by
  have hitem : ∀ {lead front value : Input} (more : Input), Lead frame lead → Blanks front →
      Written .value value → ∃ b rest,
        skipBlanks (lead ++ (front ++ (value ++ more))) = b :: rest ∧
          byteChar b ≠ frame.closing := by
    intro lead front value more hl hf hv
    cases hl with
    | element =>
      obtain ⟨b, rest, rfl, hblank, hb, -⟩ := hv.exists_cons rfl
      exact ⟨b, rest ++ more, by
        rw [List.nil_append, skipBlanks_append_blanks hf, List.cons_append,
          skipBlanks_of_head hblank], hb⟩
    | member hn =>
      obtain ⟨hf', -, -⟩ := hn
      exact ⟨mark '"', _, by
        rw [List.append_assoc, skipBlanks_append_blanks hf', List.cons_append,
          skipBlanks_of_head (by decide)], by decide⟩
  cases h with
  | scalar => cases hp
  | empty => cases hp
  | nested => cases hp
  | last hl hf hv hb =>
    cases hp
    simp only [List.append_assoc]
    exact hitem _ hl hf hv
  | more hl hf hv hb h =>
    cases hp
    simp only [List.append_assoc]
    exact hitem _ hl hf hv

/-- What it is to read past a part: the brackets that are open stay as they were. -/
def Passed (size : Nat) : Part → Input → Prop
  | .value, i => ∀ (stack : List Frame) (j tail : Input) (h) (h'), Delimited tail →
      skipBlanks j = i ++ tail →
        skipFrom size .value stack j h = skipFrom size .next stack tail h'
  | .items frame, i => ∀ (stack : List Frame) (j tail : Input) (h) (h'),
      skipBlanks j = skipBlanks (i ++ mark frame.closing :: tail) →
        skipFrom size frame.await (frame :: stack) j h = skipFrom size .next stack tail h'

/-- Blanks in front of a value are all that is dropped. -/
theorem Written.skipBlanks_value {front value : Input} (h : Written .value value)
    (hf : Blanks front) (tail : Input) :
    skipBlanks (front ++ (value ++ tail)) = value ++ tail := by
  obtain ⟨b, rest, rfl, hblank, -⟩ := h.exists_cons rfl
  exact skipBlanks_append hf hblank _

theorem length_le_of_skipBlanks {j k : Input} (h : skipBlanks j = k) (hj : j.length ≤ size) :
    k.length ≤ size := by
  have hlen := length_skipBlanks_le j
  rw [h] at hlen
  omega

/-- Something is left to do behind a value. -/
theorem Written.length_lt_of_skipBlanks {value j : Input} (h : Written .value value)
    (hi : skipBlanks j = value ++ tail) (hj : j.length ≤ size) : tail.length < size := by
  obtain ⟨b, rest, rfl, -⟩ := h.exists_cons rfl
  exact Nat.lt_of_lt_of_le (length_lt_append (List.cons_ne_nil b rest) tail)
    (length_le_of_skipBlanks hi hj)

theorem Frame.behind_await_le (frame : Frame) : frame.await.behind ≤ 1 := by
  cases frame <;> decide

/-- **Every value is read past, however deep it is nested.** -/
theorem Written.passed {part : Part} (h : Written part i) (size : Nat) : Passed size part i := by
  induction h with
  | scalar h =>
    intro stack j tail hj htail ht hi
    obtain ⟨b, rest, hb, hbegins, hr, hskip⟩ := skipScalar_of_scalar h ht
    exact skipFrom_scalar (hi.trans hb) hbegins hskip htail
  | @empty frame gap hgap =>
    intro stack j tail hj htail ht hi
    rw [List.cons_append, List.append_assoc, List.singleton_append] at hi
    have hinner : (gap ++ mark frame.closing :: tail).length + Await.first.behind ≤ size :=
      length_le_of_skipBlanks hi hj
    rw [skipFrom_open hi hinner,
      skipFrom_first_close (skipBlanks_append hgap (isBlank_bracket frame).2 _) htail]
  | @nested frame items h ih =>
    intro stack j tail hj htail ht hi
    rw [List.cons_append, List.append_assoc, List.singleton_append] at hi
    have hinner : (items ++ mark frame.closing :: tail).length + Await.first.behind ≤ size :=
      length_le_of_skipBlanks hi hj
    obtain ⟨b, rest, hfirst, hb⟩ := h.items_head rfl (mark frame.closing :: tail)
    have hitems : (b :: rest).length + frame.await.behind ≤ size := by
      have hle := length_skipBlanks_le (items ++ mark frame.closing :: tail)
      rw [hfirst] at hle
      exact (Nat.add_le_add hle frame.behind_await_le).trans hinner
    rw [skipFrom_open hi hinner, skipFrom_first_item hfirst hb hitems]
    exact ih stack _ tail hitems htail
      ((skipBlanks_of_head (isBlank_of_skipBlanks hfirst) rest).trans hfirst.symm)
  | @last frame lead front value back hl hf hv hb ihv =>
    intro stack j tail hj htail hi
    simp only [List.append_assoc] at hi
    obtain ⟨k, hk, hpassed, hrest⟩ := hl.passed hi hj
    rw [hv.skipBlanks_value hf] at hrest
    have hafter : (back ++ mark frame.closing :: tail).length + Await.next.behind ≤ size :=
      hv.length_lt_of_skipBlanks hrest hk
    rw [hpassed, ihv (frame :: stack) k _ hk hafter
      (delimited_append hb (delimited_closing frame tail)) hrest,
      skipFrom_close (skipBlanks_append hb (isBlank_bracket frame).2 _) htail]
  | @more frame lead front value back items hl hf hv hb h ihv ih =>
    intro stack j tail hj htail hi
    simp only [List.append_assoc, List.cons_append] at hi
    obtain ⟨k, hk, hpassed, hrest⟩ := hl.passed hi hj
    rw [hv.skipBlanks_value hf] at hrest
    have hafter : (back ++ mark ',' :: (items ++ mark frame.closing :: tail)).length +
        Await.next.behind ≤ size := hv.length_lt_of_skipBlanks hrest hk
    have hitems : (items ++ mark frame.closing :: tail).length + frame.await.behind ≤ size := by
      have hbehind := frame.behind_await_le
      have hnext : Await.next.behind = 1 := rfl
      simp only [List.length_append, List.length_cons, hnext] at hafter ⊢
      omega
    rw [hpassed, ihv (frame :: stack) k _ hk hafter
      (delimited_append hb (delimited_comma _)) hrest,
      skipFrom_comma (skipBlanks_append hb (by decide) _) hitems]
    exact ih stack _ tail hitems htail rfl

/-- A value that nobody asks for is read past, up to where it ends. -/
theorem skipValue_of_written {front value : Input} (h : Written .value value) (hf : Blanks front)
    (ht : Delimited tail) (hi : i = front ++ (value ++ tail)) (hr : tail.length < i.length) :
    skipValue i = .ok ⟨(), tail, hr⟩ := by
  subst hi
  have hpassed := h.passed _ [] _ tail (Nat.le_refl _) hr ht (h.skipBlanks_value hf tail)
  exact hpassed.trans (skipFrom_done hr)

end BuildService.Json
