import BuildService.Output
import BuildService.Proofs.AsciiCuts
import Mathlib.Data.List.DropRight
/-!
The lines of an output are a function of its text.

The reader cuts bytes at newlines, strips carriage returns as bytes, and decodes
each line on its own. One may as well decode the whole output first, cut the text
at its newlines and strip carriage returns as characters (`lines_eq`). Both cuts
are one definition, `pieces`, and every fact about them is an induction over the
pieces (`pieces_induction`): nothing is left, something is left that has no end,
or there is one more piece with an end.

`normalise` is the text that comes out. Its pieces are those that went in without
the carriage returns at their ends, so no line is lost, split or merged
(`pieces_normalise`), and a text that has this form already is not changed.
-/

set_option autoImplicit false

namespace BuildService.Output

/-! ## Pieces -/

section

variable {α : Type} [DecidableEq α] {mark : α} {xs front rest : List α}

/-- The pieces of a list that its marks end; behind the last mark there is a piece too, unless it is
empty. -/
def pieces (mark : α) (xs : List α) : List (List α) :=
  let parts := xs.splitOn mark
  if parts.getLast? = some [] then parts.dropLast else parts

@[simp] theorem pieces_nil : pieces mark ([] : List α) = [] := by simp [pieces]

/-- A piece that no mark ends. -/
theorem pieces_of_not_mem (hne : xs ≠ []) (h : mark ∉ xs) : pieces mark xs = [xs] := by
  simp [pieces, List.splitOn_eq_singleton h, hne]

/-- A piece that a mark ends. -/
theorem pieces_append_cons (h : mark ∉ front) :
    pieces mark (front ++ mark :: rest) = front :: pieces mark rest := by
  obtain ⟨part, parts, hparts⟩ := List.exists_cons_of_ne_nil (List.splitOn_ne_nil mark rest)
  simp only [pieces, List.splitOn_append_cons_self_of_not_mem h, hparts, List.getLast?_cons_cons,
    List.dropLast_cons_cons]
  split <;> rfl

/-- **Induction over the pieces.** -/
theorem pieces_induction (mark : α) {P : List α → Prop} (nil : P [])
    (last : ∀ xs, xs ≠ [] → mark ∉ xs → P xs)
    (cons : ∀ front rest, mark ∉ front → P rest → P (front ++ mark :: rest)) (xs : List α) :
    P xs := by
  induction hn : xs.length using Nat.strongRecOn generalizing xs with
  | ind n ih =>
    by_cases hmark : mark ∈ xs
    · obtain ⟨front, rest, rfl, hfront⟩ := List.eq_append_cons_of_mem hmark
      refine cons front rest hfront (ih rest.length ?_ rest rfl)
      rw [← hn, List.length_append, List.length_cons]
      omega
    · by_cases hne : xs = []
      · exact hne ▸ nil
      · exact last xs hne hmark

theorem not_mem_of_mem_pieces {piece : List α} (h : piece ∈ pieces mark xs) : mark ∉ piece := by
  induction xs using pieces_induction mark with
  | nil => simp at h
  | last xs hne hmark =>
    rw [pieces_of_not_mem hne hmark, List.mem_singleton] at h
    rwa [h]
  | cons front rest hfront ih =>
    rw [pieces_append_cons hfront, List.mem_cons] at h
    rcases h with rfl | h
    · exact hfront
    · exact ih h

/-- Pieces with marks behind them come apart as they were put together. -/
theorem pieces_flatMap {ls : List (List α)} (h : ∀ l ∈ ls, mark ∉ l) :
    pieces mark (ls.flatMap (· ++ [mark])) = ls := by
  induction ls with
  | nil => simp
  | cons l ls ih =>
    rw [List.forall_mem_cons] at h
    rw [List.flatMap_cons, List.append_assoc, List.singleton_append, pieces_append_cons h.1,
      ih h.2]

/-- Behind a mark something new begins. -/
theorem pieces_append (h : ∀ x, front.getLast? = some x → x = mark) :
    pieces mark (front ++ rest) = pieces mark front ++ pieces mark rest := by
  induction front using pieces_induction mark with
  | nil => simp
  | last xs hne hmark =>
    -- A piece that is not empty and that no mark ends does not end in a mark.
    obtain ⟨init, x, rfl⟩ := (List.eq_nil_or_concat' xs).resolve_left hne
    rw [h x (by simp)] at hmark
    simp at hmark
  | cons front tail hfront ih =>
    have htail : ∀ x, tail.getLast? = some x → x = mark := by
      intro x hx
      refine h x ?_
      rw [List.getLast?_append, List.getLast?_cons, hx]
      rfl
    rw [List.append_assoc, List.cons_append, pieces_append_cons hfront, pieces_append_cons hfront,
      ih htail, List.cons_append]

end

/-! ## The reader -/

namespace Reader

variable {r : Reader} {bytes : List UInt8}

/-- What was read before is not looked at. -/
theorem foldl_step (done : List String) (r : Reader) (bytes : List UInt8) :
    bytes.foldl step (done, r) =
      ((bytes.foldl step ([], r)).1 ++ done, (bytes.foldl step ([], r)).2) := by
  induction bytes generalizing done r with
  | nil => rfl
  | cons b bytes ih =>
    simp only [List.foldl_cons, step]
    split
    · rw [ih (_ :: done), ih [_]]
      simp
    · exact ih done _

/-- **Where the bytes are cut does not matter.** -/
theorem feed_append (r : Reader) (front rest : List UInt8) :
    r.feed (front ++ rest) =
      ((r.feed front).1 ++ ((r.feed front).2.feed rest).1, ((r.feed front).2.feed rest).2) := by
  simp only [feed, List.foldl_append]
  rw [foldl_step]
  simp

theorem feed_of_not_mem (r : Reader) (h : 0x0A ∉ bytes) :
    r.feed bytes = ([], ⟨bytes.reverse ++ r.pending⟩) := by
  induction bytes generalizing r with
  | nil => rfl
  | cons b bytes ih =>
    rw [List.mem_cons, not_or] at h
    have hb : r.feed [b] = ([], ⟨b :: r.pending⟩) := by
      simp [feed, step, Ne.symm h.1]
    rw [← List.singleton_append, feed_append, hb, ih _ h.2]
    simp

theorem feed_newline (r : Reader) :
    r.feed [0x0A] = ([lineText r.pending.reverse], start) := rfl

end Reader

@[simp] theorem lines_nil : lines [] = [] := rfl

theorem lines_of_not_mem {bytes : List UInt8} (hne : bytes ≠ []) (h : 0x0A ∉ bytes) :
    lines bytes = [lineText bytes] := by
  simp [lines, Reader.feed_of_not_mem _ h, Reader.start, Reader.finish, hne]

theorem lines_append_cons {front rest : List UInt8} (h : 0x0A ∉ front) :
    lines (front ++ 0x0A :: rest) = lineText front :: lines rest := by
  rw [lines, ← List.singleton_append (l := rest), Reader.feed_append, Reader.feed_of_not_mem _ h,
    Reader.feed_append, Reader.feed_newline]
  simp [lines, Reader.start]

/-- The reader decodes the pieces between newlines. -/
theorem lines_eq_map_pieces (bytes : List UInt8) :
    lines bytes = (pieces 0x0A bytes).map lineText := by
  induction bytes using pieces_induction (0x0A : UInt8) with
  | nil => simp
  | last bytes hne h => rw [lines_of_not_mem hne h, pieces_of_not_mem hne h, List.map_singleton]
  | cons front rest h ih => rw [lines_append_cons h, pieces_append_cons h, ih, List.map_cons]

/-! ## Decoding first -/

/-- A line without the carriage returns at its end. -/
def trimReturns (line : List Char) : List Char := line.rdropWhile (· == '\r')

theorem isPrefix_trimReturns (line : List Char) : trimReturns line <+: line :=
  List.rdropWhile_prefix _ _

theorem trimReturns_trimReturns (line : List Char) :
    trimReturns (trimReturns line) = trimReturns line := List.rdropWhile_idempotent _ _

/-- A piece of the bytes is a piece of the text. -/
theorem pieces_lossyChars (bytes : List UInt8) :
    pieces '\n' (Utf8.lossyChars bytes) = (pieces 0x0A bytes).map Utf8.lossyChars := by
  have hnl : ∀ {bytes : List UInt8}, 0x0A ∉ bytes → '\n' ∉ Utf8.lossyChars bytes :=
    fun h => Utf8.not_mem_lossyChars (b := 0x0A) (by decide) (by decide) h
  induction bytes using pieces_induction (0x0A : UInt8) with
  | nil => simp
  | last bytes hne h =>
    rw [pieces_of_not_mem (Utf8.lossyChars_ne_nil hne) (hnl h), pieces_of_not_mem hne h,
      List.map_singleton]
  | cons front rest h ih =>
    have hcut : Utf8.lossyChars (front ++ 0x0A :: rest) =
        Utf8.lossyChars front ++ '\n' :: Utf8.lossyChars rest :=
      Utf8.lossyChars_append_ascii front rest (by decide)
    rw [hcut, pieces_append_cons (hnl h), pieces_append_cons h, ih, List.map_cons]

/-- Carriage returns may be stripped before a line is decoded or after. -/
theorem lossyChars_stripEnd {line : List UInt8} (h : 0x0A ∉ line) :
    Utf8.lossyChars (stripEnd line) = trimReturns (Utf8.lossyChars line) := by
  have hstrip : ∀ line, stripEnd line = line.rdropWhile fun b => b == 0x0A || b == 0x0D :=
    fun _ => rfl
  rw [hstrip]
  induction line using List.reverseRecOn with
  | nil => simp [trimReturns]
  | append_singleton front b ih =>
    rw [List.mem_append, not_or, List.mem_singleton] at h
    by_cases hb : b = 0x0D
    · subst hb
      have hcut : Utf8.lossyChars (front ++ [0x0D]) = Utf8.lossyChars front ++ ['\r'] :=
        Utf8.lossyChars_append_ascii front [] (by decide)
      rw [List.rdropWhile_concat_pos _ _ _ (by decide), ih h.1, hcut, trimReturns, trimReturns,
        List.rdropWhile_concat_pos _ _ _ (by decide)]
    · -- The last character is no carriage return: it comes from this byte.
      have hlast : ∃ cs c, Utf8.lossyChars (front ++ [b]) = cs ++ [c] ∧ c ≠ '\r' := by
        by_cases hascii : b.toNat < 0x80
        · refine ⟨_, _, Utf8.lossyChars_append_ascii front [] hascii, fun hc => hb ?_⟩
          have hnat := congrArg Char.toNat hc
          rw [Utf8.toNat_ofNat_of_ascii hascii] at hnat
          exact UInt8.toNat.inj hnat
        · obtain ⟨cs, c, hcs, hc⟩ := Utf8.exists_lossyChars_append_one front (Nat.not_lt.1 hascii)
          refine ⟨cs, c, hcs, ?_⟩
          rintro rfl
          exact absurd (hc (by decide)) (by decide)
      obtain ⟨cs, c, hcs, hc⟩ := hlast
      rw [List.rdropWhile_concat_neg _ _ _ (by simpa using ⟨Ne.symm h.2, hb⟩), hcs, trimReturns,
        List.rdropWhile_concat_neg _ _ _ (by simpa using hc)]

/-- **The lines of an output, read off its text.** -/
theorem lines_eq (bytes : List UInt8) :
    lines bytes =
      (pieces '\n' (Utf8.lossy bytes).toList).map fun line => String.ofList (trimReturns line) := by
  rw [lines_eq_map_pieces, Utf8.lossy, String.toList_ofList, pieces_lossyChars, List.map_map]
  refine List.map_congr_left fun line hline => ?_
  rw [lineText, Utf8.lossy, lossyChars_stripEnd (not_mem_of_mem_pieces hline)]
  rfl

/-! ## Texts in normal form -/

/-- A text in which each line is ended by one newline and nothing else. -/
def normalise (text : String) : String :=
  String.join ((pieces '\n' text.toList).map fun line => String.ofList (trimReturns line) ++ "\n")

/-- What the lines of an output come to when each is ended by a newline. -/
theorem join_lines (bytes : List UInt8) :
    String.join ((lines bytes).map (· ++ "\n")) = normalise (Utf8.lossy bytes) := by
  rw [lines_eq, List.map_map, normalise]
  rfl

theorem toList_normalise (text : String) :
    (normalise text).toList =
      ((pieces '\n' text.toList).map trimReturns).flatMap (· ++ ['\n']) := by
  rw [normalise]
  induction pieces '\n' text.toList with
  | nil => rfl
  | cons line ls ih =>
    simp only [List.map_cons, String.join_cons, String.toList_append, ih, List.flatMap_cons,
      String.toList_ofList]
    rfl

/-- **No line is lost, split or merged.** -/
theorem pieces_normalise (text : String) :
    pieces '\n' (normalise text).toList = (pieces '\n' text.toList).map trimReturns := by
  rw [toList_normalise]
  refine pieces_flatMap fun line hline => ?_
  obtain ⟨piece, hpiece, rfl⟩ := List.mem_map.1 hline
  exact fun hmem => not_mem_of_mem_pieces hpiece ((isPrefix_trimReturns piece).subset hmem)

/-- A text in normal form is not changed. -/
theorem normalise_normalise (text : String) : normalise (normalise text) = normalise text := by
  refine String.toList_injective ?_
  rw [toList_normalise, pieces_normalise, toList_normalise, List.map_map]
  simp only [Function.comp_def, trimReturns_trimReturns]

/-- There are as many newlines as lines. -/
theorem count_normalise (text : String) :
    (normalise text).toList.count '\n' = (pieces '\n' text.toList).length := by
  have hcount : ∀ ls : List (List Char), (∀ l ∈ ls, '\n' ∉ l) →
      (ls.flatMap (· ++ ['\n'])).count '\n' = ls.length := by
    intro ls h
    induction ls with
    | nil => rfl
    | cons l ls ih =>
      rw [List.forall_mem_cons] at h
      rw [List.flatMap_cons, List.count_append, ih h.2, List.count_append,
        List.count_eq_zero.2 h.1, List.length_cons]
      simp [Nat.add_comm]
  have hfree : ∀ l ∈ pieces '\n' (normalise text).toList, '\n' ∉ l :=
    fun l hl => not_mem_of_mem_pieces hl
  rw [pieces_normalise] at hfree
  rw [toList_normalise, hcount _ hfree, List.length_map]

end BuildService.Output
