import GuardedSql.Literal
import GuardedSql.Proofs.Text.Case
import GuardedSql.Proofs.Text.Join
import GuardedSql.Proofs.Text.Trim
import Mathlib.Data.List.Forall2

/-! # Splits — ranges and lists come apart where they were put together

    A range is two bounds with `AND` between them, a list is items with commas
    between them, and both may be spaced out with blanks.  Taken apart, they
    give the bounds and the items again.

    For a list this is the law of splitting and joining, piece by piece.  A
    range is cut at the first mark, and the mark ends in the space that it
    begins with: so the argument is that the first mark is the one that was put
    there, and none that the lower bound makes together with the blanks after
    it. -/

namespace GuardedSql.Literal

variable {low high left word x y gap text : Text} {ts pieces : List Text}

/-! ## Ranges and lists as they are put together -/

/-- What can be told from the mark of a range: a text that is not empty, has no
    blank at its ends and holds no mark in any case of letters. -/
structure IsBound (t : Text) : Prop where
  ne_nil : t ≠ []
  trimmed : t.Trimmed
  unmarked : ¬ chars " AND " <:+: t.upper

/-- The text is two bounds with `AND` between them, in some case of letters and
    with a space on either side.  There may be more blanks between the spaces
    and the bounds. -/
def JoinsRange (low high text : Text) : Prop :=
  ∃ left word right : Text, text = low ++ left ++ ' ' :: (word ++ ' ' :: (right ++ high)) ∧
    word.upper = chars "AND" ∧ (∀ c ∈ left, Text.isBlank c = true) ∧
    ∀ c ∈ right, Text.isBlank c = true

/-- The text is the items with commas between them, and with blanks around any
    of them. -/
def JoinsList (ts : List Text) (text : Text) : Prop :=
  ∃ pieces, text = Text.join "," pieces ∧ List.Forall₂ Text.Padded ts pieces

/-! ## The first mark -/

/-- A mark that lies across the end of a text, before a blank, has its last
    space after that end. -/
theorem eq_of_append_eq_mark (h : chars " AND " = x ++ y) (hx : x ≠ []) (hy : y ≠ [])
    (hgap : ∀ c ∈ gap.head?, Text.isBlank c = true) (hbegins : y <+: gap) :
    x = chars " AND" := by
  have hblank : ∀ c ∈ y.head?, Text.isBlank c = true := by
    obtain ⟨c, rest, rfl⟩ := List.exists_cons_of_ne_nil hy
    obtain ⟨more, rfl⟩ := hbegins
    exact hgap
  have hplaces : ∀ n < 5, n ≠ 0 →
      (∀ c ∈ ((chars " AND ").drop n).head?, Text.isBlank c = true) →
      (chars " AND ").take n = chars " AND" := by
    with_unfolding_all decide
  have hlength : (chars " AND ").length = 5 := by with_unfolding_all decide
  have hshort : x.length < 5 := by
    have hpos := List.length_pos_iff.mpr hy
    rw [h, List.length_append] at hlength
    omega
  have hplace := hplaces x.length hshort (fun hzero => hx (List.length_eq_zero_iff.mp hzero))
  rw [h, List.drop_left, List.take_left] at hplace
  exact hplace hblank

/-- Before its last space no mark stands in a range. -/
theorem IsBound.not_infix_append (hlow : IsBound low) (hend : ¬ chars " AND" <:+ low.upper)
    (hleft : ∀ c ∈ left, Text.isBlank c = true) :
    ¬ chars " AND " <:+: low.upper ++ (left ++ chars " AND") := by
  have hletter : 'A' ∉ left := fun hmem => absurd (hleft _ hmem) (by decide)
  have hword : ∀ c ∈ (chars " AND").head?, Text.isBlank c = true := by with_unfolding_all decide
  have hgap : ∀ c ∈ (left ++ chars " AND").head?, Text.isBlank c = true := by
    cases left with
    | nil => exact hword
    | cons b left => exact fun c hc => hleft c (Option.some.inj hc ▸ List.mem_cons_self ..)
  intro hstands
  rcases List.infix_append_iff_ne_nil.mp hstands with
    hinLow | hinGap | ⟨x, y, hx, hy, heq, hends, hbegins⟩
  · exact hlow.unmarked hinLow
  · rcases List.infix_append_iff_ne_nil.mp hinGap with
      hinLeft | hinWord | ⟨x, y, hx, hy, heq, hends, hbegins⟩
    · exact hletter (hinLeft.subset (by with_unfolding_all decide))
    · exact absurd hinWord (by with_unfolding_all decide)
    · rw [eq_of_append_eq_mark heq hx hy hword hbegins] at hends
      exact hletter (hends.subset (by with_unfolding_all decide))
  · exact hend (eq_of_append_eq_mark heq hx hy hgap hbegins ▸ hends)

@[simp] theorem upper_rangeMark : rangeMark.upper = chars " AND " := by with_unfolding_all decide

/-- A spaced `AND` in any case is the mark, without the space behind it. -/
theorem upper_spaced (hword : word.upper = chars "AND") (t : Text) :
    Text.upper (' ' :: (word ++ t)) = chars " AND" ++ t.upper := by
  have hcons : chars " AND" = ' ' :: chars "AND" := by with_unfolding_all decide
  rw [hcons, ← hword, List.cons_append, ← Text.upper_append]
  rfl

/-- **The first mark** of a range is the one between its bounds. -/
theorem IsBound.cutFold_eq (hlow : IsBound low) (hend : ¬ chars " AND" <:+ low.upper)
    (hleft : ∀ c ∈ left, Text.isBlank c = true) (hword : word.upper = chars "AND")
    (after : Text) :
    Text.cutFold rangeMark (low ++ left ++ ' ' :: (word ++ ' ' :: after)) =
      some (low ++ left, after) := by
  have hne : rangeMark ≠ [] := by with_unfolding_all decide
  have hmark : Text.upper (' ' :: (word ++ [' '])) = rangeMark.upper := by
    rw [upper_spaced hword, upper_rangeMark]
    with_unfolding_all decide
  have hbefore : Text.upper (low ++ left ++ (' ' :: (word ++ [' '])).dropLast) =
      low.upper ++ (left ++ chars " AND") := by
    have hdrop : (' ' :: (word ++ [' '])).dropLast = ' ' :: (word ++ []) := by
      rw [List.append_nil, ← List.cons_append, List.dropLast_concat]
    have hnil : chars " AND" ++ Text.upper [] = chars " AND" := List.append_nil _
    rw [hdrop, Text.upper_append, Text.upper_append, upper_spaced hword, hnil,
      Text.upper_of_isBlank hleft, List.append_assoc]
  have hfirst : ¬ rangeMark.upper <:+:
      Text.upper (low ++ left ++ (' ' :: (word ++ [' '])).dropLast) := by
    rw [hbefore, upper_rangeMark]
    exact hlow.not_infix_append hend hleft
  have htext : ' ' :: (word ++ ' ' :: after) = ' ' :: (word ++ [' ']) ++ after := by simp
  rw [htext]
  exact Text.cutFold_append hne hmark hfirst

/-! ## What is put together comes apart -/

/-- A range is cut at the place where its bounds were joined, unless the lower
    one ends with an `AND` itself. -/
theorem bounds_of_joinsRange (hlow : IsBound low) (hhigh : IsBound high)
    (hend : ¬ chars " AND" <:+ low.upper) (h : JoinsRange low high text) :
    bounds? text = some (low, high) := by
  obtain ⟨left, word, right, rfl, hword, hleft, hright⟩ := h
  have hlowTrim : Text.trim (low ++ left) = low :=
    hlow.trimmed.trim_eq ⟨[], left, rfl, nofun, hleft⟩
  have hhighTrim : Text.trim (right ++ high) = high :=
    hhigh.trimmed.trim_eq ⟨right, [], (List.append_nil _).symm, hright, nofun⟩
  have honce : Text.occursFold rangeMark high = false := by
    rw [← Bool.not_eq_true, Text.occursFold_iff (by with_unfolding_all decide), upper_rangeMark]
    exact hhigh.unmarked
  rw [bounds?, hlow.cutFold_eq hend hleft hword]
  dsimp only
  rw [hlowTrim, hhighTrim, honce, List.isEmpty_eq_false_iff.mpr hlow.ne_nil,
    List.isEmpty_eq_false_iff.mpr hhigh.ne_nil]
  rfl

/-- A piece around an item without commas has none. -/
theorem comma_not_mem_of_padded {t piece : Text} (ht : ',' ∉ t) (h : Text.Padded t piece) :
    ',' ∉ piece := by
  obtain ⟨front, back, rfl, hfront, hback⟩ := h
  have hblank : Text.isBlank ',' = false := by decide
  intro hmem
  rw [List.mem_append, List.mem_append] at hmem
  rcases hmem with (hinFront | hin) | hinBack
  · exact Bool.noConfusion ((hfront _ hinFront).symm.trans hblank)
  · exact ht hin
  · exact Bool.noConfusion ((hback _ hinBack).symm.trans hblank)

/-- Pieces around items are the items again once they are trimmed, and hold no
    comma if the items hold none. -/
theorem map_trim_of_padded (h : List.Forall₂ Text.Padded ts pieces)
    (hts : ∀ t ∈ ts, t.Trimmed ∧ ',' ∉ t) :
    pieces.map Text.trim = ts ∧ ∀ piece ∈ pieces, ',' ∉ piece := by
  induction h with
  | nil => exact ⟨rfl, nofun⟩
  | cons hpadded _ ih =>
      obtain ⟨⟨htrimmed, hcomma⟩, hrest⟩ := List.forall_mem_cons.mp hts
      obtain ⟨htrim, hnone⟩ := ih hrest
      refine ⟨?_, List.forall_mem_cons.mpr ⟨comma_not_mem_of_padded hcomma hpadded, hnone⟩⟩
      rw [List.map_cons, htrimmed.trim_eq hpadded, htrim]

/-- The items of a list come back without the blanks put around them. -/
theorem items_of_joinsList (hne : ts ≠ []) (hts : ∀ t ∈ ts, t.Trimmed ∧ ',' ∉ t)
    (h : JoinsList ts text) : items text = ts := by
  obtain ⟨pieces, rfl, hpadded⟩ := h
  have hpieces : pieces ≠ [] := by
    rintro rfl
    exact hne (List.forall₂_nil_right_iff.mp hpadded)
  obtain ⟨htrim, hnone⟩ := map_trim_of_padded hpadded hts
  rw [items, Text.splitOn_join Text.chars_comma hpieces hnone, htrim]

/-- **Splitting undoes joining**: the bounds of a range are those it was put
    together from, unless the lower one ends in an `AND` of its own, and the
    items of a list are those it was put together from. -/
theorem split_of_joins (text : Text) :
    (∀ low high, IsBound low → IsBound high → ¬ chars " AND" <:+ low.upper →
      JoinsRange low high text → bounds? text = some (low, high)) ∧
    ∀ ts, ts ≠ [] → (∀ t ∈ ts, t.Trimmed ∧ ',' ∉ t) → JoinsList ts text → items text = ts :=
  ⟨fun _ _ hlow hhigh hend h => bounds_of_joinsRange hlow hhigh hend h,
    fun _ hne hts h => items_of_joinsList hne hts h⟩

/-- Bounds that begin and end with the word `AND`, and a list with items that
    are empty. -/
theorem split_of_joins_spaced :
    let range := chars "AND\t  aNd \nAND and"
    let list := chars "\t, a b\n,"
    (IsBound (chars "AND") ∧ IsBound (chars "AND and") ∧
      JoinsRange (chars "AND") (chars "AND and") range ∧
      JoinsList [[], chars "a b", []] list) ∧
    bounds? range = some (chars "AND", chars "AND and") ∧
      items list = [[], chars "a b", []] := by
  intro range list
  have hlow : IsBound (chars "AND") :=
    ⟨by with_unfolding_all decide, ⟨by with_unfolding_all decide, by with_unfolding_all decide⟩,
      by with_unfolding_all decide⟩
  have hhigh : IsBound (chars "AND and") :=
    ⟨by with_unfolding_all decide, ⟨by with_unfolding_all decide, by with_unfolding_all decide⟩,
      by with_unfolding_all decide⟩
  have hrange : JoinsRange (chars "AND") (chars "AND and") range :=
    ⟨chars "\t ", chars "aNd", chars "\n", by decide +kernel, by decide +kernel,
      by decide +kernel, by decide +kernel⟩
  have hempty : Text.Padded [] (chars "\t") := ⟨[], chars "\t", rfl, nofun, by decide +kernel⟩
  have hitem : Text.Padded (chars "a b") (chars " a b\n") :=
    ⟨chars " ", chars "\n", by decide +kernel, by decide +kernel, by decide +kernel⟩
  have hnothing : Text.Padded [] [] := ⟨[], [], rfl, nofun, nofun⟩
  have hlist : JoinsList [[], chars "a b", []] list :=
    ⟨[chars "\t", chars " a b\n", []], by decide +kernel,
      .cons hempty (.cons hitem (.cons hnothing .nil))⟩
  refine ⟨⟨hlow, hhigh, hrange, hlist⟩, ?_, ?_⟩
  · exact (split_of_joins range).1 _ _ hlow hhigh (by with_unfolding_all decide) hrange
  · refine (split_of_joins list).2 _ (List.cons_ne_nil _ _) ?_ hlist
    have hplain : Text.Trimmed (chars "a b") ∧ ',' ∉ chars "a b" :=
      ⟨⟨by decide +kernel, by decide +kernel⟩, by decide +kernel⟩
    simp only [List.forall_mem_cons, List.not_mem_nil]
    exact ⟨⟨⟨nofun, nofun⟩, nofun⟩, hplain, ⟨⟨nofun, nofun⟩, nofun⟩, nofun⟩

end GuardedSql.Literal
