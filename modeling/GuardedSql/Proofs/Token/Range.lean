import GuardedSql.Proofs.Reading.Column
import GuardedSql.Proofs.Token.Clean

/-! # Ranges — what the bounds of an accepted range may hold

    The guard goes over a range as a whole, and lets `AND` pass wherever it
    stands; only then the range is cut at its mark.  What else it refuses
    stands in a range exactly if it stands in one of the bounds, since it has
    no character of the mark and the mark is a word of its own.  So the bounds
    are as clean as the range, and `AND` may be left in them. -/

namespace GuardedSql.Token

variable {token low high word piece : Text} {exempted : List Text}

/-! ## The mark -/

@[simp] theorem isWordChar_toUpper (c : Char) : isWordChar c.toUpper = isWordChar c := by
  rcases Text.toUpper_eq_or_isAlphanum c with heq | ⟨hletter, hupper⟩
  · rw [heq]
  · rw [isWordChar, isWordChar, hletter, hupper]
    rfl

/-- The mark of a range is `AND`, in some case of letters, between spaces. -/
theorem exists_of_upper_eq_rangeMark {mark : Text} (h : mark.upper = Literal.rangeMark.upper) :
    ∃ word : Text, mark = ' ' :: (word ++ [' ']) ∧ word.upper = chars "AND" := by
  have hspace : ∀ {c : Char}, c.toUpper = ' ' → c = ' ' :=
    fun hc => Text.eq_of_toUpper_eq hc (by decide)
  have hupper : Literal.rangeMark.upper = ' ' :: (chars "AND" ++ [' ']) := by
    with_unfolding_all decide
  rw [hupper] at h
  obtain ⟨first, rest, rfl, hfirst, hrest⟩ := List.map_eq_cons_iff.mp h
  obtain ⟨word, last, rfl, hword, hlast⟩ := List.map_eq_append_iff.mp hrest
  obtain ⟨c, rfl, hc⟩ := List.map_eq_singleton_iff.mp hlast
  rw [hspace hfirst, hspace hc]
  exact ⟨word, rfl, hword⟩

/-- A range has its first `AND` between spaces between its bounds. -/
theorem exists_spaced_of_bounds (h : Literal.bounds? token = some (low, high)) :
    ∃ before word after : Text, token = before ++ ' ' :: (word ++ ' ' :: after) ∧
      word.upper = chars "AND" ∧ before.trim = low ∧ after.trim = high ∧ low ≠ [] ∧ high ≠ [] := by
  obtain ⟨before, mark, after, rfl, hmark, hbounds⟩ := Literal.exists_of_bounds h
  obtain ⟨word, rfl, hword⟩ := exists_of_upper_eq_rangeMark hmark
  exact ⟨before, word, after, by simp, hword, hbounds⟩

theorem isWordChar_of_upper_eq (h : word.upper = chars "AND") :
    ∀ c ∈ word, isWordChar c = true := by
  have hletters : ∀ c ∈ chars "AND", isWordChar c = true := by with_unfolding_all decide
  intro c hc
  rw [← isWordChar_toUpper]
  exact hletters _ (h ▸ List.mem_map_of_mem hc)

theorem wordsOf_of_upper_eq (h : word.upper = chars "AND") : wordsOf word = [chars "AND"] := by
  have hne : word ≠ [] := by
    rintro rfl
    exact absurd h (by with_unfolding_all decide)
  rw [wordsOf, Text.runs_eq_singleton hne (isWordChar_of_upper_eq h), List.map_singleton, h]

/-- The words of a range are those of its bounds, and `AND` between them. -/
theorem wordsOf_of_bounds (h : Literal.bounds? token = some (low, high)) :
    wordsOf token = wordsOf low ++ chars "AND" :: wordsOf high := by
  obtain ⟨before, word, after, rfl, hword, rfl, rfl, -⟩ := exists_spaced_of_bounds h
  rw [wordsOf_append_space, wordsOf_append_space, wordsOf_of_upper_eq hword, wordsOf_trim,
    wordsOf_trim]
  rfl

/-! ## The bounds -/

/-- A bound is never blank. -/
theorem filled_of_bounds (h : Literal.bounds? token = some (low, high)) :
    (∃ c ∈ low, Text.isBlank c = false) ∧ ∃ c ∈ high, Text.isBlank c = false := by
  obtain ⟨before, word, after, -, -, rfl, rfl, hlow, hhigh⟩ := exists_spaced_of_bounds h
  exact ⟨Text.exists_not_isBlank_of_trim_ne_nil hlow, Text.exists_not_isBlank_of_trim_ne_nil hhigh⟩

/-- What no value holds stands in a range exactly if it stands in a bound. -/
theorem infix_of_bounds (h : Literal.bounds? token = some (low, high))
    (hpiece : piece ∈ forbidden) : piece <:+: token ↔ piece <:+: low ∨ piece <:+: high := by
  obtain ⟨before, word, after, rfl, hword, rfl, rfl, -⟩ := exists_spaced_of_bounds h
  obtain ⟨hne, hchars⟩ := forbidden_apart piece hpiece
  have hblank : ∀ c ∈ piece, Text.isBlank c = false := fun c hc => (hchars c hc).1
  have hspace : ' ' ∉ piece := fun hmem => nomatch hblank ' ' hmem
  have hletters : ∀ c ∈ word, c ∉ piece := by
    intro c hc hmem
    exact Bool.noConfusion ((isWordChar_of_upper_eq hword c hc).symm.trans (hchars c hmem).2)
  rw [Text.infix_append_cons_iff hspace, Text.infix_append_cons_iff hspace,
    or_iff_right (Text.not_infix_of_not_mem hne hletters), Text.infix_trim_iff hne hblank,
    Text.infix_trim_iff hne hblank]

/-- **The bounds** of a range are clean exactly if the range is, if `AND` is
    exempted in all three. -/
theorem clean_iff_of_bounds (h : Literal.bounds? token = some (low, high))
    (hand : chars "AND" ∈ exempted) :
    Clean exempted token ↔ Clean exempted low ∧ Clean exempted high := by
  have hwords := wordsOf_of_bounds h
  have hpair : chars "AND" ∉ [chars "ORDER", chars "BY"] := by with_unfolding_all decide
  have horder := Text.infix_append_cons_iff hpair (wordsOf low) (wordsOf high)
  rw [← hwords] at horder
  constructor
  · intro hclean
    have hkeywords := hclean.words
    rw [hwords, List.forall_mem_append, List.forall_mem_cons] at hkeywords
    have hpieces : ∀ piece ∈ forbidden, piece <:+: low ∨ piece <:+: high → piece ∈ exempted :=
      fun piece hpiece hin => hclean.pieces piece hpiece ((infix_of_bounds h hpiece).mpr hin)
    have hnone := not_or.mp fun hin => hclean.orderBy (horder.mpr hin)
    exact ⟨⟨fun piece hpiece hin => hpieces piece hpiece (Or.inl hin), hkeywords.1, hnone.1⟩,
      ⟨fun piece hpiece hin => hpieces piece hpiece (Or.inr hin), hkeywords.2.2, hnone.2⟩⟩
  · rintro ⟨hlow, hhigh⟩
    refine ⟨fun piece hpiece hin => ?pieces, ?words, fun hin => ?order⟩
    case pieces =>
      rcases (infix_of_bounds h hpiece).mp hin with hinLow | hinHigh
      · exact hlow.pieces piece hpiece hinLow
      · exact hhigh.pieces piece hpiece hinHigh
    case words =>
      rw [hwords, List.forall_mem_append, List.forall_mem_cons]
      exact ⟨hlow.words, fun _ => hand, hhigh.words⟩
    case order =>
      rcases horder.mp hin with hinLow | hinHigh
      · exact hlow.orderBy hinLow
      · exact hhigh.orderBy hinHigh

/-- A range is accepted exactly if it has bounds and these are clean, `AND`
    apart. -/
theorem accepted_range_iff :
    Accepted .range token ↔ ∃ low high, Literal.bounds? token = some (low, high) ∧
      Clean [chars "AND"] low ∧ Clean [chars "AND"] high := by
  have hand : chars "AND" ∈ exempt .range := List.mem_singleton_self _
  have hclean : Accepted .range token ↔ _ := accepted_iff_clean (by decide)
  constructor
  · intro haccepted
    obtain ⟨low, high, h⟩ := haccepted.exists_bounds
    exact ⟨low, high, h, (clean_iff_of_bounds h hand).mp (hclean.mp haccepted).2.1⟩
  · rintro ⟨low, high, h, hbounds⟩
    obtain ⟨c, hc, hfilled⟩ := (filled_of_bounds h).1
    refine hclean.mpr ⟨⟨c, Literal.mem_of_mem_bounds h (Or.inl hc), hfilled⟩,
      (clean_iff_of_bounds h hand).mpr hbounds, ?_⟩
    rw [checkRole, h]
    rfl

/-- A bound is an accepted value exactly if it is clean without the word
    `AND`. -/
theorem accepted_value_iff_of_filled (hfilled : ∃ c ∈ token, Text.isBlank c = false) :
    Accepted .value token ↔ Clean [chars "AND"] token ∧ chars "AND" ∉ wordsOf token := by
  have hkeyword : chars "AND" ∈ keywords := by with_unfolding_all decide
  have hnoPiece : chars "AND" ∉ forbidden := by with_unfolding_all decide
  rw [accepted_value_iff, and_iff_right hfilled]
  constructor
  · intro h
    refine ⟨⟨fun piece hpiece hin => ?_, fun word hword hkey => ?_, h.orderBy⟩, fun hword => ?_⟩
    · exact absurd (h.pieces piece hpiece hin) List.not_mem_nil
    · exact absurd (h.words word hword hkey) List.not_mem_nil
    · exact absurd (h.words _ hword hkeyword) List.not_mem_nil
  · rintro ⟨h, hnone⟩
    refine ⟨fun piece hpiece hin => ?_, fun word hword hkey => ?_, h.orderBy⟩
    · obtain rfl := List.mem_singleton.mp (h.pieces piece hpiece hin)
      exact absurd hpiece hnoPiece
    · obtain rfl := List.mem_singleton.mp (h.words word hword hkey)
      exact absurd hword hnone

/-- **Ranges and values**: a token is cut into two accepted values exactly if
    it is an accepted range in which the word `AND` stands once; and it is an
    accepted range exactly if it is cut into two bounds that are clean but for
    `AND`. -/
theorem range_of_bounds (token : Text) :
    ((∃ low high, Literal.bounds? token = some (low, high) ∧ Accepted .value low ∧
        Accepted .value high) ↔
      Accepted .range token ∧ (wordsOf token).count (chars "AND") = 1) ∧
    (Accepted .range token ↔
      ∃ low high, Literal.bounds? token = some (low, high) ∧
        Clean [chars "AND"] low ∧ Clean [chars "AND"] high) := by
  refine ⟨?_, accepted_range_iff⟩
  rw [accepted_range_iff]
  have honce : ∀ {low high}, Literal.bounds? token = some (low, high) →
      ((wordsOf token).count (chars "AND") = 1 ↔
        chars "AND" ∉ wordsOf low ∧ chars "AND" ∉ wordsOf high) := by
    intro low high h
    rw [wordsOf_of_bounds h, List.count_append, List.count_cons_self, ← List.count_eq_zero,
      ← List.count_eq_zero]
    omega
  constructor
  · rintro ⟨low, high, h, hlow, hhigh⟩
    obtain ⟨hlowFilled, hhighFilled⟩ := filled_of_bounds h
    rw [accepted_value_iff_of_filled hlowFilled] at hlow
    rw [accepted_value_iff_of_filled hhighFilled] at hhigh
    exact ⟨⟨low, high, h, hlow.1, hhigh.1⟩, (honce h).mpr ⟨hlow.2, hhigh.2⟩⟩
  · rintro ⟨⟨low, high, h, hlow, hhigh⟩, hcount⟩
    obtain ⟨hlowFilled, hhighFilled⟩ := filled_of_bounds h
    obtain ⟨hlowAnd, hhighAnd⟩ := (honce h).mp hcount
    exact ⟨low, high, h, (accepted_value_iff_of_filled hlowFilled).mpr ⟨hlow, hlowAnd⟩,
      (accepted_value_iff_of_filled hhighFilled).mpr ⟨hhigh, hhighAnd⟩⟩

/-- A second `AND` directly after the mark is left in the upper bound: the
    range is accepted, and its bound is no accepted value. -/
theorem not_range_iff_bounds_of_adjacent_marks :
    ¬ (Accepted .range (chars "1 AND AND 3") ↔
      ∃ low high, Literal.bounds? (chars "1 AND AND 3") = some (low, high) ∧
        Accepted .value low ∧ Accepted .value high) := by
  intro h
  obtain ⟨low, high, hbounds, -, hhigh⟩ := h.mp (by decide +kernel)
  have hcut : Literal.bounds? (chars "1 AND AND 3") = some (chars "1", chars "AND 3") := by
    decide +kernel
  rw [hcut] at hbounds
  obtain ⟨-, rfl⟩ := Prod.mk.inj (Option.some.inj hbounds)
  exact absurd hhigh (by decide +kernel)

end GuardedSql.Token
