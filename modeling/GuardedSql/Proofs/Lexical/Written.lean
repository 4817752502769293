import GuardedSql.Proofs.Lexical.Inert
import GuardedSql.Proofs.Statement.Checked
import GuardedSql.Proofs.Token.Segment

/-! # Written tokens — every form in which a token is written is inert

    A token is written in five ways: a name between backticks, a value as a
    literal, a column bare, the value of a join as it is, and a database
    between single quotes.  Each is inert and shows no keyword, by what the
    guard promises of the role in which the token was checked. -/

namespace GuardedSql

open Region Token

variable {t u : Text} {role : Role}

/-! ## From characters to texts -/

/-- A text without quotes, and without a keyword among its words. -/
theorem inert_of_plain (hplain : ∀ c ∈ t, opened c = .outside)
    (hdouble : '"' ∉ t) (hsemicolon : ';' ∉ t)
    (hwords : ∀ word ∈ t.runs isWordChar, word.upper ∉ keywords) : Inert t [] where
  closed := (closed_of_plain hplain).1
  noDoubleQuote := hdouble
  noSemicolon := hsemicolon
  keywords := by
    rw [keywordsOutside, (closed_of_plain hplain).2, List.filter_eq_nil_iff]
    intro word hword hkey
    exact hwords word hword (List.contains_iff_mem.mp hkey)

/-- A text between two quotes that it does not hold. -/
theorem inert_enclosed {q : Char} (hq : IsQuote q) (h : q ∉ t)
    (hdouble : '"' ∉ t) (hsemicolon : ';' ∉ t) : Inert (q :: t ++ [q]) [] := by
  obtain ⟨hclosed, hbare⟩ := closed_enclosed hq h
  have hne : '"' ≠ q ∧ ';' ≠ q ∧ isWordChar q = false := by
    rcases hq with rfl | rfl <;> decide
  refine ⟨hclosed, ?_, ?_, ?_⟩
  · simp [hne.1, hdouble]
  · simp [hne.2.1, hsemicolon]
  · -- the quotes are no words, and all between them is hidden
    have hruns : (bare (q :: t ++ [q])).runs isWordChar = [] := by
      refine Text.runs_eq_nil ?_
      intro c hc
      rw [hbare] at hc
      simp only [List.cons_append, List.mem_cons, List.mem_append, List.mem_map,
        List.not_mem_nil, or_false] at hc
      rcases hc with rfl | ⟨-, -, rfl⟩ | rfl
      · exact hne.2.2
      · rfl
      · rfl
    rw [keywordsOutside, hruns]
    rfl

/-! ## Values -/

/-- No keyword is made of signs and digits. -/
theorem exists_of_mem_keywords : ∀ key ∈ keywords, ∃ c ∈ key, ¬ Literal.IsIntegerChar c := by
  with_unfolding_all decide

theorem opened_of_isIntegerChar {c : Char} (h : Literal.IsIntegerChar c) :
    opened c = .outside := by
  refine opened_eq_outside ?_ ?_
  · rintro rfl
    exact absurd h (by decide)
  · rintro rfl
    exact absurd h (by decide)

/-- Upper case changes no sign and no digit. -/
theorem toUpper_of_isIntegerChar {c : Char} (h : Literal.IsIntegerChar c) :
    c.toUpper = c := by
  have hle : c.val ≤ '9'.val := by
    rcases h with rfl | rfl | ⟨-, h9⟩
    · decide
    · decide
    · exact h9
  have hnot : ¬ (c.val ≥ 'a'.val ∧ c.val ≤ 'z'.val) := by
    rintro ⟨ha, -⟩
    exact absurd (UInt32.le_trans ha hle) (by decide)
  exact dif_neg hnot

/-- Signs and digits are inert. -/
theorem inert_of_integerChars (hchars : ∀ c ∈ t, Literal.IsIntegerChar c) : Inert t [] := by
  refine inert_of_plain ?_ ?_ ?_ ?_
  · intro c hc
    exact opened_of_isIntegerChar (hchars c hc)
  · intro hmem
    exact absurd (hchars _ hmem) (by decide)
  · intro hmem
    exact absurd (hchars _ hmem) (by decide)
  · intro word hword hkey
    -- a keyword has a letter, and upper case makes none of a sign or a digit
    obtain ⟨c, hc, hnot⟩ := exists_of_mem_keywords _ hkey
    obtain ⟨d, hd, rfl⟩ := List.mem_map.mp hc
    have hd' := hchars d (Text.mem_of_mem_runs hword d hd)
    rw [toUpper_of_isIntegerChar hd'] at hnot
    exact hnot hd'

/-- A text without quotes and semicolons is inert as a literal. -/
theorem inert_literal (hquote : '\'' ∉ t) (hdouble : '"' ∉ t) (hsemicolon : ';' ∉ t) :
    Inert (Literal.render t) [] := by
  rw [Literal.render]
  split
  · rename_i hinteger
    exact inert_of_integerChars (Literal.isIntegerChar_of_isInteger hinteger)
  · exact inert_enclosed (Or.inl rfl) hquote hdouble hsemicolon

/-- What is cut out of an accepted token is inert as a literal. -/
theorem inert_literal_of_subset (h : Accepted role t) (hsub : ∀ c ∈ u, c ∈ t) :
    Inert (Literal.render u) [] :=
  inert_literal (fun hc => h.quote_not_mem (hsub _ hc))
    (fun hc => h.doubleQuote_not_mem (hsub _ hc))
    (fun hc => h.semicolon_not_mem (hsub _ hc))

/-- An accepted value is inert as it is written. -/
theorem inert_render (h : Accepted role t) : Inert (Literal.render t) [] :=
  inert_literal_of_subset h fun _ hc => hc

/-- An accepted range is written as two literals with `AND` between. -/
theorem inert_renderRange (h : Accepted .range t) :
    Inert (Literal.renderRange t) [chars "AND"] := by
  obtain ⟨low, high, hbounds⟩ := h.exists_bounds
  have hlow : Inert (Literal.render low) [] :=
    inert_literal_of_subset h fun _ hc => Literal.mem_of_mem_bounds hbounds (Or.inl hc)
  have hhigh : Inert (Literal.render high) [] :=
    inert_literal_of_subset h fun _ hc => Literal.mem_of_mem_bounds hbounds (Or.inr hc)
  have hmark : Separator Literal.rangeMark [chars "AND"] := by with_unfolding_all decide
  rw [Literal.renderRange, hbounds]
  exact hlow.around hmark hhigh

/-- An accepted list is written as literals, in parentheses. -/
theorem inert_renderList (h : Accepted .list t) : Inert (Literal.renderList t) [] := by
  have hitems : ∀ item ∈ Literal.items t, Inert (Literal.render item) [] := by
    intro item hitem
    exact inert_literal_of_subset h fun _ hc => Literal.mem_of_mem_items hitem hc
  have hopen : Inert ['('] [] := by with_unfolding_all decide
  have hclose : Inert [')'] [] := by with_unfolding_all decide
  have hjoin := Inert.join_nil separator_comma hitems
  exact (hopen.append hjoin (Or.inl (by decide))).append hclose (Or.inr (by decide))

/-- Whatever its role, a value shows no keyword but the `AND` of a range. -/
theorem inert_renderAs (h : Accepted role t) :
    Inert (Literal.renderAs role t) (if role = .range then [chars "AND"] else []) := by
  cases role with
  | range => exact inert_renderRange h
  | list => exact inert_renderList h
  | name | value => exact inert_render h

/-- The value of a join is written as it is. -/
theorem inert_value (h : Accepted .value t) : Inert t [] := by
  refine inert_of_plain ?_ h.doubleQuote_not_mem h.semicolon_not_mem ?_
  · intro c hc
    refine opened_eq_outside ?_ ?_
    · rintro rfl
      exact h.quote_not_mem hc
    · rintro rfl
      exact h.tick_not_mem nofun hc
  · intro word hword
    exact h.not_mem_keywords nofun (List.mem_map_of_mem hword)

/-- A database is written between single quotes. -/
theorem inert_inQuotes (h : Accepted role t) : Inert t.inQuotes [] :=
  inert_enclosed (Or.inl rfl) h.quote_not_mem h.doubleQuote_not_mem h.semicolon_not_mem

/-! ## Names -/

/-- A part of an accepted name is inert between its delimiters. -/
theorem inert_enclose (h : Accepted .name t) (hu : u ∈ Name.parts t) :
    Inert (Name.enclose u) [] := by
  obtain ⟨htick, hsub⟩ := h.part hu
  exact inert_enclosed (Or.inr rfl) htick
    (fun hc => h.doubleQuote_not_mem (hsub _ hc))
    (fun hc => h.semicolon_not_mem (hsub _ hc))

/-- A name is written between backticks, part by part. -/
theorem inert_name (h : Accepted .name t) : Inert (Name.render t) [] := by
  rw [Name.render_eq_join]
  exact Inert.join_nil separator_dot fun u hu => inert_enclose h hu

/-- Names are written between commas. -/
theorem inert_names {names : List Text} (h : ∀ name ∈ names, Accepted .name name) :
    Inert (Name.renderAll names) [] :=
  Inert.join_nil separator_comma fun name hname => inert_name (h name hname)

/-- A column is written bare: each segment is either between delimiters or
    free of backticks, and its words are words of the column. -/
theorem inert_column (h : Accepted .name t) : Inert t [] := by
  have hsegments : ∀ segment ∈ Name.segments t, Inert segment [] := by
    intro segment hsegment
    have hpart : Name.inner segment ∈ Name.parts t := List.mem_map_of_mem hsegment
    cases hdelimited : Name.isDelimited segment with
    | true =>
        rw [Name.eq_enclose_inner hdelimited]
        exact inert_enclose h hpart
    | false =>
        rw [Name.inner_of_not_isDelimited hdelimited] at hpart
        obtain ⟨htick, hsub⟩ := h.part hpart
        refine inert_of_plain ?_ (fun hc => h.doubleQuote_not_mem (hsub _ hc))
          (fun hc => h.semicolon_not_mem (hsub _ hc)) ?_
        · intro c hc
          refine opened_eq_outside ?_ ?_
          · rintro rfl
            exact h.quote_not_mem (hsub _ hc)
          · rintro rfl
            exact htick hc
        · -- a dot ends words, so the words of a segment are words of the name
          intro word hword
          have hruns : word ∈ t.runs isWordChar := by
            rw [← Name.join_segments t,
              Text.runs_join (by with_unfolding_all decide) (by with_unfolding_all decide)]
            exact List.mem_flatMap.mpr ⟨segment, hsegment, hword⟩
          exact h.not_mem_keywords nofun (List.mem_map_of_mem hruns)
  have hjoin := Inert.join_nil separator_dot hsegments
  rw [List.map_id', Name.join_segments] at hjoin
  exact hjoin

end GuardedSql
