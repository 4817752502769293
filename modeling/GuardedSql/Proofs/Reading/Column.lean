import GuardedSql.Proofs.Reading.Cut
import GuardedSql.Proofs.Token.Accepted

/-! # Reading columns — where a bare column ends

    Columns in conditions, assignments and sort keys are written without
    delimiters, and may hold spaces, dots, parentheses and words.  What they
    cannot hold is a mark: a forbidden symbol, a keyword between spaces, or
    `ORDER BY` between spaces.  So a bare column ends where the first mark
    begins.  A mark cannot begin in the column and end after it either, since
    the words of a mark would then be words of the column. -/

namespace GuardedSql.Token

variable {role : Role} {token a b s t u v w rest : Text}

/-- The symbols that no name holds and that a template may write after one. -/
def nameSymbols : List Char := ['=', '!', '<', '>', ',', ';']

/-- The marks that end a bare column. -/
def columnEnds : List Text :=
  nameSymbols.map (fun c => [c]) ++
    chars " ORDER BY " :: keywords.map fun key => ' ' :: (key ++ [' '])

/-- A text that holds no mark, as accepted names do. -/
structure Bare (t : Text) : Prop where
  symbols : ∀ c ∈ t, c ∉ nameSymbols
  words : keywordIn? .name (wordsOf t) = none

theorem bare_iff : Bare t ↔ (∀ c ∈ t, c ∉ nameSymbols) ∧ keywordIn? .name (wordsOf t) = none :=
  ⟨fun h => ⟨h.symbols, h.words⟩, fun h => ⟨h.1, h.2⟩⟩

instance (t : Text) : Decidable (Bare t) := decidable_of_iff _ bare_iff.symm

theorem Accepted.bare (h : Accepted .name token) : Bare token where
  symbols := by
    intro c hc hmem
    have hsymbol : ∀ c ∈ nameSymbols, [c] ∈ symbols := by with_unfolding_all decide
    exact h.not_mem (hsymbol c hmem) nofun hc
  words := by
    obtain ⟨-, -, -, -, hwords, -⟩ := accepted_iff.mp h
    exact hwords

/-! ## Words around a seam -/

@[simp] theorem wordsOf_append_space (u t : Text) :
    wordsOf (u ++ ' ' :: t) = wordsOf u ++ wordsOf t :=
  wordsOf_append_cons (by decide) u t

/-- A text that begins with a word has it as its first word. -/
theorem wordsOf_word_append (hne : w ≠ []) (hw : ∀ c ∈ w, isWordChar c = true)
    (hb : ∀ c ∈ b.head?, isWordChar c = false) :
    wordsOf (w ++ b) = Text.upper w :: wordsOf b := by
  rw [wordsOf, Text.runs_append (Or.inr hb), Text.runs_eq_singleton hne hw]
  rfl

/-- A word that begins in the first part ends there, if the second part does
    not go on with a word. -/
theorem exists_of_append_eq_word (hw : ∀ c ∈ w, isWordChar c = true)
    (hs : ∃ c ∈ s.head?, isWordChar c = false) (h : v ++ s = w ++ ' ' :: rest) :
    ∃ b, v = w ++ b ∧ b ++ s = ' ' :: rest ∧ ∀ c ∈ b.head?, isWordChar c = false := by
  rcases List.append_eq_append_iff.mp h with ⟨b, hwb, hsb⟩ | ⟨b, hvb, hrest⟩
  · cases b with
    | nil =>
        rw [List.append_nil] at hwb
        exact ⟨[], by rw [hwb, List.append_nil], hsb, nofun⟩
    | cons d b =>
        -- the second part would begin inside the word
        obtain ⟨c, hc, hword⟩ := hs
        rw [hsb] at hc
        obtain rfl := Option.some.inj hc
        have hd : d ∈ w := by rw [hwb]; simp
        rw [hw d hd] at hword
        exact Bool.noConfusion hword
  · refine ⟨b, hvb, hrest.symm, ?_⟩
    intro c hc
    cases b with
    | nil => exact nomatch hc
    | cons d b =>
        obtain rfl := Option.some.inj hc
        rw [← (List.cons.inj hrest).1]
        decide

/-- Keywords are words, written in upper case. -/
theorem keyword_word : ∀ key ∈ keywords,
    key ≠ [] ∧ (∀ c ∈ key, isWordChar c = true) ∧ Text.upper key = key := by
  with_unfolding_all decide

/-! ## Bare texts -/

/-- No word of a bare text is a keyword. -/
theorem Bare.not_mem_keywords (h : Bare t) (hword : w ∈ wordsOf t) : w ∉ keywords := by
  intro hkey
  exact nomatch (not_mem_keywords_of_keywordIn? h.words hword hkey).2

/-- A bare text does not begin with a keyword, whatever follows it. -/
theorem Bare.not_prefix_keyword (ha : Bare a) (hs : ∃ c ∈ s.head?, isWordChar c = false)
    {key : Text} (hkey : key ∈ keywords) : ¬ key ++ [' '] <+: a ++ s := by
  rintro ⟨rest, hrest⟩
  obtain ⟨hne, hchars, hupper⟩ := keyword_word key hkey
  rw [List.append_assoc] at hrest
  obtain ⟨b, rfl, -, hb⟩ := exists_of_append_eq_word hchars hs hrest.symm
  have hword : key ∈ wordsOf (key ++ b) := by
    rw [wordsOf_word_append hne hchars hb, hupper]
    exact List.mem_cons_self ..
  exact ha.not_mem_keywords hword hkey

/-- Two bare texts that are apart make a bare text, unless `ORDER` and `BY`
    meet. -/
theorem Bare.append (ht : Bare t) (hu : Bare u) (hhead : ∀ c ∈ u.head?, isWordChar c = false)
    (hby : (wordsOf u).head? ≠ some (chars "BY")) : Bare (t ++ u) where
  symbols := by
    intro c hc
    rcases List.mem_append.mp hc with hct | hcu
    · exact ht.symbols c hct
    · exact hu.symbols c hcu
  words := by
    have hwords : wordsOf (t ++ u) = wordsOf t ++ wordsOf u := by
      rw [wordsOf, Text.runs_append (Or.inr hhead), List.map_append]
      rfl
    rw [hwords]
    exact keywordIn?_name_append ht.words hu.words hby

/-! ## The end of a column -/

/-- No mark begins with a character of a word. -/
theorem columnEnds_head : ∀ mark ∈ columnEnds, ∃ c ∈ mark.head?, isWordChar c = false := by
  with_unfolding_all decide

/-- What ends a column is a symbol, an `ORDER BY`, or a keyword between
    spaces. -/
theorem mem_columnEnds {mark : Text} (h : mark ∈ columnEnds) :
    (∃ c ∈ nameSymbols, mark = [c]) ∨ mark = chars " ORDER BY " ∨
      ∃ key ∈ keywords, mark = ' ' :: (key ++ [' ']) := by
  rcases List.mem_append.mp h with hsymbol | hword
  · obtain ⟨c, hc, rfl⟩ := List.mem_map.mp hsymbol
    exact Or.inl ⟨c, hc, rfl⟩
  · rcases List.mem_cons.mp hword with horder | hkeyword
    · exact Or.inr (Or.inl horder)
    · obtain ⟨key, hkey, rfl⟩ := List.mem_map.mp hkeyword
      exact Or.inr (Or.inr ⟨key, hkey, rfl⟩)

/-- No keyword between spaces begins inside a bare text. -/
theorem Bare.not_prefix_spaced_keyword (ha : Bare (u ++ v)) (hne : v ≠ [])
    (hs : ∃ c ∈ s.head?, isWordChar c = false) {key : Text} (hkey : key ∈ keywords) :
    ¬ ' ' :: (key ++ [' ']) <+: v ++ s := by
  rintro ⟨rest, hrest⟩
  obtain ⟨d, v, rfl⟩ := List.exists_cons_of_ne_nil hne
  obtain ⟨hkne, hchars, hupper⟩ := keyword_word key hkey
  rw [List.cons_append, List.append_assoc] at hrest
  obtain ⟨rfl, htail⟩ := List.cons.inj hrest
  obtain ⟨b, rfl, -, hb⟩ := exists_of_append_eq_word hchars hs htail.symm
  have hword : key ∈ wordsOf (u ++ ' ' :: (key ++ b)) := by
    rw [wordsOf_append_space, wordsOf_word_append hkne hchars hb, hupper]
    simp
  exact ha.not_mem_keywords hword hkey

/-- Two words between spaces do not begin inside a bare text, if no bare text
    holds them one after the other and the text after it does not begin with
    the second. -/
theorem Bare.not_prefix_two_words (ha : Bare (u ++ v)) (hne : v ≠ [])
    (hs : ∃ c ∈ s.head?, isWordChar c = false) {first second : Text}
    (hfirst : wordsOf first = [first] ∧ ∀ c ∈ first, isWordChar c = true)
    (hsecond : second ≠ [] ∧ (∀ c ∈ second, isWordChar c = true) ∧ Text.upper second = second)
    (hfound : ∀ before after, keywordIn? .name (before ++ first :: second :: after) ≠ none)
    (hnext : ¬ ' ' :: (second ++ [' ']) <+: s) :
    ¬ ' ' :: (first ++ ' ' :: (second ++ [' '])) <+: v ++ s := by
  obtain ⟨hword, hchars⟩ := hfirst
  obtain ⟨hsne, hschars, hupper⟩ := hsecond
  rintro ⟨rest, hrest⟩
  obtain ⟨d, v, rfl⟩ := List.exists_cons_of_ne_nil hne
  simp only [List.cons_append, List.append_assoc, List.nil_append] at hrest
  obtain ⟨rfl, htail⟩ := List.cons.inj hrest
  obtain ⟨b, rfl, hb, -⟩ := exists_of_append_eq_word hchars hs htail.symm
  cases b with
  | nil =>
      -- the text ends after the first word, so the second follows it
      refine hnext ⟨rest, ?_⟩
      rw [show s = _ from hb]
      simp only [List.cons_append, List.append_assoc, List.nil_append]
  | cons e b =>
      obtain ⟨rfl, htail'⟩ := List.cons.inj hb
      obtain ⟨b', rfl, -, hb'⟩ := exists_of_append_eq_word hschars hs htail'
      have hwords : wordsOf (u ++ ' ' :: (first ++ ' ' :: (second ++ b'))) =
          wordsOf u ++ first :: second :: wordsOf b' := by
        rw [wordsOf_append_space, wordsOf_append_space, hword,
          wordsOf_word_append hsne hschars hb', hupper]
        rfl
      have hnone := ha.words
      rw [hwords] at hnone
      exact hfound _ _ hnone

/-- `ORDER BY` between spaces does not begin inside a bare text that `BY` does
    not follow. -/
theorem Bare.not_prefix_order_by (ha : Bare (u ++ v)) (hne : v ≠ [])
    (hs : ∃ c ∈ s.head?, isWordChar c = false) (hby : ¬ chars " BY " <+: s) :
    ¬ chars " ORDER BY " <+: v ++ s := by
  have hmark : chars " ORDER BY " =
      ' ' :: (chars "ORDER" ++ ' ' :: (chars "BY" ++ [' '])) := by with_unfolding_all decide
  have hnext : chars " BY " = ' ' :: (chars "BY" ++ [' ']) := by with_unfolding_all decide
  rw [hnext] at hby
  rw [hmark]
  exact ha.not_prefix_two_words hne hs (by with_unfolding_all decide)
    (by with_unfolding_all decide) keywordIn?_order_by hby

/-- **The seam**: where a mark follows a bare text, no mark begins inside the
    text. -/
theorem Bare.not_begins (ha : Bare a) (hs : Begins columnEnds s) :
    ∀ u v, a = u ++ v → v ≠ [] → ¬ Begins columnEnds (v ++ s) := by
  have hhead := hs.head columnEnds_head
  rintro u v rfl hne ⟨mark, hmark, hpre⟩
  rcases mem_columnEnds hmark with ⟨c, hc, rfl⟩ | rfl | ⟨key, hkey, rfl⟩
  · obtain ⟨d, v, rfl⟩ := List.exists_cons_of_ne_nil hne
    obtain ⟨rest, hrest⟩ := hpre
    obtain rfl := (List.cons.inj hrest).1
    exact ha.symbols c (by simp) hc
  · exact ha.not_prefix_order_by hne hhead (hs.excludes (by with_unfolding_all decide)) hpre
  · exact ha.not_prefix_spaced_keyword hne hhead hkey hpre

/-- **Bare columns** are read back exactly. -/
theorem readable_bare : Readable (fun t : Text => t) Bare (Begins columnEnds) id := by
  intro x y hx hy r r' hr hr' h
  exact eq_of_append_eq (Begins columnEnds) hr hr' (hx.not_begins hr) (hy.not_begins hr') h

end GuardedSql.Token
