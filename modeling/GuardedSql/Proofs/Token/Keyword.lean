import GuardedSql.Proofs.Token.Grammar

/-! # Keywords — what a token is refused for stands in it

    The guard takes a keyword for a word if no ASCII letter or digit, `_` or
    `$` stands next to it, and `ORDER BY` for two words if none stands between
    them.  Names without delimiters go on beyond ASCII, so that the end of a
    word is not always where the guard takes it to be.

    `Whole` says that a keyword stands in a token as a word of its own, and
    `Mistaken` that the guard only takes it for one.  A refusal for a keyword
    comes from one or the other (`whole_of_refused`). -/

namespace GuardedSql.Token

open Text (IsRun HasRun)

variable {role : Role} {token keyword word before after : Text} {words : List Text}
  {listed : List Rule} {rule : Rule} {error : Error}

/-! ## The rule behind a refusal -/

/-- An error is that of a broken rule. -/
theorem Outcome.exists_broken (h : Outcome listed (.error error)) :
    ∃ rule ∈ listed, rule.broken ∧ rule.error = error := by
  generalize houtcome : (Except.error error : Except Error Unit) = outcome at h
  induction h with
  | passed => cases houtcome
  | broken hbroken =>
      exact ⟨_, List.mem_cons_self .., hbroken, (Except.error.inj houtcome).symm⟩
  | kept _ _ ih =>
      obtain ⟨rule, hmem, hrule⟩ := ih houtcome
      exact ⟨rule, List.mem_cons_of_mem _ hmem, hrule⟩

/-- What the role alone asks for has nothing to do with keywords. -/
theorem error_ne_of_mem_roleRules (h : rule ∈ roleRules role token) :
    rule.error ≠ .unexpected (.containsKeyword token keyword) := by
  cases role with
  | name =>
      rw [roleRules, List.mem_cons] at h
      rcases h with rfl | hlength
      · rintro ⟨⟩
      · obtain ⟨place, hlt, rfl⟩ := List.mem_mapIdx.mp hlength
        rintro ⟨⟩
  | value => exact absurd h List.not_mem_nil
  | range | list =>
      obtain rfl := List.mem_singleton.mp h
      rintro ⟨⟩

/-- A token is refused because of a keyword only by a rule about its words. -/
theorem mem_wordRules_of_error (hmem : rule ∈ rules role token)
    (herror : rule.error = .unexpected (.containsKeyword token keyword)) :
    rule ∈ wordRules role token (token.runs isWordChar) := by
  rw [rules, List.mem_cons, List.mem_cons, List.mem_append, List.mem_cons, List.mem_append] at hmem
  rcases hmem with rfl | rfl | hsymbol | rfl | hword | hrole
  · cases herror
  · cases herror
  · obtain ⟨symbol, -, rfl⟩ := List.mem_map.mp hsymbol
    cases herror
  · cases herror
  · exact hword
  · exact absurd herror (error_ne_of_mem_roleRules hrole)

/-- A broken rule about words is broken by a keyword among them, or by `ORDER`
    with `BY` as the next one. -/
theorem exists_word_of_wordRules (hmem : rule ∈ wordRules role token words) (hbroken : rule.broken)
    (herror : rule.error = .unexpected (.containsKeyword token keyword)) :
    (keyword ∈ keywords ∧ ∃ word ∈ words, word.sameFold keyword = true) ∨
      keyword = chars "ORDER BY" ∧ ∃ word next, [word, next] <:+: words ∧
        word.sameFold (chars "ORDER") = true ∧ next.sameFold (chars "BY") = true := by
  induction words with
  | nil => exact absurd hmem List.not_mem_nil
  | cons word rest ih =>
      rw [wordRules, List.mem_cons, List.mem_cons] at hmem
      rcases hmem with rfl | rfl | hlater
      · obtain ⟨key, hkey, hsame, -⟩ := hbroken
        have hupper : word.upper = keyword := by
          injection herror with hcause
          injection hcause
        rw [(sameFold_iff (upper_keyword key hkey)).mp hsame] at hupper
        rw [← hupper]
        exact Or.inl ⟨hkey, word, List.mem_cons_self .., hsame⟩
      · obtain ⟨hfirst, next, hnext, hsecond⟩ := hbroken
        have horder : chars "ORDER BY" = keyword := by
          injection herror with hcause
          injection hcause
        obtain ⟨more, rfl⟩ := List.head?_eq_some_iff.mp hnext
        exact Or.inr ⟨horder.symm, word, next, ⟨[], more, rfl⟩, hfirst, hsecond⟩
      · rcases ih hlater with ⟨hkey, other, hother, hsame⟩ | ⟨heq, first, next, hpair, hsame⟩
        · exact Or.inl ⟨hkey, other, List.mem_cons_of_mem _ hother, hsame⟩
        · exact Or.inr ⟨heq, first, next, List.infix_cons hpair, hsame⟩

/-- A token that is refused because of a keyword has it among its words. -/
theorem exists_word_of_refused
    (h : check role token = .error (.unexpected (.containsKeyword token keyword))) :
    (keyword ∈ keywords ∧ ∃ word ∈ token.runs isWordChar, word.sameFold keyword = true) ∨
      keyword = chars "ORDER BY" ∧ ∃ word next, [word, next] <:+: token.runs isWordChar ∧
        word.sameFold (chars "ORDER") = true ∧ next.sameFold (chars "BY") = true := by
  have houtcome := outcome_check role token
  rw [h] at houtcome
  obtain ⟨rule, hmem, hbroken, herror⟩ := houtcome.exists_broken
  exact exists_word_of_wordRules (mem_wordRules_of_error hmem herror) hbroken herror

/-! ## Whole words -/

/-- A character of a name that is written without delimiters: a word
    character, or any character beyond ASCII. -/
def isNameChar (c : Char) : Bool := isWordChar c || decide (0x80 ≤ c.toNat)

/-- A character beyond ASCII stands directly before or after. -/
def BesideForeign (before after : Text) : Prop :=
  (∃ c ∈ before.getLast?, 0x80 ≤ c.toNat) ∨ ∃ c ∈ after.head?, 0x80 ≤ c.toNat

/-- A run of word characters is a whole word, unless it stands beside a
    character beyond ASCII. -/
theorem isRun_isNameChar_or (h : IsRun isWordChar before word after) :
    IsRun isNameChar before word after ∨ BesideForeign before after := by
  by_cases hbeside : BesideForeign before after
  · exact Or.inr hbeside
  · obtain ⟨hbefore, hafter⟩ := not_or.mp hbeside
    have hout : ∀ c : Char, isWordChar c = false → ¬ 0x80 ≤ c.toNat → isNameChar c = false := by
      intro c hword hforeign
      rw [isNameChar, hword, Bool.false_or]
      exact decide_eq_false hforeign
    refine Or.inl ⟨h.ne_nil, fun c hc => ?_, fun c hc => ?_, fun c hc => ?_⟩
    · rw [isNameChar, h.all c hc, Bool.true_or]
    · exact hout c (h.before c hc) fun hforeign => hbefore ⟨c, hc, hforeign⟩
    · exact hout c (h.after c hc) fun hforeign => hafter ⟨c, hc, hforeign⟩

/-- The keyword stands in the token as a whole word; `ORDER BY` as two whole
    words with nothing but blanks between them. -/
inductive Whole (token : Text) : Text → Prop where
  | word {word keyword : Text} (hkey : keyword ∈ keywords) (hrun : HasRun isNameChar token word)
      (hsame : word.sameFold keyword = true) : Whole token keyword
  | orderBy {before order gap next after : Text}
      (htoken : token = before ++ order ++ gap ++ next ++ after)
      (horder : IsRun isNameChar before order (gap ++ next ++ after))
      (hnext : IsRun isNameChar (before ++ order ++ gap) next after)
      (hgap : ∀ c ∈ gap, Text.isBlank c = true)
      (hfirst : order.sameFold (chars "ORDER") = true)
      (hsecond : next.sameFold (chars "BY") = true) : Whole token (chars "ORDER BY")

/-- What the guard takes for the keyword is a part of a longer word, cut off at
    a character beyond ASCII; or `ORDER` and `BY` with more than blanks
    between them. -/
inductive Mistaken (token : Text) : Text → Prop where
  | word {before word after keyword : Text} (hkey : keyword ∈ keywords)
      (htoken : token = before ++ word ++ after) (hrun : IsRun isWordChar before word after)
      (hsame : word.sameFold keyword = true) (hbeside : BesideForeign before after) :
      Mistaken token keyword
  | orderBy {before order gap next after : Text}
      (htoken : token = before ++ order ++ gap ++ next ++ after)
      (horder : IsRun isWordChar before order (gap ++ next ++ after))
      (hnext : IsRun isWordChar (before ++ order ++ gap) next after)
      (hgap : ∀ c ∈ gap, isWordChar c = false)
      (hfirst : order.sameFold (chars "ORDER") = true)
      (hsecond : next.sameFold (chars "BY") = true)
      (hflaw : BesideForeign before (gap ++ next ++ after) ∨
        BesideForeign (before ++ order ++ gap) after ∨ ∃ c ∈ gap, Text.isBlank c = false) :
      Mistaken token (chars "ORDER BY")

/-- A word that is refused is a whole word, or part of one of two named
    kinds. -/
theorem whole_or_mistaken_of_word (hkey : keyword ∈ keywords)
    (hword : word ∈ token.runs isWordChar) (hsame : word.sameFold keyword = true) :
    Whole token keyword ∨ Mistaken token keyword := by
  obtain ⟨before, after, rfl, hrun⟩ := Text.mem_runs_iff.mp hword
  rcases isRun_isNameChar_or hrun with hwhole | hbeside
  · exact Or.inl (.word hkey ⟨before, after, rfl, hwhole⟩ hsame)
  · exact Or.inr (.word hkey rfl hrun hsame hbeside)

/-- An `ORDER BY` that is refused is two whole words with blanks between, or
    one of the named mistakes. -/
theorem whole_or_mistaken_of_order {next : Text}
    (hpair : [word, next] <:+: token.runs isWordChar)
    (hfirst : word.sameFold (chars "ORDER") = true)
    (hsecond : next.sameFold (chars "BY") = true) :
    Whole token (chars "ORDER BY") ∨ Mistaken token (chars "ORDER BY") := by
  obtain ⟨before, gap, after, rfl, hgap, horder, hnext⟩ := Text.pair_infix_runs_iff.mp hpair
  have hmistaken := fun hflaw => Mistaken.orderBy rfl horder hnext hgap hfirst hsecond hflaw
  rcases isRun_isNameChar_or horder with hwhole | hbeside
  · rcases isRun_isNameChar_or hnext with hwhole' | hbeside'
    · by_cases hblank : ∀ c ∈ gap, Text.isBlank c = true
      · exact Or.inl (.orderBy rfl hwhole hwhole' hblank hfirst hsecond)
      · simp only [not_forall, Bool.not_eq_true, exists_prop] at hblank
        exact Or.inr (hmistaken (Or.inr (Or.inr hblank)))
    · exact Or.inr (hmistaken (Or.inr (Or.inl hbeside')))
  · exact Or.inr (hmistaken (Or.inl hbeside))

/-- `ORDER BY` stands as two words only where there is a blank. -/
theorem Whole.exists_blank (h : Whole token (chars "ORDER BY")) :
    ∃ c ∈ token, Text.isBlank c = true := by
  have hnot : chars "ORDER BY" ∉ keywords := by with_unfolding_all decide
  generalize hkeyword : chars "ORDER BY" = keyword at h
  cases h with
  | word hkey _ _ => exact absurd (hkeyword ▸ hkey) hnot
  | @orderBy before order gap next after htoken horder hnext hgap _ _ =>
      cases gap with
      | nil =>
          -- the second word would go on where the first one ends
          obtain ⟨c, rest, rfl⟩ := List.exists_cons_of_ne_nil hnext.ne_nil
          have hin := hnext.all c (List.mem_cons_self ..)
          exact Bool.noConfusion (hin.symm.trans (horder.after c rfl))
      | cons c gap =>
          refine ⟨c, ?_, hgap c (List.mem_cons_self ..)⟩
          rw [htoken]
          simp

/-- Nothing is taken for a keyword by mistake in a token of ASCII characters,
    and nothing for `ORDER BY` if these are word characters and blanks. -/
theorem not_mistaken (hascii : ∀ c ∈ token, c.toNat < 0x80)
    (hplain : keyword ∈ keywords ∨ ∀ c ∈ token, isWordChar c = true ∨ Text.isBlank c = true) :
    ¬ Mistaken token keyword := by
  have hbeside : ∀ {front word rest : Text}, token = front ++ word ++ rest →
      ¬ BesideForeign front rest := by
    rintro front word rest rfl (⟨c, hc, hforeign⟩ | ⟨c, hc, hforeign⟩)
    · have hmem := List.mem_append_left rest
        (List.mem_append_left word (List.mem_of_mem_getLast? hc))
      exact absurd (hascii c hmem) (Nat.not_lt.mpr hforeign)
    · have hmem := List.mem_append_right (front ++ word) (List.mem_of_mem_head? hc)
      exact absurd (hascii c hmem) (Nat.not_lt.mpr hforeign)
  have hnot : chars "ORDER BY" ∉ keywords := by with_unfolding_all decide
  intro h
  cases h with
  | word _ htoken _ _ hforeign => exact hbeside htoken hforeign
  | @orderBy before order gap next after htoken _ _ hgap _ _ hflaw =>
      have hfront : token = before ++ order ++ (gap ++ next ++ after) := by
        rw [htoken]
        simp only [List.append_assoc]
      rcases hflaw with hfirst | hsecond | ⟨c, hc, hfilled⟩
      · exact hbeside hfront hfirst
      · exact hbeside htoken hsecond
      · have hmem : c ∈ token := by
          rw [htoken]
          simp [hc]
        rcases (hplain.resolve_left hnot) c hmem with hword | hblank
        · exact Bool.noConfusion (hword.symm.trans (hgap c hc))
        · exact Bool.noConfusion (hblank.symm.trans hfilled)

/-- **Keywords are words**: a keyword for which a token is refused stands in it
    as a whole word, unless the guard is mistaken; and it is not mistaken in a
    token of ASCII characters, nor about `ORDER BY` if these are word
    characters and blanks. -/
theorem whole_of_refused
    (h : check role token = .error (.unexpected (.containsKeyword token keyword))) :
    (Whole token keyword ∨ Mistaken token keyword) ∧
      ((∀ c ∈ token, c.toNat < 0x80) →
        (keyword ∈ keywords ∨ ∀ c ∈ token, isWordChar c = true ∨ Text.isBlank c = true) →
        Whole token keyword) := by
  have hfound : Whole token keyword ∨ Mistaken token keyword := by
    rcases exists_word_of_refused h with ⟨hkey, word, hword, hsame⟩ |
        ⟨rfl, word, next, hpair, hsame⟩
    · exact whole_or_mistaken_of_word hkey hword hsame
    · exact whole_or_mistaken_of_order hpair hsame.1 hsame.2
  exact ⟨hfound, fun hascii hplain => hfound.resolve_right (not_mistaken hascii hplain)⟩

/-- Several blanks between the two words, in any case of letters. -/
theorem whole_of_refused_spaced :
    check .name (chars "a Order \t by") =
        .error (.unexpected (.containsKeyword (chars "a Order \t by") (chars "ORDER BY"))) ∧
      Whole (chars "a Order \t by") (chars "ORDER BY") := by
  have h : check .name (chars "a Order \t by") =
      .error (.unexpected (.containsKeyword (chars "a Order \t by") (chars "ORDER BY"))) := by
    decide +kernel
  exact ⟨h, (whole_of_refused h).2 (by decide +kernel) (Or.inr (by decide +kernel))⟩

/-- A word goes on beyond ASCII, where the guard takes it to end; and a dot
    stands between two segments of a name. -/
theorem not_whole_of_letter_beyond_ascii :
    (¬ (check .value (chars "Señor") =
          .error (.unexpected (.containsKeyword (chars "Señor") (chars "OR"))) →
        Whole (chars "Señor") (chars "OR"))) ∧
      ¬ (check .name (chars "order.by") =
          .error (.unexpected (.containsKeyword (chars "order.by") (chars "ORDER BY"))) →
        Whole (chars "order.by") (chars "ORDER BY")) := by
  constructor
  · intro hrefused_only_whole
    have hwhole := hrefused_only_whole (by decide +kernel)
    have hkeyword : chars "OR" ≠ chars "ORDER BY" := by with_unfolding_all decide
    generalize heq : chars "OR" = keyword at hwhole
    cases hwhole with
    | word _ hrun hsame =>
        have hruns : (chars "Señor").runs isNameChar = [chars "Señor"] := by decide +kernel
        have hmem := Text.mem_runs_iff.mpr hrun
        rw [hruns, List.mem_singleton] at hmem
        rw [hmem, ← heq] at hsame
        exact absurd hsame (by decide +kernel)
    | orderBy => exact hkeyword heq
  · intro hrefused_only_whole
    have hwhole := hrefused_only_whole (by decide +kernel)
    exact absurd hwhole.exists_blank (by decide +kernel)

end GuardedSql.Token
