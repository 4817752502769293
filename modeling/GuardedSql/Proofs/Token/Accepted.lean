import GuardedSql.Proofs.Text.Words

/-! # Accepted tokens — what the guard promises of a token it lets through

    `Token.check` is a chain of tests.  `accepted_iff` undoes the chain once;
    every later module uses what follows from it: the characters an accepted
    token cannot hold, where its backticks stand, and the words it cannot
    hold. -/

namespace GuardedSql.Token

variable {role : Role} {token : Text}

/-- The guard lets the token through in its role. -/
def Accepted (role : Role) (token : Text) : Prop := check role token = .ok ()

instance (role : Role) (token : Text) : Decidable (Accepted role token) :=
  match h : check role token with
  | .ok () => isTrue h
  | .error _ => isFalse (by rw [Accepted, h]; nofun)

/-- A token is accepted when every test of the chain lets it pass. -/
theorem accepted_iff :
    Accepted role token ↔
      token.contains '*' = false ∧ token.allBlank = false ∧
      symbolIn? role token = none ∧ misplacedTick role token = false ∧
      keywordIn? role (wordsOf token) = none ∧
      checkRole role token = .ok () := by
  rw [Accepted, check]
  cases hstar : token.contains '*' with
  | true => simp
  | false =>
      cases hblank : token.allBlank with
      | true => simp
      | false =>
          cases hsymbol : symbolIn? role token with
          | some symbol => simp
          | none =>
              cases htick : misplacedTick role token with
              | true => simp
              | false =>
                  cases hword : keywordIn? role (wordsOf token) with
                  | some keyword => simp
                  | none => simp

/-! ## Characters -/

theorem occursIn_singleton {c : Char} {t : Text} :
    Text.occursIn [c] t = true ↔ c ∈ t := by
  rw [Text.occursIn_iff, List.singleton_infix_iff]

/-- An accepted token holds none of the symbols of one character; only a list
    may hold commas. -/
theorem Accepted.not_mem (h : Accepted role token) {c : Char}
    (hc : [c] ∈ symbols) (hcomma : role = .list → c ≠ ',') : c ∉ token := by
  intro hmem
  obtain ⟨-, -, hsymbol, -⟩ := accepted_iff.mp h
  have hfound := List.find?_eq_none.mp hsymbol [c] hc
  have hoccurs : Text.occursIn [c] token = true := occursIn_singleton.mpr hmem
  rw [hoccurs, Bool.and_true] at hfound
  have hlist : ([c] == [','] && role == .list) = true := by
    simpa using hfound
  rw [Bool.and_eq_true, beq_iff_eq, beq_iff_eq] at hlist
  exact hcomma hlist.2 (List.singleton_inj.mp hlist.1)

theorem Accepted.quote_not_mem (h : Accepted role token) : '\'' ∉ token :=
  h.not_mem (by with_unfolding_all decide) (fun _ => by decide)

theorem Accepted.doubleQuote_not_mem (h : Accepted role token) : '"' ∉ token :=
  h.not_mem (by with_unfolding_all decide) (fun _ => by decide)

theorem Accepted.semicolon_not_mem (h : Accepted role token) : ';' ∉ token :=
  h.not_mem (by with_unfolding_all decide) (fun _ => by decide)

/-- Only names hold backticks. -/
theorem Accepted.tick_not_mem (h : Accepted role token) (hrole : role ≠ .name) :
    Name.tick ∉ token := by
  obtain ⟨-, -, -, htick, -⟩ := accepted_iff.mp h
  cases role with
  | name => exact absurd rfl hrole
  | value | range | list =>
      intro hmem
      have hnone : token.contains Name.tick = false := htick
      rw [List.contains_iff_mem.mpr hmem] at hnone
      exact Bool.noConfusion hnone

/-- Between its delimiters no segment of an accepted name holds a backtick. -/
theorem Accepted.inner_tick_not_mem (h : Accepted .name token) {segment : Text}
    (hsegment : segment ∈ Name.segments token) :
    Name.tick ∉ Name.inner segment := by
  obtain ⟨-, -, -, htick, -⟩ := accepted_iff.mp h
  intro hmem
  have hall := List.any_eq_false.mp htick segment hsegment
  exact hall (List.contains_iff_mem.mpr hmem)

/-! ## Ranges -/

/-- An accepted range has bounds. -/
theorem Accepted.exists_bounds (h : Accepted .range token) :
    ∃ low high, Literal.bounds? token = some (low, high) := by
  obtain ⟨-, -, -, -, -, hrole⟩ := accepted_iff.mp h
  rw [checkRole] at hrole
  split at hrole
  · rename_i hsome
    obtain ⟨⟨low, high⟩, hbounds⟩ := Option.isSome_iff_exists.mp hsome
    exact ⟨low, high, hbounds⟩
  · exact nomatch hrole

/-! ## Words -/

/-- A character that belongs to no word cuts a text between two words. -/
theorem wordsOf_append_cons {c : Char} (hc : isWordChar c = false) (x y : Text) :
    wordsOf (x ++ c :: y) = wordsOf x ++ wordsOf y := by
  rw [wordsOf, Text.runs_append_cons hc, List.map_append]
  rfl

/-- The words of a join are those of its texts, if the separator belongs to no
    word. -/
theorem wordsOf_join {between : String} {sep : Char} (hbetween : chars between = [sep])
    (hsep : isWordChar sep = false) (ts : List Text) :
    wordsOf (Text.join between ts) = ts.flatMap wordsOf := by
  have hne : chars between ≠ [] := by
    rw [hbetween]
    exact List.cons_ne_nil _ _
  have hout : ∀ c ∈ chars between, isWordChar c = false := by
    rw [hbetween]
    exact List.forall_mem_singleton.mpr hsep
  rw [wordsOf, Text.runs_join hne hout, List.map_flatMap]
  rfl

/-- A word that passes the test for keywords is none, `AND` in a range
    apart. -/
theorem not_mem_keywords_of_keywordIn? {words : List Text}
    (h : keywordIn? role words = none) {word : Text} (hword : word ∈ words)
    (hkey : word ∈ keywords) : word = chars "AND" ∧ role = .range := by
  induction words with
  | nil => exact nomatch hword
  | cons first rest ih =>
      rw [keywordIn?] at h
      split at h
      · rename_i hand
        rcases List.mem_cons.mp hword with rfl | hrest
        · exact hand
        · exact ih h hrest
      · split at h
        · exact nomatch h
        · rename_i hfirst
          split at h
          · exact nomatch h
          · rcases List.mem_cons.mp hword with rfl | hrest
            · exact absurd hkey hfirst
            · exact ih h hrest

/-- The test for keywords finds `ORDER` directly before `BY`. -/
theorem keywordIn?_order_by (before after : List Text) :
    keywordIn? role (before ++ chars "ORDER" :: chars "BY" :: after) ≠ none := by
  induction before with
  | nil =>
      have hand : chars "ORDER" ≠ chars "AND" := by with_unfolding_all decide
      have hkey : chars "ORDER" ∉ keywords := by with_unfolding_all decide
      simp [keywordIn?, hand, hkey]
  | cons first before ih =>
      intro h
      rw [List.cons_append, keywordIn?] at h
      split at h
      · exact ih h
      · split at h
        · exact nomatch h
        · split at h
          · exact nomatch h
          · exact ih h

/-- In a name a word is found if it is a keyword, or `ORDER` before `BY`. -/
theorem keywordIn?_name_cons (word : Text) (rest : List Text) :
    keywordIn? .name (word :: rest) =
      if word ∈ keywords then some word
      else if word = chars "ORDER" ∧ rest.head? = some (chars "BY") then
        some (chars "ORDER BY")
      else keywordIn? .name rest := by
  have hrange : ¬ (word = chars "AND" ∧ Role.name = .range) := by
    rintro ⟨-, h⟩
    exact Role.noConfusion h
  rw [keywordIn?, if_neg hrange]

/-- Words in which nothing is found may follow each other, unless `ORDER` and
    `BY` meet. -/
theorem keywordIn?_name_append {words more : List Text} (h : keywordIn? .name words = none)
    (hmore : keywordIn? .name more = none) (hby : more.head? ≠ some (chars "BY")) :
    keywordIn? .name (words ++ more) = none := by
  induction words with
  | nil => exact hmore
  | cons word words ih =>
      rw [keywordIn?_name_cons] at h
      rw [List.cons_append, keywordIn?_name_cons]
      by_cases hkey : word ∈ keywords
      · rw [if_pos hkey] at h
        exact absurd h (Option.some_ne_none _)
      · rw [if_neg hkey] at h
        rw [if_neg hkey]
        by_cases horder : word = chars "ORDER" ∧ words.head? = some (chars "BY")
        · rw [if_pos horder] at h
          exact absurd h (Option.some_ne_none _)
        · rw [if_neg horder] at h
          rw [if_neg, ih h]
          -- the next word is that of `words`, or the first of `more`
          rintro ⟨rfl, hnext⟩
          cases words with
          | nil => exact hby hnext
          | cons next words => exact horder ⟨rfl, hnext⟩

/-- An accepted token holds no keyword as a word, `AND` in a range apart. -/
theorem Accepted.not_mem_keywords (h : Accepted role token) (hrole : role ≠ .range)
    {word : Text} (hword : word ∈ wordsOf token) : word ∉ keywords := by
  obtain ⟨-, -, -, -, hkeyword, -⟩ := accepted_iff.mp h
  intro hkey
  exact hrole (not_mem_keywords_of_keywordIn? hkeyword hword hkey).2

end GuardedSql.Token
