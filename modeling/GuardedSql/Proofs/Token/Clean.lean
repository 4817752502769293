import GuardedSql.Proofs.Text.Case
import GuardedSql.Proofs.Text.Trim
import GuardedSql.Proofs.Token.Accepted

/-! # Clean tokens — what is refused wherever it stands

    Most of what the guard refuses, it refuses wherever it stands in a token:
    the wildcard, backticks in values, symbols, keywords and `ORDER BY`.
    `Clean` says that a token has none of it, except for what its role lets
    pass.  None of it holds a blank, so that trimming a token takes nothing of
    it away. -/

namespace GuardedSql

/-! ## Blanks -/

namespace Text

variable {t piece : Text}

/-- Trimming takes off no piece of a text that has no blank. -/
theorem infix_trim_iff (hne : piece ≠ []) (hpiece : ∀ c ∈ piece, isBlank c = false) :
    piece <:+: t.trim ↔ piece <:+: t := by
  have hblank : ∀ {u : Text}, (∀ c ∈ u, isBlank c = true) → ∀ c ∈ u, c ∉ piece := by
    intro u hu c hc hmem
    exact Bool.noConfusion ((hu c hc).symm.trans (hpiece c hmem))
  obtain ⟨front, back, ht, hfront, hback⟩ := padded_trim t
  have hcut := (infix_append_iff_left hne (hblank hback) (front ++ t.trim)).trans
    (infix_append_iff_right hne (hblank hfront) t.trim)
  rw [← ht] at hcut
  exact hcut.symm

/-- What is left by trimming is nothing, or holds more than blanks. -/
theorem exists_not_isBlank_of_trim_ne_nil (h : t.trim ≠ []) :
    ∃ c ∈ t.trim, isBlank c = false := by
  refine Classical.byContradiction fun hnone => h (trimWith_eq_nil_iff.mpr fun c hc => ?_)
  obtain ⟨front, back, ht, hfront, hback⟩ := padded_trim t
  rw [ht] at hc
  rcases List.mem_append.mp hc with hleft | hc
  · rcases List.mem_append.mp hleft with hc | hc
    · exact hfront c hc
    · exact (Bool.not_eq_false _).mp fun hfalse => hnone ⟨c, hc, hfalse⟩
  · exact hback c hc

end Text

namespace Token

variable {role : Role} {token t word piece : Text} {words exempted : List Text}

theorem not_isWordChar_of_isBlank {c : Char} (h : Text.isBlank c = true) :
    isWordChar c = false := by
  refine Bool.eq_false_iff.mpr fun hword => ?_
  rw [isWordChar, Bool.or_eq_true, Bool.or_eq_true, beq_iff_eq, beq_iff_eq] at hword
  rcases hword with (hletter | rfl) | rfl
  · exact Bool.noConfusion (h.symm.trans (Text.isBlank_of_isAlphanum hletter))
  · exact absurd h (by decide)
  · exact absurd h (by decide)

/-- Trimming leaves the words of a text. -/
@[simp] theorem wordsOf_trim (t : Text) : wordsOf t.trim = wordsOf t := by
  obtain ⟨front, back, ht, hfront, hback⟩ := Text.padded_trim t
  have hout : ∀ {u : Text}, (∀ c ∈ u, Text.isBlank c = true) → ∀ c ∈ u, isWordChar c = false :=
    fun hu c hc => not_isWordChar_of_isBlank (hu c hc)
  have hruns := Text.runs_around (hout hfront) (hout hback) t.trim
  rw [← ht] at hruns
  rw [wordsOf, wordsOf, hruns]

/-! ## Clean tokens -/

/-- What no value holds, whatever stands around it. -/
def forbidden : List Text := ['*'] :: [Name.tick] :: symbols

/-- What the role lets pass: the mark of a range, and the comma of a list. -/
def exempt : Role → List Text
  | .range => [chars "AND"]
  | .list => [[',']]
  | _ => []

/-- The token holds nothing that the guard refuses wherever it stands, the
    exempted apart: no wildcard, backtick or symbol, no keyword as a word, and
    not `ORDER` directly before `BY`. -/
structure Clean (exempted : List Text) (token : Text) : Prop where
  pieces : ∀ piece ∈ forbidden, piece <:+: token → piece ∈ exempted
  words : ∀ word ∈ wordsOf token, word ∈ keywords → word ∈ exempted
  orderBy : ¬ [chars "ORDER", chars "BY"] <:+: wordsOf token

/-- What no value holds has no blanks and no characters of words. -/
theorem forbidden_apart : ∀ piece ∈ forbidden,
    piece ≠ [] ∧ ∀ c ∈ piece, Text.isBlank c = false ∧ isWordChar c = false := by
  with_unfolding_all decide

/-- Blanks at its ends do not make a text less clean. -/
theorem clean_trim_iff : Clean exempted token.trim ↔ Clean exempted token := by
  have hpieces : ∀ piece ∈ forbidden, piece <:+: token.trim ↔ piece <:+: token := by
    intro piece hpiece
    obtain ⟨hne, hchars⟩ := forbidden_apart piece hpiece
    exact Text.infix_trim_iff hne fun c hc => (hchars c hc).1
  constructor
  · intro h
    refine ⟨fun piece hpiece hin => h.pieces piece hpiece ((hpieces piece hpiece).mpr hin), ?_, ?_⟩
    · exact wordsOf_trim token ▸ h.words
    · exact wordsOf_trim token ▸ h.orderBy
  · intro h
    refine ⟨fun piece hpiece hin => h.pieces piece hpiece ((hpieces piece hpiece).mp hin), ?_, ?_⟩
    · exact (wordsOf_trim token).symm ▸ h.words
    · exact (wordsOf_trim token).symm ▸ h.orderBy

/-! ## Accepted tokens are clean -/

/-- Nothing is found among words exactly if none is a keyword, `AND` in a
    range apart, and `BY` does not follow `ORDER`. -/
theorem keywordIn?_eq_none_iff :
    keywordIn? role words = none ↔
      (∀ word ∈ words, word ∈ keywords → word = chars "AND" ∧ role = .range) ∧
        ¬ [chars "ORDER", chars "BY"] <:+: words := by
  constructor
  · intro h
    refine ⟨fun word hword hkey => not_mem_keywords_of_keywordIn? h hword hkey, ?_⟩
    rintro ⟨before, after, rfl⟩
    rw [List.append_assoc] at h
    exact keywordIn?_order_by before after h
  · rintro ⟨hwords, horder⟩
    induction words with
    | nil => rfl
    | cons word rest ih =>
        obtain ⟨hword, hrest⟩ := List.forall_mem_cons.mp hwords
        rw [List.infix_cons_iff, not_or] at horder
        have hnone := ih hrest horder.2
        rw [keywordIn?]
        by_cases hand : word = chars "AND" ∧ role = .range
        · rw [if_pos hand, hnone]
        · have hby : ¬ (word = chars "ORDER" ∧ rest.head? = some (chars "BY")) := by
            rintro ⟨rfl, hnext⟩
            obtain ⟨rest, rfl⟩ := List.head?_eq_some_iff.mp hnext
            exact horder.1 ⟨rest, rfl⟩
          rw [if_neg hand, if_neg fun hkey => hand (hword hkey), if_neg hby, hnone]

/-- No symbol is found exactly if none stands in the token, commas in a list
    apart. -/
theorem symbolIn?_eq_none_iff :
    symbolIn? role token = none ↔
      ∀ symbol ∈ symbols, symbol <:+: token → symbol = [','] ∧ role = .list := by
  rw [symbolIn?, List.find?_eq_none]
  refine forall₂_congr fun symbol _ => ?_
  have hcomma : (symbol == [','] && role == .list) = true ↔ symbol = [','] ∧ role = .list := by
    rw [Bool.and_eq_true, beq_iff_eq, beq_iff_eq]
  rw [← hcomma, ← Text.occursIn_iff]
  cases symbol == [','] && role == .list <;> simp

/-- The one keyword that is let through is the `AND` of a range. -/
theorem keyword_mem_exempt_iff (hkey : word ∈ keywords) :
    word ∈ exempt role ↔ word = chars "AND" ∧ role = .range := by
  have hcomma : word ≠ [','] := by
    rintro rfl
    exact absurd hkey (by with_unfolding_all decide)
  cases role with
  | range | name | value | list => simp [exempt, hcomma]

/-- The one symbol that is let through is the comma of a list. -/
theorem piece_mem_exempt_iff (hpiece : piece ∈ forbidden) :
    piece ∈ exempt role ↔ piece = [','] ∧ role = .list := by
  have hand : piece ≠ chars "AND" := by
    rintro rfl
    exact absurd hpiece (by with_unfolding_all decide)
  cases role with
  | range | name | value | list => simp [exempt, hand]

/-- What the guard looks for in the characters of a token that is no name. -/
theorem pieces_iff (hname : role ≠ .name) :
    (∀ piece ∈ forbidden, piece <:+: token → piece ∈ exempt role) ↔
      token.contains '*' = false ∧ symbolIn? role token = none ∧
        misplacedTick role token = false := by
  have hchar : ∀ c, [c] ∈ forbidden → c ≠ ',' →
      (([c] <:+: token → [c] ∈ exempt role) ↔ token.contains c = false) := by
    intro c hc hcomma
    have hnot : [c] ∉ exempt role := fun hmem =>
      hcomma (List.singleton_inj.mp ((piece_mem_exempt_iff hc).mp hmem).1)
    rw [List.singleton_infix_iff, ← List.contains_iff_mem, ← Bool.not_eq_true]
    exact ⟨fun h hin => hnot (h hin), fun h hin => absurd hin h⟩
  have htick : misplacedTick role token = token.contains Name.tick := by
    cases role with
    | name => exact absurd rfl hname
    | value | range | list => rfl
  have hsymbols : symbolIn? role token = none ↔
      ∀ symbol ∈ symbols, symbol <:+: token → symbol ∈ exempt role := by
    rw [symbolIn?_eq_none_iff]
    refine forall₂_congr fun symbol hsymbol => imp_congr_right fun _ => ?_
    exact (piece_mem_exempt_iff (List.mem_cons_of_mem _ (List.mem_cons_of_mem _ hsymbol))).symm
  rw [htick, hsymbols, ← hchar '*' (List.mem_cons_self ..) (by decide),
    ← hchar Name.tick (List.mem_cons_of_mem _ (List.mem_cons_self ..)) (by decide), forbidden,
    List.forall_mem_cons, List.forall_mem_cons]
  exact and_congr_right fun _ => and_comm

/-- **Accepted tokens**, names apart, are not blank, clean but for what is
    exempt, and have what their role asks for. -/
theorem accepted_iff_clean (hname : role ≠ .name) :
    Accepted role token ↔
      (∃ c ∈ token, Text.isBlank c = false) ∧ Clean (exempt role) token ∧
        checkRole role token = .ok () := by
  have hfilled : token.allBlank = false ↔ ∃ c ∈ token, Text.isBlank c = false := by
    rw [Text.allBlank, List.all_eq_false]
    simp only [Bool.not_eq_true]
  have hwords : keywordIn? role (wordsOf token) = none ↔
      (∀ word ∈ wordsOf token, word ∈ keywords → word ∈ exempt role) ∧
        ¬ [chars "ORDER", chars "BY"] <:+: wordsOf token := by
    rw [keywordIn?_eq_none_iff]
    refine and_congr_left fun _ => forall₂_congr fun word _ => forall_congr' fun hkey => ?_
    exact (keyword_mem_exempt_iff hkey).symm
  rw [accepted_iff, hfilled, hwords]
  constructor
  · rintro ⟨hstar, hfilled, hsymbols, htick, ⟨hkeywords, horder⟩, hrole⟩
    exact ⟨hfilled, ⟨(pieces_iff hname).mpr ⟨hstar, hsymbols, htick⟩, hkeywords, horder⟩, hrole⟩
  · rintro ⟨hfilled, hclean, hrole⟩
    obtain ⟨hstar, hsymbols, htick⟩ := (pieces_iff hname).mp hclean.pieces
    exact ⟨hstar, hfilled, hsymbols, htick, ⟨hclean.words, hclean.orderBy⟩, hrole⟩

/-- A value is accepted exactly if it is not blank and clean without
    exception. -/
theorem accepted_value_iff :
    Accepted .value token ↔ (∃ c ∈ token, Text.isBlank c = false) ∧ Clean [] token := by
  rw [accepted_iff_clean (by decide)]
  exact and_congr_right fun _ => and_iff_left rfl

/-- Blanks at its ends do not matter to a value. -/
theorem accepted_value_trim : Accepted .value token.trim ↔ Accepted .value token := by
  have hfilled : (∃ c ∈ token.trim, Text.isBlank c = false) ↔
      ∃ c ∈ token, Text.isBlank c = false := by
    constructor
    · rintro ⟨c, hc, hfilled⟩
      exact ⟨c, Text.mem_of_mem_trim hc, hfilled⟩
    · rintro ⟨c, hc, hfilled⟩
      refine Text.exists_not_isBlank_of_trim_ne_nil fun hnil => ?_
      rw [Text.trimWith_eq_nil_iff.mp hnil c hc] at hfilled
      exact Bool.noConfusion hfilled
  rw [accepted_value_iff, accepted_value_iff, hfilled, clean_trim_iff]

end Token

end GuardedSql
