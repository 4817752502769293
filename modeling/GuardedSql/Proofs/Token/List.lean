import GuardedSql.Proofs.Token.Clean
import GuardedSql.Proofs.Token.Grammar

/-! # Lists — a list is as acceptable as its items

    The guard goes over a list as a whole, and lets commas pass.  What it
    refuses otherwise has no comma in it, and a comma ends a word; so it stands
    in a list exactly if it stands in an item.  There is one exception: `ORDER`
    and `BY` are looked for as neighbours among the words of the whole list,
    and may be the last word of one item and the first of a later one. -/

namespace GuardedSql.Token

variable {role : Role} {token : Text} {words values : List Text}

/-! ## What stands across a comma -/

/-- `ORDER` is the last word before some comma, and `BY` the first after it. -/
def OrderByAcross (token : Text) : Prop :=
  ∃ before after, token = before ++ ',' :: after ∧
    [chars "ORDER"] <:+ wordsOf before ∧ [chars "BY"] <+: wordsOf after

/-- An `ORDER` and a `BY` across commas are neighbours among the words. -/
theorem OrderByAcross.infix (h : OrderByAcross token) :
    [chars "ORDER", chars "BY"] <:+: wordsOf token := by
  obtain ⟨before, after, rfl, hbefore, hafter⟩ := h
  rw [wordsOf_append_cons (by decide), Text.pair_infix_append_iff]
  exact Or.inr (Or.inr ⟨hbefore, hafter⟩)

theorem OrderByAcross.append (h : OrderByAcross token) (front : Text) :
    OrderByAcross (front ++ ',' :: token) := by
  obtain ⟨before, after, rfl, hbefore, hafter⟩ := h
  refine ⟨front ++ ',' :: before, after, by simp, ?_, hafter⟩
  rw [wordsOf_append_cons (by decide)]
  exact hbefore.trans (List.suffix_append _ _)

/-- `ORDER` and `BY` are neighbours in one of the values, or across a comma. -/
theorem orderBy_infix_join_iff (values : List Text) :
    [chars "ORDER", chars "BY"] <:+: wordsOf (Text.join "," values) ↔
      (∃ value ∈ values, [chars "ORDER", chars "BY"] <:+: wordsOf value) ∨
        OrderByAcross (Text.join "," values) := by
  constructor
  · induction values with
    | nil =>
        intro h
        exact absurd (List.infix_nil.mp h) (List.cons_ne_nil _ _)
    | cons value values ih =>
        intro h
        by_cases hvalues : values = []
        · simp only [hvalues, Text.join_singleton] at h
          exact Or.inl ⟨value, List.mem_cons_self .., h⟩
        · have hjoin : Text.join "," (value :: values) =
              value ++ ',' :: Text.join "," values := by
            rw [Text.join_cons_of_ne_nil hvalues, Text.chars_comma, List.append_assoc]
            rfl
          rw [hjoin, wordsOf_append_cons (by decide), Text.pair_infix_append_iff] at h
          rcases h with hvalue | hrest | hseam
          · exact Or.inl ⟨value, List.mem_cons_self .., hvalue⟩
          · rcases ih hrest with ⟨other, hmem, hother⟩ | hacross
            · exact Or.inl ⟨other, List.mem_cons_of_mem _ hmem, hother⟩
            · exact Or.inr (hjoin ▸ hacross.append value)
          · exact Or.inr ⟨value, Text.join "," values, hjoin, hseam⟩
  · rintro (⟨value, hmem, hvalue⟩ | hacross)
    · rw [wordsOf_join Text.chars_comma (by decide)]
      exact hvalue.trans (List.infix_of_mem_flatten (List.mem_map_of_mem hmem))
    · exact hacross.infix

/-! ## Values between commas -/

/-- What no value holds stands in a list exactly if it stands in an item,
    commas apart. -/
theorem pieces_join_iff (hcomma : ∀ value ∈ values, ',' ∉ value) :
    (∀ piece ∈ forbidden, piece <:+: Text.join "," values → piece ∈ exempt .list) ↔
      ∀ value ∈ values, ∀ piece ∈ forbidden, ¬ piece <:+: value := by
  have hforbidden : ∀ piece ∈ forbidden, piece ≠ [','] → ',' ∉ piece := by
    with_unfolding_all decide
  have hin : ∀ piece ∈ forbidden, piece ≠ [','] →
      (piece <:+: Text.join "," values ↔ ∃ value ∈ values, piece <:+: value) :=
    fun piece hpiece hne => Text.infix_join_iff Text.chars_comma (forbidden_apart piece hpiece).1
      (hforbidden piece hpiece hne)
  constructor
  · intro h value hvalue piece hpiece hstands
    have hne : piece ≠ [','] := by
      rintro rfl
      exact hcomma value hvalue ((List.singleton_infix_iff ..).mp hstands)
    have hlist := h piece hpiece ((hin piece hpiece hne).mpr ⟨value, hvalue, hstands⟩)
    exact hne (List.mem_singleton.mp hlist)
  · intro h piece hpiece hstands
    by_cases heq : piece = [',']
    · rw [heq]
      exact List.mem_singleton_self _
    · obtain ⟨value, hvalue, hinValue⟩ := (hin piece hpiece heq).mp hstands
      exact absurd hinValue (h value hvalue piece hpiece)

/-- A list holds no keyword exactly if none of its items does. -/
theorem keywords_join_iff (values : List Text) :
    (∀ word ∈ wordsOf (Text.join "," values), word ∉ keywords) ↔
      ∀ value ∈ values, ∀ word ∈ wordsOf value, word ∉ keywords := by
  rw [wordsOf_join Text.chars_comma (by decide)]
  simp only [List.mem_flatMap, forall_exists_index, and_imp]
  exact ⟨fun h value hvalue word hword => h word value hvalue hword,
    fun h word value hvalue hword => h value hvalue word hword⟩

/-- Every item of a list must hold more than blanks. -/
theorem checkRole_join_iff (hne : values ≠ []) (hcomma : ∀ value ∈ values, ',' ∉ value) :
    checkRole .list (Text.join "," values) = .ok () ↔
      ∀ value ∈ values, ∃ c ∈ value, Text.isBlank c = false := by
  have hitems : Literal.items (Text.join "," values) = values.map Text.trim := by
    rw [Literal.items, Text.splitOn_join Text.chars_comma hne hcomma]
  have hany : (values.map Text.trim).any List.isEmpty = false ↔
      ∀ value ∈ values, ∃ c ∈ value, Text.isBlank c = false := by
    rw [List.any_eq_false, List.forall_mem_map]
    refine forall₂_congr fun value _ => ?_
    simp [Text.allBlank]
  rw [checkRole, hitems, ← hany]
  cases (values.map Text.trim).any List.isEmpty with
  | true => simp
  | false => exact iff_of_true rfl rfl

/-- A list of filled items is not blank. -/
theorem exists_filled_join (hne : values ≠ [])
    (hfilled : ∀ value ∈ values, ∃ c ∈ value, Text.isBlank c = false) :
    ∃ c ∈ Text.join "," values, Text.isBlank c = false := by
  obtain ⟨first, rest, rfl⟩ := List.exists_cons_of_ne_nil hne
  obtain ⟨c, hc, hblank⟩ := hfilled first (List.mem_cons_self ..)
  refine ⟨c, ?_, hblank⟩
  rw [Text.join_cons]
  exact List.mem_append_left _ hc

/-- An accepted value has more than blanks, nothing that is refused wherever it
    stands, no keyword among its words and no `ORDER BY`. -/
theorem accepted_value_iff_parts :
    Accepted .value token ↔
      (∃ c ∈ token, Text.isBlank c = false) ∧ (∀ piece ∈ forbidden, ¬ piece <:+: token) ∧
        (∀ word ∈ wordsOf token, word ∉ keywords) ∧
        ¬ [chars "ORDER", chars "BY"] <:+: wordsOf token := by
  rw [accepted_value_iff]
  refine and_congr_right fun _ => ?_
  constructor
  · intro h
    refine ⟨fun piece hpiece hin => ?_, fun word hword hkey => ?_, h.orderBy⟩
    · exact List.not_mem_nil (h.pieces piece hpiece hin)
    · exact List.not_mem_nil (h.words word hword hkey)
  · rintro ⟨hpieces, hwords, horder⟩
    exact ⟨fun piece hpiece hin => absurd hin (hpieces piece hpiece),
      fun word hword hkey => absurd hkey (hwords word hword), horder⟩

/-- Accepted values between commas pass every test of a list but the one for
    `ORDER BY`. -/
theorem join_of_accepted (hne : values ≠ []) (h : ∀ value ∈ values, Accepted .value value) :
    (∃ c ∈ Text.join "," values, Text.isBlank c = false) ∧
      (∀ piece ∈ forbidden, piece <:+: Text.join "," values → piece ∈ exempt .list) ∧
      (∀ word ∈ wordsOf (Text.join "," values), word ∉ keywords) ∧
      checkRole .list (Text.join "," values) = .ok () := by
  have hcomma : ∀ value ∈ values, ',' ∉ value :=
    fun value hvalue => (h value hvalue).not_mem (by with_unfolding_all decide) (by decide)
  simp only [accepted_value_iff_parts] at h
  have hfilled : ∀ value ∈ values, ∃ c ∈ value, Text.isBlank c = false :=
    fun value hvalue => (h value hvalue).1
  refine ⟨exists_filled_join hne hfilled, (pieces_join_iff hcomma).mpr ?_,
    (keywords_join_iff values).mpr ?_, (checkRole_join_iff hne hcomma).mpr hfilled⟩
  · exact fun value hvalue => (h value hvalue).2.1
  · exact fun value hvalue => (h value hvalue).2.2.1

/-- Values between commas are an accepted list exactly if they are accepted,
    and `ORDER` and `BY` do not meet across a comma. -/
theorem accepted_list_join_iff (hne : values ≠ []) (hcomma : ∀ value ∈ values, ',' ∉ value) :
    Accepted .list (Text.join "," values) ↔
      (∀ value ∈ values, Accepted .value value) ∧ ¬ OrderByAcross (Text.join "," values) := by
  have hnone : ∀ word ∈ keywords, word ∉ exempt .list := by with_unfolding_all decide
  have horder := orderBy_infix_join_iff values
  rw [accepted_iff_clean (by decide)]
  constructor
  · rintro ⟨-, hclean, hrole⟩
    have hfilled := (checkRole_join_iff hne hcomma).mp hrole
    have hpieces := (pieces_join_iff hcomma).mp hclean.pieces
    have hwords := (keywords_join_iff values).mp fun word hword hkey =>
      hnone word hkey (hclean.words word hword hkey)
    obtain ⟨hvalues, hacross⟩ := not_or.mp fun h => hclean.orderBy (horder.mpr h)
    refine ⟨fun value hvalue => accepted_value_iff_parts.mpr ?_, hacross⟩
    exact ⟨hfilled value hvalue, hpieces value hvalue, hwords value hvalue,
      fun hin => hvalues ⟨value, hvalue, hin⟩⟩
  · rintro ⟨hvalues, hacross⟩
    obtain ⟨hfilled, hpieces, hwords, hrole⟩ := join_of_accepted hne hvalues
    refine ⟨hfilled, ⟨hpieces, fun word hword hkey => absurd hkey (hwords word hword), ?_⟩, hrole⟩
    intro hin
    rcases horder.mp hin with ⟨value, hvalue, hinValue⟩ | h
    · exact (accepted_value_iff_parts.mp (hvalues value hvalue)).2.2.2 hinValue
    · exact hacross h

/-! ## What is said of `ORDER BY` across a comma -/

/-- Among words that are no keywords an `ORDER BY` is what is found. -/
theorem keywordIn?_eq_order_by (hkeys : ∀ word ∈ words, word ∉ keywords)
    (horder : [chars "ORDER", chars "BY"] <:+: words) :
    keywordIn? role words = some (chars "ORDER BY") := by
  have hand : chars "AND" ∈ keywords := by with_unfolding_all decide
  induction words with
  | nil => exact absurd (List.infix_nil.mp horder) (List.cons_ne_nil _ _)
  | cons word rest ih =>
      obtain ⟨hword, hrest⟩ := List.forall_mem_cons.mp hkeys
      have hnot : ¬ (word = chars "AND" ∧ role = .range) := by
        rintro ⟨rfl, -⟩
        exact hword hand
      rw [keywordIn?, if_neg hnot, if_neg hword]
      by_cases hby : word = chars "ORDER" ∧ rest.head? = some (chars "BY")
      · rw [if_pos hby]
      · rw [if_neg hby]
        rcases List.infix_cons_iff.mp horder with ⟨more, hfirst⟩ | hlater
        · obtain ⟨rfl, rfl⟩ := List.cons.inj hfirst
          exact absurd ⟨rfl, rfl⟩ hby
        · exact ih hrest hlater

/-- Accepted values between commas are refused for `ORDER BY`, and for nothing
    else, if the two words meet across a comma. -/
theorem check_join_of_orderByAcross (hne : values ≠ [])
    (h : ∀ value ∈ values, Accepted .value value) (hacross : OrderByAcross (Text.join "," values)) :
    check .list (Text.join "," values) =
      .error (.unexpected (.containsKeyword (Text.join "," values) (chars "ORDER BY"))) := by
  obtain ⟨⟨c, hc, hfilled⟩, hpieces, hwords, -⟩ := join_of_accepted hne h
  obtain ⟨hstar, hsymbol, htick⟩ := (pieces_iff (by decide)).mp hpieces
  have hblank : (Text.join "," values).allBlank = false :=
    List.all_eq_false.mpr ⟨c, hc, by rw [hfilled]; exact Bool.false_ne_true⟩
  have hkeyword : keywordIn? .list (wordsOf (Text.join "," values)) = some (chars "ORDER BY") :=
    keywordIn?_eq_order_by hwords hacross.infix
  rw [check_eq, hstar, hblank, hsymbol, htick, hkeyword]
  rfl

/-- **Lists and values**: a list is accepted exactly if its items are accepted
    values and `ORDER` and `BY` do not meet across a comma; if the items are
    accepted and the two words meet, this is what the list is refused for.  So
    a list may be joined from accepted values, that one case apart. -/
theorem list_of_items (token : Text) :
    (Accepted .list token ↔
      (∀ item ∈ Literal.items token, Accepted .value item) ∧ ¬ OrderByAcross token) ∧
    ((∀ item ∈ Literal.items token, Accepted .value item) → OrderByAcross token →
      check .list token = .error (.unexpected (.containsKeyword token (chars "ORDER BY")))) ∧
    ∀ values ≠ [], (∀ value ∈ values, Accepted .value value) →
      (Accepted .list (Text.join "," values) ↔ ¬ OrderByAcross (Text.join "," values)) := by
  have htoken := Text.join_splitOn Text.chars_comma token
  have hne : token.splitOn ',' ≠ [] := List.splitOn_ne_nil ',' token
  have hcomma : ∀ value ∈ token.splitOn ',', ',' ∉ value := by
    intro value hvalue hmem
    rw [List.splitOn_eq_splitOnP] at hvalue
    exact absurd (Text.not_of_mem_splitOnP hvalue ',' hmem) (by decide)
  -- an item is a piece between commas without the blanks at its ends
  have hitems : (∀ item ∈ Literal.items token, Accepted .value item) ↔
      ∀ value ∈ token.splitOn ',', Accepted .value value := by
    rw [Literal.items, List.forall_mem_map]
    exact forall₂_congr fun value _ => accepted_value_trim
  refine ⟨?accepted, ?refused, ?joined⟩
  case accepted =>
    have hlist := accepted_list_join_iff hne hcomma
    rw [htoken, ← hitems] at hlist
    exact hlist
  case refused =>
    intro haccepted hacross
    rw [← htoken] at hacross
    have hcheck := check_join_of_orderByAcross hne (hitems.mp haccepted) hacross
    rw [htoken] at hcheck
    exact hcheck
  case joined =>
    intro values hvalues haccepted
    have hcommas : ∀ value ∈ values, ',' ∉ value :=
      fun value hvalue =>
        (haccepted value hvalue).not_mem (by with_unfolding_all decide) (by decide)
    rw [accepted_list_join_iff hvalues hcommas]
    exact and_iff_right haccepted

/-- `ORDER` and `BY` meet across an item without words; in the other order,
    with other words between, they do not meet. -/
theorem list_of_items_apart :
    let token := chars "a order , - , by"
    let values := [chars "by ", chars " Order x", chars "by"]
    ((∀ item ∈ Literal.items token, Accepted .value item) ∧ OrderByAcross token ∧
      check .list token = .error (.unexpected (.containsKeyword token (chars "ORDER BY")))) ∧
    (∀ value ∈ values, Accepted .value value) ∧ Accepted .list (Text.join "," values) ∧
      ¬ OrderByAcross (Text.join "," values) := by
  intro token values
  have hitems : ∀ item ∈ Literal.items token, Accepted .value item := by decide +kernel
  have hacross : OrderByAcross token :=
    ⟨chars "a order ", chars " - , by", by decide +kernel, by decide +kernel, by decide +kernel⟩
  have hvalues : ∀ value ∈ values, Accepted .value value := by decide +kernel
  have hlist : Accepted .list (Text.join "," values) := by decide +kernel
  have hjoined := (list_of_items token).2.2 values (List.cons_ne_nil _ _) hvalues
  exact ⟨⟨hitems, hacross, (list_of_items token).2.1 hitems hacross⟩, hvalues, hlist,
    hjoined.mp hlist⟩

/-- `order` and `by` are accepted values, and refused as the two items of a
    list. -/
theorem not_list_iff_items_of_order_by :
    ¬ (Accepted .list (chars "order,by") ↔
      ∀ item ∈ Literal.items (chars "order,by"), Accepted .value item) := by
  decide +kernel

end GuardedSql.Token
