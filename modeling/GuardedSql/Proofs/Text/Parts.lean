import GuardedSql.Literal
import GuardedSql.Proofs.Text.Digits
import GuardedSql.Proofs.Text.Join
import Mathlib.Data.List.Infix

/-! # Parts — what is cut out of a text holds its characters only

    Tokens are split, trimmed and cut before they are written.  None of this
    brings in a character that the token did not hold. -/

namespace GuardedSql.Text

variable {t : Text} {c : Char}

/-- The search finds exactly the pieces that stand in the text. -/
theorem occursIn_iff {piece : Text} : occursIn piece t = true ↔ piece <:+: t := by
  induction t with
  | nil => rw [occursIn, List.isEmpty_iff, List.infix_nil]
  | cons c t ih =>
      rw [occursIn, Bool.or_eq_true, ih, List.isPrefixOf_iff_prefix, List.infix_cons_iff]

/-! ## A piece beside what it does not hold -/

section Piece

variable {α : Type} {piece : List α} {a : α}

/-- A piece that stands at the start does not reach a character that it does
    not hold. -/
theorem prefix_append_cons_iff (ha : a ∉ piece) (left right : List α) :
    piece <+: left ++ a :: right ↔ piece <+: left := by
  refine ⟨fun h => ?_, fun h => h.trans (List.prefix_append _ _)⟩
  rcases List.prefix_or_prefix_of_prefix h (List.prefix_append left _) with hleft | ⟨rest, rfl⟩
  · exact hleft
  · -- what the piece has beyond the left part would begin with the element
    rw [List.prefix_append_right_inj, List.prefix_cons_iff] at h
    rcases h with rfl | ⟨more, rfl, -⟩
    · rw [List.append_nil]
    · exact absurd (List.mem_append_right left (List.mem_cons_self ..)) ha

/-- A piece without the element stands before it or after it. -/
theorem infix_append_cons_iff (ha : a ∉ piece) (left right : List α) :
    piece <:+: left ++ a :: right ↔ piece <:+: left ∨ piece <:+: right := by
  induction left with
  | nil =>
      have hright : piece <+: a :: right ↔ piece <+: [] := prefix_append_cons_iff ha [] right
      rw [List.nil_append, List.infix_cons_iff, List.infix_nil, hright, List.prefix_nil]
  | cons b left ih =>
      have hleft : piece <+: b :: (left ++ a :: right) ↔ piece <+: b :: left :=
        prefix_append_cons_iff ha (b :: left) right
      rw [List.cons_append, List.infix_cons_iff, List.infix_cons_iff, hleft, ih, or_assoc]

/-- A piece stands nowhere among characters that it does not hold. -/
theorem not_infix_of_not_mem {t : List α} (hne : piece ≠ []) (h : ∀ b ∈ t, b ∉ piece) :
    ¬ piece <:+: t := by
  intro hstands
  obtain ⟨b, rest, rfl⟩ := List.exists_cons_of_ne_nil hne
  exact h b (hstands.subset (List.mem_cons_self ..)) (List.mem_cons_self ..)

/-- What a piece holds nothing of may be cut off at the end. -/
theorem infix_append_iff_left (hne : piece ≠ []) {right : List α} (h : ∀ b ∈ right, b ∉ piece)
    (left : List α) : piece <:+: left ++ right ↔ piece <:+: left := by
  cases right with
  | nil => rw [List.append_nil]
  | cons b right =>
      obtain ⟨hb, hright⟩ := List.forall_mem_cons.mp h
      rw [infix_append_cons_iff hb, or_iff_left (not_infix_of_not_mem hne hright)]

/-- What a piece holds nothing of may be cut off at the front. -/
theorem infix_append_iff_right (hne : piece ≠ []) {left : List α} (h : ∀ b ∈ left, b ∉ piece)
    (right : List α) : piece <:+: left ++ right ↔ piece <:+: right := by
  rcases List.eq_nil_or_concat left with rfl | ⟨front, b, rfl⟩
  · rw [List.nil_append]
  · rw [List.concat_eq_append, List.forall_mem_append, List.forall_mem_singleton] at h
    rw [List.concat_eq_append, List.append_assoc, List.singleton_append,
      infix_append_cons_iff h.2, or_iff_right (not_infix_of_not_mem hne h.1)]

/-- Two neighbours in a concatenation are neighbours in one of its parts, or
    meet at the seam. -/
theorem pair_infix_append_iff {b : α} (left right : List α) :
    [a, b] <:+: left ++ right ↔
      [a, b] <:+: left ∨ [a, b] <:+: right ∨ [a] <:+ left ∧ [b] <+: right := by
  rw [List.infix_append_iff_ne_nil]
  refine or_congr_right (or_congr_right ?_)
  constructor
  · rintro ⟨x, y, hx, hy, hxy, hleft, hright⟩
    obtain ⟨c, x, rfl⟩ := List.exists_cons_of_ne_nil hx
    obtain ⟨d, y, rfl⟩ := List.exists_cons_of_ne_nil hy
    obtain ⟨rfl, hrest⟩ := List.cons.inj hxy
    cases x with
    | nil =>
        obtain ⟨rfl, rfl⟩ := List.cons.inj hrest
        exact ⟨hleft, hright⟩
    | cons e x =>
        have hlength := congrArg List.length hrest
        simp at hlength
  · rintro ⟨hleft, hright⟩
    exact ⟨[a], [b], List.cons_ne_nil _ _, List.cons_ne_nil _ _, rfl, hleft, hright⟩

end Piece

/-- A piece without the separator stands in a join exactly if it stands in one
    of the texts. -/
theorem infix_join_iff {between : String} {sep : Char} {piece : Text} {ts : List Text}
    (hbetween : chars between = [sep]) (hne : piece ≠ []) (hsep : sep ∉ piece) :
    piece <:+: join between ts ↔ ∃ t ∈ ts, piece <:+: t := by
  induction ts with
  | nil => simp [hne]
  | cons t ts ih =>
      by_cases hts : ts = []
      · simp [hts]
      · rw [join_cons_of_ne_nil hts, hbetween, List.append_assoc, List.singleton_append,
          infix_append_cons_iff hsep, ih, List.exists_mem_cons_iff]

/-! ## Pieces of a split, a trimmed text and a cut -/

/-- The pieces of a split hold characters of the text only. -/
theorem mem_of_mem_splitOnP {q : Char → Bool} {w : Text} :
    ∀ {t : Text}, w ∈ t.splitOnP q → ∀ c ∈ w, c ∈ t := by
  intro t
  induction t generalizing w with
  | nil =>
      intro hw c hc
      rw [List.splitOnP_nil, List.mem_singleton] at hw
      rw [hw] at hc
      exact hc
  | cons a t ih =>
      intro hw c hc
      rw [List.splitOnP_cons_eq_if_modifyHead] at hw
      split at hw
      · rcases List.mem_cons.mp hw with rfl | hmem
        · exact nomatch hc
        · exact List.mem_cons_of_mem _ (ih hmem c hc)
      · -- the character joins the first piece
        obtain ⟨first, rest, hsplit⟩ :=
          List.exists_cons_of_ne_nil (List.splitOnP_ne_nil q t)
        rw [hsplit, List.modifyHead_cons] at hw
        rcases List.mem_cons.mp hw with rfl | hmem
        · rcases List.mem_cons.mp hc with rfl | hc'
          · exact List.mem_cons_self ..
          · have hfirst : first ∈ t.splitOnP q := by
              rw [hsplit]; exact List.mem_cons_self ..
            exact List.mem_cons_of_mem _ (ih hfirst c hc')
        · have hw' : w ∈ t.splitOnP q := by
            rw [hsplit]; exact List.mem_cons_of_mem _ hmem
          exact List.mem_cons_of_mem _ (ih hw' c hc)

theorem mem_of_mem_splitOn {sep : Char} {w : Text} (hw : w ∈ t.splitOn sep)
    (hc : c ∈ w) : c ∈ t := by
  rw [List.splitOn_eq_splitOnP] at hw
  exact mem_of_mem_splitOnP hw c hc

/-- The pieces of a split do not hold what it is split at. -/
theorem not_of_mem_splitOnP {q : Char → Bool} {w : Text} :
    ∀ {t : Text}, w ∈ t.splitOnP q → ∀ c ∈ w, q c = false := by
  intro t
  induction t generalizing w with
  | nil =>
      intro hw c hc
      rw [List.splitOnP_nil, List.mem_singleton] at hw
      rw [hw] at hc
      exact nomatch hc
  | cons a t ih =>
      intro hw c hc
      rw [List.splitOnP_cons_eq_if_modifyHead] at hw
      split at hw
      · rcases List.mem_cons.mp hw with rfl | hmem
        · exact nomatch hc
        · exact ih hmem c hc
      · -- the character joins the first piece, and is none to split at
        rename_i hq
        obtain ⟨first, rest, hsplit⟩ := List.exists_cons_of_ne_nil (List.splitOnP_ne_nil q t)
        rw [hsplit, List.modifyHead_cons] at hw
        have hpieces : ∀ piece ∈ first :: rest, piece ∈ t.splitOnP q := by
          rw [hsplit]
          exact fun _ hpiece => hpiece
        rcases List.mem_cons.mp hw with rfl | hmem
        · rcases List.mem_cons.mp hc with rfl | hc'
          · exact Bool.eq_false_iff.mpr hq
          · exact ih (hpieces first (List.mem_cons_self ..)) c hc'
        · exact ih (hpieces w (List.mem_cons_of_mem _ hmem)) c hc

theorem mem_of_mem_trim (h : c ∈ t.trim) : c ∈ t := by
  rw [trim, trimWith, dropWhileEnd, List.mem_reverse] at h
  have hrev := List.mem_reverse.mp ((List.dropWhile_sublist _).mem h)
  exact (List.dropWhile_sublist _).mem hrev

/-- What begins with a mark but for letter case begins with its letters in
    another case. -/
theorem upper_take_of_startsFold {mark : Text} (h : startsFold mark t = true) :
    upper (t.take mark.length) = upper mark := by
  induction mark generalizing t with
  | nil => rfl
  | cons m mark ih =>
      cases t with
      | nil => exact Bool.noConfusion h
      | cons a t =>
          rw [startsFold, Bool.and_eq_true, beq_iff_eq] at h
          show a.toUpper :: upper (t.take mark.length) = m.toUpper :: upper mark
          rw [h.1, ih h.2]

/-- A cut takes out the mark, in some case of letters, and nothing else. -/
theorem eq_of_cutFold {mark : Text} {before after : Text}
    (h : cutFold mark t = some (before, after)) :
    ∃ piece, t = before ++ piece ++ after ∧ upper piece = upper mark := by
  induction t generalizing before with
  | nil => exact nomatch h
  | cons a t ih =>
      rw [cutFold] at h
      split at h
      · rename_i hstarts
        obtain ⟨rfl, rfl⟩ := Prod.mk.inj (Option.some.inj h)
        exact ⟨(a :: t).take mark.length, (List.take_append_drop _ _).symm,
          upper_take_of_startsFold hstarts⟩
      · obtain ⟨⟨before', after'⟩, hcut, heq⟩ := Option.map_eq_some_iff.mp h
        obtain ⟨rfl, rfl⟩ := Prod.mk.inj heq
        obtain ⟨piece, rfl, hpiece⟩ := ih hcut
        exact ⟨piece, rfl, hpiece⟩

/-- What was read as a number is digits only. -/
theorem isDigitOf_of_nat? {base n : Nat} (h : nat? base t = some n) :
    ∀ c ∈ t, isDigitOf base c = true := by
  rw [nat?] at h
  split at h
  · rename_i hdigits
    rw [Bool.and_eq_true] at hdigits
    exact List.all_eq_true.mp hdigits.2
  · exact nomatch h

end GuardedSql.Text

namespace GuardedSql.Literal

variable {t low high item : Text} {c : Char}

/-- A range is its bounds with the mark between them, in some case of letters,
    but for the blanks around the bounds. -/
theorem exists_of_bounds (h : bounds? t = some (low, high)) :
    ∃ before mark after, t = before ++ mark ++ after ∧ mark.upper = rangeMark.upper ∧
      before.trim = low ∧ after.trim = high ∧ low ≠ [] ∧ high ≠ [] := by
  rw [bounds?] at h
  cases hcut : Text.cutFold rangeMark t with
  | none =>
      rw [hcut] at h
      exact nomatch h
  | some parts =>
      obtain ⟨before, after⟩ := parts
      obtain ⟨mark, rfl, hmark⟩ := Text.eq_of_cutFold hcut
      rw [hcut] at h
      dsimp only at h
      split at h
      · exact nomatch h
      · rename_i hfilled
        rw [Bool.or_eq_true, Bool.or_eq_true, List.isEmpty_iff, List.isEmpty_iff] at hfilled
        obtain ⟨rfl, rfl⟩ := Prod.mk.inj (Option.some.inj h)
        exact ⟨before, mark, after, rfl, hmark, rfl, rfl,
          fun hlow => hfilled (Or.inl (Or.inl hlow)), fun hhigh => hfilled (Or.inl (Or.inr hhigh))⟩

theorem mem_of_mem_bounds (h : bounds? t = some (low, high)) (hc : c ∈ low ∨ c ∈ high) :
    c ∈ t := by
  obtain ⟨before, mark, after, rfl, -, rfl, rfl, -⟩ := exists_of_bounds h
  rcases hc with hlow | hhigh
  · exact List.mem_append_left _ (List.mem_append_left _ (Text.mem_of_mem_trim hlow))
  · exact List.mem_append_right _ (Text.mem_of_mem_trim hhigh)

theorem mem_of_mem_items (h : item ∈ items t) (hc : c ∈ item) : c ∈ t := by
  obtain ⟨piece, hpiece, rfl⟩ := List.mem_map.mp h
  exact Text.mem_of_mem_splitOn hpiece (Text.mem_of_mem_trim hc)

/-! ## Integers -/

/-- A sign or a decimal digit. -/
def IsIntegerChar (c : Char) : Prop := c = '+' ∨ c = '-' ∨ '0' ≤ c ∧ c ≤ '9'

instance (c : Char) : Decidable (IsIntegerChar c) := inferInstanceAs (Decidable (_ ∨ _ ∨ _))

theorem isIntegerChar_of_isDigitOf (h : Text.isDigitOf 10 c = true) : IsIntegerChar c :=
  Or.inr (Or.inr (Text.isDigitOf_ten_iff.mp h))

/-- A signed number is read only where its digits are. -/
theorem isDigitOf_of_bind_nat? {f : Nat → Option Int} {n : Int}
    (h : (Text.nat? 10 t).bind f = some n) : ∀ c ∈ t, Text.isDigitOf 10 c = true := by
  obtain ⟨m, hm, -⟩ := Option.bind_eq_some_iff.mp h
  exact Text.isDigitOf_of_nat? hm

/-- An integer is written with digits, after a sign or without one. -/
theorem exists_digits_of_isInteger (h : isInteger t = true) :
    ∃ digits, (∀ c ∈ digits, Text.isDigitOf 10 c = true) ∧
      (t = '+' :: digits ∨ t = '-' :: digits ∨ t = digits) := by
  rw [isInteger] at h
  cases hint : t.int? with
  | none =>
      rw [hint] at h
      exact Bool.noConfusion h
  | some n =>
      rw [Text.int?.eq_def] at hint
      split at hint
      · obtain ⟨m, hm, -⟩ := Option.map_eq_some_iff.mp hint
        exact ⟨_, isDigitOf_of_bind_nat? hm, Or.inl rfl⟩
      · obtain ⟨m, hm, -⟩ := Option.map_eq_some_iff.mp hint
        exact ⟨_, isDigitOf_of_bind_nat? hm, Or.inr (Or.inl rfl)⟩
      · obtain ⟨m, hm, -⟩ := Option.map_eq_some_iff.mp hint
        exact ⟨_, isDigitOf_of_bind_nat? hm, Or.inr (Or.inr rfl)⟩

/-- An integer is written with a sign and digits only. -/
theorem isIntegerChar_of_isInteger (h : isInteger t = true) : ∀ c ∈ t, IsIntegerChar c := by
  obtain ⟨digits, hdigits, hsign⟩ := exists_digits_of_isInteger h
  have hall : ∀ c ∈ digits, IsIntegerChar c :=
    fun c hc => isIntegerChar_of_isDigitOf (hdigits c hc)
  rcases hsign with rfl | rfl | rfl
  · exact List.forall_mem_cons.mpr ⟨Or.inl rfl, hall⟩
  · exact List.forall_mem_cons.mpr ⟨Or.inr (Or.inl rfl), hall⟩
  · exact hall

/-- A number is written in decimal digits. -/
theorem isIntegerChar_of_mem_ofNat {n : Nat} (h : c ∈ Text.ofNat n) : IsIntegerChar c := by
  have hdigit := Nat.isDigit_of_mem_toDigits (by decide) (by decide) h
  rw [Char.isDigit, Bool.and_eq_true, decide_eq_true_iff, decide_eq_true_iff] at hdigit
  exact Or.inr (Or.inr hdigit)

end GuardedSql.Literal
