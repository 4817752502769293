import GuardedSql.Proofs.Text.Join
import GuardedSql.Text.Basic
import Mathlib.Data.List.Infix

/-! # Letter case — finding a piece in any case of letters

    Only ASCII letters have a case.  Blanks and marks are the same in every
    case, so that a text in upper case has its blanks where they were.

    Looking for a piece in any case of letters is looking for it in upper case
    in the text in upper case: `startsFold_iff` and `occursFold_iff` say so of
    the beginning and of the whole, and `cutFold_append` of the place where a
    text is cut. -/

namespace GuardedSql.Text

variable {c d : Char} {s t piece before mark after : Text}

/-! ## Characters -/

/-- Upper case changes letters only, and into letters. -/
theorem toUpper_eq_or_isAlphanum (c : Char) :
    c.toUpper = c ∨ c.isAlphanum = true ∧ c.toUpper.isAlphanum = true := by
  delta Char.toUpper
  split
  · rename_i hlower
    have hletter : c.isLower = true :=
      Bool.and_eq_true_iff.mpr ⟨decide_eq_true hlower.1, decide_eq_true hlower.2⟩
    refine Or.inr ⟨?_, ?_⟩
    · delta Char.isAlphanum Char.isAlpha
      rw [hletter, Bool.or_true, Bool.true_or]
    · have hshift : ('A'.val - 'a'.val).toNat = 0x100000000 - 32 := rfl
      delta Char.isAlphanum Char.isAlpha Char.isUpper
      simp [UInt32.le_iff_toNat_le, UInt32.toNat_add] at hlower ⊢
      omega
  · exact Or.inl rfl

/-- What is no letter and no digit has no case. -/
theorem toUpper_of_not_isAlphanum (h : c.isAlphanum = false) : c.toUpper = c := by
  rcases toUpper_eq_or_isAlphanum c with heq | ⟨hletter, -⟩
  · exact heq
  · rw [h] at hletter
    exact Bool.noConfusion hletter

/-- What is no letter is nothing else in upper case. -/
theorem eq_of_toUpper_eq (h : c.toUpper = d) (hd : d.isAlphanum = false) : c = d := by
  rcases toUpper_eq_or_isAlphanum c with heq | ⟨-, hupper⟩
  · exact heq.symm.trans h
  · rw [h, hd] at hupper
    exact Bool.noConfusion hupper

theorem isBlank_of_isAlphanum (h : c.isAlphanum = true) : isBlank c = false := by
  refine Bool.eq_false_iff.mpr fun hblank => ?_
  -- letters and digits lie between `0` and `z`, and no blank does
  have hbounds : 48 ≤ c.toNat ∧ c.toNat ≤ 122 := by
    delta Char.isAlphanum Char.isAlpha Char.isUpper Char.isLower Char.isDigit at h
    simp [UInt32.le_iff_toNat_le] at h
    omega
  have hranges : ∀ range ∈ blankRanges, range.2 < 48 ∨ 122 < range.1 := by decide
  obtain ⟨range, hmem, hin⟩ := List.any_eq_true.mp hblank
  rw [Bool.and_eq_true, decide_eq_true_iff, decide_eq_true_iff] at hin
  have hapart := hranges range hmem
  omega

@[simp] theorem isBlank_toUpper (c : Char) : isBlank c.toUpper = isBlank c := by
  rcases toUpper_eq_or_isAlphanum c with heq | ⟨hletter, hupper⟩
  · rw [heq]
  · rw [isBlank_of_isAlphanum hletter, isBlank_of_isAlphanum hupper]

theorem toUpper_of_isBlank (h : isBlank c = true) : c.toUpper = c := by
  refine toUpper_of_not_isAlphanum (Bool.eq_false_iff.mpr fun hletter => ?_)
  rw [isBlank_of_isAlphanum hletter] at h
  exact Bool.noConfusion h

/-! ## Texts -/

@[simp] theorem upper_append (s t : Text) : upper (s ++ t) = upper s ++ upper t := List.map_append

theorem upper_of_isBlank (h : ∀ c ∈ t, isBlank c = true) : upper t = t := by
  rw [upper, List.map_congr_left fun c hc => toUpper_of_isBlank (h c hc)]
  exact List.map_id' t

/-- A text without letters is like no other in upper case. -/
theorem eq_of_upper_eq (h : upper s = upper t) (ht : ∀ c ∈ t, c.isAlphanum = false) : s = t := by
  induction t generalizing s with
  | nil => exact List.map_eq_nil_iff.mp h
  | cons d t ih =>
      obtain ⟨hd, ht⟩ := List.forall_mem_cons.mp ht
      obtain ⟨c, s, rfl, hc, hs⟩ := List.map_eq_cons_iff.mp h
      rw [toUpper_of_not_isAlphanum hd] at hc
      rw [eq_of_toUpper_eq hc hd, ih hs ht]

/-- A join in upper case is a join of texts in upper case. -/
theorem upper_join {between : String} (h : upper (chars between) = chars between)
    (ts : List Text) : upper (join between ts) = join between (ts.map upper) := by
  induction ts with
  | nil => rfl
  | cons t ts ih =>
      by_cases hts : ts = []
      · simp [hts]
      · have hmap : ts.map upper ≠ [] := fun hnil => hts (List.map_eq_nil_iff.mp hnil)
        rw [join_cons_of_ne_nil hts, upper_append, upper_append, h, ih, List.map_cons,
          join_cons_of_ne_nil hmap]

/-- A text begins with a piece up to case, if it does in upper case. -/
theorem startsFold_iff : startsFold piece t = true ↔ upper piece <+: upper t := by
  induction piece generalizing t with
  | nil => exact iff_of_true rfl List.nil_prefix
  | cons a piece ih =>
      cases t with
      | nil => simp [startsFold, upper]
      | cons c t =>
          rw [startsFold, Bool.and_eq_true, beq_iff_eq, ih]
          show _ ↔ a.toUpper :: upper piece <+: c.toUpper :: upper t
          rw [List.cons_prefix_cons]

/-- A piece is found exactly if it stands somewhere, both in upper case. -/
theorem occursFold_iff (hne : piece ≠ []) :
    occursFold piece t = true ↔ upper piece <:+: upper t := by
  have hupper : upper piece ≠ [] := fun h => hne (List.map_eq_nil_iff.mp h)
  induction t with
  | nil =>
      show false = true ↔ upper piece <:+: []
      rw [List.infix_nil]
      exact iff_of_false Bool.false_ne_true hupper
  | cons c t ih =>
      have hcons : upper piece <:+: upper (c :: t) ↔
          upper piece <+: upper (c :: t) ∨ upper piece <:+: upper t := List.infix_cons_iff
      rw [hcons, ← startsFold_iff, occursFold, cutFold]
      split
      · rename_i hstarts
        exact iff_of_true rfl (Or.inl hstarts)
      · rename_i hstarts
        rw [Option.isSome_map, or_iff_right hstarts]
        exact ih

/-- **A cut** is made at a mark if the piece stands nowhere before its last
    character. -/
theorem cutFold_append (hne : piece ≠ []) (hmark : upper mark = upper piece)
    (hfirst : ¬ upper piece <:+: upper (before ++ mark.dropLast)) :
    cutFold piece (before ++ (mark ++ after)) = some (before, after) := by
  have hlength : mark.length = piece.length := by
    simpa [upper] using congrArg List.length hmark
  induction before with
  | nil =>
      have hstarts : startsFold piece (mark ++ after) = true := by
        rw [startsFold_iff, upper_append, hmark]
        exact List.prefix_append _ _
      obtain ⟨c, rest, rfl⟩ : ∃ c rest, mark = c :: rest :=
        List.exists_cons_of_ne_nil fun hnil => hne (by simpa [hnil] using hlength.symm)
      rw [List.nil_append, List.cons_append, cutFold, ← List.cons_append, if_pos hstarts,
        ← hlength, List.drop_left]
  | cons c before ih =>
      -- a piece that began here would end before the last character of the mark
      have hlater : ¬ upper piece <+: upper (c :: (before ++ (mark ++ after))) := by
        intro hstarts
        have hshort : c :: (before ++ mark.dropLast) <+: c :: (before ++ (mark ++ after)) :=
          (List.prefix_append_right_inj (c :: before)).mpr
            ((List.dropLast_prefix mark).trans (List.prefix_append mark after))
        have hle : (upper piece).length ≤ (upper (c :: (before ++ mark.dropLast))).length := by
          simp [upper, hlength]
          omega
        exact hfirst (List.prefix_of_prefix_length_le hstarts (hshort.map _) hle).isInfix
      have hrest : ¬ upper piece <:+: upper (before ++ mark.dropLast) :=
        fun h => hfirst (List.infix_cons_iff.mpr (Or.inr h))
      rw [List.cons_append, cutFold, if_neg fun h => hlater (startsFold_iff.mp h), ih hrest]
      rfl

end GuardedSql.Text
