import Mathlib
import GuardedSql.Proofs.Text.Case
import GuardedSql.Proofs.Text.Runs
import GuardedSql.Proofs.Text.Trim

/-! # Respelled texts — the same words in another case, spaced otherwise

    A text respells another if it has the same letters in any case, and one or
    more blanks of any kind for each space.  `Respelled` goes through the two
    texts side by side, and knows nothing of words.

    Joined by single spaces, the words of a text are what it respells, up to
    blanks at its ends: `exists_respelled`.  So two texts can be compared by
    their words: `exists_respelled_iff`. -/

namespace GuardedSql.Text

variable {c d : Char} {s s' t w : Text}

/-! ## Letters in another case -/

/-- The second character is the first, or the same ASCII letter in another
    case. -/
def SameLetter (c d : Char) : Prop := d = c ∨ d = c.toUpper ∨ d = c.toLower

/-- Two characters are one letter if they are the same in upper case. -/
theorem sameLetter_iff : SameLetter c d ↔ c.toUpper = d.toUpper := by
  constructor
  · rintro (rfl | rfl | rfl)
    · rfl
    · exact (Char.toUpper_toUpper_eq_toUpper c).symm
    · exact (Char.toUpper_toLower_eq_toUpper c).symm
  · intro h
    by_cases hlower : d.isLower = true
    · refine Or.inr (Or.inr ?_)
      have hd := Char.toLower_eq_of_not_isUpper (Char.not_isUpper_of_isLower hlower)
      calc d = d.toLower := hd.symm
        _ = d.toUpper.toLower := (Char.toLower_toUpper_eq_toLower d).symm
        _ = c.toUpper.toLower := by rw [h]
        _ = c.toLower := Char.toLower_toUpper_eq_toLower c
    · exact Or.inr (Or.inl ((Char.toUpper_eq_of_not_isLower hlower).symm.trans h.symm))

/-! ## Respelling -/

/-- The second text is the first with its letters in any case, and with one or
    more blanks for each space. -/
inductive Respelled : Text → Text → Prop where
  | nil : Respelled [] []
  | letter {c d : Char} {s t : Text} (hc : isBlank c = false) (hcase : SameLetter c d)
      (h : Respelled s t) : Respelled (c :: s) (d :: t)
  | gap {blanks s t : Text} (hne : blanks ≠ []) (hblanks : ∀ c ∈ blanks, isBlank c = true)
      (h : Respelled s t) : Respelled (' ' :: s) (blanks ++ t)

/-- A word may be put in front of both texts. -/
theorem Respelled.append_left (h : Respelled s t) (hw : ∀ c ∈ w, isBlank c = false) :
    Respelled (w ++ s) (w ++ t) := by
  induction w with
  | nil => exact h
  | cons c w ih =>
      obtain ⟨hc, hw⟩ := List.forall_mem_cons.mp hw
      exact .letter hc (Or.inl rfl) (ih hw)

/-- A word respells itself. -/
theorem Respelled.of_word (hw : ∀ c ∈ w, isBlank c = false) : Respelled w w := by
  have h := Respelled.nil.append_left hw
  rwa [List.append_nil] at h

/-- What is respelled may itself be in any case. -/
theorem Respelled.of_upper_eq (h : Respelled s t) (hcase : upper s' = upper s) :
    Respelled s' t := by
  induction h generalizing s' with
  | nil => exact List.map_eq_nil_iff.mp hcase ▸ .nil
  | @letter c d s t hc hletter _ ih =>
      obtain ⟨c', s', rfl, hc', hs'⟩ := List.map_eq_cons_iff.mp hcase
      have hfilled : isBlank c' = false := by rw [← isBlank_toUpper, hc', isBlank_toUpper, hc]
      exact .letter hfilled (sameLetter_iff.mpr (hc'.trans (sameLetter_iff.mp hletter))) (ih hs')
  | gap hne hblanks _ ih =>
      obtain ⟨c', s', rfl, hc', hs'⟩ := List.map_eq_cons_iff.mp hcase
      obtain rfl : c' = ' ' := eq_of_toUpper_eq hc' (by decide)
      exact .gap hne hblanks (ih hs')

/-! ## Words -/

/-- The words of a text in upper case are its words in upper case. -/
@[simp] theorem words_upper (t : Text) : words (upper t) = (words t).map upper :=
  runs_map (by simp) t

/-- A blank sets words apart. -/
theorem words_append_blank (hc : isBlank c = true) (s t : Text) :
    words (s ++ c :: t) = words s ++ words t :=
  runs_append_cons (by rw [hc]; rfl) s t

@[simp] theorem words_eq_nil_iff : words t = [] ↔ ∀ c ∈ t, isBlank c = true := by
  simp [words]

theorem words_eq_singleton (hne : w ≠ []) (hw : ∀ c ∈ w, isBlank c = false) : words w = [w] :=
  runs_eq_singleton hne fun c hc => by rw [hw c hc]; rfl

/-- Blanks around a text belong to no word. -/
theorem words_of_padded (h : Padded s t) : words t = words s := by
  obtain ⟨front, back, rfl, hfront, hback⟩ := h
  exact runs_around (fun c hc => by rw [hfront c hc]; rfl) (fun c hc => by rw [hback c hc]; rfl) s

/-- A respelled text has the same words in upper case, whatever stands in front
    of it. -/
theorem Respelled.words_append_upper (h : Respelled s t) (w : Text) :
    words (w ++ upper t) = words (w ++ upper s) := by
  induction h generalizing w with
  | nil => rfl
  | @letter c d s t _ hcase _ ih =>
      -- the letter belongs to what stands in front of the rest
      have hletter := ih (w ++ [c.toUpper])
      rw [List.append_assoc, List.append_assoc] at hletter
      show words (w ++ d.toUpper :: upper t) = words (w ++ c.toUpper :: upper s)
      rw [← sameLetter_iff.mp hcase]
      exact hletter
  | @gap blanks s t hne hblanks _ ih =>
      obtain ⟨b, blanks, rfl⟩ := List.exists_cons_of_ne_nil hne
      obtain ⟨hb, hrest⟩ := List.forall_mem_cons.mp hblanks
      have hpadded : Padded (upper t) (blanks ++ upper t) :=
        ⟨blanks, [], (List.append_nil _).symm, hrest, nofun⟩
      rw [upper_append, upper_of_isBlank hblanks, List.cons_append, words_append_blank hb,
        words_of_padded hpadded]
      show _ = words (w ++ ' ' :: upper s)
      rw [words_append_blank (by decide)]
      exact congrArg (words w ++ ·) (ih [])

/-- A word that stands before a blank is respelled as it is, and the blank as
    the space after it, unless nothing but blanks follows. -/
theorem exists_respelled_word_blank {body : Text} (hne : w ≠ [])
    (hw : ∀ c ∈ w, isBlank c = false) (hc : isBlank c = true)
    (hbody : Respelled (join " " (words t)) body) (hpadded : Padded body t) :
    ∃ body back, w ++ c :: t = body ++ back ∧ (∀ c ∈ back, isBlank c = true) ∧
      Respelled (join " " (words (w ++ c :: t))) body := by
  rw [words_append_blank hc, words_eq_singleton hne hw, List.singleton_append]
  by_cases hnone : words t = []
  · refine ⟨w, c :: t, rfl, List.forall_mem_cons.mpr ⟨hc, words_eq_nil_iff.mp hnone⟩, ?_⟩
    simpa [hnone] using .of_word hw
  · obtain ⟨front, back, rfl, hfront, hback⟩ := hpadded
    have hgap : ∀ d ∈ c :: front, isBlank d = true := List.forall_mem_cons.mpr ⟨hc, hfront⟩
    refine ⟨w ++ (c :: front ++ body), back, by simp, hback, ?_⟩
    rw [join_cons_of_ne_nil hnone, chars_space, List.append_assoc]
    exact (Respelled.gap (List.cons_ne_nil _ _) hgap hbody).append_left hw

/-- **The words** of a text, joined by single spaces, are what it respells, up
    to blanks at its ends; and nothing stands before the first word of a text
    that begins with one. -/
theorem exists_respelled_and_append (t : Text) :
    (∃ body, Respelled (join " " (words t)) body ∧ Padded body t) ∧
    ∀ w, w ≠ [] → (∀ c ∈ w, isBlank c = false) → ∃ body back, w ++ t = body ++ back ∧
      (∀ c ∈ back, isBlank c = true) ∧ Respelled (join " " (words (w ++ t))) body := by
  induction t with
  | nil =>
      refine ⟨⟨[], ?_, [], [], rfl, nofun, nofun⟩, fun w hne hw => ⟨w, [], rfl, nofun, ?_⟩⟩
      · simpa [words] using Respelled.nil
      · simpa [words_eq_singleton hne hw] using Respelled.of_word hw
  | cons c t ih =>
      obtain ⟨⟨body, hbody, hpadded⟩, hafter⟩ := ih
      cases hc : isBlank c with
      | true =>
          constructor
          · have hwords : words (c :: t) = words t := words_append_blank hc [] t
            obtain ⟨front, back, rfl, hfront, hback⟩ := hpadded
            exact ⟨body, hwords ▸ hbody, c :: front, back, rfl,
              List.forall_mem_cons.mpr ⟨hc, hfront⟩, hback⟩
          · exact fun w hne hw => exists_respelled_word_blank hne hw hc hbody hpadded
      | false =>
          constructor
          · obtain ⟨body, back, heq, hback, hbody⟩ :=
              hafter [c] (List.cons_ne_nil _ _) (List.forall_mem_singleton.mpr hc)
            exact ⟨body, hbody, [], back, heq, nofun, hback⟩
          · intro w hne hw
            have hword : ∀ d ∈ w ++ [c], isBlank d = false :=
              List.forall_mem_append.mpr ⟨hw, List.forall_mem_singleton.mpr hc⟩
            have happend : w ++ c :: t = w ++ [c] ++ t := by simp
            rw [happend]
            exact hafter _ (List.concat_ne_nil c w) hword

/-- Every text respells its words joined by single spaces, up to blanks at its
    ends. -/
theorem exists_respelled (t : Text) :
    ∃ body, Respelled (join " " (words t)) body ∧ Padded body t :=
  (exists_respelled_and_append t).1

/-- **Respelling** is told by the words: a text respells one with single spaces
    between its words, up to blanks at its ends, exactly if both have the same
    words, in whatever case. -/
theorem exists_respelled_iff (hs : join " " (words s) = s) :
    (∃ body, Respelled s body ∧ Padded body t) ↔ upper (join " " (words t)) = upper s := by
  have hspace : upper (chars " ") = chars " " := by with_unfolding_all decide
  constructor
  · rintro ⟨body, hbody, hpadded⟩
    have hwords : words (upper body) = words (upper s) := hbody.words_append_upper []
    simp only [words_upper] at hwords
    calc upper (join " " (words t))
        = join " " ((words body).map upper) := by rw [words_of_padded hpadded, upper_join hspace]
      _ = upper (join " " (words s)) := by rw [hwords, upper_join hspace]
      _ = upper s := by rw [hs]
  · intro h
    obtain ⟨body, hbody, hpadded⟩ := exists_respelled t
    exact ⟨body, hbody.of_upper_eq h.symm, hpadded⟩

end GuardedSql.Text
