import GuardedSql.Comparator.Spelling
import GuardedSql.Proofs.Text.Respelled

/-! # Spellings — which texts are read as a comparator

    A comparator is read from the words of a text, compared in upper case with
    the spellings of all comparators, one after another.  `Spells` says without
    words what is meant: the text respells a spelling of the comparator, with
    blanks around it or without.

    No two comparators have spellings that are alike in upper case, so that the
    order in which they are tried does not matter, and a text spells one
    comparator or none. -/

namespace GuardedSql.Comparator

variable {c d : Comparator} {t : Text}

/-- The spellings of a comparator: its own, and `<>` for `!=`. -/
def spellings : Comparator → List Text
  | notEq => [notEq.spelling, chars "<>"]
  | c => [c.spelling]

/-- The text is a spelling of the comparator, with letters in any case, one or
    more blanks for each space, and any blanks before and after it. -/
def Spells (c : Comparator) (t : Text) : Prop :=
  ∃ spelling ∈ spellings c, ∃ body, Text.Respelled spelling body ∧ Text.Padded body t

/-- The words of the text, joined by single spaces, are a spelling of the
    comparator in some case of letters. -/
def Folds (c : Comparator) (t : Text) : Prop :=
  ∃ spelling ∈ spellings c, (Text.join " " t.words).upper = spelling.upper

/-- The spelling in which a comparator is written is one in which it is
    read. -/
theorem spelling_mem_spellings (c : Comparator) : c.spelling ∈ spellings c := by
  cases c <;> exact List.mem_cons_self ..

/-- Only `!=` has a second spelling. -/
@[simp] theorem mem_spellings_iff {s : Text} :
    s ∈ spellings c ↔ s = c.spelling ∨ c = notEq ∧ s = chars "<>" := by
  cases c <;> simp [spellings]

/-- Single spaces stand between the words of every spelling. -/
theorem join_words_of_mem_spellings {s : Text} (h : s ∈ spellings c) :
    Text.join " " s.words = s := by
  have hall : ∀ c ∈ all, ∀ s ∈ spellings c, Text.join " " s.words = s := by decide +kernel
  exact hall c (mem_all c) s h

/-- A text spells a comparator, up to case and blanks, exactly if its words
    joined by single spaces do up to case. -/
theorem spells_iff_folds : Spells c t ↔ Folds c t :=
  exists_congr fun _ => and_congr_right fun hs =>
    Text.exists_respelled_iff (join_words_of_mem_spellings hs)

/-- **No two comparators** share a spelling, in whatever case of letters. -/
theorem Folds.unique (hc : Folds c t) (hd : Folds d t) : c = d := by
  have hall : ∀ c ∈ all, ∀ d ∈ all, ∀ s ∈ spellings c, ∀ s' ∈ spellings d,
      s.upper = s'.upper → c = d := by decide +kernel
  obtain ⟨s, hs, hfold⟩ := hc
  obtain ⟨s', hs', hfold'⟩ := hd
  exact hall c (mem_all c) d (mem_all d) s hs s' hs' (hfold.symm.trans hfold')

/-- What is read folds to a spelling, and what folds to none is refused. -/
theorem ofText_cases (t : Text) :
    (∃ c, ofText t = .ok c ∧ Folds c t) ∨
      ofText t = .error (.unexpected (.unknownComparator t)) ∧ ∀ c, ¬ Folds c t := by
  rw [ofText]
  cases hfind : all.find? fun c => c.spelling.sameFold (Text.join " " t.words) with
  | some c =>
      have hfold := List.find?_some hfind
      rw [Text.sameFold, beq_iff_eq] at hfold
      exact Or.inl ⟨c, rfl, c.spelling, spelling_mem_spellings c, hfold.symm⟩
  | none =>
      by_cases hmark : Text.join " " t.words = chars "<>"
      · have hmem : chars "<>" ∈ spellings notEq := by simp
        exact Or.inl ⟨notEq, if_pos hmark, chars "<>", hmem, by rw [hmark]⟩
      · refine Or.inr ⟨if_neg hmark, fun c => ?_⟩
        rintro ⟨s, hs, hfold⟩
        rcases mem_spellings_iff.mp hs with rfl | ⟨-, rfl⟩
        · have hnot := List.find?_eq_none.mp hfind c (mem_all c)
          rw [Text.sameFold, beq_iff_eq] at hnot
          exact hnot hfold.symm
        · exact hmark (Text.eq_of_upper_eq hfold (by with_unfolding_all decide))

/-- **Spellings**: a text is read as a comparator exactly if it spells it, no
    text spells two comparators, and a text that spells none is refused as
    unknown. -/
theorem ofText_iff_spells (t : Text) :
    (∀ c, ofText t = .ok c ↔ Spells c t) ∧
    (∀ c d, Spells c t → Spells d t → c = d) ∧
    (ofText t = .error (.unexpected (.unknownComparator t)) ↔ ∀ c, ¬ Spells c t) := by
  simp only [spells_iff_folds]
  rcases ofText_cases t with ⟨c, hread, hfold⟩ | ⟨herror, hnone⟩
  · rw [hread]
    refine ⟨fun d => ⟨fun h => ?_, fun hd => ?_⟩, fun _ _ hc hd => hc.unique hd, ?_⟩
    · exact Except.ok.inj h ▸ hfold
    · rw [hfold.unique hd]
    · exact iff_of_false nofun fun hnone => hnone c hfold
  · rw [herror]
    refine ⟨fun d => iff_of_false nofun (hnone d), fun _ _ hc hd => hc.unique hd, ?_⟩
    exact iff_of_true rfl hnone

/-- Blanks of several kinds and letters in both cases; and a space that is
    missing. -/
theorem ofText_iff_spells_not_like :
    let text := chars " nOt\t\u3000LIKE\n"
    (Spells notLike text ∧ ∀ c, Spells c text → c = notLike) ∧
      ∀ c, ¬ Spells c (chars "ISNULL") := by
  intro text
  have hspells : Spells notLike text :=
    ((ofText_iff_spells text).1 notLike).mp (by decide +kernel)
  refine ⟨⟨hspells, fun c hc => (ofText_iff_spells text).2.1 c notLike hc hspells⟩, ?_⟩
  exact (ofText_iff_spells (chars "ISNULL")).2.2.mp (by decide +kernel)

end GuardedSql.Comparator
