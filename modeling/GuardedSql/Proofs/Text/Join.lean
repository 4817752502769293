import GuardedSql.Text.Basic

/-! # Joins — texts one after another with a separator between

    `Text.join` puts a separator between neighbours and none at either end.
    A join is taken apart from the front, or cut in two between its texts. -/

namespace GuardedSql.Text

/-! ## Properties of all characters

    A property of every character of a text is decided by going through the
    text.  Characters are a finite type, so that going through all of them
    would decide it as well and take forever; the instances below are declared
    last, and found first. -/

section

variable {p : Char → Prop} [DecidablePred p]

instance decidableForallMem (t : Text) : Decidable (∀ c ∈ t, p c) := List.decidableBAll p t

instance decidableExistsMem (t : Text) : Decidable (∃ c ∈ t, p c) := List.decidableBEx p t

instance decidableForallMemOption (o : Option Char) : Decidable (∀ c ∈ o, p c) :=
  Option.decidableForallMem o

instance decidableExistsMemOption (o : Option Char) : Decidable (∃ c ∈ o, p c) :=
  Option.decidableExistsMem o

end

/-! ## Separators

    Each separator is one character. -/

@[simp] theorem chars_space : chars " " = [' '] := by with_unfolding_all decide

@[simp] theorem chars_comma : chars "," = [','] := by with_unfolding_all decide

@[simp] theorem chars_dot : chars "." = ['.'] := by with_unfolding_all decide

@[simp] theorem chars_colon : chars ":" = [':'] := by with_unfolding_all decide

@[simp] theorem chars_ampersand : chars "&" = ['&'] := by with_unfolding_all decide

/-! ## Joins -/

variable {between : String} {t : Text} {ts : List Text} {c : Char}

@[simp] theorem join_nil : join between [] = [] := rfl

@[simp] theorem join_singleton (between : String) (t : Text) : join between [t] = t := by
  rw [join, List.intercalate_singleton]

/-- A separator stands between the first two texts. -/
@[simp] theorem join_cons_cons (between : String) (t u : Text) (ts : List Text) :
    join between (t :: u :: ts) = t ++ chars between ++ join between (u :: ts) := by
  rw [join, List.intercalate_cons_cons]
  rfl

/-- A separator stands behind the first text, if there is another. -/
theorem join_cons_of_ne_nil (h : ts ≠ []) :
    join between (t :: ts) = t ++ chars between ++ join between ts := by
  obtain ⟨u, us, rfl⟩ := List.exists_cons_of_ne_nil h
  exact join_cons_cons between t u us

/-- A join is its first text, and each other one after a separator. -/
theorem join_cons (between : String) (t : Text) (ts : List Text) :
    join between (t :: ts) = t ++ ts.flatMap (chars between ++ ·) := by
  induction ts generalizing t with
  | nil => simp
  | cons u ts ih => simp [ih]

/-- What holds of two texts with the separator between, if it holds of both,
    holds of every join. -/
theorem join_induction {p : Text → Prop} (happend : ∀ t u, p t → p u → p (t ++ chars between ++ u))
    (hne : ts ≠ []) (h : ∀ t ∈ ts, p t) : p (join between ts) := by
  induction ts with
  | nil => exact absurd rfl hne
  | cons t ts ih =>
      obtain ⟨ht, hts⟩ := List.forall_mem_cons.mp h
      by_cases hrest : ts = []
      · simpa [hrest] using ht
      · rw [join_cons_of_ne_nil hrest]
        exact happend t _ ht (ih hrest hts)

/-- The first text of a join, and what comes after it. -/
theorem join_cons_append (between : String) (t : Text) (ts : List Text) (r : Text) :
    join between (t :: ts) ++ r =
      t ++ if ts.isEmpty then r else chars between ++ (join between ts ++ r) := by
  cases ts with
  | nil => simp
  | cons u us => simp

/-- A join of two lists is the two joins with one more separator. -/
theorem join_append {ts us : List Text} (hts : ts ≠ []) (hus : us ≠ []) :
    join between (ts ++ us) = join between ts ++ chars between ++ join between us := by
  induction ts with
  | nil => exact absurd rfl hts
  | cons t ts ih =>
      by_cases hrest : ts = []
      · simp [hrest, join_cons_of_ne_nil hus]
      · have hne : ts ++ us ≠ [] := fun h => hrest (List.append_eq_nil_iff.mp h).1
        rw [List.cons_append, join_cons_of_ne_nil hne, ih hrest, join_cons_of_ne_nil hrest]
        simp only [List.append_assoc]

/-- The pieces of a join are told apart, if none holds the separator. -/
theorem splitOn_join {sep : Char} (hbetween : chars between = [sep]) (hne : ts ≠ [])
    (h : ∀ t ∈ ts, sep ∉ t) :
    (join between ts).splitOn sep = ts := by
  rw [join, hbetween]
  exact List.splitOn_intercalate sep h hne

/-- The pieces of a text make the text. -/
theorem join_splitOn {sep : Char} (hbetween : chars between = [sep]) (t : Text) :
    join between (t.splitOn sep) = t := by
  rw [join, hbetween, List.intercalate_splitOn]

/-- A join holds what its pieces hold, and the separator. -/
theorem mem_join (h : c ∈ join between ts) :
    c ∈ chars between ∨ ∃ t ∈ ts, c ∈ t := by
  by_cases hne : ts = []
  · rw [hne] at h
    exact nomatch h
  · refine join_induction (p := fun t => c ∈ t → c ∈ chars between ∨ ∃ t ∈ ts, c ∈ t)
      ?_ hne ?_ h
    · intro t u ht hu hc
      rcases List.mem_append.mp hc with hleft | hright
      · rcases List.mem_append.mp hleft with hfirst | hsep
        · exact ht hfirst
        · exact Or.inl hsep
      · exact hu hright
    · exact fun t ht hc => Or.inr ⟨t, ht, hc⟩

end GuardedSql.Text
