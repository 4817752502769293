import GuardedSql.Proofs.Text.Join
import GuardedSql.Proofs.Text.Parts
import GuardedSql.Token

/-! # Words — the runs of a text, cut where two texts meet

    The runs of a concatenation are the runs of its parts as soon as no run
    crosses the seam.  That one law, `runs_append`, is how every statement
    about the words of a rendered text is put together from statements about
    the words of its parts. -/

namespace GuardedSql.Text

variable {p : Char → Bool} {t x y : Text} {c : Char}

@[simp] theorem runs_nil : runs p [] = [] := by
  simp [runs]

/-- A character outside the class ends one run and begins none. -/
theorem runs_append_cons (hc : p c = false) (x y : Text) :
    runs p (x ++ c :: y) = runs p x ++ runs p y := by
  have hsep : (!p c) = true := by rw [hc]; rfl
  rw [runs, List.splitOnP_append_cons x y hsep, List.filter_append]
  rfl

theorem runs_cons (hc : p c = false) (y : Text) : runs p (c :: y) = runs p y := by
  simpa using runs_append_cons hc [] y

/-- A text without characters of the class has no runs. -/
theorem runs_eq_nil (h : ∀ c ∈ t, p c = false) : runs p t = [] := by
  induction t with
  | nil => simp
  | cons c t ih =>
      rw [runs_cons (h c (List.mem_cons_self ..))]
      exact ih fun d hd => h d (List.mem_cons_of_mem _ hd)

/-- A text of characters of the class is one run. -/
theorem runs_eq_singleton (hne : t ≠ []) (h : ∀ c ∈ t, p c = true) :
    runs p t = [t] := by
  have hsplit : t.splitOnP (fun c => !p c) = [t] := by
    refine List.splitOnP_eq_singleton ?_
    intro c hc
    rw [h c hc]
    rfl
  rw [runs, hsplit]
  simp [hne]

/-- No run crosses the seam: the first text ends, or the second begins, with
    a character outside the class. -/
def Apart (p : Char → Bool) (x y : Text) : Prop :=
  (∀ c ∈ x.getLast?, p c = false) ∨ (∀ c ∈ y.head?, p c = false)

instance (p : Char → Bool) (x y : Text) : Decidable (Apart p x y) :=
  inferInstanceAs (Decidable (_ ∨ _))

/-- The runs of two texts that are apart are the runs of each. -/
theorem runs_append (h : Apart p x y) : runs p (x ++ y) = runs p x ++ runs p y := by
  rcases h with hx | hy
  · rcases List.eq_nil_or_concat x with rfl | ⟨front, c, rfl⟩
    · simp
    · -- the last character of the first text is where both are cut
      have hc : p c = false := hx c (by simp)
      have hfront : runs p (front ++ [c]) = runs p front := by
        simp [runs_append_cons hc]
      rw [List.concat_eq_append, List.append_assoc, hfront]
      exact runs_append_cons hc front y
  · cases y with
    | nil => simp
    | cons c rest =>
        have hc : p c = false := hy c (by simp)
        rw [runs_append_cons hc, runs_cons hc]

/-- Characters outside the class make no runs around a text. -/
theorem runs_around {front back : Text} (hfront : ∀ c ∈ front, p c = false)
    (hback : ∀ c ∈ back, p c = false) (t : Text) : runs p (front ++ t ++ back) = runs p t := by
  have hbefore : Apart p front t := Or.inl fun c hc => hfront c (List.mem_of_mem_getLast? hc)
  have hafter : Apart p (front ++ t) back := Or.inr fun c hc => hback c (List.mem_of_mem_head? hc)
  rw [runs_append hafter, runs_append hbefore, runs_eq_nil hfront, runs_eq_nil hback,
    List.append_nil, List.nil_append]

/-- Characters may be exchanged in the runs, or in the text first, as long as
    each stays inside the class or outside. -/
theorem runs_map {f : Char → Char} (h : ∀ c, p (f c) = p c) (t : Text) :
    runs p (t.map f) = (runs p t).map (List.map f) := by
  have hsplit : (t.map f).splitOnP (fun c => !p c) =
      (t.splitOnP fun c => !p c).map (List.map f) := by
    induction t with
    | nil => simp
    | cons c t ih =>
        obtain ⟨first, rest, hpieces⟩ :=
          List.exists_cons_of_ne_nil (List.splitOnP_ne_nil (fun c => !p c) t)
        rw [hpieces] at ih
        rw [List.map_cons, List.splitOnP_cons_eq_if_modifyHead,
          List.splitOnP_cons_eq_if_modifyHead, ih, hpieces, h]
        split <;> rfl
  rw [runs, runs, hsplit, List.filter_map]
  simp [Function.comp_def]

/-- The words of a join are those of its texts, if the separator has none. -/
theorem runs_join {between : String} (hne : chars between ≠ [])
    (h : ∀ c ∈ chars between, p c = false) (ts : List Text) :
    runs p (join between ts) = ts.flatMap (runs p) := by
  induction ts with
  | nil => simp
  | cons t ts ih =>
      by_cases hts : ts = []
      · simp [hts]
      · -- no run crosses either end of the separator
        have hlast : ∀ c ∈ (t ++ chars between).getLast?, p c = false := by
          intro c hc
          rw [List.getLast?_append, List.getLast?_eq_some_getLast hne] at hc
          obtain rfl := Option.some.inj hc
          exact h _ (List.getLast_mem hne)
        have hhead : ∀ c ∈ (chars between).head?, p c = false := by
          intro c hc
          exact h c (List.mem_of_mem_head? hc)
        rw [join_cons_of_ne_nil hts, runs_append (Or.inl hlast), runs_append (Or.inr hhead),
          runs_eq_nil h, List.append_nil, ih, List.flatMap_cons]

/-- The characters of a run are characters of the text. -/
theorem mem_of_mem_runs {w : Text} (h : w ∈ runs p t) : ∀ c ∈ w, c ∈ t :=
  mem_of_mem_splitOnP (List.mem_filter.mp h).1

end GuardedSql.Text
