import GuardedSql.Proofs.Text.Words
import Mathlib.Data.List.TakeWhile

/-! # Runs — where the maximal runs of a text stand

    `Text.runs` cuts a text at every character outside a class and keeps what
    is left.  `HasRun` and `HasNextRun` say of a text, without cutting it,
    that a run stands in it, and that another run is the next one; the two
    laws at the end say that `runs` finds these and nothing else.

    Both come from one fact: a place among the runs is a place in the text. -/

namespace GuardedSql.Text

variable {p : Char → Bool} {t v w before after : Text} {left right : List Text}

/-- A maximal run of characters of the class, between what stands before it
    and after it. -/
structure IsRun (p : Char → Bool) (before w after : Text) : Prop where
  ne_nil : w ≠ []
  all : ∀ c ∈ w, p c = true
  before : ∀ c ∈ before.getLast?, p c = false
  after : ∀ c ∈ after.head?, p c = false

/-- The second text is a maximal run somewhere in the first. -/
def HasRun (p : Char → Bool) (t w : Text) : Prop :=
  ∃ before after, t = before ++ w ++ after ∧ IsRun p before w after

/-- Two maximal runs of the text, with nothing but characters outside the
    class between them. -/
def HasNextRun (p : Char → Bool) (t v w : Text) : Prop :=
  ∃ before gap after, t = before ++ v ++ gap ++ w ++ after ∧ (∀ c ∈ gap, p c = false) ∧
    IsRun p before v (gap ++ w ++ after) ∧ IsRun p (before ++ v ++ gap) w after

/-- The runs of a text are those before a run, the run, and those after. -/
theorem IsRun.runs_eq (h : IsRun p before w after) :
    runs p (before ++ w ++ after) = runs p before ++ w :: runs p after := by
  have hbefore : Apart p before (w ++ after) := Or.inl h.before
  have hafter : Apart p w after := Or.inr h.after
  rw [List.append_assoc, runs_append hbefore, runs_append hafter,
    runs_eq_singleton h.ne_nil h.all]
  rfl

/-- Where a run ends no other run begins. -/
theorem IsRun.gap_ne_nil {gap : Text} (h : IsRun p before v (gap ++ w ++ after))
    (hw : IsRun p gap w after) : gap ≠ [] := by
  rintro rfl
  obtain ⟨c, rest, hcons⟩ := List.exists_cons_of_ne_nil hw.ne_nil
  have hin := hw.all c (hcons ▸ List.mem_cons_self ..)
  have hout := h.after c (by rw [hcons]; exact rfl)
  exact Bool.noConfusion (hin.symm.trans hout)

/-- What stands before a run may be extended, unless there is nothing. -/
theorem IsRun.append_before {gap : Text} (h : IsRun p gap w after) (hne : gap ≠ [])
    (more : Text) : IsRun p (more ++ gap) w after := by
  refine ⟨h.ne_nil, h.all, fun c hc => h.before c ?_, h.after⟩
  rw [List.getLast?_append_of_ne_nil _ hne] at hc
  exact hc

/-- What stands after a run may be cut off, up to its first character. -/
theorem IsRun.of_append_after {gap more : Text} (h : IsRun p before w (gap ++ more))
    (hne : gap ≠ []) : IsRun p before w gap := by
  refine ⟨h.ne_nil, h.all, h.before, fun c hc => h.after c ?_⟩
  rw [List.head?_append_of_ne_nil _ hne]
  exact hc

/-- A text has no character of the class, or it has a first run. -/
theorem exists_first_run (p : Char → Bool) (t : Text) :
    (∀ c ∈ t, p c = false) ∨ ∃ gap w after, t = gap ++ w ++ after ∧ (∀ c ∈ gap, p c = false) ∧
      IsRun p gap w after := by
  induction t with
  | nil => exact Or.inl nofun
  | cons a t ih =>
      cases ha : p a with
      | false =>
          rcases ih with hnone | ⟨gap, w, after, rfl, hgap, hrun⟩
          · exact Or.inl (List.forall_mem_cons.mpr ⟨ha, hnone⟩)
          · have hgap' : ∀ c ∈ a :: gap, p c = false := List.forall_mem_cons.mpr ⟨ha, hgap⟩
            refine Or.inr ⟨a :: gap, w, after, rfl, hgap', hrun.ne_nil, hrun.all, ?_, hrun.after⟩
            exact fun c hc => hgap' c (List.mem_of_mem_getLast? hc)
      | true =>
          -- the run begins here, and ends before the next character outside
          refine Or.inr ⟨[], (a :: t).takeWhile p, (a :: t).dropWhile p, ?_, nofun, ?_⟩
          · exact List.takeWhile_append_dropWhile.symm
          · refine ⟨?_, fun c hc => List.mem_takeWhile_imp hc, nofun, ?_⟩
            · rw [List.takeWhile_cons_of_pos ha]
              exact List.cons_ne_nil _ _
            · intro c hc
              have hhead := List.head?_dropWhile_not p (a :: t)
              rw [Option.mem_def.mp hc] at hhead
              exact hhead

/-- Without runs there is no character of the class. -/
@[simp] theorem runs_eq_nil_iff : runs p t = [] ↔ ∀ c ∈ t, p c = false := by
  refine ⟨fun h => ?_, runs_eq_nil⟩
  rcases exists_first_run p t with hnone | ⟨gap, w, after, rfl, -, hrun⟩
  · exact hnone
  · rw [hrun.runs_eq] at h
    exact absurd h (List.append_ne_nil_of_right_ne_nil _ (List.cons_ne_nil _ _))

/-- **A place among the runs is a place in the text.** -/
theorem exists_of_runs_eq (h : runs p t = left ++ w :: right) :
    ∃ before after, t = before ++ w ++ after ∧ IsRun p before w after ∧
      runs p before = left ∧ runs p after = right := by
  induction left generalizing t with
  | nil =>
      rcases exists_first_run p t with hnone | ⟨gap, v, after, rfl, hgap, hrun⟩
      · exact nomatch (runs_eq_nil hnone).symm.trans h
      · rw [hrun.runs_eq, runs_eq_nil hgap] at h
        obtain ⟨rfl, hright⟩ := List.cons.inj h
        exact ⟨gap, after, rfl, hrun, runs_eq_nil hgap, hright⟩
  | cons v left ih =>
      rcases exists_first_run p t with hnone | ⟨gap, u, rest, rfl, hgap, hfirst⟩
      · exact nomatch (runs_eq_nil hnone).symm.trans h
      · rw [hfirst.runs_eq, runs_eq_nil hgap] at h
        obtain ⟨rfl, hrest⟩ := List.cons.inj h
        obtain ⟨before, after, rfl, hrun, hleft, hright⟩ := ih hrest
        have hne := hfirst.gap_ne_nil hrun
        rw [List.append_assoc] at hfirst
        refine ⟨gap ++ u ++ before, after, ?_, hrun.append_before hne _, ?_, hright⟩
        · simp only [List.append_assoc]
        · rw [(hfirst.of_append_after hne).runs_eq, runs_eq_nil hgap, hleft]
          rfl

/-- **The runs** of a text are its maximal runs. -/
theorem mem_runs_iff : w ∈ runs p t ↔ HasRun p t w := by
  constructor
  · intro hmem
    obtain ⟨left, right, hruns⟩ := List.append_of_mem hmem
    obtain ⟨before, after, ht, hrun, -⟩ := exists_of_runs_eq hruns
    exact ⟨before, after, ht, hrun⟩
  · rintro ⟨before, after, rfl, hrun⟩
    rw [hrun.runs_eq]
    exact List.mem_append_right _ (List.mem_cons_self ..)

/-- **Neighbours** among the runs follow each other in the text. -/
theorem pair_infix_runs_iff : [v, w] <:+: runs p t ↔ HasNextRun p t v w := by
  constructor
  · rintro ⟨left, right, hruns⟩
    have hfirst : runs p t = left ++ v :: (w :: right) := by
      rw [← hruns, List.append_assoc]
      rfl
    obtain ⟨before, rest, rfl, hv, -, hrest⟩ := exists_of_runs_eq hfirst
    have hsecond : runs p rest = [] ++ w :: right := hrest
    obtain ⟨gap, after, rfl, hw, hgap, -⟩ := exists_of_runs_eq hsecond
    have hne := hv.gap_ne_nil hw
    refine ⟨before, gap, after, ?_, runs_eq_nil_iff.mp hgap, hv, hw.append_before hne _⟩
    simp only [List.append_assoc]
  · rintro ⟨before, gap, after, rfl, hgap, hv, hw⟩
    have hbetween : IsRun p before v gap :=
      ⟨hv.ne_nil, hv.all, hv.before, fun c hc => hgap c (List.mem_of_mem_head? hc)⟩
    refine ⟨runs p before, runs p after, ?_⟩
    rw [hw.runs_eq, hbetween.runs_eq, runs_eq_nil hgap, List.append_assoc, List.append_assoc]
    rfl

end GuardedSql.Text
