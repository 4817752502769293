import GuardedSql.Proofs.Statement.Part
import Mathlib.Data.List.Forall2

/-! # Conditions — three ways to set one clause

    A single condition, columns and values that pair up, and conditions given
    one by one: each way has its own order of checks.  They come down to the
    same: the clause must be free, the conditions linked up to the last, and
    each of them checked in order.  So where one way says in its arguments what
    another does, their outcomes are the same, and where both refuse, so are
    the errors.

    A condition is checked without a look at its value if it is a null check.
    `Condition.Similar` are conditions that differ in nothing else. -/

namespace GuardedSql

open Check

namespace Condition

variable {c d : Condition} {cs ds : List Condition}

/-- The conditions differ at most in the value of a null check. -/
structure Similar (c d : Condition) : Prop where
  link : c.link = d.link
  comparator : c.comparator = d.comparator
  column : c.column = d.column
  value : c.comparator ∉ [.isNull, .isNotNull] → c.value = d.value

theorem takesValue_eq_false {comparator : Comparator}
    (h : comparator ∈ [Comparator.isNull, Comparator.isNotNull]) :
    comparator.takesValue = false := by
  revert h
  cases comparator <;> decide

/-- Similar conditions pass or fail alike, and are kept as the same. -/
theorem Similar.checked_eq (h : c.Similar d) : c.checked = d.checked := by
  obtain ⟨link, comparator, column, value⟩ := c
  obtain ⟨link', comparator', column', value'⟩ := d
  obtain ⟨rfl, rfl, rfl, hvalue⟩ := h
  by_cases hnull : comparator ∈ [Comparator.isNull, Comparator.isNotNull]
  · rw [checked, checked]
    simp only [takesValue_eq_false hnull, Bool.false_eq_true, if_false]
  · obtain rfl : value = value' := hvalue hnull
    rfl

/-- Similar conditions are checked with the same outcome. -/
theorem mapM_checked_congr (h : List.Forall₂ Similar cs ds) :
    cs.mapM checked = ds.mapM checked :=
  mapM_congr (h.imp fun _ _ hsimilar => hsimilar.checked_eq)

theorem checkLinks_congr (h : List.Forall₂ Similar cs ds) (count position : Nat) :
    checkLinks count position cs = checkLinks count position ds := by
  induction h generalizing position with
  | nil => rfl
  | cons hcd hrest ih =>
      cases hrest with
      | nil => rw [checkLinks, checkLinks, hcd.link]
      | cons hnext hmore =>
          specialize ih (position + 1)
          rw [checkLinks, hcd.link, ih, ← checkLinks]
          · exact List.cons_ne_nil _ _
          · exact List.cons_ne_nil _ _

section

variable {link : Conjunction} {comparator : Comparator} {columns values others : List Text}

/-- Null checks of one column are similar, whatever their values. -/
theorem similar_null (h : comparator ∈ [Comparator.isNull, Comparator.isNotNull])
    (link : Conjunction) (column value other : Text) :
    Similar ⟨link, comparator, column, value⟩ ⟨link, comparator, column, other⟩ :=
  ⟨rfl, rfl, rfl, fun hnot => absurd h hnot⟩

/-- Null checks of the same columns are similar, whatever stands at the places
    of their values. -/
theorem similar_zip (hnull : comparator ∈ [Comparator.isNull, Comparator.isNotNull])
    (hlength : values.length = others.length) :
    List.Forall₂ Similar (zip link comparator columns values)
      (zip link comparator columns others) := by
  fun_induction zip link comparator columns values generalizing others with
  | case1 column value values =>
      obtain ⟨other, others, rfl⟩ := List.exists_cons_of_length_eq_add_one hlength.symm
      rw [zip]
      exact .cons (similar_null hnull ..) .nil
  | case2 column columns value values hmore ih =>
      obtain ⟨other, others, rfl⟩ := List.exists_cons_of_length_eq_add_one hlength.symm
      rw [zip]
      · exact .cons (similar_null hnull ..) (ih (Nat.succ.inj hlength))
      · exact hmore
  | case3 columns values _ hcons =>
      -- one of the lists is empty, so there are no conditions either way
      have hnone : zip link comparator columns others = [] := by
        cases columns with
        | nil => rfl
        | cons column columns =>
            cases values with
            | nil =>
                rw [List.length_eq_zero_iff.mp hlength.symm]
                cases columns <;> rfl
            | cons value values => exact (hcons _ _ _ _ rfl rfl).elim
      rw [hnone]
      exact .nil

/-! ## Conditions from columns and values -/

theorem linkedBy_singleton (link : Conjunction) (comparator : Comparator) (column value : Text) :
    linkedBy link comparator [column] [value] = [⟨.none, comparator, column, value⟩] := rfl

/-- Columns and values joined by one link are linked conditions. -/
theorem linked_linkedBy (hlength : columns.length = values.length) (hlink : link ≠ .none) :
    Linked (linkedBy link comparator columns values) := by
  rw [← zip_eq_linkedBy hlength]
  exact linked_zip hlength (Or.inl hlink)

end

end Condition

namespace Clauses

variable {link : Conjunction} {comparator : Comparator} {columns values others : List Text}
  {cs ds : List Condition}

/-- Sets conditions that are linked as they should be: the clause must be free,
    and each of them is checked in order. -/
def setConditions (conditions : List Condition) : Edit Clauses Unit := do
  requireUnset "WHERE" (← get).conditions
  let conditions ← (conditions.mapM Condition.checked : Except Error _)
  modify ({ · with conditions := conditions })

/-- A single condition is a list of one, and not linked. -/
theorem whereOne_eq (comparator : Comparator) (column value : Text) (c : Clauses) :
    (whereOne comparator column value).outcome c =
      (setConditions [⟨.none, comparator, column, value⟩]).outcome c := by
  simp [whereOne, setConditions]

/-- Similar conditions have the same outcome. -/
theorem setConditions_of_similar (h : List.Forall₂ Condition.Similar cs ds) :
    setConditions cs = setConditions ds := by
  rw [setConditions, setConditions, Condition.mapM_checked_congr h]

/-- Columns and values are the conditions that compare each with each, if there
    are as many of both and a link wherever one is needed. -/
theorem whereAll_eq (hne : columns ≠ []) (hlength : columns.length = values.length)
    (hlink : link ≠ .none ∨ columns.length = 1) :
    whereAll link comparator columns values =
      setConditions (Condition.linkedBy link comparator columns values) := by
  have hempty : ¬ columns.isEmpty = true := fun h => hne (List.isEmpty_iff.mp h)
  have hnone : ¬ (link.isNone && decide (columns.length > 1)) = true := by
    rw [Bool.and_eq_true, decide_eq_true_iff, Condition.isNone_iff]
    rintro ⟨rfl, hlong⟩
    -- without a link there is a single condition
    have hone := hlink.resolve_left fun h => h rfl
    omega
  rw [whereAll, if_neg (not_not_intro hlength), if_neg hempty, if_neg hnone,
    Condition.zip_eq_linkedBy hlength]
  rfl

/-- Conditions given one by one are these conditions, if there are some and
    they are linked as they should be. -/
theorem whereCustom_eq (hne : cs ≠ []) (hlinked : Condition.Linked cs) :
    whereCustom cs = setConditions cs := by
  have hempty : ¬ cs.isEmpty = true := fun h => hne (List.isEmpty_iff.mp h)
  rw [whereCustom, if_neg hempty, Condition.checkLinks_eq_ok.mpr hlinked]
  rfl

/-- Conditions given one by one are the same to a clause if they are similar. -/
theorem whereCustom_of_similar (h : List.Forall₂ Condition.Similar cs ds) :
    whereCustom cs = whereCustom ds := by
  have hempty : cs.isEmpty = ds.isEmpty := by cases h <;> rfl
  rw [whereCustom, whereCustom, hempty, h.length_eq, Condition.checkLinks_congr h,
    Condition.mapM_checked_congr h]

/-- Null checks of columns do not depend on the values beside the columns. -/
theorem whereAll_of_null (hnull : comparator ∈ [Comparator.isNull, Comparator.isNotNull])
    (hlength : values.length = others.length) :
    whereAll link comparator columns values = whereAll link comparator columns others := by
  rw [whereAll, whereAll, hlength,
    Condition.mapM_checked_congr (Condition.similar_zip hnull hlength)]

end Clauses

namespace Statement

/-- Steps with the same outcome on the own clauses have the same outcome. -/
theorem apply_set_congr {s : Statement} {first second : Setter}
    (h : s.own.set first = s.own.set second) : s.apply (.set first) = s.apply (.set second) := by
  rw [apply_set, apply_set, h]

/-- **One clause, three ways**: on any statement a single condition has the
    same outcome, a statement or an error, whether it is given as one, as a
    column and a value under any link, or in a list; columns and values that
    pair up under a link have the outcome of the pairs given one by one, each
    with the link and the last with none; and of a null check the value is not
    looked at, whichever way it is given. -/
theorem sameOutcome_of_conditions (s : Statement) (comparator : Comparator) :
    (∀ link column value,
      s.apply (.set (.whereAll link comparator [column] [value])) =
        s.apply (.set (.whereOne comparator column value)) ∧
      s.apply (.set (.whereCustom [⟨.none, comparator, column, value⟩])) =
        s.apply (.set (.whereOne comparator column value))) ∧
    (∀ link columns values, link ≠ .none → columns ≠ [] → columns.length = values.length →
      s.apply (.set (.whereAll link comparator columns values)) =
        s.apply (.set (.whereCustom (Condition.linkedBy link comparator columns values)))) ∧
    (comparator ∈ [.isNull, .isNotNull] →
      (∀ column value other, s.apply (.set (.whereOne comparator column value)) =
        s.apply (.set (.whereOne comparator column other))) ∧
      ∀ link columns values others, values.length = others.length →
        s.apply (.set (.whereAll link comparator columns values)) =
          s.apply (.set (.whereAll link comparator columns others))) ∧
    ∀ cs ds, List.Forall₂ Condition.Similar cs ds →
      s.apply (.set (.whereCustom cs)) = s.apply (.set (.whereCustom ds)) := by
  have hone (column value : Text) : s.own.set (.whereOne comparator column value) =
      (Clauses.setConditions [⟨.none, comparator, column, value⟩]).outcome s.own :=
    Clauses.whereOne_eq comparator column value s.own
  have hsame {first second : Setter} (h : first.edit = second.edit) :
      s.apply (.set first) = s.apply (.set second) :=
    apply_set_congr (congrArg (Edit.outcome · s.own) h)
  refine ⟨fun link column value => ⟨apply_set_congr ?_, apply_set_congr ?_⟩, ?_, ?_, ?_⟩
  · have hlength : [column].length = [value].length := rfl
    rw [hone, Clauses.set, Setter.edit,
      Clauses.whereAll_eq (List.cons_ne_nil _ _) hlength (Or.inr rfl),
      Condition.linkedBy_singleton]
  · have hlinked : Condition.Linked [⟨.none, comparator, column, value⟩] := rfl
    rw [hone, Clauses.set, Setter.edit, Clauses.whereCustom_eq (List.cons_ne_nil _ _) hlinked]
  · intro link columns values hlink hne hlength
    refine hsame ((Clauses.whereAll_eq hne hlength (Or.inl hlink)).trans ?_)
    exact (Clauses.whereCustom_eq (Condition.linkedBy_ne_nil hne hlength)
      (Condition.linked_linkedBy hlength hlink)).symm
  · intro hnull
    refine ⟨fun column value other => apply_set_congr ?_, ?_⟩
    · have hsimilar := Condition.similar_null hnull .none column value other
      rw [hone, hone, Clauses.setConditions_of_similar (.cons hsimilar .nil)]
    · intro link columns values others hlength
      exact hsame (Clauses.whereAll_of_null hnull hlength)
  · intro cs ds hsimilar
    exact hsame (Clauses.whereCustom_of_similar hsimilar)

/-- Two null checks whose values are no tokens, and the same with other values:
    pairs or not, the clause holds the null value at both places. -/
theorem sameOutcome_of_conditions_null_checks :
    let s := empty.step (.set (.select [chars "id"]))
    let columns := [chars "a", chars "b"]
    let values := [chars "*", chars "it's"]
    let others := [[], chars "1"]
    let cs := Condition.linkedBy .andNot .isNull columns values
    let ds := Condition.linkedBy .andNot .isNull columns others
    let pairs := Call.set (.whereAll .andNot .isNull columns values)
    (Conjunction.andNot ≠ .none ∧ columns ≠ [] ∧ columns.length = values.length ∧
      Comparator.isNull ∈ [Comparator.isNull, .isNotNull] ∧ values.length = others.length ∧
      List.Forall₂ Condition.Similar cs ds) ∧
    ((s.apply pairs).map fun next => next.own.conditions) =
      .ok [⟨.andNot, .isNull, chars "a", chars "<null>"⟩,
        ⟨.none, .isNull, chars "b", chars "<null>"⟩] ∧
    s.apply pairs = s.apply (.set (.whereCustom cs)) ∧
    s.apply pairs = s.apply (.set (.whereAll .andNot .isNull columns others)) ∧
    s.apply (.set (.whereCustom cs)) = s.apply (.set (.whereCustom ds)) := by
  intro s columns values others cs ds pairs
  have hlink : Conjunction.andNot ≠ .none := nofun
  have hne : columns ≠ [] := List.cons_ne_nil _ _
  have hlength : columns.length = values.length := rfl
  have hnull : Comparator.isNull ∈ [Comparator.isNull, .isNotNull] := List.mem_cons_self ..
  have hothers : values.length = others.length := rfl
  have hsimilar : List.Forall₂ Condition.Similar cs ds :=
    .cons (Condition.similar_null hnull ..) (.cons (Condition.similar_null hnull ..) .nil)
  obtain ⟨-, hpairs, hvalues, hlists⟩ := sameOutcome_of_conditions s .isNull
  refine ⟨⟨hlink, hne, hlength, hnull, hothers, hsimilar⟩, by decide +kernel, ?_, ?_, ?_⟩
  · exact hpairs .andNot columns values hlink hne hlength
  · exact (hvalues hnull).2 .andNot columns values others hothers
  · exact hlists cs ds hsimilar

end Statement

end GuardedSql
