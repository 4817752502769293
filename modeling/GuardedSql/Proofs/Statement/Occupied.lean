import GuardedSql.Proofs.Statement.Invariant
import GuardedSql.Proofs.Statement.Part

/-! # Occupied parts — a clause that is set refuses to be set again

    Every step asks first whether its clause is free: whether another mode is
    fixed, if the step fixes one, and whether the parts it writes are filled.
    `Clauses.taken?` is the clause that is then said to be set already, and as
    long as there is one the arguments of the step are not looked at.

    One step looks at an argument before: conditions given one by one are
    refused as empty, if there are none, even where conditions are set. -/

namespace GuardedSql

/-- The clause that a part is, as messages name it. -/
def Part.name : Part → String
  | selection => "SELECT"
  | tables => "FROM"
  | joins => "JOIN"
  | conditions => "WHERE"
  | sortKeys => "ORDER BY"
  | limit => "LIMIT"
  | row => "INSERT"
  | duplicateKey => "ON DUPLICATE KEY"
  | assignments => "UPDATE"

namespace Clauses

variable {c : Clauses} {part : Part} {parts : List Part} {clause : Text}

/-- The clause in the way of a step: that of another mode than the step's, or
    the first of its parts that is filled. -/
def taken? (c : Clauses) (mode : Option Mode) (parts : List Part) : Option Text :=
  match c.mode.filter fun current => mode.any fun mode => current ≠ mode with
  | some current => some current.keyword
  | none => (parts.find? c.holds).map fun part => chars part.name

/-- Where a part of the step is filled, some clause is in the way. -/
theorem exists_taken (mode : Option Mode) (hpart : part ∈ parts) (held : c.holds part = true) :
    ∃ clause, c.taken? mode parts = some clause := by
  rw [taken?]
  cases c.mode.filter fun current => mode.any fun mode => current ≠ mode with
  | some current => exact ⟨current.keyword, rfl⟩
  | none =>
      obtain ⟨first, hfirst⟩ := Option.isSome_iff_exists.mp
        (List.find?_isSome.mpr ⟨part, hpart, held⟩)
      exact ⟨chars first.name, by rw [hfirst]; rfl⟩

/-- Without a mode to fix only the parts are in the way. -/
theorem taken?_none : c.taken? none parts = (parts.find? c.holds).map fun part =>
    chars part.name := by
  rw [taken?]
  cases c.mode <;> rfl

theorem taken?_nil : c.taken? none [] = none := taken?_none

/-- The first part that holds something is the one that is taken. -/
theorem taken?_cons : c.taken? none (part :: parts) =
    if c.holds part = true then some (chars part.name) else c.taken? none parts := by
  rw [taken?_none, taken?_none, List.find?_cons]
  cases c.holds part <;> rfl

theorem taken?_singleton (h : c.taken? none [part] = some clause) :
    c.holds part = true ∧ chars part.name = clause := by
  rw [taken?_cons, taken?_nil] at h
  by_cases hheld : c.holds part = true
  · rw [if_pos hheld] at h
    exact ⟨hheld, Option.some.inj h⟩
  · rw [if_neg hheld] at h
    exact nomatch h

/-! ## The questions of a step

    What follows a question matters only if the clause in the way is not the
    one it asks for. -/

open Edit

variable {rest : Unit → Edit Clauses Unit}

/-- Asked for the mode, a step is refused because of another mode, or goes on
    with its parts in the way. -/
theorem allowsMode_seq {mode : Mode} (h : c.taken? (some mode) parts = some clause)
    (hrest : c.taken? none parts = some clause →
      (rest ()).outcome c = .error (.alreadySet clause)) :
    outcome (get >>= fun d : Clauses => liftM (d.allowsMode mode) >>= rest) c =
      .error (.alreadySet clause) := by
  rw [taken?_none] at hrest
  rw [taken?] at h
  rw [outcome_get, outcome_check, allowsMode]
  cases hmode : c.mode with
  | none =>
      rw [hmode] at h
      exact hrest h
  | some current =>
      rw [hmode] at h
      by_cases hsame : current = mode
      · rw [Option.filter_some_neg (by simp [hsame])] at h
        dsimp only
        rw [if_pos hsame]
        exact hrest h
      · rw [Option.filter_some_pos (by simp [hsame])] at h
        dsimp only
        rw [if_neg hsame, Option.some.inj h]
        rfl

/-- Asked for a part, a step is refused because of that part, or goes on with
    the others in the way. -/
theorem requireUnset_seq {α : Type} {content : Clauses → List α}
    (h : c.taken? none (part :: parts) = some clause)
    (hcontent : c.holds part = !(content c).isEmpty)
    (hrest : c.taken? none parts = some clause →
      (rest ()).outcome c = .error (.alreadySet clause)) :
    outcome (get >>= fun d => liftM (requireUnset part.name (content d)) >>= rest) c =
      .error (.alreadySet clause) := by
  rw [taken?_cons, hcontent] at h
  rw [outcome_get, outcome_check, requireUnset]
  cases hempty : (content c).isEmpty with
  | true =>
      rw [hempty] at h
      exact hrest h
  | false =>
      rw [hempty] at h
      rw [← Option.some.inj h]
      rfl

/-- If the last part of a step is what is in the way, nothing else is asked. -/
theorem requireUnset_last {α : Type} {content : Clauses → List α}
    (h : c.taken? none [part] = some clause) (hcontent : c.holds part = !(content c).isEmpty) :
    outcome (get >>= fun d => liftM (requireUnset part.name (content d)) >>= rest) c =
      .error (.alreadySet clause) := by
  refine requireUnset_seq h hcontent fun hnone => ?_
  exact nomatch taken?_nil.symm.trans hnone

/-! ## The steps -/

/-- A select on top of another clause or of its own is refused for it. -/
theorem selectWith_of_taken {columns : List Text} {options : SelectOptions}
    (h : c.taken? (some .select) [.selection] = some clause) :
    (selectWith columns options).outcome c = .error (.alreadySet clause) := by
  rw [selectWith]
  exact allowsMode_seq h fun h => requireUnset_last h rfl

theorem fromTables_of_taken {tables : List Text} (h : c.taken? none [.tables] = some clause) :
    (fromTables tables).outcome c = .error (.alreadySet clause) := by
  rw [fromTables]
  exact requireUnset_last h rfl

theorem joinAll_of_taken {kind : JoinKind} {targets : List JoinTarget}
    (h : c.taken? none [.joins] = some clause) :
    (joinAll kind targets).outcome c = .error (.alreadySet clause) := by
  rw [joinAll]
  exact requireUnset_last h rfl

theorem whereOne_of_taken {comparator : Comparator} {column value : Text}
    (h : c.taken? none [.conditions] = some clause) :
    (whereOne comparator column value).outcome c = .error (.alreadySet clause) := by
  rw [whereOne]
  exact requireUnset_last h rfl

theorem whereAll_of_taken {link : Conjunction} {comparator : Comparator}
    {columns values : List Text} (h : c.taken? none [.conditions] = some clause) :
    (whereAll link comparator columns values).outcome c = .error (.alreadySet clause) := by
  rw [whereAll]
  exact requireUnset_last h rfl

/-- Conditions of one's own are refused where there are some, unless they are
    none. -/
theorem whereCustom_of_taken {conditions : List Condition} (hne : conditions ≠ [])
    (h : c.taken? none [.conditions] = some clause) :
    (whereCustom conditions).outcome c = .error (.alreadySet clause) := by
  rw [whereCustom, if_neg fun hempty => hne (List.isEmpty_iff.mp hempty)]
  exact requireUnset_last h rfl

/-- Conditions are looked at before the clause is: no conditions are refused
    as such, whether there are some already or not. -/
theorem whereCustom_nil : (whereCustom []).outcome c = .error (.emptyValue (chars "WHERE")) := rfl

theorem orderByAll_of_taken {keys : List SortKey} (h : c.taken? none [.sortKeys] = some clause) :
    (orderByAll keys).outcome c = .error (.alreadySet clause) := by
  rw [orderByAll]
  exact requireUnset_last h rfl

theorem setLimit_of_taken {count : Int} (h : c.taken? none [.limit] = some clause) :
    (setLimit count).outcome c = .error (.alreadySet clause) := by
  obtain ⟨hheld, rfl⟩ := taken?_singleton h
  rw [setLimit, outcome_get, outcome_ite, outcome_throw]
  exact if_pos hheld

/-- An insert on top of another clause or of its own is refused for it. -/
theorem insert_of_taken {table : Text} {values columns : List Text}
    (h : c.taken? (some .insert) [.tables, .row] = some clause) :
    (insert table values columns).outcome c = .error (.alreadySet clause) := by
  rw [insert]
  exact allowsMode_seq h fun h => requireUnset_seq h rfl fun h => requireUnset_last h rfl

/-- On an insert assignments for a duplicate key are refused where there are
    some. -/
theorem onDuplicateKey_of_taken {columns values : List Text} (hmode : c.mode = some .insert)
    (h : c.taken? none [.duplicateKey] = some clause) :
    (onDuplicateKey columns values).outcome c = .error (.alreadySet clause) := by
  rw [onDuplicateKey, outcome_get, if_neg (not_not.mpr hmode)]
  exact requireUnset_last h rfl

theorem updateAll_of_taken {table : Text} {pairs : List Assignment}
    (h : c.taken? (some .update) [.tables, .assignments] = some clause) :
    (updateAll table pairs).outcome c = .error (.alreadySet clause) := by
  rw [updateAll]
  exact allowsMode_seq h fun h => requireUnset_seq h rfl fun h => requireUnset_last h rfl

/-- What an insert does on a duplicate key is there only if there is an
    insert, so its step is asked for its clause. -/
theorem WellFormed.mode_of_taken (hc : c.WellFormed)
    (h : c.taken? none [.duplicateKey] = some clause) : c.mode = some .insert := by
  have hheld : (!c.duplicateKey.isEmpty) = true := (taken?_singleton h).1
  exact hc.duplicateKey_mode (by simpa using hheld)

/-- Whatever the step and its arguments, the clause in the way is what is
    said, but for conditions of which there are none. -/
theorem WellFormed.set_of_taken (hc : c.WellFormed) {setter : Setter}
    (h : c.taken? setter.content.mode setter.parts = some clause)
    (hne : setter ≠ .whereCustom []) : c.set setter = .error (.alreadySet clause) := by
  cases setter with
  | select columns => exact selectWith_of_taken h
  | selectWith columns options => exact selectWith_of_taken h
  | fromTables tables => exact fromTables_of_taken h
  | join kind table column value => exact joinAll_of_taken h
  | joinAll kind targets => exact joinAll_of_taken h
  | whereOne comparator column value => exact whereOne_of_taken h
  | whereAll link comparator columns values => exact whereAll_of_taken h
  | whereCustom conditions =>
      exact whereCustom_of_taken (fun hnil => hne (congrArg Setter.whereCustom hnil)) h
  | orderBy column direction => exact orderByAll_of_taken h
  | orderByAll keys => exact orderByAll_of_taken h
  | limit count => exact setLimit_of_taken h
  | insert table values columns => exact insert_of_taken h
  | onDuplicateKey columns values => exact onDuplicateKey_of_taken (hc.mode_of_taken h) h
  | update table column value => exact updateAll_of_taken h
  | updateAll table pairs => exact updateAll_of_taken h

end Clauses

namespace Statement

variable {s : Statement}

/-- **Set once**: a step for a part that is filled is refused because of the
    clause in the way, whatever the arguments are; only conditions given one
    by one are refused as empty if there are none. -/
theorem alreadySet_of_built (built : s.Built) {setter : Setter} {part : Part}
    (hpart : part ∈ setter.parts) (held : s.own.holds part = true) :
    ∃ clause, s.own.taken? setter.content.mode setter.parts = some clause ∧
      (setter ≠ .whereCustom [] → s.apply (.set setter) = .error (.alreadySet clause)) ∧
      (setter = .whereCustom [] →
        s.apply (.set setter) = .error (.emptyValue (chars "WHERE"))) := by
  obtain ⟨clause, hclause⟩ := Clauses.exists_taken setter.content.mode hpart held
  have hwell : s.own.WellFormed := built.wellFormed _ (mem_nodes.mpr (Or.inl rfl))
  refine ⟨clause, hclause, fun hne => ?_, ?_⟩
  · rw [apply_set, hwell.set_of_taken hclause hne]
    rfl
  · rintro rfl
    have hset : s.own.set (.whereCustom []) = .error (.emptyValue (chars "WHERE")) :=
      Clauses.whereCustom_nil
    rw [apply_set, hset]
    rfl

/-- After an update and a rejected limit, an insert into two columns without
    values: nothing is said of its table and its lists. -/
theorem alreadySet_of_built_insert_after_update :
    let s := empty.steps
      [.set (.update (chars "t") (chars "a") (chars "1")), .set (.limit 0)]
    let setter := Setter.insert (chars "*;") [] [chars "b", chars "c"]
    (.tables ∈ setter.parts ∧ s.own.holds .tables = true ∧
      s.own.taken? setter.content.mode setter.parts = some (chars "UPDATE")) ∧
    ∃ clause, s.own.taken? setter.content.mode setter.parts = some clause ∧
      (setter ≠ .whereCustom [] → s.apply (.set setter) = .error (.alreadySet clause)) ∧
      (setter = .whereCustom [] →
        s.apply (.set setter) = .error (.emptyValue (chars "WHERE"))) := by
  intro s setter
  have hpart : .tables ∈ setter.parts := List.mem_cons_self ..
  have held : s.own.holds .tables = true := by decide +kernel
  refine ⟨⟨hpart, held, by decide +kernel⟩, alreadySet_of_built ?_ hpart held⟩
  exact .set _ (.set _ .empty)

/-- No conditions, given where a condition is set, are not refused because of
    that one. -/
theorem not_alreadySet_of_no_conditions :
    ¬ ∀ s : Statement, s.Built → ∀ (setter : Setter), ∀ part ∈ setter.parts,
      s.own.holds part = true → ∃ clause, s.apply (.set setter) = .error (.alreadySet clause) := by
  intro h
  let s := empty.step (.set (.whereOne .eq (chars "a") (chars "1")))
  have held : s.own.holds .conditions = true := by decide +kernel
  obtain ⟨clause, hclause⟩ := h s (.set _ .empty) (.whereCustom []) .conditions
    (List.mem_singleton_self _) held
  have hempty : s.apply (.set (.whereCustom [])) = .error (.emptyValue (chars "WHERE")) := rfl
  exact nomatch hempty.symm.trans hclause

end Statement

end GuardedSql
