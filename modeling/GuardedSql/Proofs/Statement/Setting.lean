import GuardedSql.Proofs.Statement.Checked
import GuardedSql.Proofs.Statement.Edit

/-! # Setting — what an accepted step writes

    For every clause, when the step that sets it is accepted and what it
    leaves behind.  `Clauses.Sets` collects these as the nine ways in which
    one accepted step changes a record of clauses; an invariant of the
    records is one case for each of them. -/

namespace GuardedSql

open Check Token

namespace Clauses

variable {c next : Clauses}

/-- The mode is open, or is the given one. -/
def Open (c : Clauses) (mode : Mode) : Prop := c.mode = none ∨ c.mode = some mode

/-- A mode is allowed where no other one is set. -/
@[simp] theorem allowsMode_eq_ok {mode : Mode} : c.allowsMode mode = .ok () ↔ c.Open mode := by
  rw [allowsMode, Open]
  cases c.mode with
  | none => simp
  | some current =>
      by_cases hmode : current = mode
      · rw [hmode]
        simp
      · simp [hmode]

/-- A clause is free if it is empty. -/
@[simp] theorem requireUnset_eq_ok {α : Type} {clause : String} {content : List α} :
    requireUnset clause content = .ok () ↔ content = [] := by
  rw [requireUnset]
  cases content <;> simp

/-- When a select is accepted, and what it makes of the clauses. -/
theorem selectWith_eq_ok {columns : List Text} {options : SelectOptions} :
    (selectWith columns options).outcome c = .ok next ↔
      c.Open .select ∧ c.columns = [] ∧ SoundNames columns ∧ options.Sound ∧
      { c with mode := some .select, columns := columns, options := options } = next := by
  simp [selectWith]

theorem fromTables_eq_ok {tables : List Text} :
    (fromTables tables).outcome c = .ok next ↔
      c.tables = [] ∧ SoundNames tables ∧ { c with tables := tables } = next := by
  simp [fromTables]

theorem joinAll_eq_ok {kind : JoinKind} {targets : List JoinTarget} :
    (joinAll kind targets).outcome c = .ok next ↔
      c.joins = [] ∧ targets ≠ [] ∧ (∀ j ∈ targets.map (JoinTarget.kept kind), j.Sound) ∧
      { c with joins := targets.map (JoinTarget.kept kind) } = next := by
  simp [joinAll]

theorem whereOne_eq_ok {comparator : Comparator} {column value : Text} :
    (whereOne comparator column value).outcome c = .ok next ↔
      c.conditions = [] ∧ (Condition.kept ⟨.none, comparator, column, value⟩).Sound ∧
      { c with conditions := [Condition.kept ⟨.none, comparator, column, value⟩] } = next := by
  simp [whereOne]

/-- When conditions from lists are accepted, and what they make of the
    clauses. -/
theorem whereAll_eq_ok {link : Conjunction} {comparator : Comparator}
    {columns values : List Text} :
    (whereAll link comparator columns values).outcome c = .ok next ↔
      c.conditions = [] ∧ columns.length = values.length ∧ columns ≠ [] ∧
      (link ≠ .none ∨ columns.length ≤ 1) ∧
      (∀ d ∈ (Condition.zip link comparator columns values).map Condition.kept, d.Sound) ∧
      { c with conditions :=
        (Condition.zip link comparator columns values).map Condition.kept } = next := by
  have hlink : (link = .none → columns.length ≤ 1) ↔ link ≠ .none ∨ columns.length ≤ 1 :=
    imp_iff_not_or
  simp [whereAll, hlink]

/-- When conditions of one's own are accepted, and what they make of the
    clauses. -/
theorem whereCustom_eq_ok {conditions : List Condition} :
    (whereCustom conditions).outcome c = .ok next ↔
      conditions ≠ [] ∧ c.conditions = [] ∧ Condition.Linked conditions ∧
      (∀ d ∈ conditions.map Condition.kept, d.Sound) ∧
      { c with conditions := conditions.map Condition.kept } = next := by
  simp [whereCustom]

theorem orderByAll_eq_ok {keys : List SortKey} :
    (orderByAll keys).outcome c = .ok next ↔
      c.sortKeys = [] ∧ keys ≠ [] ∧ (∀ key ∈ keys, Accepted .name key.column) ∧
      { c with sortKeys := keys } = next := by
  simp [orderByAll, Accepted]

theorem setLimit_eq_ok {count : Int} :
    (setLimit count).outcome c = .ok next ↔
      c.limit = none ∧ 0 < count ∧ { c with limit := some count.toNat } = next := by
  simp [setLimit]

/-- When an insert is accepted, and what it makes of the clauses. -/
theorem insert_eq_ok {table : Text} {values columns : List Text} :
    (insert table values columns).outcome c = .ok next ↔
      c.Open .insert ∧ c.tables = [] ∧ c.insertColumns = [] ∧
      columns.length = values.length ∧ SoundNames columns ∧ Accepted .name table ∧
      (∀ value ∈ values, Accepted .value value) ∧
      { c with
        mode := some .insert, tables := [table],
        insertColumns := columns, insertValues := values } = next := by
  simp [insert, and_assoc, Accepted]

theorem onDuplicateKey_eq_ok {columns values : List Text} :
    (onDuplicateKey columns values).outcome c = .ok next ↔
      c.mode = some .insert ∧ c.duplicateKey = [] ∧
      columns.length = values.length ∧ SoundNames columns ∧
      (∀ value ∈ values, Accepted .value value) ∧
      { c with duplicateKey := columns.zipWith Assignment.mk values } = next := by
  simp [onDuplicateKey, and_assoc, Accepted]

/-- When an update is accepted, and what it makes of the clauses. -/
theorem updateAll_eq_ok {table : Text} {pairs : List Assignment} :
    (updateAll table pairs).outcome c = .ok next ↔
      c.Open .update ∧ c.tables = [] ∧ c.assignments = [] ∧ pairs ≠ [] ∧
      Accepted .name table ∧ (∀ pair ∈ pairs, pair.Sound) ∧
      { c with
        mode := some .update, tables := [table], assignments := pairs } = next := by
  simp [updateAll, Accepted]

/-- One accepted step, by what it writes: each clause is set from nothing,
    and only to something that the clause can hold. -/
inductive Sets (c : Clauses) : Clauses → Prop
  | select {columns : List Text} {options : SelectOptions} (mode : c.Open .select)
      (unset : c.columns = []) (sound : SoundNames columns) (options_sound : options.Sound) :
      Sets c { c with mode := some .select, columns := columns, options := options }
  | tables {tables : List Text} (unset : c.tables = []) (sound : SoundNames tables) :
      Sets c { c with tables := tables }
  | joins {joins : List Join} (unset : c.joins = []) (nonempty : joins ≠ [])
      (sound : ∀ j ∈ joins, j.Sound) (one_kind : ∀ j ∈ joins, ∀ k ∈ joins, j.kind = k.kind) :
      Sets c { c with joins := joins }
  | conditions {conditions : List Condition} (unset : c.conditions = [])
      (nonempty : conditions ≠ []) (linked : Condition.Linked conditions)
      (sound : ∀ d ∈ conditions, d.Sound) : Sets c { c with conditions := conditions }
  | sortKeys {keys : List SortKey} (unset : c.sortKeys = []) (nonempty : keys ≠ [])
      (sound : ∀ key ∈ keys, Accepted .name key.column) : Sets c { c with sortKeys := keys }
  | limit {count : Nat} (unset : c.limit = none) (pos : 0 < count) :
      Sets c { c with limit := some count }
  | insert {table : Text} {values columns : List Text} (mode : c.Open .insert)
      (tables_unset : c.tables = []) (unset : c.insertColumns = [])
      (length_eq : columns.length = values.length) (sound : SoundNames columns)
      (table_sound : Accepted .name table)
      (values_sound : ∀ value ∈ values, Accepted .value value) :
      Sets c { c with
        mode := some .insert, tables := [table],
        insertColumns := columns, insertValues := values }
  | duplicateKey {pairs : List Assignment} (mode : c.mode = some .insert)
      (unset : c.duplicateKey = []) (nonempty : pairs ≠ []) (sound : ∀ a ∈ pairs, a.Sound) :
      Sets c { c with duplicateKey := pairs }
  | update {table : Text} {pairs : List Assignment} (mode : c.Open .update)
      (tables_unset : c.tables = []) (unset : c.assignments = []) (nonempty : pairs ≠ [])
      (table_sound : Accepted .name table) (sound : ∀ a ∈ pairs, a.Sound) :
      Sets c { c with mode := some .update, tables := [table], assignments := pairs }

/-- Columns and values that pair up make assignments, each sound if both its
    parts are. -/
theorem zipWith_sound {columns values : List Text}
    (hcolumns : ∀ name ∈ columns, Accepted .name name)
    (hvalues : ∀ value ∈ values, Accepted .value value) :
    ∀ a ∈ columns.zipWith Assignment.mk values, a.Sound := by
  intro a ha
  rw [← List.map_uncurry_zip_eq_zipWith] at ha
  obtain ⟨⟨column, value⟩, hpair, rfl⟩ := List.mem_map.mp ha
  exact ⟨hcolumns column (List.of_mem_zip hpair).1, hvalues value (List.of_mem_zip hpair).2⟩

/-- Accepted joins set one clause. -/
theorem joinAll_sets {kind : JoinKind} {targets : List JoinTarget}
    (h : (joinAll kind targets).outcome c = .ok next) : c.Sets next := by
  obtain ⟨hunset, hne, hsound, rfl⟩ := joinAll_eq_ok.mp h
  refine .joins hunset (by simpa using hne) hsound ?_
  intro j hj k hk
  obtain ⟨target, -, rfl⟩ := List.mem_map.mp hj
  obtain ⟨other, -, rfl⟩ := List.mem_map.mp hk
  rfl

theorem orderByAll_sets {keys : List SortKey} (h : (orderByAll keys).outcome c = .ok next) :
    c.Sets next := by
  obtain ⟨hunset, hne, hsound, rfl⟩ := orderByAll_eq_ok.mp h
  exact .sortKeys hunset hne hsound

theorem selectWith_sets {columns : List Text} {options : SelectOptions}
    (h : (selectWith columns options).outcome c = .ok next) : c.Sets next := by
  obtain ⟨hmode, hunset, hsound, hoptions, rfl⟩ := selectWith_eq_ok.mp h
  exact .select hmode hunset hsound hoptions

theorem updateAll_sets {table : Text} {pairs : List Assignment}
    (h : (updateAll table pairs).outcome c = .ok next) : c.Sets next := by
  obtain ⟨hmode, htables, hunset, hne, htable, hsound, rfl⟩ := updateAll_eq_ok.mp h
  exact .update hmode htables hunset hne htable hsound

/-- Whatever the step, if it is accepted it sets one clause. -/
theorem sets_of_set_eq_ok {setter : Setter} (h : c.set setter = .ok next) :
    c.Sets next := by
  cases setter with
  | select columns => exact selectWith_sets h
  | selectWith columns options => exact selectWith_sets h
  | fromTables tables =>
      obtain ⟨hunset, hsound, rfl⟩ := fromTables_eq_ok.mp h
      exact .tables hunset hsound
  | join kind table column value => exact joinAll_sets h
  | joinAll kind targets => exact joinAll_sets h
  | whereOne comparator column value =>
      -- the only condition is the last one, and is linked to none
      obtain ⟨hunset, hsound, rfl⟩ := whereOne_eq_ok.mp h
      refine .conditions hunset (List.cons_ne_nil _ _) ?_ ?_
      · exact Condition.kept_link _
      · exact List.forall_mem_singleton.mpr hsound
  | whereAll link comparator columns values =>
      obtain ⟨hunset, hlength, hne, hlink, hsound, rfl⟩ := whereAll_eq_ok.mp h
      refine .conditions hunset ?_ ?_ hsound
      · rw [← List.length_pos_iff, List.length_map, Condition.length_zip hlength]
        exact List.length_pos_iff.mpr hne
      · exact Condition.linked_map_kept.mpr (Condition.linked_zip hlength hlink)
  | whereCustom conditions =>
      obtain ⟨hne, hunset, hlinked, hsound, rfl⟩ := whereCustom_eq_ok.mp h
      exact .conditions hunset (by simpa using hne)
        (Condition.linked_map_kept.mpr hlinked) hsound
  | orderBy column direction => exact orderByAll_sets h
  | orderByAll keys => exact orderByAll_sets h
  | limit count =>
      obtain ⟨hunset, hpos, rfl⟩ := setLimit_eq_ok.mp h
      exact .limit hunset (by omega)
  | insert table values columns =>
      obtain ⟨hmode, htables, hunset, hlength, hsound, htable, hvalues, rfl⟩ :=
        insert_eq_ok.mp h
      exact .insert hmode htables hunset hlength hsound htable hvalues
  | onDuplicateKey columns values =>
      obtain ⟨hmode, hunset, hlength, hsound, hvalues, rfl⟩ := onDuplicateKey_eq_ok.mp h
      refine .duplicateKey hmode hunset ?_ (zipWith_sound hsound.2 hvalues)
      -- as many assignments as columns, and there is a column
      rw [← List.length_pos_iff, List.length_zipWith, ← hlength, Nat.min_self]
      exact List.length_pos_iff.mpr hsound.1
  | update table column value => exact updateAll_sets h
  | updateAll table pairs => exact updateAll_sets h

end Clauses

end GuardedSql
