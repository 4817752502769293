import GuardedSql.Proofs.Statement.Setting

/-! # Parts — the clauses one by one, and which of them a step writes

    A record of clauses falls into nine parts.  `Setter.parts` names those
    that a step writes, and `Setter.content` says what it writes there, by its
    arguments alone: a null check holds the null value, a natural join no
    predicate, and of conditions that are linked alike the last is linked to
    none.

    `Clauses.set_writes` is the law of an accepted step: the parts it writes
    were empty, they hold its content afterwards, and nothing else changes. -/

namespace GuardedSql

/-- A part of a statement, written as a whole. -/
inductive Part where
  | selection | tables | joins | conditions | sortKeys | limit | row | duplicateKey
  | assignments
  deriving DecidableEq, Repr

namespace Part

/-- What the part is made of. -/
def Content : Part → Type
  | selection => List Text × SelectOptions
  | tables => List Text
  | joins => List Join
  | conditions => List Condition
  | sortKeys => List SortKey
  | limit => Option Nat
  | row => List Text × List Text
  | duplicateKey => List Assignment
  | assignments => List Assignment

/-- There is something in the part. -/
def isFilled : (part : Part) → part.Content → Bool
  | selection, (held, _) => !held.isEmpty
  | tables, held => !List.isEmpty held
  | joins, held => !List.isEmpty held
  | conditions, held => !List.isEmpty held
  | sortKeys, held => !List.isEmpty held
  | limit, held => Option.isSome held
  | row, (held, _) => !held.isEmpty
  | duplicateKey, held => !List.isEmpty held
  | assignments, held => !List.isEmpty held

end Part

namespace Condition

/-- The conditions that compare each column with the value at its place, each
    linked by `link` and the last by none. -/
def linkedBy (link : Conjunction) (comparator : Comparator) (columns values : List Text) :
    List Condition :=
  (columns.zip values).mapIdx fun i (column, value) =>
    ⟨if i + 1 = columns.length then .none else link, comparator, column, value⟩

/-- Conditions are put together from lists of one length with one link between
    neighbours. -/
theorem zip_eq_linkedBy {link : Conjunction} {comparator : Comparator}
    {columns values : List Text} (hlength : columns.length = values.length) :
    zip link comparator columns values = linkedBy link comparator columns values := by
  fun_induction zip link comparator columns values with
  | case1 column value values =>
      obtain rfl : values = [] := by simpa using hlength.symm
      rfl
  | case2 column columns value values hnot ih =>
      have hpos : columns.length ≠ 0 := fun h => hnot (List.length_eq_zero_iff.mp h)
      rw [ih (Nat.succ.inj hlength), linkedBy, linkedBy, List.zip_cons_cons, List.mapIdx_cons]
      simp [hpos]
  | case3 columns values _ hcons =>
      -- one of the lists is empty, so both are
      cases columns with
      | nil => rfl
      | cons column columns =>
          cases values with
          | nil => exact absurd hlength (Nat.succ_ne_zero _)
          | cons value values => exact (hcons _ _ _ _ rfl rfl).elim

/-- There are as many conditions as columns, so there is one. -/
theorem linkedBy_ne_nil {link : Conjunction} {comparator : Comparator} {columns values : List Text}
    (hne : columns ≠ []) (hlength : columns.length = values.length) :
    linkedBy link comparator columns values ≠ [] := by
  rw [← zip_eq_linkedBy hlength, ← List.length_pos_iff, length_zip hlength]
  exact List.length_pos_iff.mpr hne

end Condition

namespace Setter

/-- The parts that the step writes: the table of an insert or an update
    counts as a list of tables. -/
def parts : Setter → List Part
  | select _ | selectWith .. => [.selection]
  | fromTables _ => [.tables]
  | join .. | joinAll .. => [.joins]
  | whereOne .. | whereAll .. | whereCustom _ => [.conditions]
  | orderBy .. | orderByAll _ => [.sortKeys]
  | limit _ => [.limit]
  | insert .. => [.tables, .row]
  | onDuplicateKey .. => [.duplicateKey]
  | update .. | updateAll .. => [.tables, .assignments]

/-- What the step writes, in a record that is empty otherwise. -/
def content : Setter → Clauses
  | select columns => { mode := some .select, columns := columns }
  | selectWith columns options =>
      { mode := some .select, columns := columns, options := options }
  | fromTables tables => { tables := tables }
  | join kind table column value =>
      { joins := [JoinTarget.kept kind ⟨table, some ⟨column, value⟩⟩] }
  | joinAll kind targets => { joins := targets.map (JoinTarget.kept kind) }
  | whereOne comparator column value =>
      { conditions := [Condition.kept ⟨.none, comparator, column, value⟩] }
  | whereAll link comparator columns values =>
      { conditions := (Condition.linkedBy link comparator columns values).map Condition.kept }
  | whereCustom conditions => { conditions := conditions.map Condition.kept }
  | orderBy column direction => { sortKeys := [⟨column, direction⟩] }
  | orderByAll keys => { sortKeys := keys }
  | limit count => { limit := some count.toNat }
  | insert table values columns =>
      { mode := some .insert, tables := [table],
        insertColumns := columns, insertValues := values }
  | onDuplicateKey columns values =>
      { duplicateKey := columns.zipWith Assignment.mk values }
  | update table column value =>
      { mode := some .update, tables := [table], assignments := [⟨column, value⟩] }
  | updateAll table pairs =>
      { mode := some .update, tables := [table], assignments := pairs }

end Setter

namespace Clauses

/-- The content of a part. -/
def part (c : Clauses) : (part : Part) → part.Content
  | .selection => (c.columns, c.options)
  | .tables => c.tables
  | .joins => c.joins
  | .conditions => c.conditions
  | .sortKeys => c.sortKeys
  | .limit => c.limit
  | .row => (c.insertColumns, c.insertValues)
  | .duplicateKey => c.duplicateKey
  | .assignments => c.assignments

/-- The part is not empty. -/
def holds (c : Clauses) (part : Part) : Bool := part.isFilled (c.part part)

/-- The record with the given parts taken from another one, and its mode if
    that one has none. -/
def overlay (c d : Clauses) (parts : List Part) : Clauses where
  mode := d.mode.or c.mode
  columns := if .selection ∈ parts then d.columns else c.columns
  options := if .selection ∈ parts then d.options else c.options
  tables := if .tables ∈ parts then d.tables else c.tables
  joins := if .joins ∈ parts then d.joins else c.joins
  conditions := if .conditions ∈ parts then d.conditions else c.conditions
  sortKeys := if .sortKeys ∈ parts then d.sortKeys else c.sortKeys
  limit := if .limit ∈ parts then d.limit else c.limit
  insertColumns := if .row ∈ parts then d.insertColumns else c.insertColumns
  insertValues := if .row ∈ parts then d.insertValues else c.insertValues
  duplicateKey := if .duplicateKey ∈ parts then d.duplicateKey else c.duplicateKey
  assignments := if .assignments ∈ parts then d.assignments else c.assignments

variable {c d next : Clauses} {part : Part} {parts : List Part}

/-- A part that is overlaid is that of the overlay. -/
theorem part_overlay_of_mem (h : part ∈ parts) : (c.overlay d parts).part part = d.part part := by
  cases part <;> (simp only [overlay, Clauses.part, if_pos h]; rfl)

/-- Every other part stays. -/
theorem part_overlay_of_not_mem (h : part ∉ parts) :
    (c.overlay d parts).part part = c.part part := by
  cases part <;> (simp only [overlay, Clauses.part, if_neg h]; rfl)

/-- A step that writes the content into the given parts: they were empty and
    are filled, the mode was open, and nothing else changes. -/
structure Writes (c content : Clauses) (parts : List Part) (next : Clauses) : Prop where
  unset : ∀ part ∈ parts, c.holds part = false
  filled : ∀ part ∈ parts, content.holds part = true
  mode : ∀ mode ∈ content.mode, c.Open mode
  outcome : next = c.overlay content parts

/-- An accepted select writes its mode, its columns and its options. -/
theorem selectWith_writes {columns : List Text} {options : SelectOptions}
    (h : (selectWith columns options).outcome c = .ok next) :
    c.Writes { mode := some .select, columns := columns, options := options } [.selection]
      next := by
  obtain ⟨hmode, hunset, ⟨hne, -⟩, -, rfl⟩ := selectWith_eq_ok.mp h
  refine ⟨?_, ?_, ?_, rfl⟩
  · simp [holds, Clauses.part, Part.isFilled, hunset]
  · simp [holds, Clauses.part, Part.isFilled, hne]
  · rintro _ ⟨⟩
    exact hmode

theorem fromTables_writes {tables : List Text} (h : (fromTables tables).outcome c = .ok next) :
    c.Writes { tables := tables } [.tables] next := by
  obtain ⟨hunset, ⟨hne, -⟩, rfl⟩ := fromTables_eq_ok.mp h
  refine ⟨?_, ?_, nofun, rfl⟩
  · simp [holds, Clauses.part, Part.isFilled, hunset]
  · simp [holds, Clauses.part, Part.isFilled, hne]

/-- Accepted joins are written as they are kept. -/
theorem joinAll_writes {kind : JoinKind} {targets : List JoinTarget}
    (h : (joinAll kind targets).outcome c = .ok next) :
    c.Writes { joins := targets.map (JoinTarget.kept kind) } [.joins] next := by
  obtain ⟨hunset, hne, -, rfl⟩ := joinAll_eq_ok.mp h
  refine ⟨?_, ?_, nofun, rfl⟩
  · simp [holds, Clauses.part, Part.isFilled, hunset]
  · simp [holds, Clauses.part, Part.isFilled, hne]

/-- The three forms of conditions write one part. -/
theorem conditions_writes {conditions : List Condition} (hunset : c.conditions = [])
    (hne : conditions ≠ []) (hnext : { c with conditions := conditions } = next) :
    c.Writes { conditions := conditions } [.conditions] next := by
  refine ⟨?_, ?_, nofun, hnext.symm⟩
  · simp [holds, Clauses.part, Part.isFilled, hunset]
  · simp [holds, Clauses.part, Part.isFilled, hne]

theorem orderByAll_writes {keys : List SortKey} (h : (orderByAll keys).outcome c = .ok next) :
    c.Writes { sortKeys := keys } [.sortKeys] next := by
  obtain ⟨hunset, hne, -, rfl⟩ := orderByAll_eq_ok.mp h
  refine ⟨?_, ?_, nofun, rfl⟩
  · simp [holds, Clauses.part, Part.isFilled, hunset]
  · simp [holds, Clauses.part, Part.isFilled, hne]

theorem setLimit_writes {count : Int} (h : (setLimit count).outcome c = .ok next) :
    c.Writes { limit := some count.toNat } [.limit] next := by
  obtain ⟨hunset, -, rfl⟩ := setLimit_eq_ok.mp h
  refine ⟨?_, ?_, nofun, rfl⟩
  · simp [holds, Clauses.part, Part.isFilled, hunset]
  · simp [holds, Clauses.part, Part.isFilled]

/-- An accepted insert writes its mode, its table and its row. -/
theorem insert_writes {table : Text} {values columns : List Text}
    (h : (insert table values columns).outcome c = .ok next) :
    c.Writes { mode := some .insert, tables := [table],
               insertColumns := columns, insertValues := values } [.tables, .row] next := by
  obtain ⟨hmode, htables, hunset, -, ⟨hne, -⟩, -, -, rfl⟩ := insert_eq_ok.mp h
  refine ⟨?_, ?_, ?_, rfl⟩
  · simp [holds, Clauses.part, Part.isFilled, htables, hunset]
  · simp [holds, Clauses.part, Part.isFilled, hne]
  · rintro _ ⟨⟩
    exact hmode

/-- Accepted assignments for a duplicate key are written pair by pair. -/
theorem onDuplicateKey_writes {columns values : List Text}
    (h : (onDuplicateKey columns values).outcome c = .ok next) :
    c.Writes { duplicateKey := columns.zipWith Assignment.mk values } [.duplicateKey] next := by
  obtain ⟨-, hunset, hlength, ⟨hne, -⟩, -, rfl⟩ := onDuplicateKey_eq_ok.mp h
  have hvalues : values ≠ [] := by
    rintro rfl
    exact hne (List.length_eq_zero_iff.mp hlength)
  refine ⟨?_, ?_, nofun, rfl⟩
  · simp [holds, Clauses.part, Part.isFilled, hunset]
  · simp [holds, Clauses.part, Part.isFilled, hne, hvalues]

theorem updateAll_writes {table : Text} {pairs : List Assignment}
    (h : (updateAll table pairs).outcome c = .ok next) :
    c.Writes { mode := some .update, tables := [table], assignments := pairs }
      [.tables, .assignments] next := by
  obtain ⟨hmode, htables, hunset, hne, -, -, rfl⟩ := updateAll_eq_ok.mp h
  refine ⟨?_, ?_, ?_, rfl⟩
  · simp [holds, Clauses.part, Part.isFilled, htables, hunset]
  · simp [holds, Clauses.part, Part.isFilled, hne]
  · rintro _ ⟨⟩
    exact hmode

/-- **The law of an accepted step**: it writes its content into its parts. -/
theorem set_writes {setter : Setter} (h : c.set setter = .ok next) :
    c.Writes setter.content setter.parts next := by
  cases setter with
  | select columns => exact selectWith_writes h
  | selectWith columns options => exact selectWith_writes h
  | fromTables tables => exact fromTables_writes h
  | join kind table column value =>
      have hjoin := joinAll_writes h
      -- a natural join loses its predicate, whether it is given or not
      cases kind <;> exact hjoin
  | joinAll kind targets => exact joinAll_writes h
  | whereOne comparator column value =>
      obtain ⟨hunset, -, hnext⟩ := whereOne_eq_ok.mp h
      exact conditions_writes hunset (List.cons_ne_nil _ _) hnext
  | whereAll link comparator columns values =>
      obtain ⟨hunset, hlength, hne, -, -, hnext⟩ := whereAll_eq_ok.mp h
      rw [Condition.zip_eq_linkedBy hlength] at hnext
      refine conditions_writes hunset (fun hnil => ?_) hnext
      exact Condition.linkedBy_ne_nil hne hlength (List.map_eq_nil_iff.mp hnil)
  | whereCustom conditions =>
      obtain ⟨hne, hunset, -, -, hnext⟩ := whereCustom_eq_ok.mp h
      exact conditions_writes hunset (by simpa using hne) hnext
  | orderBy column direction => exact orderByAll_writes h
  | orderByAll keys => exact orderByAll_writes h
  | limit count => exact setLimit_writes h
  | insert table values columns => exact insert_writes h
  | onDuplicateKey columns values => exact onDuplicateKey_writes h
  | update table column value => exact updateAll_writes h
  | updateAll table pairs => exact updateAll_writes h

namespace Writes

variable {content : Clauses}

/-- A part that was written holds what was to be written. -/
theorem part_of_mem (h : c.Writes content parts next) (hpart : part ∈ parts) :
    next.part part = content.part part := by
  rw [h.outcome, part_overlay_of_mem hpart]

/-- A part that was not written is as it was. -/
theorem part_of_not_mem (h : c.Writes content parts next) (hpart : part ∉ parts) :
    next.part part = c.part part := by
  rw [h.outcome, part_overlay_of_not_mem hpart]

/-- A part that was written is not free any more. -/
theorem holds_of_mem (h : c.Writes content parts next) (hpart : part ∈ parts) :
    next.holds part = true := by
  rw [holds, h.part_of_mem hpart]
  exact h.filled part hpart

/-- A mode that is fixed stays. -/
theorem mode_of_mode (h : c.Writes content parts next) {mode : Mode}
    (hmode : c.mode = some mode) : next.mode = some mode := by
  rw [h.outcome]
  show content.mode.or c.mode = some mode
  cases hcontent : content.mode with
  | none => exact hmode
  | some other =>
      rcases h.mode other hcontent with hnone | hsame
      · exact nomatch hnone.symm.trans hmode
      · exact hsame.symm.trans hmode

/-- The mode of the content is fixed by the step. -/
theorem mode_of_content (h : c.Writes content parts next) {mode : Mode}
    (hmode : mode ∈ content.mode) : next.mode = some mode := by
  rw [h.outcome]
  show content.mode.or c.mode = some mode
  rw [Option.mem_def.mp hmode]
  rfl

end Writes

end Clauses

end GuardedSql
