import GuardedSql.Proofs.Check
import GuardedSql.Proofs.Token.Accepted
import GuardedSql.Statement.Build
import GuardedSql.Statement.Render

/-! # Checked clauses — what the parts of an accepted clause satisfy

    Each part of a clause has a check of its own.  For each, this module says
    what the part is like when the check passes, that the check passes on
    nothing else, and in which form a checked value is written. -/

namespace GuardedSql

open Check Token

/-- Names that a clause can take: at least one, and each accepted. -/
def SoundNames (names : List Text) : Prop :=
  names ≠ [] ∧ ∀ name ∈ names, Accepted .name name

/-- The check of names passes on sound names only. -/
@[simp] theorem checkNames_eq_ok {clause : String} {names : List Text} :
    checkNames clause names = .ok () ↔ SoundNames names := by
  rw [checkNames, SoundNames]
  cases names with
  | nil => simp
  | cons name names =>
      rw [List.isEmpty_cons, if_neg Bool.false_ne_true, List.forM_eq_forM, forM_eq_ok]
      exact ⟨fun h => ⟨nofun, h⟩, fun h => h.2⟩

/-- The check of pairs passes on lists of one length with sound columns
    only. -/
@[simp] theorem checkPairs_eq_ok {clause : String} {columns values : List Text} :
    checkPairs clause columns values = .ok () ↔
      columns.length = values.length ∧ SoundNames columns := by
  rw [checkPairs]
  by_cases hlength : columns.length = values.length
  · rw [if_neg (not_not_intro hlength), checkNames_eq_ok]
    exact ⟨fun h => ⟨hlength, h⟩, fun h => h.2⟩
  · rw [if_pos hlength]
    exact ⟨nofun, fun h => absurd h.1 hlength⟩

/-! ## Conditions -/

namespace Condition

/-- The condition as it is kept, accepted or not: a null check holds the
    fixed null value. -/
def kept (c : Condition) : Condition :=
  if c.comparator.takesValue then c else { c with value := nullValue }

/-- A condition that a clause can hold: its column is accepted, and its value
    is the null value if the comparator takes none, and else accepted in its
    role and different from the column. -/
structure Sound (c : Condition) : Prop where
  column : Accepted .name c.column
  value : c.comparator.takesValue = true → Accepted c.comparator.role c.value
  column_ne : c.comparator.takesValue = true → c.column ≠ c.value
  null : c.comparator.takesValue = false → c.value = nullValue

/-- A condition that is accepted is kept, and sound. -/
theorem checked_eq_ok {c d : Condition} :
    c.checked = .ok d ↔ d = c.kept ∧ d.Sound := by
  rw [checked, seq_eq_ok, kept]
  cases htakes : c.comparator.takesValue with
  | true =>
      simp only [if_true, seq_eq_ok, throwIf_eq_ok, pure_eq_ok]
      constructor
      · rintro ⟨hcolumn, hvalue, hne, rfl⟩
        refine ⟨rfl, hcolumn, fun _ => hvalue, fun _ => hne, ?_⟩
        exact fun hnot => absurd (hnot.symm.trans htakes) Bool.false_ne_true
      · rintro ⟨rfl, hsound⟩
        exact ⟨hsound.column, hsound.value htakes, hsound.column_ne htakes, rfl⟩
  | false =>
      simp only [Bool.false_eq_true, if_false, pure_eq_ok]
      constructor
      · rintro ⟨hcolumn, rfl⟩
        refine ⟨rfl, hcolumn, ?_, ?_, fun _ => rfl⟩
        · intro hyes
          exact absurd (htakes.symm.trans hyes) Bool.false_ne_true
        · intro hyes
          exact absurd (htakes.symm.trans hyes) Bool.false_ne_true
      · rintro ⟨rfl, hsound⟩
        exact ⟨hsound.column, rfl⟩

/-- What follows the check of a condition goes on with the condition as it is
    kept. -/
@[simp] theorem checked_bind_eq_ok {β : Type} {c : Condition} {f : Condition → Except Error β}
    {b : β} : (c.checked >>= f) = .ok b ↔ c.kept.Sound ∧ f c.kept = .ok b :=
  bind_eq_ok_of fun _ => checked_eq_ok

/-- Conditions are kept exactly if a clause can hold each of them as it is
    kept. -/
theorem mapM_checked_eq_ok {cs ds : List Condition} :
    cs.mapM checked = .ok ds ↔ ds = cs.map kept ∧ ∀ d ∈ ds, d.Sound :=
  mapM_eq_ok fun _ _ => checked_eq_ok

/-- What follows the check of conditions goes on with them as they are kept. -/
@[simp] theorem mapM_checked_bind_eq_ok {β : Type} {cs : List Condition}
    {f : List Condition → Except Error β} {b : β} :
    (cs.mapM checked >>= f) = .ok b ↔ (∀ d ∈ cs.map kept, d.Sound) ∧ f (cs.map kept) = .ok b :=
  bind_eq_ok_of fun _ => mapM_checked_eq_ok

/-- Every condition but the last is linked to the next one, and the last is
    linked to none. -/
def Linked : List Condition → Prop
  | [] => True
  | [c] => c.link = .none
  | c :: d :: rest => c.link ≠ .none ∧ Linked (d :: rest)

@[simp] theorem isNone_iff {link : Conjunction} : link.isNone = true ↔ link = .none := by
  cases link <;> simp [Conjunction.isNone]

/-- The check of links passes on linked conditions only, wherever the count
    begins. -/
@[simp] theorem checkLinks_eq_ok {count position : Nat} {cs : List Condition} :
    checkLinks count position cs = .ok () ↔ Linked cs := by
  induction cs generalizing position with
  | nil => simp [checkLinks, Linked]
  | cons c rest ih =>
      cases rest with
      | nil =>
          rw [checkLinks, Linked, ← isNone_iff]
          cases c.link.isNone <;> simp
      | cons d rest =>
          rw [checkLinks, Linked, ← @ih (position + 1), Ne, ← isNone_iff]
          · cases c.link.isNone <;> simp
          · exact nofun

@[simp] theorem kept_link (c : Condition) : c.kept.link = c.link := by
  rw [kept]
  split <;> rfl

/-- Keeping conditions leaves their links alone. -/
theorem linked_map_kept {cs : List Condition} : Linked (cs.map kept) ↔ Linked cs := by
  induction cs with
  | nil => rfl
  | cons c rest ih =>
      cases rest with
      | nil => rw [List.map_cons, List.map_nil, Linked, Linked, kept_link]
      | cons d rest =>
          rw [List.map_cons, List.map_cons, Linked, Linked, kept_link, ← List.map_cons, ih]

/-- A condition before others must be linked to the next. -/
theorem linked_cons {c : Condition} {rest : List Condition} (hne : rest ≠ []) :
    Linked (c :: rest) ↔ c.link ≠ .none ∧ Linked rest := by
  cases rest with
  | nil => exact absurd rfl hne
  | cons d rest => rfl

/-- There are as many conditions as columns and values. -/
theorem length_zip {link : Conjunction} {comparator : Comparator}
    {columns values : List Text} (hlength : columns.length = values.length) :
    (zip link comparator columns values).length = columns.length := by
  fun_induction zip link comparator columns values with
  | case1 column value values =>
      simp at hlength
      simp
  | case2 column columns value values _ ih =>
      rw [List.length_cons, ih (Nat.succ.inj hlength), List.length_cons]
  | case3 columns values _ hcons =>
      -- one of the lists is empty, so both are
      cases columns with
      | nil => rfl
      | cons column columns =>
          cases values with
          | nil => exact nomatch hlength
          | cons value values => exact (hcons _ _ _ _ rfl rfl).elim

/-- Conditions made of columns and values are linked if there is one, or if
    the link between them is one. -/
theorem linked_zip {link : Conjunction} {comparator : Comparator}
    {columns values : List Text} (hlength : columns.length = values.length)
    (hlink : link ≠ .none ∨ columns.length ≤ 1) :
    Linked (zip link comparator columns values) := by
  fun_induction zip link comparator columns values with
  | case1 column value values => rfl
  | case2 column columns value values hnot ih =>
      have hpos : 0 < columns.length := List.length_pos_iff.mpr hnot
      have hrest : columns.length = values.length := Nat.succ.inj hlength
      -- another column follows, so the link is not the empty one
      have hsome : link ≠ .none := by
        rcases hlink with h | h
        · exact h
        · rw [List.length_cons] at h
          omega
      have hne : zip link comparator columns values ≠ [] := by
        rw [← List.length_pos_iff, length_zip hrest]
        exact hpos
      exact (linked_cons hne).mpr ⟨hsome, ih hrest (Or.inl hsome)⟩
  | case3 columns values _ _ => trivial

end Condition

/-! ## Assignments, joins and options -/

/-- An assignment that a clause can hold: both its parts are accepted. -/
structure Assignment.Sound (a : Assignment) : Prop where
  column : Accepted .name a.column
  value : Accepted .value a.value

/-- An assignment is accepted exactly if a clause can hold it. -/
@[simp] theorem Assignment.check_eq_ok {a : Assignment} : a.check = .ok () ↔ a.Sound := by
  rw [check, seq_eq_ok]
  exact ⟨fun h => ⟨h.1, h.2⟩, fun h => ⟨h.column, h.value⟩⟩

/-- A join that a clause can hold: its table is accepted, and it has a
    predicate exactly if its kind takes one, with accepted parts. -/
structure Join.Sound (j : Join) : Prop where
  table : Accepted .name j.table
  predicate : j.predicate.isSome = j.kind.takesPredicate
  column : ∀ on ∈ j.predicate, Accepted .name on.column
  value : ∀ on ∈ j.predicate, Accepted .value on.value

/-- The join of the given kind as it is kept, accepted or not. -/
def JoinTarget.kept (kind : JoinKind) (target : JoinTarget) : Join :=
  ⟨kind, target.table, if kind.takesPredicate then target.predicate else none⟩

theorem JoinTarget.checked_eq_ok {kind : JoinKind} {target : JoinTarget} {j : Join} :
    target.checked kind = .ok j ↔ j = target.kept kind ∧ j.Sound := by
  obtain ⟨table, predicate⟩ := target
  rw [checked, seq_eq_ok, kept]
  cases htakes : kind.takesPredicate with
  | true =>
      rw [if_pos rfl, if_pos rfl]
      cases predicate with
      | none =>
          constructor
          · rintro ⟨-, h⟩
            exact absurd h throw_ne_ok
          · rintro ⟨rfl, hsound⟩
            exact absurd (hsound.predicate.trans htakes) Bool.false_ne_true
      | some on =>
          simp only [seq_eq_ok, pure_eq_ok]
          constructor
          · rintro ⟨htable, hcolumn, hvalue, rfl⟩
            refine ⟨rfl, htable, htakes.symm, ?_, ?_⟩
            · rintro _ ⟨⟩
              exact hcolumn
            · rintro _ ⟨⟩
              exact hvalue
          · rintro ⟨rfl, hsound⟩
            exact ⟨hsound.table, hsound.column on rfl, hsound.value on rfl, rfl⟩
  | false =>
      rw [if_neg Bool.false_ne_true, if_neg Bool.false_ne_true, pure_eq_ok]
      constructor
      · rintro ⟨htable, rfl⟩
        -- no condition is kept, so nothing is asked of one
        refine ⟨rfl, htable, htakes.symm, ?_, ?_⟩
        · rintro _ ⟨⟩
        · rintro _ ⟨⟩
      · rintro ⟨rfl, hsound⟩
        exact ⟨hsound.table, rfl⟩

/-- Joins are kept exactly if a clause can hold each of them as it is kept. -/
theorem JoinTarget.mapM_checked_eq_ok {kind : JoinKind} {targets : List JoinTarget}
    {joins : List Join} :
    targets.mapM (checked kind) = .ok joins ↔
      joins = targets.map (kept kind) ∧ ∀ j ∈ joins, j.Sound :=
  mapM_eq_ok fun _ _ => checked_eq_ok

/-- What follows the check of joins goes on with them as they are kept. -/
@[simp] theorem JoinTarget.mapM_checked_bind_eq_ok {β : Type} {kind : JoinKind}
    {targets : List JoinTarget} {f : List Join → Except Error β} {b : β} :
    (targets.mapM (checked kind) >>= f) = .ok b ↔
      (∀ j ∈ targets.map (kept kind), j.Sound) ∧ f (targets.map (kept kind)) = .ok b :=
  bind_eq_ok_of fun _ => mapM_checked_eq_ok

/-- Options that a clause can hold: accepted names, and a database only with
    a table. -/
structure SelectOptions.Sound (options : SelectOptions) : Prop where
  table : ∀ table ∈ options.intoTable, Accepted .name table
  database : ∀ database ∈ options.intoDatabase, Accepted .name database
  table_isSome : options.intoDatabase.isSome = true → options.intoTable.isSome = true

@[simp] theorem SelectOptions.check_eq_ok {options : SelectOptions} :
    options.check = .ok () ↔ options.Sound := by
  obtain ⟨distinct, table, database⟩ := options
  rw [check]
  cases table with
  | none =>
      cases database with
      | none => exact ⟨fun _ => ⟨nofun, nofun, nofun⟩, fun _ => rfl⟩
      | some database =>
          constructor
          · exact nofun
          · intro hsound
            exact absurd (hsound.table_isSome rfl) Bool.false_ne_true
  | some table =>
      cases database with
      | none =>
          constructor
          · intro htable
            refine ⟨?_, nofun, nofun⟩
            rintro _ ⟨⟩
            exact htable
          · intro hsound
            exact hsound.table table rfl
      | some database =>
          simp only [seq_eq_ok]
          constructor
          · rintro ⟨htable, hdatabase⟩
            refine ⟨?_, ?_, fun _ => rfl⟩
            · rintro _ ⟨⟩
              exact htable
            · rintro _ ⟨⟩
              exact hdatabase
          · intro hsound
            exact ⟨hsound.table table rfl, hsound.database database rfl⟩

/-! ## Values in their roles — the role of a value is the form it is written in

    The comparator of a condition fixes the role in which the value is checked,
    and the form in which it is written.  So a condition is its column, its
    comparator, and its value written in that role. -/

/-- A value as it is written in a role. -/
def Literal.renderAs (role : Token.Role) (value : Text) : Text :=
  match role with
  | .range => renderRange value
  | .list => renderList value
  | .name | .value => render value

/-- The value of the condition as it is written, if it is. -/
def Condition.written (d : Condition) : Text :=
  if d.comparator.takesValue then Literal.renderAs d.comparator.role d.value else []

/-- A condition is written as column, comparator in its place, and value in its
    role. -/
theorem Condition.render_eq_placed (d : Condition) :
    d.render = d.column ++ d.comparator.placed ++ d.written := by
  obtain ⟨link, comparator, column, value⟩ := d
  cases comparator <;> rfl

end GuardedSql
