import GuardedSql.Statement.Render
import GuardedSql.Token

/-! # Building — setting the clauses of a statement

    A setter works on the clauses in place: it asks, looks at its arguments and
    assigns, one after another, and it may stop with an error on the way.  What
    it has assigned by then stays, so it takes the order of its steps, and not
    their form, to leave the clauses alone in case of an error.

    Every setter asks first whether its clause is free and assigns last; only
    conditions given one by one are counted before. -/

namespace GuardedSql

/-! ## Edits -/

/-- What is done to a value in place.  It may stop with an error, and what it
    has changed by then stays changed. -/
abbrev Edit (σ : Type) := EStateM Error σ

namespace Edit

variable {σ : Type}

/-- A check changes nothing, whether it fails or not. -/
instance : MonadLift (Except Error) (Edit σ) where
  monadLift
    | .ok a => fun s => .ok a s
    | .error error => fun s => .error error s

/-- The value after the edit, or why the edit stopped. -/
def outcome (e : Edit σ Unit) (s : σ) : Except Error σ :=
  match e.run s with
  | .ok _ next => .ok next
  | .error error _ => .error error

/-- The value after the edit, stopped or not. -/
def after (e : Edit σ Unit) (s : σ) : σ :=
  match e.run s with
  | .ok _ next => next
  | .error _ next => next

end Edit

/-! ## Checks -/

/-- The names are at least one, and each is acceptable. -/
def checkNames (clause : String) (names : List Text) : Except Error Unit :=
  if names.isEmpty then .error (.emptyValue (chars clause))
  else names.forM (Token.check .name)

/-- Columns and values pair up, and the columns are acceptable names. -/
def checkPairs (clause : String) (columns values : List Text) :
    Except Error Unit :=
  if columns.length ≠ values.length then
    .error (.unequalLengths columns.length values.length)
  else checkNames clause columns

/-- The role of the value that the comparator takes. -/
def Comparator.role (c : Comparator) : Token.Role :=
  if c.takesRange then .range else if c.takesList then .list else .value

/-- The condition as it is kept: its column and its value are acceptable
    and differ, and a null check keeps the fixed null value. -/
def Condition.checked (c : Condition) : Except Error Condition := do
  Token.check .name c.column
  if c.comparator.takesValue then
    Token.check c.comparator.role c.value
    if c.column = c.value then throw (.selfComparison c.value)
    return c
  else
    return { c with value := nullValue }

/-- Every condition but the last is linked, and the last is not; `position`
    is that of the first condition of the list among `count`. -/
def Condition.checkLinks (count : Nat) :
    (position : Nat) → List Condition → Except Error Unit
  | _, [] => .ok ()
  | _, [c] =>
      if c.link.isNone then .ok ()
      else .error (.unexpected (.lastIsLinked c.link))
  | position, c :: rest =>
      if c.link.isNone then
        .error (.unexpected (.noneBeforeEnd position count))
      else checkLinks count (position + 1) rest

/-- The conditions that compare each column with the value at its place,
    each linked by `link` and the last by none. -/
def Condition.zip (link : Conjunction) (comparator : Comparator) :
    List Text → List Text → List Condition
  | [column], value :: _ => [⟨.none, comparator, column, value⟩]
  | column :: columns, value :: values =>
      ⟨link, comparator, column, value⟩ ::
        zip link comparator columns values
  | _, _ => []

/-- The join of the given kind as it is kept: its names and value are
    acceptable, and a natural join keeps no predicate. -/
def JoinTarget.checked (kind : JoinKind) (target : JoinTarget) :
    Except Error Join := do
  Token.check .name target.table
  if kind.takesPredicate then
    match target.predicate with
    | none => throw (.emptyValue (chars "JOIN predicate"))
    | some on =>
        Token.check .name on.column
        Token.check .value on.value
        return ⟨kind, target.table, some on⟩
  else
    return ⟨kind, target.table, none⟩

/-- The options name acceptable tables, and a database only with a table. -/
def SelectOptions.check (options : SelectOptions) : Except Error Unit :=
  match options.intoTable, options.intoDatabase with
  | some table, some database => do
      Token.check .name table
      Token.check .name database
  | some table, none => Token.check .name table
  | none, some _ => .error (.unexpected .databaseWithoutTable)
  | none, none => .ok ()

/-- Both parts of an assignment are acceptable. -/
def Assignment.check (pair : Assignment) : Except Error Unit := do
  Token.check .name pair.column
  Token.check .value pair.value

namespace Clauses

/-! ## Questions -/

/-- The mode is not fixed yet, or is the given one. -/
def allowsMode (c : Clauses) (mode : Mode) : Except Error Unit :=
  match c.mode with
  | some current =>
      if current = mode then .ok () else .error (.alreadySet current.keyword)
  | none => .ok ()

/-- The clause with the given name is still empty. -/
def requireUnset {α : Type} (clause : String) (content : List α) :
    Except Error Unit :=
  if content.isEmpty then .ok () else .error (.alreadySet (chars clause))

/-! ## Setters -/

/-- Sets the columns to select, with options. -/
def selectWith (columns : List Text) (options : SelectOptions) : Edit Clauses Unit := do
  (← get).allowsMode .select
  requireUnset "SELECT" (← get).columns
  checkNames "SELECT" columns
  options.check
  modify ({ · with mode := some .select })
  modify ({ · with columns := columns })
  modify ({ · with options := options })

/-- Sets the columns to select. -/
def select (columns : List Text) : Edit Clauses Unit := selectWith columns {}

/-- Sets the tables to read from. -/
def fromTables (tables : List Text) : Edit Clauses Unit := do
  requireUnset "FROM" (← get).tables
  checkNames "FROM" tables
  modify ({ · with tables := tables })

/-- Sets the joins, all of one kind. -/
def joinAll (kind : JoinKind) (targets : List JoinTarget) : Edit Clauses Unit := do
  requireUnset "JOIN" (← get).joins
  if targets.isEmpty then throw (.emptyValue (chars "JOIN"))
  let joins ← (targets.mapM (JoinTarget.checked kind) : Except Error _)
  modify ({ · with joins := joins })

/-- Sets a single join; a natural one takes neither column nor value. -/
def join (kind : JoinKind) (table column value : Text) : Edit Clauses Unit :=
  let predicate := if kind.takesPredicate then some ⟨column, value⟩ else none
  joinAll kind [⟨table, predicate⟩]

/-- Sets a single condition. -/
def whereOne (comparator : Comparator) (column value : Text) : Edit Clauses Unit := do
  requireUnset "WHERE" (← get).conditions
  let condition ← Condition.checked ⟨.none, comparator, column, value⟩
  modify ({ · with conditions := [condition] })

/-- Sets one condition for each column and the value at its place, all
    linked alike. -/
def whereAll (link : Conjunction) (comparator : Comparator) (columns values : List Text) :
    Edit Clauses Unit := do
  requireUnset "WHERE" (← get).conditions
  if columns.length ≠ values.length then
    throw (.unequalLengths columns.length values.length)
  if columns.isEmpty then throw (.emptyValue (chars "WHERE"))
  if link.isNone && columns.length > 1 then
    throw (.unexpected .noneLinksSeveral)
  let conditions ←
    ((Condition.zip link comparator columns values).mapM Condition.checked : Except Error _)
  modify ({ · with conditions := conditions })

/-- Sets the given conditions, of which the last and only the last is not
    linked. -/
def whereCustom (conditions : List Condition) : Edit Clauses Unit := do
  if conditions.isEmpty then throw (.emptyValue (chars "WHERE"))
  requireUnset "WHERE" (← get).conditions
  Condition.checkLinks conditions.length 1 conditions
  let conditions ← (conditions.mapM Condition.checked : Except Error _)
  modify ({ · with conditions := conditions })

/-- Sets the columns to sort by. -/
def orderByAll (keys : List SortKey) : Edit Clauses Unit := do
  requireUnset "ORDER BY" (← get).sortKeys
  if keys.isEmpty then throw (.emptyValue (chars "ORDER BY"))
  (keys.forM fun key => Token.check .name key.column : Except Error Unit)
  modify ({ · with sortKeys := keys })

/-- Sets a single column to sort by. -/
def orderBy (column : Text) (direction : Direction) : Edit Clauses Unit :=
  orderByAll [⟨column, direction⟩]

/-- Sets the greatest number of rows. -/
def setLimit (count : Int) : Edit Clauses Unit := do
  if (← get).limit.isSome then throw (.alreadySet (chars "LIMIT"))
  if count ≤ 0 then throw (.unexpected (.limitNotPositive count))
  modify ({ · with limit := some count.toNat })

/-- Sets the row to insert and its table. -/
def insert (table : Text) (values columns : List Text) : Edit Clauses Unit := do
  (← get).allowsMode .insert
  requireUnset "FROM" (← get).tables
  requireUnset "INSERT" (← get).insertColumns
  checkPairs "INSERT" columns values
  Token.check .name table
  (values.forM (Token.check .value) : Except Error Unit)
  modify ({ · with mode := some .insert })
  modify ({ · with tables := [table] })
  modify ({ · with insertColumns := columns })
  modify ({ · with insertValues := values })

/-- Sets what to assign instead if the inserted row hits an existing key. -/
def onDuplicateKey (columns values : List Text) : Edit Clauses Unit := do
  if (← get).mode ≠ some .insert then throw (.unexpected .duplicateKeyWithoutInsert)
  requireUnset "ON DUPLICATE KEY" (← get).duplicateKey
  checkPairs "ON DUPLICATE KEY" columns values
  (values.forM (Token.check .value) : Except Error Unit)
  modify ({ · with duplicateKey := columns.zipWith Assignment.mk values })

/-- Sets the assignments of an update and its table. -/
def updateAll (table : Text) (pairs : List Assignment) : Edit Clauses Unit := do
  (← get).allowsMode .update
  requireUnset "FROM" (← get).tables
  requireUnset "UPDATE" (← get).assignments
  if pairs.isEmpty then throw (.emptyValue (chars "UPDATE"))
  Token.check .name table
  (pairs.forM Assignment.check : Except Error Unit)
  modify ({ · with mode := some .update })
  modify ({ · with tables := [table] })
  modify ({ · with assignments := pairs })

/-- Sets a single assignment of an update and its table. -/
def update (table column value : Text) : Edit Clauses Unit := updateAll table [⟨column, value⟩]

end Clauses

/-- Appends a statement, unless one with the same text is appended
    already. -/
def Statement.append (s child : Statement) : Statement :=
  if s.appended.any fun existing => existing.render == child.render then s
  else { s with appended := s.appended ++ [child] }

end GuardedSql
