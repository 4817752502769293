import GuardedSql.Error
import GuardedSql.Literal
import GuardedSql.Statement.Basic

/-! # Rendering — the text of a statement

    The text of a clause depends on the clause alone, the text of a statement
    is the text of its own clauses followed by the texts of the appended
    statements, a space between any two, and a statement without mode adds
    nothing of its own.  `Statement.toSql` is the same text, refused if it
    could not be sent, and a statement is displayed as its text. -/

namespace GuardedSql

/-- Assignments between commas: the column bare, the value as a literal. -/
def Assignment.renderAll (pairs : List Assignment) : Text :=
  Text.join ", " <| pairs.map fun pair =>
    pair.column ++ '=' :: Literal.render pair.value

/-- A condition without its link. -/
def Condition.render (c : Condition) : Text :=
  c.column ++ c.comparator.placed ++
    if c.comparator.takesRange then Literal.renderRange c.value
    else if c.comparator.takesList then Literal.renderList c.value
    else if c.comparator.takesValue then Literal.render c.value
    else []

/-- Conditions one after another, each but the last with its link. -/
def Condition.renderAll : List Condition → Text
  | [] => []
  | [c] => ' ' :: c.render
  | c :: rest => ' ' :: c.render ++ c.link.trailing ++ renderAll rest

/-- A `JOIN` clause; the value of its predicate is written as it is. -/
def Join.render (j : Join) : Text :=
  ' ' :: j.kind.keyword ++ chars " JOIN " ++ Name.render j.table ++
    match j.predicate with
    | some on =>
        if j.kind.takesPredicate then
          chars " ON " ++ Name.render on.column ++ '=' :: on.value
        else []
    | none => []

namespace Clauses

/-- The `INTO` part of a `SELECT`. -/
def renderInto (c : Clauses) : Text :=
  match c.options.intoTable with
  | none => []
  | some table =>
      chars " INTO " ++ Name.render table ++
        match c.options.intoDatabase with
        | none => []
        | some database => chars " IN " ++ database.inQuotes

/-- The `FROM` part of a `SELECT`. -/
def renderFrom (c : Clauses) : Text :=
  if c.tables.isEmpty then [] else chars " FROM " ++ Name.renderAll c.tables

/-- The `WHERE` part. -/
def renderWhere (c : Clauses) : Text :=
  if c.conditions.isEmpty then []
  else chars " WHERE" ++ Condition.renderAll c.conditions

/-- The `ORDER BY` part. -/
def renderOrder (c : Clauses) : Text :=
  if c.sortKeys.isEmpty then []
  else chars " ORDER BY " ++ Text.join ", " (c.sortKeys.map fun key =>
    key.column ++ ' ' :: key.direction.keyword)

/-- The `LIMIT` part. -/
def renderLimit (c : Clauses) : Text :=
  match c.limit with
  | none => []
  | some count => chars " LIMIT " ++ Text.ofNat count

/-- The clauses as a `SELECT`. -/
def renderSelect (c : Clauses) : Text :=
  chars "SELECT " ++ (if c.options.distinct then chars "DISTINCT " else []) ++
    Name.renderAll c.columns ++ c.renderInto ++ c.renderFrom ++
    c.joins.flatMap Join.render ++ c.renderWhere ++ c.renderOrder ++
    c.renderLimit ++ [';']

/-- The one table of an `INSERT` or an `UPDATE`. -/
def table? (c : Clauses) : Option Text :=
  match c.tables with
  | [table] => some table
  | _ => none

/-- The `ON DUPLICATE KEY UPDATE` part. -/
def renderDuplicateKey (c : Clauses) : Text :=
  if c.duplicateKey.isEmpty then []
  else chars " ON DUPLICATE KEY UPDATE " ++ Assignment.renderAll c.duplicateKey

/-- The clauses as an `INSERT`. -/
def renderInsert (c : Clauses) : Text :=
  match c.table? with
  | none => []
  | some table =>
      chars "INSERT INTO " ++ Name.render table ++
        '(' :: Name.renderAll c.insertColumns ++ chars ") VALUES (" ++
        Text.join "," (c.insertValues.map Literal.render) ++
        ')' :: c.renderDuplicateKey ++ [';']

/-- The clauses as an `UPDATE`. -/
def renderUpdate (c : Clauses) : Text :=
  match c.table? with
  | none => []
  | some table =>
      chars "UPDATE " ++ Name.render table ++ chars " SET " ++
        Assignment.renderAll c.assignments ++ c.renderWhere ++ c.renderOrder ++
        [';']

/-- The text of the clauses in their mode; without a mode, nothing. -/
def render (c : Clauses) : Text :=
  match c.mode with
  | some .select => c.renderSelect
  | some .insert => c.renderInsert
  | some .update => c.renderUpdate
  | none => []

end Clauses

namespace Statement

/-- Two texts one after the other, with a space between if neither is
    empty. -/
def chain (first second : Text) : Text :=
  if second.isEmpty then first
  else if first.isEmpty then second
  else first ++ ' ' :: second

mutual

/-- The text of a statement. -/
def render : Statement → Text
  | ⟨own, appended⟩ => renderAfter own.render appended

/-- The text so far, followed by the texts of the statements. -/
def renderAfter (text : Text) : List Statement → Text
  | [] => text
  | s :: rest => renderAfter (chain text (render s)) rest

end

/-- A statement is displayed as its text, whether it can be sent or not. -/
instance : ToString Statement where
  toString s := String.ofList s.render

/-- The text of the statement, if it can be sent as it is. -/
def toSql (s : Statement) : Except Error Text :=
  match s.mode with
  | none =>
      if s.isEmpty then .error (.unexpected .nothingToSend) else .ok s.render
  | some .select =>
      if s.own.tables.isEmpty then .error (.unexpected .selectWithoutFrom)
      else .ok s.render
  | some _ => .ok s.render

end Statement

end GuardedSql
