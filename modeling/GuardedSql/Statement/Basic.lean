import GuardedSql.Comparator.Spelling
import GuardedSql.Error

/-! # Statements — a record of clauses, and statements chained after it

    The clauses that a statement has of its own are a flat record, empty to
    begin with.  Other statements may be appended, and so on to any depth, so
    a statement is a tree whose nodes are such records. -/

namespace GuardedSql

/-! ## The parts of a clause -/

/-- A column and the value that goes with it. -/
structure Assignment where
  column : Text
  value : Text
  deriving DecidableEq, Repr

/-- A condition of a `WHERE` clause and its link to the next one. -/
structure Condition where
  link : Conjunction
  comparator : Comparator
  column : Text
  value : Text
  deriving DecidableEq, Repr

/-- What the condition of a null check holds as its value; it is never
    written. -/
def Condition.nullValue : Text := chars "<null>"

/-- The kinds of `JOIN`. -/
inductive JoinKind where
  | inner | left | right | full | cross | natural
  deriving DecidableEq, Repr

namespace JoinKind

/-- The keywords before `JOIN`. -/
def keyword : JoinKind → Text
  | inner => chars "INNER"
  | left => chars "LEFT OUTER"
  | right => chars "RIGHT OUTER"
  | full => chars "FULL OUTER"
  | cross => chars "CROSS"
  | natural => chars "NATURAL"

/-- The join is made on a predicate; a natural join matches columns of the
    same name instead. -/
def takesPredicate : JoinKind → Bool
  | natural => false
  | _ => true

end JoinKind

/-- A table to join, and the predicate if there is one. -/
structure JoinTarget where
  table : Text
  predicate : Option Assignment
  deriving DecidableEq, Repr

/-- A `JOIN` clause. -/
structure Join where
  kind : JoinKind
  table : Text
  predicate : Option Assignment
  deriving DecidableEq, Repr

/-- The direction of a sort. -/
inductive Direction where
  | asc | desc
  deriving DecidableEq, Repr

/-- The keyword of a direction. -/
def Direction.keyword : Direction → Text
  | asc => chars "ASC"
  | desc => chars "DESC"

/-- A column to sort by. -/
structure SortKey where
  column : Text
  direction : Direction
  deriving DecidableEq, Repr

/-- What a `SELECT` may add to its columns. -/
structure SelectOptions where
  /-- Equal rows are returned once. -/
  distinct : Bool := false
  /-- The table into which the rows are copied. -/
  intoTable : Option Text := none
  /-- The database that holds that table. -/
  intoDatabase : Option Text := none
  deriving DecidableEq, Repr

/-- Column names, given as one name or as a list. -/
inductive Columns where
  | one (name : Text)
  | many (names : List Text)

/-- The names in order. -/
def Columns.toList : Columns → List Text
  | one name => [name]
  | many names => names

/-- What a statement does. -/
inductive Mode where
  | select | insert | update
  deriving DecidableEq, Repr

/-- The keyword of a mode. -/
def Mode.keyword : Mode → Text
  | select => chars "SELECT"
  | insert => chars "INSERT"
  | update => chars "UPDATE"

/-! ## Statements -/

/-- The clauses of one statement, chained ones apart. -/
structure Clauses where
  mode : Option Mode := none
  columns : List Text := []
  options : SelectOptions := {}
  tables : List Text := []
  joins : List Join := []
  conditions : List Condition := []
  sortKeys : List SortKey := []
  limit : Option Nat := none
  insertColumns : List Text := []
  insertValues : List Text := []
  duplicateKey : List Assignment := []
  assignments : List Assignment := []
  deriving DecidableEq, Repr

/-- A statement: its own clauses and the statements appended to it. -/
structure Statement where
  own : Clauses := {}
  appended : List Statement := []

namespace Statement

/-- The statement without any clause. -/
def empty : Statement := {}

/-- What the statement does, once that is fixed. -/
def mode (s : Statement) : Option Mode := s.own.mode

mutual

/-- The own clauses of every statement of the tree, a statement before the
    ones appended to it. -/
def nodes : Statement → List Clauses
  | ⟨own, appended⟩ => own :: nodesOfAll appended

/-- The nodes of several statements, one after another. -/
def nodesOfAll : List Statement → List Clauses
  | [] => []
  | s :: rest => nodes s ++ nodesOfAll rest

end

mutual

/-- Neither the statement nor any statement appended to it has a mode. -/
def isEmpty : Statement → Bool
  | ⟨own, appended⟩ => own.mode.isNone && allEmpty appended

/-- All the statements are empty. -/
def allEmpty : List Statement → Bool
  | [] => true
  | s :: rest => isEmpty s && allEmpty rest

end

end Statement

end GuardedSql
