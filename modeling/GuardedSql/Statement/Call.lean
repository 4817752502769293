import GuardedSql.Statement.Build

/-! # Calls — a statement as the outcome of a sequence of steps

    A call is one step in building a statement, as a value: it can be
    applied, collected and compared.  A call edits the statement in place, and
    a sequence of calls goes on with whatever a call has left behind, accepted
    or rejected.  `Statement.Built` holds of the statements that calls can
    reach, where an appended statement must itself be one of them. -/

namespace GuardedSql

/-- A step that sets one clause. -/
inductive Setter where
  | select (columns : List Text)
  | selectWith (columns : List Text) (options : SelectOptions)
  | fromTables (tables : List Text)
  | join (kind : JoinKind) (table column value : Text)
  | joinAll (kind : JoinKind) (targets : List JoinTarget)
  | whereOne (comparator : Comparator) (column value : Text)
  | whereAll (link : Conjunction) (comparator : Comparator)
      (columns values : List Text)
  | whereCustom (conditions : List Condition)
  | orderBy (column : Text) (direction : Direction)
  | orderByAll (keys : List SortKey)
  | limit (count : Int)
  | insert (table : Text) (values columns : List Text)
  | onDuplicateKey (columns values : List Text)
  | update (table column value : Text)
  | updateAll (table : Text) (pairs : List Assignment)
  deriving DecidableEq, Repr

/-- What the step does to the clauses. -/
def Setter.edit : Setter → Edit Clauses Unit
  | .select columns => Clauses.select columns
  | .selectWith columns options => Clauses.selectWith columns options
  | .fromTables tables => Clauses.fromTables tables
  | .join kind table column value => Clauses.join kind table column value
  | .joinAll kind targets => Clauses.joinAll kind targets
  | .whereOne comparator column value => Clauses.whereOne comparator column value
  | .whereAll link comparator columns values =>
      Clauses.whereAll link comparator columns values
  | .whereCustom conditions => Clauses.whereCustom conditions
  | .orderBy column direction => Clauses.orderBy column direction
  | .orderByAll keys => Clauses.orderByAll keys
  | .limit count => Clauses.setLimit count
  | .insert table values columns => Clauses.insert table values columns
  | .onDuplicateKey columns values => Clauses.onDuplicateKey columns values
  | .update table column value => Clauses.update table column value
  | .updateAll table pairs => Clauses.updateAll table pairs

namespace Clauses

/-- The clauses after the step, or why it is rejected. -/
def set (c : Clauses) (setter : Setter) : Except Error Clauses := setter.edit.outcome c

/-- The clauses after the step, accepted or rejected. -/
def after (c : Clauses) (setter : Setter) : Clauses := setter.edit.after c

end Clauses

/-- A step in building a statement. -/
inductive Call where
  | set (setter : Setter)
  | append (child : Statement)

/-- The edit of the own clauses of a statement. -/
def Edit.onOwn (e : Edit Clauses Unit) : Edit Statement Unit := fun s =>
  match e.run s.own with
  | .ok _ own => .ok () { s with own := own }
  | .error error own => .error error { s with own := own }

/-- What the step does to the statement. -/
def Call.edit : Call → Edit Statement Unit
  | .set setter => setter.edit.onOwn
  | .append child => modify (·.append child)

namespace Statement

/-- The statement after the step, or why it is rejected. -/
def apply (s : Statement) (call : Call) : Except Error Statement := call.edit.outcome s

/-- The statement after the step, accepted or rejected. -/
def step (s : Statement) (call : Call) : Statement := call.edit.after s

/-- The statement after all the steps, in order. -/
def steps (s : Statement) (calls : List Call) : Statement :=
  calls.foldl step s

/-- The statement begun by one step, if the step is not rejected. -/
def start (setter : Setter) : Except Error Statement :=
  empty.apply (.set setter)

/-- A statement that calls can reach, accepted or rejected ones. -/
inductive Built : Statement → Prop
  | empty : Built empty
  | set {s : Statement} (setter : Setter) (built : Built s) :
      Built (s.step (.set setter))
  | append {s child : Statement} (built : Built s) (builtChild : Built child) :
      Built (s.append child)

@[simp] theorem step_append (s child : Statement) :
    s.step (.append child) = s.append child := rfl

@[simp] theorem steps_nil (s : Statement) : s.steps [] = s := rfl

@[simp] theorem steps_cons (s : Statement) (call : Call) (calls : List Call) :
    s.steps (call :: calls) = (s.step call).steps calls := rfl

/-- A run can be cut in two anywhere. -/
@[simp] theorem steps_append (s : Statement) (first second : List Call) :
    s.steps (first ++ second) = (s.steps first).steps second := by
  simp [steps]

/-- A step keeps to the statements that calls can reach. -/
theorem Built.step {s : Statement} (built : Built s) (call : Call)
    (children : ∀ child, call = .append child → Built child) :
    Built (s.step call) := by
  cases call with
  | set setter => exact .set setter built
  | append child => exact .append built (children child rfl)

end Statement

end GuardedSql
