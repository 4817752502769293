import GuardedSql.Statement.Call

/-! # Edits — what stops leaves no trace

    An edit keeps what it has changed, also if it stops with an error.  So an
    edit that stops and leaves its value alone owes it to the order of its
    steps: `Edit.Atomic` holds of what looks and checks for as long as it may
    stop, and assigns from there on without stopping.  The rules go through the
    steps in order, one for each kind of step, and none lets an assignment
    stand before a check.

    Every setter is made in this way (`Setter.edit_atomic`), and so is every
    call (`Call.edit_atomic`).  The laws of `Edit.outcome` read the steps of an
    edit as a chain of checks with its assignments at the end. -/

namespace GuardedSql

namespace Edit

variable {σ α β : Type} {s next : σ} {error : Error}

/-! ## Outcomes -/

/-- A look at the value hands it on. -/
@[simp] theorem outcome_get (f : σ → Edit σ Unit) : outcome (get >>= f) s = (f s).outcome s := rfl

/-- A check comes before what follows it. -/
@[simp] theorem outcome_check (check : Except Error α) (f : α → Edit σ Unit) :
    outcome (liftM check >>= f) s = check >>= fun a => (f a).outcome s := by
  cases check <;> rfl

/-- After a refusal nothing follows. -/
@[simp] theorem outcome_throw (error : Error) (f : Unit → Edit σ Unit) :
    outcome (throw error >>= f) s = .error error := rfl

/-- An assignment at the end gives the value assigned. -/
@[simp] theorem outcome_modify (g : σ → σ) : outcome (modify g) s = .ok (g s) := rfl

/-- A choice has the outcome of the edit chosen. -/
@[simp] theorem outcome_ite {p : Prop} [Decidable p] (e e' : Edit σ Unit) :
    outcome (if p then e else e') s = if p then e.outcome s else e'.outcome s := by
  split <;> rfl

/-- After an edit that does not stop the value is its outcome. -/
theorem after_of_ok {e : Edit σ Unit} (h : e.outcome s = .ok next) : e.after s = next := by
  rw [outcome] at h
  rw [after]
  cases hrun : e.run s with
  | ok result last =>
      rw [hrun] at h
      exact Except.ok.inj h
  | error failure last =>
      rw [hrun] at h
      exact nomatch h

/-! ## Edits that leave no trace -/

/-- The edit never stops. -/
def Total (e : Edit σ α) : Prop := ∀ s error next, e.run s ≠ .error error next

/-- The edit leaves the value as it was if it stops. -/
def Atomic (e : Edit σ α) : Prop := ∀ s error next, e.run s = .error error next → next = s

/-- An assignment does not stop. -/
theorem total_modify (g : σ → σ) : Total (modify g : Edit σ Unit) := fun _ _ _ => nofun

/-- An assignment does not stop before what does not. -/
theorem total_modify_bind {g : σ → σ} {f : Unit → Edit σ α} (h : Total (f ())) :
    Total (modify g >>= f) :=
  fun s => h (g s)

/-- What never stops need not look after its value. -/
theorem Total.atomic {e : Edit σ α} (h : Total e) : Atomic e :=
  fun s error next hrun => absurd hrun (h s error next)

namespace Atomic

/-- A look at the value may come first. -/
theorem get_bind {f : σ → Edit σ α} (h : ∀ s, Atomic (f s)) : Atomic (get >>= f) :=
  fun s => h s s

/-- A check may come first: if it fails, nothing has been assigned. -/
theorem check_bind {check : Except Error β} {f : β → Edit σ α} (h : ∀ b, Atomic (f b)) :
    Atomic (liftM check >>= f) := by
  intro s error next hrun
  cases check with
  | ok b => exact h b s error next hrun
  | error failure =>
      cases hrun
      rfl

/-- A refusal may come first. -/
theorem throw_bind {failure : Error} {f : Unit → Edit σ α} :
    Atomic (throw failure >>= f) := by
  intro s error next hrun
  cases hrun
  rfl

/-- Either edit of a choice must leave no trace. -/
theorem choice {p : Prop} [Decidable p] {e e' : Edit σ α} (h : Atomic e) (h' : Atomic e') :
    Atomic (if p then e else e') := by
  split
  · exact h
  · exact h'

/-- After an edit that stops the value is what it was. -/
theorem after_of_error {e : Edit σ Unit} (h : Atomic e) (hstop : e.outcome s = .error error) :
    e.after s = s := by
  rw [outcome] at hstop
  rw [after]
  cases hrun : e.run s with
  | ok result last =>
      rw [hrun] at hstop
      exact nomatch hstop
  | error failure last => exact h s failure last hrun

/-- What leaves no trace in the own clauses leaves none in the statement. -/
theorem onOwn {e : Edit Clauses Unit} (h : Atomic e) : Atomic e.onOwn := by
  rintro ⟨own, appended⟩ error next hrun
  rw [EStateM.run, Edit.onOwn] at hrun
  cases hown : e.run own with
  | ok result after =>
      rw [hown] at hrun
      exact nomatch hrun
  | error failure after =>
      rw [hown, h own failure after hown] at hrun
      cases hrun
      rfl

end Atomic

end Edit

/-! ## Setters and calls -/

namespace Clauses

open Edit Edit.Atomic

/-- The columns, the options and the mode are set after the last check. -/
theorem selectWith_atomic (columns : List Text) (options : SelectOptions) :
    Atomic (selectWith columns options) := by
  refine get_bind fun _ => check_bind fun _ => get_bind fun _ => check_bind fun _ =>
    check_bind fun _ => check_bind fun _ => Total.atomic ?_
  exact total_modify_bind (total_modify_bind (total_modify _))

/-- The tables are set after the last check. -/
theorem fromTables_atomic (tables : List Text) : Atomic (fromTables tables) :=
  get_bind fun _ => check_bind fun _ => check_bind fun _ => (total_modify _).atomic

/-- The joins are set after the last of them is checked. -/
theorem joinAll_atomic (kind : JoinKind) (targets : List JoinTarget) :
    Atomic (joinAll kind targets) := by
  refine get_bind fun _ => check_bind fun _ => choice throw_bind ?_
  exact check_bind fun _ => (total_modify _).atomic

/-- The condition is set after it is checked. -/
theorem whereOne_atomic (comparator : Comparator) (column value : Text) :
    Atomic (whereOne comparator column value) :=
  get_bind fun _ => check_bind fun _ => check_bind fun _ => (total_modify _).atomic

/-- Conditions that are linked alike are set after the last of them is
    checked. -/
theorem whereAll_atomic (link : Conjunction) (comparator : Comparator)
    (columns values : List Text) : Atomic (whereAll link comparator columns values) := by
  refine get_bind fun _ => check_bind fun _ => choice throw_bind ?_
  refine choice throw_bind (choice throw_bind ?_)
  exact check_bind fun _ => (total_modify _).atomic

/-- Conditions given one by one are set after the last of them is checked. -/
theorem whereCustom_atomic (conditions : List Condition) : Atomic (whereCustom conditions) := by
  refine choice throw_bind (get_bind fun _ => check_bind fun _ => ?_)
  exact check_bind fun _ => check_bind fun _ => (total_modify _).atomic

/-- The sort keys are set after the last of them is checked. -/
theorem orderByAll_atomic (keys : List SortKey) : Atomic (orderByAll keys) := by
  refine get_bind fun _ => check_bind fun _ => choice throw_bind ?_
  exact check_bind fun _ => (total_modify _).atomic

/-- The limit is set after it is found to be positive. -/
theorem setLimit_atomic (count : Int) : Atomic (setLimit count) :=
  get_bind fun _ => choice throw_bind (choice throw_bind (total_modify _).atomic)

/-- The row, its table and the mode are set after the last value is checked. -/
theorem insert_atomic (table : Text) (values columns : List Text) :
    Atomic (insert table values columns) := by
  refine get_bind fun _ => check_bind fun _ => get_bind fun _ => check_bind fun _ =>
    get_bind fun _ => check_bind fun _ => ?_
  refine check_bind fun _ => check_bind fun _ => check_bind fun _ => Total.atomic ?_
  exact total_modify_bind (total_modify_bind (total_modify_bind (total_modify _)))

/-- What to do about a key is set after the last value is checked. -/
theorem onDuplicateKey_atomic (columns values : List Text) :
    Atomic (onDuplicateKey columns values) := by
  refine get_bind fun _ => choice throw_bind (get_bind fun _ => check_bind fun _ => ?_)
  exact check_bind fun _ => check_bind fun _ => (total_modify _).atomic

/-- The assignments, their table and the mode are set after the last
    assignment is checked. -/
theorem updateAll_atomic (table : Text) (pairs : List Assignment) :
    Atomic (updateAll table pairs) := by
  refine get_bind fun _ => check_bind fun _ => get_bind fun _ => check_bind fun _ =>
    get_bind fun _ => check_bind fun _ => choice throw_bind ?_
  refine check_bind fun _ => check_bind fun _ => Total.atomic ?_
  exact total_modify_bind (total_modify_bind (total_modify _))

end Clauses

/-- **Every setter** leaves the clauses as they were if it stops. -/
theorem Setter.edit_atomic (setter : Setter) : setter.edit.Atomic := by
  cases setter with
  | select columns => exact Clauses.selectWith_atomic columns {}
  | selectWith columns options => exact Clauses.selectWith_atomic columns options
  | fromTables tables => exact Clauses.fromTables_atomic tables
  | join kind table column value => exact Clauses.joinAll_atomic kind _
  | joinAll kind targets => exact Clauses.joinAll_atomic kind targets
  | whereOne comparator column value => exact Clauses.whereOne_atomic comparator column value
  | whereAll link comparator columns values =>
      exact Clauses.whereAll_atomic link comparator columns values
  | whereCustom conditions => exact Clauses.whereCustom_atomic conditions
  | orderBy column direction => exact Clauses.orderByAll_atomic _
  | orderByAll keys => exact Clauses.orderByAll_atomic keys
  | limit count => exact Clauses.setLimit_atomic count
  | insert table values columns => exact Clauses.insert_atomic table values columns
  | onDuplicateKey columns values => exact Clauses.onDuplicateKey_atomic columns values
  | update table column value => exact Clauses.updateAll_atomic table _
  | updateAll table pairs => exact Clauses.updateAll_atomic table pairs

/-- **Every call** leaves the statement as it was if it stops. -/
theorem Call.edit_atomic (call : Call) : call.edit.Atomic := by
  cases call with
  | set setter => exact setter.edit_atomic.onOwn
  | append child => exact (Edit.total_modify _).atomic

namespace Clauses

variable {c next : Clauses} {setter : Setter} {error : Error}

/-- After a step that is accepted the record is its outcome. -/
theorem after_of_ok (h : c.set setter = .ok next) : c.after setter = next := Edit.after_of_ok h

/-- After a step that is rejected the record is what it was. -/
theorem after_of_error (h : c.set setter = .error error) : c.after setter = c :=
  setter.edit_atomic.after_of_error h

end Clauses

namespace Statement

variable {s next : Statement} {call : Call} {error : Error}

/-- The outcome of a setter is its outcome on the own clauses. -/
theorem apply_set (s : Statement) (setter : Setter) :
    s.apply (.set setter) = (s.own.set setter).map fun own => { s with own := own } := by
  rw [apply, Call.edit, Clauses.set, Edit.outcome, Edit.outcome, EStateM.run, Edit.onOwn]
  cases setter.edit.run s.own <;> rfl

/-- A setter changes the own clauses and nothing else. -/
@[simp] theorem step_set_eq (s : Statement) (setter : Setter) :
    s.step (.set setter) = { s with own := s.own.after setter } := by
  rw [step, Call.edit, Clauses.after, Edit.after, Edit.after, EStateM.run, Edit.onOwn]
  cases setter.edit.run s.own <;> rfl

/-- After a call that is accepted the statement is its outcome. -/
theorem step_of_ok (h : s.apply call = .ok next) : s.step call = next := Edit.after_of_ok h

/-- After a call that is rejected the statement is what it was. -/
theorem step_of_error (h : s.apply call = .error error) : s.step call = s :=
  call.edit_atomic.after_of_error h

end Statement

end GuardedSql
