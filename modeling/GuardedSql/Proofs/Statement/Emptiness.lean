import GuardedSql.Proofs.Lexical.Script
import GuardedSql.Proofs.Statement.Sendable

/-! # Emptiness — a statement is empty if its text is

    `Statement.isEmpty` looks at the modes of a tree and `Statement.render`
    writes its clauses, an insert or an update only if it finds their one
    table.  For statements that calls can reach the two agree: the text is a
    script with one semicolon for each node that has a mode, and a script
    without semicolons is no text at all.  `toSql` then refuses nothing but
    empty statements and a select without a table of its own. -/

namespace GuardedSql

/-- A script of no statement is empty, and only that. -/
theorem Script.eq_nil_iff {t : Text} {count : Nat} {shown : List Text}
    (h : Script t count shown) : t = [] ↔ count = 0 := by
  rw [← h.count_eq]
  constructor
  · rintro rfl
    rfl
  · intro hcount
    refine Classical.byContradiction fun hne => ?_
    -- a text that is not empty ends with a semicolon
    exact List.count_eq_zero.mp hcount (List.mem_of_getLast? (h.ends hne))

namespace Statement

variable {s : Statement} {sql : Text} {error : Error}

mutual

/-- A statement is empty if none of its nodes has a mode. -/
theorem isEmpty_iff : ∀ s : Statement, s.isEmpty = true ↔ ∀ node ∈ s.nodes, node.mode = none
  | ⟨own, appended⟩ => by
      rw [isEmpty, nodes, Bool.and_eq_true, List.forall_mem_cons, Option.isNone_iff_eq_none,
        allEmpty_iff appended]

/-- Statements are all empty if no node of any has a mode. -/
theorem allEmpty_iff : ∀ ss : List Statement,
    allEmpty ss = true ↔ ∀ node ∈ nodesOfAll ss, node.mode = none
  | [] => ⟨fun _ => nofun, fun _ => rfl⟩
  | s :: rest => by
      rw [allEmpty, nodesOfAll, Bool.and_eq_true, List.forall_mem_append, isEmpty_iff s,
        allEmpty_iff rest]

end

/-- Without a mode in the tree nothing is written, and only then. -/
theorem Built.render_eq_nil_iff (built : s.Built) :
    s.render = [] ↔ ∀ node ∈ s.nodes, node.mode = none := by
  rw [built.script.eq_nil_iff, List.countP_eq_zero]
  refine forall₂_congr fun node _ => ?_
  rw [Option.not_isSome_iff_eq_none]

/-- What is refused, and what is said of it. -/
theorem toSql_eq_error : s.toSql = .error error ↔
    (s.isEmpty = true ∧ error = .unexpected .nothingToSend) ∨
    ((s.mode = some .select ∧ s.own.tables = []) ∧
      error = .unexpected .selectWithoutFrom) := by
  rw [toSql]
  cases hmode : s.mode with
  | none => cases s.isEmpty <;> simp [eq_comm]
  | some mode =>
      rw [isEmpty_eq_false hmode]
      cases mode with
      | select => cases s.own.tables <;> simp [eq_comm]
      | insert | update => simp

/-- **Emptiness, text and sending agree**: a statement is empty exactly if its
    text is, which is exactly if no node of the tree has a mode; refused are
    the empty statements and the selects that name no table of their own; and
    what is sent is the text that is displayed, and never empty. -/
theorem emptiness_of_built (built : s.Built) :
    (s.isEmpty = true ↔ s.render = []) ∧
    (s.render = [] ↔ ∀ node ∈ s.nodes, node.mode = none) ∧
    ((∃ error, s.toSql = .error error) ↔
      s.isEmpty = true ∨ (s.mode = some .select ∧ s.own.tables = [])) ∧
    (∀ sql, s.toSql = .ok sql →
      sql = s.render ∧ toString s = String.ofList sql ∧ sql ≠ []) := by
  have hempty : s.isEmpty = true ↔ s.render = [] :=
    (isEmpty_iff s).trans built.render_eq_nil_iff.symm
  refine ⟨hempty, built.render_eq_nil_iff, ?_, ?_⟩
  · simp only [toSql_eq_error, exists_or, exists_and_left, exists_eq, and_true]
  · intro sql hsql
    obtain ⟨hfilled, -, rfl⟩ := toSql_eq_ok.mp hsql
    refine ⟨rfl, rfl, fun hnil => ?_⟩
    exact Bool.false_ne_true (hfilled.symm.trans (hempty.mpr hnil))

/-- A statement that has a limit but no mode of its own, and is empty until a
    select is appended: the other appended one has conditions, and an insert
    of it was rejected. -/
theorem emptiness_of_built_nested_append :
    let leaf := empty.steps
      [.set (.whereOne .isNull (chars "a") []), .set (.insert (chars "t") [] [chars "b"])]
    let s := empty.steps [.set (.limit 3), .append leaf]
    let t := s.append (leaf.append (empty.step (.set (.select [chars "c"]))))
    ((t.nodes.length = 4 ∧ t.render = chars "SELECT `c`;") ∧
      s.isEmpty = true ∧ t.isEmpty = false ∧ t.mode = none) ∧
    (t.isEmpty = true ↔ t.render = []) ∧
    (t.render = [] ↔ ∀ node ∈ t.nodes, node.mode = none) ∧
    ((∃ error, t.toSql = .error error) ↔
      t.isEmpty = true ∨ (t.mode = some .select ∧ t.own.tables = [])) ∧
    (∀ sql, t.toSql = .ok sql →
      sql = t.render ∧ toString t = String.ofList sql ∧ sql ≠ []) := by
  intro leaf s t
  have builtLeaf : leaf.Built := .set _ (.set _ .empty)
  have builtS : s.Built := .append (.set (.limit 3) .empty) builtLeaf
  have builtT : t.Built := builtS.append (builtLeaf.append (.set _ .empty))
  refine ⟨⟨?_, ?_⟩, emptiness_of_built builtT⟩
  · decide +kernel
  · decide +kernel

end Statement

end GuardedSql
