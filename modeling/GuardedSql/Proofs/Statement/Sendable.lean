import GuardedSql.Proofs.Statement.Invariant

/-! # Sendable statements — what `toSql` looks at, and what it does not

    `toSql` refuses a statement that renders nothing and a select without a
    table, but it looks at the statement's own clauses only.  The text it lets
    through is that of the whole tree: a select without a table that is
    appended goes through.  It does not if every statement was one that
    `toSql` lets through when it was appended; `Statement.Vetted` says that of
    a tree. -/

namespace GuardedSql

/-- A select names a table to read from. -/
def Clauses.Sourced (c : Clauses) : Prop := c.mode = some .select → c.tables ≠ []

instance (c : Clauses) : Decidable c.Sourced := inferInstanceAs (Decidable (_ → _))

namespace Statement

variable {s : Statement} {sql : Text}

/-- The statement is let through by `toSql`. -/
def IsSendable (s : Statement) : Prop := ∃ sql, s.toSql = .ok sql

/-- A statement that renders nothing has no mode. -/
theorem mode_of_isEmpty (h : s.isEmpty = true) : s.mode = none := by
  obtain ⟨own, appended⟩ := s
  rw [isEmpty, Bool.and_eq_true] at h
  exact Option.isNone_iff_eq_none.mp h.1

theorem isEmpty_eq_false {mode : Mode} (h : s.mode = some mode) : s.isEmpty = false :=
  Bool.eq_false_iff.mpr fun hempty => nomatch (mode_of_isEmpty hempty).symm.trans h

/-- What is let through renders something, reads from a table if it is a
    select, and is sent with its text. -/
theorem toSql_eq_ok : s.toSql = .ok sql ↔ s.isEmpty = false ∧ s.own.Sourced ∧ s.render = sql := by
  have hown : s.own.mode = s.mode := rfl
  rw [toSql, Clauses.Sourced, hown]
  cases hmode : s.mode with
  | none => cases s.isEmpty <;> simp
  | some mode =>
      rw [isEmpty_eq_false hmode]
      cases mode with
      | select => cases s.own.tables <;> simp
      | insert | update => simp

/-- What can be sent is not empty, and its own select has a table. -/
theorem isSendable_iff : s.IsSendable ↔ s.isEmpty = false ∧ s.own.Sourced := by
  constructor
  · rintro ⟨sql, hsql⟩
    obtain ⟨hempty, hsourced, -⟩ := toSql_eq_ok.mp hsql
    exact ⟨hempty, hsourced⟩
  · rintro ⟨hempty, hsourced⟩
    exact ⟨s.render, toSql_eq_ok.mpr ⟨hempty, hsourced, rfl⟩⟩

/-- Every statement that is appended, at any depth, renders nothing or is
    let through by itself. -/
inductive Vetted : Statement → Prop
  | intro {s : Statement}
      (sendable : ∀ child ∈ s.appended, child.isEmpty = false → child.IsSendable)
      (vetted : ∀ child ∈ s.appended, Vetted child) : Vetted s

/-- A statement that is let through, or renders nothing, has no select without
    a table at any depth if it is vetted. -/
theorem Vetted.sourced (hvetted : s.Vetted) (h : s.isEmpty = false → s.IsSendable) :
    ∀ node ∈ s.nodes, node.Sourced := by
  induction hvetted with
  | @intro s sendable _ ih =>
      intro node hnode
      rcases mem_nodes.mp hnode with rfl | ⟨child, hchild, hnode'⟩
      · cases hempty : s.isEmpty with
        | false => exact (isSendable_iff.mp (h hempty)).2
        | true =>
            -- without a mode there is no select
            intro hmode
            exact nomatch (mode_of_isEmpty hempty).symm.trans hmode
      · exact ih child hchild (sendable child hchild) node hnode'

/-- Where every select names a table, every appended statement passes the test
    of `toSql`. -/
theorem vetted_of_sourced (s : Statement) (h : ∀ node ∈ s.nodes, node.Sourced) : s.Vetted := by
  have hnodes : ∀ child ∈ s.appended, ∀ node ∈ child.nodes, node.Sourced :=
    fun child hchild node hnode => h node (mem_nodes.mpr (Or.inr ⟨child, hchild, hnode⟩))
  refine .intro ?_ ?_
  · intro child hchild hempty
    exact isSendable_iff.mpr ⟨hempty, hnodes child hchild _ (mem_nodes.mpr (Or.inl rfl))⟩
  · intro child hchild
    exact vetted_of_sourced child (hnodes child hchild)
termination_by sizeOf s
decreasing_by
  have hlt := List.sizeOf_lt_of_mem hchild
  obtain ⟨own, appended⟩ := s
  simp only [mk.sizeOf_spec] at hlt ⊢
  omega

/-- **What is missing**: of what `toSql` lets through, exactly the vetted
    statements have a table in every select. -/
theorem sourced_iff_vetted (h : s.IsSendable) : (∀ node ∈ s.nodes, node.Sourced) ↔ s.Vetted :=
  ⟨vetted_of_sourced s, fun hvetted => hvetted.sourced fun _ => h⟩

end Statement

end GuardedSql
