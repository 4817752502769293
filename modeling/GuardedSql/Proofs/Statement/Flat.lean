import GuardedSql.Proofs.Statement.Invariant
import GuardedSql.Proofs.Text.Join

/-! # Flattening — the text of a tree is the texts of its nodes

    Chaining is a join that leaves empty texts out, so the text of a tree does
    not depend on its shape: it is the join of the texts of its nodes, each
    before the nodes appended to it, and only the nodes with a mode have a
    text. -/

namespace GuardedSql

namespace Statement

open Text

/-- The texts that are not empty, a space between neighbours. -/
def joinFilled (ts : List Text) : Text := join " " (ts.filter fun t => !t.isEmpty)

/-- One text is its own join, also if it is empty. -/
theorem joinFilled_singleton (t : Text) : joinFilled [t] = t := by
  cases t with
  | nil => rfl
  | cons c t => simp [joinFilled]

/-- A join of texts that are not empty is empty only if there are none. -/
theorem isEmpty_joinFilled {ts : List Text} :
    (joinFilled ts).isEmpty = true ↔ ts.filter (fun t => !t.isEmpty) = [] := by
  rw [List.isEmpty_iff, joinFilled]
  constructor
  · intro h
    cases hfilter : ts.filter fun t => !t.isEmpty with
    | nil => rfl
    | cons t rest =>
        have hmem : t ∈ ts.filter fun t => !t.isEmpty := by
          rw [hfilter]; exact List.mem_cons_self ..
        have hne : t ≠ [] := by simpa using (List.mem_filter.mp hmem).2
        rw [hfilter] at h
        -- the join begins with a text that is not empty
        cases rest with
        | nil => simp [hne] at h
        | cons u rest => simp [hne] at h
  · intro h
    simp [h]

/-- Chaining two joins gives the join of all. -/
theorem chain_joinFilled (ts us : List Text) :
    chain (joinFilled ts) (joinFilled us) = joinFilled (ts ++ us) := by
  rw [chain]
  by_cases hus : us.filter (fun t => !t.isEmpty) = []
  · rw [if_pos (isEmpty_joinFilled.mpr hus), joinFilled, joinFilled, List.filter_append,
      hus, List.append_nil]
  · rw [if_neg fun h => hus (isEmpty_joinFilled.mp h)]
    by_cases hts : ts.filter (fun t => !t.isEmpty) = []
    · rw [if_pos (isEmpty_joinFilled.mpr hts), joinFilled, joinFilled, List.filter_append,
        hts, List.nil_append]
    · rw [if_neg fun h => hts (isEmpty_joinFilled.mp h), joinFilled, joinFilled, joinFilled,
        List.filter_append, join_append hts hus, chars_space, List.append_assoc]
      rfl

mutual

/-- **Flattening**: the text of a statement is the join of the texts of its
    nodes. -/
theorem render_eq_joinFilled : ∀ s : Statement,
    s.render = joinFilled (s.nodes.map Clauses.render)
  | ⟨own, appended⟩ => by
      have h := renderAfter_joinFilled [own.render] appended
      rw [joinFilled_singleton] at h
      rw [render, nodes, List.map_cons, h]
      rfl

/-- Statements after a join of texts come to the join of these and of all their
    nodes. -/
theorem renderAfter_joinFilled (texts : List Text) : ∀ ss : List Statement,
    renderAfter (joinFilled texts) ss =
      joinFilled (texts ++ (nodesOfAll ss).map Clauses.render)
  | [] => by rw [renderAfter, nodesOfAll, List.map_nil, List.append_nil]
  | s :: rest => by
      rw [renderAfter, render_eq_joinFilled s, chain_joinFilled,
        renderAfter_joinFilled _ rest, nodesOfAll, List.map_append, List.append_assoc]

end

end Statement

namespace Clauses

variable {c : Clauses}

/-- A node without a mode has no text. -/
theorem render_of_mode_eq_none (h : c.mode = none) : c.render = [] := by
  rw [render, h]

/-- The text of a node begins with the keyword of its mode. -/
theorem WellFormed.keyword_prefix_render (hc : c.WellFormed) {mode : Mode}
    (hmode : c.mode = some mode) : mode.keyword <+: c.render := by
  have hselect : Mode.select.keyword <+: chars "SELECT " := by with_unfolding_all decide
  have hinsert : Mode.insert.keyword <+: chars "INSERT INTO " := by with_unfolding_all decide
  have hupdate : Mode.update.keyword <+: chars "UPDATE " := by with_unfolding_all decide
  rw [render, hmode]
  cases mode with
  | select =>
      show _ <+: c.renderSelect
      simp only [renderSelect, List.append_assoc]
      exact hselect.trans (List.prefix_append _ _)
  | insert =>
      obtain ⟨table, htable, -⟩ := hc.exists_table (Or.inl hmode)
      show _ <+: c.renderInsert
      simp only [renderInsert, htable, List.append_assoc]
      exact hinsert.trans (List.prefix_append _ _)
  | update =>
      obtain ⟨table, htable, -⟩ := hc.exists_table (Or.inr hmode)
      show _ <+: c.renderUpdate
      simp only [renderUpdate, htable, List.append_assoc]
      exact hupdate.trans (List.prefix_append _ _)

/-- Exactly the nodes with a mode have a text. -/
theorem WellFormed.isEmpty_render (hc : c.WellFormed) : (!c.render.isEmpty) = c.mode.isSome := by
  have hne : ∀ mode : Mode, mode.keyword ≠ [] := by
    rintro ⟨⟩ <;> with_unfolding_all decide
  cases hmode : c.mode with
  | none =>
      rw [render_of_mode_eq_none hmode]
      rfl
  | some mode =>
      cases hrender : c.render with
      | nil =>
          have hkeyword := hc.keyword_prefix_render hmode
          rw [hrender] at hkeyword
          exact absurd (List.prefix_nil.mp hkeyword) (hne mode)
      | cons first rest => rfl

end Clauses

/-- The texts of nodes that calls can reach are those of the nodes with a
    mode. -/
theorem Statement.joinFilled_render {nodes : List Clauses} (h : ∀ node ∈ nodes, node.WellFormed) :
    joinFilled (nodes.map Clauses.render) =
      Text.join " " ((nodes.filter fun node => node.mode.isSome).map Clauses.render) := by
  rw [joinFilled, List.filter_map]
  congr 2
  exact List.filter_congr fun node hnode => (h node hnode).isEmpty_render

end GuardedSql
