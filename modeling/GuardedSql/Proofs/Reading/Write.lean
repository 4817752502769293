import GuardedSql.Proofs.Lexical.Script
import GuardedSql.Proofs.Reading.Clause

/-! # Reading writes — the text of an insert or an update tells what it does

    The templates of `INSERT` and `UPDATE` are read part by part: every part
    can be read back when the part after it begins with a mark that the part
    cannot hold.  What is read back is a `Write`, in which names count by
    their parts, ranges by their bounds and lists by their items.

    A statement is appended only if its text is not there yet.  Since the text
    tells the write, nothing is lost by that: a statement left out is there
    already, as a node with the same write. -/

namespace GuardedSql

open Token

/-- What an insert or an update does. -/
inductive Write where
  | insert (table : List Text) (columns : List (List Text)) (values : List Text)
      (duplicateKey : List Assignment)
  | update (table : List Text) (assignments : List Assignment)
      (conditions : List Condition.Content) (sortKeys : List SortKey)
  deriving DecidableEq

namespace Clauses

/-- The write of a node in the mode of an insert or an update. -/
def write? (c : Clauses) : Option Write :=
  match c.mode, c.table? with
  | some .insert, some table =>
      some (.insert (Name.parts table) (c.insertColumns.map Name.parts) c.insertValues
        c.duplicateKey)
  | some .update, some table =>
      some (.update (Name.parts table) c.assignments (c.conditions.map Condition.content)
        c.sortKeys)
  | _, _ => none

variable {c d : Clauses}

/-! ## Modes -/

/-- Nodes of one text have one mode. -/
theorem WellFormed.mode_eq_of_render_eq (hc : c.WellFormed) (hd : d.WellFormed)
    (h : c.render = d.render) : c.mode = d.mode := by
  have hkeyword : ∀ i j : Mode, i.keyword <+: j.keyword → i = j := by
    intro i j
    cases i <;> cases j <;> with_unfolding_all decide
  have hne : ∀ mode : Mode, ¬ mode.keyword <+: [] := by
    intro mode
    cases mode <;> with_unfolding_all decide
  cases hcm : c.mode with
  | none =>
      cases hdm : d.mode with
      | none => rfl
      | some j =>
          have hpre := hd.keyword_prefix_render hdm
          rw [← h, render_of_mode_eq_none hcm] at hpre
          exact absurd hpre (hne j)
  | some i =>
      have hpre := hc.keyword_prefix_render hcm
      cases hdm : d.mode with
      | none =>
          rw [h, render_of_mode_eq_none hdm] at hpre
          exact absurd hpre (hne i)
      | some j =>
          have hpre' := hd.keyword_prefix_render hdm
          rw [← h] at hpre'
          rcases List.prefix_or_prefix_of_prefix hpre hpre' with hij | hji
          · rw [hkeyword i j hij]
          · rw [hkeyword j i hji]

/-! ## Inserts -/

/-- The assignments for a duplicate key are read back, and so is that there are
    none. -/
theorem readable_duplicateKey :
    Readable (fun pairs : List Assignment => if pairs.isEmpty then []
        else chars " ON DUPLICATE KEY UPDATE " ++ Assignment.renderAll pairs)
      (fun pairs => ∀ a ∈ pairs, a.Sound) (Begins [chars ";"]) id :=
  (Assignment.readable_renderAll.weaken fun r (hr : Begins [chars ";"] r) =>
    hr.trans (by with_unfolding_all decide)).optional _ fun _ hr =>
      hr.excludes (by with_unfolding_all decide)

/-- A well-formed insert has a row. -/
theorem WellFormed.insertValues_ne_nil (hc : c.WellFormed) (hmode : c.mode = some .insert) :
    c.insertValues ≠ [] := by
  intro hnil
  have hlength := hc.length_eq
  rw [hnil] at hlength
  exact hc.insert_iff.mp hmode (List.length_eq_zero_iff.mp hlength)

/-- **Inserts** of one text are one write. -/
theorem WellFormed.write?_eq_of_insert (hc : c.WellFormed) (hd : d.WellFormed)
    (hcm : c.mode = some .insert) (hdm : d.mode = some .insert) (h : c.render = d.render) :
    c.write? = d.write? := by
  obtain ⟨table, htable, hname⟩ := hc.exists_table (Or.inl hcm)
  obtain ⟨table', htable', hname'⟩ := hd.exists_table (Or.inl hdm)
  have hopen : Begins Name.ends ['('] := by with_unfolding_all decide
  have hvaluesWord : Begins [chars ")"] (chars ") VALUES (") := by with_unfolding_all decide
  have hclose : Begins [chars ")"] [')'] := by with_unfolding_all decide
  have hend : Begins [chars ";"] [';'] := by with_unfolding_all decide
  rw [render, render, hcm, hdm] at h
  have htext : c.renderInsert = d.renderInsert := h
  simp only [renderInsert, htable, htable', List.append_assoc, List.cons_append] at htext
  -- the parts in the order of the template, each up to the mark after it
  obtain ⟨hparts, hrest⟩ := Name.readable_render hname hname' (hopen.append _) (hopen.append _)
    (List.append_cancel_left htext)
  obtain ⟨hcolumns, hrest⟩ := Name.readable_renderAll
    ⟨hc.insert_iff.mp hcm, hc.insertColumns⟩ ⟨hd.insert_iff.mp hdm, hd.insertColumns⟩
    (hvaluesWord.append _) (hvaluesWord.append _) (List.cons.inj hrest).2
  obtain ⟨hvalues, hrest⟩ := Literal.readable_join_render
    ⟨hc.insertValues_ne_nil hcm, fun v hv => (hc.insertValues v hv).quote_not_mem⟩
    ⟨hd.insertValues_ne_nil hdm, fun v hv => (hd.insertValues v hv).quote_not_mem⟩
    (hclose.append _) (hclose.append _) (List.append_cancel_left hrest)
  obtain ⟨hduplicate, -⟩ := readable_duplicateKey hc.duplicateKey hd.duplicateKey hend hend
    (List.cons.inj hrest).2
  simp only [write?, hcm, hdm, htable, htable']
  rw [hparts, hcolumns, show c.insertValues = d.insertValues from hvalues,
    show c.duplicateKey = d.duplicateKey from hduplicate]

/-! ## Updates -/

/-- The conditions of a node are read back, and so is that there are none. -/
theorem readable_where :
    Readable (fun cs : List Condition => if cs.isEmpty then []
        else chars " WHERE" ++ Condition.renderAll cs)
      (fun cs => Condition.Linked cs ∧ ∀ d ∈ cs, d.Sound) (Begins Condition.lastEnds)
      (List.map Condition.content) :=
  Condition.readable_renderAll.optional _ fun r hr => hr.excludes (by with_unfolding_all decide)

theorem readable_order :
    Readable (fun keys : List SortKey => if keys.isEmpty then []
        else chars " ORDER BY " ++ Text.join ", " (keys.map fun key =>
          key.column ++ ' ' :: key.direction.keyword))
      (fun keys => ∀ key ∈ keys, Accepted .name key.column) (Begins [chars ";"]) id :=
  SortKey.readable_join.optional _ fun r hr => hr.excludes (by with_unfolding_all decide)

theorem begins_order (c : Clauses) : Begins Condition.lastEnds (c.renderOrder ++ [';']) := by
  have horder : Begins Condition.lastEnds (chars " ORDER BY ") := by with_unfolding_all decide
  rw [renderOrder]
  split
  · with_unfolding_all decide
  · exact (horder.append _).append _

/-- What comes after the assignments begins with a mark that ends them. -/
theorem begins_where (c : Clauses) :
    Begins Assignment.ends (c.renderWhere ++ (c.renderOrder ++ [';'])) := by
  have hwhere : Begins Assignment.ends (chars " WHERE") := by with_unfolding_all decide
  rw [renderWhere]
  split
  · exact c.begins_order.trans (by with_unfolding_all decide)
  · exact (hwhere.append _).append _

/-- **Updates** of one text are one write. -/
theorem WellFormed.write?_eq_of_update (hc : c.WellFormed) (hd : d.WellFormed)
    (hcm : c.mode = some .update) (hdm : d.mode = some .update) (h : c.render = d.render) :
    c.write? = d.write? := by
  obtain ⟨table, htable, hname⟩ := hc.exists_table (Or.inr hcm)
  obtain ⟨table', htable', hname'⟩ := hd.exists_table (Or.inr hdm)
  have hset : Begins Name.ends (chars " SET ") := by with_unfolding_all decide
  have hend : Begins [chars ";"] [';'] := by with_unfolding_all decide
  rw [render, render, hcm, hdm] at h
  have htext : c.renderUpdate = d.renderUpdate := h
  simp only [renderUpdate, htable, htable', List.append_assoc] at htext
  -- the parts in the order of the template, each up to the mark after it
  obtain ⟨hparts, hrest⟩ := Name.readable_render hname hname' (hset.append _) (hset.append _)
    (List.append_cancel_left htext)
  obtain ⟨hassignments, hrest⟩ := Assignment.readable_renderAll
    ⟨hc.update_iff.mp hcm, hc.assignments⟩ ⟨hd.update_iff.mp hdm, hd.assignments⟩
    c.begins_where d.begins_where (List.append_cancel_left hrest)
  obtain ⟨hconditions, hrest⟩ := readable_where ⟨hc.linked, hc.conditions⟩
    ⟨hd.linked, hd.conditions⟩ c.begins_order d.begins_order hrest
  obtain ⟨hsortKeys, -⟩ := readable_order hc.sortKeys hd.sortKeys hend hend hrest
  simp only [write?, hcm, hdm, htable, htable']
  rw [hparts, show c.assignments = d.assignments from hassignments, hconditions,
    show c.sortKeys = d.sortKeys from hsortKeys]

/-- A node with the text of an insert or an update is in the same mode and is
    the same write. -/
theorem WellFormed.write?_eq (hc : c.WellFormed) (hd : d.WellFormed)
    (hmode : d.mode = some .insert ∨ d.mode = some .update) (h : c.render = d.render) :
    c.mode = d.mode ∧ c.write? = d.write? := by
  have hsame := hc.mode_eq_of_render_eq hd h
  refine ⟨hsame, ?_⟩
  rcases hmode with hinsert | hupdate
  · exact hc.write?_eq_of_insert hd (hsame.trans hinsert) hinsert h
  · exact hc.write?_eq_of_update hd (hsame.trans hupdate) hupdate h

/-- A well-formed insert or update is a write. -/
theorem WellFormed.exists_write? (hc : c.WellFormed)
    (hmode : c.mode = some .insert ∨ c.mode = some .update) : ∃ w, c.write? = some w := by
  obtain ⟨table, htable, -⟩ := hc.exists_table hmode
  rw [write?, htable]
  rcases hmode with hinsert | hupdate
  · rw [hinsert]
    exact ⟨_, rfl⟩
  · rw [hupdate]
    exact ⟨_, rfl⟩

end Clauses

/-! ## Statements -/

namespace Statement

variable {s : Statement}

theorem nodes_of_childless (h : s.appended = []) : s.nodes = [s.own] := by
  obtain ⟨own, appended⟩ := s
  obtain rfl : appended = [] := h
  rfl

theorem render_of_childless (h : s.appended = []) : s.render = s.own.render := by
  obtain ⟨own, appended⟩ := s
  obtain rfl : appended = [] := h
  rfl

/-- A text with one semicolon is the text of one of the nodes. -/
theorem exists_node_of_count_eq_one {nodes : List Clauses} (h : ∀ node ∈ nodes, node.WellFormed)
    (hcount : (joinFilled (nodes.map Clauses.render)).count ';' = 1) :
    ∃ node ∈ nodes, node.render = joinFilled (nodes.map Clauses.render) := by
  have hmodes : (nodes.filter fun node => node.mode.isSome).length = 1 := by
    rw [← List.countP_eq_length_filter, ← (script_joinFilled h).count_eq]
    exact hcount
  obtain ⟨node, hnode⟩ := List.length_eq_one_iff.mp hmodes
  have hmem : node ∈ nodes.filter fun node => node.mode.isSome := by
    rw [hnode]
    exact List.mem_singleton_self node
  refine ⟨node, (List.mem_filter.mp hmem).1, ?_⟩
  simp [joinFilled_render h, hnode]

/-- After a statement is appended its text is there, from it or from before. -/
theorem exists_appended_render (s child : Statement) :
    ∃ member ∈ (s.append child).appended, member.render = child.render := by
  rw [append]
  cases hany : s.appended.any fun existing => existing.render == child.render with
  | true =>
      obtain ⟨member, hmem, hsame⟩ := List.any_eq_true.mp hany
      exact ⟨member, hmem, beq_iff_eq.mp hsame⟩
  | false => exact ⟨child, List.mem_append_right _ (List.mem_singleton_self child), rfl⟩

/-- **Writes are not lost**: an insert or an update without appended
    statements is told by its text, so that any such statement with the same
    text is the same write; and after it is appended, whether it was left out
    or not, a statement there has a node that is the same write. -/
theorem write?_of_built (built : s.Built) (childless : s.appended = [])
    (hmode : s.mode = some .insert ∨ s.mode = some .update) :
    ∃ w, s.own.write? = some w ∧
      (∀ t : Statement, t.Built → t.appended = [] → t.render = s.render →
        t.mode = s.mode ∧ t.own.write? = some w) ∧
      ∀ parent : Statement, parent.Built → ∃ member ∈ (parent.append s).appended,
        ∃ node ∈ member.nodes, node.mode = s.mode ∧ node.write? = some w := by
  have hwell : s.own.WellFormed := built.wellFormed _ (mem_nodes.mpr (Or.inl rfl))
  obtain ⟨w, hw⟩ := hwell.exists_write? hmode
  refine ⟨w, hw, ?_, ?_⟩
  · intro t builtT childlessT htext
    have hwellT : t.own.WellFormed := builtT.wellFormed _ (mem_nodes.mpr (Or.inl rfl))
    rw [render_of_childless childless, render_of_childless childlessT] at htext
    obtain ⟨hsame, hwrite⟩ := hwellT.write?_eq hwell hmode htext
    exact ⟨hsame, hwrite.trans hw⟩
  · intro parent builtParent
    -- the member may be a tree, but only one of its nodes has a text
    obtain ⟨member, hmem, htext⟩ := exists_appended_render parent s
    have hnodes : ∀ node ∈ member.nodes, node.WellFormed := fun node hnode =>
      (builtParent.append built).wellFormed node (mem_nodes.mpr (Or.inr ⟨member, hmem, hnode⟩))
    have hcount : s.render.count ';' = 1 := by
      rw [built.script.count_eq, nodes_of_childless childless]
      rcases hmode with hm | hm <;> simp [show s.own.mode = _ from hm]
    rw [render_eq_joinFilled member] at htext
    obtain ⟨node, hnode, hrender⟩ := exists_node_of_count_eq_one hnodes (htext ▸ hcount)
    rw [htext, render_of_childless childless] at hrender
    obtain ⟨hsame, hwrite⟩ := (hnodes node hnode).write?_eq hwell hmode hrender
    exact ⟨member, hmem, node, hnode, hsame, hwrite.trans hw⟩

/-- Two updates that differ in delimiters and in blanks around the bounds of a
    range have one text; their columns hold words of `IS NOT NULL`. -/
theorem write?_of_built_other_spelling :
    let s := empty.steps
      [.set (.update (chars "db.t x") (chars "a") (chars "1")),
       .set (.whereCustom [⟨.or, .isNotNull, chars "b IS", []⟩,
         ⟨.none, .between, chars "c NULL", chars "1 AND x y"⟩]),
       .set (.orderBy (chars "d") .desc)]
    let t := empty.steps
      [.set (.update (chars "`db`.`t x`") (chars "a") (chars "1")),
       .set (.whereCustom [⟨.or, .isNotNull, chars "b IS", []⟩,
         ⟨.none, .between, chars "c NULL", chars "1  and x y "⟩]),
       .set (.orderBy (chars "d") .desc)]
    (s.mode = some .update ∧ t.render = s.render ∧ t.own ≠ s.own ∧ t.own.write? = s.own.write?) ∧
    ∃ w, s.own.write? = some w ∧
      (∀ t : Statement, t.Built → t.appended = [] → t.render = s.render →
        t.mode = s.mode ∧ t.own.write? = some w) ∧
      ∀ parent : Statement, parent.Built → ∃ member ∈ (parent.append s).appended,
        ∃ node ∈ member.nodes, node.mode = s.mode ∧ node.write? = some w := by
  intro s t
  have builtS : s.Built := .set _ (.set _ (.set _ .empty))
  have childless : s.appended = [] := List.isEmpty_iff.mp (by decide +kernel)
  have hmode : s.mode = some .update := by decide +kernel
  refine ⟨⟨hmode, ?_, ?_, ?_⟩, write?_of_built builtS childless (Or.inr hmode)⟩
  · decide +kernel
  · decide +kernel
  · decide +kernel

end Statement

end GuardedSql
