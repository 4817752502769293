import GuardedSql.Proofs.Statement.Setting

/-! # The invariant — what every reachable statement is like

    Sixteen steps share one record of clauses, and each checks only what it
    writes.  `Clauses.WellFormed` is what they keep between them: the mode
    agrees with the clauses that are filled, an insert and an update have one
    table, lists that pair up pair up, conditions are linked up to the last,
    and every token was accepted in the role in which it is kept.

    `Sets.wellFormed` is the step: one case for each clause.  The run follows
    by induction, over the calls and over the tree of appended statements. -/

namespace GuardedSql

open Token

/-- The clauses of a statement that calls can reach, as far as one node of
    the tree goes. -/
structure Clauses.WellFormed (c : Clauses) : Prop where
  select_iff : c.mode = some .select ↔ c.columns ≠ []
  insert_iff : c.mode = some .insert ↔ c.insertColumns ≠ []
  update_iff : c.mode = some .update ↔ c.assignments ≠ []
  /-- An insert and an update have one table. -/
  one_table : c.mode = some .insert ∨ c.mode = some .update → ∃ table, c.tables = [table]
  /-- Inserted columns and values pair up. -/
  length_eq : c.insertColumns.length = c.insertValues.length
  duplicateKey_mode : c.duplicateKey ≠ [] → c.mode = some .insert
  /-- All joins are of one kind. -/
  one_kind : ∀ j ∈ c.joins, ∀ k ∈ c.joins, j.kind = k.kind
  /-- Every condition but the last is linked. -/
  linked : Condition.Linked c.conditions
  limit_pos : ∀ count ∈ c.limit, 0 < count
  columns : ∀ name ∈ c.columns, Accepted .name name
  options : c.options.Sound
  tables : ∀ name ∈ c.tables, Accepted .name name
  joins : ∀ j ∈ c.joins, j.Sound
  conditions : ∀ d ∈ c.conditions, d.Sound
  sortKeys : ∀ key ∈ c.sortKeys, Accepted .name key.column
  insertColumns : ∀ name ∈ c.insertColumns, Accepted .name name
  insertValues : ∀ value ∈ c.insertValues, Accepted .value value
  duplicateKey : ∀ a ∈ c.duplicateKey, a.Sound
  assignments : ∀ a ∈ c.assignments, a.Sound

namespace Clauses

variable {c next : Clauses}

theorem wellFormed_empty : ({} : Clauses).WellFormed where
  select_iff := ⟨nofun, fun h => (h rfl).elim⟩
  insert_iff := ⟨nofun, fun h => (h rfl).elim⟩
  update_iff := ⟨nofun, fun h => (h rfl).elim⟩
  one_table := by rintro (h | h) <;> exact nomatch h
  length_eq := rfl
  duplicateKey_mode := fun h => (h rfl).elim
  one_kind := nofun
  linked := trivial
  limit_pos := nofun
  columns := nofun
  options := ⟨nofun, nofun, nofun⟩
  tables := nofun
  joins := nofun
  conditions := nofun
  sortKeys := nofun
  insertColumns := nofun
  insertValues := nofun
  duplicateKey := nofun
  assignments := nofun

/-- Where the clause that fixes a mode is still empty, an open mode is none
    at all. -/
theorem Open.mode_eq_none {mode : Mode} (h : c.Open mode) (hne : c.mode ≠ some mode) :
    c.mode = none := by
  rcases h with hnone | hsome
  · exact hnone
  · exact absurd hsome hne

/-- Without a mode none of the clauses that fix one is filled. -/
theorem WellFormed.unset_of_mode_eq_none (hc : c.WellFormed) (hmode : c.mode = none) :
    c.columns = [] ∧ c.insertColumns = [] ∧ c.assignments = [] ∧ c.duplicateKey = [] := by
  refine ⟨?_, ?_, ?_, ?_⟩
  · exact Classical.byContradiction fun h => nomatch hmode.symm.trans (hc.select_iff.mpr h)
  · exact Classical.byContradiction fun h => nomatch hmode.symm.trans (hc.insert_iff.mpr h)
  · exact Classical.byContradiction fun h => nomatch hmode.symm.trans (hc.update_iff.mpr h)
  · exact Classical.byContradiction fun h =>
      nomatch hmode.symm.trans (hc.duplicateKey_mode h)

/-- **The step**: setting a clause keeps the invariant. -/
theorem Sets.wellFormed (h : c.Sets next) (hc : c.WellFormed) : next.WellFormed := by
  cases h with
  | select mode unset sound options_sound =>
      -- the mode was open and is fixed now, so no other mode has left a clause
      have hmode := mode.mode_eq_none fun hm => hc.select_iff.mp hm unset
      obtain ⟨-, hinsert, hupdate, hduplicate⟩ := hc.unset_of_mode_eq_none hmode
      exact { hc with
        select_iff := ⟨fun _ => sound.1, fun _ => rfl⟩
        insert_iff := ⟨nofun, fun hne => absurd hinsert hne⟩
        update_iff := ⟨nofun, fun hne => absurd hupdate hne⟩
        one_table := by rintro (hm | hm) <;> exact nomatch hm
        duplicateKey_mode := fun hne => absurd hduplicate hne
        columns := sound.2
        options := options_sound }
  | tables unset sound =>
      refine { hc with one_table := ?_, tables := sound.2 }
      -- an insert or an update has its table already
      intro hmode
      obtain ⟨table, htable⟩ := hc.one_table hmode
      exact nomatch unset.symm.trans htable
  | joins unset nonempty sound one_kind =>
      exact { hc with joins := sound, one_kind := one_kind }
  | conditions unset nonempty linked sound =>
      exact { hc with conditions := sound, linked := linked }
  | sortKeys unset nonempty sound => exact { hc with sortKeys := sound }
  | limit unset pos =>
      refine { hc with limit_pos := ?_ }
      rintro _ ⟨⟩
      exact pos
  | @insert table values columns mode tables_unset unset length_eq sound table_sound
      values_sound =>
      have hmode := mode.mode_eq_none fun hm => hc.insert_iff.mp hm unset
      obtain ⟨hselect, -, hupdate, -⟩ := hc.unset_of_mode_eq_none hmode
      exact { hc with
        select_iff := ⟨nofun, fun hne => absurd hselect hne⟩
        insert_iff := ⟨fun _ => sound.1, fun _ => rfl⟩
        update_iff := ⟨nofun, fun hne => absurd hupdate hne⟩
        one_table := fun _ => ⟨table, rfl⟩
        length_eq := length_eq
        duplicateKey_mode := fun _ => rfl
        tables := List.forall_mem_singleton.mpr table_sound
        insertColumns := sound.2
        insertValues := values_sound }
  | duplicateKey mode unset nonempty sound =>
      exact { hc with duplicateKey := sound, duplicateKey_mode := fun _ => mode }
  | @update table pairs mode tables_unset unset nonempty table_sound sound =>
      have hmode := mode.mode_eq_none fun hm => hc.update_iff.mp hm unset
      obtain ⟨hselect, hinsert, -, hduplicate⟩ := hc.unset_of_mode_eq_none hmode
      exact { hc with
        select_iff := ⟨nofun, fun hne => absurd hselect hne⟩
        insert_iff := ⟨nofun, fun hne => absurd hinsert hne⟩
        update_iff := ⟨fun _ => nonempty, fun _ => rfl⟩
        one_table := fun _ => ⟨table, rfl⟩
        duplicateKey_mode := fun hne => absurd hduplicate hne
        tables := List.forall_mem_singleton.mpr table_sound
        assignments := sound }

/-- The one table of an insert or an update is there, and was accepted. -/
theorem WellFormed.exists_table (hc : c.WellFormed)
    (hmode : c.mode = some .insert ∨ c.mode = some .update) :
    ∃ table, c.table? = some table ∧ Accepted .name table := by
  obtain ⟨table, htable⟩ := hc.one_table hmode
  refine ⟨table, ?_, ?_⟩
  · rw [table?, htable]
  · refine hc.tables table ?_
    rw [htable]
    exact List.mem_singleton_self table

/-- A well-formed insert or update has its table. -/
theorem WellFormed.table?_isSome (hc : c.WellFormed)
    (hmode : c.mode = some .insert ∨ c.mode = some .update) : c.table?.isSome = true := by
  obtain ⟨table, htable, -⟩ := hc.exists_table hmode
  rw [htable]
  rfl

end Clauses

namespace Statement

variable {s child : Statement}

/-- The nodes of a list of statements are those of its members. -/
theorem mem_nodesOfAll {node : Clauses} {ss : List Statement} :
    node ∈ nodesOfAll ss ↔ ∃ s ∈ ss, node ∈ s.nodes := by
  induction ss with
  | nil => simp [nodesOfAll]
  | cons s ss ih => rw [nodesOfAll, List.mem_append, ih, List.exists_mem_cons_iff]

/-- A node is the statement's own or a node of an appended statement. -/
theorem mem_nodes {node : Clauses} :
    node ∈ s.nodes ↔ node = s.own ∨ ∃ child ∈ s.appended, node ∈ child.nodes := by
  obtain ⟨own, appended⟩ := s
  rw [nodes, List.mem_cons, mem_nodesOfAll]

/-- A step that sets a clause touches the own clauses only, and those only if
    it is accepted. -/
theorem step_set (s : Statement) (setter : Setter) :
    s.step (.set setter) = s ∨
      ∃ own, s.own.set setter = .ok own ∧ s.step (.set setter) = { s with own := own } := by
  cases h : s.own.set setter with
  | error e =>
      have hreject : s.apply (.set setter) = .error e := by rw [apply_set, h]; rfl
      exact Or.inl (step_of_error hreject)
  | ok own =>
      have haccept : s.apply (.set setter) = .ok { s with own := own } := by
        rw [apply_set, h]; rfl
      exact Or.inr ⟨own, rfl, step_of_ok haccept⟩

/-- Appending adds the statement at the end, unless its text is there. -/
theorem append_cases (s child : Statement) :
    s.append child = s ∨
      (∀ existing ∈ s.appended, existing.render ≠ child.render) ∧
        s.append child = { s with appended := s.appended ++ [child] } := by
  rw [append]
  cases hany : s.appended.any fun existing => existing.render == child.render with
  | true => exact Or.inl rfl
  | false =>
      refine Or.inr ⟨?_, rfl⟩
      intro existing hmem heq
      exact List.any_eq_false.mp hany existing hmem (beq_iff_eq.mpr heq)

/-- **The run**: every node of a statement that calls can reach keeps the
    invariant. -/
theorem Built.wellFormed (built : s.Built) : ∀ node ∈ s.nodes, node.WellFormed := by
  induction built with
  | empty =>
      intro node hnode
      rcases mem_nodes.mp hnode with rfl | ⟨child, hchild, -⟩
      · exact Clauses.wellFormed_empty
      · exact nomatch hchild
  | @set s setter _ ih =>
      rcases step_set s setter with hsame | ⟨own, hset, hstep⟩
      · rw [hsame]
        exact ih
      · intro node hnode
        rw [hstep] at hnode
        rcases mem_nodes.mp hnode with rfl | hchild
        · have hown := ih s.own (mem_nodes.mpr (Or.inl rfl))
          exact (Clauses.sets_of_set_eq_ok hset).wellFormed hown
        · exact ih node (mem_nodes.mpr (Or.inr hchild))
  | @append s child _ _ ih ihChild =>
      rcases append_cases s child with hsame | ⟨-, happend⟩
      · rw [hsame]
        exact ih
      · -- every node is one of the statement or one of the child
        intro node hnode
        rw [happend] at hnode
        rcases mem_nodes.mp hnode with rfl | ⟨c, hc, hnode'⟩
        · exact ih _ (mem_nodes.mpr (Or.inl rfl))
        · rcases List.mem_append.mp hc with hold | hnew
          · exact ih node (mem_nodes.mpr (Or.inr ⟨c, hold, hnode'⟩))
          · rw [List.mem_singleton.mp hnew] at hnode'
            exact ihChild node hnode'

/-- Among the statements appended to a statement no two have one text. -/
theorem Built.nodup_render (built : s.Built) : (s.appended.map render).Nodup := by
  induction built with
  | empty => exact List.nodup_nil
  | @set s setter _ ih =>
      rcases step_set s setter with hsame | ⟨own, -, hstep⟩
      · rw [hsame]
        exact ih
      · rw [hstep]
        exact ih
  | @append s child _ _ ih _ =>
      rcases append_cases s child with hsame | ⟨hfresh, happend⟩
      · rw [hsame]
        exact ih
      · rw [happend, List.map_append, List.map_singleton]
        refine List.nodup_append.mpr ⟨ih, by simp, ?_⟩
        intro text htext other hother heq
        obtain ⟨existing, hmem, rfl⟩ := List.mem_map.mp htext
        rw [List.mem_singleton.mp hother] at heq
        exact hfresh existing hmem heq

/-- **The representation invariant**: whatever calls are made, accepted or
    rejected and in any order, every node of the tree keeps the invariant, the
    one table that an insert or an update is written for is there, and the
    texts of the appended statements differ. -/
theorem representation_of_built (built : s.Built) :
    (∀ node ∈ s.nodes, node.WellFormed ∧
      (node.mode = some .insert ∨ node.mode = some .update → node.table?.isSome = true)) ∧
    (s.appended.map render).Nodup := by
  refine ⟨?_, built.nodup_render⟩
  intro node hnode
  have hwell := built.wellFormed node hnode
  exact ⟨hwell, hwell.table?_isSome⟩

/-- A rejected `FROM` after an insert, and an update appended to it. -/
theorem representation_of_built_insert_from_append :
    let child := empty.steps
      [.set (.update (chars "t") (chars "a") (chars "1")),
       .set (.whereAll .or .isNull [chars "b", chars "c"] [[], []])]
    let s := empty.steps
      [.set (.insert (chars "u") [chars "x"] [chars "id"]),
       .set (.fromTables [chars "v"]), .append child]
    (s.appended.length = 1 ∧ s.own.tables = [chars "u"]) ∧
    (∀ node ∈ s.nodes, node.WellFormed ∧
      (node.mode = some .insert ∨ node.mode = some .update → node.table?.isSome = true)) ∧
    (s.appended.map render).Nodup := by
  refine ⟨by decide +kernel, representation_of_built ?_⟩
  exact .append (.set _ (.set _ .empty)) (.set _ (.set _ .empty))

end Statement

end GuardedSql
