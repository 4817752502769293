import GuardedSql.Proofs.Reading.Join
import GuardedSql.Proofs.Reading.Limit
import GuardedSql.Proofs.Reading.Write

/-! # Reading selects — the text of a select tells what it asks for

    A select is read in two directions.  Its limit is read from the end, and
    what stands before the limit part by part from the front: every part can
    be read back when the part after it begins with a mark that the part
    cannot hold.  What is read back is a `Query`, in which names count by
    their parts, ranges by their bounds and lists by their items.

    One select escapes: if the last part is a join and its value ends like a
    limit, the same text is that of a join with a shorter value and a limit
    after it. -/

namespace GuardedSql

open Token

/-- What a select asks for. -/
structure Query where
  distinct : Bool
  columns : List (List Text)
  intoTable : Option (List Text)
  intoDatabase : Option Text
  tables : List (List Text)
  joins : List Join.Content
  conditions : List Condition.Content
  sortKeys : List SortKey
  limit : Option Nat
  deriving DecidableEq

/-! ## Names at the beginning -/

namespace Name

theorem head?_render_append (name r : Text) : (render name ++ r).head? = some tick := by
  obtain ⟨part, rest, hparts⟩ := List.exists_cons_of_ne_nil (parts_ne_nil name)
  rw [render_eq_join, hparts, List.map_cons, Text.join_cons_append]
  rfl

theorem head?_renderAll_append {names : List Text} (hne : names ≠ []) (r : Text) :
    (renderAll names ++ r).head? = some tick := by
  obtain ⟨name, rest, rfl⟩ := List.exists_cons_of_ne_nil hne
  rw [renderAll, List.map_cons, Text.join_cons_append]
  exact head?_render_append name _

end Name

/-- `DISTINCT` is told from a name. -/
theorem eq_of_distinct_append_eq {x y : Text} {i j : Bool} (hx : x.head? = some Name.tick)
    (hy : y.head? = some Name.tick)
    (h : (if i then chars "DISTINCT " else []) ++ x = (if j then chars "DISTINCT " else []) ++ y) :
    i = j ∧ x = y := by
  have hdistinct : (chars "DISTINCT ").head? = some 'D' := by with_unfolding_all decide
  have hnot : ∀ {x : Text}, x.head? = some Name.tick → ∀ y, x ≠ chars "DISTINCT " ++ y := by
    rintro x hx y rfl
    rw [List.head?_append, hdistinct] at hx
    exact absurd (Option.some.inj hx) (by decide)
  cases i with
  | true =>
      cases j with
      | true => exact ⟨rfl, List.append_cancel_left h⟩
      | false => exact absurd h.symm (hnot hy x)
  | false =>
      cases j with
      | true => exact absurd h (hnot hx y)
      | false => exact ⟨rfl, h⟩

/-- There is a database only with a table. -/
theorem SelectOptions.Sound.intoDatabase_eq_none {options : SelectOptions} (h : options.Sound)
    (hnone : options.intoTable = none) : options.intoDatabase = none := by
  cases hdatabase : options.intoDatabase with
  | none => rfl
  | some database =>
      have htable := h.table_isSome (by rw [hdatabase]; rfl)
      rw [hnone] at htable
      exact Bool.noConfusion htable

namespace Clauses

/-- The query of a node that is a select. -/
def query (c : Clauses) : Query where
  distinct := c.options.distinct
  columns := c.columns.map Name.parts
  intoTable := c.options.intoTable.map Name.parts
  intoDatabase := c.options.intoDatabase
  tables := c.tables.map Name.parts
  joins := c.joins.map Join.content
  conditions := c.conditions.map Condition.content
  sortKeys := c.sortKeys
  limit := c.limit

/-- The last part is a join whose value ends like a limit. -/
structure EndsLikeLimit (c : Clauses) : Prop where
  conditions : c.conditions = []
  sortKeys : c.sortKeys = []
  limit : c.limit = none
  value : ∃ j ∈ c.joins.getLast?, ∃ on ∈ j.predicate, EndsInLimit on.value

variable {c d : Clauses} {r r' : Text}

/-! ## What comes before the limit -/

/-- A select up to its limit. -/
def selectBody (c : Clauses) : Text :=
  chars "SELECT " ++ (if c.options.distinct then chars "DISTINCT " else []) ++
    Name.renderAll c.columns ++ c.renderInto ++ c.renderFrom ++
    c.joins.flatMap Join.render ++ c.renderWhere ++ c.renderOrder

theorem renderSelect_eq (c : Clauses) :
    c.renderSelect = c.selectBody ++ c.renderLimit ++ [';'] := rfl

/-- A join does not end like a limit, unless the value of its predicate
    does. -/
theorem noLimit_join {j : Join} (h : j.Sound)
    (hvalue : ∀ on ∈ j.predicate, ¬ EndsInLimit on.value) : NoLimit j.render := by
  rw [Join.render_eq j h]
  refine NoLimit.append ?_ _
  cases hpredicate : j.predicate with
  | none => exact (noLimit_name j.table).append_optional (Or.inl rfl)
  | some on => exact ((noLimit_value (hvalue on hpredicate)).append _).append _

/-- Of several joins only the last one matters. -/
theorem noLimit_joins {joins : List Join} (h : ∀ j ∈ joins, j.Sound)
    (hvalue : ∀ j ∈ joins.getLast?, ∀ on ∈ j.predicate, ¬ EndsInLimit on.value) :
    joins.flatMap Join.render = [] ∨ NoLimit (joins.flatMap Join.render) := by
  rcases List.eq_nil_or_concat joins with rfl | ⟨front, j, rfl⟩
  · exact Or.inl rfl
  · rw [List.concat_eq_append] at h hvalue ⊢
    have hlast := noLimit_join (h j (by simp)) (hvalue j (by simp))
    rw [List.flatMap_append, List.flatMap_singleton]
    exact Or.inr (hlast.append _)

/-- A select without a limit does not end like one, that of `EndsLikeLimit`
    apart. -/
theorem WellFormed.not_endsInLimit_selectBody (hc : c.WellFormed)
    (hmode : c.mode = some .select) (hnot : ¬ c.EndsLikeLimit) (hlimit : c.limit = none) :
    ¬ EndsInLimit c.selectBody := by
  have hcolumns := noLimit_names (hc.select_iff.mp hmode)
  have hfrom := ((hcolumns.append
    (chars "SELECT " ++ if c.options.distinct then chars "DISTINCT " else [])).append_optional
      c.noLimit_into).append_optional c.noLimit_from
  have hbody : NoLimit c.selectBody := by
    rw [selectBody]
    rcases c.noLimit_order with ⟨hkeys, horder⟩ | horder
    · rw [horder, List.append_nil]
      rcases noLimit_where hc with ⟨hconditions, hwhere⟩ | hwhere
      · -- the last part is a join, or stands before the joins
        rw [hwhere, List.append_nil]
        refine hfrom.append_optional (noLimit_joins hc.joins ?_)
        intro j hj on hon hends
        exact hnot ⟨hconditions, hkeys, hlimit, j, hj, on, hon, hends⟩
      · exact hwhere.append _
    · exact horder.append _
  exact hbody []

/-! ## Parts from the front -/

/-- What may follow the `INTO` part. -/
def fromEnds : List Text := chars " FROM " :: joinEnds

/-- What may follow the columns. -/
def intoEnds : List Text := chars " INTO " :: fromEnds

/-- The database after the table of the `INTO` part. -/
def writeDatabase : Option Text → Text := writeOption (chars " IN ") Text.inQuotes

/-- A table and perhaps the database that holds it. -/
def writeTarget (target : Text × Option Text) : Text :=
  Name.render target.1 ++ writeDatabase target.2

/-- The table and the database of the `INTO` part. -/
def target? (c : Clauses) : Option (Text × Option Text) :=
  c.options.intoTable.map fun table => (table, c.options.intoDatabase)

/-- The target of a select is an option, written in two steps. -/
theorem renderInto_eq (c : Clauses) :
    c.renderInto = writeOption (chars " INTO ") writeTarget c.target? := by
  rw [renderInto, target?]
  cases c.options.intoTable with
  | none => rfl
  | some table => cases c.options.intoDatabase <;> exact List.append_assoc ..

/-- A database is read back, and so is that there is none. -/
theorem readable_database :
    Readable writeDatabase (fun o => ∀ database ∈ o, '\'' ∉ database) (Begins fromEnds)
      (Option.map id) := by
  have hquoted : Readable Text.inQuotes (fun t => '\'' ∉ t) (fun _ => True) id :=
    fun _ _ hx hy _ _ _ _ h => eq_of_enclosed_append_eq hx hy h
  refine hquoted.option _ (fun _ _ => trivial) ?_
  exact fun r hr => Begins.excludes hr (by with_unfolding_all decide)

/-- No dot follows the table of the `INTO` part. -/
theorem not_dot_prefix_writeDatabase (o : Option Text) (hr : Begins fromEnds r) :
    ¬ chars "." <+: writeDatabase o ++ r := by
  cases o with
  | none => exact hr.excludes (by with_unfolding_all decide)
  | some database =>
      have hin : Begins [chars " IN "] (chars " IN ") := by with_unfolding_all decide
      exact ((hin.append _).append r).excludes (by with_unfolding_all decide)

/-- A target is read back with its database. -/
theorem readable_target :
    Readable writeTarget
      (fun target => Accepted .name target.1 ∧ ∀ database ∈ target.2, '\'' ∉ database)
      (Begins fromEnds) fun target => (Name.parts target.1, target.2) := by
  rintro ⟨table, o⟩ ⟨table', o'⟩ ⟨htable, ho⟩ ⟨htable', ho'⟩ r r' hr hr' h
  simp only [writeTarget, List.append_assoc] at h
  obtain ⟨hparts, hrest⟩ := Name.readable_parts htable htable'
    (not_dot_prefix_writeDatabase o hr) (not_dot_prefix_writeDatabase o' hr') h
  obtain ⟨hdatabase, hrest⟩ := readable_database ho ho' hr hr' hrest
  rw [Option.map_id] at hdatabase
  exact ⟨Prod.ext hparts hdatabase, hrest⟩

/-- **The `INTO` part** is read back. -/
theorem readable_into :
    Readable renderInto (fun c => c.options.Sound) (Begins fromEnds)
      fun c => (c.options.intoTable.map Name.parts, c.options.intoDatabase) := by
  have hpart : Readable (writeOption (chars " INTO ") writeTarget) _ (Begins fromEnds) _ :=
    readable_target.option _ (fun _ hr => hr) fun r hr =>
      Begins.excludes hr (by with_unfolding_all decide)
  have hok : ∀ {c : Clauses}, c.options.Sound → ∀ target ∈ c.target?,
      Accepted .name target.1 ∧ ∀ database ∈ target.2, '\'' ∉ database := by
    intro c hc target htarget
    obtain ⟨table, htable, rfl⟩ := Option.map_eq_some_iff.mp htarget
    exact ⟨hc.table table htable, fun database hin => (hc.database database hin).quote_not_mem⟩
  intro c d hc hd r r' hr hr' h
  rw [renderInto_eq, renderInto_eq] at h
  obtain ⟨hkey, hrest⟩ := hpart (hok hc) (hok hd) hr hr' h
  refine ⟨?_, hrest⟩
  rw [target?, target?] at hkey
  dsimp only
  cases hct : c.options.intoTable with
  | none =>
      cases hdt : d.options.intoTable with
      | none => rw [hc.intoDatabase_eq_none hct, hd.intoDatabase_eq_none hdt]
      | some table =>
          rw [hct, hdt] at hkey
          exact nomatch hkey
  | some table =>
      cases hdt : d.options.intoTable with
      | none =>
          rw [hct, hdt] at hkey
          exact nomatch hkey
      | some table' =>
          rw [hct, hdt] at hkey
          obtain ⟨hparts, hdatabase⟩ := Prod.mk.inj (Option.some.inj hkey)
          have hparts' : Name.parts table = Name.parts table' := hparts
          have hdatabase' : c.options.intoDatabase = d.options.intoDatabase := hdatabase
          rw [Option.map_some, Option.map_some, hparts', hdatabase']

/-- The columns of a select are read back by their parts. -/
theorem readable_columns :
    Readable Name.renderAll (fun names => names ≠ [] ∧ ∀ name ∈ names, Accepted .name name)
      (Begins intoEnds) (List.map Name.parts) :=
  Name.readable_partsAll.weaken fun _ hr =>
    ⟨hr.excludes (by with_unfolding_all decide), hr.excludes (by with_unfolding_all decide)⟩

/-- **The `FROM` part** is read back. -/
theorem readable_from :
    Readable (fun names : List Text => if names.isEmpty then []
        else chars " FROM " ++ Name.renderAll names)
      (fun names => ∀ name ∈ names, Accepted .name name) (Begins joinEnds) (List.map Name.parts) :=
  (readable_columns.weaken fun _ (hr : Begins joinEnds _) =>
    hr.trans (by with_unfolding_all decide)).optional _ fun _ hr =>
      hr.excludes (by with_unfolding_all decide)

/-! ## What each part is followed by -/

/-- What comes after the joins begins with a mark that ends them. -/
theorem begins_whereEnds (c : Clauses) :
    Begins whereEnds (c.renderWhere ++ (c.renderOrder ++ [';'])) := by
  rw [renderWhere]
  split
  · exact c.begins_order.trans (by with_unfolding_all decide)
  · rename_i hne
    have hword : Begins whereEnds (chars " WHERE" ++ [' ']) := by with_unfolding_all decide
    obtain ⟨d, rest, hconditions⟩ :=
      List.exists_cons_of_ne_nil fun hnil => hne (List.isEmpty_iff.mpr hnil)
    rw [List.append_assoc, hconditions, Condition.renderAll_cons_append, ← List.singleton_append,
      ← List.append_assoc]
    exact hword.append _

/-- What comes after the tables begins with a mark that ends them. -/
theorem WellFormed.begins_joinEnds (h : c.WellFormed) :
    Begins joinEnds
      (c.joins.flatMap Join.render ++ (c.renderWhere ++ (c.renderOrder ++ [';']))) := by
  have hjoins := h.joins
  cases hcj : c.joins with
  | nil => exact c.begins_whereEnds.trans (by with_unfolding_all decide)
  | cons j joins =>
      rw [hcj] at hjoins
      have hmark : j.kind.mark ∈ joinEnds :=
        List.mem_append_left _ (List.mem_map_of_mem (JoinKind.mem_all j.kind))
      have hjoin := Join.mark_prefix_render (hjoins j (List.mem_cons_self ..))
      rw [List.flatMap_cons, List.append_assoc]
      exact ⟨_, hmark, hjoin.trans (List.prefix_append _ _)⟩

/-- What comes after the target begins with a mark that ends it. -/
theorem begins_fromEnds (hr : Begins joinEnds r) : Begins fromEnds (c.renderFrom ++ r) := by
  rw [renderFrom]
  split
  · exact hr.trans (by with_unfolding_all decide)
  · rw [List.append_assoc]
    exact ⟨_, List.mem_cons_self .., List.prefix_append _ _⟩

/-- What comes after the columns begins with a mark that ends them. -/
theorem begins_intoEnds (hr : Begins fromEnds r) : Begins intoEnds (c.renderInto ++ r) := by
  rw [renderInto_eq]
  cases c.target? with
  | none => exact hr.trans (by with_unfolding_all decide)
  | some target =>
      rw [writeOption, List.append_assoc]
      exact ⟨_, List.mem_cons_self .., List.prefix_append _ _⟩

/-! ## Whole selects -/

/-- **Selects** of one text are one query, unless one of them ends like a
    limit. -/
theorem WellFormed.query_eq (hc : c.WellFormed) (hd : d.WellFormed)
    (hcm : c.mode = some .select) (hdm : d.mode = some .select) (hcl : ¬ c.EndsLikeLimit)
    (hdl : ¬ d.EndsLikeLimit) (h : c.render = d.render) : c.query = d.query := by
  rw [render, render, hcm, hdm] at h
  have htext : c.renderSelect = d.renderSelect := h
  rw [renderSelect_eq, renderSelect_eq] at htext
  -- the limit is read from the end
  obtain ⟨hbody, hlimit⟩ := eq_of_append_renderLimit_eq hc.limit_pos hd.limit_pos
    (hc.not_endsInLimit_selectBody hcm hcl) (hd.not_endsInLimit_selectBody hdm hdl)
    (List.append_cancel_right htext)
  have hfront : c.selectBody ++ [';'] = d.selectBody ++ [';'] := by rw [hbody]
  simp only [selectBody, List.append_assoc] at hfront
  -- and the other parts in the order of the template, each up to the mark after it
  have hcj := hc.begins_joinEnds
  have hdj := hd.begins_joinEnds
  have hend : Begins [chars ";"] [';'] := by with_unfolding_all decide
  obtain ⟨hdistinct, hrest⟩ := eq_of_distinct_append_eq
    (Name.head?_renderAll_append (hc.select_iff.mp hcm) _)
    (Name.head?_renderAll_append (hd.select_iff.mp hdm) _) (List.append_cancel_left hfront)
  obtain ⟨hcolumns, hrest⟩ := readable_columns
    ⟨hc.select_iff.mp hcm, hc.columns⟩ ⟨hd.select_iff.mp hdm, hd.columns⟩
    (begins_intoEnds (begins_fromEnds hcj)) (begins_intoEnds (begins_fromEnds hdj)) hrest
  obtain ⟨hinto, hrest⟩ := readable_into hc.options hd.options (begins_fromEnds hcj)
    (begins_fromEnds hdj) hrest
  obtain ⟨htables, hrest⟩ := readable_from hc.tables hd.tables hcj hdj hrest
  obtain ⟨hjoins, hrest⟩ := Join.readable_renderAll hc.joins hd.joins c.begins_whereEnds
    d.begins_whereEnds hrest
  obtain ⟨hconditions, hrest⟩ := readable_where ⟨hc.linked, hc.conditions⟩
    ⟨hd.linked, hd.conditions⟩ c.begins_order d.begins_order hrest
  obtain ⟨hsortKeys, -⟩ := readable_order hc.sortKeys hd.sortKeys hend hend hrest
  obtain ⟨htable, hdatabase⟩ := Prod.mk.inj hinto
  rw [query, query, hdistinct, hcolumns, htable, hdatabase, htables, hjoins, hconditions, hlimit,
    show c.sortKeys = d.sortKeys from hsortKeys]

end Clauses

/-! ## Statements -/

namespace Statement

variable {s t : Statement}

/-- **Queries are told by their texts**: two selects without appended
    statements that have one text ask for the same, unless the last part of
    one is a join whose value ends like a limit. -/
theorem query_of_built (builtS : s.Built) (builtT : t.Built) (childlessS : s.appended = [])
    (childlessT : t.appended = []) (hmode : s.mode = some .select)
    (hs : ¬ s.own.EndsLikeLimit) (ht : ¬ t.own.EndsLikeLimit) (h : s.render = t.render) :
    t.mode = some .select ∧ s.own.query = t.own.query := by
  have hwellS : s.own.WellFormed := builtS.wellFormed _ (mem_nodes.mpr (Or.inl rfl))
  have hwellT : t.own.WellFormed := builtT.wellFormed _ (mem_nodes.mpr (Or.inl rfl))
  rw [render_of_childless childlessS, render_of_childless childlessT] at h
  have hmodeT : t.mode = some .select := (hwellS.mode_eq_of_render_eq hwellT h).symm.trans hmode
  exact ⟨hmodeT, hwellS.query_eq hwellT hmode hmodeT hs ht h⟩

/-- Two selects that differ in delimiters and in blanks around the bounds of a
    range have one text; the value of a join looks like a limit, but a
    condition follows. -/
theorem query_of_built_other_spelling :
    let s := empty.steps
      [.set (.selectWith [chars "id", chars "t.x"] ⟨true, some (chars "v"), some (chars "d b")⟩),
       .set (.fromTables [chars "t"]),
       .set (.join .left (chars "u") (chars "a") (chars "b LIMIT 5")),
       .set (.whereOne .between (chars "c LIMIT 3") (chars "1 AND 2")), .set (.limit 7)]
    let t := empty.steps
      [.set (.limit 7), .set (.whereOne .between (chars "c LIMIT 3") (chars "1  and 2 ")),
       .set (.join .left (chars "`u`") (chars "a") (chars "b LIMIT 5")),
       .set (.fromTables [chars "t"]),
       .set (.selectWith [chars "`id`", chars "t.`x`"]
         ⟨true, some (chars "`v`"), some (chars "d b")⟩)]
    (s.mode = some .select ∧ s.render = t.render ∧ s.own ≠ t.own) ∧
    t.mode = some .select ∧ s.own.query = t.own.query := by
  intro s t
  have builtS : s.Built := .set _ (.set _ (.set _ (.set _ (.set _ .empty))))
  have builtT : t.Built := .set _ (.set _ (.set _ (.set _ (.set _ .empty))))
  have hrun : (s.appended.isEmpty = true ∧ t.appended.isEmpty = true) ∧
      (s.own.conditions ≠ [] ∧ t.own.conditions ≠ []) ∧
      s.mode = some .select ∧ s.render = t.render ∧ s.own ≠ t.own := by decide +kernel
  obtain ⟨⟨childlessS, childlessT⟩, ⟨hs, ht⟩, hmode, htext, hne⟩ := hrun
  refine ⟨⟨hmode, htext, hne⟩, ?_⟩
  exact query_of_built builtS builtT (List.isEmpty_iff.mp childlessS)
    (List.isEmpty_iff.mp childlessT) hmode (fun hends => hs hends.conditions)
    (fun hends => ht hends.conditions) htext

/-- A limit in the value of a join: one text, two queries. -/
theorem query_ne_of_join_value :
    let base := [.set (.select [chars "id"]), .set (.fromTables [chars "t"])]
    let s := empty.steps
      (base ++ [.set (.join .inner (chars "u") (chars "a") (chars "b LIMIT 5"))])
    let t := empty.steps
      (base ++ [.set (.join .inner (chars "u") (chars "a") (chars "b")), .set (.limit 5)])
    (s.Built ∧ s.mode = some .select ∧ s.appended = []) ∧
    (t.Built ∧ t.mode = some .select ∧ t.appended = []) ∧
    s.render = chars "SELECT `id` FROM `t` INNER JOIN `u` ON `a`=b LIMIT 5;" ∧
    t.render = s.render ∧ s.own.query.joins ≠ t.own.query.joins ∧
    s.own.query.limit = none ∧ t.own.query.limit = some 5 := by
  intro base s t
  have builtS : s.Built := .set _ (.set _ (.set _ .empty))
  have builtT : t.Built := .set _ (.set _ (.set _ (.set _ .empty)))
  have hrun : (s.appended.isEmpty = true ∧ t.appended.isEmpty = true) ∧
      (s.mode = some .select ∧ t.mode = some .select) ∧
      s.render = chars "SELECT `id` FROM `t` INNER JOIN `u` ON `a`=b LIMIT 5;" ∧
      t.render = s.render ∧ s.own.query.joins ≠ t.own.query.joins ∧
      s.own.query.limit = none ∧ t.own.query.limit = some 5 := by decide +kernel
  obtain ⟨⟨childlessS, childlessT⟩, ⟨hmodeS, hmodeT⟩, hqueries⟩ := hrun
  exact ⟨⟨builtS, hmodeS, List.isEmpty_iff.mp childlessS⟩,
    ⟨builtT, hmodeT, List.isEmpty_iff.mp childlessT⟩, hqueries⟩

end Statement

end GuardedSql
