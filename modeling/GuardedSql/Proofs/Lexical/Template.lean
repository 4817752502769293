import GuardedSql.Proofs.Lexical.Shape
import GuardedSql.Proofs.Lexical.Written
import GuardedSql.Proofs.Statement.Invariant

/-! # Templates — every clause is inert, and shows its shape

    The text of a clause is made of literals of the template and of written
    tokens.  Each part of a statement is followed through its template: it is
    inert, and the keywords it shows are those of its shape, since the tokens
    add none. -/

namespace GuardedSql

open Region Token

variable {x y between : Text} {ks ls ms : List Text}

/-! ## Parts that may follow any text -/

/-- An inert text that does not go on with a word begun before it. -/
structure Trailing (t : Text) (shown : List Text) : Prop where
  inert : Inert t shown
  head : ∀ c ∈ t.head?, isWordChar c = false

theorem trailing_iff {t : Text} {shown : List Text} :
    Trailing t shown ↔ Inert t shown ∧ ∀ c ∈ t.head?, isWordChar c = false :=
  ⟨fun h => ⟨h.inert, h.head⟩, fun h => ⟨h.1, h.2⟩⟩

instance (t : Text) (shown : List Text) : Decidable (Trailing t shown) :=
  decidable_of_iff _ trailing_iff.symm

theorem trailing_nil : Trailing [] [] := ⟨inert_nil, nofun⟩

/-- A trailing text may follow any inert text. -/
theorem Inert.append_trailing (hx : Inert x ks) (hy : Trailing y ls) :
    Inert (x ++ y) (ks ++ ls) :=
  hx.append hy.inert (Or.inr hy.head)

/-- What may follow a word may go on with what may. -/
theorem Trailing.append (hx : Trailing x ks) (hy : Trailing y ls) :
    Trailing (x ++ y) (ks ++ ls) := by
  refine ⟨hx.inert.append_trailing hy, ?_⟩
  cases x with
  | nil => exact hy.head
  | cons c x => exact hx.head

/-- A separator makes what follows it trailing. -/
theorem Separator.trailing (hb : Separator between ms) (hy : Inert y ls) :
    Trailing (between ++ y) (ms ++ ls) := by
  obtain ⟨hne, hhead, hlast⟩ := hb.borders
  refine ⟨hb.inert.append hy (Or.inl hlast), ?_⟩
  cases between with
  | nil => exact absurd rfl hne
  | cons c between => exact hhead

/-- It may go on with anything inert behind a separator. -/
theorem Trailing.around (hx : Trailing x ks) (hb : Separator between ms) (hy : Inert y ls) :
    Trailing (x ++ between ++ y) (ks ++ ms ++ ls) := by
  rw [List.append_assoc, List.append_assoc]
  exact hx.append (hb.trailing hy)

/-! ## Conditions -/

/-- The keywords of a comparator stand between the column and the value, but
    for the `AND` of a range. -/
theorem separator_placed : ∀ c ∈ Comparator.all, c.takesValue = true →
    Separator c.placed (if c.role = .range then c.keywords.dropLast else c.keywords) := by
  with_unfolding_all decide

/-- A comparator without a value shows its keywords and may follow a word. -/
theorem trailing_placed : ∀ c ∈ Comparator.all, c.takesValue = false →
    Trailing c.placed c.keywords := by
  with_unfolding_all decide

/-- The keywords of a comparator, the last one of a range set apart. -/
theorem keywords_eq (c : Comparator) :
    (if c.role = .range then c.keywords.dropLast else c.keywords) ++
      (if c.role = .range then [chars "AND"] else []) = c.keywords := by
  cases c <;> rfl

/-- A link shows its keywords and may follow a word. -/
theorem trailing_link (link : Conjunction) : Trailing link.trailing link.keywords := by
  cases link <;> with_unfolding_all decide

/-- A condition shows the keywords of its comparator: the column and the
    value show none. -/
theorem inert_condition {d : Condition} (h : d.Sound) :
    Inert d.render d.comparator.keywords := by
  have hcolumn := inert_column h.column
  have hmem := Comparator.mem_all d.comparator
  rw [Condition.render_eq_placed, Condition.written]
  cases htakes : d.comparator.takesValue with
  | true =>
      have hall := hcolumn.around (separator_placed d.comparator hmem htakes)
        (inert_renderAs (h.value htakes))
      rw [List.nil_append, keywords_eq] at hall
      exact hall
  | false =>
      have hall := hcolumn.append_trailing (trailing_placed d.comparator hmem htakes)
      rw [if_neg Bool.false_ne_true, List.append_nil]
      exact hall

/-- Sound conditions show the keywords of their comparators and links. -/
theorem trailing_conditions {cs : List Condition} (h : ∀ d ∈ cs, d.Sound) :
    Trailing (Condition.renderAll cs)
      (Shape.ofConditions (cs.map fun d => (d.comparator, d.link))) := by
  induction cs with
  | nil => exact trailing_nil
  | cons d rest ih =>
      obtain ⟨hd, hrest⟩ := List.forall_mem_cons.mp h
      have hfirst := separator_space.trailing (inert_condition hd)
      cases rest with
      | nil => exact hfirst
      | cons e rest => exact (hfirst.append (trailing_link d.link)).append (ih hrest)

/-- The conditions of a node show the keywords of its shape. -/
theorem trailing_where {c : Clauses} (h : c.WellFormed) :
    Trailing c.renderWhere (Shape.ofWhere c.shape.conditions) := by
  rw [Clauses.renderWhere, Shape.ofWhere, Clauses.shape, List.isEmpty_map]
  split
  · exact trailing_nil
  · have hword : Trailing (chars " WHERE") [chars "WHERE"] := by with_unfolding_all decide
    exact hword.append (trailing_conditions h.conditions)

/-! ## Assignments and sort keys -/

/-- Sound assignments show no keyword. -/
theorem inert_assignments {pairs : List Assignment} (h : ∀ a ∈ pairs, a.Sound) :
    Inert (Assignment.renderAll pairs) [] := by
  refine Inert.join_nil separator_comma_space ?_
  intro a ha
  have hvalue := separator_equals.trailing (inert_render (h a ha).value)
  exact (inert_column (h a ha).column).append_trailing hvalue

theorem inert_sortKey {key : SortKey} (h : Accepted .name key.column) :
    Inert (key.column ++ ' ' :: key.direction.keyword) [key.direction.keyword] := by
  have hdirection : Inert key.direction.keyword [key.direction.keyword] := by
    cases key.direction <;> with_unfolding_all decide
  exact (inert_column h).append_trailing (separator_space.trailing hdirection)

/-- The order of a node shows the keywords of its shape. -/
theorem trailing_order {c : Clauses} (h : c.WellFormed) :
    Trailing c.renderOrder (Shape.ofOrder c.shape.directions) := by
  have horder : Separator (chars " ORDER BY ") [] := by with_unfolding_all decide
  have hjoin := Inert.join separator_comma_space fun key hkey =>
    inert_sortKey (h.sortKeys key hkey)
  rw [Clauses.renderOrder]
  split
  · rename_i hempty
    have hnone : Shape.ofOrder c.shape.directions = [] := by
      rw [Shape.ofOrder, Clauses.shape, List.isEmpty_iff.mp hempty]
      rfl
    rw [hnone]
    exact trailing_nil
  · have hshown : Shape.ofOrder c.shape.directions =
        c.sortKeys.flatMap fun key => [key.direction.keyword] := by
      rw [Shape.ofOrder, Clauses.shape, List.map_map, List.map_eq_flatMap]
      rfl
    rw [hshown]
    exact horder.trailing hjoin

/-! ## Parts of a `SELECT` -/

/-- The target of a select shows a keyword only between table and database. -/
theorem trailing_into {c : Clauses} (h : c.WellFormed) :
    Trailing c.renderInto
      (if c.shape.hasIntoTable && c.shape.hasIntoDatabase then [chars "IN"] else []) := by
  have hinto : Separator (chars " INTO ") [] := by with_unfolding_all decide
  have hin : Separator (chars " IN ") [chars "IN"] := by with_unfolding_all decide
  rw [Clauses.renderInto, Clauses.shape]
  cases htable : c.options.intoTable with
  | none => exact trailing_nil
  | some table =>
      have hname := inert_name (h.options.table table htable)
      cases hdatabase : c.options.intoDatabase with
      | none =>
          have hall := hinto.trailing hname
          rw [← List.append_nil (chars " INTO " ++ Name.render table)] at hall
          exact hall
      | some database =>
          have hquoted := inert_inQuotes (h.options.database database hdatabase)
          have hall := hinto.trailing (hname.append_trailing (hin.trailing hquoted))
          rw [← List.append_assoc] at hall
          exact hall

theorem trailing_from {c : Clauses} (h : c.WellFormed) :
    Trailing c.renderFrom (if c.shape.hasTables then [chars "FROM"] else []) := by
  have hfrom : Separator (chars " FROM ") [chars "FROM"] := by with_unfolding_all decide
  rw [Clauses.renderFrom, Clauses.shape]
  cases c.tables.isEmpty with
  | true => exact trailing_nil
  | false => exact hfrom.trailing (inert_names h.tables)

/-- The kind of a join shows its keywords but the last, which stands before the
    table. -/
theorem trailing_kind (kind : JoinKind) :
    Trailing (' ' :: kind.keyword) kind.keywords.dropLast := by
  cases kind <;> with_unfolding_all decide

theorem keywords_kind (kind : JoinKind) :
    kind.keywords.dropLast ++ [chars "JOIN"] = kind.keywords := by
  cases kind <;> rfl

/-- A sound join shows the keywords of its kind. -/
theorem trailing_join {j : Join} (h : j.Sound) : Trailing j.render j.kind.keywords := by
  have hword : Separator (chars " JOIN ") [chars "JOIN"] := by with_unfolding_all decide
  have hon : Separator (chars " ON ") [] := by with_unfolding_all decide
  have htable := (trailing_kind j.kind).around hword (inert_name h.table)
  rw [keywords_kind, List.append_nil] at htable
  have hnone : Trailing (' ' :: j.kind.keyword ++ chars " JOIN " ++ Name.render j.table ++ [])
      j.kind.keywords := by
    rw [List.append_nil]
    exact htable
  rw [Join.render]
  cases hpredicate : j.predicate with
  | none => exact hnone
  | some on =>
      cases htakes : j.kind.takesPredicate with
      | false => exact hnone
      | true =>
          have hvalue := separator_equals.trailing (inert_value (h.value on hpredicate))
          have hcolumn := hon.trailing (inert_name (h.column on hpredicate))
          have hall := htable.append (hcolumn.append hvalue)
          rw [List.append_nil [], List.append_nil, List.append_nil] at hall
          exact hall

theorem trailing_joins {joins : List Join} (h : ∀ j ∈ joins, j.Sound) :
    Trailing (joins.flatMap Join.render) ((joins.map Join.kind).flatMap JoinKind.keywords) := by
  induction joins with
  | nil => exact trailing_nil
  | cons j joins ih =>
      obtain ⟨hj, hjoins⟩ := List.forall_mem_cons.mp h
      exact (trailing_join hj).append (ih hjoins)

theorem trailing_limit (c : Clauses) : Trailing c.renderLimit [] := by
  have hlimit : Separator (chars " LIMIT ") [] := by with_unfolding_all decide
  rw [Clauses.renderLimit]
  cases c.limit with
  | none => exact trailing_nil
  | some count =>
      exact hlimit.trailing (inert_of_integerChars fun _ => Literal.isIntegerChar_of_mem_ofNat)

/-! ## Whole statements -/

theorem trailing_duplicateKey {c : Clauses} (h : c.WellFormed) :
    Trailing c.renderDuplicateKey [] := by
  have hword : Separator (chars " ON DUPLICATE KEY UPDATE ") [] := by with_unfolding_all decide
  rw [Clauses.renderDuplicateKey]
  split
  · exact trailing_nil
  · exact hword.trailing (inert_assignments h.duplicateKey)

/-- A `SELECT` up to its semicolon. -/
theorem exists_body_select {c : Clauses} (h : c.WellFormed) (hmode : c.mode = some .select) :
    ∃ body, c.render = body ++ [';'] ∧ Inert body c.shape.keywords := by
  have hopening : Inert (chars "SELECT " ++ if c.options.distinct then chars "DISTINCT " else [])
      [chars "SELECT"] := by
    cases c.options.distinct <;> with_unfolding_all decide
  have hgap : ∀ d ∈ (chars "SELECT " ++
      if c.options.distinct then chars "DISTINCT " else []).getLast?, isWordChar d = false := by
    cases c.options.distinct <;> with_unfolding_all decide
  -- from left to right, part by part
  have hcolumns := hopening.append (inert_names h.columns) (Or.inl hgap)
  have hinto := hcolumns.append_trailing (trailing_into h)
  have hfrom := hinto.append_trailing (trailing_from h)
  have hjoins := hfrom.append_trailing (trailing_joins h.joins)
  have hwhere := hjoins.append_trailing (trailing_where h)
  have horder := hwhere.append_trailing (trailing_order h)
  have hlimit := horder.append_trailing (trailing_limit c)
  have hkeywords : c.shape.keywords =
      chars "SELECT" ::
        (if c.shape.hasIntoTable && c.shape.hasIntoDatabase then [chars "IN"] else []) ++
        (if c.shape.hasTables then [chars "FROM"] else []) ++
        c.shape.joins.flatMap JoinKind.keywords ++ Shape.ofWhere c.shape.conditions ++
        Shape.ofOrder c.shape.directions := by
    rw [Shape.keywords, show c.shape.mode = some .select from hmode]
  -- columns and limit show nothing
  rw [List.append_nil, List.append_nil] at hlimit
  refine ⟨_, ?_, hkeywords ▸ hlimit⟩
  rw [Clauses.render, hmode]
  rfl

/-- An `INSERT` up to its semicolon. -/
theorem exists_body_insert {c : Clauses} (h : c.WellFormed) (hmode : c.mode = some .insert) :
    ∃ body, c.render = body ++ [';'] ∧ Inert body c.shape.keywords := by
  obtain ⟨table, htable, haccepted⟩ := h.exists_table (Or.inl hmode)
  have hinto : Inert (chars "INSERT INTO ") [] := by with_unfolding_all decide
  have hvalues : Separator (chars ") VALUES (") [] := by with_unfolding_all decide
  have hopen : Separator ['('] [] := by with_unfolding_all decide
  have hclose : Trailing [')'] [] := by with_unfolding_all decide
  have hliterals : Inert (Text.join "," (c.insertValues.map Literal.render)) [] :=
    Inert.join_nil separator_comma fun v hv => inert_render (h.insertValues v hv)
  -- the table, the row of columns and values, the rest
  have hname := hinto.append (inert_name haccepted) (Or.inl (by with_unfolding_all decide))
  have hcolumns := hopen.trailing (inert_names h.insertColumns)
  have hrow := hcolumns.around hvalues hliterals
  have htail := hclose.append (trailing_duplicateKey h)
  have hall := (hname.append_trailing hrow).append_trailing htail
  have hkeywords : c.shape.keywords = [] := by
    rw [Shape.keywords, Clauses.shape, hmode]
  refine ⟨_, ?_, hkeywords.symm ▸ (show Inert _ [] from hall)⟩
  rw [Clauses.render, hmode]
  show c.renderInsert = _
  rw [Clauses.renderInsert, htable]
  simp only [List.append_assoc, List.cons_append, List.nil_append]

/-- An `UPDATE` up to its semicolon. -/
theorem exists_body_update {c : Clauses} (h : c.WellFormed) (hmode : c.mode = some .update) :
    ∃ body, c.render = body ++ [';'] ∧ Inert body c.shape.keywords := by
  obtain ⟨table, htable, haccepted⟩ := h.exists_table (Or.inr hmode)
  have hupdate : Inert (chars "UPDATE ") [] := by with_unfolding_all decide
  have hset : Separator (chars " SET ") [] := by with_unfolding_all decide
  have hname := hupdate.append (inert_name haccepted) (Or.inl (by with_unfolding_all decide))
  have hassigned := hname.around hset (inert_assignments h.assignments)
  have hwhere := hassigned.append_trailing (trailing_where h)
  have horder := hwhere.append_trailing (trailing_order h)
  have hkeywords : c.shape.keywords =
      Shape.ofWhere c.shape.conditions ++ Shape.ofOrder c.shape.directions := by
    rw [Shape.keywords, show c.shape.mode = some .update from hmode]
  refine ⟨_, ?_, hkeywords ▸ horder⟩
  rw [Clauses.render, hmode]
  show c.renderUpdate = _
  rw [Clauses.renderUpdate, htable]

/-- **One statement**: a node with a mode is written as an inert text and a
    semicolon, and shows its shape. -/
theorem exists_body {c : Clauses} (h : c.WellFormed) (hmode : c.mode ≠ none) :
    ∃ body, c.render = body ++ [';'] ∧ Inert body c.shape.keywords := by
  cases hm : c.mode with
  | none => exact absurd hm hmode
  | some mode =>
      cases mode with
      | select => exact exists_body_select h hm
      | insert => exact exists_body_insert h hm
      | update => exact exists_body_update h hm

end GuardedSql
