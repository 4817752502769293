import GuardedSql.Proofs.Lexical.Region
import GuardedSql.Proofs.Statement.Flat
import GuardedSql.Proofs.Statement.Checked

/-! # Layout — a text as template and tokens

    The text of a statement is laid out of fixed pieces of its template and of
    tokens, each token in the form that its place asks for and after a piece
    of the template.  `Clauses.tokens` lists the tokens of a node in the order
    of its text.  Nothing here asks whether a token was accepted: what holds
    of the template and of every token by itself carries over to the text by
    induction on `Laid`. -/

namespace GuardedSql

open Region

/-- A token and the form in which it is written. -/
inductive Written where
  /-- Between backticks, part by part. -/
  | name (t : Text)
  /-- As it is, where a column is asked for. -/
  | column (t : Text)
  /-- Bare if it is an integer, else between single quotes. -/
  | literal (t : Text)
  /-- As it is, where the value of a join is asked for. -/
  | verbatim (t : Text)
  /-- Between single quotes. -/
  | database (t : Text)
  deriving DecidableEq, Repr

/-- The written form of a token. -/
def Written.text : Written → Text
  | .name t => Name.render t
  | .column t | .verbatim t => t
  | .literal t => Literal.render t
  | .database t => t.inQuotes

/-! ## The tokens of a statement -/

def Assignment.tokens (a : Assignment) : List Written := [.column a.column, .literal a.value]

/-- A range is written as two literals, and a list as one for each item. -/
def Literal.tokensAs (role : Token.Role) (value : Text) : List Written :=
  match role with
  | .range =>
      match bounds? value with
      | some (low, high) => [.literal low, .literal high]
      | none => [.literal value]
  | .list => (items value).map .literal
  | .name | .value => [.literal value]

def Condition.tokens (d : Condition) : List Written :=
  .column d.column ::
    if d.comparator.takesValue then Literal.tokensAs d.comparator.role d.value else []

def Join.tokens (j : Join) : List Written :=
  .name j.table ::
    match j.predicate with
    | some on =>
        if j.kind.takesPredicate then [.name on.column, .verbatim on.value] else []
    | none => []

def SelectOptions.tokens (options : SelectOptions) : List Written :=
  match options.intoTable with
  | none => []
  | some table =>
      .name table ::
        match options.intoDatabase with
        | none => []
        | some database => [.database database]

/-- The tokens that are written for a node, in the order of its text. -/
def Clauses.tokens (c : Clauses) : List Written :=
  match c.mode with
  | some .select =>
      c.columns.map .name ++ c.options.tokens ++ c.tables.map .name ++
        c.joins.flatMap Join.tokens ++ c.conditions.flatMap Condition.tokens ++
        c.sortKeys.map fun key => .column key.column
  | some .insert =>
      c.tables.map .name ++ c.insertColumns.map .name ++ c.insertValues.map .literal ++
        c.duplicateKey.flatMap Assignment.tokens
  | some .update =>
      c.tables.map .name ++ c.assignments.flatMap Assignment.tokens ++
        c.conditions.flatMap Condition.tokens ++ c.sortKeys.map fun key => .column key.column
  | none => []

/-! ## Laid texts -/

/-- The character opens no region and is part of no comment mark. -/
def IsQuiet (c : Char) : Prop := opened c = .outside ∧ c ≠ '-' ∧ c ≠ '#' ∧ c ≠ '*'

instance (c : Char) : Decidable (IsQuiet c) := inferInstanceAs (Decidable (_ ∧ _ ∧ _ ∧ _))

/-- A piece of the template that may stand between two tokens. -/
structure Gap (f : Text) : Prop where
  ne_nil : f ≠ []
  quiet : ∀ c ∈ f, IsQuiet c

instance (f : Text) : Decidable (Gap f) :=
  decidable_of_iff (f ≠ [] ∧ ∀ c ∈ f, IsQuiet c) ⟨fun h => ⟨h.1, h.2⟩, fun h => ⟨h.1, h.2⟩⟩

/-- The text is laid out of pieces of the template and of the tokens, each
    after such a piece. -/
inductive Laid : Text → List Written → Prop
  | nil : Laid [] []
  | fixed {f t : Text} {ws : List Written} (quiet : ∀ c ∈ f, IsQuiet c) (rest : Laid t ws) :
      Laid (f ++ t) ws
  | token {f t : Text} {ws : List Written} (gap : Gap f) (w : Written) (rest : Laid t ws) :
      Laid (f ++ (w.text ++ t)) (w :: ws)

variable {x y f : Text} {us vs : List Written}

theorem laid_fixed (h : ∀ c ∈ f, IsQuiet c) : Laid f [] := by
  have hlaid := Laid.fixed h .nil
  rw [List.append_nil] at hlaid
  exact hlaid

/-- What is laid out may go on with what is laid out. -/
theorem Laid.append (hx : Laid x us) (hy : Laid y vs) : Laid (x ++ y) (us ++ vs) := by
  induction hx with
  | nil => exact hy
  | fixed quiet _ ih =>
      rw [List.append_assoc]
      exact .fixed quiet ih
  | token gap w _ ih =>
      rw [List.append_assoc, List.append_assoc]
      exact .token gap w ih

/-- Where there is a token there is text. -/
theorem Laid.eq_nil (h : Laid x us) (hx : x = []) : us = [] := by
  induction h with
  | nil => rfl
  | fixed _ _ ih => exact ih (List.append_eq_nil_iff.mp hx).2
  | token gap _ _ _ => exact absurd (List.append_eq_nil_iff.mp hx).1 gap.ne_nil

/-- A part that is left out if a list is empty, and has no tokens then. -/
theorem Laid.optional {α : Type} {xs : List α} (hempty : xs = [] → us = []) (h : Laid x us) :
    Laid (if xs.isEmpty then [] else x) us := by
  split
  · rename_i hxs
    rw [hempty (List.isEmpty_iff.mp hxs)]
    exact .nil
  · exact h

/-- The text may follow any piece of the template, as it begins with one or
    with a token. -/
def Follows (t : Text) (ws : List Written) : Prop := ∀ f, Gap f → Laid (f ++ t) ws

/-- A token may follow a piece of the template. -/
theorem follows_token (w : Written) : Follows w.text [w] := by
  intro f hf
  have hlaid := Laid.token hf w .nil
  rw [List.append_nil] at hlaid
  exact hlaid

theorem Laid.follows (h : Laid x us) : Follows x us := fun _ hf => .fixed hf.quiet h

theorem Follows.append (hx : Follows x us) (hy : Laid y vs) : Follows (x ++ y) (us ++ vs) := by
  intro f hf
  rw [← List.append_assoc]
  exact (hx f hf).append hy

/-- Two texts that may follow such a piece may have one between them. -/
theorem Follows.around (hx : Follows x us) (hf : Gap f) (hy : Follows y vs) :
    Follows (x ++ f ++ y) (us ++ vs) := by
  rw [List.append_assoc]
  exact hx.append (hy f hf)

/-- A join is laid out by its texts, if its separator is such a piece. -/
theorem Follows.join {α : Type} {between : String} {write : α → Text}
    {tokens : α → List Written} (hb : Gap (chars between))
    (h : ∀ x, Follows (write x) (tokens x)) (xs : List α) :
    Follows (Text.join between (xs.map write)) (xs.flatMap tokens) := by
  induction xs with
  | nil => exact Laid.nil.follows
  | cons x xs ih =>
      rw [List.flatMap_cons, List.map_cons]
      by_cases hne : xs = []
      · simpa [hne] using h x
      · rw [Text.join_cons_of_ne_nil (by simpa using hne)]
        exact (h x).around hb ih

/-- A join of tokens. -/
theorem Follows.join_token {between : String} (form : Text → Written)
    (hb : Gap (chars between)) (ts : List Text) :
    Follows (Text.join between (ts.map fun t => (form t).text)) (ts.map form) := by
  have hjoin := Follows.join hb (fun t => follows_token (form t)) ts
  rw [← List.map_eq_flatMap] at hjoin
  exact hjoin

/-! ## Parts of the templates -/

theorem gap_comma : Gap (chars ",") := by with_unfolding_all decide

theorem gap_comma_space : Gap (chars ", ") := by with_unfolding_all decide

theorem gap_equals : Gap ['='] := by with_unfolding_all decide

theorem gap_space : Gap [' '] := by with_unfolding_all decide

theorem follows_names (names : List Text) :
    Follows (Name.renderAll names) (names.map .name) :=
  Follows.join_token .name gap_comma names

theorem follows_assignments (pairs : List Assignment) :
    Follows (Assignment.renderAll pairs) (pairs.flatMap Assignment.tokens) := by
  refine Follows.join gap_comma_space ?_ pairs
  intro pair
  have hvalue := follows_token (.literal pair.value) _ gap_equals
  exact (follows_token (.column pair.column)).append hvalue

/-- A value is laid out by the tokens of its role. -/
theorem follows_renderAs (role : Token.Role) (value : Text) :
    Follows (Literal.renderAs role value) (Literal.tokensAs role value) := by
  have hone : Follows (Literal.render value) [.literal value] := follows_token (.literal value)
  cases role with
  | name | value => exact hone
  | range =>
      have hmark : Gap Literal.rangeMark := by with_unfolding_all decide
      rw [Literal.renderAs, Literal.renderRange, Literal.tokensAs]
      cases Literal.bounds? value with
      | none => exact hone
      | some bounds =>
          obtain ⟨low, high⟩ := bounds
          exact (follows_token (.literal low)).around hmark (follows_token (.literal high))
  | list =>
      have hopen : Gap ['('] := by with_unfolding_all decide
      have hclose : Gap [')'] := by with_unfolding_all decide
      have hitems := Follows.join_token .literal gap_comma (Literal.items value)
      have hlaid := (hitems _ hopen).append (laid_fixed hclose.quiet)
      rw [List.append_nil] at hlaid
      exact hlaid.follows

theorem gap_placed : ∀ c ∈ Comparator.all, Gap c.placed := by with_unfolding_all decide

/-- A condition is laid out by its column and its value. -/
theorem follows_condition (d : Condition) : Follows d.render d.tokens := by
  have hgap := gap_placed d.comparator (Comparator.mem_all d.comparator)
  have hcolumn := follows_token (.column d.column)
  rw [Condition.render_eq_placed, Condition.written, Condition.tokens]
  cases d.comparator.takesValue with
  | true => exact hcolumn.around hgap (follows_renderAs d.comparator.role d.value)
  | false => exact hcolumn.around hgap Laid.nil.follows

theorem laid_link (link : Conjunction) : Laid link.trailing [] := by
  refine laid_fixed ?_
  cases link <;> with_unfolding_all decide

/-- Conditions are laid out one after another. -/
theorem laid_conditions (cs : List Condition) :
    Laid (Condition.renderAll cs) (cs.flatMap Condition.tokens) := by
  induction cs with
  | nil => exact .nil
  | cons d rest ih =>
      have hfirst := follows_condition d [' '] gap_space
      rw [List.flatMap_cons]
      cases rest with
      | nil =>
          rw [List.flatMap_nil, List.append_nil]
          exact hfirst
      | cons e rest =>
          have hlinked := hfirst.append (laid_link d.link)
          rw [List.append_nil] at hlinked
          exact hlinked.append ih

theorem laid_where (c : Clauses) : Laid c.renderWhere (c.conditions.flatMap Condition.tokens) := by
  have hword : Gap (chars " WHERE") := by with_unfolding_all decide
  exact .optional (fun h => by rw [h]; rfl) (.fixed hword.quiet (laid_conditions c.conditions))

theorem laid_order (c : Clauses) :
    Laid c.renderOrder (c.sortKeys.map fun key => .column key.column) := by
  have horder : Gap (chars " ORDER BY ") := by with_unfolding_all decide
  have hkey : ∀ key : SortKey,
      Follows (key.column ++ ' ' :: key.direction.keyword) [.column key.column] := by
    intro key
    have hdirection : ∀ c ∈ ' ' :: key.direction.keyword, IsQuiet c := by
      cases key.direction <;> with_unfolding_all decide
    exact (follows_token (.column key.column)).append (laid_fixed hdirection)
  have hjoin := Follows.join gap_comma_space hkey c.sortKeys
  rw [← List.map_eq_flatMap] at hjoin
  exact .optional (fun h => by rw [h]; rfl) (hjoin _ horder)

theorem laid_into (c : Clauses) : Laid c.renderInto c.options.tokens := by
  have hinto : Gap (chars " INTO ") := by with_unfolding_all decide
  have hin : Gap (chars " IN ") := by with_unfolding_all decide
  rw [Clauses.renderInto, SelectOptions.tokens]
  cases c.options.intoTable with
  | none => exact .nil
  | some table =>
      have hname := follows_token (.name table) _ hinto
      cases c.options.intoDatabase with
      | none => exact hname.append .nil
      | some database => exact hname.append (follows_token (.database database) _ hin)

theorem laid_from (c : Clauses) : Laid c.renderFrom (c.tables.map .name) := by
  have hfrom : Gap (chars " FROM ") := by with_unfolding_all decide
  exact .optional (fun h => by rw [h]; rfl) (follows_names c.tables _ hfrom)

/-- A join is laid out by its table and the two sides of its predicate. -/
theorem laid_join (j : Join) : Laid j.render j.tokens := by
  have hword : Gap (' ' :: j.kind.keyword ++ chars " JOIN ") := by
    cases j.kind <;> with_unfolding_all decide
  have hon : Gap (chars " ON ") := by with_unfolding_all decide
  have htable := follows_token (.name j.table) _ hword
  rw [Join.render, Join.tokens]
  cases j.predicate with
  | none => exact htable.append .nil
  | some on =>
      cases j.kind.takesPredicate with
      | false => exact htable.append .nil
      | true =>
          have hvalue := follows_token (.verbatim on.value) _ gap_equals
          have hcolumn := follows_token (.name on.column) _ hon
          exact htable.append (hcolumn.append hvalue)

theorem laid_joins (joins : List Join) :
    Laid (joins.flatMap Join.render) (joins.flatMap Join.tokens) := by
  induction joins with
  | nil => exact .nil
  | cons j joins ih => exact (laid_join j).append ih

theorem laid_limit (c : Clauses) : Laid c.renderLimit [] := by
  have hlimit : Gap (chars " LIMIT ") := by with_unfolding_all decide
  rw [Clauses.renderLimit]
  cases c.limit with
  | none => exact .nil
  | some count =>
      have hdigits : ∀ d ∈ Text.ofNat count, IsQuiet d := by
        intro d hd
        have hdigit := Nat.isDigit_of_mem_toDigits (by decide) (by decide) hd
        refine ⟨opened_eq_outside ?_ ?_, ?_, ?_, ?_⟩ <;> rintro rfl <;>
          exact absurd hdigit (by decide)
      exact .fixed hlimit.quiet (laid_fixed hdigits)

theorem laid_duplicateKey (c : Clauses) :
    Laid c.renderDuplicateKey (c.duplicateKey.flatMap Assignment.tokens) := by
  have hword : Gap (chars " ON DUPLICATE KEY UPDATE ") := by with_unfolding_all decide
  exact .optional (fun h => by rw [h]; rfl) (follows_assignments c.duplicateKey _ hword)

/-! ## Whole statements -/

variable {c : Clauses}

theorem laid_semicolon : Laid [';'] [] := laid_fixed (by with_unfolding_all decide)

/-- A select is laid out clause by clause. -/
theorem laid_select (c : Clauses) :
    Laid c.renderSelect
      (c.columns.map .name ++ c.options.tokens ++ c.tables.map .name ++
        c.joins.flatMap Join.tokens ++ c.conditions.flatMap Condition.tokens ++
        c.sortKeys.map fun key => .column key.column) := by
  have hopening :
      Gap (chars "SELECT " ++ if c.options.distinct then chars "DISTINCT " else []) := by
    cases c.options.distinct <;> with_unfolding_all decide
  -- from left to right, part by part
  have hcolumns := follows_names c.columns _ hopening
  have hfrom := (hcolumns.append (laid_into c)).append (laid_from c)
  have hwhere := (hfrom.append (laid_joins c.joins)).append (laid_where c)
  have hall := ((hwhere.append (laid_order c)).append (laid_limit c)).append laid_semicolon
  rw [List.append_nil, List.append_nil] at hall
  exact hall

/-- An insert is laid out by its table, its row and what is done about a
    duplicate key. -/
theorem laid_insert {table : Text} (htables : c.tables = [table]) :
    Laid c.renderInsert
      (c.tables.map .name ++ c.insertColumns.map .name ++ c.insertValues.map .literal ++
        c.duplicateKey.flatMap Assignment.tokens) := by
  have hinto : Gap (chars "INSERT INTO ") := by with_unfolding_all decide
  have hopen : Gap ['('] := by with_unfolding_all decide
  have hvalues : Gap (chars ") VALUES (") := by with_unfolding_all decide
  have hclose : Gap [')'] := by with_unfolding_all decide
  have htable : c.table? = some table := by rw [Clauses.table?, htables]
  have hname := follows_token (.name table) _ hinto
  have hcolumns := follows_names c.insertColumns _ hopen
  have hliterals := Follows.join_token .literal gap_comma c.insertValues _ hvalues
  have htail := (Laid.fixed hclose.quiet (laid_duplicateKey c)).append laid_semicolon
  have hall := ((hname.append hcolumns).append hliterals).append htail
  rw [Clauses.renderInsert, htable, htables]
  simp only [List.append_assoc, List.append_nil, List.cons_append, List.nil_append,
    List.map_cons, List.map_nil] at hall ⊢
  exact hall

/-- An update is laid out clause by clause. -/
theorem laid_update {table : Text} (htables : c.tables = [table]) :
    Laid c.renderUpdate
      (c.tables.map .name ++ c.assignments.flatMap Assignment.tokens ++
        c.conditions.flatMap Condition.tokens ++
        c.sortKeys.map fun key => .column key.column) := by
  have hupdate : Gap (chars "UPDATE ") := by with_unfolding_all decide
  have hset : Gap (chars " SET ") := by with_unfolding_all decide
  have htable : c.table? = some table := by rw [Clauses.table?, htables]
  have hname := follows_token (.name table) _ hupdate
  have hassigned := hname.append (follows_assignments c.assignments _ hset)
  have hall := ((hassigned.append (laid_where c)).append (laid_order c)).append laid_semicolon
  rw [Clauses.renderUpdate, htable, htables]
  simp only [List.append_assoc, List.append_nil, List.map_cons, List.map_nil] at hall ⊢
  exact hall

/-- **One statement**: the text of a node is laid out of its tokens. -/
theorem Clauses.WellFormed.laid (h : c.WellFormed) : Laid c.render c.tokens := by
  rw [Clauses.render, Clauses.tokens]
  cases hmode : c.mode with
  | none => exact .nil
  | some mode =>
      cases mode with
      | select => exact laid_select c
      | insert =>
          obtain ⟨table, htables⟩ := h.one_table (Or.inl hmode)
          exact laid_insert htables
      | update =>
          obtain ⟨table, htables⟩ := h.one_table (Or.inr hmode)
          exact laid_update htables

namespace Statement

variable {s : Statement}

/-- Two statements in a chain are laid out one after the other. -/
theorem laid_chain (hx : Laid x us) (hy : Laid y vs) : Laid (chain x y) (us ++ vs) := by
  rw [chain]
  split
  · rename_i hempty
    rw [hy.eq_nil (List.isEmpty_iff.mp hempty), List.append_nil]
    exact hx
  · split
    · rename_i hempty
      rw [hx.eq_nil (List.isEmpty_iff.mp hempty)]
      exact hy
    · exact hx.append (hy.follows _ gap_space)

/-- The nodes of a statement are laid out in their order. -/
theorem laid_joinFilled {nodes : List Clauses} (h : ∀ node ∈ nodes, node.WellFormed) :
    Laid (joinFilled (nodes.map Clauses.render)) (nodes.flatMap Clauses.tokens) := by
  induction nodes with
  | nil => exact .nil
  | cons node nodes ih =>
      obtain ⟨hnode, hnodes⟩ := List.forall_mem_cons.mp h
      have hchain := laid_chain hnode.laid (ih hnodes)
      rw [← joinFilled_singleton node.render, chain_joinFilled] at hchain
      exact hchain

/-- **The tree**: the text of a statement that calls can reach is laid out of
    the tokens of its nodes. -/
theorem Built.laid (built : s.Built) : Laid s.render (s.nodes.flatMap Clauses.tokens) := by
  rw [render_eq_joinFilled]
  exact laid_joinFilled built.wellFormed

end Statement

end GuardedSql
