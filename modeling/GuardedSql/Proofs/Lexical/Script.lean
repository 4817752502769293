import GuardedSql.Proofs.Lexical.Template
import GuardedSql.Proofs.Statement.Flat

/-! # Scripts — the text of a whole tree of statements

    A script is a text of statements, each ended by its semicolon: it leaves
    no region open, it ends with a semicolon if it is not empty, and it holds
    no semicolon but those that end a statement.  One statement is an inert
    text and a semicolon; chaining two scripts makes a script whose counts and
    keywords are those of both.  So the text of a tree is a script, node by
    node, and what is seen outside its literals and names depends on the
    shapes of its nodes alone. -/

namespace GuardedSql

open Region Token

variable {t x y : Text} {shown ks ls : List Text} {count n m : Nat}

/-- The text is that many statements, and shows the given keywords. -/
structure Script (t : Text) (count : Nat) (shown : List Text) : Prop where
  closed : Closed t
  noDoubleQuote : '"' ∉ t
  /-- Every semicolon is met outside. -/
  semicolons : ∀ r, (r, ';') ∈ met .outside t → r = .outside
  count_eq : t.count ';' = count
  ends : t ≠ [] → t.getLast? = some ';'
  keywords : keywordsOutside t = shown

theorem script_nil : Script [] 0 [] where
  closed := rfl
  noDoubleQuote := nofun
  semicolons := nofun
  count_eq := rfl
  ends := fun h => (h rfl).elim
  keywords := rfl

/-- An inert text and a semicolon are one statement. -/
theorem Inert.script (h : Inert t shown) : Script (t ++ [';']) 1 shown where
  closed := h.closed.append (show Closed [';'] by decide)
  noDoubleQuote := List.not_mem_append h.noDoubleQuote (by decide)
  semicolons := by
    intro r hr
    rw [met_append, h.closed] at hr
    rcases List.mem_append.mp hr with hbody | hlast
    · -- the semicolon would be a character of the inert text
      have hmem : ';' ∈ ((met .outside t).map Prod.snd) := List.mem_map_of_mem hbody
      rw [map_snd_met] at hmem
      exact absurd hmem h.noSemicolon
    · exact (Prod.mk.inj (List.mem_singleton.mp hlast)).1
  count_eq := by
    rw [List.count_append, List.count_eq_zero.mpr h.noSemicolon]
    rfl
  ends := fun _ => List.getLast?_concat
  keywords := by
    have hsemicolon : keywordsOutside [';'] = [] := by with_unfolding_all decide
    rw [keywordsOutside_append h.closed (Or.inr (by decide)), hsemicolon, h.keywords,
      List.append_nil]

/-- No word goes on after a script, as its last character is a semicolon. -/
theorem Script.apart (h : Script x n ks) (y : Text) : Apart x y := by
  left
  intro c hc
  by_cases hne : x = []
  · rw [hne] at hc
    exact nomatch hc
  · rw [h.ends hne] at hc
    obtain rfl := Option.some.inj hc
    rfl

/-- **Chaining** scripts makes a script. -/
theorem Script.chain (hx : Script x n ks) (hy : Script y m ls) :
    Script (Statement.chain x y) (n + m) (ks ++ ls) := by
  rw [Statement.chain]
  by_cases hyne : y = []
  · subst hyne
    -- nothing is chained: the second script counts and shows nothing
    rw [List.isEmpty_nil, if_pos rfl, ← hy.count_eq, ← hy.keywords]
    exact (List.append_nil ks).symm ▸ hx
  · rw [if_neg fun h => hyne (List.isEmpty_iff.mp h)]
    by_cases hxne : x = []
    · subst hxne
      rw [List.isEmpty_nil, if_pos rfl, ← hx.count_eq, ← hx.keywords]
      exact (Nat.zero_add m).symm ▸ hy
    · rw [if_neg fun h => hxne (List.isEmpty_iff.mp h)]
      have hspace := separator_space.inert
      -- the first script is closed, so the second is met as it is alone
      have hmet : met .outside (x ++ ' ' :: y) =
          met .outside x ++ (.outside, ' ') :: met .outside y := by
        rw [met_append, hx.closed]
        rfl
      constructor
      case closed => exact hx.closed.append (hspace.closed.append hy.closed)
      case noDoubleQuote =>
        exact List.not_mem_append hx.noDoubleQuote
          (List.not_mem_append hspace.noDoubleQuote hy.noDoubleQuote)
      case semicolons =>
        intro r hr
        rw [hmet] at hr
        rcases List.mem_append.mp hr with hfirst | hrest
        · exact hx.semicolons r hfirst
        · rcases List.mem_cons.mp hrest with hseam | hsecond
          · exact (Prod.mk.inj hseam).1
          · exact hy.semicolons r hsecond
      case count_eq =>
        rw [List.count_append, List.count_cons_of_ne (by decide), hx.count_eq, hy.count_eq]
      case ends =>
        intro _
        rw [List.getLast?_append, List.getLast?_cons, hy.ends hyne]
        rfl
      case keywords =>
        have htail : keywordsOutside (' ' :: y) = ls := by
          have happend := keywordsOutside_append hspace.closed
            (show Apart [' '] y from Or.inl (by decide))
          rw [hspace.keywords, hy.keywords] at happend
          exact happend
        rw [keywordsOutside_append hx.closed (hx.apart _), hx.keywords, htail]

/-! ## The tree -/

/-- A node is one statement if it has a mode, and else none. -/
theorem Clauses.WellFormed.script {c : Clauses} (h : c.WellFormed) :
    Script c.render (if c.mode.isSome then 1 else 0) c.shape.keywords := by
  by_cases hmode : c.mode = none
  · have hkeywords : c.shape.keywords = [] := by
      rw [Shape.keywords, show c.shape.mode = none from hmode]
    rw [Clauses.render_of_mode_eq_none hmode, hmode, hkeywords]
    exact script_nil
  · obtain ⟨body, hbody, hinert⟩ := exists_body h hmode
    rw [hbody, if_pos (Option.isSome_iff_ne_none.mpr hmode)]
    exact hinert.script

namespace Statement

variable {s : Statement}

/-- The texts of nodes make a script with one statement for each mode. -/
theorem script_joinFilled {nodes : List Clauses} (h : ∀ node ∈ nodes, node.WellFormed) :
    Script (joinFilled (nodes.map Clauses.render))
      (nodes.countP fun node => node.mode.isSome)
      ((nodes.map Clauses.shape).flatMap Shape.keywords) := by
  induction nodes with
  | nil => exact script_nil
  | cons node nodes ih =>
      obtain ⟨hnode, hnodes⟩ := List.forall_mem_cons.mp h
      have hchain := hnode.script.chain (ih hnodes)
      rw [← joinFilled_singleton node.render, chain_joinFilled, Nat.add_comm] at hchain
      rw [List.countP_cons]
      exact hchain

/-- The text of a statement that calls can reach is a script. -/
theorem Built.script (built : s.Built) :
    Script s.render (s.nodes.countP fun node => node.mode.isSome)
      (s.shape.flatMap Shape.keywords) := by
  rw [render_eq_joinFilled]
  exact script_joinFilled built.wellFormed

/-- **Lexical integrity**: whatever the tokens are, a reader of the text ends
    outside, meets no double quote and every semicolon outside, and counts
    one semicolon for each node with a mode, the last at the end. -/
theorem regions_of_built (built : s.Built) :
    after .outside s.render = .outside ∧
    '"' ∉ s.render ∧
    (∀ r, (r, ';') ∈ met .outside s.render → r = .outside) ∧
    (s.render.count ';' = s.nodes.countP fun node => node.mode.isSome) ∧
    (s.render ≠ [] → s.render.getLast? = some ';') := by
  have h := built.script
  exact ⟨h.closed, h.noDoubleQuote, h.semicolons, h.count_eq, h.ends⟩

/-- A backslash, a range with `AND` and a column with backticks, in a tree
    with a node that has no mode. -/
theorem regions_of_built_nested_append :
    let leaf := empty.steps
      [.set (.update (chars "db.t") (chars "`a;`") (chars "1")),
       .set (.update (chars "t") (chars "`a b`.c") (chars "it\\")),
       .set (.whereOne .between (chars "d") (chars "1 AND x y"))]
    let s := empty.steps
      [.append leaf, .set (.whereOne .isNull (chars "e") []),
       .append (empty.step (.set (.insert (chars "t") [chars "v"] [chars "c"])))]
    (s.nodes.length = 3 ∧ s.render.count ';' = 2) ∧
    after .outside s.render = .outside ∧
    '"' ∉ s.render ∧
    (∀ r, (r, ';') ∈ met .outside s.render → r = .outside) ∧
    (s.render.count ';' = s.nodes.countP fun node => node.mode.isSome) ∧
    (s.render ≠ [] → s.render.getLast? = some ';') := by
  refine ⟨by decide +kernel, regions_of_built ?_⟩
  have hleaf := Built.empty.set (.update (chars "db.t") (chars "`a;`") (chars "1"))
    |>.set (.update (chars "t") (chars "`a b`.c") (chars "it\\"))
    |>.set (.whereOne .between (chars "d") (chars "1 AND x y"))
  have hinsert := Built.empty.set (.insert (chars "t") [chars "v"] [chars "c"])
  exact ((Built.empty.append hleaf).set (.whereOne .isNull (chars "e") [])).append hinsert

/-- **No keyword comes from a token**: the keywords outside literals and
    names are those of the shapes of the nodes, so that statements of one
    shape show the same; and in the conditions of a node they are those of
    its comparators and links. -/
theorem keywordsOutside_of_built (built : s.Built) :
    keywordsOutside s.render = s.shape.flatMap Shape.keywords ∧
    (∀ t : Statement, t.Built → t.shape = s.shape →
      keywordsOutside t.render = keywordsOutside s.render) ∧
    ∀ node ∈ s.nodes,
      keywordsOutside node.renderWhere = Shape.ofWhere node.shape.conditions := by
  refine ⟨built.script.keywords, ?_, ?_⟩
  · intro t builtT hshape
    rw [builtT.script.keywords, built.script.keywords, hshape]
  · intro node hnode
    exact (trailing_where (built.wellFormed node hnode)).inert.keywords

/-- Two statements of one shape: tokens may look like keywords, and one that
    is a keyword is rejected. -/
theorem keywordsOutside_of_built_one_shape :
    let s := empty.steps
      [.set (.select [chars "a"]), .set (.fromTables [chars "from"]),
       .set (.fromTables [chars "t"]),
       .set (.whereAll .orNot .notBetween [chars "b", chars "c"]
         [chars "1 AND 2", chars "x and y"])]
    let t := empty.steps
      [.set (.select [chars "sandbox", chars "`a`.b"]), .set (.fromTables [chars "order"]),
       .set (.whereAll .orNot .notBetween [chars "in_b", chars "`c d`"]
         [chars "or_1 AND 2", chars "-3 and and_y"])]
    (t.shape = s.shape ∧ keywordsOutside t.render =
      ["SELECT", "FROM", "WHERE", "NOT", "BETWEEN", "AND", "OR", "NOT", "NOT", "BETWEEN",
        "AND"].map chars) ∧
    keywordsOutside s.render = s.shape.flatMap Shape.keywords ∧
    (∀ t : Statement, t.Built → t.shape = s.shape →
      keywordsOutside t.render = keywordsOutside s.render) ∧
    ∀ node ∈ s.nodes,
      keywordsOutside node.renderWhere = Shape.ofWhere node.shape.conditions := by
  intro s t
  have builtT : t.Built := .set _ (.set _ (.set _ .empty))
  have builtS : s.Built := .set _ (.set _ (.set _ (.set _ .empty)))
  have hshape : t.shape = s.shape := by decide +kernel
  have hkeywords := (keywordsOutside_of_built builtT).1
  refine ⟨⟨hshape, ?_⟩, keywordsOutside_of_built builtS⟩
  rw [hkeywords]
  decide +kernel

end Statement

end GuardedSql
