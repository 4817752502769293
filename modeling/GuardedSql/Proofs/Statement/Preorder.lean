import GuardedSql.Proofs.Statement.Appended

/-! # Pre-order — the text of a tree, node by node

    Rendering decides at every level of a tree whether a separator is due, by
    what is written so far and by what a child adds.  The outcome knows
    nothing of levels: it is the texts of the nodes with a mode, each before
    those appended to it, with one space between neighbours.

    The text alone tells the nodes apart.  A node with a mode is written from
    the keyword of its mode to a semicolon, and holds no other semicolon.  So
    wherever a semicolon stands in the text of a tree, the text up to it is
    that of the first nodes, and after it come the texts of the others, each
    behind a space. -/

namespace GuardedSql

open Text

/-- The text of one statement: from the keyword of a mode to a semicolon, and
    there is no other. -/
def IsSentence (t : Text) : Prop :=
  ∃ mode : Mode, ∃ body, t = mode.keyword ++ body ++ [';'] ∧ ';' ∉ mode.keyword ++ body

/-- A node with a mode is written as a sentence. -/
theorem Clauses.WellFormed.isSentence {c : Clauses} (h : c.WellFormed) {mode : Mode}
    (hmode : c.mode = some mode) : IsSentence c.render := by
  obtain ⟨text, htext, hinert⟩ := exists_body h (by rw [hmode]; nofun)
  have hkeyword := h.keyword_prefix_render hmode
  have hnot : ';' ∉ mode.keyword := by
    cases mode <;> with_unfolding_all decide
  rw [htext] at hkeyword ⊢
  rcases List.prefix_concat_iff.mp hkeyword with hall | ⟨body, rfl⟩
  · -- the keyword does not reach to the semicolon
    rw [hall] at hnot
    exact absurd (List.mem_append_right _ (List.mem_singleton_self _)) hnot
  · exact ⟨mode, body, rfl, hinert.noSemicolon⟩

namespace IsSentence

variable {t x y r : Text} {ts : List Text}

theorem head?_append (h : IsSentence t) (r : Text) : (t ++ r).head? ≠ some ' ' := by
  have hhead : ∀ mode : Mode, ∃ c rest, mode.keyword = c :: rest ∧ c ≠ ' ' := by
    rintro ⟨⟩ <;> exact ⟨_, _, by with_unfolding_all rfl, by decide⟩
  obtain ⟨mode, body, rfl, -⟩ := h
  obtain ⟨c, rest, hkeyword, hne⟩ := hhead mode
  rw [hkeyword]
  exact fun chars_space => hne (Option.some.inj chars_space)

/-- A semicolon in a text that begins with a sentence is the one that ends the
    sentence, or stands beyond it. -/
theorem cut (h : IsSentence t) (heq : t ++ r = x ++ ';' :: y) :
    (t = x ++ [';'] ∧ y = r) ∨ ∃ z, x = t ++ z ∧ r = z ++ ';' :: y := by
  obtain ⟨mode, body, rfl, hnot⟩ := h
  rw [List.append_assoc, List.singleton_append] at heq
  rcases List.append_eq_append_iff.mp heq with ⟨z, rfl, hrest⟩ | ⟨z, hbody, hrest⟩
  · cases z with
    | nil => exact Or.inl ⟨by rw [List.append_nil], (List.cons.inj hrest).2.symm⟩
    | cons c z =>
        obtain ⟨rfl, rfl⟩ := List.cons.inj hrest
        exact Or.inr ⟨z, by simp, rfl⟩
  · cases z with
    | nil =>
        rw [List.append_nil] at hbody
        exact Or.inl ⟨by rw [hbody], (List.cons.inj hrest).2⟩
    | cons c z =>
        -- the semicolon would stand before the end of the sentence
        obtain ⟨rfl, -⟩ := List.cons.inj hrest
        rw [hbody] at hnot
        exact absurd (List.mem_append_right _ (List.mem_cons_self ..)) hnot

/-- **Cutting a join of sentences**: what ends with a semicolon is the join of
    the first ones, and the others follow, each behind a space. -/
theorem exists_cut_join (h : ∀ t ∈ ts, IsSentence t) (heq : join " " ts = x ++ ';' :: y) :
    ∃ first rest, ts = first ++ rest ∧ join " " first = x ++ [';'] ∧
      y = rest.flatMap (' ' :: ·) := by
  induction ts generalizing x with
  | nil => exact absurd heq (by simp)
  | cons t ts ih =>
      obtain ⟨ht, hts⟩ := List.forall_mem_cons.mp h
      rw [join_cons, chars_space] at heq
      rcases ht.cut heq with ⟨hend, rfl⟩ | ⟨z, rfl, hrest⟩
      · exact ⟨[t], ts, rfl, by simp [hend], rfl⟩
      · cases ts with
        | nil => exact absurd hrest (by simp)
        | cons u us =>
            cases z with
            | nil => exact absurd (List.cons.inj hrest).1 (by decide)
            | cons c z =>
                -- behind the space the join of the others goes on
                have hjoin : c = ' ' ∧ join " " (u :: us) = z ++ ';' :: y := by
                  rw [join_cons, chars_space]
                  obtain ⟨hc, htail⟩ := List.cons.inj hrest
                  exact ⟨hc.symm, htail⟩
                obtain ⟨first, rest, hsplit, hfirst, hy⟩ := ih hts hjoin.2
                have hne : first ≠ [] := by
                  rintro rfl
                  exact absurd hfirst (by simp)
                refine ⟨t :: first, rest, by rw [hsplit, List.cons_append], ?_, hy⟩
                rw [join_cons_of_ne_nil hne, hfirst, chars_space, hjoin.1]
                simp

end IsSentence

namespace Statement

variable {s : Statement}

/-- What is appended to an empty statement is empty. -/
theorem isEmpty_of_mem_appended (h : s.isEmpty = true) {child : Statement}
    (hmem : child ∈ s.appended) : child.isEmpty = true :=
  (isEmpty_iff child).mpr fun node hnode =>
    (isEmpty_iff s).mp h node (mem_nodes.mpr (Or.inr ⟨child, hmem, hnode⟩))

/-- A statement appended to an empty one is written as it is alone. -/
theorem render_append_of_isEmpty {parent : Statement} (h : parent.isEmpty = true)
    (s : Statement) : (parent.append s).render = s.render := by
  rw [render_append, render_of_isEmpty h]
  split
  · -- the text is there already, and all that is there is empty
    rename_i hthere
    obtain ⟨child, hmem, hsame⟩ := List.mem_map.mp hthere
    rw [← hsame, render_of_isEmpty (isEmpty_of_mem_appended h hmem)]
  · rw [chain]
    cases s.render <;> rfl

/-- Statements without content around a statement do not change its text. -/
theorem render_wrapped {parents : List Statement}
    (h : ∀ parent ∈ parents, parent.isEmpty = true) (s : Statement) :
    (parents.foldr append s).render = s.render := by
  induction parents with
  | nil => rfl
  | cons parent parents ih =>
      obtain ⟨hparent, hparents⟩ := List.forall_mem_cons.mp h
      rw [List.foldr_cons, render_append_of_isEmpty hparent, ih hparents]

/-- **Rendering is flat**: the text of a tree is the texts that its nodes with
    a mode have on their own, in pre-order and with a space between neighbours.
    Each of them is a sentence, so the text neither begins nor ends with a
    space, and a semicolon in it ends the text of the first nodes, after which
    those of all others follow, each behind a space.  Statements without any
    mode around the tree, however many, change nothing. -/
theorem preorder_of_built (built : s.Built) :
    let texts := (s.nodes.filter fun node => node.mode.isSome).map fun node =>
      render { own := node }
    s.render = join " " texts ∧
    (∀ t ∈ texts, IsSentence t) ∧
    (s.render.head? ≠ some ' ' ∧ s.render.getLast? ≠ some ' ') ∧
    (∀ x y, s.render = x ++ ';' :: y →
      ∃ first rest, texts = first ++ rest ∧ join " " first = x ++ [';'] ∧
        y = rest.flatMap (' ' :: ·)) ∧
    ∀ parents : List Statement, (∀ parent ∈ parents, parent.isEmpty = true) →
      (parents.foldr append s).render = s.render := by
  intro texts
  have htext : s.render = join " " texts :=
    (render_eq_joinFilled s).trans (joinFilled_render built.wellFormed)
  have hsentence : ∀ t ∈ texts, IsSentence t := by
    intro t ht
    obtain ⟨node, hnode, rfl⟩ := List.mem_map.mp ht
    obtain ⟨hmem, hmode⟩ := List.mem_filter.mp hnode
    obtain ⟨mode, hmode⟩ := Option.isSome_iff_exists.mp hmode
    exact (built.wellFormed node hmem).isSentence hmode
  refine ⟨htext, hsentence, ⟨?_, ?_⟩, ?_, fun parents h => render_wrapped h s⟩
  · rw [htext]
    cases htexts : texts with
    | nil => exact nofun
    | cons t rest =>
        rw [join_cons]
        exact (hsentence t (htexts ▸ List.mem_cons_self ..)).head?_append _
  · intro hlast
    have hne : s.render ≠ [] := by
      intro hnil
      rw [hnil] at hlast
      exact nomatch hlast
    rw [built.script.ends hne] at hlast
    exact absurd hlast (by decide)
  · intro x y hcut
    exact IsSentence.exists_cut_join hsentence (htext.symm.trans hcut)

/-- Of five nodes three have a mode: two updates, and an insert between them
    that is appended to a node with conditions only, behind a node with a limit
    only.  The two spaces in a row belong to the inserted value. -/
theorem preorder_of_built_modeless_between :
    let insert := empty.step (.set (.insert (chars "t") [chars "v  w"] [chars "c"]))
    let update (column : Text) := Setter.update (chars "u") column (chars "1")
    let between := empty.steps
      [.set (.whereOne .isNull (chars "a") []), .append (empty.step (.set (.limit 2))),
       .append insert]
    let s := (empty.step (.set (update (chars "a")))).steps
      [.append between, .append (empty.step (.set (update (chars "b"))))]
    let parents := [empty.step (.set (.limit 3)), empty]
    let texts := (s.nodes.filter fun node => node.mode.isSome).map fun node =>
      render { own := node }
    (s.nodes.length = 5 ∧ texts.length = 3 ∧
      s.render =
        chars "UPDATE `u` SET a=1; INSERT INTO `t`(`c`) VALUES ('v  w'); UPDATE `u` SET b=1;" ∧
      ∀ parent ∈ parents, parent.isEmpty = true) ∧
    s.render = join " " texts ∧
    (∀ t ∈ texts, IsSentence t) ∧
    (s.render.head? ≠ some ' ' ∧ s.render.getLast? ≠ some ' ') ∧
    (∀ x y, s.render = x ++ ';' :: y →
      ∃ first rest, texts = first ++ rest ∧ join " " first = x ++ [';'] ∧
        y = rest.flatMap (' ' :: ·)) ∧
    (parents.foldr append s).render = s.render := by
  intro insert update between s parents texts
  have builtBetween : between.Built :=
    ((Built.empty.set _).append (Built.empty.set (.limit 2))).append (Built.empty.set _)
  have builtS : s.Built := ((Built.empty.set _).append builtBetween).append (Built.empty.set _)
  have hparents : ∀ parent ∈ parents, parent.isEmpty = true := by decide +kernel
  obtain ⟨htext, hsentence, hends, hcut, hwrapped⟩ := preorder_of_built builtS
  refine ⟨⟨by decide +kernel, by decide +kernel, by decide +kernel, hparents⟩, ?_⟩
  exact ⟨htext, hsentence, hends, hcut, hwrapped parents hparents⟩

end Statement

end GuardedSql
