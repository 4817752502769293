import Mathlib.Data.List.Chain
import GuardedSql.Proofs.Lexical.Fit
import GuardedSql.Proofs.Lexical.Written

/-! # Comments — what could begin one outside literals and names

    MySQL begins a comment with `#`, with `--` and with `/*`.  The guard keeps
    `*` and `--` out of every token and lets `#` through.  A text is mild if
    what a reader sees of it outside literals and names has no `*`, no two
    dashes in a row, and as many `#` as a text kept beside it.  Each written
    token is mild, and since the template stands between any two tokens and
    holds none of these characters, so is every text that is laid out of
    tokens: its `#` are those of the tokens that are written as they are. -/

namespace GuardedSql

open Region Token

variable {t x y f seen : Text}

/-! ## Dashes -/

/-- No dash follows a dash. -/
def NoDashes (t : Text) : Prop := t.IsChain fun a b => ¬ (a = '-' ∧ b = '-')

/-- A text without two dashes in a row does not hold the mark of a comment. -/
theorem not_infix_of_noDashes (h : NoDashes t) : ¬ chars "--" <:+: t := by
  have hmark : chars "--" = ['-', '-'] := by with_unfolding_all decide
  rw [hmark]
  intro hinside
  have htwo := List.IsChain.infix h hinside
  rw [List.isChain_pair] at htwo
  exact htwo ⟨rfl, rfl⟩

/-- Two dashes in a row are found where they stand. -/
theorem noDashes_of_occursIn (h : Text.occursIn ['-', '-'] t = false) : NoDashes t := by
  induction t with
  | nil => exact .nil
  | cons a t ih =>
      rw [Text.occursIn, Bool.or_eq_false_iff] at h
      obtain ⟨hhead, hrest⟩ := h
      refine List.isChain_cons.mpr ⟨?_, ih hrest⟩
      rintro b hb ⟨rfl, rfl⟩
      obtain ⟨rest, rfl⟩ := List.head?_eq_some_iff.mp hb
      exact Bool.noConfusion hhead

/-- One dash at the start is followed by no other. -/
theorem noDashes_of_tail (h : '-' ∉ t.tail) : NoDashes t := by
  cases t with
  | nil => exact .nil
  | cons a t =>
      have hchain : NoDashes t := by
        induction t with
        | nil => exact .nil
        | cons b t ih =>
            refine List.isChain_cons.mpr ⟨?_, ih (List.not_mem_of_not_mem_cons h)⟩
            rintro c - ⟨rfl, -⟩
            exact h (List.mem_cons_self ..)
      refine List.isChain_cons.mpr ⟨?_, hchain⟩
      rintro b hb ⟨-, rfl⟩
      exact h (List.mem_of_mem_head? hb)

/-- Two texts without two dashes in a row have none at the seam either, unless
    a dash stands on both sides of it. -/
theorem noDashes_append (hx : NoDashes x) (hy : NoDashes y)
    (h : x.getLast? ≠ some '-' ∨ y.head? ≠ some '-') : NoDashes (x ++ y) := by
  refine List.isChain_append.mpr ⟨hx, hy, ?_⟩
  rintro a ha b hb ⟨rfl, rfl⟩
  rcases h with hlast | hhead
  · exact hlast ha
  · exact hhead hb

/-- An accepted token has no two dashes in a row. -/
theorem Token.Accepted.noDashes {role : Role} (h : Accepted role t) : NoDashes t := by
  obtain ⟨-, -, hsymbol, -⟩ := accepted_iff.mp h
  have hmem : ['-', '-'] ∈ symbols := by with_unfolding_all decide
  have hfound := List.find?_eq_none.mp hsymbol ['-', '-'] hmem
  refine noDashes_of_occursIn (Bool.eq_false_iff.mpr fun hoccurs => hfound ?_)
  rw [hoccurs]
  rfl

/-- An accepted token has no star. -/
theorem Token.Accepted.star_not_mem {role : Role} (h : Accepted role t) : '*' ∉ t := by
  obtain ⟨hstar, -⟩ := accepted_iff.mp h
  intro hmem
  rw [List.contains_iff_mem.mpr hmem] at hstar
  exact Bool.noConfusion hstar

/-! ## What a reader sees -/

/-- What is seen of a text is its own characters and the spaces that hide the
    others. -/
theorem eq_space_or_mem_of_mem_bare {c : Char} (h : c ∈ bare t) : c = ' ' ∨ c ∈ t := by
  obtain ⟨⟨r, d⟩, hmet, rfl⟩ := List.mem_map.mp h
  dsimp only
  split
  · have hmem : d ∈ (met .outside t).map Prod.snd := List.mem_map_of_mem hmet
    rw [map_snd_met] at hmem
    exact Or.inr hmem
  · exact Or.inl rfl

/-- Hiding characters brings no dashes together. -/
theorem NoDashes.bare (h : NoDashes t) : NoDashes (bare t) := by
  have hmet : NoDashes ((met .outside t).map Prod.snd) := by
    rw [map_snd_met]
    exact h
  refine (List.isChain_map _).mpr (((List.isChain_map _).mp hmet).imp ?_)
  rintro ⟨r, a⟩ ⟨q, b⟩ hnot ⟨ha, hb⟩
  dsimp only at ha hb
  split at ha
  · split at hb
    · exact hnot ⟨ha, hb⟩
    · exact absurd hb (by decide)
  · exact absurd ha (by decide)

/-- The first character is met outside. -/
theorem head?_bare (t : Text) : (bare t).head? = t.head? := by
  cases t <;> rfl

/-! ## Mild texts -/

/-- The text leaves no region open, begins no comment but with `#`, and shows
    as many of these as the text beside it. -/
structure Mild (t seen : Text) : Prop where
  closed : Closed t
  noStar : '*' ∉ bare t
  noDashes : NoDashes (bare t)
  count_eq : (bare t).count '#' = seen.count '#'

theorem mild_nil : Mild [] [] := ⟨rfl, nofun, .nil, rfl⟩

/-- Mild texts stay mild side by side, unless a dash stands on both sides of
    the seam. -/
theorem Mild.append {seen' : Text} (hx : Mild x seen) (hy : Mild y seen')
    (h : (bare x).getLast? ≠ some '-' ∨ y.head? ≠ some '-') :
    Mild (x ++ y) (seen ++ seen') := by
  rw [← head?_bare] at h
  refine ⟨hx.closed.append hy.closed, ?_, ?_, ?_⟩
  · rw [bare_append hx.closed]
    exact List.not_mem_append hx.noStar hy.noStar
  · rw [bare_append hx.closed]
    exact noDashes_append hx.noDashes hy.noDashes h
  · rw [bare_append hx.closed, List.count_append, List.count_append, hx.count_eq, hy.count_eq]

/-- A text of which a reader sees no `*`, no dash and no `#`. -/
structure Hidden (t : Text) : Prop where
  closed : Closed t
  quiet : ∀ c ∈ bare t, c ≠ '-' ∧ c ≠ '#' ∧ c ≠ '*'

/-- Of a hidden text nothing is seen that could open a comment. -/
theorem Hidden.mild (h : Hidden t) : Mild t [] where
  closed := h.closed
  noStar := fun hmem => (h.quiet _ hmem).2.2 rfl
  noDashes := noDashes_of_tail fun hmem => (h.quiet _ (List.mem_of_mem_tail hmem)).1 rfl
  count_eq := List.count_eq_zero.mpr fun hmem => (h.quiet _ hmem).2.1 rfl

theorem Hidden.getLast?_ne (h : Hidden t) : (bare t).getLast? ≠ some '-' :=
  fun hlast => (h.quiet _ (List.mem_of_mem_getLast? hlast)).1 rfl

theorem Hidden.append (hx : Hidden x) (hy : Hidden y) : Hidden (x ++ y) where
  closed := hx.closed.append hy.closed
  quiet := by
    rw [bare_append hx.closed]
    intro c hc
    rcases List.mem_append.mp hc with h | h
    · exact hx.quiet c h
    · exact hy.quiet c h

/-- A text of quiet characters shows no mark of a comment. -/
theorem hidden_of_quiet (h : ∀ c ∈ f, IsQuiet c) : Hidden f := by
  obtain ⟨hclosed, hbare⟩ := closed_of_plain fun c hc => (h c hc).1
  refine ⟨hclosed, ?_⟩
  rw [hbare]
  exact fun c hc => (h c hc).2

theorem hidden_enclosed {q : Char} (hq : IsQuote q) (h : q ∉ t) : Hidden (q :: t ++ [q]) := by
  obtain ⟨hclosed, hbare⟩ := closed_enclosed hq h
  have hquote : q ≠ '-' ∧ q ≠ '#' ∧ q ≠ '*' := by
    rcases hq with rfl | rfl <;> decide
  have hblank : ' ' ≠ '-' ∧ ' ' ≠ '#' ∧ ' ' ≠ '*' := by decide
  refine ⟨hclosed, ?_⟩
  intro c hc
  rw [hbare] at hc
  simp only [List.cons_append, List.mem_cons, List.mem_append, List.mem_map,
    List.not_mem_nil, or_false] at hc
  rcases hc with rfl | ⟨-, -, rfl⟩ | rfl
  · exact hquote
  · exact hblank
  · exact hblank

theorem Hidden.join {between : String} (hb : Hidden (chars between)) {ts : List Text}
    (hne : ts ≠ []) (h : ∀ t ∈ ts, Hidden t) : Hidden (Text.join between ts) :=
  Text.join_induction (fun _ _ ht hu => (ht.append hb).append hu) hne h

/-! ## Tokens -/

theorem hidden_name (h : Accepted .name t) : Hidden (Name.render t) := by
  rw [Name.render_eq_join]
  refine Hidden.join (hidden_of_quiet (by with_unfolding_all decide))
    (fun hnil => Name.parts_ne_nil t (List.map_eq_nil_iff.mp hnil)) ?_
  intro part hpart
  obtain ⟨u, hu, rfl⟩ := List.mem_map.mp hpart
  exact hidden_enclosed (Or.inr rfl) (h.part hu).1

/-- Only the first character of an integer is a sign. -/
theorem dash_not_mem_tail_of_isInteger (h : Literal.isInteger t = true) : '-' ∉ t.tail := by
  obtain ⟨digits, hdigits, hsign⟩ := Literal.exists_digits_of_isInteger h
  have hdash : '-' ∉ digits := fun hmem => absurd (hdigits _ hmem) (by decide)
  rcases hsign with rfl | rfl | rfl
  · exact hdash
  · exact hdash
  · exact fun hmem => hdash (List.mem_of_mem_tail hmem)

/-- A written value shows none either, if no quote is in it. -/
theorem mild_literal (h : '\'' ∉ t) : Mild (Literal.render t) [] := by
  rw [Literal.render]
  split
  · rename_i hinteger
    have hchars := Literal.isIntegerChar_of_isInteger hinteger
    obtain ⟨hclosed, hbare⟩ := closed_of_plain fun c hc => opened_of_isIntegerChar (hchars c hc)
    refine ⟨hclosed, ?_, ?_, ?_⟩
    · rw [hbare]
      exact fun hmem => absurd (hchars _ hmem) (by decide)
    · rw [hbare]
      exact noDashes_of_tail (dash_not_mem_tail_of_isInteger hinteger)
    · rw [hbare]
      exact List.count_eq_zero.mpr fun hmem => absurd (hchars _ hmem) (by decide)
  · exact (hidden_enclosed (Or.inl rfl) h).mild

/-- A token that is written as it is shows its own `#`. -/
theorem mild_bare {role : Role} (h : Accepted role t) (hclosed : Closed t) :
    Mild t (bare t) where
  closed := hclosed
  noStar := by
    intro hmem
    rcases eq_space_or_mem_of_mem_bare hmem with hspace | hstar
    · exact absurd hspace (by decide)
    · exact h.star_not_mem hstar
  noDashes := h.noDashes.bare
  count_eq := rfl

namespace Written

/-- What the token shows outside delimiters: all of a token that is written as
    it is, but for its own delimited segments, and nothing of any other. -/
def shown : Written → Text
  | .column t | .verbatim t => bare t
  | .name _ | .literal _ | .database _ => []

/-- A token that fits its place is mild, and its hash marks are among what it
    shows. -/
theorem Fit.mild {w : Written} (h : w.Fit) : Mild w.text w.shown := by
  cases w with
  | name t => exact (hidden_name h).mild
  | column t => exact mild_bare h (inert_column h).closed
  | literal t => exact mild_literal h
  | verbatim t => exact mild_bare h (inert_value h).closed
  | database t => exact (hidden_enclosed (Or.inl rfl) h).mild

end Written

/-! ## Laid texts -/

variable {ws : List Written}

/-- A laid text begins with a piece of the template. -/
theorem Laid.head?_ne (h : Laid t ws) : t.head? ≠ some '-' := by
  have hfirst : ∀ {f : Text} (rest : Text), (∀ c ∈ f, IsQuiet c) → rest.head? ≠ some '-' →
      (f ++ rest).head? ≠ some '-' := by
    intro f rest hf hrest
    cases f with
    | nil => exact hrest
    | cons c f =>
        rintro ⟨⟩
        exact (hf _ (List.mem_cons_self ..)).2.1 rfl
  induction h with
  | nil => exact nofun
  | fixed quiet _ ih => exact hfirst _ quiet ih
  | @token f t ws gap w _ ih =>
      obtain ⟨c, rest, rfl⟩ := List.exists_cons_of_ne_nil gap.ne_nil
      rintro ⟨⟩
      exact (gap.quiet _ (List.mem_cons_self ..)).2.1 rfl

/-- **Laid texts are mild**: no comment mark is made at a seam, and every `#`
    is that of a token. -/
theorem Laid.mild (h : Laid t ws) (hws : ∀ w ∈ ws, w.Fit) :
    Mild t (ws.flatMap Written.shown) := by
  induction h with
  | nil => exact mild_nil
  | @fixed f t ws quiet _ ih =>
      have hf := hidden_of_quiet quiet
      exact hf.mild.append (ih hws) (Or.inl hf.getLast?_ne)
  | @token f t ws gap w rest ih =>
      obtain ⟨hw, hrest⟩ := List.forall_mem_cons.mp hws
      have hf := hidden_of_quiet gap.quiet
      -- the rest begins with the template, and the template ends before the token
      have htail := hw.mild.append (ih hrest) (Or.inr rest.head?_ne)
      exact hf.mild.append htail (Or.inl hf.getLast?_ne)

/-! ## Statements -/

namespace Statement

variable {s : Statement}

/-- The text of a statement that calls can reach is mild. -/
theorem Built.mild (built : s.Built) :
    Mild s.render ((s.nodes.flatMap Clauses.tokens).flatMap Written.shown) := by
  refine built.laid.mild ?_
  intro w hw
  obtain ⟨node, hnode, hwnode⟩ := List.mem_flatMap.mp hw
  exact (built.wellFormed node hnode).fit w hwnode

/-- **Comments**: outside literals and names no text has `--` or `/*`, neither
    in a token nor at a seam, and its `#` are those that the tokens written as
    they are hold outside their delimiters. -/
theorem commentMarks_of_built (built : s.Built) :
    (∀ mark ∈ ["--", "/*"].map chars, ¬ mark <:+: bare s.render) ∧
    (bare s.render).count '#' =
      ((s.nodes.flatMap Clauses.tokens).flatMap Written.shown).count '#' := by
  have h := built.mild
  refine ⟨?_, h.count_eq⟩
  intro mark hmark
  rcases List.mem_pair.mp hmark with rfl | rfl
  · exact not_infix_of_noDashes h.noDashes
  · have hstar : '*' ∈ chars "/*" := by with_unfolding_all decide
    exact fun hinside => h.noStar (hinside.mem hstar)

/-- Dashes at the ends of tokens, a hidden `#` and two bare ones, in a tree. -/
theorem commentMarks_of_built_dashes :
    let child := empty.steps
      [.set (.insert (chars "u") [chars "#"] [chars "c#"]),
       .set (.onDuplicateKey [chars "d#"] [chars "-1"])]
    let s := empty.steps
      [.set (.update (chars "t") (chars "a-") (chars "-5")),
       .set (.whereOne .between (chars "`b#`.#-") (chars "-1 AND -2")), .append child]
    (s.render = chars "UPDATE `t` SET a-=-5 WHERE `b#`.#- BETWEEN -1 AND -2;" ++ ' ' ::
        chars "INSERT INTO `u`(`c#`) VALUES ('#') ON DUPLICATE KEY UPDATE d#=-1;" ∧
      (bare s.render).count '#' = 2) ∧
    (∀ mark ∈ ["--", "/*"].map chars, ¬ mark <:+: bare s.render) ∧
    (bare s.render).count '#' =
      ((s.nodes.flatMap Clauses.tokens).flatMap Written.shown).count '#' := by
  intro child s
  have builtChild : child.Built := .set _ (.set _ .empty)
  refine ⟨by decide +kernel, commentMarks_of_built ?_⟩
  exact .append (.set _ (.set _ .empty)) builtChild

/-- A `#` in a column that is written as it is begins a comment. -/
theorem hash_mem_bare_update :
    let s := empty.steps [.set (.update (chars "t") (chars "a#") (chars "1"))]
    s.Built ∧ s.render = chars "UPDATE `t` SET a#=1;" ∧ '#' ∈ bare s.render := by
  intro s
  exact ⟨.set _ .empty, by decide +kernel⟩

end Statement

end GuardedSql
