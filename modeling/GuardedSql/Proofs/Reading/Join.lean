import GuardedSql.Proofs.Reading.Clause
import GuardedSql.Proofs.Statement.Invariant

/-! # Reading joins — where the bare value of a join ends

    The value of a join is written as it is, and like a column it ends where
    the first mark begins that it cannot hold: the keywords of another join,
    `WHERE`, `ORDER BY` or the semicolon.  `LEFT`, `RIGHT` and `FULL` are no
    keywords for the guard, but `OUTER` is, and no mark begins with it. -/

namespace GuardedSql

namespace Token

variable {role : Role} {token a s u v : Text} {words : List Text}

/-- Outside ranges, words are tested alike in every role. -/
theorem keywordIn?_of_ne_range (h : role ≠ .range) :
    keywordIn? role words = keywordIn? .name words := by
  induction words with
  | nil => rfl
  | cons word rest ih =>
      rw [keywordIn?_name_cons, keywordIn?, if_neg fun hand => h hand.2, ih]

theorem Accepted.bare_value (h : Accepted .value token) : Bare token where
  symbols := by
    intro c hc hmem
    have hsymbol : ∀ c ∈ nameSymbols, [c] ∈ symbols := by with_unfolding_all decide
    exact h.not_mem (hsymbol c hmem) nofun hc
  words := by
    obtain ⟨-, -, -, -, hwords, -⟩ := accepted_iff.mp h
    have hrole : Role.value ≠ .range := nofun
    rw [keywordIn?_of_ne_range hrole] at hwords
    exact hwords

/-- A keyword is found after any other word. -/
theorem keywordIn?_keyword {second : Text} (hkey : second ∈ keywords) (first : Text)
    (before after : List Text) : keywordIn? .name (before ++ first :: second :: after) ≠ none := by
  intro h
  have hmem : second ∈ before ++ first :: second :: after := by simp
  exact nomatch (not_mem_keywords_of_keywordIn? h hmem hkey).2

end Token

open Token

variable {r r' : Text}

/-! ## Kinds -/

namespace JoinKind

/-- All kinds. -/
def all : List JoinKind := [inner, left, right, full, cross, natural]

theorem mem_all (kind : JoinKind) : kind ∈ all := by
  cases kind <;> decide

/-- The words with which a join begins. -/
def mark (kind : JoinKind) : Text := ' ' :: kind.keyword ++ chars " JOIN "

/-- No kind of join begins like another. -/
theorem mark_extends : ∀ i ∈ all, ∀ j ∈ all, i.mark <+: j.mark → i = j := by
  with_unfolding_all decide

/-- **Kinds** are told from their words. -/
theorem eq_of_mark_append_eq {i j : JoinKind} {x y : Text} (h : i.mark ++ x = j.mark ++ y) :
    i = j ∧ x = y := by
  refine GuardedSql.eq_of_mark_append_eq ?_ ?_ h
  · intro hne tail hmark
    exact absurd (mark_extends i (mem_all i) j (mem_all j) ⟨tail, hmark.symm⟩) hne
  · intro hne tail hmark
    exact absurd (mark_extends j (mem_all j) i (mem_all i) ⟨tail, hmark.symm⟩).symm hne

end JoinKind

/-! ## Values -/

/-- What may follow the last join. -/
def whereEnds : List Text := [" WHERE ", " ORDER BY ", ";"].map chars

/-- What may follow a join. -/
def joinEnds : List Text := JoinKind.all.map JoinKind.mark ++ whereEnds

/-- Pairs of words that no accepted value holds one after the other. -/
def wordPairs : List (Text × Text) :=
  [("ORDER", "BY"), ("LEFT", "OUTER"), ("RIGHT", "OUTER"), ("FULL", "OUTER")].map fun pair =>
    (chars pair.1, chars pair.2)

/-- Two words between spaces. -/
def spacedPair (pair : Text × Text) : Text := ' ' :: (pair.1 ++ ' ' :: (pair.2 ++ [' ']))

/-- What ends a join is a semicolon, a keyword between spaces, or a pair of
    words. -/
theorem joinEnds_cases : ∀ mark ∈ joinEnds, mark = chars ";" ∨
    (∃ key ∈ keywords, ' ' :: (key ++ [' ']) <+: mark) ∨
      ∃ pair ∈ wordPairs, spacedPair pair <+: mark := by
  with_unfolding_all decide

theorem wordPairs_words : ∀ pair ∈ wordPairs,
    (wordsOf pair.1 = [pair.1] ∧ ∀ c ∈ pair.1, isWordChar c = true) ∧
    pair.2 ≠ [] ∧ (∀ c ∈ pair.2, isWordChar c = true) ∧ Text.upper pair.2 = pair.2 := by
  with_unfolding_all decide

/-- A name cannot hold such a pair. -/
theorem keywordIn?_wordPairs : ∀ pair ∈ wordPairs, ∀ before after,
    keywordIn? .name (before ++ pair.1 :: pair.2 :: after) ≠ none := by
  intro pair hpair
  have hkeyword : ∀ pair ∈ wordPairs, pair = (chars "ORDER", chars "BY") ∨ pair.2 ∈ keywords := by
    with_unfolding_all decide
  rcases hkeyword pair hpair with rfl | hkey
  · exact keywordIn?_order_by
  · exact keywordIn?_keyword hkey pair.1

/-- No mark begins with the second word of a pair. -/
theorem unlike_second : ∀ pair ∈ wordPairs, Unlike joinEnds (' ' :: (pair.2 ++ [' '])) := by
  with_unfolding_all decide

/-- **The seam**: where a mark follows the value of a join, no mark begins
    inside the value. -/
theorem Token.Bare.not_begins_joinEnds {a s : Text} (ha : Bare a) (hs : Begins joinEnds s) :
    ∀ u v, a = u ++ v → v ≠ [] → ¬ Begins joinEnds (v ++ s) := by
  have hhead : ∃ c ∈ s.head?, isWordChar c = false := hs.head (by with_unfolding_all decide)
  rintro u v rfl hne ⟨mark, hmark, hpre⟩
  rcases joinEnds_cases mark hmark with rfl | ⟨key, hkey, hkeyword⟩ | ⟨pair, hpair, hwords⟩
  · have hsemicolon : chars ";" = [';'] ∧ ';' ∈ nameSymbols := by with_unfolding_all decide
    obtain ⟨d, v, rfl⟩ := List.exists_cons_of_ne_nil hne
    obtain ⟨rest, hrest⟩ := hpre
    rw [hsemicolon.1] at hrest
    obtain rfl := (List.cons.inj hrest).1
    exact ha.symbols _ (by simp) hsemicolon.2
  · exact ha.not_prefix_spaced_keyword hne hhead hkey (hkeyword.trans hpre)
  · obtain ⟨hfirst, hsecond⟩ := wordPairs_words pair hpair
    exact ha.not_prefix_two_words hne hhead hfirst hsecond (keywordIn?_wordPairs pair hpair)
      (hs.excludes (unlike_second pair hpair)) (hwords.trans hpre)

/-- **Values of joins** are read back exactly. -/
theorem readable_joinValue :
    Readable (fun t : Text => t) (Accepted .value) (Begins joinEnds) id := by
  intro x y hx hy r r' hr hr' h
  exact eq_of_append_eq (Begins joinEnds) hr hr' (hx.bare_value.not_begins_joinEnds hr)
    (hy.bare_value.not_begins_joinEnds hr') h

/-! ## Joins -/

namespace Join

/-- What a join says. -/
structure Content where
  kind : JoinKind
  table : List Text
  predicate : Option (List Text × Text)
  deriving DecidableEq

/-- The content of a join: names count by their parts. -/
def content (j : Join) : Content :=
  ⟨j.kind, Name.parts j.table, j.predicate.map fun on => (Name.parts on.column, on.value)⟩

variable {j k : Join}

/-- A join is its mark, its table and its predicate. -/
theorem render_eq (j : Join) (h : j.Sound) :
    j.render = j.kind.mark ++ (Name.render j.table ++
      match j.predicate with
      | some on => chars " ON " ++ Name.render on.column ++ '=' :: on.value
      | none => []) := by
  have hpredicate := h.predicate
  rw [render, JoinKind.mark]
  cases hon : j.predicate with
  | none => simp only [List.append_assoc]
  | some on =>
      rw [hon] at hpredicate
      simp only [← hpredicate, Option.isSome_some, if_true, List.append_assoc]

/-- **A join** is read back by its content. -/
theorem readable_render : Readable render Sound (Begins joinEnds) content := by
  have hon : ∀ x, ¬ chars "." <+: chars " ON " ++ x := by
    have hspace : Begins [chars " ON "] (chars " ON ") := by with_unfolding_all decide
    exact fun x => (hspace.append x).excludes (by with_unfolding_all decide)
  have hequals : ∀ x, ¬ chars "." <+: '=' :: x := by
    have hequals : Begins [['=']] ['='] := by decide
    exact fun x => (hequals.append x).excludes (by with_unfolding_all decide)
  have hends : ∀ {r}, Begins joinEnds r → ¬ chars "." <+: r :=
    fun hr => hr.excludes (by with_unfolding_all decide)
  intro j k hj hk r r' hr hr' h
  rw [render_eq j hj, render_eq k hk] at h
  simp only [List.append_assoc] at h
  obtain ⟨hkind, htable⟩ := JoinKind.eq_of_mark_append_eq h
  -- joins of one kind have both a predicate or both none
  have hsome : j.predicate.isSome = k.predicate.isSome := by
    rw [hj.predicate, hk.predicate, hkind]
  rw [content, content, hkind]
  cases hjp : j.predicate with
  | none =>
      cases hkp : k.predicate with
      | some on =>
          rw [hjp, hkp] at hsome
          exact Bool.noConfusion hsome
      | none =>
          rw [hjp, hkp] at htable
          obtain ⟨hparts, hrest⟩ :=
            Name.readable_parts hj.table hk.table (hends hr) (hends hr') htable
          rw [hparts]
          exact ⟨rfl, hrest⟩
  | some on =>
      cases hkp : k.predicate with
      | none =>
          rw [hjp, hkp] at hsome
          exact Bool.noConfusion hsome
      | some on' =>
          rw [hjp, hkp] at htable
          simp only [List.append_assoc, List.cons_append] at htable
          obtain ⟨hparts, hrest⟩ := Name.readable_parts hj.table hk.table (hon _) (hon _) htable
          obtain ⟨hcolumn, hrest⟩ := Name.readable_parts (hj.column on hjp) (hk.column on' hkp)
            (hequals _) (hequals _) (List.append_cancel_left hrest)
          obtain ⟨hvalue, hrest⟩ := readable_joinValue (hj.value on hjp) (hk.value on' hkp) hr hr'
            (List.cons.inj hrest).2
          rw [hparts, Option.map_some, Option.map_some, hcolumn,
            show on.value = on'.value from hvalue]
          exact ⟨rfl, hrest⟩

/-- The text of a join begins with its mark. -/
theorem mark_prefix_render (h : j.Sound) : j.kind.mark <+: j.render := by
  rw [render_eq j h]
  exact List.prefix_append _ _

/-- **Joins** are read back one by one. -/
theorem readable_renderAll :
    Readable (fun joins => joins.flatMap render) (fun joins => ∀ j ∈ joins, j.Sound)
      (Begins whereEnds) (List.map content) := by
  have hunlike : ∀ kind ∈ JoinKind.all, Unlike whereEnds kind.mark := by with_unfolding_all decide
  refine readable_render.flatMap _ ?_ ?_ ?_
  · intro j hj r
    have hmark : j.kind.mark ∈ joinEnds :=
      List.mem_append_left _ (List.mem_map_of_mem (JoinKind.mem_all j.kind))
    exact ⟨_, hmark, (mark_prefix_render hj).trans (List.prefix_append _ _)⟩
  · intro r hr
    exact hr.trans fun mark hmark => ⟨mark, List.mem_append_right _ hmark, List.prefix_rfl⟩
  · intro j hj r hr hpre
    exact hr.excludes (hunlike _ (JoinKind.mem_all j.kind)) ((mark_prefix_render hj).trans hpre)

end Join

end GuardedSql
