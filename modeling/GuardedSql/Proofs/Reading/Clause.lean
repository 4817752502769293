import GuardedSql.Proofs.Reading.Condition

/-! # Reading clauses — lists of conditions, assignments and sort keys

    Conditions are told apart by their links: a link is a mark between two
    conditions, and `AND` is told from `AND NOT` since no column begins with
    `NOT`.  Assignments and sort keys are lists between commas, which no
    column holds. -/

namespace GuardedSql

open Token

variable {r r' : Text}

/-! ## Links -/

namespace Conjunction

/-- What stands between a condition and the next one. -/
def mark (link : Conjunction) : Text := link.trailing ++ [' ']

/-- The links that have a text. -/
def links : List Conjunction := [and, or, andNot, orNot]

theorem mem_links {link : Conjunction} (h : link ≠ none) : link ∈ links := by
  cases link <;> first | decide | exact absurd rfl h

/-- One link goes on to another only by `NOT`. -/
theorem mark_extends : ∀ i ∈ links, ∀ j ∈ links, i.mark <+: j.mark →
    i = j ∨ j.mark = i.mark ++ chars "NOT " := by
  with_unfolding_all decide

/-- The mark of a link ends a condition. -/
theorem begins_mark : ∀ i ∈ links, Begins Condition.ends i.mark := by
  with_unfolding_all decide

variable {i j : Conjunction} {x y : Text}

/-- **Links** are told from their texts, if no condition begins with
    `NOT`. -/
theorem eq_of_mark_append_eq (hi : i ≠ none) (hj : j ≠ none) (hx : ¬ chars "NOT " <+: x)
    (hy : ¬ chars "NOT " <+: y) (h : i.mark ++ x = j.mark ++ y) : i = j ∧ x = y := by
  have htail : ∀ {i j : Conjunction} {x : Text}, i ≠ none → j ≠ none → ¬ chars "NOT " <+: x →
      i ≠ j → ∀ tail, j.mark = i.mark ++ tail → ¬ tail <+: x := by
    intro i j x hi hj hx hne tail hmark
    have hpre : i.mark <+: j.mark := ⟨tail, hmark.symm⟩
    rcases mark_extends i (mem_links hi) j (mem_links hj) hpre with hsame | hnot
    · exact absurd hsame hne
    · rw [List.append_cancel_left (hmark.symm.trans hnot)]
      exact hx
  exact GuardedSql.eq_of_mark_append_eq (htail hi hj hx)
    (fun hne => htail hj hi hy hne.symm) h

end Conjunction

/-! ## Conditions -/

namespace Condition

/-- What a condition says. -/
structure Content where
  column : Text
  comparator : Comparator
  operand : Operand
  link : Conjunction
  deriving DecidableEq

/-- The content of a condition. -/
def content (d : Condition) : Content := ⟨d.column, d.comparator, d.operand, d.link⟩

variable {c d : Condition}

theorem content_eq
    (hkey : (c.column, c.comparator, c.operand) = (d.column, d.comparator, d.operand))
    (hlink : c.link = d.link) : c.content = d.content := by
  obtain ⟨hcolumn, hrest⟩ := Prod.mk.inj hkey
  obtain ⟨hcomparator, hoperand⟩ := Prod.mk.inj hrest
  rw [content, content, hcolumn, hcomparator, hoperand, hlink]

/-- No condition begins with `NOT`. -/
theorem Sound.not_prefix_not (h : d.Sound) (x : Text) : ¬ chars "NOT " <+: d.render ++ x := by
  have hplaced : ∀ c ∈ Comparator.all, ∃ e ∈ c.placed.head?, isWordChar e = false := by
    with_unfolding_all decide
  have hnot : chars "NOT" ++ [' '] = chars "NOT " := by with_unfolding_all decide
  obtain ⟨e, he, hword⟩ := hplaced d.comparator (Comparator.mem_all _)
  rw [render_eq_placed, List.append_assoc, List.append_assoc, ← hnot]
  refine h.column.bare.not_prefix_keyword ⟨e, ?_, hword⟩ (by with_unfolding_all decide)
  rw [List.head?_append, he]
  rfl

/-- What comes after a condition: the link and the other conditions, or what
    comes after all of them. -/
def tail (d : Condition) (rest : List Condition) (r : Text) : Text :=
  if rest.isEmpty then r else d.link.trailing ++ (renderAll rest ++ r)

/-- Conditions are written as the first one and its tail. -/
theorem renderAll_cons_append (d : Condition) (rest : List Condition) (r : Text) :
    renderAll (d :: rest) ++ r = ' ' :: (d.render ++ d.tail rest r) := by
  cases rest with
  | nil => rfl
  | cons e rest =>
      rw [renderAll, tail, List.append_assoc, List.append_assoc]
      · rfl
      · exact nofun

@[simp] theorem tail_cons (d e : Condition) (rest : List Condition) (r : Text) :
    d.tail (e :: rest) r = d.link.mark ++ (e.render ++ e.tail rest r) := by
  rw [tail, renderAll_cons_append, Conjunction.mark, List.append_assoc]
  rfl

/-- What may follow the last condition. -/
def lastEnds : List Text := [";", " ORDER BY "].map chars

/-- The tail of a condition begins with something that ends it. -/
theorem begins_tail {rest : List Condition} (h : Linked (d :: rest)) (hr : Begins lastEnds r) :
    Begins ends (d.tail rest r) := by
  cases rest with
  | nil => exact hr.trans (by with_unfolding_all decide)
  | cons e rest =>
      rw [tail_cons]
      exact (Conjunction.begins_mark _ (Conjunction.mem_links h.1)).append _

theorem Linked.tail {rest : List Condition} (h : Linked (d :: rest)) : Linked rest := by
  cases rest with
  | nil => trivial
  | cons e rest => exact h.2

/-- A last condition and one that is not are told apart. -/
theorem ne_tail_cons {e : Condition} (hlink : d.link ≠ .none) (rest : List Condition)
    (hr : Begins lastEnds r) : r ≠ d.tail (e :: rest) r' := by
  have hunlike : ∀ i ∈ Conjunction.links, Unlike lastEnds i.mark := by with_unfolding_all decide
  intro h
  rw [tail_cons] at h
  exact hr.excludes (hunlike _ (Conjunction.mem_links hlink)) ⟨_, h.symm⟩

/-- **Conditions** are read back one by one, with their links. -/
theorem readable_renderAll :
    Readable renderAll (fun cs => cs ≠ [] ∧ Linked cs ∧ ∀ d ∈ cs, d.Sound) (Begins lastEnds)
      (List.map content) := by
  rintro cs ds ⟨hcne, hclinked, hcs⟩ ⟨hdne, hdlinked, hds⟩ r r' hr hr' h
  induction cs generalizing ds with
  | nil => exact absurd rfl hcne
  | cons c cs ih =>
      obtain ⟨d, ds, rfl⟩ := List.exists_cons_of_ne_nil hdne
      obtain ⟨hc, hcs⟩ := List.forall_mem_cons.mp hcs
      obtain ⟨hd, hds⟩ := List.forall_mem_cons.mp hds
      rw [renderAll_cons_append, renderAll_cons_append] at h
      obtain ⟨hkey, htail⟩ := readable_render hc hd (begins_tail hclinked hr)
        (begins_tail hdlinked hr') (List.cons.inj h).2
      -- the links tell whether another condition follows
      cases cs with
      | nil =>
          cases ds with
          | nil =>
              have hlink : c.link = d.link := hclinked.trans hdlinked.symm
              rw [List.map_singleton, List.map_singleton, content_eq hkey hlink]
              exact ⟨rfl, htail⟩
          | cons d' ds => exact absurd htail (ne_tail_cons hdlinked.1 ds hr)
      | cons c' cs =>
          cases ds with
          | nil => exact absurd htail.symm (ne_tail_cons hclinked.1 cs hr')
          | cons d' ds =>
              rw [tail_cons, tail_cons] at htail
              obtain ⟨hc', -⟩ := List.forall_mem_cons.mp hcs
              obtain ⟨hd', -⟩ := List.forall_mem_cons.mp hds
              obtain ⟨hlink, hnext⟩ := Conjunction.eq_of_mark_append_eq hclinked.1 hdlinked.1
                (hc'.not_prefix_not _) (hd'.not_prefix_not _) htail
              have hall : renderAll (c' :: cs) ++ r = renderAll (d' :: ds) ++ r' := by
                rw [renderAll_cons_append, renderAll_cons_append, hnext]
              obtain ⟨hcontents, hr⟩ := ih (List.cons_ne_nil _ _) hclinked.tail hcs
                (List.cons_ne_nil _ _) hdlinked.tail hds hall
              exact ⟨List.cons_eq_cons.mpr ⟨content_eq hkey hlink, hcontents⟩, hr⟩

end Condition

/-! ## Assignments -/

namespace Assignment

/-- What may follow the last assignment. -/
def ends : List Text := [" ", ";"].map chars

/-- **An assignment** is read back exactly. -/
theorem readable_render :
    Readable (fun a : Assignment => a.column ++ '=' :: Literal.render a.value) Sound
      (Begins Literal.ends) id := by
  intro a b ha hb r r' hr hr' h
  simp only [List.append_assoc, List.cons_append] at h
  have hequals : Begins columnEnds ['='] := by with_unfolding_all decide
  obtain ⟨hcolumn, htail⟩ := readable_bare ha.column.bare hb.column.bare (hequals.append _)
    (hequals.append _) h
  obtain ⟨hvalue, hrest⟩ := Literal.readable_render ha.value.quote_not_mem
    hb.value.quote_not_mem hr hr' (List.cons.inj htail).2
  refine ⟨?_, hrest⟩
  obtain ⟨column, value⟩ := a
  obtain ⟨column', value'⟩ := b
  rw [show column = column' from hcolumn, show value = value' from hvalue]

/-- Assignments are read back one by one. -/
theorem readable_renderAll :
    Readable renderAll (fun pairs => pairs ≠ [] ∧ ∀ a ∈ pairs, a.Sound) (Begins ends) id :=
  readable_render.join_exact ", " (by with_unfolding_all decide) (by with_unfolding_all decide)
    (by with_unfolding_all decide)

end Assignment

/-! ## Sort keys -/

namespace SortKey

/-- The direction is the last word, and no column ends with it. -/
theorem eq_of_append_direction_eq {x y : Text} {i j : Direction}
    (h : x ++ ' ' :: i.keyword = y ++ ' ' :: j.keyword) : x = y ∧ i = j := by
  have hword : ∀ i : Direction, wordsOf i.keyword = [i.keyword] := by
    intro i
    cases i <;> with_unfolding_all decide
  have hinjective : ∀ i j : Direction, i.keyword = j.keyword → i = j := by
    intro i j
    cases i <;> cases j <;> with_unfolding_all decide
  -- compare the last words
  have hwords := congrArg wordsOf h
  rw [wordsOf_append_space, wordsOf_append_space, hword, hword] at hwords
  have hdirection : i = j := hinjective i j (List.cons.inj (List.append_inj_right' hwords rfl)).1
  rw [hdirection] at h
  exact ⟨List.append_cancel_right h, hdirection⟩

/-- **A sort key** is read back exactly. -/
theorem readable_render :
    Readable (fun key : SortKey => key.column ++ ' ' :: key.direction.keyword)
      (fun key => Accepted .name key.column) (Begins ([",", ";"].map chars)) id := by
  have hends : ∀ {r}, Begins ([",", ";"].map chars) r → ∃ c ∈ r.head?, c ∈ [',', ';'] := by
    intro r hr
    exact hr.head (by with_unfolding_all decide)
  have hplain : ∀ key : SortKey, Accepted .name key.column →
      ∀ c ∈ key.column ++ ' ' :: key.direction.keyword, ¬ c ∈ [',', ';'] := by
    intro key hkey c hc
    have hsymbols : ∀ c ∈ [',', ';'], c ∈ nameSymbols := by decide
    have hdirection : ∀ c ∈ ' ' :: key.direction.keyword, c ∉ [',', ';'] := by
      cases key.direction <;> with_unfolding_all decide
    rcases List.mem_append.mp hc with hcolumn | hkeyword
    · exact fun hmem => hkey.bare.symbols c hcolumn (hsymbols c hmem)
    · exact hdirection c hkeyword
  intro key key' hkey hkey' r r' hr hr' h
  obtain ⟨htext, hrest⟩ := eq_of_append_eq_of_class (hends hr) (hends hr') (hplain key hkey)
    (hplain key' hkey') h
  obtain ⟨hcolumn, hdirection⟩ := eq_of_append_direction_eq htext
  refine ⟨?_, hrest⟩
  obtain ⟨column, direction⟩ := key
  obtain ⟨column', direction'⟩ := key'
  rw [show column = column' from hcolumn, show direction = direction' from hdirection]

/-- Sort keys are read back one by one. -/
theorem readable_join :
    Readable (fun keys : List SortKey => Text.join ", " (keys.map fun key =>
        key.column ++ ' ' :: key.direction.keyword))
      (fun keys => keys ≠ [] ∧ ∀ key ∈ keys, Accepted .name key.column) (Begins [chars ";"])
      id :=
  readable_render.join_exact ", " (by with_unfolding_all decide) (by with_unfolding_all decide)
    (by with_unfolding_all decide)

end SortKey

end GuardedSql
