import GuardedSql.Proofs.Reading.Column
import GuardedSql.Proofs.Reading.Token
import GuardedSql.Proofs.Statement.Checked

/-! # Reading conditions — from the text of `WHERE` back to its conditions

    After its column a condition goes on with a mark that tells the
    comparator.  The two null checks do not begin with a mark: `IS NULL` and
    the `IS` of `IS NOT NULL` could be words of the column, and only what
    comes after them ends the bare text.  `Comparator.lead` is what is read
    with the column, and `Comparator.opening` the mark from which the
    comparator is told; then the value is read, and the link last. -/

namespace GuardedSql

open Token

variable {x y r r' : Text}

/-! ## Comparators -/

/-- What may follow a condition. -/
def Condition.ends : List Text := [";", " AND ", " OR ", " ORDER BY "].map chars

namespace Comparator

/-- The words of a comparator that are read with the column. -/
def lead : Comparator → Text
  | isNull => chars " IS NULL"
  | isNotNull => chars " IS"
  | _ => []

/-- The mark that tells the comparator. -/
def opening : Comparator → Text
  | isNull => []
  | isNotNull => chars " NOT NULL"
  | c => c.placed

theorem placed_eq (c : Comparator) : c.placed = c.lead ++ c.opening := by
  cases c <;> with_unfolding_all decide

/-- One opening goes on to another only by an equals sign, except that
    `IS NULL` has none. -/
theorem opening_extends : ∀ c ∈ all, ∀ d ∈ all, c.opening <+: d.opening →
    c = d ∨ c = isNull ∨ d.opening = c.opening ++ ['='] := by
  with_unfolding_all decide

/-- The opening of a comparator is told from the end of a condition. -/
theorem unlike_opening : ∀ c ∈ all, c ≠ isNull → Unlike Condition.ends c.opening := by
  with_unfolding_all decide

/-- The opening of a comparator ends the column before it. -/
theorem begins_opening : ∀ c ∈ all, c ≠ isNull → Begins columnEnds c.opening := by
  with_unfolding_all decide

/-- What may follow the opening: no equals sign, and after `IS NULL` the end
    of the condition. -/
structure Follows (c : Comparator) (x : Text) : Prop where
  not_equals : ¬ ['='] <+: x
  null : c = isNull → Begins Condition.ends x

variable {c d : Comparator}

/-- What follows a comparator does not make it a longer one. -/
theorem Follows.excludes (h : c.Follows x) (hne : c ≠ d) (tail : Text)
    (htail : d.opening = c.opening ++ tail) : ¬ tail <+: x := by
  have hpre : c.opening <+: d.opening := ⟨tail, htail.symm⟩
  rcases opening_extends c (mem_all c) d (mem_all d) hpre with hsame | rfl | hequals
  · exact absurd hsame hne
  · -- after `IS NULL` the condition ends, and no opening ends a condition
    have hopening : d.opening = tail := htail
    rw [← hopening]
    exact (h.null rfl).excludes (unlike_opening d (mem_all d) hne.symm)
  · have heq : tail = ['='] := List.append_cancel_left (htail.symm.trans hequals)
    rw [heq]
    exact h.not_equals

/-- **Comparators** are told from their openings. -/
theorem eq_of_opening_append_eq (hx : c.Follows x) (hy : d.Follows y)
    (h : c.opening ++ x = d.opening ++ y) : c = d ∧ x = y :=
  eq_of_mark_append_eq hx.excludes (fun hne => hy.excludes hne.symm) h

/-- The words read with a column are bare, stand apart, and do not begin with
    `BY`. -/
theorem bare_lead : ∀ c ∈ all, Bare c.lead ∧ (∀ e ∈ c.lead.head?, isWordChar e = false) ∧
    (wordsOf c.lead).head? ≠ some (chars "BY") := by
  with_unfolding_all decide

/-- A bare column stays bare with the lead of its comparator. -/
theorem bare_append_lead {column : Text} (h : Bare column) (c : Comparator) :
    Bare (column ++ c.lead) := by
  obtain ⟨hlead, hhead, hby⟩ := bare_lead c (mem_all c)
  exact h.append hlead hhead hby

end Comparator

/-! ## Values -/

/-- What a comparator compares with, as it can be read back. -/
inductive Operand where
  | exact (value : Text)
  | range (bounds : Option (Text × Text))
  | list (items : List Text)
  deriving DecidableEq

/-- The operand that a value stands for in a role. -/
def Operand.ofValue (role : Role) (value : Text) : Operand :=
  match role with
  | .range => .range (Literal.bounds? value)
  | .list => .list (Literal.items value)
  | _ => .exact value

namespace Literal

/-- Values are read back in the role in which they were written. -/
theorem readable_renderAs (role : Role) :
    Readable (renderAs role) (Accepted role) (Begins ends) (Operand.ofValue role) := by
  intro v w hv hw r r' hr hr' h
  cases role with
  | range =>
      obtain ⟨hkey, hrest⟩ := readable_renderRange hv hw hr hr' h
      exact ⟨congrArg Operand.range hkey, hrest⟩
  | list =>
      obtain ⟨hkey, hrest⟩ := readable_renderList hv hw trivial trivial h
      exact ⟨congrArg Operand.list hkey, hrest⟩
  | name | value =>
      obtain ⟨hkey, hrest⟩ := readable_render hv.quote_not_mem hw.quote_not_mem hr hr' h
      exact ⟨congrArg Operand.exact hkey, hrest⟩

/-- No value is written with an equals sign at its beginning. -/
theorem not_prefix_renderAs {role : Role} {value : Text} (h : Accepted role value) (r : Text) :
    ¬ ['='] <+: renderAs role value ++ r := by
  have hliteral : ∀ t r, ¬ ['='] <+: render t ++ r :=
    not_prefix_render (List.cons_ne_nil _ _) (by decide)
  cases role with
  | range =>
      obtain ⟨low, high, hbounds⟩ := h.exists_bounds
      have hwritten : renderAs .range value = render low ++ rangeMark ++ render high := by
        rw [renderAs, renderRange, hbounds]
      rw [hwritten, List.append_assoc, List.append_assoc]
      exact hliteral low _
  | list =>
      rintro ⟨rest, hrest⟩
      exact absurd (List.cons.inj hrest).1 (by decide)
  | name | value => exact hliteral value r

end Literal

/-! ## One condition -/

namespace Condition

/-- The operand of the condition. -/
def operand (d : Condition) : Operand := Operand.ofValue d.comparator.role d.value

/-- A condition is a bare text, an opening and a value. -/
theorem render_eq (d : Condition) :
    d.render = d.column ++ d.comparator.lead ++ (d.comparator.opening ++ d.written) := by
  rw [render_eq_placed, d.comparator.placed_eq]
  simp only [List.append_assoc]

variable {c d : Condition}

/-- The value of a sound condition, and what comes after it, follow its
    comparator. -/
theorem Sound.follows (h : d.Sound) (hr : Begins ends r) :
    d.comparator.Follows (d.written ++ r) := by
  rw [written]
  cases htakes : d.comparator.takesValue with
  | true =>
      rw [if_pos rfl]
      refine ⟨Literal.not_prefix_renderAs (h.value htakes) r, ?_⟩
      intro hnull
      rw [hnull] at htakes
      exact Bool.noConfusion htakes
  | false =>
      rw [if_neg Bool.false_ne_true, List.nil_append]
      exact ⟨hr.excludes (by with_unfolding_all decide), fun _ => hr⟩

/-- The opening of a condition, or what follows it, ends the column. -/
theorem begins_opening_written (hr : Begins ends r) :
    Begins columnEnds (d.comparator.opening ++ (d.written ++ r)) := by
  by_cases hnull : d.comparator = .isNull
  · have hwritten : d.written = [] := by
      rw [written, hnull]
      rfl
    rw [hwritten, hnull]
    exact hr.trans (by with_unfolding_all decide)
  · exact (Comparator.begins_opening _ (Comparator.mem_all _) hnull).append _

/-- With the same comparator, values are read back as operands. -/
theorem eq_of_written_append_eq (hc : c.Sound) (hd : d.Sound)
    (hcomparator : c.comparator = d.comparator) (hr : Begins ends r) (hr' : Begins ends r')
    (h : c.written ++ r = d.written ++ r') : c.operand = d.operand ∧ r = r' := by
  have hends : ∀ mark ∈ ends, Begins Literal.ends mark := by with_unfolding_all decide
  rw [written, written, hcomparator] at h
  rw [operand, operand, hcomparator]
  cases htakes : d.comparator.takesValue with
  | true =>
      rw [htakes, if_pos rfl, if_pos rfl] at h
      have hvalue := hc.value (hcomparator.symm ▸ htakes)
      rw [hcomparator] at hvalue
      exact Literal.readable_renderAs d.comparator.role hvalue (hd.value htakes)
        (hr.trans hends) (hr'.trans hends) h
  | false =>
      rw [htakes, if_neg Bool.false_ne_true, if_neg Bool.false_ne_true] at h
      have hnull : c.value = d.value :=
        (hc.null (hcomparator.symm ▸ htakes)).trans (hd.null htakes).symm
      exact ⟨by rw [hnull], h⟩

/-- **A condition** is read back by its column, its comparator and its
    operand. -/
theorem readable_render :
    Readable render Sound (Begins ends) fun d => (d.column, d.comparator, d.operand) := by
  intro c d hc hd r r' hr hr' h
  rw [render_eq, render_eq] at h
  simp only [List.append_assoc] at h
  rw [← List.append_assoc, ← List.append_assoc d.column] at h
  -- first the bare text, then the comparator, which settles what of the bare
  -- text was the column
  obtain ⟨hbare, htail⟩ := readable_bare (c.comparator.bare_append_lead hc.column.bare)
    (d.comparator.bare_append_lead hd.column.bare) (begins_opening_written hr)
    (begins_opening_written hr') h
  obtain ⟨hcomparator, hvalue⟩ :=
    Comparator.eq_of_opening_append_eq (hc.follows hr) (hd.follows hr') htail
  obtain ⟨hoperand, hrest⟩ := eq_of_written_append_eq hc hd hcomparator hr hr' hvalue
  have hcolumn : c.column ++ c.comparator.lead = d.column ++ d.comparator.lead := hbare
  rw [hcomparator] at hcolumn
  show (c.column, c.comparator, c.operand) = (d.column, d.comparator, d.operand) ∧ r = r'
  rw [List.append_cancel_right hcolumn, hcomparator, hoperand]
  exact ⟨rfl, hrest⟩

end Condition

end GuardedSql
