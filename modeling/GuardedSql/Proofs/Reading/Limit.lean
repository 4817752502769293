import GuardedSql.Proofs.Reading.Clause
import GuardedSql.Proofs.Statement.Invariant
import GuardedSql.Proofs.Text.Digits

/-! # Reading limits — the last part of a select, read from its end

    `LIMIT` is no keyword that the guard knows, so bare tokens may hold it, and
    a limit cannot be found from the front.  It is found from the end: digits,
    and the word before them.  Any other part of a select that may stand last
    is told from a limit by its last character, or by what stands before its
    digits.  The one exception is the value of a join, which is written as it
    is. -/

namespace GuardedSql

open Token

variable {t x y mark : Text}

/-- The text ends like a limit. -/
def EndsInLimit (t : Text) : Prop := ∃ n, 0 < n ∧ chars " LIMIT " ++ Text.ofNat n <:+ t

/-- No text with this end ends like a limit. -/
def NoLimit (y : Text) : Prop := ∀ x, ¬ EndsInLimit (x ++ y)

/-! ## Numbers -/

/-- Before the digits of a limit stands its word. -/
theorem exists_getLast?_limit (x : Text) :
    ∃ c ∈ (x ++ chars " LIMIT ").getLast?, ¬ Literal.IsIntegerChar c := by
  have hlast : (chars " LIMIT ").getLast? = some ' ' := by with_unfolding_all decide
  refine ⟨' ', ?_, by decide⟩
  rw [List.getLast?_append, hlast]
  rfl

/-- **The cut**: what stands before a number is told by the text. -/
theorem eq_of_append_limit_eq {n : Nat} {digits : Text}
    (hy : ∃ c ∈ y.getLast?, ¬ Literal.IsIntegerChar c)
    (hdigits : ∀ c ∈ digits, Literal.IsIntegerChar c)
    (h : x ++ (chars " LIMIT " ++ Text.ofNat n) = y ++ digits) :
    x ++ chars " LIMIT " = y ∧ Text.ofNat n = digits := by
  rw [← List.append_assoc] at h
  exact eq_of_append_eq_of_last_class (exists_getLast?_limit x) hy
    (fun c hc => not_not_intro (Literal.isIntegerChar_of_mem_ofNat hc))
    (fun c hc => not_not_intro (hdigits c hc)) h

/-! ## Ends that are no limit -/

/-- A limit ends with a digit. -/
theorem noLimit_of_getLast? (h : ∃ c ∈ y.getLast?, ¬ Literal.IsIntegerChar c) : NoLimit y := by
  rintro x ⟨n, -, front, hfront⟩
  obtain ⟨c, hc, hnot⟩ := h
  have hdigits : Text.ofNat n ≠ [] := Nat.toDigits_ne_nil
  have hlast : (front ++ (chars " LIMIT " ++ Text.ofNat n)).getLast? = (Text.ofNat n).getLast? := by
    rw [List.getLast?_append, List.getLast?_append, List.getLast?_eq_some_getLast hdigits]
    rfl
  rw [hfront, List.getLast?_append, hc] at hlast
  exact hnot (Literal.isIntegerChar_of_mem_ofNat (List.mem_of_getLast? hlast.symm))

theorem NoLimit.append (h : NoLimit y) (x : Text) : NoLimit (x ++ y) := by
  intro z hz
  rw [← List.append_assoc] at hz
  exact h (z ++ x) hz

/-- A part that may be missing does not matter. -/
theorem NoLimit.append_optional (hx : NoLimit x) (hy : y = [] ∨ NoLimit y) : NoLimit (x ++ y) := by
  rcases hy with rfl | hy
  · rw [List.append_nil]
    exact hx
  · exact hy.append x

/-- A join does not end like a limit if none of its texts does. -/
theorem NoLimit.join {between : String} {ts : List Text} (hne : ts ≠ [])
    (h : ∀ t ∈ ts, NoLimit t) : NoLimit (Text.join between ts) :=
  Text.join_induction (fun _ _ _ hu => hu.append _) hne h

theorem noLimit_quoted {q : Char} (hq : ¬ Literal.IsIntegerChar q) (t : Text) :
    NoLimit (q :: t ++ [q]) :=
  noLimit_of_getLast? ⟨q, List.getLast?_concat, hq⟩

/-- The mark ends with no digit, and neither it nor the word of a limit ends
    with the other. -/
def UnlikeLimit (mark : Text) : Prop :=
  (∃ c ∈ mark.getLast?, ¬ Literal.IsIntegerChar c) ∧
    ¬ mark <:+ chars " LIMIT " ∧ ¬ chars " LIMIT " <:+ mark

instance (mark : Text) : Decidable (UnlikeLimit mark) := inferInstanceAs (Decidable (_ ∧ _ ∧ _))

/-- An integer after such a mark is no limit, and a quoted literal is none
    anyway. -/
theorem noLimit_literal (hmark : UnlikeLimit mark) (t : Text) :
    NoLimit (mark ++ Literal.render t) := by
  obtain ⟨⟨e, he, hnot⟩, hlong, hshort⟩ := hmark
  rw [Literal.render]
  split
  · rename_i hinteger
    rintro x ⟨n, -, front, hfront⟩
    rw [← List.append_assoc x] at hfront
    have hlast : ∃ c ∈ (x ++ mark).getLast?, ¬ Literal.IsIntegerChar c := by
      refine ⟨e, ?_, hnot⟩
      rw [List.getLast?_append, he]
      rfl
    obtain ⟨hbefore, -⟩ :=
      eq_of_append_limit_eq hlast (Literal.isIntegerChar_of_isInteger hinteger) hfront
    -- both the mark and the word end the same text
    have hword : chars " LIMIT " <:+ x ++ mark := ⟨front, hbefore⟩
    rcases List.suffix_or_suffix_of_suffix hword (List.suffix_append x mark) with h | h
    · exact hshort h
    · exact hlong h
  · exact (noLimit_quoted (by decide) t).append mark

/-- The value of a join is no limit if it does not end like one. -/
theorem noLimit_value {value : Text} (h : ¬ EndsInLimit value) : NoLimit ('=' :: value) := by
  rintro x ⟨n, hpos, hends⟩
  have hequals : '=' ∉ chars " LIMIT " ++ Text.ofNat n := by
    refine List.not_mem_append (by with_unfolding_all decide) fun hmem => ?_
    exact absurd (Literal.isIntegerChar_of_mem_ofNat hmem) (by decide)
  rcases List.suffix_or_suffix_of_suffix hends (List.suffix_append x ('=' :: value)) with
    hlimit | hvalue
  · rcases List.suffix_cons_iff.mp hlimit with heq | hinside
    · rw [heq] at hequals
      exact hequals (List.mem_cons_self ..)
    · exact h ⟨n, hpos, hinside⟩
  · exact hequals (hvalue.mem (List.mem_cons_self ..))

/-! ## The parts of a select -/

/-- A name ends with a backtick, and so with no limit. -/
theorem noLimit_name (name : Text) : NoLimit (Name.render name) := by
  rw [Name.render_eq_join]
  refine .join (fun h => Name.parts_ne_nil name (List.map_eq_nil_iff.mp h)) ?_
  intro t ht
  obtain ⟨part, -, rfl⟩ := List.mem_map.mp ht
  exact noLimit_quoted (by decide) part

theorem noLimit_names {names : List Text} (hne : names ≠ []) : NoLimit (Name.renderAll names) := by
  refine .join (fun h => hne (List.map_eq_nil_iff.mp h)) ?_
  intro t ht
  obtain ⟨name, -, rfl⟩ := List.mem_map.mp ht
  exact noLimit_name name

/-- A written value is no limit after a mark that is unlike one. -/
theorem noLimit_renderAs {role : Role} {value : Text} (h : Accepted role value)
    (hmark : UnlikeLimit mark) : NoLimit (mark ++ Literal.renderAs role value) := by
  cases role with
  | name | value => exact noLimit_literal hmark value
  | range =>
      have hand : UnlikeLimit Literal.rangeMark := by with_unfolding_all decide
      obtain ⟨low, high, hbounds⟩ := h.exists_bounds
      have hwritten : Literal.renderAs .range value =
          Literal.render low ++ (Literal.rangeMark ++ Literal.render high) := by
        rw [Literal.renderAs, Literal.renderRange, hbounds]
        exact List.append_assoc ..
      rw [hwritten]
      exact ((noLimit_literal hand high).append _).append _
  | list => exact (noLimit_of_getLast? ⟨')', List.getLast?_concat, by decide⟩).append _

/-- Marks before a value are unlike a limit, and null checks end with a
    letter. -/
theorem unlikeLimit_placed : ∀ c ∈ Comparator.all, if c.takesValue then UnlikeLimit c.placed
    else ∃ e ∈ c.placed.getLast?, ¬ Literal.IsIntegerChar e := by
  with_unfolding_all decide

/-- A sound condition does not end like a limit. -/
theorem noLimit_condition {d : Condition} (h : d.Sound) : NoLimit d.render := by
  have hmark := unlikeLimit_placed d.comparator (Comparator.mem_all d.comparator)
  rw [Condition.render_eq_placed, Condition.written, List.append_assoc]
  refine NoLimit.append ?_ _
  cases htakes : d.comparator.takesValue with
  | false =>
      rw [htakes, if_neg Bool.false_ne_true] at hmark
      rw [if_neg Bool.false_ne_true, List.append_nil]
      exact noLimit_of_getLast? hmark
  | true =>
      rw [htakes, if_pos rfl] at hmark
      exact noLimit_renderAs (h.value htakes) hmark

/-- Nor do sound conditions in a row. -/
theorem noLimit_conditions {cs : List Condition} (hne : cs ≠ []) (h : ∀ d ∈ cs, d.Sound) :
    NoLimit (Condition.renderAll cs) := by
  induction cs with
  | nil => exact absurd rfl hne
  | cons d rest ih =>
      obtain ⟨hd, hrest⟩ := List.forall_mem_cons.mp h
      cases rest with
      | nil => exact (noLimit_condition hd).append [' ']
      | cons e rest =>
          have htail := (ih (List.cons_ne_nil e rest) hrest).append d.link.trailing
          have hall := htail.append (' ' :: d.render)
          rw [← List.append_assoc] at hall
          exact hall

/-- An order ends with a direction. -/
theorem noLimit_sortKeys {keys : List SortKey} (hne : keys ≠ []) :
    NoLimit (Text.join ", " (keys.map fun key => key.column ++ ' ' :: key.direction.keyword)) := by
  refine .join (fun h => hne (List.map_eq_nil_iff.mp h)) ?_
  intro t ht
  obtain ⟨key, -, rfl⟩ := List.mem_map.mp ht
  refine NoLimit.append (noLimit_of_getLast? ?_) _
  cases key.direction <;> with_unfolding_all decide

namespace Clauses

variable {c d : Clauses}

/-- The conditions of a node do not end like a limit, if there are any. -/
theorem noLimit_where (h : c.WellFormed) :
    c.conditions = [] ∧ c.renderWhere = [] ∨ NoLimit c.renderWhere := by
  rw [renderWhere]
  split
  · rename_i hempty
    exact Or.inl ⟨List.isEmpty_iff.mp hempty, rfl⟩
  · rename_i hne
    have hconditions : c.conditions ≠ [] := fun hnil => hne (List.isEmpty_iff.mpr hnil)
    exact Or.inr ((noLimit_conditions hconditions h.conditions).append _)

theorem noLimit_order (c : Clauses) :
    c.sortKeys = [] ∧ c.renderOrder = [] ∨ NoLimit c.renderOrder := by
  rw [renderOrder]
  split
  · rename_i hempty
    exact Or.inl ⟨List.isEmpty_iff.mp hempty, rfl⟩
  · rename_i hne
    exact Or.inr ((noLimit_sortKeys fun hnil => hne (List.isEmpty_iff.mpr hnil)).append _)

theorem noLimit_from (c : Clauses) : c.renderFrom = [] ∨ NoLimit c.renderFrom := by
  rw [renderFrom]
  split
  · exact Or.inl rfl
  · rename_i hne
    exact Or.inr ((noLimit_names fun hnil => hne (List.isEmpty_iff.mpr hnil)).append _)

theorem noLimit_into (c : Clauses) : c.renderInto = [] ∨ NoLimit c.renderInto := by
  rw [renderInto]
  cases c.options.intoTable with
  | none => exact Or.inl rfl
  | some table =>
      right
      cases c.options.intoDatabase with
      | none => exact ((noLimit_name table).append _).append_optional (Or.inl rfl)
      | some database =>
          exact ((noLimit_quoted (by decide) database).append _).append _

/-- **Limits** are read back, if a text without one does not end like one. -/
theorem eq_of_append_renderLimit_eq (hc : ∀ n ∈ c.limit, 0 < n) (hd : ∀ n ∈ d.limit, 0 < n)
    (hx : c.limit = none → ¬ EndsInLimit x) (hy : d.limit = none → ¬ EndsInLimit y)
    (h : x ++ c.renderLimit = y ++ d.renderLimit) : x = y ∧ c.limit = d.limit := by
  rw [renderLimit, renderLimit] at h
  cases hcl : c.limit with
  | none =>
      cases hdl : d.limit with
      | none =>
          rw [hcl, hdl, List.append_nil, List.append_nil] at h
          exact ⟨h, rfl⟩
      | some m =>
          rw [hcl, hdl, List.append_nil] at h
          exact absurd ⟨m, hd m hdl, y, h.symm⟩ (hx hcl)
  | some n =>
      cases hdl : d.limit with
      | none =>
          rw [hcl, hdl, List.append_nil] at h
          exact absurd ⟨n, hc n hcl, x, h⟩ (hy hdl)
      | some m =>
          rw [hcl, hdl] at h
          simp only [← List.append_assoc y] at h
          obtain ⟨hbefore, hdigits⟩ := eq_of_append_limit_eq (exists_getLast?_limit y)
            (fun _ => Literal.isIntegerChar_of_mem_ofNat) h
          rw [Text.ofNat_injective hdigits]
          exact ⟨List.append_cancel_right hbefore, rfl⟩

end Clauses

end GuardedSql
