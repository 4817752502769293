import GuardedSql.Proofs.Lexical.Laid

/-! # Fit tokens — what is known of every token that is written

    A written token was accepted in the role that its form asks for, or it was
    cut out of an accepted range or list.  Either way it may stand in its
    form; `Clauses.WellFormed.fit` says so of every token of a reachable node. -/

namespace GuardedSql

open Token

variable {t : Text}

/-- What is known of the token when it is written: it was accepted, or cut out
    of an accepted one. -/
def Written.Fit : Written → Prop
  | .name t | .column t => Accepted .name t
  | .verbatim t => Accepted .value t
  | .literal t | .database t => '\'' ∉ t

/-- Accepted names fit their places. -/
theorem fit_names {names : List Text} (h : ∀ name ∈ names, Accepted .name name) :
    ∀ w ∈ names.map Written.name, w.Fit := by
  intro w hw
  obtain ⟨name, hname, rfl⟩ := List.mem_map.mp hw
  exact h name hname

theorem fit_sortKeys {keys : List SortKey} (h : ∀ key ∈ keys, Accepted .name key.column) :
    ∀ w ∈ keys.map fun key => Written.column key.column, w.Fit := by
  intro w hw
  obtain ⟨key, hkey, rfl⟩ := List.mem_map.mp hw
  exact h key hkey

theorem fit_literals {values : List Text} (h : ∀ value ∈ values, Accepted .value value) :
    ∀ w ∈ values.map Written.literal, w.Fit := by
  intro w hw
  obtain ⟨value, hvalue, rfl⟩ := List.mem_map.mp hw
  exact (h value hvalue).quote_not_mem

theorem fit_assignments {pairs : List Assignment} (h : ∀ a ∈ pairs, a.Sound) :
    ∀ w ∈ pairs.flatMap Assignment.tokens, w.Fit := by
  intro w hw
  obtain ⟨a, ha, hwa⟩ := List.mem_flatMap.mp hw
  rcases List.mem_pair.mp hwa with rfl | rfl
  · exact (h a ha).column
  · exact (h a ha).value.quote_not_mem

/-- What is cut out of an accepted value holds no quote either. -/
theorem fit_tokensAs {role : Role} (h : Accepted role t) :
    ∀ w ∈ Literal.tokensAs role t, w.Fit := by
  have hquote : '\'' ∉ t := h.quote_not_mem
  intro w hw
  cases role with
  | name | value =>
      obtain rfl := List.mem_singleton.mp hw
      exact hquote
  | range =>
      obtain ⟨low, high, hbounds⟩ := h.exists_bounds
      rw [Literal.tokensAs, hbounds] at hw
      rcases List.mem_pair.mp hw with rfl | rfl
      · exact fun hc => hquote (Literal.mem_of_mem_bounds hbounds (Or.inl hc))
      · exact fun hc => hquote (Literal.mem_of_mem_bounds hbounds (Or.inr hc))
  | list =>
      obtain ⟨item, hitem, rfl⟩ := List.mem_map.mp hw
      exact fun hc => hquote (Literal.mem_of_mem_items hitem hc)

theorem fit_conditions {cs : List Condition} (h : ∀ d ∈ cs, d.Sound) :
    ∀ w ∈ cs.flatMap Condition.tokens, w.Fit := by
  intro w hw
  obtain ⟨d, hd, hwd⟩ := List.mem_flatMap.mp hw
  rcases List.mem_cons.mp hwd with rfl | hvalue
  · exact (h d hd).column
  · split at hvalue
    · rename_i htakes
      exact fit_tokensAs ((h d hd).value htakes) w hvalue
    · cases hvalue

theorem fit_joins {joins : List Join} (h : ∀ j ∈ joins, j.Sound) :
    ∀ w ∈ joins.flatMap Join.tokens, w.Fit := by
  intro w hw
  obtain ⟨j, hj, hwj⟩ := List.mem_flatMap.mp hw
  rcases List.mem_cons.mp hwj with rfl | hon
  · exact (h j hj).table
  · cases hpredicate : j.predicate with
    | none =>
        rw [hpredicate] at hon
        cases hon
    | some on =>
        rw [hpredicate] at hon
        dsimp only at hon
        split at hon
        · rcases List.mem_pair.mp hon with rfl | rfl
          · exact (h j hj).column on hpredicate
          · exact (h j hj).value on hpredicate
        · cases hon

theorem fit_options {options : SelectOptions} (h : options.Sound) :
    ∀ w ∈ options.tokens, w.Fit := by
  intro w hw
  rw [SelectOptions.tokens] at hw
  cases htable : options.intoTable with
  | none =>
      rw [htable] at hw
      cases hw
  | some table =>
      rw [htable] at hw
      rcases List.mem_cons.mp hw with rfl | hdatabase
      · exact h.table table htable
      · cases hin : options.intoDatabase with
        | none =>
            rw [hin] at hdatabase
            cases hdatabase
        | some database =>
            rw [hin] at hdatabase
            obtain rfl := List.mem_singleton.mp hdatabase
            exact (h.database database hin).quote_not_mem

/-- Every token of a reachable node is fit to be written. -/
theorem Clauses.WellFormed.fit {c : Clauses} (h : c.WellFormed) : ∀ w ∈ c.tokens, w.Fit := by
  rw [Clauses.tokens]
  cases c.mode with
  | none => exact fun _ hw => absurd hw List.not_mem_nil
  | some mode =>
      cases mode with
      | select =>
          simp only [List.forall_mem_append]
          exact ⟨⟨⟨⟨⟨fit_names h.columns, fit_options h.options⟩, fit_names h.tables⟩,
            fit_joins h.joins⟩, fit_conditions h.conditions⟩, fit_sortKeys h.sortKeys⟩
      | insert =>
          simp only [List.forall_mem_append]
          exact ⟨⟨⟨fit_names h.tables, fit_names h.insertColumns⟩,
            fit_literals h.insertValues⟩, fit_assignments h.duplicateKey⟩
      | update =>
          simp only [List.forall_mem_append]
          exact ⟨⟨⟨fit_names h.tables, fit_assignments h.assignments⟩,
            fit_conditions h.conditions⟩, fit_sortKeys h.sortKeys⟩

end GuardedSql
