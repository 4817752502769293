import GuardedSql.Proofs.Reading.Cut
import GuardedSql.Proofs.Token.Segment

/-! # Reading tokens — names and values are read back from what is written

    A literal tells its value exactly: between quotes it ends at the second
    quote, and bare it ends where signs and digits end.  Ranges and lists are
    made of literals and tell their bounds and items.  A name tells its parts:
    whether a segment came with its delimiters is lost, and nothing else. -/

namespace GuardedSql

open Token

/-! ## Literals -/

/-- What may follow a literal. -/
def Literal.ends : List Text := [" ", ",", ")", ";"].map chars

namespace Literal

variable {t x y r : Text}

theorem ne_nil_of_isInteger (h : isInteger t = true) : t ≠ [] := by
  rintro rfl
  exact nomatch h

/-- The first character tells a quoted literal from a bare one. -/
theorem exists_head_of_isInteger (h : isInteger t = true) (r : Text) :
    ∃ c ∈ (t ++ r).head?, IsIntegerChar c := by
  obtain ⟨c, rest, rfl⟩ := List.exists_cons_of_ne_nil (ne_nil_of_isInteger h)
  exact ⟨c, rfl, isIntegerChar_of_isInteger h c (List.mem_cons_self ..)⟩

/-- What ends a value goes on with no digit. -/
theorem head_of_begins_ends (h : Begins ends r) : ∃ c ∈ r.head?, ¬ IsIntegerChar c :=
  h.head (by with_unfolding_all decide)

/-- **Literals** are read back exactly. -/
theorem readable_render : Readable render (fun t => '\'' ∉ t) (Begins ends) id := by
  intro x y hx hy r r' hr hr' h
  rw [render, render] at h
  cases hxi : isInteger x with
  | true =>
      cases hyi : isInteger y with
      | true =>
          rw [hxi, hyi, if_pos rfl, if_pos rfl] at h
          exact eq_of_append_eq_of_class (head_of_begins_ends hr) (head_of_begins_ends hr')
            (fun c hc => not_not_intro (isIntegerChar_of_isInteger hxi c hc))
            (fun c hc => not_not_intro (isIntegerChar_of_isInteger hyi c hc)) h
      | false =>
          -- a bare literal does not begin with a quote
          rw [hxi, hyi, if_pos rfl, if_neg Bool.false_ne_true] at h
          obtain ⟨c, hc, hinteger⟩ := exists_head_of_isInteger hxi r
          rw [h] at hc
          obtain rfl := Option.some.inj hc
          exact absurd hinteger (by decide)
  | false =>
      cases hyi : isInteger y with
      | true =>
          rw [hxi, hyi, if_neg Bool.false_ne_true, if_pos rfl] at h
          obtain ⟨c, hc, hinteger⟩ := exists_head_of_isInteger hyi r'
          rw [← h] at hc
          obtain rfl := Option.some.inj hc
          exact absurd hinteger (by decide)
      | false =>
          rw [hxi, hyi, if_neg Bool.false_ne_true, if_neg Bool.false_ne_true] at h
          exact eq_of_enclosed_append_eq hx hy h

/-- A literal begins with a quote, a sign or a digit. -/
theorem not_prefix_render {mark : Text} (hne : mark ≠ [])
    (hmark : ∀ c ∈ mark.head?, c ≠ '\'' ∧ ¬ IsIntegerChar c) (t r : Text) :
    ¬ mark <+: render t ++ r := by
  rintro ⟨rest, hrest⟩
  obtain ⟨c, mark, rfl⟩ := List.exists_cons_of_ne_nil hne
  obtain ⟨hquote, hinteger⟩ := hmark c rfl
  rw [render] at hrest
  split at hrest
  · rename_i ht
    obtain ⟨d, hd, hinteger'⟩ := exists_head_of_isInteger ht r
    rw [← hrest] at hd
    obtain rfl := Option.some.inj hd
    exact hinteger hinteger'
  · exact hquote (List.cons.inj hrest).1

/-- Literals between commas are read back, up to a closing parenthesis. -/
theorem readable_join_render :
    Readable (fun ts => Text.join "," (ts.map render)) (fun ts => ts ≠ [] ∧ ∀ t ∈ ts, '\'' ∉ t)
      (Begins [chars ")"]) id :=
  readable_render.join_exact "," (by with_unfolding_all decide) (by with_unfolding_all decide)
    (by with_unfolding_all decide)

/-- **Ranges** are read back by their bounds. -/
theorem readable_renderRange :
    Readable renderRange (Accepted .range) (Begins ends) bounds? := by
  intro x y hx hy r r' hr hr' h
  obtain ⟨low, high, hbounds⟩ := hx.exists_bounds
  obtain ⟨low', high', hbounds'⟩ := hy.exists_bounds
  have hquote : '\'' ∉ low ∧ '\'' ∉ high :=
    ⟨fun hc => hx.quote_not_mem (mem_of_mem_bounds hbounds (Or.inl hc)),
      fun hc => hx.quote_not_mem (mem_of_mem_bounds hbounds (Or.inr hc))⟩
  have hquote' : '\'' ∉ low' ∧ '\'' ∉ high' :=
    ⟨fun hc => hy.quote_not_mem (mem_of_mem_bounds hbounds' (Or.inl hc)),
      fun hc => hy.quote_not_mem (mem_of_mem_bounds hbounds' (Or.inr hc))⟩
  have hmark : Begins ends rangeMark := by with_unfolding_all decide
  rw [renderRange, renderRange, hbounds, hbounds'] at h
  simp only [List.append_assoc] at h
  obtain ⟨hlow, hrest⟩ := readable_render hquote.1 hquote'.1 (hmark.append _) (hmark.append _) h
  obtain ⟨hhigh, hr⟩ :=
    readable_render hquote.2 hquote'.2 hr hr' (List.append_cancel_left hrest)
  have hlow' : low = low' := hlow
  have hhigh' : high = high' := hhigh
  rw [hbounds, hbounds', hlow', hhigh']
  exact ⟨rfl, hr⟩

/-- **Lists** are read back item by item. -/
theorem readable_renderList :
    Readable renderList (Accepted .list) (fun _ => True) items := by
  intro x y hx hy r r' _ _ h
  have hok : ∀ {t : Text}, Accepted .list t → items t ≠ [] ∧ ∀ item ∈ items t, '\'' ∉ item := by
    intro t ht
    refine ⟨?_, ?_⟩
    · intro hnil
      exact List.splitOn_ne_nil _ _ (List.map_eq_nil_iff.mp hnil)
    · intro item hitem hc
      exact ht.quote_not_mem (mem_of_mem_items hitem hc)
  have hclose : Begins [chars ")"] [')'] := by with_unfolding_all decide
  rw [renderList, renderList] at h
  simp only [List.cons_append, List.append_assoc] at h
  obtain ⟨hitems, hrest⟩ := readable_join_render (hok hx) (hok hy) (hclose.append r)
    (hclose.append r') (List.cons.inj h).2
  exact ⟨hitems, List.append_cancel_left hrest⟩

end Literal

/-! ## Names -/

/-- What may follow a name. -/
def Name.ends : List Text := [" ", ",", "(", ")"].map chars

namespace Name

/-- **Names** are read back by their parts, unless a dot follows. -/
theorem readable_parts : Readable render (Accepted .name) (fun r => ¬ chars "." <+: r) parts := by
  have hpart : Readable enclose (fun u => tick ∉ u) (fun _ => True) id := by
    intro u v hu hv r r' _ _ h
    exact eq_of_enclosed_append_eq hu hv h
  have hjoin := hpart.join "." (fun r => ¬ chars "." <+: r) (fun _ => trivial)
    (fun _ _ => trivial) (fun _ hr => hr)
  intro x y hx hy r r' hr hr' h
  rw [render_eq_join, render_eq_join] at h
  have hparts := hjoin ⟨parts_ne_nil x, fun u hu => (hx.part hu).1⟩
    ⟨parts_ne_nil y, fun u hu => (hy.part hu).1⟩ hr hr' h
  rw [List.map_id, List.map_id] at hparts
  exact hparts

/-- A name is read back by its parts. -/
theorem readable_render : Readable render (Accepted .name) (Begins ends) parts :=
  readable_parts.weaken fun _ hr => hr.excludes (by with_unfolding_all decide)

/-- Names between commas are read back, unless a dot or a comma follows. -/
theorem readable_partsAll :
    Readable renderAll (fun names => names ≠ [] ∧ ∀ name ∈ names, Accepted .name name)
      (fun r => ¬ chars "." <+: r ∧ ¬ chars "," <+: r) (List.map parts) := by
  have hcomma : ¬ chars "." <+: chars "," ∧ ¬ chars "," <+: chars "." := by
    with_unfolding_all decide
  refine readable_parts.join "," _ ?_ (fun _ hr => hr.1) (fun _ hr => hr.2)
  intro r hdot
  rcases List.prefix_or_prefix_of_prefix hdot (List.prefix_append _ r) with h | h
  · exact hcomma.1 h
  · exact hcomma.2 h

/-- Names between commas are read back, up to a closing parenthesis. -/
theorem readable_renderAll :
    Readable renderAll (fun names => names ≠ [] ∧ ∀ name ∈ names, Accepted .name name)
      (Begins [chars ")"]) (List.map parts) :=
  readable_partsAll.weaken fun _ hr =>
    ⟨hr.excludes (by with_unfolding_all decide), hr.excludes (by with_unfolding_all decide)⟩

end Name

end GuardedSql
