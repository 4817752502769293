import GuardedSql.Proofs.Reading.Token
import Mathlib.Data.List.Forall2

/-! # Reading literals — what a reader takes written values for

    A reader of literals knows nothing of how values are written.  It takes a
    run without quotes, commas, spaces and parentheses for itself, and a text
    between two single quotes for what stands between them; a list is literals
    between commas, in parentheses, and a range is two literals with `AND`
    between them.

    `Reads` says so as a grammar, which gives a text any reading that it may
    have.  A written value has one reading: the value that was accepted. -/

namespace GuardedSql.Literal

open Token

variable {text value low high : Text} {literals values : List Text}

/-- What no bare literal holds. -/
def delimiters : List Char := ['\'', '"', ',', ' ', '(', ')']

/-- The text is a literal, and the second text is the value it stands for. -/
inductive Reads : Text → Text → Prop where
  | bare {run : Text} (hne : run ≠ []) (hrun : ∀ c ∈ run, c ∉ delimiters) : Reads run run
  | quoted {inner : Text} (hquote : '\'' ∉ inner) : Reads inner.inQuotes inner

/-- The text is a list of literals, and they stand for the values one by
    one. -/
def ReadsList (text : Text) (values : List Text) : Prop :=
  ∃ literals, text = '(' :: Text.join "," literals ++ [')'] ∧
    List.Forall₂ Reads literals values

/-- The text is a range of two literals, and they stand for the bounds. -/
def ReadsRange (text : Text) (bounds : Text × Text) : Prop :=
  ∃ low high, text = low ++ chars " AND " ++ high ∧ Reads low bounds.1 ∧ Reads high bounds.2

/-! ## What is written is a literal -/

theorem not_mem_delimiters {c : Char} (h : IsIntegerChar c) : c ∉ delimiters := by
  intro hc
  have hnone : ∀ d ∈ delimiters, ¬ IsIntegerChar d := by decide
  exact hnone c hc h

/-- A written value is read as the value, if no quote is in it. -/
theorem reads_render (h : '\'' ∉ value) : Reads (render value) value := by
  rw [render]
  split
  · rename_i hint
    exact .bare (ne_nil_of_isInteger hint)
      fun c hc => not_mem_delimiters (isIntegerChar_of_isInteger hint c hc)
  · exact .quoted h

/-- Written values are read one by one. -/
theorem forall_reads_render (h : ∀ value ∈ values, '\'' ∉ value) :
    List.Forall₂ Reads (values.map render) values := by
  induction values with
  | nil => exact .nil
  | cons value values ih =>
      obtain ⟨hvalue, hvalues⟩ := List.forall_mem_cons.mp h
      exact .cons (reads_render hvalue) (ih hvalues)

/-! ## Where a literal ends -/

/-- What may follow a literal: nothing, or a text that begins with what no
    bare literal holds. -/
def Ended (r : Text) : Prop := ∀ c ∈ r.head?, c ∈ delimiters

theorem ended_nil : Ended [] := nofun

/-- A mark that begins with a delimiter ends a literal. -/
theorem ended_append {mark : Text} (h : ∃ c ∈ mark.head?, c ∈ delimiters) (r : Text) :
    Ended (mark ++ r) := by
  obtain ⟨c, hc, hdelimiter⟩ := h
  intro d hd
  rw [List.head?_append, hc] at hd
  exact Option.some.inj hd ▸ hdelimiter

/-- A bare literal does not begin with what ends one. -/
theorem bare_append_ne_cons {run : Text} (hne : run ≠ []) (hrun : ∀ c ∈ run, c ∉ delimiters)
    {d : Char} (hd : d ∈ delimiters) (r r' : Text) : run ++ r ≠ d :: r' := by
  obtain ⟨c, rest, rfl⟩ := List.exists_cons_of_ne_nil hne
  intro h
  obtain rfl := (List.cons.inj h).1
  exact hrun c (List.mem_cons_self ..) hd

/-- Two literals that begin one text stand for one value, and what follows
    them is the same. -/
theorem Reads.of_append_eq {x y v w r r' : Text} (hx : Reads x v) (hy : Reads y w) (hr : Ended r)
    (hr' : Ended r') (h : x ++ r = y ++ r') : v = w ∧ r = r' := by
  have hmark : '\'' ∈ delimiters := List.mem_cons_self ..
  cases hx with
  | bare hne hrun =>
      cases hy with
      | bare hne' hrun' => exact eq_of_append_eq_of_class_or_end hr hr' hrun hrun' h
      | quoted hquote' => exact absurd h (bare_append_ne_cons hne hrun hmark r _)
  | quoted hquote =>
      cases hy with
      | bare hne' hrun' => exact absurd h.symm (bare_append_ne_cons hne' hrun' hmark r' _)
      | quoted hquote' => exact eq_of_enclosed_append_eq hquote hquote' h

/-- Literals, each with its value, are read back by their values. -/
theorem readable_reads :
    Readable (Prod.fst : Text × Text → Text) (fun p => Reads p.1 p.2) Ended Prod.snd :=
  fun _ _ hx hy _ _ hr hr' h => hx.of_append_eq hy hr hr' h

/-- No literal begins with a closing parenthesis. -/
theorem Reads.append_ne_close {x v : Text} (h : Reads x v) (r r' : Text) :
    x ++ r ≠ ')' :: r' := by
  cases h with
  | bare hne hrun => exact bare_append_ne_cons hne hrun (by decide) r r'
  | quoted => exact fun heq => absurd (List.cons.inj heq).1 (by decide)

/-! ## One reading -/

/-- A literal has one reading. -/
theorem Reads.unique {v w : Text} (hv : Reads text v) (hw : Reads text w) : v = w :=
  (hv.of_append_eq hw ended_nil ended_nil rfl).1

theorem ReadsRange.unique {bounds bounds' : Text × Text} (h : ReadsRange text bounds)
    (h' : ReadsRange text bounds') : bounds = bounds' := by
  obtain ⟨low, high, rfl, hlow, hhigh⟩ := h
  obtain ⟨low', high', heq, hlow', hhigh'⟩ := h'
  have hmark : ∃ c ∈ (chars " AND ").head?, c ∈ delimiters := by with_unfolding_all decide
  simp only [List.append_assoc] at heq
  obtain ⟨hfirst, hrest⟩ :=
    hlow.of_append_eq hlow' (ended_append hmark _) (ended_append hmark _) heq
  have hlast : high ++ [] = high' ++ [] := by rw [List.append_cancel_left hrest]
  obtain ⟨hsecond, -⟩ := hhigh.of_append_eq hhigh' ended_nil ended_nil hlast
  exact Prod.ext hfirst hsecond

/-- Literals between commas are read back, up to a closing parenthesis. -/
theorem readable_join_reads :
    Readable (fun readings : List (Text × Text) => Text.join "," (readings.map Prod.fst))
      (fun readings => readings ≠ [] ∧ ∀ p ∈ readings, Reads p.1 p.2)
      (Begins [chars ")"]) (List.map Prod.snd) := by
  have hcomma : ∃ c ∈ (chars ",").head?, c ∈ delimiters := by with_unfolding_all decide
  have hclose : ∃ c ∈ (chars ")").head?, c ∈ delimiters := by with_unfolding_all decide
  refine readable_reads.join "," _ (ended_append hcomma) ?_
    (fun r hr => hr.excludes (by with_unfolding_all decide))
  rintro r ⟨mark, hmark, rest, rfl⟩
  rw [List.mem_singleton.mp hmark]
  exact ended_append hclose rest

/-- Literals that stand for values one by one are pairs of a literal and its
    value. -/
theorem exists_readings (h : List.Forall₂ Reads literals values) :
    ∃ readings : List (Text × Text), readings.map Prod.fst = literals ∧
      readings.map Prod.snd = values ∧ ∀ p ∈ readings, Reads p.1 p.2 :=
  ⟨literals.zip values, List.map_fst_zip h.length_eq.le, List.map_snd_zip h.length_eq.ge,
    fun _ hp => List.forall₂_zip h hp⟩

/-- A list of literals is not the empty list. -/
theorem join_append_ne_close {readings : List (Text × Text)} (hne : readings ≠ [])
    (h : ∀ p ∈ readings, Reads p.1 p.2) :
    Text.join "," (readings.map Prod.fst) ++ [')'] ≠ [')'] := by
  obtain ⟨p, rest, rfl⟩ := List.exists_cons_of_ne_nil hne
  rw [List.map_cons, Text.join_cons_append]
  exact (h p (List.mem_cons_self ..)).append_ne_close _ _

theorem ReadsList.unique {values' : List Text} (h : ReadsList text values)
    (h' : ReadsList text values') : values = values' := by
  obtain ⟨literals, rfl, hreads⟩ := h
  obtain ⟨literals', heq, hreads'⟩ := h'
  obtain ⟨xs, rfl, rfl, hxs⟩ := exists_readings hreads
  obtain ⟨ys, rfl, rfl, hys⟩ := exists_readings hreads'
  have hjoin := (List.cons.inj heq).2
  by_cases hx : xs = []
  · by_cases hy : ys = []
    · rw [hx, hy]
    · rw [hx] at hjoin
      exact absurd hjoin.symm (join_append_ne_close hy hys)
  · by_cases hy : ys = []
    · rw [hy] at hjoin
      exact absurd hjoin (join_append_ne_close hx hxs)
    · have hclose : Begins [chars ")"] [')'] := by with_unfolding_all decide
      exact (readable_join_reads ⟨hx, hxs⟩ ⟨hy, hys⟩ hclose hclose hjoin).1

/-! ## What is written is read as what was accepted -/

/-- A written list is read as its items. -/
theorem readsList_renderList (h : '\'' ∉ text) : ReadsList (renderList text) (items text) :=
  ⟨(items text).map render, rfl,
    forall_reads_render fun _ hitem hc => h (mem_of_mem_items hitem hc)⟩

/-- A written range is read as its bounds. -/
theorem readsRange_renderRange (h : '\'' ∉ text) (hbounds : bounds? text = some (low, high)) :
    ReadsRange (renderRange text) (low, high) := by
  refine ⟨render low, render high, ?_, reads_render fun hc => h ?_, reads_render fun hc => h ?_⟩
  · rw [renderRange, hbounds]
    rfl
  · exact mem_of_mem_bounds hbounds (Or.inl hc)
  · exact mem_of_mem_bounds hbounds (Or.inr hc)

/-- **Values read back**: the text written for an accepted value, list or
    range has a reading and no other, which is the value, the items of the
    list in order, and the bounds of the range. -/
theorem reads_of_accepted (token : Text) :
    (Accepted .value token → ∀ value, Reads (render token) value ↔ value = token) ∧
    (Accepted .list token → ∀ values, ReadsList (renderList token) values ↔
      values = items token) ∧
    (Accepted .range token → ∃ bounds, bounds? token = some bounds ∧
      ∀ read, ReadsRange (renderRange token) read ↔ read = bounds) := by
  refine ⟨?value, ?list, ?range⟩
  case value =>
    intro h value
    have hreads := reads_render h.quote_not_mem
    exact ⟨fun hvalue => hvalue.unique hreads, fun heq => heq ▸ hreads⟩
  case list =>
    intro h values
    have hreads := readsList_renderList h.quote_not_mem
    exact ⟨fun hvalues => hvalues.unique hreads, fun heq => heq ▸ hreads⟩
  case range =>
    intro h
    obtain ⟨low, high, hbounds⟩ := h.exists_bounds
    have hreads := readsRange_renderRange h.quote_not_mem hbounds
    exact ⟨(low, high), hbounds, fun read =>
      ⟨fun hread => hread.unique hreads, fun heq => heq ▸ hreads⟩⟩

/-- Parentheses and spaces in a value, signs and spaces in a list, and a mark
    between tabs in a range. -/
theorem reads_of_accepted_spaced :
    let range := chars "1\tAND\t2 and +03"
    (Accepted .value (chars "(a) b") ∧ Accepted .list (chars "+07, a (b ,-") ∧
      Accepted .range range) ∧
    (∀ value, Reads (chars "'(a) b'") value ↔ value = chars "(a) b") ∧
    (∀ values, ReadsList (chars "(+07,'a (b','-')") values ↔
      values = [chars "+07", chars "a (b", chars "-"]) ∧
    ∀ read, ReadsRange (chars "'1\tAND\t2' AND +03") read ↔
      read = (chars "1\tAND\t2", chars "+03") := by
  intro range
  have hvalue : Accepted .value (chars "(a) b") := by decide +kernel
  have hlist : Accepted .list (chars "+07, a (b ,-") := by decide +kernel
  have hrange : Accepted .range range := by decide +kernel
  have hvalueText : render (chars "(a) b") = chars "'(a) b'" := by decide +kernel
  have hlistText : renderList (chars "+07, a (b ,-") = chars "(+07,'a (b','-')" := by
    decide +kernel
  have hitems : items (chars "+07, a (b ,-") = [chars "+07", chars "a (b", chars "-"] := by
    decide +kernel
  have hrangeText : renderRange range = chars "'1\tAND\t2' AND +03" := by decide +kernel
  have hbounds : bounds? range = some (chars "1\tAND\t2", chars "+03") := by decide +kernel
  refine ⟨⟨hvalue, hlist, hrange⟩, ?_, ?_, ?_⟩
  · rw [← hvalueText]
    exact (reads_of_accepted _).1 hvalue
  · rw [← hlistText, ← hitems]
    exact (reads_of_accepted _).2.1 hlist
  · obtain ⟨bounds, hsome, hread⟩ := (reads_of_accepted range).2.2 hrange
    obtain rfl := Option.some.inj (hsome.symm.trans hbounds)
    rw [← hrangeText]
    exact hread

end GuardedSql.Literal
