import GuardedSql.Proofs.Token.Clean
import GuardedSql.Proofs.Token.Grammar
import Mathlib.Data.List.Forall2

/-! # Names — their parts, and what delimiters change

    A name is written from its parts, and its parts are read off the written
    name again: `parts_render`.  So the written name is the canonical form of
    all names with the same parts.

    What the guard asks of a name it asks of the parts, however they are
    delimited — but for the length of a segment, in which the delimiters count.
    They are allowed on top only in the first of several segments, so that a
    name may be accepted and too long once it is written. -/

namespace GuardedSql

namespace Name

variable {name segment part piece : Text}

/-! ## The parts of a written name -/

/-- No part of a name holds a dot. -/
theorem dot_not_mem_of_mem_parts (h : part ∈ parts name) : '.' ∉ part := by
  obtain ⟨segment, hsegment, rfl⟩ := List.mem_map.mp h
  intro hdot
  rw [segments, List.splitOn_eq_splitOnP] at hsegment
  have hnot := Text.not_of_mem_splitOnP hsegment '.' (mem_of_mem_inner hdot)
  exact absurd hnot (by decide)

/-- The segments of a written name are its parts between delimiters. -/
@[simp] theorem segments_render (name : Text) :
    segments (render name) = (parts name).map enclose := by
  have hne : (parts name).map enclose ≠ [] :=
    fun h => parts_ne_nil name (List.map_eq_nil_iff.mp h)
  rw [render_eq_join, segments]
  refine Text.splitOn_join Text.chars_dot hne fun segment hsegment => ?_
  obtain ⟨part, hpart, rfl⟩ := List.mem_map.mp hsegment
  have hdot := dot_not_mem_of_mem_parts hpart
  simp [enclose, tick, hdot]

/-- A written name has the parts of the name. -/
@[simp] theorem parts_render (name : Text) : parts (render name) = parts name := by
  simp [parts, Function.comp_def]

/-- A written name is written as it is. -/
@[simp] theorem render_render (name : Text) : render (render name) = render name := by
  rw [render_eq_join (render name), parts_render, ← render_eq_join]

/-- Two names are written alike exactly if they have the same parts. -/
theorem render_eq_iff {a b : Text} : render a = render b ↔ parts a = parts b := by
  constructor
  · intro h
    rw [← parts_render a, h, parts_render]
  · intro h
    rw [render_eq_join, render_eq_join, h]

/-- A name with a dot has several parts. -/
theorem dot_mem_iff : '.' ∈ name ↔ 1 < (parts name).length := by
  rw [parts, List.length_map, segments]
  obtain ⟨first, rest, hsplit⟩ := List.exists_cons_of_ne_nil (List.splitOn_ne_nil '.' name)
  rw [hsplit]
  cases rest with
  | nil => exact iff_of_false (Token.dot_not_mem_of_splitOn hsplit) (by simp)
  | cons second rest => exact iff_of_true (Token.dot_mem_of_splitOn hsplit) (by simp)

theorem dot_mem_render : '.' ∈ render name ↔ '.' ∈ name := by
  simp [dot_mem_iff]

/-! ## The canonical form -/

/-- A segment carries what is between its delimiters, if no backtick is
    there. -/
theorem carries_iff : Carries segment part ↔ inner segment = part ∧ tick ∉ part := by
  constructor
  · exact fun h => ⟨h.inner_eq, h.1⟩
  · rintro ⟨rfl, htick⟩
    exact ⟨htick, eq_inner_or_eq_enclose segment⟩

/-- The segments of a name carry its parts, one by one, and no others. -/
theorem forall₂_carries_iff {segments parts : List Text} :
    List.Forall₂ Carries segments parts ↔
      segments.map inner = parts ∧ ∀ part ∈ parts, tick ∉ part := by
  induction segments generalizing parts with
  | nil => cases parts <;> simp
  | cons segment segments ih =>
      cases parts with
      | nil => simp
      | cons part parts =>
          rw [List.forall₂_cons, ih, carries_iff, List.map_cons, List.cons.injEq,
            List.forall_mem_cons]
          tauto

/-- **The canonical form** of a name: what is written stays as it is if it is
    written again; of an accepted name it is the parts that its segments carry,
    each between delimiters; and accepted names are written alike exactly if
    they have as many segments, which carry the same parts. -/
theorem canonical_of_render :
    (∀ name, render (render name) = render name) ∧
    (∀ name, Token.Accepted .name name → ∃ parts, List.Forall₂ Carries (segments name) parts ∧
      render name = Text.join "." (parts.map enclose)) ∧
    ∀ a b, Token.Accepted .name a → Token.Accepted .name b →
      (render a = render b ↔ ∃ parts, List.Forall₂ Carries (segments a) parts ∧
        List.Forall₂ Carries (segments b) parts) := by
  have hcarries : ∀ {name}, Token.Accepted .name name →
      List.Forall₂ Carries (segments name) (parts name) :=
    fun h => forall₂_carries_iff.mpr ⟨rfl, fun part hpart => (h.part hpart).1⟩
  refine ⟨render_render, fun name h => ⟨parts name, hcarries h, render_eq_join name⟩, ?_⟩
  intro a b ha hb
  rw [render_eq_iff]
  constructor
  · intro h
    exact ⟨parts a, hcarries ha, h ▸ hcarries hb⟩
  · rintro ⟨common, hcommonA, hcommonB⟩
    exact (forall₂_carries_iff.mp hcommonA).1.trans (forall₂_carries_iff.mp hcommonB).1.symm

/-- Delimiters at one segment or the other, and characters beyond ASCII. -/
theorem canonical_of_render_mixed :
    let a := chars "`größe`.id"
    let b := chars "größe.`id`"
    (Token.Accepted .name a ∧ Token.Accepted .name b) ∧
      (∃ parts, List.Forall₂ Carries (segments a) parts ∧
        render a = Text.join "." (parts.map enclose)) ∧
      render a = render b := by
  intro a b
  have ha : Token.Accepted .name a := by decide +kernel
  have hb : Token.Accepted .name b := by decide +kernel
  have hparts : List.Forall₂ Carries (segments a) [chars "größe", chars "id"] ∧
      List.Forall₂ Carries (segments b) [chars "größe", chars "id"] := by
    rw [forall₂_carries_iff, forall₂_carries_iff]
    decide +kernel
  exact ⟨⟨ha, hb⟩, canonical_of_render.2.1 a ha,
    (canonical_of_render.2.2 a b ha hb).mpr ⟨_, hparts⟩⟩

/-! ## What stands in a name -/

/-- A segment has the characters of its part, and two more if it is
    delimited. -/
theorem length_segment (segment : Text) :
    segment.length = (inner segment).length + if isDelimited segment = true then 2 else 0 := by
  by_cases h : isDelimited segment = true
  · have hlength := congrArg List.length (eq_enclose_inner h)
    rw [if_pos h, hlength, enclose]
    simp
  · rw [if_neg h, inner_of_not_isDelimited (Bool.eq_false_iff.mpr h)]
    rfl

/-- Delimiters bring in no piece without a backtick. -/
theorem infix_enclose_iff (hne : piece ≠ []) (htick : tick ∉ piece) (part : Text) :
    piece <:+: enclose part ↔ piece <:+: part := by
  have hfront := Text.infix_append_cons_iff htick [] (part ++ [tick])
  have hback := Text.infix_append_cons_iff htick part []
  rw [List.infix_nil, or_iff_right hne] at hfront
  rw [List.infix_nil, or_iff_left hne] at hback
  exact hfront.trans hback

/-- What holds no dot and no backtick stands in a name exactly if it stands in
    one of the parts. -/
theorem infix_iff_exists_part (hne : piece ≠ []) (hdot : '.' ∉ piece) (htick : tick ∉ piece) :
    piece <:+: name ↔ ∃ part ∈ parts name, piece <:+: part := by
  have hsegment : ∀ segment : Text, piece <:+: segment ↔ piece <:+: inner segment := by
    intro segment
    rcases eq_inner_or_eq_enclose segment with heq | heq
    · rw [← heq]
    · rw [← infix_enclose_iff hne htick (inner segment), ← heq]
  have hjoin : piece <:+: Text.join "." (segments name) ↔ _ :=
    Text.infix_join_iff Text.chars_dot hne hdot
  rw [join_segments] at hjoin
  rw [hjoin]
  simp only [parts, List.mem_map, exists_exists_and_eq_and]
  exact exists_congr fun segment => and_congr_right fun _ => hsegment segment

end Name

namespace Token

open Name (parts enclose inner segments tick isDelimited)

variable {name segment : Text} {place : Nat}

/-- Delimiters bring in no word. -/
@[simp] theorem wordsOf_enclose (part : Text) : wordsOf (enclose part) = wordsOf part := by
  have hfront : wordsOf (enclose part) = wordsOf [] ++ wordsOf (part ++ [tick]) :=
    wordsOf_append_cons (by decide) [] (part ++ [tick])
  have hback : wordsOf (part ++ [tick]) = wordsOf part ++ wordsOf [] :=
    wordsOf_append_cons (by decide) part []
  rw [hfront, hback]
  simp [wordsOf]

/-- The words of a name are those of its parts. -/
theorem wordsOf_name (name : Text) : wordsOf name = (parts name).flatMap wordsOf := by
  have hsegment : ∀ segment : Text, wordsOf segment = wordsOf (inner segment) := by
    intro segment
    rcases Name.eq_inner_or_eq_enclose segment with heq | heq
    · rw [← heq]
    · rw [← wordsOf_enclose (inner segment), ← heq]
  have hjoin := wordsOf_join Text.chars_dot (by decide) (segments name)
  rw [Name.join_segments] at hjoin
  rw [hjoin, parts, List.flatMap_map]
  exact List.flatMap_congr fun segment _ => hsegment segment

/-! ## What is asked of a name -/

/-- What is asked of the parts of a name, however they are delimited. -/
structure Fair (parts : List Text) : Prop where
  filled : ∀ part ∈ parts, ∃ c ∈ part, Text.isBlank c = false
  ticks : ∀ part ∈ parts, tick ∉ part
  pieces : ∀ piece ∈ ['*'] :: symbols, ∀ part ∈ parts, ¬ piece <:+: part
  words : keywordIn? .name (parts.flatMap wordsOf) = none

/-- No segment is longer than its place in the name allows. -/
def Fits (name : Text) : Prop :=
  ∀ place segment, (segments name)[place]? = some segment →
    segment.length ≤ longest name place segment

/-- A name has the form of one exactly if each part is filled and without a
    backtick, and each segment fits. -/
theorem form_name_iff :
    Form .name name ↔
      (∀ part ∈ parts name, tick ∉ part ∧ ∃ c ∈ part, Text.isBlank c = false) ∧ Fits name := by
  constructor
  · intro h
    refine ⟨?_, fun place segment hplace => (h place segment hplace).2⟩
    intro part hpart
    obtain ⟨segment, hmem, rfl⟩ := List.mem_map.mp hpart
    obtain ⟨place, hplace⟩ := List.mem_iff_getElem?.mp hmem
    obtain ⟨⟨part, hcarries, hfilled⟩, -⟩ := h place segment hplace
    rw [hcarries.inner_eq]
    exact ⟨hcarries.1, hfilled⟩
  · rintro ⟨hparts, hfits⟩ place segment hplace
    have hmem : inner segment ∈ parts name := List.mem_map_of_mem (List.mem_of_getElem? hplace)
    obtain ⟨htick, hfilled⟩ := hparts (inner segment) hmem
    exact ⟨⟨inner segment, Name.carries_iff.mpr ⟨rfl, htick⟩, hfilled⟩, hfits place segment hplace⟩

/-- The tests that look at the segments of a name ask for its form. -/
theorem form_iff_checked :
    misplacedTick .name name = false ∧ checkRole .name name = .ok () ↔ Form .name name := by
  have htick : ¬ (tickRule .name name).broken ↔ misplacedTick .name name = false := by
    rw [← Bool.not_eq_true, misplacedTick_name]
    exact Iff.rfl
  rw [← kept_form, htick]
  exact and_congr_right fun h => (outcome_role h).eq_ok_iff

/-- The tests that look for characters and symbols ask for it of the parts. -/
theorem pieces_name_iff :
    name.contains '*' = false ∧ symbolIn? .name name = none ↔
      ∀ piece ∈ ['*'] :: symbols, ∀ part ∈ parts name, ¬ piece <:+: part := by
  have hapart : ∀ piece ∈ ['*'] :: symbols, piece ≠ [] ∧ '.' ∉ piece ∧ tick ∉ piece := by
    with_unfolding_all decide
  have hpiece : ∀ piece ∈ ['*'] :: symbols,
      (∀ part ∈ parts name, ¬ piece <:+: part) ↔ ¬ piece <:+: name := by
    intro piece hpiece
    obtain ⟨hne, hdot, htick⟩ := hapart piece hpiece
    rw [Name.infix_iff_exists_part hne hdot htick, not_exists]
    exact forall_congr' fun part => not_and.symm
  have hstar : name.contains '*' = false ↔ ¬ ['*'] <:+: name := by
    rw [List.singleton_infix_iff, ← List.contains_iff_mem, Bool.not_eq_true]
  have hsymbols : symbolIn? .name name = none ↔ ∀ symbol ∈ symbols, ¬ symbol <:+: name := by
    rw [symbolIn?_eq_none_iff]
    refine forall₂_congr fun symbol _ => imp_congr_right fun _ => ?_
    exact iff_false_intro fun h => Role.noConfusion h.2
  rw [forall₂_congr hpiece, List.forall_mem_cons, hstar, hsymbols]

/-- **Accepted names** are told by their parts, but for the lengths of their
    segments. -/
theorem accepted_name_iff : Accepted .name name ↔ Fair (parts name) ∧ Fits name := by
  rw [accepted_iff, wordsOf_name]
  constructor
  · rintro ⟨hstar, -, hsymbols, htick, hwords, hrole⟩
    obtain ⟨hparts, hfits⟩ := form_name_iff.mp (form_iff_checked.mp ⟨htick, hrole⟩)
    exact ⟨⟨fun part hpart => (hparts part hpart).2, fun part hpart => (hparts part hpart).1,
      pieces_name_iff.mp ⟨hstar, hsymbols⟩, hwords⟩, hfits⟩
  · rintro ⟨hfair, hfits⟩
    obtain ⟨hstar, hsymbols⟩ := pieces_name_iff.mpr hfair.pieces
    have hform : Form .name name :=
      form_name_iff.mpr ⟨fun part hpart => ⟨hfair.ticks part hpart, hfair.filled part hpart⟩, hfits⟩
    obtain ⟨htick, hrole⟩ := form_iff_checked.mpr hform
    refine ⟨hstar, ?_, hsymbols, htick, hfair.words, hrole⟩
    -- a name has a first part, and that is not blank
    obtain ⟨part, rest, hparts⟩ := List.exists_cons_of_ne_nil (Name.parts_ne_nil name)
    have hpart : part ∈ parts name := hparts ▸ List.mem_cons_self ..
    obtain ⟨c, hc, hfilled⟩ := hfair.filled part hpart
    refine List.all_eq_false.mpr ⟨c, ?_, by rw [hfilled]; exact Bool.false_ne_true⟩
    obtain ⟨segment, hsegment, rfl⟩ := List.mem_map.mp hpart
    exact Name.mem_of_mem_segments hsegment (Name.mem_of_mem_inner hc)

/-! ## Lengths with and without delimiters -/

/-- What the limit leaves for the part of a segment. -/
theorem length_le_longest_iff :
    segment.length ≤ longest name place segment ↔
      (inner segment).length ≤
        if isDelimited segment = true ∧ ¬ (place = 0 ∧ '.' ∈ name) then 62 else 64 := by
  rw [Name.length_segment segment, longest]
  by_cases hdelimited : isDelimited segment = true
  · by_cases hfirst : place = 0 ∧ '.' ∈ name
    · simp [hdelimited, hfirst]
    · simp [hdelimited, hfirst]
  · simp [hdelimited]

/-- A written name fits if every part but the first of several leaves room for
    its delimiters. -/
theorem fits_render_iff :
    Fits (Name.render name) ↔ ∀ place segment, (segments name)[place]? = some segment →
      (inner segment).length ≤ if ¬ (place = 0 ∧ '.' ∈ name) then 62 else 64 := by
  have hsegments : segments (Name.render name) = (segments name).map (enclose ∘ inner) := by
    simp [parts]
  rw [Fits, hsegments]
  simp only [List.getElem?_map, Option.map_eq_some_iff, forall_exists_index, and_imp,
    forall_apply_eq_imp_iff₂, length_le_longest_iff, Function.comp_apply, Name.inner_enclose,
    Name.isDelimited_enclose, Name.dot_mem_render, true_and]

/-- A written name fits exactly if the name does, and every part but the first
    of several leaves room for its delimiters. -/
theorem fits_render_iff_fits :
    Fits (Name.render name) ↔
      Fits name ∧ ∀ place segment, (segments name)[place]? = some segment →
        (place = 0 ∧ '.' ∈ name) ∨ (inner segment).length ≤ 62 := by
  rw [fits_render_iff, Fits]
  constructor
  · intro h
    refine ⟨fun place segment hplace => ?fits, fun place segment hplace => ?room⟩
    case fits =>
      have hlength := h place segment hplace
      rw [length_le_longest_iff]
      by_cases hfirst : place = 0 ∧ '.' ∈ name
      · rw [if_neg (not_not.mpr hfirst)] at hlength
        rw [if_neg fun h => h.2 hfirst]
        exact hlength
      · rw [if_pos hfirst] at hlength
        split <;> omega
    case room =>
      have hlength := h place segment hplace
      by_cases hfirst : place = 0 ∧ '.' ∈ name
      · exact Or.inl hfirst
      · rw [if_pos hfirst] at hlength
        exact Or.inr hlength
  · rintro ⟨hfits, hroom⟩ place segment hplace
    rcases hroom place segment hplace with hfirst | hlength
    · have hlongest := length_le_longest_iff.mp (hfits place segment hplace)
      rw [if_neg fun h => h.2 hfirst] at hlongest
      rw [if_neg (not_not.mpr hfirst)]
      exact hlongest
    · split <;> omega

/-- **Delimiters**: a written name is accepted exactly if the name is, and
    every part but the first of several has at most 62 characters.  Nothing
    else of what is asked of a name depends on its delimiters. -/
theorem accepted_render_iff (name : Text) :
    Accepted .name (Name.render name) ↔
      Accepted .name name ∧ ∀ place segment, (segments name)[place]? = some segment →
        (place = 0 ∧ '.' ∈ name) ∨ (inner segment).length ≤ 62 := by
  simp [accepted_name_iff, fits_render_iff_fits, and_assoc]

/-- A name as long as the limit is accepted, and refused once it is written. -/
theorem not_accepted_render_of_longest :
    tick ∉ List.replicate 64 'a' ∧
      ¬ (Accepted .name (List.replicate 64 'a') ↔
        Accepted .name (Name.render (List.replicate 64 'a'))) := by
  decide +kernel

end Token

end GuardedSql
