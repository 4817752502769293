import GuardedSql.Proofs.Lexical.Region
import GuardedSql.Proofs.Text.Join
import GuardedSql.Proofs.Token.Accepted

/-! # Inert texts — texts that keep to themselves

    A text is inert if it leaves no region open and holds neither a double
    quote nor a semicolon; the keywords it shows outside its regions are kept
    beside it.  Inert texts may be put together wherever no word crosses the
    seam, and their keywords are then put together too.  Every accepted token
    is inert in each of the forms in which it is written, and shows no
    keyword at all. -/

namespace GuardedSql

open Region Token

/-- The words outside literals and names that are keywords, the case of
    letters ignored; each is given as it stands. -/
def keywordsOutside (t : Text) : List Text :=
  ((bare t).runs isWordChar).filter fun word => keywords.contains word.upper

/-- The text keeps to itself, and shows the given keywords. -/
structure Inert (t : Text) (shown : List Text) : Prop where
  closed : Closed t
  noDoubleQuote : '"' ∉ t
  noSemicolon : ';' ∉ t
  keywords : keywordsOutside t = shown

theorem inert_iff {t : Text} {shown : List Text} :
    Inert t shown ↔ Closed t ∧ '"' ∉ t ∧ ';' ∉ t ∧ keywordsOutside t = shown :=
  ⟨fun h => ⟨h.1, h.2, h.3, h.4⟩, fun ⟨h1, h2, h3, h4⟩ => ⟨h1, h2, h3, h4⟩⟩

instance (t : Text) (shown : List Text) : Decidable (Inert t shown) :=
  decidable_of_iff _ inert_iff.symm

/-- No word crosses the seam between the two texts. -/
abbrev Apart (x y : Text) : Prop := Text.Apart isWordChar x y

variable {t x y : Text} {shown ks ls : List Text}

/-! ## Putting texts together -/

/-- Skipping regions keeps a seam a seam. -/
theorem apart_bare (h : Apart x y) : Apart (bare x) (bare y) := by
  rcases h with hx | hy
  · left
    intro c hc
    -- the last character is seen as it is, or hidden as a blank
    rw [bare, List.getLast?_map] at hc
    obtain ⟨⟨r, d⟩, hlast, rfl⟩ := Option.map_eq_some_iff.mp hc
    have hd : d ∈ x.getLast? := by
      rw [← map_snd_met .outside x, List.getLast?_map, hlast]
      rfl
    show isWordChar (if r = .outside then d else ' ') = false
    split
    · exact hx d hd
    · rfl
  · right
    cases y with
    | nil =>
        intro d hd
        exact absurd hd (Option.not_mem_none d)
    | cons c y =>
        -- the first character is met outside
        intro d hd
        have heq : d = c := by
          simp [bare, met] at hd
          exact hd.symm
        rw [heq]
        exact hy c rfl

/-- The keywords of two texts are those of each, if the first is closed and no
    word crosses the seam. -/
theorem keywordsOutside_append (hx : Closed x) (h : Apart x y) :
    keywordsOutside (x ++ y) = keywordsOutside x ++ keywordsOutside y := by
  rw [keywordsOutside, bare_append hx, Text.runs_append (apart_bare h), List.filter_append]
  rfl

/-- **Composition**: inert texts that are apart make an inert text. -/
theorem Inert.append (hx : Inert x ks) (hy : Inert y ls) (h : Apart x y) :
    Inert (x ++ y) (ks ++ ls) where
  closed := hx.closed.append hy.closed
  noDoubleQuote := List.not_mem_append hx.noDoubleQuote hy.noDoubleQuote
  noSemicolon := List.not_mem_append hx.noSemicolon hy.noSemicolon
  keywords := by rw [keywordsOutside_append hx.closed h, hx.keywords, hy.keywords]

theorem inert_nil : Inert [] [] where
  closed := rfl
  noDoubleQuote := nofun
  noSemicolon := nofun
  keywords := rfl

/-- A text that stands between others without touching their words. -/
def Borders (t : Text) : Prop :=
  t ≠ [] ∧ (∀ c ∈ t.head?, isWordChar c = false) ∧ (∀ c ∈ t.getLast?, isWordChar c = false)

instance (t : Text) : Decidable (Borders t) := inferInstanceAs (Decidable (_ ∧ _ ∧ _))

/-- An inert text with borders, which goes between any two inert texts. -/
structure Separator (t : Text) (shown : List Text) : Prop where
  inert : Inert t shown
  borders : Borders t

instance (t : Text) (shown : List Text) : Decidable (Separator t shown) :=
  decidable_of_iff (Inert t shown ∧ Borders t) ⟨fun h => ⟨h.1, h.2⟩, fun h => ⟨h.1, h.2⟩⟩

theorem separator_dot : Separator (chars ".") [] := by with_unfolding_all decide

theorem separator_comma : Separator (chars ",") [] := by with_unfolding_all decide

theorem separator_comma_space : Separator (chars ", ") [] := by with_unfolding_all decide

theorem separator_equals : Separator ['='] [] := by with_unfolding_all decide

theorem separator_space : Separator [' '] [] := by with_unfolding_all decide

/-- Two inert texts with a separator between are inert, and show the keywords
    of all three. -/
theorem Inert.around {between : Text} {ms : List Text} (hx : Inert x ks)
    (hb : Separator between ms) (hy : Inert y ls) :
    Inert (x ++ between ++ y) (ks ++ ms ++ ls) := by
  obtain ⟨hne, hhead, hlast⟩ := hb.borders
  refine (hx.append hb.inert (Or.inr hhead)).append hy (Or.inl ?_)
  intro c hc
  have hlast' : (x ++ between).getLast? = between.getLast? := by
    rw [List.getLast?_append, List.getLast?_eq_some_getLast hne]
    rfl
  rw [hlast'] at hc
  exact hlast c hc

/-- A join of inert texts is inert, and shows what the texts show. -/
theorem Inert.join {α : Type} {between : String} {write : α → Text}
    {shows : α → List Text} (hb : Separator (chars between) []) {xs : List α}
    (h : ∀ x ∈ xs, Inert (write x) (shows x)) :
    Inert (Text.join between (xs.map write)) (xs.flatMap shows) := by
  induction xs with
  | nil => exact inert_nil
  | cons x xs ih =>
      obtain ⟨hx, hxs⟩ := List.forall_mem_cons.mp h
      rw [List.flatMap_cons, List.map_cons]
      by_cases hne : xs = []
      · simpa [hne] using hx
      · rw [Text.join_cons_of_ne_nil (by simpa using hne)]
        have hall := hx.around hb (ih hxs)
        rw [List.append_nil] at hall
        exact hall

/-- A join of texts that show no keyword shows none. -/
theorem Inert.join_nil {α : Type} {between : String} {write : α → Text}
    (hb : Separator (chars between) []) {xs : List α} (h : ∀ x ∈ xs, Inert (write x) []) :
    Inert (Text.join between (xs.map write)) [] := by
  have hjoin := Inert.join hb h
  rw [List.flatMap_eq_nil_iff.mpr fun _ _ => rfl] at hjoin
  exact hjoin

end GuardedSql
