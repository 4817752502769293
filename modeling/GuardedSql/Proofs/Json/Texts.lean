import GuardedSql.Proofs.Json.Written
import GuardedSql.Proofs.Text.Digits
import GuardedSql.Proofs.Text.Parts
import Mathlib.Data.List.Infix

/-! # Texts within — where the text of a value can hold a given mark

    A mark is looked for in the text of a value, and not in the value.  A mark
    that begins with a character that JSON itself never uses, and that has
    neither a quote nor a backslash, can stand in the text of a value only
    where a string or a name of the value holds it.  The other way round the
    mark need not show, for a character may be escaped; but the writer escapes
    only what it must, and in its text the mark does show. -/

namespace GuardedSql.Json

variable {first c : Char} {more s t w rest : Text} {v : Json} {u : Nat}

mutual

/-- The strings and the names within a value, in order. -/
def texts : Json → List Text
  | null | bool _ | number _ => []
  | string s => [s]
  | array items => itemTexts items
  | object members => memberTexts members

/-- The strings and the names within items. -/
def itemTexts : List Json → List Text
  | [] => []
  | item :: rest => texts item ++ itemTexts rest

/-- The strings and the names within members. -/
def memberTexts : List (Text × Json) → List Text
  | [] => []
  | (name, value) :: rest => name :: texts value ++ memberTexts rest

end

/-! ## The characters of JSON itself -/

/-- The character can stand outside of strings, or in an escape. -/
def isFormal (c : Char) : Bool :=
  isBlank c || c.isDigit || Text.isDigitOf 16 c ||
    ['"', '\\', '/', '[', ']', '\x7b', '\x7d', ',', ':', '-', 'l', 'n', 'r', 's', 't', 'u'].elem c

theorem isFormal_of_isBlank (h : isBlank c = true) : isFormal c = true := by
  simp [isFormal, h]

theorem isFormal_of_isDigit (h : c.isDigit = true) : isFormal c = true := by
  simp [isFormal, h]

theorem isFormal_of_isDigitOf (h : Text.isDigitOf 16 c = true) : isFormal c = true := by
  simp [isFormal, h]

theorem isFormal_of_mem_ofInt {n : Int} (h : c ∈ Text.ofInt n) : isFormal c = true := by
  cases n with
  | ofNat n => exact isFormal_of_isDigit (Text.isDigit_of_mem_ofNat h)
  | negSucc n =>
      rcases List.mem_cons.mp h with rfl | hdigit
      · decide
      · exact isFormal_of_isDigit (Text.isDigit_of_mem_ofNat hdigit)

theorem isFormal_of_mem_escapedUnit (h : EscapedUnit u w) (hc : c ∈ w) : isFormal c = true := by
  cases h with
  | @digits a b d e h =>
      have hstart : ∀ c ∈ ['\\', 'u'], isFormal c = true := by decide
      rcases List.mem_append.mp (show c ∈ ['\\', 'u'] ++ [a, b, d, e] from hc) with hc | hc
      · exact hstart c hc
      · exact isFormal_of_isDigitOf (Text.isDigitOf_of_nat? h c hc)

theorem isFormal_of_unescape? {e : Char} (h : unescape? e = some c) : isFormal e = true := by
  rw [unescape?.eq_def] at h
  split at h
  all_goals first | decide | exact nomatch h

/-- A character stands for itself, or its text is formal and begins with a
    backslash. -/
theorem Spells.plain_or_escape (h : Spells c w) :
    w = [c] ∨ w.head? = some '\\' ∧ ∀ d ∈ w, isFormal d = true := by
  cases h with
  | plain => exact Or.inl rfl
  | short h =>
      refine Or.inr ⟨rfl, ?_⟩
      intro d hd
      rcases List.mem_cons.mp hd with rfl | hd
      · decide
      · rw [List.mem_singleton.mp hd]
        exact isFormal_of_unescape? h
  | unit h =>
      refine Or.inr ⟨?_, fun d hd => isFormal_of_mem_escapedUnit h hd⟩
      cases h
      rfl
  | pair h h' =>
      refine Or.inr ⟨?_, ?_⟩
      · cases h
        rfl
      · intro d hd
        rcases List.mem_append.mp hd with hd | hd
        · exact isFormal_of_mem_escapedUnit h hd
        · exact isFormal_of_mem_escapedUnit h' hd

/-! ## A mark that can stand in strings only -/

/-- A mark that begins with no character of JSON itself, and neither ends a
    string nor begins an escape. -/
structure Telling (first : Char) (more : Text) : Prop where
  first : isFormal first = false
  quote : '"' ∉ more
  slash : '\\' ∉ more

/-- Wherever the mark stands in the text, and whatever follows, it stands in
    one of the strings, or it begins beyond the text. -/
def StandsIn (mark : Text) (strings : List Text) (t : Text) : Prop :=
  ∀ rest, mark <:+: t ++ rest → (∃ s ∈ strings, mark <:+: s) ∨ mark <:+: rest

/-- Where a mark stands in two texts, it stands in both one after another. -/
theorem StandsIn.append {mark t' : Text} {strings strings' : List Text}
    (h : StandsIn mark strings t) (h' : StandsIn mark strings' t') :
    StandsIn mark (strings ++ strings') (t ++ t') := by
  intro rest hmark
  rw [List.append_assoc] at hmark
  rcases h (t' ++ rest) hmark with ⟨s, hs, hinside⟩ | hbeyond
  · exact Or.inl ⟨s, List.mem_append_left _ hs, hinside⟩
  · rcases h' rest hbeyond with ⟨s, hs, hinside⟩ | hbeyond
    · exact Or.inl ⟨s, List.mem_append_right _ hs, hinside⟩
    · exact Or.inr hbeyond

/-- A telling mark does not stand among formal characters. -/
theorem Telling.standsIn_formal (h : Telling first more) (hw : ∀ c ∈ w, isFormal c = true) :
    StandsIn (first :: more) [] w := by
  intro rest hmark
  refine Or.inr ?_
  induction w with
  | nil => exact hmark
  | cons c w ih =>
      obtain ⟨hc, hw⟩ := List.forall_mem_cons.mp hw
      rcases List.infix_cons_iff.mp hmark with hbegins | hinfix
      · obtain ⟨rfl, -⟩ := List.cons_prefix_cons.mp hbegins
        rw [h.first] at hc
        exact nomatch hc
      · exact ih hw hinfix

/-- What begins within a string and has neither a quote nor a backslash, the
    string holds as it is. -/
theorem prefix_of_spellsAll (h : SpellsAll s t) (hquote : '"' ∉ w) (hslash : '\\' ∉ w)
    (hbegins : w <+: t ++ '"' :: rest) : w <+: s := by
  induction h generalizing w with
  | nil =>
      cases w with
      | nil => exact List.nil_prefix
      | cons c w =>
          obtain ⟨rfl, -⟩ := List.cons_prefix_cons.mp hbegins
          exact absurd List.mem_cons_self hquote
  | cons hspells _ ih =>
      cases w with
      | nil => exact List.nil_prefix
      | cons c w =>
          rw [List.append_assoc] at hbegins
          rcases hspells.plain_or_escape with rfl | ⟨hhead, -⟩
          · obtain ⟨rfl, hmore⟩ := List.cons_prefix_cons.mp hbegins
            refine List.cons_prefix_cons.mpr ⟨rfl, ih ?_ ?_ hmore⟩
            · exact fun hmem => hquote (List.mem_cons_of_mem _ hmem)
            · exact fun hmem => hslash (List.mem_cons_of_mem _ hmem)
          · -- an escape begins with a backslash, of which there is none
            obtain ⟨escape, rfl⟩ := List.head?_eq_some_iff.mp hhead
            obtain ⟨rfl, -⟩ := List.cons_prefix_cons.mp hbegins
            exact absurd List.mem_cons_self hslash

/-- A mark that stands before the closing quote of a string, or reaches
    beyond. -/
theorem Telling.infix_of_spellsAll (h : Telling first more) (hs : SpellsAll s t)
    (hmark : first :: more <:+: t ++ '"' :: rest) :
    first :: more <:+: s ∨ first :: more <:+: rest := by
  induction hs with
  | nil =>
      have hquote : ∀ c ∈ ['"'], isFormal c = true := by decide
      exact Or.inr ((h.standsIn_formal hquote rest hmark).resolve_left nofun)
  | @cons c s w t hspells hs ih =>
      rw [List.append_assoc] at hmark
      rcases hspells.plain_or_escape with rfl | ⟨-, hformal⟩
      · rcases List.infix_cons_iff.mp hmark with hbegins | hinfix
        · obtain ⟨rfl, hmore⟩ := List.cons_prefix_cons.mp hbegins
          have hheld := prefix_of_spellsAll hs h.quote h.slash hmore
          exact Or.inl (List.cons_prefix_cons.mpr ⟨rfl, hheld⟩).isInfix
        · exact (ih hinfix).imp_left List.infix_cons
      · -- the mark begins with no character of an escape
        have hbeyond := (h.standsIn_formal hformal _ hmark).resolve_left nofun
        exact (ih hbeyond).imp_left List.infix_cons

/-- Between the quotes of a string the mark stands in the string. -/
theorem Telling.standsIn_string (h : Telling first more) (hs : SpellsAll s t) :
    StandsIn (first :: more) [s] (t ++ ['"']) := by
  intro rest hmark
  rw [List.append_assoc] at hmark
  exact (h.infix_of_spellsAll hs hmark).imp_left fun hinside =>
    ⟨s, List.mem_singleton_self s, hinside⟩

/-- What stands between two characters of JSON itself. -/
theorem StandsIn.enclosed {strings : List Text} {before after : Char} (h : Telling first more)
    (hbefore : isFormal before = true) (hafter : isFormal after = true)
    (ht : StandsIn (first :: more) strings t) :
    StandsIn (first :: more) strings (before :: t ++ [after]) := by
  have hopen := h.standsIn_formal (w := [before]) (by simpa using hbefore)
  have hclose := h.standsIn_formal (w := [after]) (by simpa using hafter)
  have hall := (hopen.append ht).append hclose
  rwa [List.nil_append, List.append_nil] at hall

/-- What stands on both sides of a character of JSON itself. -/
theorem StandsIn.separated {t' : Text} {strings strings' : List Text} (h : Telling first more)
    (hc : isFormal c = true) (ht : StandsIn (first :: more) strings t)
    (ht' : StandsIn (first :: more) strings' t') :
    StandsIn (first :: more) (strings ++ strings') (t ++ c :: t') := by
  have hmark := h.standsIn_formal (w := [c]) (by simpa using hc)
  exact ht.append (hmark.append ht')

theorem Telling.standsIn_blanks (h : Telling first more) (hb : Blanks w) :
    StandsIn (first :: more) [] w :=
  h.standsIn_formal fun c hc => isFormal_of_isBlank (hb c hc)

mutual

/-- In a text of a value the mark stands in a string or in a name. -/
theorem Telling.standsIn (h : Telling first more) : {v : Json} → {t : Text} → Written v t →
    StandsIn (first :: more) (texts v) t
  | _, _, .null => h.standsIn_formal (by with_unfolding_all decide)
  | _, _, .true => h.standsIn_formal (by with_unfolding_all decide)
  | _, _, .false => h.standsIn_formal (by with_unfolding_all decide)
  | _, _, .whole _ => h.standsIn_formal fun _ hc => isFormal_of_mem_ofInt hc
  | _, _, .string hs =>
      (h.standsIn_formal (w := ['"']) (by decide)).append (h.standsIn_string hs)
  | _, _, .emptyArray hb => (h.standsIn_blanks hb).enclosed h rfl rfl
  | _, _, .array hitems => (h.standsIn_items hitems).enclosed h rfl rfl
  | _, _, .emptyObject hb => (h.standsIn_blanks hb).enclosed h rfl rfl
  | _, _, .object hmembers => (h.standsIn_members hmembers).enclosed h rfl rfl
  | _, _, .padded hb hv ha => by
      have hall := ((h.standsIn_blanks hb).append (h.standsIn hv)).append (h.standsIn_blanks ha)
      rwa [List.nil_append, List.append_nil] at hall

/-- A mark in the items of an array stands in one of their strings. -/
theorem Telling.standsIn_items (h : Telling first more) : {items : List Json} → {t : Text} →
    WrittenItems items t → StandsIn (first :: more) (itemTexts items) t
  | _, _, .last hv => by
      rw [itemTexts, itemTexts, List.append_nil]
      exact h.standsIn hv
  | _, _, .cons hv hitems => (h.standsIn hv).separated h rfl (h.standsIn_items hitems)

theorem Telling.standsIn_members (h : Telling first more) : {members : List (Text × Json)} →
    {t : Text} → WrittenMembers members t → StandsIn (first :: more) (memberTexts members) t
  | _, _, .last hname hv => by
      rw [memberTexts, memberTexts, List.append_nil]
      exact (h.standsIn hname).separated h rfl (h.standsIn hv)
  | _, _, .cons hname hv hmembers =>
      ((h.standsIn hname).separated h rfl (h.standsIn hv)).separated h rfl
        (h.standsIn_members hmembers)

end

/-- A mark that no string and no name holds stands in no text of the value. -/
theorem Telling.not_occursIn (h : Telling first more) (hv : Written v t)
    (hmark : ∀ s ∈ texts v, Text.occursIn (first :: more) s = false) :
    Text.occursIn (first :: more) t = false := by
  rw [Bool.eq_false_iff]
  intro hoccurs
  rw [Text.occursIn_iff] at hoccurs
  rcases h.standsIn hv [] (by rwa [List.append_nil]) with ⟨s, hs, hinside⟩ | hbeyond
  · rw [← Text.occursIn_iff, hmark s hs] at hinside
    exact nomatch hinside
  · exact nomatch List.infix_nil.mp hbeyond

/-! ## The text that the writer picks -/

theorem infix_append_left {t' : Text} (h : w <:+: t) : w <:+: t ++ t' :=
  h.trans (List.prefix_append t t').isInfix

theorem infix_append_right {t' : Text} (h : w <:+: t') : w <:+: t ++ t' :=
  h.trans (List.suffix_append t t').isInfix

/-- The strings of a member stand in it as they are escaped. -/
theorem infix_renderMember {name : Text} (h : ∀ s ∈ texts v, s.flatMap escape <:+: render v)
    (hs : s ∈ name :: texts v) : s.flatMap escape <:+: renderString name ++ ':' :: render v := by
  rcases List.mem_cons.mp hs with rfl | hs
  · exact infix_append_left ⟨['"'], ['"'], rfl⟩
  · exact infix_append_right (List.infix_cons (h s hs))

mutual

/-- The writer writes every string and every name as it writes it alone. -/
theorem infix_render : (v : Json) → ∀ s ∈ texts v, s.flatMap escape <:+: render v
  | .null, _, hs => nomatch hs
  | .bool _, _, hs => nomatch hs
  | .number _, _, hs => nomatch hs
  | .string t, s, hs => by
      obtain rfl := List.mem_singleton.mp hs
      exact ⟨['"'], ['"'], rfl⟩
  | .array items, s, hs => (infix_renderItems items s hs).trans ⟨['['], [']'], rfl⟩
  | .object members, s, hs =>
      (infix_renderMembers members s hs).trans ⟨['\x7b'], ['\x7d'], rfl⟩

/-- The strings of items stand in their array as they are escaped. -/
theorem infix_renderItems : (items : List Json) → ∀ s ∈ itemTexts items,
    s.flatMap escape <:+: renderItems items
  | [], _, hs => nomatch hs
  | [v], s, hs => by
      rw [itemTexts, itemTexts, List.append_nil] at hs
      exact infix_render v s hs
  | v :: w :: rest, s, hs => by
      rcases List.mem_append.mp hs with hs | hs
      · exact infix_append_left (infix_render v s hs)
      · exact infix_append_right (List.infix_cons (infix_renderItems (w :: rest) s hs))

theorem infix_renderMembers : (members : List (Text × Json)) → ∀ s ∈ memberTexts members,
    s.flatMap escape <:+: renderMembers members
  | [], _, hs => nomatch hs
  | [(name, v)], s, hs => by
      rw [memberTexts, memberTexts, List.append_nil] at hs
      exact infix_renderMember (infix_render v) hs
  | (name, v) :: m :: rest, s, hs => by
      rcases List.mem_append.mp hs with hs | hs
      · exact infix_append_left (infix_renderMember (infix_render v) hs)
      · exact infix_append_right (List.infix_cons (infix_renderMembers (m :: rest) s hs))

end

/-- A mark without characters to escape shows in what the writer writes, if a
    string or a name holds it. -/
theorem occursIn_render {mark : Text} (hplain : ∀ c ∈ mark, escape c = [c]) (hs : s ∈ texts v)
    (h : Text.occursIn mark s = true) : Text.occursIn mark (render v) = true := by
  rw [Text.occursIn_iff] at h ⊢
  have hmark : mark.flatMap escape = mark := by
    rw [List.flatMap_congr hplain, List.flatMap_singleton']
  obtain ⟨before, after, rfl⟩ := h
  have hwritten := infix_render v _ hs
  rw [List.flatMap_append, List.flatMap_append, hmark] at hwritten
  exact List.IsInfix.trans ⟨_, _, rfl⟩ hwritten

end GuardedSql.Json
