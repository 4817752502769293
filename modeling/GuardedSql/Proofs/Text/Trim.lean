import GuardedSql.Text.Basic
import Mathlib.Data.List.TakeWhile

/-! # Trimming — what is left of a text without its ends

    Trimming takes the characters of a class off both ends.  Nothing is left
    if there is nothing else, and a text without such characters stays.

    `Trimmed` and `Padded` say of texts what trimming does with blanks: a text
    is its trimmed text with blanks around, and a trimmed text with blanks
    around it is left. -/

namespace GuardedSql.Text

variable {p : Char → Bool} {c : Char} {t front back padded : Text}

/-- The characters of the class in front are dropped, up to the first other
    one. -/
theorem dropWhile_append (hfront : ∀ c ∈ front, p c = true) (ht : ∀ c ∈ t.head?, p c = false) :
    (front ++ t).dropWhile p = t := by
  rw [List.dropWhile_append_of_pos hfront]
  cases t with
  | nil => rfl
  | cons a t => exact List.dropWhile_cons_of_neg (by rw [ht a rfl]; exact Bool.false_ne_true)

@[simp] theorem trimWith_eq_nil_iff : trimWith p t = [] ↔ ∀ c ∈ t, p c = true := by
  rw [trimWith, dropWhileEnd, List.reverse_eq_nil_iff, List.dropWhile_eq_nil_iff]
  simp only [List.mem_reverse]
  constructor
  · intro h
    -- what the first cut leaves begins outside the class, so it is nothing
    rw [← List.dropWhile_eq_nil_iff]
    cases hrest : t.dropWhile p with
    | nil => rfl
    | cons a rest =>
        have hin := h a (by rw [hrest]; exact List.mem_cons_self ..)
        have hout := List.head?_dropWhile_not p t
        rw [hrest] at hout
        exact absurd (hin.symm.trans hout) (by decide)
  · intro h c hc
    exact h c ((List.dropWhile_sublist p).mem hc)

/-- What stands around a text is trimmed off it, up to ends outside the
    class. -/
theorem trimWith_append (hfront : ∀ c ∈ front, p c = true) (hback : ∀ c ∈ back, p c = true)
    (hhead : ∀ c ∈ t.head?, p c = false) (hlast : ∀ c ∈ t.getLast?, p c = false) :
    trimWith p (front ++ t ++ back) = t := by
  cases t with
  | nil =>
      rw [List.append_nil]
      exact trimWith_eq_nil_iff.mpr (List.forall_mem_append.mpr ⟨hfront, hback⟩)
  | cons a t =>
      have hback' : ∀ c ∈ back.reverse, p c = true := fun c hc => hback c (List.mem_reverse.mp hc)
      have hlast' : ∀ c ∈ (a :: t).reverse.head?, p c = false := by
        rw [List.head?_reverse]
        exact hlast
      have hhead' : ∀ c ∈ (a :: t ++ back).head?, p c = false := hhead
      rw [trimWith, dropWhileEnd, List.append_assoc, dropWhile_append hfront hhead',
        List.reverse_append, dropWhile_append hback' hlast', List.reverse_reverse]

/-- A text has nothing to trim if it holds no character of the class. -/
theorem trimWith_of_not (h : ∀ c ∈ t, p c = false) : trimWith p t = t := by
  have htrim : trimWith p ([] ++ t ++ []) = t :=
    trimWith_append nofun nofun (fun c hc => h c (List.mem_of_mem_head? hc))
      (fun c hc => h c (List.mem_of_mem_getLast? hc))
  rwa [List.nil_append, List.append_nil] at htrim

/-- One character of the class on either side is all that is trimmed off a
    text without such characters. -/
theorem trimWith_enclosed (hc : p c = true) (h : ∀ c ∈ t, p c = false) :
    trimWith p (c :: t ++ [c]) = t := by
  have hends : ∀ d ∈ [c], p d = true := List.forall_mem_singleton.mpr hc
  exact trimWith_append hends hends (fun c hc => h c (List.mem_of_mem_head? hc))
    (fun c hc => h c (List.mem_of_mem_getLast? hc))

/-! ## Blanks around a text -/

/-- No blank stands at either end of the text. -/
structure Trimmed (t : Text) : Prop where
  head : ∀ c ∈ t.head?, isBlank c = false
  last : ∀ c ∈ t.getLast?, isBlank c = false

/-- The second text is the first with blanks before and after it, or
    without. -/
def Padded (t padded : Text) : Prop :=
  ∃ front back, padded = front ++ t ++ back ∧ (∀ c ∈ front, isBlank c = true) ∧
    ∀ c ∈ back, isBlank c = true

/-- Trimming takes blanks off either end, and nothing else. -/
theorem padded_trim (t : Text) : Padded t.trim t := by
  have hrest : t.dropWhile isBlank =
      t.trim ++ ((t.dropWhile isBlank).reverse.takeWhile isBlank).reverse := by
    rw [trim, trimWith, dropWhileEnd, ← List.reverse_append, List.takeWhile_append_dropWhile,
      List.reverse_reverse]
  refine ⟨t.takeWhile isBlank, ((t.dropWhile isBlank).reverse.takeWhile isBlank).reverse, ?_,
    fun c hc => List.mem_takeWhile_imp hc,
    fun c hc => List.mem_takeWhile_imp (List.mem_reverse.mp hc)⟩
  rw [List.append_assoc, ← hrest, List.takeWhile_append_dropWhile]

/-- Blanks around a trimmed text are taken off again. -/
theorem Trimmed.trim_eq (h : Trimmed t) (hpadded : Padded t padded) : padded.trim = t := by
  obtain ⟨front, back, rfl, hfront, hback⟩ := hpadded
  exact trimWith_append hfront hback h.head h.last

/-- Nothing is left of a text exactly if it is blank. -/
@[simp] theorem isEmpty_trim : t.trim.isEmpty = t.allBlank := by
  rw [Bool.eq_iff_iff, List.isEmpty_iff, trim, trimWith_eq_nil_iff, allBlank, List.all_eq_true]

end GuardedSql.Text
