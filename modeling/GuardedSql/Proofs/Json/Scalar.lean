import GuardedSql.Proofs.Check
import GuardedSql.Proofs.Json.Written
import GuardedSql.Proofs.Text.Digits
import Mathlib.Data.List.DropRight

/-! # Scalars read back — strings and whole numbers

    A string is read up to its own closing quote, whatever it holds and however
    its characters are written, and a whole number up to the first character
    that cannot belong to a number.  What follows is left as it stands. -/

namespace GuardedSql.Json

variable {c : Char} {s t w b rest : Text} {u n : Nat}

/-! ## Blanks -/

/-- Blanks at the start are skipped. -/
theorem skipBlanks_append (hb : Blanks b) (t : Text) : skipBlanks (b ++ t) = skipBlanks t :=
  List.dropWhile_append_of_pos hb

@[simp] theorem skipBlanks_skipBlanks (t : Text) : skipBlanks (skipBlanks t) = skipBlanks t :=
  List.dropWhile_idempotent _ t

theorem skipBlanks_cons (h : isBlank c = false) (t : Text) : skipBlanks (c :: t) = c :: t :=
  List.dropWhile_cons_of_neg (by simp [h])

/-- A word that is expected is found where it stands. -/
@[simp] theorem expect_append (word rest : Text) : expect word (word ++ rest) = .ok rest := by
  induction word with
  | nil => rfl
  | cons w word ih => rw [List.cons_append, expect, if_pos rfl, ih]

/-! ## Strings -/

/-- An escaped unit is one unit of the body. -/
theorem ofText_unit (h : EscapedUnit u w) (rest : Text) :
    Body.ofText (w ++ rest) = Body.ofUnit u (Body.ofText rest) := by
  cases h with
  | digits h =>
      simp only [List.cons_append, List.nil_append]
      rw [Body.ofText, h]

theorem ofText_short {e : Char} (h : unescape? e = some c) (rest : Text) :
    Body.ofText ('\\' :: e :: rest) = .char c (Body.ofText rest) := by
  -- `u` begins the escape of a unit, and stands for no character of its own
  have hne : e ≠ 'u' := by
    rintro rfl
    cases h
  rw [Body.ofText, h]
  · exact fun _ _ _ _ _ he _ => hne he
  · exact hne

theorem ofText_plain (hcontrol : ¬ c.toNat < 0x20) (hquote : c ≠ '"') (hslash : c ≠ '\\')
    (rest : Text) : Body.ofText (c :: rest) = .char c (Body.ofText rest) := by
  rw [Body.ofText, if_neg hcontrol]
  · exact hquote
  all_goals intros; contradiction

/-- A character is read, however it is written. -/
theorem read_spells (h : Spells c w) (rest : Text) :
    (Body.ofText (w ++ rest)).read none =
      ((Body.ofText rest).read none).map fun (text, rest) => (c :: text, rest) := by
  cases h with
  | plain hcontrol hquote hslash =>
      rw [List.singleton_append, ofText_plain hcontrol hquote hslash, Body.read]
  | short h =>
      rw [List.cons_append, List.singleton_append, ofText_short h, Body.read]
  | unit h hwhole =>
      rw [ofText_unit h, Body.ofUnit, if_neg (by simp [hwhole]), Body.read]
  | @pair high low _ _ h h' hhigh hlow =>
      -- the first half waits for the second, and only both give a character
      have hfirst : isHalf high = true := Bool.or_eq_true_iff.mpr (Or.inl hhigh)
      have hsecond : isHalf low = true := Bool.or_eq_true_iff.mpr (Or.inr hlow)
      rw [List.append_assoc, ofText_unit h, ofText_unit h', Body.ofUnit, Body.ofUnit,
        if_pos hfirst, if_pos hsecond, Body.read, if_pos hhigh, Body.read, if_pos hlow]

/-- A string is read up to its closing quote. -/
theorem stringBody_spellsAll (h : SpellsAll s t) (rest : Text) :
    stringBody .reading (t ++ '"' :: rest) = .ok (s, rest) := by
  rw [stringBody]
  induction h with
  | nil => rw [List.nil_append, Body.ofText, Body.read]
  | cons h _ ih =>
      simp only [List.append_assoc] at ih ⊢
      rw [read_spells h, ih]
      rfl

/-! ## Whole numbers -/

/-- What may follow a value: nothing, a blank, or a mark between values or
    after the last. -/
def Ends (rest : Text) : Prop := ∀ c ∈ rest.head?, isBlank c = true ∨ c ∈ [',', ']', '\x7d']

theorem Ends.append (hb : Blanks b) (h : Ends rest) : Ends (b ++ rest) := by
  cases b with
  | nil => exact h
  | cons c b =>
      intro d hd
      obtain rfl := Option.some.inj hd
      exact Or.inl (hb _ List.mem_cons_self)

/-- The marks that end a value end a number. -/
theorem Ends.of_mem (h : c ∈ [',', ']', '\x7d']) (rest : Text) : Ends (c :: rest) := by
  intro d hd
  obtain rfl := Option.some.inj hd
  exact Or.inr h

/-- What may follow a value does not continue a number. -/
theorem Ends.not_number (h : Ends rest) :
    ∀ c ∈ rest.head?, c.isDigit = false ∧ c ≠ '.' ∧ c ≠ 'e' ∧ c ≠ 'E' := by
  intro c hc
  have hmem : c ∈ [' ', '\t', '\n', '\r', ',', ']', '\x7d'] := by
    have hends := h c hc
    simp only [isBlank, Bool.or_eq_true, beq_iff_eq] at hends
    simp only [List.mem_cons] at hends ⊢
    tauto
  have hmarks : ∀ c ∈ [' ', '\t', '\n', '\r', ',', ']', '\x7d'],
      c.isDigit = false ∧ c ≠ '.' ∧ c ≠ 'e' ∧ c ≠ 'E' := by decide
  exact hmarks c hmem

/-- No digit is left at the front of what may follow a value. -/
theorem Ends.span_isDigit (h : Ends rest) :
    rest.takeWhile Char.isDigit = [] ∧ rest.dropWhile Char.isDigit = rest := by
  cases rest with
  | nil => exact ⟨rfl, rfl⟩
  | cons c rest =>
      have hc : ¬ c.isDigit = true := by simp [(h.not_number c rfl).1]
      exact ⟨List.takeWhile_cons_of_neg hc, List.dropWhile_cons_of_neg hc⟩

/-- All digits are read up to the end of the number. -/
theorem digits_append (hne : t ≠ []) (hdigits : ∀ c ∈ t, c.isDigit = true) (h : Ends rest) :
    digits .reading (t ++ rest) = .ok (t, rest) := by
  obtain ⟨htake, hdrop⟩ := h.span_isDigit
  rw [digits, List.takeWhile_append_of_pos hdigits, List.dropWhile_append_of_pos hdigits, htake,
    hdrop, List.append_nil]
  cases t with
  | nil => exact absurd rfl hne
  | cons c t => rfl

theorem fraction_none (h : Ends rest) : fraction .reading rest = .ok (none, rest) := by
  rw [fraction]
  rintro rest' rfl
  exact (h.not_number '.' rfl).2.1 rfl

theorem exponent_none (h : Ends rest) : exponent .reading rest = .ok (none, rest) := by
  cases rest with
  | nil => rfl
  | cons c rest =>
      obtain ⟨-, -, he, hE⟩ := h.not_number c rfl
      exact if_neg (by simp [he, hE])

/-- The digits of a natural number are read as they stand, with the sign in
    front. -/
theorem unsigned_ofNat (negative : Bool) (n : Nat) (h : Ends rest) :
    unsigned .reading negative (Text.ofNat n ++ rest) =
      .ok (⟨negative, Text.ofNat n, none, none⟩, rest) := by
  have hzero : ¬ ((Text.ofNat n).head? = some '0' ∧ (Text.ofNat n).length > 1) := by
    rintro ⟨hhead, hlength⟩
    by_cases hn : n = 0
    · subst hn
      exact absurd hlength (by decide)
    · exact Text.head?_ofNat hn hhead
  rw [unsigned, digits_append (Text.ofNat_ne_nil n) (fun _ hc => Text.isDigit_of_mem_ofNat hc) h]
  show (if _ then _ else _) = _
  rw [if_neg hzero, fraction_none h]
  show (exponent .reading rest).bind _ = _
  rw [exponent_none h]
  rfl

/-- The sign and the digits of a whole number stand for it if it fits in 64
    bits. -/
theorem number?_ofNat {negative : Bool}
    (h : if negative then 0 < n ∧ n ≤ 0x8000000000000000 else n < UInt64.size) :
    Numeral.number? ⟨negative, Text.ofNat n, none, none⟩ =
      some (.whole (if negative then -n else n)) := by
  rw [Numeral.number?, Text.ofDigits_ofNat]
  exact if_pos ⟨rfl, rfl, h⟩

/-- A numeral that stands for a number is read as this number. -/
theorem readNumber_eq_ok {m : Numeral} {x : Number} (h : numeral .reading t = .ok (m, rest))
    (hnumber : m.number? = some x) : readNumber .reading t = .ok (x, rest) := by
  rw [readNumber, h]
  simp only [bind, Except.bind]
  rw [hnumber]
  rfl

theorem numeral_ofNat (n : Nat) (h : Ends rest) :
    numeral .reading (Text.ofNat n ++ rest) = .ok (⟨false, Text.ofNat n, none, none⟩, rest) := by
  rw [numeral, unsigned_ofNat false n h]
  intro rest' heq
  obtain ⟨c, t, ht⟩ := List.exists_cons_of_ne_nil (Text.ofNat_ne_nil n)
  have hdigit : c.isDigit = true := Text.isDigit_of_mem_ofNat (ht ▸ List.mem_cons_self)
  rw [ht] at heq
  obtain rfl := (List.cons.inj heq).1
  exact absurd hdigit (by decide)

/-- A whole number that fits in 64 bits, signed or unsigned, is read as it was
    written. -/
theorem readNumber_ofInt {n : Int} (hlow : -0x8000000000000000 ≤ n) (hhigh : n < UInt64.size)
    (h : Ends rest) : readNumber .reading (Text.ofInt n ++ rest) = .ok (.whole n, rest) := by
  cases n with
  | ofNat n =>
      refine readNumber_eq_ok (numeral_ofNat n h) (number?_ofNat ?_)
      exact Int.ofNat_lt.mp hhigh
  | negSucc n =>
      refine readNumber_eq_ok (unsigned_ofNat true (n + 1) h) (number?_ofNat ?_)
      constructor
      · exact Nat.succ_pos n
      · omega

end GuardedSql.Json
