import GuardedSql.Proofs.Text.Parts
import Mathlib.Data.Nat.Digits.Defs

/-! # Integers — which values are written bare

    A value is written bare if it is a numeral whose number fits in a signed
    64-bit word.  `Numeral` is the grammar of numerals, with the number that
    each stands for: one sign or none, and one or more decimal digits, however
    many zeros come first.

    A quoted value begins with a quote, a numeral with a sign or a digit.  So
    what is written tells the value, for all texts and not for accepted ones
    alone. -/

namespace GuardedSql.Literal

variable {t digits : Text} {n : Int} {m : Nat}

/-! ## Numerals -/

/-- One or more decimal digits. -/
def IsDecimal (t : Text) : Prop := t ≠ [] ∧ ∀ c ∈ t, '0' ≤ c ∧ c ≤ '9'

/-- The number in decimal digits, of which the last counts ones. -/
def decimalValue (digits : Text) : Nat :=
  Nat.ofDigits 10 (digits.reverse.map fun c => c.toNat - '0'.toNat)

/-- The text is a numeral, and the number is what it stands for. -/
inductive Numeral : Text → Int → Prop where
  | plain {digits : Text} (h : IsDecimal digits) : Numeral digits (decimalValue digits)
  | plus {digits : Text} (h : IsDecimal digits) : Numeral ('+' :: digits) (decimalValue digits)
  | minus {digits : Text} (h : IsDecimal digits) : Numeral ('-' :: digits) (-decimalValue digits)

/-- The text is a numeral, and its number fits in a signed 64-bit word. -/
def FitsWord (t : Text) : Prop := ∃ n, Numeral t n ∧ -2 ^ 63 ≤ n ∧ n ≤ 2 ^ 63 - 1

/-! ## Reading digits -/

/-- Reading digits from the left gives what they stand for. -/
theorem ofDigits_eq_decimalValue (h : ∀ c ∈ digits, '0' ≤ c ∧ c ≤ '9') :
    Text.ofDigits 10 digits = decimalValue digits := by
  rw [decimalValue, Nat.ofDigits_eq_foldr, List.foldr_map, List.foldr_reverse, Text.ofDigits]
  refine List.foldl_ext _ _ 0 fun m c hc => ?_
  have hvalue : Text.digitValue? c = some (c.toNat - '0'.toNat) := if_pos (h c hc)
  rw [hvalue, Option.getD_some, Nat.cast_id]
  omega

/-- A natural number is read exactly from decimal digits, as their value. -/
theorem nat?_eq_some_iff : Text.nat? 10 t = some m ↔ IsDecimal t ∧ decimalValue t = m := by
  have hdecimal : (!t.isEmpty && t.all (Text.isDigitOf 10)) = true ↔ IsDecimal t := by
    rw [Bool.and_eq_true, Bool.not_eq_true', List.isEmpty_eq_false_iff, List.all_eq_true, IsDecimal]
    simp only [Text.isDigitOf_ten_iff]
  rw [Text.nat?]
  split
  · rename_i h
    rw [hdecimal] at h
    rw [Option.some.injEq, ofDigits_eq_decimalValue h.2, and_iff_right h]
  · rename_i h
    exact iff_of_false (Option.some_ne_none m).symm fun hin => h (hdecimal.mpr hin.1)

/-- A signed number is read exactly where its digits are. -/
theorem signed_eq_some_iff {sign : Int → Int} :
    ((Text.nat? 10 digits).bind fun m => some (m : Int)).map sign = some n ↔
      IsDecimal digits ∧ sign (decimalValue digits) = n := by
  constructor
  · intro h
    obtain ⟨k, hk, rfl⟩ := Option.map_eq_some_iff.mp h
    obtain ⟨m, hm, hcast⟩ := Option.bind_eq_some_iff.mp hk
    obtain ⟨hdigits, rfl⟩ := nat?_eq_some_iff.mp hm
    rw [Option.some.inj hcast]
    exact ⟨hdigits, rfl⟩
  · rintro ⟨hdigits, rfl⟩
    rw [nat?_eq_some_iff.mpr ⟨hdigits, rfl⟩]
    rfl

/-- **Numerals** are what is read, with the numbers they stand for. -/
theorem int?_eq_some_iff : t.int? = some n ↔ Numeral t n := by
  have hsign : ∀ {c : Char} {digits : Text}, IsDecimal (c :: digits) → '0' ≤ c :=
    fun h => (h.2 _ (List.mem_cons_self ..)).1
  rw [Text.int?.eq_def]
  split
  · refine signed_eq_some_iff.trans ⟨fun h => h.2 ▸ .plus h.1, fun h => ?_⟩
    cases h with
    | plain h => exact absurd (hsign h) (by decide)
    | plus h => exact ⟨h, rfl⟩
  · refine signed_eq_some_iff.trans ⟨fun h => h.2 ▸ .minus h.1, fun h => ?_⟩
    cases h with
    | plain h => exact absurd (hsign h) (by decide)
    | minus h => exact ⟨h, rfl⟩
  · rename_i hplus hminus
    refine signed_eq_some_iff.trans ⟨fun h => h.2 ▸ .plain h.1, fun h => ?_⟩
    cases h with
    | plain h => exact ⟨h, rfl⟩
    | plus h => exact absurd rfl (hplus _)
    | minus h => exact absurd rfl (hminus _)

/-- The test agrees with the grammar and the range of a signed word. -/
theorem isInteger_iff : isInteger t = true ↔ FitsWord t := by
  rw [isInteger, FitsWord]
  simp only [← int?_eq_some_iff]
  cases t.int? with
  | none => simp
  | some n =>
      simp only [Bool.and_eq_true, decide_eq_true_iff, Option.some.injEq, exists_eq_left']
      omega

/-! ## What is written -/

theorem inQuotes_ne (t : Text) : t.inQuotes ≠ t := by
  intro h
  have hlength := congrArg List.length h
  simp [Text.inQuotes] at hlength
  omega

theorem inQuotes_injective : Function.Injective Text.inQuotes := by
  intro s t h
  exact List.append_cancel_right (List.cons.inj h).2

/-- No integer is a quoted text. -/
theorem ne_inQuotes_of_isInteger {s : Text} (h : isInteger s = true) (t : Text) :
    s ≠ t.inQuotes := by
  rintro rfl
  exact absurd (isIntegerChar_of_isInteger h '\'' (List.mem_cons_self ..)) (by decide)

/-- Two values are written alike only if they are the same: a bare one begins
    with no quote. -/
theorem render_injective : Function.Injective render := by
  intro s t h
  rw [render, render] at h
  split at h
  · rename_i hs
    split at h
    · exact h
    · exact absurd h (ne_inQuotes_of_isInteger hs t)
  · split at h
    · rename_i ht
      exact absurd h.symm (ne_inQuotes_of_isInteger ht s)
    · exact inQuotes_injective h

/-- **Bare values**: a value is written as it is exactly if it is a numeral
    that fits in a signed 64-bit word, and between quotes exactly if it is not;
    and no two values are written alike. -/
theorem bare_iff_fitsWord :
    (∀ value, (render value = value ↔ FitsWord value) ∧
      (render value = value.inQuotes ↔ ¬ FitsWord value)) ∧
    Function.Injective render := by
  refine ⟨fun value => ?_, render_injective⟩
  rw [← isInteger_iff, render]
  split
  · rename_i h
    exact ⟨iff_of_true rfl h, iff_of_false (inQuotes_ne value).symm (not_not_intro h)⟩
  · rename_i h
    exact ⟨iff_of_false (inQuotes_ne value) h, iff_of_true rfl h⟩

/-- The least number of a word with zeros in front, and the first number
    beyond the greatest. -/
theorem bare_iff_fitsWord_limits :
    FitsWord (chars "-0009223372036854775808") ∧ ¬ FitsWord (chars "+9223372036854775808") :=
  ⟨(bare_iff_fitsWord.1 _).1.mp (by decide +kernel),
    (bare_iff_fitsWord.1 _).2.mp (by decide +kernel)⟩

end GuardedSql.Literal
