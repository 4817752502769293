import GuardedSql.Proofs.Text.Join

/-! # Digits — numbers as they are written

    A number is written in one way only, in decimal or in hexadecimal digits,
    and with digits alone. -/

namespace GuardedSql.Text

variable {c mark : Char} {n m : Nat}

/-- A hexadecimal digit, letters in lower case. -/
def IsHexDigit (c : Char) : Prop := ∃ d < 16, c = Nat.digitChar d

theorem isHexDigit_of_mem_hex (h : c ∈ hex n) : IsHexDigit c := by
  rw [hex] at h
  induction n using Nat.strongRecOn with
  | ind n ih =>
      rw [Nat.toDigits_eq_if (by decide)] at h
      split at h
      · rename_i hlt
        exact ⟨n, hlt, List.mem_singleton.mp h⟩
      · rcases List.mem_append.mp h with hhigh | hlow
        · exact ih (n / 16) (by omega) hhigh
        · exact ⟨n % 16, Nat.mod_lt n (by decide), List.mem_singleton.mp hlow⟩

/-- A digit stands for the number that it was made from. -/
theorem digitValue?_digitChar {d : Nat} (h : d < 16) :
    digitValue? (Nat.digitChar d) = some d := by
  have hdigit : ∀ d < 16, digitValue? (Nat.digitChar d) = some d := by decide
  exact hdigit d h

/-- The decimal digits are those from `0` to `9`. -/
theorem isDigitOf_ten_iff : isDigitOf 10 c = true ↔ '0' ≤ c ∧ c ≤ '9' := by
  rw [isDigitOf, digitValue?]
  by_cases hdigit : '0' ≤ c ∧ c ≤ '9'
  · have hnine : c.toNat ≤ 57 := hdigit.2
    have hzero : '0'.toNat = 48 := rfl
    rw [if_pos hdigit]
    exact iff_of_true (decide_eq_true (by omega)) hdigit
  · rw [if_neg hdigit]
    refine iff_of_false ?_ hdigit
    split
    · rename_i d hd
      -- a letter stands for ten or more
      have hten : 10 ≤ d := by
        split at hd
        · rw [← Option.some.inj hd]
          omega
        · split at hd
          · rw [← Option.some.inj hd]
            omega
          · exact nomatch hd
      exact fun h => absurd (of_decide_eq_true h) (by omega)
    · exact Bool.false_ne_true

/-- The value of the digits is read back one after another. -/
theorem ofDigits_toDigits {base : Nat} (hlow : 1 < base) (hhigh : base ≤ 16) (n : Nat) :
    ofDigits base (Nat.toDigits base n) = n := by
  induction n using Nat.strongRecOn with
  | ind n ih =>
      rw [Nat.toDigits_eq_if hlow]
      split
      · rw [ofDigits, List.foldl_cons, List.foldl_nil, digitValue?_digitChar (by omega)]
        simp
      · have hdiv := ih (n / base) (Nat.div_lt_self (by omega) hlow)
        have hmod : n % base < 16 := Nat.lt_of_lt_of_le (Nat.mod_lt n (by omega)) hhigh
        rw [ofDigits] at hdiv
        rw [ofDigits, List.foldl_append, hdiv, List.foldl_cons, List.foldl_nil,
          digitValue?_digitChar hmod]
        exact Nat.div_add_mod' n base

theorem ofDigits_hex (n : Nat) : ofDigits 16 (hex n) = n :=
  ofDigits_toDigits (by decide) (by decide) n

@[simp] theorem ofDigits_ofNat (n : Nat) : ofDigits 10 (ofNat n) = n :=
  ofDigits_toDigits (by decide) (by decide) n

theorem hex_injective (h : hex n = hex m) : n = m := by
  rw [← ofDigits_hex n, h, ofDigits_hex]

theorem hex_ne_nil (n : Nat) : hex n ≠ [] := Nat.toDigits_ne_nil

/-- The marks that cut an address are no digits. -/
theorem not_isHexDigit (hmark : mark ∈ ['/', '?', '#', '@', ':', '[', ']']) :
    ¬ IsHexDigit mark := by
  have hdigits : ∀ mark ∈ ['/', '?', '#', '@', ':', '[', ']'], ∀ d < 16,
      mark ≠ Nat.digitChar d := by decide
  rintro ⟨d, hd, heq⟩
  exact hdigits mark hmark d hd heq

theorem isDigit_of_mem_ofNat (h : c ∈ ofNat n) : c.isDigit = true :=
  Nat.isDigit_of_mem_toDigits (by decide) (by decide) h

theorem ofNat_ne_nil (n : Nat) : ofNat n ≠ [] := Nat.toDigits_ne_nil

theorem ofNat_injective (h : ofNat n = ofNat m) : n = m := by
  have hread := congrArg (fun digits => Nat.ofDigitChars 10 digits 0) h
  simpa only [ofNat, Nat.ofDigitChars_ten_toDigits] using hread

/-- Only zero is written with a zero in front. -/
theorem head?_ofNat (h : n ≠ 0) : (ofNat n).head? ≠ some '0' := by
  rw [ofNat]
  induction n using Nat.strongRecOn with
  | ind n ih =>
      rw [Nat.toDigits_eq_if (by decide)]
      split
      · rename_i hlt
        have hdigit : ∀ d < 10, d ≠ 0 → [Nat.digitChar d].head? ≠ some '0' := by decide
        exact hdigit n hlt h
      · rw [List.head?_append, Option.or_of_isSome (by simp [Nat.toDigits_ne_nil])]
        exact ih (n / 10) (by omega) (by omega)

end GuardedSql.Text
