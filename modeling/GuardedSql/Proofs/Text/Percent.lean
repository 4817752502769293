import Mathlib.Data.List.Basic
import GuardedSql.Text.Percent

/-! # Percent encoding and letter case — what a changed text does not hold

    A text that is percent-encoded holds none of the characters of the set,
    except those that write a byte themselves, and a text in lower case holds
    no mark that was not there before.  What is encoded is read back byte by
    byte, and the bytes of a text are those of this text only. -/

namespace GuardedSql.Text

variable {set : Char → Bool} {t : Text} {c mark : Char}

/-- The characters that write a byte. -/
def escapes : List Char :=
  ['%', '0', '1', '2', '3', '4', '5', '6', '7', '8', '9', 'A', 'B', 'C', 'D', 'E', 'F']

theorem upperHexDigit_mem_escapes : ∀ n < 16, upperHexDigit n ∈ escapes := by decide

/-- A percent-encoded character is made of escapes. -/
theorem mem_escapes_of_mem_percentChar (h : c ∈ percentChar mark) : c ∈ escapes := by
  obtain ⟨b, -, hb⟩ := List.mem_flatMap.mp h
  have hbyte : b.toNat < 256 := b.toNat_lt
  simp only [percentByte, List.mem_cons, List.not_mem_nil, or_false] at hb
  rcases hb with rfl | rfl | rfl
  · decide
  · exact upperHexDigit_mem_escapes _ (by omega)
  · exact upperHexDigit_mem_escapes _ (by omega)

/-- What is encoded holds characters of the text outside the set, and those
    that write a byte. -/
theorem mem_percentEncode (h : c ∈ percentEncode set t) :
    c ∈ t ∧ set c = false ∨ c ∈ escapes := by
  obtain ⟨d, hd, hc⟩ := List.mem_flatMap.mp h
  split at hc
  · exact Or.inr (mem_escapes_of_mem_percentChar hc)
  · rename_i hset
    rw [List.mem_singleton.mp hc]
    exact Or.inl ⟨hd, Bool.eq_false_iff.mpr hset⟩

/-- A mark that is no part of an escape does not stand in an encoded text, if
    it was not in the text or is encoded. -/
theorem not_mem_percentEncode (hescape : mark ∉ escapes) (h : mark ∉ t ∨ set mark = true) :
    mark ∉ percentEncode set t := by
  intro hmem
  rcases mem_percentEncode hmem with ⟨ht, hset⟩ | hwritten
  · rcases h with hnot | htrue
    · exact hnot ht
    · exact Bool.noConfusion (hset.symm.trans htrue)
  · exact hescape hwritten

theorem percentChar_ne_nil (c : Char) : percentChar c ≠ [] := by
  have hbytes : String.utf8EncodeChar c ≠ [] := by
    refine List.ne_nil_of_length_pos ?_
    rw [String.length_utf8EncodeChar]
    exact c.utf8Size_pos
  obtain ⟨b, bytes, hcons⟩ := List.exists_cons_of_ne_nil hbytes
  rw [percentChar, hcons]
  exact List.cons_ne_nil _ _

theorem percentEncode_ne_nil (h : t ≠ []) : percentEncode set t ≠ [] := by
  obtain ⟨c, rest, rfl⟩ := List.exists_cons_of_ne_nil h
  rw [percentEncode, List.flatMap_cons]
  split
  · exact List.append_ne_nil_of_left_ne_nil (percentChar_ne_nil c) _
  · exact List.cons_ne_nil _ _

/-- A mark that is not encoded stands at the beginning only if it did. -/
theorem head?_of_percentEncode (hescape : mark ∉ escapes)
    (h : (percentEncode set t).head? = some mark) : t.head? = some mark := by
  cases t with
  | nil => exact nomatch h
  | cons c rest =>
      rw [percentEncode, List.flatMap_cons] at h
      split at h
      · obtain ⟨first, others, hcons⟩ := List.exists_cons_of_ne_nil (percentChar_ne_nil c)
        rw [hcons, List.cons_append, List.head?_cons, Option.some.injEq] at h
        have hmem : mark ∈ percentChar c := by
          rw [hcons, h]
          exact List.mem_cons_self ..
        exact absurd (mem_escapes_of_mem_percentChar hmem) hescape
      · exact h

/-! ## Reading back -/

theorem digitValue?_upperHexDigit : ∀ n < 16, digitValue? (upperHexDigit n) = some n := by decide

/-- A byte as it is written is that byte again. -/
@[simp] theorem percentBytes_percentByte (b : UInt8) (rest : Text) :
    percentBytes (percentByte b ++ rest) = b :: percentBytes rest := by
  have hbyte : b.toNat < 256 := b.toNat_lt
  have hhigh := digitValue?_upperHexDigit (b.toNat / 16) (by omega)
  have hlow := digitValue?_upperHexDigit (b.toNat % 16) (by omega)
  have hdivide : b.toNat / 16 * 16 + b.toNat % 16 = b.toNat := by omega
  show percentBytes
    ('%' :: upperHexDigit (b.toNat / 16) :: upperHexDigit (b.toNat % 16) :: rest) = _
  rw [percentBytes]
  simp only [hhigh, hlow, hdivide, UInt8.ofNat_toNat]

/-- Encoded bytes are read back. -/
@[simp] theorem percentBytes_flatMap (bytes : List UInt8) (rest : Text) :
    percentBytes (bytes.flatMap percentByte ++ rest) = bytes ++ percentBytes rest := by
  induction bytes with
  | nil => rfl
  | cons b bytes ih =>
      simp [ih]

/-- A character that stands for itself is its own bytes. -/
theorem percentBytes_cons (h : c ≠ '%') (rest : Text) :
    percentBytes (c :: rest) = String.utf8EncodeChar c ++ percentBytes rest := by
  rw [percentBytes]
  rintro _ _ _ rfl
  exact absurd rfl h

/-- The first byte of a character is the character itself, or beyond ASCII. -/
theorem exists_head?_utf8EncodeChar (c : Char) :
    ∃ n < 0x100, (String.utf8EncodeChar c).head? = some (UInt8.ofNat n) ∧
      (n < 0x80 → n = c.toNat) := by
  have hc : c.val.toNat = c.toNat := rfl
  rw [String.utf8EncodeChar]
  split
  · exact ⟨c.toNat, by omega, rfl, fun _ => rfl⟩
  · split
    · exact ⟨_, by omega, rfl, by omega⟩
    · split
      · exact ⟨_, by omega, rfl, by omega⟩
      · exact ⟨_, by omega, rfl, by omega⟩

/-- A byte of ASCII begins its own character only. -/
theorem eq_of_head?_utf8EncodeChar (hmark : mark.toNat < 0x80)
    (h : (String.utf8EncodeChar c).head? = some (UInt8.ofNat mark.toNat)) : c = mark := by
  obtain ⟨n, hn, hhead, hself⟩ := exists_head?_utf8EncodeChar c
  have hbyte := congrArg UInt8.toNat (Option.some.inj (hhead.symm.trans h))
  rw [UInt8.toNat_ofNat_of_lt' hn,
    UInt8.toNat_ofNat_of_lt' (Nat.lt_of_lt_of_le hmark (by decide))] at hbyte
  refine Char.toNat_inj.mp ?_
  rw [← hself (by omega), hbyte]

/-- The bytes of a text are those of no other. -/
@[simp] theorem ofUtf8?_flatMap (t : Text) :
    ofUtf8? (t.flatMap String.utf8EncodeChar) = some t := by
  show t.utf8Encode.utf8Decode?.map Array.toList = some t
  rw [List.utf8Decode?_utf8Encode]
  rfl

/-! ## Letter case -/

/-- A character below the letters comes from no other. -/
theorem eq_of_toLower_eq (hmark : mark.toNat < 'A'.toNat) (h : c.toLower = mark) : c = mark := by
  by_cases hupper : c.val ≥ 'A'.val ∧ c.val ≤ 'Z'.val
  · have hlower : c.toLower.toNat = (c.val + ('a'.val - 'A'.val)).toNat :=
      congrArg Char.toNat (dif_pos hupper)
    have hc := UInt32.le_iff_toNat_le.mp hupper.1
    have hbound := UInt32.le_iff_toNat_le.mp hupper.2
    have hshift : ('a'.val - 'A'.val).toNat = 32 := rfl
    have hA : 'A'.val.toNat = 65 := rfl
    have hZ : 'Z'.val.toNat = 90 := rfl
    have hmark' : mark.toNat < 65 := hmark
    rw [h, UInt32.toNat_add] at hlower
    omega
  · exact (dif_neg hupper).symm.trans h

/-- A mark before the letters is not brought in by lower case. -/
theorem not_mem_lower (hmark : mark.toNat < 'A'.toNat) (h : mark ∉ t) : mark ∉ lower t := by
  intro hmem
  obtain ⟨c, hc, hlower⟩ := List.mem_map.mp hmem
  exact h (eq_of_toLower_eq hmark hlower ▸ hc)

end GuardedSql.Text
