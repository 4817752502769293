import GuardedSql.Text.Percent
import GuardedSql.Proofs.Text.Join
import GuardedSql.Proofs.Text.Percent

/-! # Forms — what is written is read back, pair by pair

    A written name or value holds neither `&` nor `=`: both are percent-encoded
    wherever they come from.  So a form is cut at its own `&` and each pair at
    its own `=`, and what is read is what was written, however many pairs there
    are and whatever they hold.

    The reader turns `+` into a space before it looks at the bytes.  This does
    no harm, because a `+` that was put in is percent-encoded like the marks. -/

namespace GuardedSql.Form

variable {t : Text} {c : Char} {pair : Text × Text} {pairs : List (Text × Text)}

/-! ## What is written -/

/-- The characters that may occur in a written name or value. -/
def IsWritten (c : Char) : Prop := c = '+' ∨ isPlain c = true ∨ c ∈ Text.escapes

theorem isWritten_of_mem (h : c ∈ encodeText t) : IsWritten c := by
  obtain ⟨d, -, hc⟩ := List.mem_flatMap.mp h
  rw [encodeChar] at hc
  split at hc
  · exact Or.inl (List.mem_singleton.mp hc)
  · split at hc
    · rename_i hplain
      rw [List.mem_singleton.mp hc]
      exact Or.inr (Or.inl hplain)
    · exact Or.inr (Or.inr (Text.mem_escapes_of_mem_percentChar hc))

/-- The marks between pairs, and between a name and its value, are not
    written within either. -/
theorem mark_not_mem {mark : Char} (hmark : mark ∈ ['&', '=']) : mark ∉ encodeText t := by
  have hmarks : ∀ mark ∈ ['&', '='], mark ≠ '+' ∧ isPlain mark = false ∧ mark ∉ Text.escapes := by
    decide
  obtain ⟨hplus, hplain, hescape⟩ := hmarks mark hmark
  intro hmem
  rcases isWritten_of_mem hmem with heq | htrue | hwritten
  · exact hplus heq
  · exact Bool.noConfusion (hplain.symm.trans htrue)
  · exact hescape hwritten

theorem isAscii_of_isPlain (h : isPlain c = true) : c.toNat < 0x80 := by
  have hmarks : ∀ c ∈ ['*', '-', '.', '_'], c.toNat < 0x80 := by decide
  rw [isPlain, Bool.or_eq_true] at h
  rcases h with halphanum | hmark
  · have hranges : (decide (c.val ≥ 'A'.val ∧ c.val ≤ 'Z'.val) ||
        (decide (c.val ≥ 'a'.val) && decide (c.val ≤ 'z'.val)) ||
        (decide (c.val ≥ '0'.val) && decide (c.val ≤ '9'.val))) = true := halphanum
    simp only [Bool.or_eq_true, Bool.and_eq_true, decide_eq_true_eq, ge_iff_le,
      UInt32.le_iff_toNat_le] at hranges
    have hbounds : ('Z'.val.toNat < 0x80 ∧ 'z'.val.toNat < 0x80) ∧ '9'.val.toNat < 0x80 := by decide
    show c.val.toNat < 0x80
    omega
  · exact hmarks c (List.contains_iff_mem.mp hmark)

/-- Whatever is written is ASCII. -/
theorem isAscii_of_isWritten (h : IsWritten c) : c.toNat < 0x80 := by
  have hescapes : ∀ c ∈ Text.escapes, c.toNat < 0x80 := by decide
  rcases h with rfl | hplain | hescape
  · decide
  · exact isAscii_of_isPlain hplain
  · exact hescapes c hescape

/-- **A form is ASCII**, whatever its names and values hold. -/
theorem isAscii_of_mem_encode (h : c ∈ encode pairs) : c.toNat < 0x80 := by
  have Text.chars_ampersand : ∀ c ∈ chars "&", c.toNat < 0x80 := by with_unfolding_all decide
  rcases Text.mem_join h with hsep | ⟨piece, hpiece, hc⟩
  · exact Text.chars_ampersand c hsep
  · obtain ⟨pair, -, rfl⟩ := List.mem_map.mp hpiece
    rcases List.mem_append.mp hc with hname | hrest
    · exact isAscii_of_isWritten (isWritten_of_mem hname)
    · rcases List.mem_cons.mp hrest with rfl | hvalue
      · decide
      · exact isAscii_of_isWritten (isWritten_of_mem hvalue)

/-! ## What is read -/

/-- A `+` read as the space that it stands for. -/
def unplus (c : Char) : Char := if c == '+' then ' ' else c

theorem decodeText_eq (t : Text) :
    decodeText t = Text.ofUtf8? (Text.percentBytes (t.map unplus)) := rfl

theorem unplus_of_ne (h : c ≠ '+') : unplus c = c := if_neg (by simpa using h)

/-- There is no plus among percent-encoded bytes. -/
@[simp] theorem map_unplus_percentChar (c : Char) :
    (Text.percentChar c).map unplus = Text.percentChar c := by
  have hplus : '+' ∉ Text.escapes := by decide
  refine List.map_congr_left (fun d hd => unplus_of_ne ?_) |>.trans (List.map_id _)
  rintro rfl
  exact hplus (Text.mem_escapes_of_mem_percentChar hd)

/-- A character as it is written is read as its own bytes. -/
theorem percentBytes_encodeChar (c : Char) (rest : Text) :
    Text.percentBytes ((encodeChar c ++ rest).map unplus) =
      String.utf8EncodeChar c ++ Text.percentBytes (rest.map unplus) := by
  rw [List.map_append, encodeChar]
  split
  · rename_i hspace
    rw [eq_of_beq hspace]
    exact Text.percentBytes_cons (by decide) _
  · split
    · rename_i hplain
      have hne : ∀ mark ∈ ['+', '%'], c ≠ mark := by
        have hmarks : ∀ mark ∈ ['+', '%'], isPlain mark = false := by decide
        rintro mark hmark rfl
        exact Bool.noConfusion ((hmarks c hmark).symm.trans hplain)
      rw [List.map_singleton, unplus_of_ne (hne '+' (by decide))]
      exact Text.percentBytes_cons (hne '%' (by decide)) _
    · rw [map_unplus_percentChar]
      exact Text.percentBytes_flatMap _ _

/-- The bytes of a written text are those of the text. -/
theorem percentBytes_encodeText (t : Text) :
    Text.percentBytes ((encodeText t).map unplus) = t.flatMap String.utf8EncodeChar := by
  induction t with
  | nil => rfl
  | cons c t ih =>
      rw [encodeText, List.flatMap_cons, percentBytes_encodeChar, List.flatMap_cons]
      exact congrArg _ ih

/-- A written name or value is read back. -/
@[simp] theorem decodeText_encodeText (t : Text) : decodeText (encodeText t) = some t := by
  rw [decodeText_eq, percentBytes_encodeText, Text.ofUtf8?_flatMap]

/-- A written pair is cut at the mark between its two sides. -/
@[simp] theorem decodePair_encodePair (pair : Text × Text) :
    decodePair (encodePair pair) = some pair := by
  have hname : ∀ c ∈ encodeText pair.1, (c != '=') = true := by
    intro c hc
    refine bne_iff_ne.mpr ?_
    rintro rfl
    exact mark_not_mem (by decide) hc
  have htake : (encodePair pair).takeWhile (· != '=') = encodeText pair.1 := by
    rw [encodePair, List.takeWhile_append_of_pos hname]
    simp
  have hdrop : (encodePair pair).dropWhile (· != '=') = '=' :: encodeText pair.2 := by
    rw [encodePair, List.dropWhile_append_of_pos hname]
    simp
  simp [decodePair, htake, hdrop]

/-- A written pair does not hold the separator of pairs. -/
theorem ampersand_not_mem_encodePair (pair : Text × Text) : '&' ∉ encodePair pair := by
  intro hmem
  rcases List.mem_append.mp hmem with hname | hrest
  · exact mark_not_mem (by decide) hname
  · rcases List.mem_cons.mp hrest with heq | hvalue
    · exact absurd heq (by decide)
    · exact mark_not_mem (by decide) hvalue

/-- **Forms are read back**: the pairs of a written form are those that were
    put in, all of them and in their order. -/
@[simp] theorem decode_encode (pairs : List (Text × Text)) :
    decode (encode pairs) = some pairs := by
  have hread : (pairs.map encodePair).mapM decodePair = some pairs := by
    induction pairs with
    | nil => rfl
    | cons pair pairs ih => simp [ih]
  by_cases hnone : pairs = []
  · rw [hnone]
    rfl
  · have hne : pairs.map encodePair ≠ [] := fun h => hnone (List.map_eq_nil_iff.mp h)
    have hsplit : (encode pairs).splitOn '&' = pairs.map encodePair := by
      refine Text.splitOn_join Text.chars_ampersand hne ?_
      intro piece hpiece
      obtain ⟨pair, -, rfl⟩ := List.mem_map.mp hpiece
      exact ampersand_not_mem_encodePair pair
    have hkeep : (pairs.map encodePair).filter (fun piece => !piece.isEmpty) =
        pairs.map encodePair := by
      refine List.filter_eq_self.mpr fun piece hpiece => ?_
      obtain ⟨pair, -, rfl⟩ := List.mem_map.mp hpiece
      -- there is at least the mark between the two sides
      simp [encodePair]
    rw [decode, hsplit, hkeep, hread]

end GuardedSql.Form
