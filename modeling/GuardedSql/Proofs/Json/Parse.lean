import GuardedSql.Proofs.Json.Scalar

/-! # Values read back — every text of a value is read as that value

    The reader goes through a text once, from left to right.  Of the text of a
    value it takes all but blanks at its end, wherever the text stands, and the
    fuel that is counted out for a text always suffices; so whichever of its
    texts a value is written in, and however its parts are laid out, it is the
    value that is read.  The cases below are those of `Written`. -/

namespace GuardedSql.Json

variable {manner : Manner} {fuel depth : Nat} {t rest rest' name : Text} {v : Json}
  {items : List Json} {members : List (Text × Json)} {c : Char}

/-! ## One step of the reader -/

-- Every step below is a case of these equations.
attribute [local simp] readValue readItems readMembers

/-- Blanks before a value do not count. -/
@[simp] theorem readValue_skipBlanks (fuel depth : Nat) (t : Text) :
    readValue manner fuel depth (skipBlanks t) = readValue manner fuel depth t := by
  cases fuel with
  | zero => simp
  | succ fuel => simp

@[simp] theorem readItems_skipBlanks (fuel depth : Nat) (t : Text) :
    readItems manner fuel depth (skipBlanks t) = readItems manner fuel depth t := by
  cases fuel with
  | zero => simp
  | succ fuel => simp

@[simp] theorem readMembers_skipBlanks (fuel depth : Nat) (t : Text) :
    readMembers manner fuel depth (skipBlanks t) = readMembers manner fuel depth t := by
  cases fuel with
  | zero => simp
  | succ fuel => simp

theorem readValue_append_blanks {b : Text} (hb : Blanks b) (t : Text) :
    readValue manner fuel depth (b ++ t) = readValue manner fuel depth t := by
  rw [← readValue_skipBlanks, skipBlanks_append hb, readValue_skipBlanks]

/-- A text that begins like a number is read as one. -/
theorem readValue_of_beginsNumber (h : beginsNumber c = true) :
    readValue manner (fuel + 1) depth (c :: t) =
      (readNumber manner (c :: t)).map fun (n, rest) => (number n, rest) := by
  -- no character that the reader looks for first begins a number
  have hblank : isBlank c = false := by
    rw [beginsNumber, Bool.or_eq_true, beq_iff_eq] at h
    rw [Bool.eq_false_iff]
    simp only [isBlank, ne_eq, Bool.or_eq_true, beq_iff_eq]
    rintro (((rfl | rfl) | rfl) | rfl)
    all_goals exact absurd h (by decide)
  rw [readValue, skipBlanks_cons hblank]
  split
  all_goals try (rename_i heq; obtain ⟨rfl, rfl⟩ := List.cons.inj heq)
  all_goals try exact absurd h (by decide)
  · contradiction
  · exact if_pos h

/-- Where a value begins, no array ends. -/
theorem ne_close_of_readValue {r : Json × Text} (h : readValue manner fuel depth t = .ok r)
    (rest : Text) : skipBlanks t ≠ ']' :: rest := by
  intro heq
  cases fuel with
  | zero => exact nomatch h
  | succ fuel =>
      rw [readValue, heq] at h
      exact nomatch h

/-- Where items are read the array is not closed yet. -/
theorem ne_close_of_readItems {r : List Json × Text}
    (h : readItems manner fuel depth t = .ok r) (rest : Text) :
    skipBlanks t ≠ ']' :: rest := by
  cases fuel with
  | zero => exact nomatch h
  | succ fuel =>
      rw [readItems, Check.bind_eq_ok] at h
      obtain ⟨_, hvalue, -⟩ := h
      exact ne_close_of_readValue hvalue rest

/-- Where a member begins, no object ends. -/
theorem ne_close_of_readMembers {r : List (Text × Json) × Text}
    (h : readMembers manner fuel depth t = .ok r) (rest : Text) :
    skipBlanks t ≠ '\x7d' :: rest := by
  intro heq
  cases fuel with
  | zero => exact nomatch h
  | succ fuel =>
      rw [readMembers, heq] at h
      exact nomatch h

/-- Items that can be read make an array. -/
theorem readValue_array (h : readItems manner fuel depth t = .ok (items, rest)) :
    readValue manner (fuel + 1) (depth + 1) ('[' :: t) = .ok (array items, rest) := by
  -- with an item to read, the array is not the empty one
  have hne := ne_close_of_readItems h
  rw [readValue, skipBlanks_cons rfl]
  simp only
  rw [readItems_skipBlanks, h]
  rfl

/-- Members that can be read make an object. -/
theorem readValue_object (h : readMembers manner fuel depth t = .ok (members, rest)) :
    readValue manner (fuel + 1) (depth + 1) ('\x7b' :: t) = .ok (object members, rest) := by
  -- with a member to read, the object is not the empty one
  have hne := ne_close_of_readMembers h
  rw [readValue, skipBlanks_cons rfl]
  simp only
  rw [readMembers_skipBlanks, h]
  rfl

/-- The last item of an array is followed by the bracket. -/
theorem readItems_last (h : readValue manner fuel depth t = .ok (v, rest'))
    (hrest : skipBlanks rest' = ']' :: rest) :
    readItems manner (fuel + 1) depth t = .ok ([v], rest) := by
  rw [readItems, h]
  simp only [bind, Except.bind]
  rw [hrest]
  rfl

/-- An item before others is followed by a comma. -/
theorem readItems_cons {rest'' : Text} (h : readValue manner fuel depth t = .ok (v, rest'))
    (hrest : skipBlanks rest' = ',' :: rest'')
    (hitems : readItems manner fuel depth rest'' = .ok (items, rest)) :
    readItems manner (fuel + 1) depth t = .ok (v :: items, rest) := by
  rw [readItems, h]
  simp only [bind, Except.bind]
  rw [hrest]
  simp only
  rw [hitems]
  rfl

/-- The last member of an object is followed by the brace. -/
theorem readMembers_last {afterName afterColon : Text}
    (hname : readString manner (skipBlanks t) = .ok (name, afterName))
    (hcolon : expectColon afterName = .ok afterColon)
    (h : readValue manner fuel depth afterColon = .ok (v, rest'))
    (hrest : skipBlanks rest' = '\x7d' :: rest) :
    readMembers manner (fuel + 1) depth t = .ok ([(name, v)], rest) := by
  rw [readMembers, hname]
  simp only [bind, Except.bind]
  rw [hcolon]
  simp only
  rw [h]
  simp only
  rw [hrest]
  rfl

/-- A member before others is followed by a comma, and put before them. -/
theorem readMembers_cons {afterName afterColon rest'' : Text}
    (hname : readString manner (skipBlanks t) = .ok (name, afterName))
    (hcolon : expectColon afterName = .ok afterColon)
    (h : readValue manner fuel depth afterColon = .ok (v, rest'))
    (hrest : skipBlanks rest' = ',' :: rest'')
    (hmembers : readMembers manner fuel depth rest'' = .ok (members, rest)) :
    readMembers manner (fuel + 1) depth t = .ok (putFirst name v members, rest) := by
  rw [readMembers, hname]
  simp only [bind, Except.bind]
  rw [hcolon]
  simp only
  rw [h]
  simp only
  rw [hrest]
  simp only
  rw [hmembers]
  rfl

/-! ## The text of a value -/

/-- From the text of a value, whatever may follow it, the reader takes the
    value, and leaves what follows up to blanks. -/
def Reads (depth : Nat) (v : Json) (t : Text) : Prop :=
  ∀ fuel rest, 2 * t.length ≤ fuel → Ends rest → ∃ rest',
    readValue .reading fuel depth (t ++ rest) = .ok (v, rest') ∧
      skipBlanks rest' = skipBlanks rest

/-- From the text of items the reader takes the items, and the bracket. -/
def ReadsItems (depth : Nat) (items : List Json) (t : Text) : Prop :=
  ∀ fuel rest, 2 * t.length < fuel →
    readItems .reading fuel depth (t ++ ']' :: rest) = .ok (items, rest)

/-- From the text of members the reader takes the members, and the brace. -/
def ReadsMembers (depth : Nat) (members : List (Text × Json)) (t : Text) : Prop :=
  ∀ fuel rest, 2 * t.length < fuel →
    readMembers .reading fuel depth (t ++ '\x7d' :: rest) = .ok (members, rest)

/-- It is enough that a text is read whole as soon as there is any fuel. -/
theorem Reads.of_succ (hne : t ≠ [])
    (h : ∀ fuel rest, 2 * t.length ≤ fuel + 1 → Ends rest →
      readValue .reading (fuel + 1) depth (t ++ rest) = .ok (v, rest)) : Reads depth v t := by
  intro fuel rest hfuel hrest
  have hlength := List.length_pos_iff.mpr hne
  cases fuel with
  | zero => omega
  | succ fuel => exact ⟨rest, h fuel rest hfuel hrest, rfl⟩

/-- A value that is written as a word, told by its first character. -/
theorem reads_word (c : Char) (word : Text) (ht : t = c :: word)
    (hword : ∀ fuel rest, readValue .reading (fuel + 1) depth (c :: rest) =
      (expect word rest).map (v, ·)) : Reads depth v t := by
  subst ht
  refine .of_succ nofun fun fuel rest _ _ => ?_
  rw [List.cons_append, hword, expect_append]
  rfl

theorem reads_null : Reads depth null (chars "null") :=
  reads_word 'n' (chars "ull") (by with_unfolding_all rfl) fun fuel rest => by
    rw [readValue, skipBlanks_cons rfl]
    rfl

theorem reads_true : Reads depth (bool true) (chars "true") :=
  reads_word 't' (chars "rue") (by with_unfolding_all rfl) fun fuel rest => by
    rw [readValue, skipBlanks_cons rfl]
    rfl

theorem reads_false : Reads depth (bool false) (chars "false") :=
  reads_word 'f' (chars "alse") (by with_unfolding_all rfl) fun fuel rest => by
    rw [readValue, skipBlanks_cons rfl]
    rfl

/-- A string is read as the characters that it spells. -/
theorem reads_string {s : Text} (h : SpellsAll s t) :
    Reads depth (string s) ('"' :: t ++ ['"']) := by
  refine .of_succ nofun fun fuel rest _ _ => ?_
  rw [List.cons_append, List.cons_append, List.append_assoc, readValue, skipBlanks_cons rfl]
  simp only
  rw [List.singleton_append, stringBody_spellsAll h]
  rfl

theorem exists_ofInt (n : Int) : ∃ c t, Text.ofInt n = c :: t ∧ beginsNumber c = true := by
  cases n with
  | ofNat n =>
      obtain ⟨c, t, ht⟩ := List.exists_cons_of_ne_nil (Text.ofNat_ne_nil n)
      have hdigit : c.isDigit = true := Text.isDigit_of_mem_ofNat (ht ▸ List.mem_cons_self)
      exact ⟨c, t, ht, by rw [beginsNumber, hdigit, Bool.or_true]⟩
  | negSucc n => exact ⟨'-', Text.ofNat (n + 1), rfl, rfl⟩

/-- A whole number is read as itself, if it is in the range of 64 bits. -/
theorem reads_whole {n : Int} (hlow : -0x8000000000000000 ≤ n) (hhigh : n < UInt64.size) :
    Reads depth (number (.whole n)) (Text.ofInt n) := by
  obtain ⟨c, t, ht, hbegins⟩ := exists_ofInt n
  refine .of_succ (ht ▸ nofun) fun fuel rest _ hrest => ?_
  have hnumber := readNumber_ofInt hlow hhigh hrest
  rw [ht, List.cons_append] at hnumber ⊢
  rw [readValue_of_beginsNumber hbegins, hnumber]
  rfl

theorem reads_emptyArray {b : Text} (hb : Blanks b) :
    Reads (depth + 1) (array []) ('[' :: b ++ [']']) := by
  refine .of_succ nofun fun fuel rest _ _ => ?_
  rw [List.cons_append, List.cons_append, List.append_assoc, readValue, skipBlanks_cons rfl]
  simp only
  rw [skipBlanks_append hb, List.singleton_append, skipBlanks_cons rfl]
  rfl

theorem reads_emptyObject {b : Text} (hb : Blanks b) :
    Reads (depth + 1) (object []) ('\x7b' :: b ++ ['\x7d']) := by
  refine .of_succ nofun fun fuel rest _ _ => ?_
  rw [List.cons_append, List.cons_append, List.append_assoc, readValue, skipBlanks_cons rfl]
  simp only
  rw [skipBlanks_append hb, List.singleton_append, skipBlanks_cons rfl]
  rfl

/-- Items in brackets are an array, one level deeper. -/
theorem ReadsItems.reads_array (h : ReadsItems depth items t) :
    Reads (depth + 1) (array items) ('[' :: t ++ [']']) := by
  refine .of_succ nofun fun fuel rest hfuel _ => ?_
  rw [List.cons_append, List.cons_append, List.append_assoc]
  refine readValue_array (h fuel rest ?_)
  simp only [List.length_cons, List.length_append] at hfuel
  omega

/-- Members in braces are an object, one level deeper. -/
theorem ReadsMembers.reads_object (h : ReadsMembers depth members t) :
    Reads (depth + 1) (object members) ('\x7b' :: t ++ ['\x7d']) := by
  refine .of_succ nofun fun fuel rest hfuel _ => ?_
  rw [List.cons_append, List.cons_append, List.append_assoc]
  refine readValue_object (h fuel rest ?_)
  simp only [List.length_cons, List.length_append] at hfuel
  omega

/-- A value may stand among blanks. -/
theorem Reads.padded {b a : Text} (hb : Blanks b) (h : Reads depth v t) (ha : Blanks a) :
    Reads depth v (b ++ t ++ a) := by
  intro fuel rest hfuel hrest
  simp only [List.length_append] at hfuel
  obtain ⟨rest', hread, hskip⟩ := h fuel (a ++ rest) (by omega) (hrest.append ha)
  rw [List.append_assoc, List.append_assoc, readValue_append_blanks hb]
  exact ⟨rest', hread, hskip.trans (skipBlanks_append ha rest)⟩

theorem Reads.readsItems_last (h : Reads depth v t) : ReadsItems depth [v] t := by
  intro fuel rest hfuel
  cases fuel with
  | zero => omega
  | succ fuel =>
      obtain ⟨rest', hread, hskip⟩ := h fuel (']' :: rest) (by omega) (.of_mem (by decide) rest)
      exact readItems_last hread hskip

/-- A value may be put before the items of an array. -/
theorem Reads.readsItems_cons {t' : Text} (h : Reads depth v t)
    (hitems : ReadsItems depth items t') : ReadsItems depth (v :: items) (t ++ ',' :: t') := by
  intro fuel rest hfuel
  simp only [List.length_append, List.length_cons] at hfuel
  cases fuel with
  | zero => omega
  | succ fuel =>
      rw [List.append_assoc, List.cons_append]
      obtain ⟨rest', hread, hskip⟩ :=
        h fuel (',' :: (t' ++ ']' :: rest)) (by omega) (.of_mem (by decide) _)
      exact readItems_cons hread hskip (hitems fuel rest (by omega))

/-- A name is read wherever it stands. -/
theorem readString_of_written {n : Text} : {v : Json} → Written v n → v = string name →
    ∀ rest, ∃ rest', readString .reading (skipBlanks (n ++ rest)) = .ok (name, rest') ∧
      skipBlanks rest' = skipBlanks rest
  | _, .string h, hv, rest => by
      obtain rfl := Json.string.inj hv
      refine ⟨rest, ?_, rfl⟩
      rw [List.cons_append, List.cons_append, List.append_assoc, skipBlanks_cons rfl]
      exact stringBody_spellsAll h rest
  | _, .padded (a := a) hb h ha, hv, rest => by
      obtain ⟨rest', hread, hskip⟩ := readString_of_written h hv (a ++ rest)
      rw [List.append_assoc, List.append_assoc, skipBlanks_append hb]
      exact ⟨rest', hread, hskip.trans (skipBlanks_append ha rest)⟩

/-- A name is left at its colon. -/
theorem expectColon_of_written {n : Text} (h : Written (string name) n) (rest : Text) :
    ∃ rest', readString .reading (skipBlanks (n ++ ':' :: rest)) = .ok (name, rest') ∧
      expectColon rest' = .ok rest := by
  obtain ⟨rest', hread, hskip⟩ := readString_of_written h rfl (':' :: rest)
  refine ⟨rest', hread, ?_⟩
  rw [expectColon, hskip, skipBlanks_cons rfl]
  exact expect_append [':'] rest

/-- A name that no other member has is put before them. -/
theorem putFirst_of_not_mem (h : name ∉ members.map Prod.fst) :
    putFirst name v members = (name, v) :: members := by
  have hany : ¬ (members.any fun m => m.1 == name) = true := by
    rw [List.any_eq_true]
    rintro ⟨m, hm, heq⟩
    exact h (List.mem_map.mpr ⟨m, hm, eq_of_beq heq⟩)
  exact if_neg hany

theorem Reads.readsMembers_last {n : Text} (hname : Written (string name) n)
    (h : Reads depth v t) : ReadsMembers depth [(name, v)] (n ++ ':' :: t) := by
  intro fuel rest hfuel
  simp only [List.length_append, List.length_cons] at hfuel
  cases fuel with
  | zero => omega
  | succ fuel =>
      rw [List.append_assoc, List.cons_append]
      obtain ⟨afterName, hread, hcolon⟩ := expectColon_of_written hname (t ++ '\x7d' :: rest)
      obtain ⟨rest', hvalue, hskip⟩ :=
        h fuel ('\x7d' :: rest) (by omega) (.of_mem (by decide) rest)
      exact readMembers_last hread hcolon hvalue hskip

/-- A member may be put before others, if it has a name of its own. -/
theorem Reads.readsMembers_cons {n t' : Text} (hname : Written (string name) n)
    (h : Reads depth v t) (hmembers : ReadsMembers depth members t')
    (hnew : name ∉ members.map Prod.fst) :
    ReadsMembers depth ((name, v) :: members) (n ++ ':' :: t ++ ',' :: t') := by
  intro fuel rest hfuel
  simp only [List.length_append, List.length_cons] at hfuel
  cases fuel with
  | zero => omega
  | succ fuel =>
      simp only [List.append_assoc, List.cons_append]
      obtain ⟨afterName, hread, hcolon⟩ :=
        expectColon_of_written hname (t ++ ',' :: (t' ++ '\x7d' :: rest))
      obtain ⟨rest', hvalue, hskip⟩ :=
        h fuel (',' :: (t' ++ '\x7d' :: rest)) (by omega) (.of_mem (by decide) _)
      rw [← putFirst_of_not_mem hnew]
      exact readMembers_cons hread hcolon hvalue hskip (hmembers fuel rest (by omega))

-- The induction is on how the text was put together.  `Within` goes along with
-- it: the bound on the depth falls at every bracket as it does in the reader.
mutual

/-- Every text of a value is read as that value. -/
theorem reads_of_written {t : Text} : {v : Json} → {depth : Nat} → Written v t → Within depth v →
    Reads depth v t
  | _, _, .null, _ => reads_null
  | _, _, .true, _ => reads_true
  | _, _, .false, _ => reads_false
  | _, _, .whole _, .whole hlow hhigh => reads_whole hlow hhigh
  | _, _, .string h, _ => reads_string h
  | _, _, .emptyArray hb, .array _ => reads_emptyArray hb
  | _, _, .array h, .array hitems => (readsItems_of_written h hitems).reads_array
  | _, _, .emptyObject hb, .object _ _ => reads_emptyObject hb
  | _, _, .object h, .object hnames hmembers =>
      (readsMembers_of_written h hnames hmembers).reads_object
  | _, _, .padded hb h ha, hv => (reads_of_written h hv).padded hb ha

/-- Written items are read back one by one. -/
theorem readsItems_of_written {t : Text} : {items : List Json} → {depth : Nat} →
    WrittenItems items t → (∀ item ∈ items, Within depth item) → ReadsItems depth items t
  | _, _, .last h, hitems => (reads_of_written h (hitems _ List.mem_cons_self)).readsItems_last
  | _, _, .cons h hrest, hitems =>
      (reads_of_written h (hitems _ List.mem_cons_self)).readsItems_cons
        (readsItems_of_written hrest fun item hitem => hitems item (List.mem_cons_of_mem _ hitem))

/-- Written members are read back one by one. -/
theorem readsMembers_of_written {t : Text} : {members : List (Text × Json)} → {depth : Nat} →
    WrittenMembers members t → (members.map Prod.fst).Nodup →
    (∀ m ∈ members, Within depth m.2) → ReadsMembers depth members t
  | _, _, .last hname h, _, hmembers =>
      (reads_of_written h (hmembers _ List.mem_cons_self)).readsMembers_last hname
  | _, _, .cons hname h hrest, hnames, hmembers => by
      obtain ⟨hnew, hnames⟩ := List.nodup_cons.mp hnames
      exact (reads_of_written h (hmembers _ List.mem_cons_self)).readsMembers_cons hname
        (readsMembers_of_written hrest hnames fun m hm => hmembers m (List.mem_cons_of_mem _ hm))
        hnew

end

/-- A value is given back by every one of its texts. -/
theorem parse_of_written (h : Written v t) (hv : Within maxDepth v) : parse t = .ok v := by
  obtain ⟨rest, hread, hskip⟩ :=
    reads_of_written h hv (fuelFor t) [] (Nat.le_add_right _ _) nofun
  rw [List.append_nil] at hread
  have hend : expectEnd rest = .ok () := by
    rw [expectEnd, hskip]
    rfl
  rw [parse, hread]
  show (expectEnd rest >>= _) = _
  rw [hend]
  rfl

/-- What the writer writes is read back. -/
theorem parse_render (hv : Within maxDepth v) : parse (render v) = .ok v :=
  parse_of_written (written_render hv) hv

end GuardedSql.Json
