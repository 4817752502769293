import GuardedSql.Json.Printer
import GuardedSql.Json.Reader

/-! # Written values — the texts that stand for a value

    A value can be written in many ways: blanks may stand around every value
    and every name, and a character of a string may stand for itself or be
    escaped, in a short form or by the units of its code point.  `Written`
    relates a value to each of its texts, after the grammar and without a word
    on how a text is read; the writer of this library picks one of them.

    Binary64 numbers are left out: how they are written is a matter of
    rounding. -/

namespace GuardedSql.Json

/-! ## Texts of a value -/

/-- Nothing but blanks. -/
def Blanks (t : Text) : Prop := ∀ c ∈ t, isBlank c = true

/-- The escape of a 16-bit unit, with hexadecimal digits of either case. -/
inductive EscapedUnit : Nat → Text → Prop
  | digits {unit : Nat} {a b c d : Char} (h : unit? a b c d = some unit) :
      EscapedUnit unit ['\\', 'u', a, b, c, d]

/-- The texts of a character of a string. -/
inductive Spells : Char → Text → Prop
  | plain {c : Char} (hcontrol : ¬ c.toNat < 0x20) (hquote : c ≠ '"') (hslash : c ≠ '\\') :
      Spells c [c]
  | short {e c : Char} (h : unescape? e = some c) : Spells c ['\\', e]
  | unit {u : Nat} {w : Text} (h : EscapedUnit u w) (hwhole : isHalf u = false) :
      Spells (Char.ofNat u) w
  | pair {high low : Nat} {w w' : Text} (h : EscapedUnit high w) (h' : EscapedUnit low w')
      (hhigh : isHighHalf high = true) (hlow : isLowHalf low = true) :
      Spells (ofHalves high low) (w ++ w')

/-- The texts of a string without its quotes, character by character. -/
inductive SpellsAll : Text → Text → Prop
  | nil : SpellsAll [] []
  | cons {c : Char} {s w t : Text} (h : Spells c w) (hrest : SpellsAll s t) :
      SpellsAll (c :: s) (w ++ t)

mutual

/-- The texts of a value. -/
inductive Written : Json → Text → Prop
  | null : Written null (chars "null")
  | true : Written (bool true) (chars "true")
  | false : Written (bool false) (chars "false")
  | whole (n : Int) : Written (number (.whole n)) (Text.ofInt n)
  | string {s t : Text} (h : SpellsAll s t) : Written (string s) ('"' :: t ++ ['"'])
  | emptyArray {b : Text} (hb : Blanks b) : Written (array []) ('[' :: b ++ [']'])
  | array {items : List Json} {t : Text} (h : WrittenItems items t) :
      Written (array items) ('[' :: t ++ [']'])
  | emptyObject {b : Text} (hb : Blanks b) :
      Written (object []) ('\x7b' :: b ++ ['\x7d'])
  | object {members : List (Text × Json)} {t : Text} (h : WrittenMembers members t) :
      Written (object members) ('\x7b' :: t ++ ['\x7d'])
  | padded {v : Json} {b t a : Text} (hb : Blanks b) (h : Written v t) (ha : Blanks a) :
      Written v (b ++ t ++ a)

/-- The texts of one or more values between commas. -/
inductive WrittenItems : List Json → Text → Prop
  | last {v : Json} {t : Text} (h : Written v t) : WrittenItems [v] t
  | cons {v : Json} {items : List Json} {t t' : Text} (h : Written v t)
      (hrest : WrittenItems items t') : WrittenItems (v :: items) (t ++ ',' :: t')

/-- The texts of one or more members between commas; a name is written as a
    string is. -/
inductive WrittenMembers : List (Text × Json) → Text → Prop
  | last {name n t : Text} {v : Json} (hname : Written (string name) n) (h : Written v t) :
      WrittenMembers [(name, v)] (n ++ ':' :: t)
  | cons {name n t t' : Text} {v : Json} {members : List (Text × Json)}
      (hname : Written (string name) n) (h : Written v t)
      (hrest : WrittenMembers members t') :
      WrittenMembers ((name, v) :: members) (n ++ ':' :: t ++ ',' :: t')

end

/-! ## Values that can be given back -/

/-- A value that a reader can give back as it was: its numbers are whole and
    fit in 64 bits, signed or unsigned, no two members of an object have one
    name, and no more than `depth` arrays and objects are inside one another. -/
inductive Within : (depth : Nat) → Json → Prop
  | null {depth : Nat} : Within depth null
  | bool {depth : Nat} (b : Bool) : Within depth (bool b)
  | whole {depth : Nat} {n : Int} (hlow : -0x8000000000000000 ≤ n)
      (hhigh : n < UInt64.size) : Within depth (number (.whole n))
  | string {depth : Nat} (s : Text) : Within depth (string s)
  | array {depth : Nat} {items : List Json} (h : ∀ item ∈ items, Within depth item) :
      Within (depth + 1) (array items)
  | object {depth : Nat} {members : List (Text × Json)}
      (hnames : (members.map Prod.fst).Nodup) (h : ∀ m ∈ members, Within depth m.2) :
      Within (depth + 1) (object members)

/-! ## The text that the writer picks -/

variable {v : Json} {depth : Nat}

/-- The escape of a character is one of its spellings. -/
theorem spells_escape (c : Char) : Spells c (escape c) := by
  rw [escape]
  split
  · subst c; exact .short rfl
  split
  · subst c; exact .short rfl
  split
  · subst c; exact .short rfl
  split
  · subst c; exact .short rfl
  split
  · subst c; exact .short rfl
  split
  · rename_i hcontrol
    have hunit : ∀ n < 0x20,
        unit? '0' '0' (Nat.digitChar (n / 16)) (Nat.digitChar (n % 16)) = some n ∧
          isHalf n = false := by decide
    obtain ⟨hdigits, hwhole⟩ := hunit c.toNat hcontrol
    have hspells := Spells.unit (.digits hdigits) hwhole
    rwa [Char.ofNat_toNat] at hspells
  · rename_i hquote hslash _ _ _ hcontrol
    exact .plain hcontrol hquote hslash

/-- An escaped string is one of its spellings. -/
theorem spellsAll_flatMap (s : Text) : SpellsAll s (s.flatMap escape) := by
  induction s with
  | nil => exact .nil
  | cons c s ih =>
      rw [List.flatMap_cons]
      exact .cons (spells_escape c) ih

/-- A rendered string is written. -/
theorem written_renderString (s : Text) : Written (string s) (renderString s) :=
  .string (spellsAll_flatMap s)

/-- Rendered items are written, if each is. -/
theorem writtenItems_renderItems {items : List Json} (hne : items ≠ [])
    (h : ∀ item ∈ items, Written item (render item)) :
    WrittenItems items (renderItems items) := by
  induction items with
  | nil => exact absurd rfl hne
  | cons v items ih =>
      obtain ⟨hv, hitems⟩ := List.forall_mem_cons.mp h
      cases items with
      | nil => exact .last hv
      | cons w rest => exact .cons hv (ih (List.cons_ne_nil w rest) hitems)

theorem writtenMembers_renderMembers {members : List (Text × Json)} (hne : members ≠ [])
    (h : ∀ m ∈ members, Written m.2 (render m.2)) :
    WrittenMembers members (renderMembers members) := by
  induction members with
  | nil => exact absurd rfl hne
  | cons m members ih =>
      obtain ⟨hm, hmembers⟩ := List.forall_mem_cons.mp h
      cases members with
      | nil => exact .last (written_renderString m.1) hm
      | cons m' rest =>
          exact .cons (written_renderString m.1) hm (ih (List.cons_ne_nil m' rest) hmembers)

/-- What the writer writes is one of the texts of the value. -/
theorem written_render (h : Within depth v) : Written v (render v) := by
  induction h with
  | null => exact .null
  | bool b =>
      cases b with
      | true => exact .true
      | false => exact .false
  | whole => exact .whole _
  | string s => exact written_renderString s
  | array _ ih =>
      rename_i items _
      rw [render]
      by_cases hne : items = []
      · subst hne
        exact .emptyArray nofun
      · exact .array (writtenItems_renderItems hne ih)
  | object _ _ ih =>
      rename_i members _ _
      rw [render]
      by_cases hne : members = []
      · subst hne
        exact .emptyObject nofun
      · exact .object (writtenMembers_renderMembers hne ih)

end GuardedSql.Json
