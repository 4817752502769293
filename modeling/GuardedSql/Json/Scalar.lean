import GuardedSql.Json.Basic
import GuardedSql.Text.Percent

/-! # Scalars of JSON — strings, numbers and the three words

    A scalar is read from the front of a text, and what follows it is given
    back.  A value can be read in two manners.  *Reading* asks that it can be
    represented: a string has no half of a surrogate pair, a number is in the
    range of binary64.  *Skipping* asks only for the form. -/

namespace GuardedSql.Json

/-- How closely a value is looked at. -/
inductive Manner where
  | reading | skipping
  deriving DecidableEq, Repr

/-- What a reader gives: a value and the rest of the text, or the first
    problem. -/
abbrev Outcome (α : Type) := Except Problem (α × Text)

/-- A blank of JSON: space, tab, line feed or carriage return. -/
def isBlank (c : Char) : Bool :=
  c == ' ' || c == '\t' || c == '\n' || c == '\r'

/-- The text without blanks at its start. -/
def skipBlanks (t : Text) : Text := t.dropWhile isBlank

/-- The rest after `word`; the text may end within the word or differ from
    it. -/
def expect : (word : Text) → Text → Except Problem Text
  | [], rest => .ok rest
  | _ :: _, [] => .error .cutShort
  | w :: word, c :: rest => if w = c then expect word rest else .error .malformed

/-! ## Strings -/

/-- The character that a backslash and the given character stand for. -/
def unescape? : Char → Option Char
  | '"' => some '"'
  | '\\' => some '\\'
  | '/' => some '/'
  | 'b' => some '\x08'
  | 'f' => some '\x0c'
  | 'n' => some '\n'
  | 'r' => some '\r'
  | 't' => some '\t'
  | _ => none

/-- The 16-bit unit that four hexadecimal digits stand for. -/
def unit? (a b c d : Char) : Option Nat := Text.nat? 16 [a, b, c, d]

/-- The unit is the first half of a surrogate pair. -/
def isHighHalf (unit : Nat) : Bool := 0xD800 ≤ unit && unit ≤ 0xDBFF

/-- The unit is the second half of a surrogate pair. -/
def isLowHalf (unit : Nat) : Bool := 0xDC00 ≤ unit && unit ≤ 0xDFFF

/-- The character of a surrogate pair. -/
def ofHalves (high low : Nat) : Char :=
  Char.ofNat (0x10000 + (high - 0xD800) * 0x400 + (low - 0xDC00))

/-- The unit is half of a surrogate pair. -/
def isHalf (unit : Nat) : Bool := isHighHalf unit || isLowHalf unit

/-- What stands after an opening quote, read character by character up to the
    closing quote or to a problem of form. -/
inductive Body where
  /-- The closing quote, and the text after it. -/
  | close (rest : Text)
  /-- A problem of form. -/
  | broken (problem : Problem)
  /-- A character, written as itself or escaped. -/
  | char (c : Char) (more : Body)
  /-- Half of a surrogate pair, escaped. -/
  | half (unit : Nat) (more : Body)

/-- The unit of an escape before the rest of a string. -/
def Body.ofUnit (unit : Nat) (more : Body) : Body :=
  if isHalf unit then .half unit more else .char (Char.ofNat unit) more

/-- Why no four hexadecimal digits can be read: fewer than four bytes are
    left, or the four are something else. -/
def unitProblem (rest : Text) : Problem :=
  if Text.byteCount rest < 4 then .cutShort else .malformed

/-- The body of a string, after its opening quote. -/
def Body.ofText : Text → Body
  | [] => .broken .cutShort
  | '"' :: rest => .close rest
  | '\\' :: 'u' :: a :: b :: c :: d :: rest =>
      match unit? a b c d with
      | some unit => .ofUnit unit (ofText rest)
      | none => .broken .malformed
  | '\\' :: 'u' :: rest => .broken (unitProblem rest)
  | '\\' :: e :: rest =>
      match unescape? e with
      | some c => .char c (ofText rest)
      | none => .broken .malformed
  | ['\\'] => .broken .cutShort
  | c :: rest =>
      if c.toNat < 0x20 then .broken .malformed else .char c (ofText rest)

/-- The string of a body whose halves pair up; `high` is a first half that
    waits for its second. -/
def Body.read : (high : Option Nat) → Body → Outcome Text
  | none, close rest => .ok ([], rest)
  | some _, close _ => .error .malformed
  | _, broken problem => .error problem
  | none, char c more =>
      (read none more).map fun (text, rest) => (c :: text, rest)
  | some _, char _ _ => .error .malformed
  | none, half unit more =>
      if isHighHalf unit then read (some unit) more else .error .malformed
  | some high, half unit more =>
      if isLowHalf unit then
        (read none more).map fun (text, rest) =>
          (ofHalves high unit :: text, rest)
      else .error .malformed

/-- The rest after a body, whatever its halves. -/
def Body.skip : Body → Except Problem Text
  | close rest => .ok rest
  | broken problem => .error problem
  | char _ more => skip more
  | half _ more => skip more

/-- The string up to its closing quote, and the rest after it; skipped, it is
    not put together. -/
def stringBody (manner : Manner) (t : Text) : Outcome Text :=
  match manner with
  | .reading => (Body.ofText t).read none
  | .skipping => (Body.ofText t).skip.map fun rest => ([], rest)

/-! ## Numbers -/

/-- A number as it is written: digits before and after the point, and an
    exponent. -/
structure Numeral where
  negative : Bool
  whole : Text
  fraction : Option Text
  exponent : Option (Bool × Text)

/-- One or more decimal digits; the text may end before the first. -/
def digits (manner : Manner) (t : Text) : Outcome Text :=
  match t.takeWhile Char.isDigit, t.dropWhile Char.isDigit with
  | [], [] => .error (if manner = .reading then .cutShort else .malformed)
  | [], _ :: _ => .error .malformed
  | run, rest => .ok (run, rest)

/-- The fraction, if a point follows. -/
def fraction (manner : Manner) : Text → Outcome (Option Text)
  | '.' :: rest => (digits manner rest).map fun (run, rest) => (some run, rest)
  | rest => .ok (none, rest)

/-- The exponent, if an `e` follows: whether it is negative, and its
    digits. -/
def exponent (manner : Manner) : Text → Outcome (Option (Bool × Text))
  | c :: rest =>
      if c = 'e' ∨ c = 'E' then
        match rest with
        | '+' :: rest =>
            (digits manner rest).map fun (run, rest) => (some (false, run), rest)
        | '-' :: rest =>
            (digits manner rest).map fun (run, rest) => (some (true, run), rest)
        | rest =>
            (digits manner rest).map fun (run, rest) => (some (false, run), rest)
      else .ok (none, c :: rest)
  | [] => .ok (none, [])

/-- A number without its sign: a leading zero stands alone. -/
def unsigned (manner : Manner) (negative : Bool) (t : Text) :
    Except Problem (Numeral × Text) := do
  let (whole, rest) ← digits manner t
  if whole.head? = some '0' ∧ whole.length > 1 then throw .malformed
  let (fraction, rest) ← fraction manner rest
  let (exponent, rest) ← exponent manner rest
  return (⟨negative, whole, fraction, exponent⟩, rest)

/-- A number as it is written, from its sign or first digit on. -/
def numeral (manner : Manner) : Text → Outcome Numeral
  | '-' :: rest => unsigned manner true rest
  | rest => unsigned manner false rest

/-- The significand of a long run of digits: as many digits as fit in 64
    bits, and how many of them are left over. -/
def significand : (digits : Text) → (value left : Nat) → Nat × Nat
  | [], value, left => (value, left)
  | c :: rest, value, left =>
      let next := value * 10 + (c.toNat - '0'.toNat)
      if left = 0 ∧ next < UInt64.size then significand rest next 0
      else significand rest value (left + 1)

/-- Digits of a fraction added to a significand as long as it fits in 64
    bits, and how many were added. -/
def extend : (digits : Text) → (value added : Nat) → Nat × Nat
  | [], value, added => (value, added)
  | c :: rest, value, added =>
      let next := value * 10 + (c.toNat - '0'.toNat)
      if next < UInt64.size then extend rest next (added + 1) else (value, added)

/-- The power of ten nearest to which binary64 has a number. -/
def powerOfTen (n : Nat) : Float := Float.ofScientific 1 false n

/-- The significand times a power of ten, in steps that stay within the
    table of powers up to `10 ^ 308`; none if the result is infinite. -/
def scale? (significand : Nat) (exponent : Int) : Option Float :=
  let f := significand.toUInt64.toFloat
  if 0 ≤ exponent then
    if exponent ≤ 308 then
      let scaled := f * powerOfTen exponent.toNat
      if scaled.isInf then none else some scaled
    else if significand = 0 then some f
    else none
  else
    let n := (-exponent).toNat
    if n ≤ 308 then some (f / powerOfTen n)
    else if n ≤ 616 then some (f / powerOfTen 308 / powerOfTen (n - 308))
    else some 0.0

/-- The binary64 number of a numeral, none if it is out of range. -/
def Numeral.float? (n : Numeral) : Option Float :=
  let (whole, left) := significand n.whole 0 0
  let (value, added) := extend (n.fraction.getD []) whole 0
  let shift := (left : Int) - added
  let magnitude? :=
    match n.exponent with
    | none => scale? value shift
    | some (negative, run) =>
        let size := Text.ofDigits 10 run
        if size < 0x80000000 then
          scale? value (if negative then shift - size else shift + size)
        else if value ≠ 0 ∧ !negative then none
        else some 0.0
  magnitude?.map fun x => if n.negative then -x else x

/-- The number that a numeral stands for: a whole number if it is written as
    one and fits in 64 bits, signed or unsigned, else a binary64 number; none
    if that is out of range. -/
def Numeral.number? (n : Numeral) : Option Number :=
  let whole := Text.ofDigits 10 n.whole
  if n.fraction.isNone ∧ n.exponent.isNone ∧
      (if n.negative then 0 < whole ∧ whole ≤ 0x8000000000000000
        else whole < UInt64.size) then
    some (.whole (if n.negative then -whole else whole))
  else n.float?.map .double

/-- A number, from its sign or first digit on. -/
def readNumber (manner : Manner) (t : Text) :
    Except Problem (Number × Text) := do
  let (numeral, rest) ← numeral manner t
  match numeral.number?, manner with
  | some n, _ => return (n, rest)
  | none, .skipping => return (.whole 0, rest)
  | none, .reading => throw .malformed

/-- The character begins a number. -/
def beginsNumber (c : Char) : Bool := c == '-' || c.isDigit

end GuardedSql.Json
