/-! # Text — characters in a list, compared without letter case

    Everything this library reads or writes is a list of characters, so that
    every function on text is a recursion on that list.  This module holds
    the general vocabulary: ASCII case, occurrence of one text in another,
    cutting at the first occurrence, joining with a separator, blanks, and
    whole numbers in digits. -/

namespace GuardedSql

/-- Text is a list of characters. -/
abbrev Text := List Char

/-- The characters of a string.  It unfolds on demand only: a proof sees the
    string, and not the bytes that it is made of. -/
@[irreducible] def chars (s : String) : Text := s.toList

namespace Text

/-- The code point of the character lies in one of the ranges, each given by
    its first and its last code point. -/
def inRanges (ranges : List (Nat × Nat)) (c : Char) : Bool :=
  ranges.any fun (first, last) => first ≤ c.toNat && c.toNat ≤ last

/-- ASCII letters in upper case; every other character stays. -/
def upper (t : Text) : Text := t.map Char.toUpper

/-- ASCII letters in lower case; every other character stays. -/
def lower (t : Text) : Text := t.map Char.toLower

/-- Equality that ignores the case of ASCII letters. -/
def sameFold (s t : Text) : Bool := upper s == upper t

/-- `piece` stands somewhere in the text. -/
def occursIn (piece : Text) : Text → Bool
  | [] => piece.isEmpty
  | c :: rest => piece.isPrefixOf (c :: rest) || occursIn piece rest

/-- The text begins with `start`, the case of ASCII letters ignored. -/
def startsFold : Text → Text → Bool
  | [], _ => true
  | _ :: _, [] => false
  | a :: start, c :: rest => a.toUpper == c.toUpper && startsFold start rest

/-- The parts before and after the first place where `piece` stands, the case
    of ASCII letters ignored. -/
def cutFold (piece : Text) : Text → Option (Text × Text)
  | [] => none
  | c :: rest =>
      if startsFold piece (c :: rest) then
        some ([], (c :: rest).drop piece.length)
      else
        (cutFold piece rest).map fun (before, after) => (c :: before, after)

/-- `piece` stands somewhere in the text, the case of ASCII letters ignored. -/
def occursFold (piece t : Text) : Bool := (cutFold piece t).isSome

/-- The texts one after another, with `between` between neighbours. -/
def join (between : String) (ts : List Text) : Text :=
  List.intercalate (chars between) ts

/-- The text between single quotes. -/
def inQuotes (t : Text) : Text := '\'' :: t ++ ['\'']

/-- Without the characters at the end that satisfy `p`. -/
def dropWhileEnd (p : Char → Bool) (t : Text) : Text :=
  (t.reverse.dropWhile p).reverse

/-- Without the characters at either end that satisfy `p`. -/
def trimWith (p : Char → Bool) (t : Text) : Text :=
  dropWhileEnd p (t.dropWhile p)

/-- The maximal runs of characters that satisfy `p`, in order. -/
def runs (p : Char → Bool) (t : Text) : List Text :=
  (t.splitOnP fun c => !p c).filter fun run => !run.isEmpty

/-! ## Blank characters — the Unicode property `White_Space`

    Tokens are trimmed, and spellings are cut into words, at the characters
    with the property `White_Space`: twenty-five code points, more than the
    four that `Char.isWhitespace` knows. -/

/-- The ranges of code points with the property `White_Space`. -/
def blankRanges : List (Nat × Nat) :=
  [(0x9, 0xD), (0x20, 0x20), (0x85, 0x85), (0xA0, 0xA0), (0x1680, 0x1680),
   (0x2000, 0x200A), (0x2028, 0x2029), (0x202F, 0x202F), (0x205F, 0x205F),
   (0x3000, 0x3000)]

/-- The character has the property `White_Space`. -/
def isBlank (c : Char) : Bool := inRanges blankRanges c

/-- The text without blanks at either end. -/
def trim (t : Text) : Text := trimWith isBlank t

/-- The text holds nothing but blanks. -/
def allBlank (t : Text) : Bool := t.all isBlank

/-- The maximal runs of characters that are not blank. -/
def words (t : Text) : List Text := runs (fun c => !isBlank c) t

/-! ## Decimal numbers — reading and writing whole numbers

    A whole number is written with the digits `0` to `9` and no leading zero.
    Reading is more liberal: leading zeros are allowed, and a signed number
    may carry one `+` or `-`. -/

/-- The value of a digit in bases up to sixteen, letters in either case. -/
def digitValue? (c : Char) : Option Nat :=
  if '0' ≤ c ∧ c ≤ '9' then some (c.toNat - '0'.toNat)
  else if 'a' ≤ c ∧ c ≤ 'f' then some (c.toNat - 'a'.toNat + 10)
  else if 'A' ≤ c ∧ c ≤ 'F' then some (c.toNat - 'A'.toNat + 10)
  else none

/-- The character is a digit of the given base. -/
def isDigitOf (base : Nat) (c : Char) : Bool :=
  match digitValue? c with
  | some d => d < base
  | none => false

/-- The number that a run of digits of the given base stands for. -/
def ofDigits (base : Nat) (t : Text) : Nat :=
  t.foldl (fun n c => n * base + (digitValue? c).getD 0) 0

/-- The number written by one or more digits of the given base. -/
def nat? (base : Nat) (t : Text) : Option Nat :=
  if !t.isEmpty && t.all (isDigitOf base) then some (ofDigits base t) else none

/-- The whole number written by an optional sign and one or more decimal
    digits. -/
def int? : Text → Option Int
  | '+' :: digits => (nat? 10 digits).map fun n => (n : Int)
  | '-' :: digits => (nat? 10 digits).map fun n => -(n : Int)
  | digits => (nat? 10 digits).map fun n => (n : Int)

/-- A natural number in decimal digits. -/
def ofNat (n : Nat) : Text := Nat.toDigits 10 n

/-- A whole number in decimal digits, with a `-` if it is negative. -/
def ofInt : Int → Text
  | .ofNat n => ofNat n
  | .negSucc n => '-' :: ofNat (n + 1)

/-- A number in hexadecimal digits, letters in lower case. -/
def hex (n : Nat) : Text := Nat.toDigits 16 n

end Text

end GuardedSql
