import GuardedSql.Text.Basic

/-! # Punycode — any text in letters, digits and hyphens

    The ASCII characters of the text come first, and a hyphen after them.
    What follows is a run of numbers, each of which says how far to go, around
    the text and from one code point to the next, to the place of the next
    character.  A number is written with digits of base 36, least first; a
    digit below the threshold of its place is the last one, and the thresholds
    adapt to the numbers read so far. -/

namespace GuardedSql.Text.Punycode

/-- The value of a digit: letters in either case, then decimal digits. -/
def digit? (c : Char) : Option Nat :=
  if 'a' ≤ c ∧ c ≤ 'z' then some (c.toNat - 'a'.toNat)
  else if 'A' ≤ c ∧ c ≤ 'Z' then some (c.toNat - 'A'.toNat)
  else if '0' ≤ c ∧ c ≤ '9' then some (c.toNat - '0'.toNat + 26)
  else none

/-- The threshold of a digit; the place of the first digit is 36, of the
    second 72, and so on. -/
def threshold (bias place : Nat) : Nat :=
  if place ≤ bias then 1
  else if bias + 26 ≤ place then 26
  else place - bias

/-- How often `n` is divided by 35 to bring it below 456, times 36, and the
    number it is brought to. -/
def scaleDown (n : Nat) : Nat × Nat :=
  if 455 < n then
    let (scale, rest) := scaleDown (n / 35)
    (scale + 36, rest)
  else (0, n)
termination_by n

/-- The bias after a number by which a text came to have `length`
    characters. -/
def adapt (number length : Nat) (isFirst : Bool) : Nat :=
  let halved := if isFirst then number / 700 else number / 2
  let (scale, rest) := scaleDown (halved + halved / length)
  scale + 36 * rest / (rest + 38)

/-- The greatest value that any number of the computation may take. -/
def limit : Nat := 0xFFFFFFFF

/-- What is known between two digits. -/
structure State where
  /-- The text so far. -/
  text : Text
  /-- The code point of the character inserted last. -/
  code : Nat := 0x80
  /-- The place behind that character. -/
  start : Nat := 0
  bias : Nat := 72
  /-- The place behind that character plus the digits read since. -/
  sum : Nat := 0
  /-- What the next digit is multiplied by. -/
  weight : Nat := 1
  /-- The place of the next digit in its number. -/
  place : Nat := 36

namespace State

/-- No number is half read. -/
def isBetweenNumbers (s : State) : Bool := s.place == 36

/-- The next character inserted, where the sum of place and number says. -/
def insert (s : State) (sum : Nat) : Option State :=
  let length := s.text.length + 1
  let code := s.code + sum / length
  let place := sum % length
  if code.isValidChar then
    some {
      text := s.text.take place ++ Char.ofNat code :: s.text.drop place
      code := code
      start := place + 1
      bias := adapt (sum - s.start) length (s.start == 0)
      sum := place + 1 }
  else none

/-- One more digit read. -/
def read (s : State) (c : Char) : Option State := do
  let digit ← digit? c
  if (limit - s.sum) / s.weight < digit then none
  let sum := s.sum + digit * s.weight
  let threshold := threshold s.bias s.place
  if digit < threshold then s.insert sum
  else if limit / (36 - threshold) < s.weight then none
  else
    some { s with
      sum := sum, weight := s.weight * (36 - threshold), place := s.place + 36 }

end State

/-- The text that is written as `t`: the last hyphen ends the ASCII
    characters, of which there must be some if there is a hyphen. -/
def decode? (t : Text) : Option Text := do
  let numbers := (t.reverse.takeWhile (· != '-')).reverse
  let plain := (t.reverse.dropWhile (· != '-')).tail.reverse
  if plain.isEmpty && t.contains '-' then none
  let last ← numbers.foldlM State.read { text := plain }
  if last.isBetweenNumbers then some last.text else none

end GuardedSql.Text.Punycode
