import GuardedSql.Text.Basic

/-! # Percent encoding — bytes as text, in addresses and in forms

    The parts of an address and the pairs of a form are written in ASCII.
    Both rest on one encoding, and differ in the characters that may stand
    for themselves. -/

/-! ## Percent encoding — bytes as `%` and two hexadecimal digits

    A character that may not stand for itself is replaced by the bytes of its
    UTF-8 encoding, each written as `%` and two digits in upper case. -/

namespace GuardedSql.Text

/-- A hexadecimal digit, letters in upper case. -/
def upperHexDigit (n : Nat) : Char := (Nat.digitChar n).toUpper

/-- A byte as `%` and two hexadecimal digits. -/
def percentByte (b : UInt8) : Text :=
  ['%', upperHexDigit (b.toNat / 16), upperHexDigit (b.toNat % 16)]

/-- A character as its percent-encoded bytes. -/
def percentChar (c : Char) : Text :=
  (String.utf8EncodeChar c).flatMap percentByte

/-- The text with every character in `set` percent-encoded. -/
def percentEncode (set : Char → Bool) (t : Text) : Text :=
  t.flatMap fun c => if set c then percentChar c else [c]

/-- The bytes that a text stands for: `%` and two hexadecimal digits are one
    byte, every other character its own bytes. -/
def percentBytes : Text → List UInt8
  | [] => []
  | '%' :: a :: b :: rest =>
      match digitValue? a, digitValue? b with
      | some high, some low =>
          UInt8.ofNat (high * 16 + low) :: percentBytes rest
      | _, _ => String.utf8EncodeChar '%' ++ percentBytes (a :: b :: rest)
  | c :: rest => String.utf8EncodeChar c ++ percentBytes rest

/-- The characters that the bytes encode, if they are UTF-8. -/
def ofUtf8? (bytes : List UInt8) : Option Text :=
  bytes.toByteArray.utf8Decode?.map Array.toList

/-- The number of bytes of the text in UTF-8. -/
def byteCount (t : Text) : Nat := t.foldl (fun count c => count + c.utf8Size) 0

end GuardedSql.Text

/-! ## What is encoded where — the percent-encode sets of an address

    Each part of an address has its own set of characters that may not stand
    for themselves.  The sets grow from one another, and all of them hold the
    control characters and everything beyond ASCII. -/

namespace GuardedSql.Url

/-- A control character, or one beyond ASCII. -/
def isControl (c : Char) : Bool := c.toNat < 0x20 || 0x7E < c.toNat

/-- Encoded in a fragment. -/
def inFragmentSet (c : Char) : Bool :=
  isControl c || [' ', '"', '<', '>', '\x60'].contains c

/-- Encoded in a path. -/
def inPathSet (c : Char) : Bool :=
  inFragmentSet c || ['#', '?', '\x7b', '\x7d'].contains c

/-- Encoded in a path segment that is given on its own. -/
def inSegmentSet (special : Bool) (c : Char) : Bool :=
  inPathSet c || c == '/' || c == '%' || (special && c == '\\')

/-- Encoded in a user name or a password. -/
def inUserInfoSet (c : Char) : Bool :=
  inPathSet c || ['/', ':', ';', '=', '@', '[', '\\', ']', '^', '|'].contains c

/-- Encoded in a query. -/
def inQuerySet (special : Bool) (c : Char) : Bool :=
  isControl c || [' ', '"', '#', '<', '>'].contains c || (special && c == '\'')

end GuardedSql.Url

/-! ## Forms — pairs of a name and a value as one line of text

    The form encoding writes pairs as `name=value`, joined by `&`.  ASCII
    letters, digits and `*-._` stand for themselves, a space is `+`, and every
    other character is percent-encoded, so neither a name nor a value can
    hold a separator.  `Form.decode` reads such a line back. -/

namespace GuardedSql.Form

/-- The character stands for itself. -/
def isPlain (c : Char) : Bool := c.isAlphanum || ['*', '-', '.', '_'].contains c

/-- A character as it is written in a form. -/
def encodeChar (c : Char) : Text :=
  if c == ' ' then ['+'] else if isPlain c then [c] else Text.percentChar c

/-- A name or a value as it is written in a form. -/
def encodeText (t : Text) : Text := t.flatMap encodeChar

/-- A pair as it is written in a form. -/
def encodePair (pair : Text × Text) : Text :=
  encodeText pair.1 ++ '=' :: encodeText pair.2

/-- The pairs as one line of text. -/
def encode (pairs : List (Text × Text)) : Text :=
  Text.join "&" (pairs.map encodePair)

/-- The name or value that a piece of a form stands for. -/
def decodeText (t : Text) : Option Text :=
  Text.ofUtf8? (Text.percentBytes (t.map fun c => if c == '+' then ' ' else c))

/-- The pair that a piece of a form stands for: it is cut at the first `=`,
    and without one the value is empty. -/
def decodePair (t : Text) : Option (Text × Text) := do
  let name ← decodeText (t.takeWhile (· != '='))
  let value ← decodeText (t.dropWhile (· != '=')).tail
  return (name, value)

/-- The pairs that a form stands for; empty pieces stand for none. -/
def decode (t : Text) : Option (List (Text × Text)) :=
  ((t.splitOn '&').filter fun piece => !piece.isEmpty).mapM decodePair

end GuardedSql.Form
