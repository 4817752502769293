import GuardedSql.Text.Basic

/-! # Names and literals — how a token is written

    A name is written between backticks, segment by segment, and a value bare
    or between single quotes. -/

/-! ## Names — dotted identifiers between backticks

    A name is a chain of segments separated by dots.  Every segment is
    written between backticks, its delimiters; one that already carries them
    is kept. -/

namespace GuardedSql.Name

/-- The character on either side of a written segment. -/
def tick : Char := '\x60'

/-- The parts of a name between its dots. -/
def segments (name : Text) : List Text := name.splitOn '.'

/-- The segment begins and ends with a backtick, two different ones. -/
def isDelimited : Text → Bool
  | [] => false
  | c :: rest => c == tick && rest.getLast? == some tick

/-- The segment without its delimiters, if it carries them. -/
def inner (segment : Text) : Text :=
  if isDelimited segment then segment.tail.dropLast else segment

/-- The segment between delimiters. -/
def delimit (segment : Text) : Text :=
  if isDelimited segment then segment else tick :: segment ++ [tick]

/-- A name as it is written. -/
def render (name : Text) : Text := Text.join "." ((segments name).map delimit)

/-- Names as they are written, between commas. -/
def renderAll (names : List Text) : Text := Text.join "," (names.map render)

end GuardedSql.Name

/-! ## Literals — the written form of values, ranges and lists

    A value that reads as a 64-bit whole number is written bare, every other
    value between single quotes.  Nothing is escaped: a value reaches this
    module only after its characters were checked, and a quote is not among
    the characters let through. -/

namespace GuardedSql.Literal

/-- The text is an optional sign and decimal digits, and its value fits in a
    signed 64-bit word. -/
def isInteger (t : Text) : Bool :=
  match t.int? with
  | some n => -0x8000000000000000 ≤ n && n < 0x8000000000000000
  | none => false

/-- A value as it is written: bare if it is an integer, else quoted. -/
def render (t : Text) : Text := if isInteger t then t else t.inQuotes

/-- What separates the bounds of a range, in any case of letters. -/
def rangeMark : Text := chars " AND "

/-- The bounds of a range `low AND high`: the text is cut at the first mark,
    and there must be something on either side and no second mark. -/
def bounds? (t : Text) : Option (Text × Text) :=
  match Text.cutFold rangeMark t with
  | none => none
  | some (before, after) =>
      let low := before.trim
      let high := after.trim
      if low.isEmpty || high.isEmpty || Text.occursFold rangeMark high then none
      else some (low, high)

/-- The items of a list: the parts between commas, without blanks around
    them. -/
def items (t : Text) : List Text := (t.splitOn ',').map Text.trim

/-- A range as it is written; a text that is no range is written as one
    value. -/
def renderRange (t : Text) : Text :=
  match bounds? t with
  | some (low, high) => render low ++ rangeMark ++ render high
  | none => render t

/-- A list as it is written: its items between commas, in parentheses. -/
def renderList (t : Text) : Text :=
  '(' :: Text.join "," ((items t).map render) ++ [')']

end GuardedSql.Literal
