import GuardedSql.Json.Basic
import GuardedSql.Number.Shortest

/-! # Writing JSON — one line without blanks

    Strings escape quotes, backslashes and control characters and nothing
    else.  Whole numbers are written in digits; binary64 numbers in the
    fewest digits that read back, always with a fraction or an exponent, so
    that the two kinds stay apart. -/

namespace GuardedSql.Json

/-- A character as it is written within a string. -/
def escape (c : Char) : Text :=
  if c = '"' then ['\\', '"']
  else if c = '\\' then ['\\', '\\']
  else if c = '\n' then ['\\', 'n']
  else if c = '\r' then ['\\', 'r']
  else if c = '\t' then ['\\', 't']
  else if c.toNat < 0x20 then
    ['\\', 'u', '0', '0', Nat.digitChar (c.toNat / 16),
      Nat.digitChar (c.toNat % 16)]
  else [c]

/-- A string as it is written. -/
def renderString (t : Text) : Text := '"' :: t.flatMap escape ++ ['"']

/-- A number as it is written. -/
def renderNumber : Number → Text
  | .whole n => Text.ofInt n
  | .double x => GuardedSql.Number.renderFloat x

mutual

/-- A value as it is written. -/
def render : Json → Text
  | null => chars "null"
  | bool true => chars "true"
  | bool false => chars "false"
  | number n => renderNumber n
  | string t => renderString t
  | array items => '[' :: renderItems items ++ [']']
  | object members => '\x7b' :: renderMembers members ++ ['\x7d']

/-- Values between commas. -/
def renderItems : List Json → Text
  | [] => []
  | [item] => render item
  | item :: rest => render item ++ ',' :: renderItems rest

/-- Members between commas. -/
def renderMembers : List (Text × Json) → Text
  | [] => []
  | [(name, value)] => renderString name ++ ':' :: render value
  | (name, value) :: rest =>
      renderString name ++ ':' :: render value ++ ',' :: renderMembers rest

end

end GuardedSql.Json
