import GuardedSql.Text.Basic

/-! # JSON values — and what can be wrong with a text of them

    A number keeps whether it was written as a whole number that fits in 64
    bits, signed or unsigned, or is a binary64 number.  The members of an
    object keep their order. -/

namespace GuardedSql

/-- A JSON number. -/
inductive Json.Number where
  | whole (value : Int)
  | double (value : Float)
  deriving DecidableEq

/-- A JSON value. -/
inductive Json where
  | null
  | bool (value : Bool)
  | number (value : Json.Number)
  | string (value : Text)
  | array (items : List Json)
  | object (members : List (Text × Json))

namespace Json

/-- What is wrong with a text: it is not JSON, it ends too early, or it holds
    a value of another type than the one asked for. -/
inductive Problem where
  | malformed | cutShort | mismatch
  deriving DecidableEq, Repr

/-- The problem in words. -/
def Problem.message : Problem → Text
  | malformed => chars "the text is not JSON"
  | cutShort => chars "the text ends too early"
  | mismatch => chars "the value is not of the expected type"

/-- The member called `name`, if the value is an object that has one. -/
def get? (name : Text) : Json → Option Json
  | object members => (members.find? fun m => m.1 == name).map (·.2)
  | _ => none

end Json

end GuardedSql
