import GuardedSql.Json.Scalar

/-! # Reading JSON — from left to right, up to the first problem

    A text is read once, and the first problem met is the answer.  Reading
    bounds how deeply arrays and objects may be nested; the functions below
    carry that bound as a number that falls at every bracket, and fuel, of
    which a text never needs more than twice its length. -/

namespace GuardedSql.Json

/-- How many arrays and objects may be open at once. -/
def maxDepth : Nat := 127

/-- A member put before others; of members with one name the last counts. -/
def putFirst (name : Text) (value : Json) (rest : List (Text × Json)) :
    List (Text × Json) :=
  if rest.any fun m => m.1 == name then rest else (name, value) :: rest

/-- A string from its opening quote on. -/
def readString (manner : Manner) : Text → Outcome Text
  | '"' :: rest => stringBody manner rest
  | [] => .error .cutShort
  | _ => .error .malformed

/-- The rest after a colon. -/
def expectColon (t : Text) : Except Problem Text := expect [':'] (skipBlanks t)

mutual

/-- A value and the rest of the text. -/
def readValue (manner : Manner) :
    (fuel depth : Nat) → Text → Outcome Json
  | 0, _, _ => .error .cutShort
  | fuel + 1, depth, t =>
      match skipBlanks t with
      | [] => .error .cutShort
      | 'n' :: rest => (expect (chars "ull") rest).map (null, ·)
      | 't' :: rest => (expect (chars "rue") rest).map (bool true, ·)
      | 'f' :: rest => (expect (chars "alse") rest).map (bool false, ·)
      | '"' :: rest =>
          (stringBody manner rest).map fun (text, rest) => (string text, rest)
      | '[' :: rest =>
          match depth with
          | 0 => .error .malformed
          | depth + 1 =>
              match skipBlanks rest with
              | ']' :: rest => .ok (array [], rest)
              | rest =>
                  (readItems manner fuel depth rest).map fun (items, rest) =>
                    (array items, rest)
      | '\x7b' :: rest =>
          match depth with
          | 0 => .error .malformed
          | depth + 1 =>
              match skipBlanks rest with
              | '\x7d' :: rest => .ok (object [], rest)
              | rest =>
                  (readMembers manner fuel depth rest).map
                    fun (members, rest) => (object members, rest)
      | c :: rest =>
          if beginsNumber c then
            (readNumber manner (c :: rest)).map fun (n, rest) =>
              (number n, rest)
          else .error .malformed

/-- One or more values between commas, up to the closing bracket. -/
def readItems (manner : Manner) :
    (fuel depth : Nat) → Text → Except Problem (List Json × Text)
  | 0, _, _ => .error .cutShort
  | fuel + 1, depth, t => do
      let (item, rest) ← readValue manner fuel depth t
      match skipBlanks rest with
      | ',' :: rest =>
          let (items, rest) ← readItems manner fuel depth rest
          return (item :: items, rest)
      | ']' :: rest => return ([item], rest)
      | [] => throw .cutShort
      | _ => throw .malformed

/-- One or more members between commas, up to the closing brace. -/
def readMembers (manner : Manner) :
    (fuel depth : Nat) → Text → Except Problem (List (Text × Json) × Text)
  | 0, _, _ => .error .cutShort
  | fuel + 1, depth, t => do
      let (name, rest) ← readString manner (skipBlanks t)
      let rest ← expectColon rest
      let (value, rest) ← readValue manner fuel depth rest
      match skipBlanks rest with
      | ',' :: rest =>
          let (members, rest) ← readMembers manner fuel depth rest
          return (putFirst name value members, rest)
      | '\x7d' :: rest => return ([(name, value)], rest)
      | [] => throw .cutShort
      | _ => throw .malformed

end

/-- Fuel that suffices for every text of this length. -/
def fuelFor (t : Text) : Nat := 2 * t.length + 2

/-- The rest after a value that is of no interest, nested to any depth. -/
def skipValue (t : Text) : Except Problem Text :=
  (readValue .skipping (fuelFor t) t.length t).map (·.2)

/-- Nothing but blanks is left. -/
def expectEnd (t : Text) : Except Problem Unit :=
  if (skipBlanks t).isEmpty then .ok () else .error .malformed

/-- The value that the whole text stands for. -/
def parse (t : Text) : Except Problem Json := do
  let (value, rest) ← readValue .reading (fuelFor t) maxDepth t
  expectEnd rest
  return value

end GuardedSql.Json
