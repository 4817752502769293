import GuardedSql.Endpoint.Basic
import GuardedSql.Json.Reader

/-! # Configuration — an endpoint from a JSON text

    The configuration is an object with the fields of an endpoint, or an
    array of their values in order; the timeout may be left out.  It is read
    once from left to right, each value with the type that its field asks
    for, and the first problem met is the answer.  Names that are no field
    are passed over with their values, and no field may come twice. -/

namespace GuardedSql.Endpoint.Config

open Json (Problem Outcome skipBlanks)

/-- The fields found so far. -/
structure Draft where
  baseUrl : Option Text := none
  readPath : Option Text := none
  writePath : Option Text := none
  username : Option Text := none
  password : Option Text := none
  timeoutSeconds : Option Nat := none

/-- The endpoint, if no field is missing but perhaps the timeout. -/
def Draft.finish (d : Draft) : Except Problem Endpoint :=
  match d.baseUrl, d.readPath, d.writePath, d.username, d.password with
  | some baseUrl, some readPath, some writePath, some username,
    some password =>
      .ok { baseUrl, readPath, writePath, username, password
            timeoutSeconds := d.timeoutSeconds.getD defaultTimeout }
  | _, _, _, _, _ => .error .mismatch

/-! ## Values -/

/-- The problem of a value that is not of the expected type: a scalar is read
    first and may have a problem of its own. -/
def wrongType (t : Text) : Problem :=
  let after {α : Type} (outcome : Except Problem α) : Problem :=
    match outcome with
    | .ok _ => .mismatch
    | .error problem => problem
  match t with
  | [] => .cutShort
  | 'n' :: rest => after (Json.expect (chars "ull") rest)
  | 't' :: rest => after (Json.expect (chars "rue") rest)
  | 'f' :: rest => after (Json.expect (chars "alse") rest)
  | '"' :: rest => after (Json.stringBody .reading rest)
  | '[' :: _ => .mismatch
  | '\x7b' :: _ => .mismatch
  | c :: rest =>
      if Json.beginsNumber c then after (Json.readNumber .reading (c :: rest))
      else .malformed

/-- A string. -/
def readText (t : Text) : Outcome Text :=
  match skipBlanks t with
  | '"' :: rest => Json.stringBody .reading rest
  | rest => .error (wrongType rest)

/-- A whole number that is not negative and fits in 64 bits. -/
def readCount (t : Text) : Outcome Nat :=
  match skipBlanks t with
  | [] => .error .cutShort
  | c :: rest =>
      if Json.beginsNumber c then
        match Json.readNumber .reading (c :: rest) with
        | .ok (.whole (.ofNat n), rest) => .ok (n, rest)
        | .ok _ => .error .mismatch
        | .error problem => .error problem
      else .error (wrongType (c :: rest))

/-! ## As an object -/

/-- What to do with the value of a member. -/
inductive Slot where
  /-- The name is no field. -/
  | unknown
  /-- The field has a value already. -/
  | filled
  /-- A field that is a string. -/
  | text (fill : Text → Draft)
  /-- A field that is a count. -/
  | count (fill : Nat → Draft)

/-- The slot of the member with the given name. -/
def Draft.slot (d : Draft) (name : Text) : Slot :=
  let text (old : Option Text) (fill : Text → Draft) : Slot :=
    if old.isSome then .filled else .text fill
  if name = chars "base_url" then
    text d.baseUrl fun v => { d with baseUrl := some v }
  else if name = chars "read_path" then
    text d.readPath fun v => { d with readPath := some v }
  else if name = chars "write_path" then
    text d.writePath fun v => { d with writePath := some v }
  else if name = chars "username" then
    text d.username fun v => { d with username := some v }
  else if name = chars "password" then
    text d.password fun v => { d with password := some v }
  else if name = chars "timeout_secs" then
    if d.timeoutSeconds.isSome then .filled
    else .count fun v => { d with timeoutSeconds := some v }
  else .unknown

/-- One member: the fields found after it, and the rest. -/
def readMember (d : Draft) (t : Text) : Except Problem (Draft × Text) := do
  let (name, rest) ← Json.readString .reading (skipBlanks t)
  match d.slot name with
  | .filled => throw .mismatch
  | .unknown =>
      let rest ← Json.skipValue (← Json.expectColon rest)
      return (d, rest)
  | .text fill =>
      let (value, rest) ← readText (← Json.expectColon rest)
      return (fill value, rest)
  | .count fill =>
      let (value, rest) ← readCount (← Json.expectColon rest)
      return (fill value, rest)

/-- One or more members, up to the closing brace; `fuel` bounds their
    number. -/
def readMembers : (fuel : Nat) → Draft → Text →
    Except Problem (Endpoint × Text)
  | 0, _, _ => .error .cutShort
  | fuel + 1, d, t => do
      let (d, rest) ← readMember d t
      match skipBlanks rest with
      | ',' :: rest => readMembers fuel d rest
      | '\x7d' :: rest => return (← d.finish, rest)
      | [] => throw .cutShort
      | _ => throw .malformed

/-! ## As an array -/

/-- The next element, if there is one; `first` says that no comma comes
    before it. -/
def element {α : Type} (first : Bool) (read : Text → Outcome α) (t : Text) :
    Except Problem (Option α × Text) :=
  let some? (t : Text) := (read t).map fun (value, rest) => (some value, rest)
  match skipBlanks t with
  | [] => .error .cutShort
  | ']' :: rest => .ok (none, ']' :: rest)
  | c :: rest =>
      if first then some? (c :: rest)
      else if c = ',' then
        match skipBlanks rest with
        | ']' :: _ => .error .malformed
        | rest => some? rest
      else .error .malformed

/-- The next element, which must be there. -/
def required (first : Bool) (t : Text) : Except Problem (Text × Text) := do
  match ← element first readText t with
  | (some value, rest) => return (value, rest)
  | (none, _) => throw .mismatch

/-- The fields in order, up to the closing bracket. -/
def readFields (t : Text) : Except Problem (Endpoint × Text) := do
  let (baseUrl, rest) ← required true t
  let (readPath, rest) ← required false rest
  let (writePath, rest) ← required false rest
  let (username, rest) ← required false rest
  let (password, rest) ← required false rest
  let (timeout?, rest) ← element false readCount rest
  let timeoutSeconds := timeout?.getD defaultTimeout
  match skipBlanks rest with
  | ']' :: rest =>
      return (⟨baseUrl, readPath, writePath, username, password,
        timeoutSeconds⟩, rest)
  | [] => throw .cutShort
  | _ => throw .malformed

/-- An endpoint, as an object or as an array, and the rest of the text. -/
def readEndpoint (t : Text) : Except Problem (Endpoint × Text) :=
  match skipBlanks t with
  | '[' :: rest => readFields rest
  | '\x7b' :: rest =>
      match skipBlanks rest with
      | '\x7d' :: rest => (Draft.finish {}).map fun endpoint => (endpoint, rest)
      | rest => readMembers rest.length {} rest
  | rest => .error (wrongType rest)

/-- The endpoint that a whole text describes. -/
def parse (t : Text) : Except Problem Endpoint := do
  let (endpoint, rest) ← readEndpoint t
  Json.expectEnd rest
  return endpoint

end Config

/-- The endpoint that a JSON text describes, if its base address is
    usable. -/
def ofJson [Url.DomainMapping] (t : Text) : Except Error Endpoint := do
  let endpoint ← (Config.parse t).mapError Error.unreadable
  let _ ← endpoint.base
  return endpoint

end GuardedSql.Endpoint
