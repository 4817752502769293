import GuardedSql.Url.Basic

/-! # Reading addresses — what a text means as a URL

    The text is read from left to right: scheme, authority, path, query,
    fragment.  Control characters and spaces around it do not count, nor do
    tabs and line ends in it, but for the one that sets a drive apart in a
    file path.  How the slashes after the scheme are taken depends on the
    scheme: a special one is always followed by an authority, whatever the
    number of slashes. -/

namespace GuardedSql.Url

variable [DomainMapping]

/-- The text without control characters and spaces around it. -/
def strip (t : Text) : Text := t.trimWith fun c => decide (c.toNat ≤ 0x20)

/-- A character of a scheme after the first. -/
def isSchemeChar (c : Char) : Bool :=
  c.isAlphanum || c == '+' || c == '-' || c == '.'

/-- The scheme in lower case and the text after its colon. -/
def scheme? (t : Text) : Option (Text × Text) :=
  match t with
  | [] => none
  | first :: _ =>
      if first.isAlpha then
        match t.dropWhile isSchemeChar with
        | ':' :: rest => some (Text.lower (t.takeWhile isSchemeChar), rest)
        | _ => none
      else none

/-- The character ends an authority. -/
def endsAuthority (special : Bool) (c : Char) : Bool :=
  Path.isSlash special c || c == '?' || c == '#'

/-- The character begins the query or the fragment. -/
def endsPath (c : Char) : Bool := c == '?' || c == '#'

/-! ## Authority -/

/-- User, password and the text after them: they end at the last `@` of the
    authority. -/
def splitUser (special : Bool) (t : Text) :
    Except Fault (Text × Text × Text) :=
  let authority := t.takeWhile fun c => !endsAuthority special c
  match authority.reverse.dropWhile (· != '@') with
  | [] => .ok ([], [], t)
  | _ :: reversed =>
      let user := reversed.reverse
      let rest := t.drop (user.length + 1)
      if user.isEmpty then
        if rest.head?.any (endsAuthority special) then .error .emptyHost
        else .ok ([], [], rest)
      else
        let encode := Text.percentEncode inUserInfoSet
        .ok (encode (user.takeWhile (· != ':')),
          encode (user.dropWhile (· != ':')).tail, rest)

/-- The host as it is written and the text after it: it ends with the
    authority or at a colon outside brackets. -/
def splitHost (special : Bool) : (bracketed : Bool) → Text → Text × Text
  | _, [] => ([], [])
  | bracketed, c :: rest =>
      if endsAuthority special c || (c == ':' && !bracketed) then
        ([], c :: rest)
      else
        let inside := c == '[' || (bracketed && c != ']')
        let (host, after) := splitHost special inside rest
        (c :: host, after)

/-- The port, if a colon is there, and the text after it. -/
def readPort (scheme : Text) : Text → Except Fault (Option Nat × Text)
  | ':' :: rest =>
      let digits := rest.takeWhile Char.isDigit
      let after := rest.dropWhile Char.isDigit
      let port := Text.ofDigits 10 digits
      if 65535 < port then .error .portNumber
      else if after.head?.any fun c => !(endsAuthority true c) then
        .error .portNumber
      else if digits.isEmpty || defaultPort? scheme = some port then
        .ok (none, after)
      else .ok (some port, after)
  | rest => .ok (none, rest)

/-- The authority and the text after it. -/
def readAuthority (scheme : Text) (t : Text) :
    Except Fault (Authority × Text) := do
  let special := isSpecial scheme
  let (username, password, rest) ← splitUser special t
  let (written, rest) := splitHost special false rest
  if special && written.isEmpty then throw .emptyHost
  let host ← if special then Host.ofSpecial written else Host.ofOther written
  let unnamed := host == .empty
  if unnamed && rest.head? = some ':' then throw .emptyHost
  let (port, rest) ← readPort scheme rest
  if unnamed && !(username.isEmpty && password.isEmpty) then throw .emptyHost
  return (⟨username, password, host, port⟩, rest)

/-! ## Path, query and fragment -/

/-- The path after an authority: under a special scheme it has at least one
    segment, under another it may have none. -/
def readPath (special : Bool) (t : Text) : List Text :=
  match t.takeWhile fun c => !endsPath c with
  | [] => if special then [[]] else []
  | c :: rest =>
      let written := if Path.isSlash special c then rest else c :: rest
      Path.addAll false inPathSet [] (Path.pieces special written)

/-- The query and the fragment at the end of a text. -/
def readTail (special : Bool) (t : Text) : Option Text × Option Text :=
  let encodeQuery := Text.percentEncode (inQuerySet special)
  let encodeFragment := Text.percentEncode inFragmentSet
  match t.dropWhile fun c => !endsPath c with
  | '?' :: rest =>
      let query := some (encodeQuery (rest.takeWhile (· != '#')))
      match rest.dropWhile (· != '#') with
      | _ :: fragment => (query, some (encodeFragment fragment))
      | [] => (query, none)
  | _ :: fragment => (none, some (encodeFragment fragment))
  | [] => (none, none)

/-- The address made of its parts, with query and fragment from the end of
    the text. -/
def assemble (scheme : Text) (authority : Option Authority) (path : PathKind)
    (t : Text) : Url :=
  let (query, fragment) := readTail (isSpecial scheme) t
  let setApart := authority.isNone && match path with
    | .segments ([] :: _ :: _) => true
    | _ => false
  ⟨scheme, authority, path, setApart, query, fragment⟩

/-- An address with an authority, from behind the slashes on. -/
def readHierarchical (scheme : Text) (t : Text) : Except Fault Url := do
  let (authority, rest) ← readAuthority scheme t
  return assemble scheme (some authority) (.segments (readPath (isSpecial scheme) rest)) rest

/-! ## File addresses

    Here tabs and line ends are kept up to the path, where one of them may
    set a drive apart. -/

/-- The text after a slash, if one comes next. -/
def afterSlash? (t : Text) : Option Text :=
  match t.dropWhile isBreak with
  | [] => none
  | c :: rest => if Path.isSlash true c then some rest else none

/-- The host of a file address, if it has one, and the path after it.  A path
    without a host keeps its first slash, which leaves an empty segment in
    front. -/
def readFileHost (t : Text) : Except Fault (Host × Text) :=
  let inHost (c : Char) : Bool := !endsAuthority true c
  let written := withoutBreaks (t.takeWhile inHost)
  if written.isEmpty || Path.isDrive written then .ok (.empty, t)
  else do
    let host ← Host.ofSpecial written
    let rest := t.dropWhile inHost
    if host = .domain (chars "localhost") then return (.empty, rest)
    return (host, (afterSlash? rest).getD rest)

/-- The host and the path of a file address, from behind its colon on. -/
def splitFile (t : Text) : Except Fault (Host × Text) :=
  match afterSlash? t with
  | none => .ok (.empty, t)
  | some rest =>
      match afterSlash? rest with
      | none => .ok (.empty, rest)
      | some rest => readFileHost rest

/-- A file address, from behind its colon on; a path that begins with a
    drive has no host. -/
def readFile (t : Text) : Except Fault Url := do
  let (host, rest) ← splitFile t
  let pieces := Path.pieces true (rest.takeWhile fun c => !endsPath c)
  let host := if Path.namesDrive [] pieces then .empty else host
  let path := Path.collapse (Path.addAll true inPathSet [] pieces)
  return assemble (chars "file") (some { host := host }) (.segments path)
    (withoutBreaks rest)

/-- The address that a text stands for. -/
def parse (t : Text) : Except Fault Url :=
  match scheme? (withoutBreaks (strip t)) with
  | none => .error .relativeWithoutBase
  | some (scheme, rest) =>
      if isFile scheme then readFile ((strip t).dropWhile (· != ':')).tail
      else if isSpecial scheme then
        readHierarchical scheme (rest.dropWhile (Path.isSlash true))
      else
        match rest with
        | '/' :: '/' :: rest => readHierarchical scheme rest
        | '/' :: _ =>
            .ok (assemble scheme none (.segments (readPath false rest)) rest)
        | _ =>
            let text := rest.takeWhile fun c => !endsPath c
            .ok (assemble scheme none
              (.unstructured (Text.percentEncode isControl text)) rest)

end GuardedSql.Url
