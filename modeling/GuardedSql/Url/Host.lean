import GuardedSql.Text.Punycode
import GuardedSql.Url.Label.Admissible
import GuardedSql.Url.Label.Composed
import GuardedSql.Url.Label.Direction
import GuardedSql.Url.Label.Joining
import GuardedSql.Text.Percent
import GuardedSql.Error
import GuardedSql.Url.Ip

/-! # Hosts — who is addressed

    A host in brackets is an IPv6 address.  Under a special scheme any other
    host is a domain name, decoded and in lower case, or an IPv4 address if
    its last part is a number; under another scheme it is kept as it is
    written.  A domain name is kept in ASCII: a label that stands for a text
    beyond ASCII is checked and kept as it is, and a name that holds such a
    text itself is first turned into one that does not.  How that is done
    rests on tables of Unicode that are no part of this library, so it is a
    parameter, of which nothing is known but that it leaves ASCII alone. -/

/-! ## Labels

    A label, the part of a domain name between its dots, that begins with
    `xn--` stands for a text beyond ASCII and is kept as it is written, but
    only if that text is one that a label may hold.  Every other label stands
    for itself. -/

namespace GuardedSql.Url.Label

/-- What a label begins with if it stands for a text beyond ASCII. -/
def tag : Text := chars "xn--"

/-- The greatest length of a label behind its tag. -/
def maxWritten : Nat := 2000

/-- The greatest length of the text that such a label stands for. -/
def maxMeant : Nat := 1000

/-- The text is one that a label may hold. -/
def isSound (t : Text) : Bool :=
  t.length ≤ maxMeant && t.all isAdmissible && isComposed t &&
    !(t.head?.any isMark) && joinersFit [] t

/-- The text that a label in lower case stands for, if it may hold it. -/
def meaning? (label : Text) : Option Text :=
  if tag.isPrefixOf label then do
    let written := label.drop tag.length
    if written.length > maxWritten || label.getLast? == some '-' then none
    let text ← Text.Punycode.decode? written
    if isSound text then some text else none
  else some label

/-- Every label of a domain name stands for a text, and the texts may stand
    in one host. -/
def areSound (labels : List Text) : Bool :=
  match labels.mapM meaning? with
  | some texts => directionsFit texts
  | none => false

end GuardedSql.Url.Label

/-! ## Hosts -/

namespace GuardedSql.Url

/-- How the bytes of a domain name are turned into a name in ASCII. -/
class DomainMapping where
  /-- The name that the bytes stand for, if they stand for any. -/
  toAscii : List UInt8 → Option Text
  /-- A name in ASCII stands for itself. -/
  toAscii_of_ascii (bytes : List UInt8) (h : ∀ b ∈ bytes, b < 0x80) :
    toAscii bytes = some (bytes.map fun b => Char.ofNat b.toNat)

/-- The mapping that knows no name beyond ASCII. -/
instance DomainMapping.asciiOnly : DomainMapping where
  toAscii bytes :=
    if bytes.all (· < 0x80) then some (bytes.map fun b => Char.ofNat b.toNat) else none
  toAscii_of_ascii _ h := if_pos (List.all_eq_true.mpr fun b hb => decide_eq_true (h b hb))

/-- A host. -/
inductive Host where
  | empty
  | domain (name : Text)
  | ipv4 (address : Nat)
  | ipv6 (groups : List Nat)
  deriving DecidableEq, Repr

namespace Host

/-- The host as it is written. -/
def render : Host → Text
  | empty => []
  | domain name => name
  | ipv4 address => Ipv4.render address
  | ipv6 groups => '[' :: Ipv6.render groups ++ [']']

/-- The character may not occur in a domain name. -/
def forbiddenInDomain (c : Char) : Bool :=
  c.toNat ≤ 0x20 || 0x7F ≤ c.toNat ||
    ['%', '#', '/', ':', '<', '>', '?', '@', '[', '\\', ']', '^', '|'].contains c

/-- The character may not occur in a host that is kept as it is written. -/
def forbiddenAsWritten (c : Char) : Bool :=
  ['\x00', '\t', '\n', '\r', ' ', '#', '/', ':', '<', '>', '?', '@', '[', '\\',
    ']', '^', '|'].contains c

/-- The address between brackets. -/
def ofBracketed (t : Text) : Except Fault Host :=
  if t.getLast? = some ']' then
    match Ipv6.ofText? t.tail.dropLast with
    | some groups => .ok (ipv6 groups)
    | none => .error .ipv6Address
  else .error .ipv6Address

/-- The host that a text stands for under a special scheme. -/
def ofSpecial [DomainMapping] (t : Text) : Except Fault Host :=
  if t.head? = some '[' then ofBracketed t
  else
    match DomainMapping.toAscii (Text.percentBytes t) with
    | none => .error .internationalName
    | some mapped =>
        let name := Text.lower mapped
        if name.any forbiddenInDomain || !Label.areSound (name.splitOn '.') then
          .error .internationalName
        else if name.isEmpty then .error .emptyHost
        else if Ipv4.isMeant name then
          match Ipv4.ofText? name with
          | some address => .ok (ipv4 address)
          | none => .error .ipv4Address
        else .ok (domain name)

/-- The host that a text stands for under any other scheme. -/
def ofOther (t : Text) : Except Fault Host :=
  if t.head? = some '[' then ofBracketed t
  else if t.any forbiddenAsWritten then .error .domainCharacter
  else if t.isEmpty then .ok empty
  else .ok (domain (Text.percentEncode isControl t))

end Host

end GuardedSql.Url
