import GuardedSql.Text.Basic

/-! # Numbered hosts — IPv4 and IPv6 addresses

    Both kinds of address are read from their parts between separators and
    written back in one normal form. -/

/-! ## IPv4 addresses — one to four numbers between dots

    A host whose last part is a number must be an IPv4 address.  Its parts
    may be decimal, octal after `0` or hexadecimal after `0x`; the last part
    fills all the bytes that the parts before it leave. -/

namespace GuardedSql.Url.Ipv4

/-- The number that a part stands for. -/
def part? : Text → Option Nat
  | [] => none
  | ['0'] => some 0
  | '0' :: 'x' :: digits | '0' :: 'X' :: digits =>
      if digits.isEmpty then some 0 else Text.nat? 16 digits
  | '0' :: digits => Text.nat? 8 digits
  | digits => Text.nat? 10 digits

/-- The parts between dots; one dot at the end is no part of the address. -/
def parts (host : Text) : List Text :=
  let parts := host.splitOn '.'
  if parts.getLast? = some [] then parts.dropLast else parts

/-- The last part of the host is a number, so the host is meant as an
    address. -/
def isMeant (host : Text) : Bool :=
  match (parts host).getLast? with
  | none => false
  | some last =>
      (!last.isEmpty && last.all Char.isDigit) || (part? last).isSome

/-- The address of the numbers: each but the last is one byte, and the last
    fills the `room` bytes that are left. -/
def combine : (room : Nat) → List Nat → Option Nat
  | room, [last] => if last < 256 ^ room then some last else none
  | room + 1, first :: rest => do
      if 255 < first then none
      let low ← combine room rest
      return first * 256 ^ room + low
  | _, _ => none

/-- The address that a host stands for. -/
def ofText? (host : Text) : Option Nat := do
  let parts := parts host
  if 4 < parts.length then none
  combine 4 (← parts.mapM part?)

/-- An address as four decimal numbers between dots. -/
def render (address : Nat) : Text :=
  Text.join "." <| [24, 16, 8, 0].map fun shift =>
    Text.ofNat ((address >>> shift) % 256)

end GuardedSql.Url.Ipv4

/-! ## IPv6 addresses — eight groups of sixteen bits

    Groups are hexadecimal and stand between colons.  One double colon, the
    gap, stands for as many zero groups as are missing, at least one; and the
    last two groups may be written as an IPv4 address in plain decimal. -/

namespace GuardedSql.Url.Ipv6

/-- The groups read so far, and how many of them stand before the gap. -/
structure Draft where
  groups : List Nat
  gap : Option Nat

namespace Draft

/-- How many of the eight places are taken; the gap takes one. -/
def taken (d : Draft) : Nat := d.groups.length + if d.gap.isSome then 1 else 0

/-- The groups with one more at the end. -/
def push (d : Draft) (group : Nat) : Draft :=
  { d with groups := d.groups ++ [group] }

/-- The eight groups, the gap filled with zeros. -/
def finish? (d : Draft) : Option (List Nat) :=
  match d.gap with
  | none => if d.groups.length = 8 then some d.groups else none
  | some before =>
      some (d.groups.take before ++
        List.replicate (8 - d.groups.length) 0 ++ d.groups.drop before)

end Draft

/-- A group of one to four hexadecimal digits. -/
def group? (t : Text) : Option Nat :=
  if t.length ≤ 4 then Text.nat? 16 t else none

/-- A decimal byte without leading zeros. -/
def byte? (t : Text) : Option Nat := do
  if t.head? = some '0' ∧ 1 < t.length then none
  let n ← Text.nat? 10 t
  if n < 256 then some n else none

/-- The two groups of an IPv4 address in plain decimal. -/
def tail? (t : Text) : Option (Nat × Nat) :=
  match (t.splitOn '.').mapM byte? with
  | some [a, b, c, d] => some (a * 256 + b, c * 256 + d)
  | _ => none

/-- Reads the parts between colons, one after another. -/
def readParts (d : Draft) : List Text → Option Draft
  | [] => some d
  | [[]] => if d.gap = some d.groups.length then some d else none
  | part :: rest =>
      if 8 ≤ d.taken then none
      else if part.isEmpty then
        if d.gap.isSome then none
        else readParts { d with gap := some d.groups.length } rest
      else if part.contains '.' then
        match tail? part with
        | some (high, low) =>
            if d.taken ≤ 6 ∧ rest.isEmpty then some ((d.push high).push low)
            else none
        | none => none
      else
        match group? part with
        | some group => readParts (d.push group) rest
        | none => none

/-- The groups of an address without its brackets. -/
def ofText? (t : Text) : Option (List Nat) := do
  let draft ← match t.splitOn ':' with
    | [] :: [] :: part :: rest => readParts ⟨[], some 0⟩ (part :: rest)
    | [] :: _ => none
    | parts => readParts ⟨[], none⟩ parts
  draft.finish?

/-- The first longest run of zero groups: where it begins and how long it
    is. -/
def longestZeros (groups : List Nat) : Nat × Nat :=
  (List.range groups.length).foldl (fun best start =>
    let length := ((groups.drop start).takeWhile (· == 0)).length
    if best.2 < length then (start, length) else best) (0, 0)

/-- Groups in hexadecimal, between colons. -/
def renderGroups (groups : List Nat) : Text :=
  Text.join ":" (groups.map Text.hex)

/-- An address as it is written: the first longest run of two or more zero
    groups becomes the gap. -/
def render (groups : List Nat) : Text :=
  let (start, length) := longestZeros groups
  if length < 2 then renderGroups groups
  else
    renderGroups (groups.take start) ++ chars "::" ++
      renderGroups (groups.drop (start + length))

end GuardedSql.Url.Ipv6
