import GuardedSql.Text.Basic

/-! # Shortest decimals — the fewest digits that read back

    A binary64 number stands for the interval of reals that round to it.  Its
    decimal text takes, of the grids of one, two and up to seventeen
    significant digits, the first that has a point in that interval, and of
    two such points the nearer one.  The search is in natural numbers, so
    nothing is rounded on the way. -/

namespace GuardedSql.Number

/-- A positive binary64 number, `mantissa * 2 ^ exponent`. -/
structure Binary where
  mantissa : Nat
  exponent : Int
  /-- The gap to the number below is half as wide as the one above. -/
  narrowBelow : Bool

/-- A decimal number, `digits * 10 ^ exponent`. -/
structure Decimal where
  digits : Nat
  exponent : Int
  deriving DecidableEq, Repr

/-- The leading bit of a mantissa, which is not stored. -/
def Binary.leadingBit : Nat := 0x10000000000000

/-- The magnitude that the bits of a finite number stand for. -/
def Binary.ofBits (bits : UInt64) : Binary :=
  let exponent : Nat := bits.toNat / leadingBit % 0x800
  let fraction : Nat := bits.toNat % leadingBit
  if exponent = 0 then ⟨fraction, -1074, false⟩
  else
    ⟨leadingBit + fraction, (exponent : Int) - 1075,
      fraction == 0 && decide (1 < exponent)⟩

/-- How `a * 10 ^ i` compares with `b * 2 ^ j`. -/
def compareScaled (a : Nat) (i : Int) (b : Nat) (j : Int) : Ordering :=
  compare (a * Nat.pow 10 i.toNat * Nat.pow 2 (-j).toNat)
    (b * Nat.pow 2 j.toNat * Nat.pow 10 (-i).toNat)

/-- The decimal is one of the reals that round to the number: those halfway
    to a neighbour do if the mantissa is even. -/
def Binary.readsBack (x : Binary) (d : Decimal) : Bool :=
  let low := 4 * x.mantissa - if x.narrowBelow then 1 else 2
  let high := 4 * x.mantissa + 2
  let atLow := compareScaled d.digits d.exponent low (x.exponent - 2)
  let atHigh := compareScaled d.digits d.exponent high (x.exponent - 2)
  let even := x.mantissa % 2 == 0
  (atLow == .gt || (even && atLow == .eq)) &&
    (atHigh == .lt || (even && atHigh == .eq))

/-- The least `k` with the number below `10 ^ k`. -/
def Binary.magnitude (x : Binary) : Int :=
  let scaled := x.mantissa * Nat.pow 2 x.exponent.toNat * Nat.pow 10 400 /
    Nat.pow 2 (-x.exponent).toNat
  ((Text.ofNat scaled).length : Int) - 400

/-- The greatest multiple of `10 ^ i` not above the number, in units of
    `10 ^ i`. -/
def Binary.floorOnGrid (x : Binary) (i : Int) : Nat :=
  x.mantissa * Nat.pow 2 x.exponent.toNat * Nat.pow 10 (-i).toNat /
    (Nat.pow 2 (-x.exponent).toNat * Nat.pow 10 i.toNat)

/-- The point of the grid `10 ^ i` that reads back as the number, the nearer
    one if there are two, and of two equally near ones the even one. -/
def Binary.onGrid? (x : Binary) (i : Int) : Option Decimal :=
  let below : Decimal := ⟨x.floorOnGrid i, i⟩
  let above : Decimal := ⟨below.digits + 1, i⟩
  match x.readsBack below, x.readsBack above with
  | false, false => none
  | true, false => some below
  | false, true => some above
  | true, true =>
      match compareScaled (2 * below.digits + 1) i (2 * x.mantissa)
          x.exponent with
      | .gt => some below
      | .lt => some above
      | .eq => if below.digits % 2 = 0 then some below else some above

/-- Without the zeros at the end of the digits; `fuel` bounds their number. -/
def Decimal.strip : (fuel : Nat) → Decimal → Decimal
  | 0, d => d
  | fuel + 1, d =>
      if d.digits ≠ 0 ∧ d.digits % 10 = 0 then
        strip fuel ⟨d.digits / 10, d.exponent + 1⟩
      else d

/-- The decimal with the fewest digits that reads back as the number. -/
def Binary.shortest (x : Binary) : Decimal :=
  let k := x.magnitude
  let found := (List.range 17).findSome? fun (n : Nat) =>
    x.onGrid? (k - ((n : Int) + 1))
  Decimal.strip 20 (found.getD ⟨x.floorOnGrid (k - 17), k - 17⟩)

/-- The text of a decimal: positional if the point falls among or near the
    digits, always with a fraction, else with an exponent. -/
def Decimal.render (d : Decimal) : Text :=
  let digits := Text.ofNat d.digits
  let point := (digits.length : Int) + d.exponent
  if 0 ≤ d.exponent ∧ point ≤ 16 then
    digits ++ List.replicate d.exponent.toNat '0' ++ chars ".0"
  else if 0 < point ∧ point ≤ 16 then
    digits.take point.toNat ++ '.' :: digits.drop point.toNat
  else if -5 < point ∧ point ≤ 0 then
    chars "0." ++ List.replicate (-point).toNat '0' ++ digits
  else
    digits.take 1 ++
      (if digits.length = 1 then [] else '.' :: digits.drop 1) ++
      'e' :: Text.ofInt (point - 1)

/-- The text of a finite binary64 number. -/
def renderFloat (x : Float) : Text :=
  let bits := x.toBits
  let sign : Text := if bits.toNat / 0x8000000000000000 = 1 then ['-'] else []
  let magnitude := Binary.ofBits bits
  if magnitude.mantissa = 0 then sign ++ chars "0.0"
  else sign ++ magnitude.shortest.render

end GuardedSql.Number
