/-!
# Decimal numbers

A decimal is a signed coefficient times a power of ten; it keeps its scale, so that `5.00` and
`5` are different decimals of the same value, and a zero keeps its sign.

* `add`, `sub`, `mul` are exact and give the scale that the operands call for;
* `rounded` and `quotient` keep a given number of digits, a half going to the even neighbour;
* `truncated?` cuts to a number of places toward zero, when the result has few enough digits;
* `text` writes a decimal with its scale.
-/

namespace PredictionLeague

/-- A decimal number with its scale. -/
structure Decimal where
  negative : Bool
  coefficient : Nat
  exponent : Int
  deriving DecidableEq

namespace Decimal

/-- A power of ten. -/
def tens (n : Nat) : Nat := Nat.pow 10 n

/-- The number of decimal digits of `n`; zero has one. -/
def digitCount (n : Nat) : Nat := (Nat.toDigits 10 n).length

/-- The integer with the value of `d` in units of ten to the power `exponent`, when the scale of
`d` is at least as coarse. -/
def units (exponent : Int) (d : Decimal) : Int :=
  let n : Int := (d.coefficient * tens (d.exponent - exponent).toNat : Nat)
  if d.negative then -n else n

/-- The decimal of an integer number of units; `minusZero` says which zero it is when there are
none. -/
def ofUnits (exponent n : Int) (minusZero : Bool) : Decimal :=
  ⟨n < 0 || (n == 0 && minusZero), n.natAbs, exponent⟩

/-- An amount of money with two places. -/
def ofPennies (n : Int) : Decimal := ofUnits (-2) n false

/-- A whole number. -/
def ofInt (n : Int) : Decimal := ofUnits 0 n false

instance : Neg Decimal := ⟨fun d => { d with negative := !d.negative }⟩

/-- The exact sum, at the finer scale. A sum of zero is negative only when both parts are. -/
def add (a b : Decimal) : Decimal :=
  let exponent := min a.exponent b.exponent
  ofUnits exponent (a.units exponent + b.units exponent) (a.negative && b.negative)

/-- The exact difference, at the finer scale. -/
def sub (a b : Decimal) : Decimal := add a (-b)

/-- The exact product. -/
def mul (a b : Decimal) : Decimal :=
  ⟨a.negative != b.negative, a.coefficient * b.coefficient, a.exponent + b.exponent⟩

instance : Add Decimal := ⟨add⟩
instance : Sub Decimal := ⟨sub⟩
instance : Mul Decimal := ⟨mul⟩

/-- Whether `a` is at most `b` in value. -/
def atMost (a b : Decimal) : Bool :=
  let exponent := min a.exponent b.exponent
  a.units exponent ≤ b.units exponent

/-! ### Rounding -/

/-- The number of digits that a decimal keeps in a calculation. -/
def digitLimit : Nat := 28

/-- The whole number nearest to `n / d`; of two the even one. -/
def nearest (n d : Nat) : Nat :=
  let q := n / d
  let r := n % d
  if d < 2 * r ∨ (2 * r = d ∧ q % 2 = 1) then q + 1 else q

/-- The nearest decimal of at most `precision` digits. -/
def rounded (precision : Nat) (d : Decimal) : Decimal :=
  let excess := digitCount d.coefficient - precision
  if excess = 0 then d
  else
    let q := nearest d.coefficient (tens excess)
    -- rounding up may carry into a new digit, which is then a zero less at the end
    if digitCount q ≤ precision then ⟨d.negative, q, d.exponent + excess⟩
    else ⟨d.negative, q / 10, d.exponent + excess + 1⟩

/-- The nearest decimal that a calculation can keep. -/
def kept (d : Decimal) : Decimal := d.rounded digitLimit

/-- The nearest decimal of `precision` digits to a decimal divided by a positive whole number. -/
def quotient (precision : Nat) (a : Decimal) (n : Nat) : Decimal :=
  let upper (scale : Int) := a.coefficient * tens scale.toNat
  let lower (scale : Int) := n * tens (-scale).toNat
  -- at this scale the quotient has the wanted number of digits, or one more
  let scale : Int := precision + digitCount n - digitCount a.coefficient
  let scale := if digitCount (upper scale / lower scale) ≤ precision then scale else scale - 1
  ⟨a.negative, nearest (upper scale) (lower scale), a.exponent - scale⟩

/-- The decimal cut to `places` places toward zero, when that has at most `precision` digits. -/
def truncated? (precision places : Nat) (d : Decimal) : Option Decimal :=
  if d.coefficient = 0 then some ⟨d.negative, 0, -places⟩
  else if (precision : Int) < digitCount d.coefficient + d.exponent + places then none
  else if digitCount d.coefficient + d.exponent + places ≤ 0 then some ⟨d.negative, 0, -places⟩
  else
    let shift := d.exponent + places
    some ⟨d.negative, d.coefficient * tens shift.toNat / tens (-shift).toNat, -places⟩

/-- The whole number of pennies in a decimal, a half going to the even neighbour. -/
def pennies (d : Decimal) : Int :=
  let shift := d.exponent + 2
  let n := nearest (d.coefficient * tens shift.toNat) (tens (-shift).toNat)
  if d.negative then -n else n

/-! ### The written form -/

/-- The written form: positional when the scale is not above the units and at most five zeros
follow the point, with an exponent otherwise. -/
def text (d : Decimal) : String :=
  let digits := Nat.toDigits 10 d.coefficient
  let whole : Int := digits.length + d.exponent
  let positional := d.exponent ≤ 0 ∧ -6 < whole
  let point : Int := if positional then whole else 1
  let front := if point ≤ 0 then ['0'] else digits.take point.toNat
  let back :=
    if point ≤ 0 then List.replicate (-point).toNat '0' ++ digits else digits.drop point.toNat
  let shift := whole - point
  (if d.negative then "-" else "") ++ String.ofList front ++
    (if back.isEmpty then "" else "." ++ String.ofList back) ++
    (if shift = 0 then ""
     else "E" ++ (if 0 ≤ shift then "+" else "-") ++ toString shift.natAbs)

end Decimal

end PredictionLeague
