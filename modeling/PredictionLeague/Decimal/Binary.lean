import PredictionLeague.Decimal

/-!
# Binary numbers of 53 digits

A binary number is a signed whole number of at most 53 binary digits times a power of two, which
is bounded below; numbers from two to the power 1024 on are too large. Amounts in the store and
numbers with a point in requests are kept in this form.

* `Binary.ofRatio?`, `Binary.ofDecimal?`: the nearest binary number, of two the one with an even
  whole number;
* `Binary.toInt?`: the integer that a binary number is, if it is one;
* `Binary.hundredths`: the nearest number of hundredths;
* `Binary.text`: the shortest decimal that reads back as the same binary number.
-/

namespace PredictionLeague

/-- The number `mantissa` times two to the power `exponent`, with a sign. -/
structure Binary where
  negative : Bool
  mantissa : Nat
  exponent : Int
  deriving DecidableEq

namespace Binary

/-- A power of two. -/
def twos (n : Nat) : Nat := Nat.pow 2 n

/-- The least power of two. -/
def leastExponent : Int := -1074

/-- `n / d` in units of two to the power `exponent`, as a numerator and a denominator. -/
def scaled (n d : Nat) (exponent : Int) : Nat × Nat :=
  (n * twos (-exponent).toNat, d * twos exponent.toNat)

/-- The binary number nearest to `n / d`, unless it is too large. -/
def ofRatio? (negative : Bool) (n d : Nat) : Option Binary :=
  if n = 0 then some ⟨negative, 0, 0⟩
  else
    -- in this unit the ratio has 52 or 53 binary digits before the point
    let exponent : Int := (n.log2 : Int) - d.log2 - 52
    let (upper, lower) := scaled n d exponent
    let exponent := max leastExponent (if upper / lower < twos 52 then exponent - 1 else exponent)
    let (upper, lower) := scaled n d exponent
    let mantissa := Decimal.nearest upper lower
    -- rounding up may carry into a new digit, which is then a zero less at the end
    let (mantissa, exponent) :=
      if mantissa = twos 53 then (twos 52, exponent + 1) else (mantissa, exponent)
    if 1024 < (mantissa.log2 : Int) + 1 + exponent then none
    else some ⟨negative, mantissa, exponent⟩

/-- The binary number nearest to a decimal, unless it is too large. -/
def ofDecimal? (d : Decimal) : Option Binary :=
  let whole : Int := Decimal.digitCount d.coefficient + d.exponent
  if d.coefficient = 0 ∨ whole < -400 then some ⟨d.negative, 0, 0⟩
  else if 400 < whole then none
  else
    ofRatio? d.negative (d.coefficient * Decimal.tens d.exponent.toNat)
      (Decimal.tens (-d.exponent).toNat)

/-- The absolute value as a numerator and a denominator. -/
def ratio (b : Binary) : Nat × Nat :=
  (b.mantissa * twos b.exponent.toNat, twos (-b.exponent).toNat)

/-- A natural number with the sign of a binary number. -/
def signed (b : Binary) (n : Nat) : Int := if b.negative then -n else n

/-- The integer that a binary number is. -/
def toInt? (b : Binary) : Option Int :=
  let (n, d) := b.ratio
  if n % d = 0 then some (b.signed (n / d)) else none

/-- The nearest number of hundredths, a half going to the even neighbour. -/
def hundredths (b : Binary) : Int :=
  let (n, d) := b.ratio
  b.signed (Decimal.nearest (n * 100) d)

/-! ### The written form -/

/-- Of the two decimals of `count` digits around `n / d` the nearest one that reads back as `b`.
The unit is ten to the power `exponent`. -/
def grid? (b : Binary) (n d : Nat) (exponent : Int) : Option Decimal :=
  let upper := n * Decimal.tens (-exponent).toNat
  let lower := d * Decimal.tens exponent.toNat
  let near := Decimal.nearest upper lower
  let far := if near * lower ≤ upper then near + 1 else near - 1
  [near, far].findSome? fun coefficient =>
    let candidate : Decimal := ⟨b.negative, coefficient, exponent⟩
    if ofDecimal? candidate = some b then some candidate else none

/-- The place of the first decimal digit of `n / d`: the power of ten just above it. -/
def magnitude (n d : Nat) : Int :=
  let guess : Int := Decimal.digitCount n - Decimal.digitCount d
  if d * Decimal.tens guess.toNat ≤ n * Decimal.tens (-guess).toNat then guess + 1 else guess

/-- The decimal with the fewest digits that reads back as the same number, and the nearest one of
those. Seventeen digits are always enough. -/
def shortest (b : Binary) : Decimal :=
  let (n, d) := b.ratio
  if n = 0 then ⟨b.negative, 0, 0⟩
  else
    let place := magnitude n d
    let grids := (List.range 17).map fun (k : Nat) => grid? b n d (place - 1 - k)
    (grids.findSome? id).getD ⟨b.negative, n / d, 0⟩

/-- The digits of a number without the zeros at the end. -/
def withoutZeros (digits : List Char) : List Char := (digits.reverse.dropWhile (· == '0')).reverse

/-- The written form: positional from a ten-thousandth on and below ten to the power sixteen, with
at least one digit after the point; with an exponent of at least two digits otherwise. -/
def text (b : Binary) : String :=
  let decimal := b.shortest
  let sign := if b.negative then "-" else ""
  if decimal.coefficient = 0 then sign ++ "0.0"
  else
    let written := Nat.toDigits 10 decimal.coefficient
    let point : Int := written.length + decimal.exponent
    let digits := withoutZeros written
    if -4 < point ∧ point ≤ 16 then
      let front :=
        if point ≤ 0 then ['0']
        else digits.take point.toNat ++ List.replicate (point.toNat - digits.length) '0'
      let back := List.replicate (-point).toNat '0' ++ digits.drop point.toNat
      sign ++ String.ofList front ++ "." ++ String.ofList (if back.isEmpty then ['0'] else back)
    else
      let shift := point - 1
      let size := toString shift.natAbs
      sign ++ String.ofList (digits.take 1) ++
        (if digits.length = 1 then "" else "." ++ String.ofList (digits.drop 1)) ++
        "e" ++ (if 0 ≤ shift then "+" else "-") ++ (if size.length < 2 then "0" ++ size else size)

end Binary

end PredictionLeague
