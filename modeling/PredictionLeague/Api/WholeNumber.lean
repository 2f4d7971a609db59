import PredictionLeague.Data
import PredictionLeague.Text.Digit

/-!
# Whole numbers in requests

How a whole number is read from a value: from a number without a fraction, from a truth value, or
from a written numeral.

* `wholeNumber?`: a numeral with blanks around it, a sign, zeros at its front, single underscores
  between its digits, and nothing but zeros after a point;
* `Data.whole?`: a whole number in any of these forms.
-/

namespace PredictionLeague

namespace Api

/-- Blanks that may surround a numeral. -/
def isSpace (c : Char) : Bool :=
  (0x9 ≤ c.toNat && c.toNat ≤ 0xd) || (0x2000 ≤ c.toNat && c.toNat ≤ 0x200a) ||
    [0x20, 0x85, 0xa0, 0x1680, 0x2028, 0x2029, 0x202f, 0x205f, 0x3000].contains c.toNat

/-- The largest number of characters of a numeral. -/
def numeralLimit : Nat := 4300

/-- Whether a digit can stand at the front of a number. -/
def isLeading (c : Char) : Bool := c.isDigit && c != '0'

/-- A numeral without a plus sign at its front. -/
def withoutPlus? : List Char → Option (List Char)
  | '+' :: '-' :: _ => none
  | '+' :: cs => some cs
  | cs => some cs

/-- What follows zeros at the front of a numeral, of which `last` is the last one; underscores count
as zeros. When nothing or a point follows, the last one stays. -/
def afterZeros? (last : Char) : List Char → Option (List Char)
  | [] => some [last]
  | c :: cs =>
    if c = '0' ∨ c = '_' then afterZeros? c cs
    else if isLeading c ∨ c = '-' then some (c :: cs)
    else if c = '.' then some (last :: c :: cs)
    else none

/-- A numeral without the zeros at its front. -/
def withoutZeros? : List Char → Option (List Char)
  | [] => none
  | c :: cs =>
    if isLeading c ∨ c = '-' then some (c :: cs)
    else if c = '0' then afterZeros? c cs
    else none

/-- A numeral without its fraction, which has zeros alone and at least one. -/
def withoutFraction? (cs : List Char) : Option (List Char) :=
  match cs.dropWhile (· != '.') with
  | [] => some cs
  | _ :: fraction =>
    if fraction.isEmpty || !fraction.all (· == '0') then none else some (cs.takeWhile (· != '.'))

/-- Whether two underscores stand side by side. -/
def hasDoubleUnderscore : List Char → Bool
  | '_' :: '_' :: _ => true
  | _ :: cs => hasDoubleUnderscore cs
  | [] => false

/-- A numeral without the underscores in it, which stand alone and not at an end. -/
def withoutUnderscores? (cs : List Char) : Option (List Char) :=
  if cs.head? = some '_' ∨ cs.getLast? = some '_' ∨ hasDoubleUnderscore cs then none
  else some (cs.filter (· != '_'))

/-- A number by its ASCII digits; zero alone begins with the digit zero. -/
def digits? (cs : List Char) : Option Nat :=
  match cs with
  | ['0'] => some 0
  | c :: _ =>
    if isLeading c && cs.all Char.isDigit then
      some (Text.ofDigits (cs.map (·.toNat - '0'.toNat)))
    else none
  | [] => none

/-- The number that a cleaned numeral writes. -/
def cleaned? (cs : List Char) : Option Int :=
  if numeralLimit < cs.length then none
  else match cs with
    | '-' :: cs => (digits? cs).map fun n => -(n : Int)
    | cs => (digits? cs).map fun n => (n : Int)

/-- The whole number that a numeral writes. -/
def wholeNumber? (s : String) : Option Int := do
  let trimmed := ((s.toList.dropWhile isSpace).reverse.dropWhile isSpace).reverse
  let cs ← withoutPlus? trimmed
  let cs ← withoutZeros? cs
  let cs ← withoutFraction? cs
  let cs ← withoutUnderscores? cs
  cleaned? cs

end Api

namespace Data

/-- A value as a whole number. A number with a point or an exponent has to be whole as a binary
number, and to have fewer than 64 bits. -/
def whole? : Data → Option Int
  | truth b => some (if b then 1 else 0)
  | integer n => some n
  | fraction d => do
    let n ← (← Binary.ofDecimal? d).toInt?
    if n.natAbs < 9223372036854775808 then some n else none
  | text s => Api.wholeNumber? s
  | _ => none

/-- A whole number that is not negative. -/
def natural? (d : Data) : Option Int := d.whole?.filter (0 ≤ ·)

end Data

end PredictionLeague
