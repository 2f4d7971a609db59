import PredictionLeague.Decimal
import PredictionLeague.Text.Blank
import PredictionLeague.Text.Digit

/-!
# Reading numerals

A numeral is a decimal, an infinity, or a mark that there is no number. Blanks around it and
underscores in it are ignored, digits of every script count, and letters may be of either case.
-/

namespace PredictionLeague

/-- What a numeral may stand for. -/
inductive Numeral
  | finite (value : Decimal)
  | infinite
  | quietNaN
  | signalingNaN
  deriving DecidableEq

namespace Numeral

/-- The largest exponent that a leading digit may have. -/
def highest : Int := 999999999999999999

/-- The least exponent that a last digit may have. -/
def lowest : Int := -1999999999999999997

/-- A decimal whose digits all lie in the allowed range. -/
def inRange (d : Decimal) : Bool :=
  Decimal.digitCount d.coefficient + d.exponent - 1 ≤ highest && lowest ≤ d.exponent

/-- A character as it is read: a digit of any script as an ASCII digit, a letter in lower case. -/
def normalized (c : Char) : Char :=
  match Text.digitValue? c with
  | some d => Char.ofNat ('0'.toNat + d)
  | none => c.toLower

/-- Split off the digits at the front. -/
def spanDigits (cs : List Char) : List Nat × List Char :=
  ((cs.takeWhile Char.isDigit).map (·.toNat - '0'.toNat), cs.dropWhile Char.isDigit)

/-- A sign at the front, if there is one: whether it is a minus, and the rest. -/
def spanSign : List Char → Bool × List Char
  | '-' :: cs => (true, cs)
  | '+' :: cs => (false, cs)
  | cs => (false, cs)

/-- The exponent after the digits: nothing, or the letter `e` and an integer. -/
def exponent? : List Char → Option Int
  | [] => some 0
  | 'e' :: cs =>
    let (negative, cs) := spanSign cs
    match spanDigits cs with
    | (d :: ds, []) =>
      let n : Int := Text.ofDigits (d :: ds)
      some (if negative then -n else n)
    | _ => none
  | _ => none

/-- Digits with an optional point and an optional exponent. -/
def finite? (negative : Bool) (cs : List Char) : Option Decimal :=
  let (whole, rest) := spanDigits cs
  let (fraction, rest) := match rest with
    | '.' :: rest => spanDigits rest
    | rest => ([], rest)
  if whole.isEmpty && fraction.isEmpty then none
  else do
    let exponent ← exponent? rest
    let d : Decimal := ⟨negative, Text.ofDigits (whole ++ fraction), exponent - fraction.length⟩
    if inRange d then some d else none

/-- Read a numeral. -/
def ofText? (s : String) : Option Numeral :=
  let cs := ((Text.trimmed s.toList).filter (· != '_')).map normalized
  let (negative, cs) := spanSign cs
  if cs = "inf".toList ∨ cs = "infinity".toList then some .infinite
  else match cs with
    | 'n' :: 'a' :: 'n' :: payload => if payload.all Char.isDigit then some .quietNaN else none
    | 's' :: 'n' :: 'a' :: 'n' :: payload =>
      if payload.all Char.isDigit then some .signalingNaN else none
    | cs => (finite? negative cs).map .finite

end Numeral

end PredictionLeague
