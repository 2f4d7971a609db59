import PredictionLeague.Decimal.Binary
import PredictionLeague.Decimal.Numeral
import PredictionLeague.Fault

/-!
# Amounts of money in the store

The store counts money in pennies and keeps an amount as a binary number, so that a large amount
comes back as the pennies nearest to the binary number nearest to it.

* `Money.kept`: the pennies that come back for the pennies that were put in; amounts of at most
  fifteen digits come back as they are (`Money.kept_of_lt`);
* `Money.ofText`: the pennies that a text writes.
-/

namespace PredictionLeague.Money

/-- The pennies of a decimal, unless it is too large. -/
def ofDecimal? (d : Decimal) : Option Int := (Binary.ofDecimal? d).map Binary.hundredths

/-- The pennies that the store gives back for an amount. Binary numbers tell all decimals of
fifteen digits apart, so only larger amounts can change. -/
def kept (pennies : Int) : Int :=
  if pennies.natAbs < 1000000000000000 then pennies
  else (ofDecimal? (Decimal.ofPennies pennies)).getD pennies

/-- Amounts of at most fifteen digits are given back as they were put in. -/
theorem kept_of_lt {pennies : Int} (h : pennies.natAbs < 1000000000000000) :
    kept pennies = pennies := by
  rw [kept, if_pos h]

/-- The pennies that a numeral writes; the mark that there is no number stands for no amount. -/
def ofNumeral : Numeral → Except Fault (Option Int)
  | .finite d =>
    match ofDecimal? d with
    | some pennies => .ok (some pennies)
    | none => .error .invalidDecimal
  | .quietNaN => .ok none
  | .signalingNaN => .error .unusableAmount
  | .infinite => .error .invalidDecimal

/-- The pennies that a text writes. -/
def ofText (s : String) : Except Fault (Option Int) :=
  match Numeral.ofText? s with
  | some n => ofNumeral n
  | none => .error .invalidDecimal

end PredictionLeague.Money
