import PredictionLeague.Decimal.Numeral
import PredictionLeague.Fault

/-!
# Splitting a prize

A prize is split evenly in whole pennies, and leftover pennies go one each to the first winners.
Decimals are kept to 28 digits on the way, a half going to the even neighbour.
-/

namespace PredictionLeague.Prize

open Decimal (digitLimit)

/-- A hundredth. -/
def penny : Decimal := Decimal.ofPennies 1

/-- The shares of `count` winners of a decimal total. -/
def split (total : Decimal) (count : Nat) : Except Fault (List Decimal) :=
  if count = 0 then .ok []
  else do
    let some total := total.truncated? digitLimit 2 | .error .invalidDecimal
    let some share := (total.quotient digitLimit count).truncated? digitLimit 2
      | .error .invalidDecimal
    let spent := (share * Decimal.ofInt count).kept
    let leftover := (total - spent).kept.units (-2)
    let larger := (share + penny).kept
    .ok ((List.range count).map fun (i : Nat) => if (i : Int) < leftover then larger else share)

/-- The shares of `count` winners of a total that need not be a number. Without winners nothing
is shared, whatever the total. -/
def distribute (total : Numeral) (count : Int) : Except Fault (List Decimal) :=
  if count ≤ 0 then .ok []
  else match total with
    | .finite total => split total count.toNat
    | .quietNaN => .error .notANumber
    | .infinite | .signalingNaN => .error .invalidDecimal

end PredictionLeague.Prize
