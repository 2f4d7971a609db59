/-!
# Boost codes

A boost multiplies the points of a round. The only code with an effect doubles them; any other
code leaves points as they are.
-/

namespace PredictionLeague.Boost

/-- The code that doubles the points of a round. -/
def doubleUp : String := "DoubleUp"

/-- The factor of a code. -/
def multiplier (code : String) : Int := if code = doubleUp then 2 else 1

/-- Points after a boost; no boost leaves them unchanged. -/
def boostedPoints (code : Option String) (base : Int) : Int :=
  match code with
  | none => base
  | some code => base * multiplier code

end PredictionLeague.Boost
