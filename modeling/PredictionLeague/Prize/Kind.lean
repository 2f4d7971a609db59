/-!
# Kinds of prizes

A prize is paid for each round, for each month, for a rank at the end of the season, or for the
most exact scores of the season. The order of the constructors is the order of payment and of
display.
-/

namespace PredictionLeague

/-- What a prize is paid for. -/
inductive PrizeKind
  | round
  | monthly
  | overall
  | mostExactScores
  deriving DecidableEq

namespace PrizeKind

/-- The stored name. -/
def name : PrizeKind → String
  | round => "Round"
  | monthly => "Monthly"
  | overall => "Overall"
  | mostExactScores => "MostExactScores"

/-- All kinds, in the order of payment. -/
def all : List PrizeKind := [round, monthly, overall, mostExactScores]

/-- The kind of a stored name. -/
def ofName? (s : String) : Option PrizeKind := all.find? (·.name = s)

@[simp] theorem ofName?_name (k : PrizeKind) : ofName? k.name = some k := by cases k <;> rfl

/-- The place of a kind in the order of payment, counted from zero. -/
def sortOrder : PrizeKind → Nat
  | round => 0
  | monthly => 1
  | overall => 2
  | mostExactScores => 3

/-- A kind that is paid for each round or month, not once at the end of the season. -/
def perPeriod : PrizeKind → Bool
  | round | monthly => true
  | overall | mostExactScores => false

end PrizeKind

end PredictionLeague
