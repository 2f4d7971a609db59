import PredictionLeague.Status

/-!
# The outcome of a prediction

A prediction is judged against the score of its match: it is pending until there is a score,
exact when both numbers agree, correct when it names the same winner (or both are draws), and
incorrect otherwise.
-/

namespace PredictionLeague

/-- The verdict on a prediction. -/
inductive Outcome
  | pending
  | incorrect
  | correctResult
  | exactScore
  deriving DecidableEq

namespace Outcome

/-- The stored name. -/
def name : Outcome → String
  | pending => "Pending"
  | incorrect => "Incorrect"
  | correctResult => "CorrectResult"
  | exactScore => "ExactScore"

/-- All verdicts. -/
def all : List Outcome := [pending, incorrect, correctResult, exactScore]

/-- The verdict of a stored name. -/
def ofName? (s : String) : Option Outcome := all.find? (·.name = s)

@[simp] theorem ofName?_name (o : Outcome) : ofName? o.name = some o := by cases o <;> rfl

/-- Judge a predicted score against the state and score of its match. -/
def classify (predictedHome predictedAway : Int) (status : MatchStatus) (home away : Option Int) :
    Outcome :=
  match status, home, away with
  | .scheduled, _, _ => pending
  | _, some h, some a =>
    if predictedHome = h ∧ predictedAway = a then exactScore
    else if (predictedHome - predictedAway).sign = (h - a).sign then correctResult
    else incorrect
  | _, _, _ => pending

end Outcome

end PredictionLeague
