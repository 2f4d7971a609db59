import PredictionLeague.Ranking

/-!
# Standings of a league

The approved members of a league and the points they made in its rounds, and who wins what: the
best score wins, shared scores win together, and nobody wins with a zero. Points of players who
are not members do not count.
-/

namespace PredictionLeague

/-- What a player made in one round of a league. -/
structure RoundScore where
  userId : Int
  roundId : Int
  points : Int
  exactScores : Int
  deriving DecidableEq

/-- The members of a league and the scores made in it. -/
structure Standings where
  memberIds : List Int
  results : List RoundScore
  deriving DecidableEq

namespace Standings

/-- Standings with the members in ascending order. -/
def of (memberIds : List Int) (results : List RoundScore) : Standings :=
  ⟨ascending memberIds, results⟩

/-- Every member once, ascending. -/
def players (s : Standings) : List Int := s.memberIds.eraseDups

/-- The sum of integers. -/
def sumOf (numbers : List Int) : Int := numbers.foldr (· + ·) 0

/-- The sum of a figure over a member's results. -/
def total (s : Standings) (figure : RoundScore → Int) (userId : Int) : Int :=
  sumOf ((s.results.filter (·.userId == userId)).map figure)

/-- Every member with the sum of a figure over its results. -/
def totals (s : Standings) (figure : RoundScore → Int) : Scores :=
  s.players.map fun userId => (userId, s.total figure userId)

/-- Every member with its points in the given rounds. -/
def roundPoints (s : Standings) (roundIds : List Int) : Scores :=
  s.totals fun r => if roundIds.contains r.roundId then r.points else 0

/-- The players with the highest score, when that is not zero. -/
def topScorers (scores : Scores) : List Int :=
  match (scores.map (·.2)).max? with
  | none => []
  | some best => if best = 0 then [] else (scores.filter (·.2 == best)).map (·.1)

/-- Who wins a round. -/
def roundWinners (s : Standings) (roundId : Int) : List Int := topScorers (s.roundPoints [roundId])

/-- Who wins over several rounds. -/
def periodWinners (s : Standings) (roundIds : List Int) : List Int :=
  topScorers (s.roundPoints roundIds)

/-- The ranking over all rounds. -/
def overall (s : Standings) : List RankGroup := rankGroups (s.totals (·.points))

/-- Who has the most exact scores over all rounds. -/
def mostExact (s : Standings) : List Int := topScorers (s.totals (·.exactScores))

end Standings

end PredictionLeague
