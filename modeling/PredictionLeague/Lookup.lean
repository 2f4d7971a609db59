import PredictionLeague.Boost.Use
import PredictionLeague.Settlement

/-!
# Single questions and single steps

The parts of the engine that can be asked for on their own: who belongs to a league, what a round
counted, the windows of a rule, the uses of a boost, the standings, the rounds of a month; and the
score of one match, recorded or carried over to its predictions.
-/

namespace PredictionLeague.Lookup

/-- The approved members of a league. -/
def approvedMembers (leagueId : Int) : Engine (List Int) := do
  Engine.checkKey leagueId
  return (← Engine.current).approvedMembers leagueId

/-- The counts of each player in a round. -/
def roundTallies (roundId : Int) : Engine (List (Int × Tally)) := do
  Engine.checkKey roundId
  return (← Engine.current).tallies roundId

/-- The windows of a rule. -/
def windows (ruleId : Int) : Engine (List Boost.Window) := do
  Engine.checkKey ruleId
  let s ← Engine.current
  match Table.get? s.boostRules ruleId with
  | none => throw (.absentRow "id")
  | some rule => return s.windowsOf rule.id

/-- The round with an id, of which a field is read even if there is no such round. -/
def presentRound (roundId : Int) : Engine Round := do
  Engine.checkKey roundId
  match (← Engine.current).round? roundId with
  | none => throw (.absentRow "season_id")
  | some round => return round

/-- The uses of a boost that count for a member and a round, under the given windows. -/
def usage (userId leagueId roundId : Int) (code : String) (windows : List Boost.Window) :
    Engine Boost.Usage := do
  let round ← presentRound roundId
  Engine.checkAll [userId, leagueId]
  if let some window := Boost.findWindow round.number windows then
    Engine.checkAll [window.first, window.last]
  return (← Engine.current).usage userId leagueId round code windows

/-- The standings of a league. -/
def standings (leagueId : Int) : Engine Standings := do
  Engine.checkKey leagueId
  return (← Engine.current).standings leagueId

/-- The rounds of a season that start in the month of a round. -/
def monthRounds (roundId : Int) : Engine (List Int) := do
  let round ← presentRound roundId
  return ((← Engine.current).monthOf round).map (·.id)

/-- The match with an id, of which `field` is read even if there is no such match. -/
def presentMatch (field : String) (matchId : Int) : Engine Match := do
  Engine.checkKey matchId
  match (← Engine.current).match? matchId with
  | none => throw (.absentRow field)
  | some m => return m

/-- Record the score of a match and nothing else. -/
def setScore (score : MatchScore) : Engine Unit := do
  let m ← presentMatch "update_score" score.matchId
  let m ← Engine.lift (m.record score.home score.away score.status)
  Engine.checkAll (m.home.toList ++ m.away.toList)
  let s ← Engine.current
  Engine.put { s with fixtures := Table.replace s.fixtures m }

/-- Judge the predictions of a match again, and tell how many there are. -/
def rescore (matchId : Int) (now : DateTime) : Engine Nat := do
  rescoreMatch (← presentMatch "id" matchId) now

end PredictionLeague.Lookup
