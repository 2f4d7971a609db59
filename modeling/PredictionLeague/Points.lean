import PredictionLeague.Boost.Code
import PredictionLeague.Engine

/-!
# Points of a round

Three tables follow from the verdicts on the predictions of a round. Round results count each
player's verdicts; league results turn the counts into points by the weights of each league of
the season; boosts multiply the points of the members who used one. Each step recomputes its rows
from the present contents, keeps the ids of rows that stay, and drops rows that have no ground any
more.

* `Store.rescored`: the predictions of a match judged again;
* `Store.tallies`, `Store.counted`: the verdicts of a round, and the round results;
* `Store.scored`: the league results of one league;
* `Store.boosted`: boosts applied to all league results of a round;
* `recomputePoints`: all three steps, as one unit.
-/

namespace PredictionLeague

/-! ### Verdicts -/

/-- The predictions of a match judged again. -/
def Store.rescored (s : Store) (m : Match) (now : DateTime) : Store :=
  { s with
    predictions := s.predictions.map fun p =>
      if p.matchId == m.id then p.judged m now else p }

/-- Judge the predictions of a match again, and tell how many there are. -/
def rescoreMatch (m : Match) (now : DateTime) : Engine Nat := do
  let s ← Engine.current
  Engine.put (s.rescored m now)
  return (s.predictionsOf m.id).length

/-! ### Counts -/

/-- Numbers of verdicts. -/
structure Tally where
  exact : Nat
  correct : Nat
  incorrect : Nat
  deriving DecidableEq

/-- Count verdicts; pending ones do not count. -/
def Tally.of (verdicts : List Outcome) : Tally :=
  ⟨verdicts.count .exactScore, verdicts.count .correctResult, verdicts.count .incorrect⟩

/-- The players and verdicts of the judged predictions on the matches of a round, match by
match. -/
def Store.verdicts (s : Store) (roundId : Int) : List (Int × Outcome) :=
  ((s.fixturesOf roundId).flatMap fun m =>
      (s.predictionsOf m.id).map fun p => (p.userId, p.outcome)).filter
    (·.2 != .pending)

/-- The counts of each player with a judged prediction in a round. -/
def Store.tallies (s : Store) (roundId : Int) : List (Int × Tally) :=
  let verdicts := s.verdicts roundId
  (verdicts.map (·.1)).eraseDups.map fun userId =>
    (userId, Tally.of ((verdicts.filter (·.1 == userId)).map (·.2)))

/-- The store with the round results of a round counted anew. -/
def Store.counted (s : Store) (roundId : Int) : Store :=
  { s with
    roundResults := Table.rebuild s.roundResults (·.roundId == roundId) (·.userId)
      ((s.tallies roundId).map fun (userId, tally) =>
        (userId, fun id => ⟨id, roundId, userId, tally.exact, tally.correct, tally.incorrect⟩)) }

/-- Count the verdicts of a round, and tell how many players have one. -/
def updateRoundResults (roundId : Int) : Engine Nat := do
  let _ ← Engine.getRound roundId
  let s ← Engine.current
  let count := (s.tallies roundId).length
  Engine.put (s.counted roundId)
  if count = 0 then
    Engine.say .warning .aggregation ("Round " ++ toString roundId ++ " has no scored predictions")
  Engine.say .info .aggregation
    ("Round " ++ toString roundId ++ ": aggregated results for " ++ toString count ++ " users")
  return count

/-! ### League points -/

/-- The counts of a player in a round. -/
def Store.roundResult? (s : Store) (roundId userId : Int) : Option RoundResult :=
  s.roundResults.find? fun r => r.roundId == roundId && r.userId == userId

/-- The counts of the approved members of a league in a round. -/
def Store.memberCounts (s : Store) (league : League) (roundId : Int) : List RoundResult :=
  (s.approvedMembers league.id).filterMap (s.roundResult? roundId)

/-- The points of a member by the weights of a league, before a boost. -/
def League.basePoints (league : League) (counts : RoundResult) : Int :=
  league.points counts.exact counts.correct

/-- A league result without a boost. -/
def League.result (league : League) (counts : RoundResult) (id : Int) : LeagueResult :=
  let points := league.basePoints counts
  ⟨id, league.id, counts.roundId, counts.userId, points, points, false, none, counts.exact⟩

/-- The store with the league results of one league in a round made anew, without boosts. -/
def Store.scored (s : Store) (roundId : Int) (league : League) : Store :=
  { s with
    leagueResults := Table.rebuild s.leagueResults
      (fun r => r.leagueId == league.id && r.roundId == roundId) (·.userId)
      ((s.memberCounts league roundId).map fun counts => (counts.userId, league.result counts)) }

/-- Make the league results of one league in a round anew; points that do not fit are refused. -/
def scoreLeague (roundId : Int) (league : League) : Engine Unit := do
  let s ← Engine.current
  if (s.approvedMembers league.id).isEmpty then
    Engine.say .warning .aggregation ("League " ++ toString league.id ++
      " has no approved members, skipping round " ++ toString roundId)
  Engine.checkAll ((s.memberCounts league roundId).map league.basePoints)
  Engine.put (s.scored roundId league)

/-- Turn the counts of a round into points in every league of its season, and tell how many
leagues there are. -/
def updateLeagueResults (roundId : Int) : Engine Nat := do
  let round ← Engine.getRound roundId
  let leagues := (← Engine.current).leaguesOf round.seasonId
  Engine.atomically (leagues.forM (scoreLeague roundId))
  Engine.say .info .aggregation ("Round " ++ toString roundId ++ ": translated points for " ++
    toString leagues.length ++ " leagues")
  return leagues.length

/-! ### Boosts -/

/-- The boost that a member uses in a round. -/
def Store.boostIn (s : Store) (leagueId userId roundId : Int) : Option String :=
  (s.boostUsages.find? fun u =>
    u.roundId == roundId && u.leagueId == leagueId && u.userId == userId).map (·.boostCode)

/-- A league result with the boost of its member, made from the points before a boost. -/
def Store.withBoost (s : Store) (r : LeagueResult) : LeagueResult :=
  let code := s.boostIn r.leagueId r.userId r.roundId
  { r with
    boostedPoints := Boost.boostedPoints code r.basePoints
    hasBoost := code.isSome
    boostCode := code }

/-- The store with boosts applied to the league results of a round. -/
def Store.boosted (s : Store) (roundId : Int) : Store :=
  { s with
    leagueResults := s.leagueResults.map fun r =>
      if r.roundId == roundId then s.withBoost r else r }

/-- Apply the boosts used in a round, and tell how many results have one. -/
def applyRoundBoosts (roundId : Int) : Engine Nat := do
  Engine.checkKey roundId
  let s ← Engine.current
  let results := (s.leagueResults.filter (·.roundId == roundId)).map s.withBoost
  if results.isEmpty then return 0
  Engine.checkAll (results.map (·.boostedPoints))
  Engine.put (s.boosted roundId)
  let count := results.countP (·.hasBoost)
  Engine.say .info .boosts
    ("Round " ++ toString roundId ++ ": applied " ++ toString count ++ " boosts")
  return count

/-- Count, weigh and boost the points of a round as one unit: points are never seen without
their boosts, and a fault leaves all of them as they were. -/
def recomputePoints (roundId : Int) : Engine Unit :=
  Engine.atomically do
    let _ ← updateRoundResults roundId
    let _ ← updateLeagueResults roundId
    let _ ← applyRoundBoosts roundId

end PredictionLeague
