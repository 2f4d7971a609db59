import PredictionLeague.Points

/-!
# Figures of the members

The stats of a member hold its ranks in a league from several points of view. Every update ranks
the whole membership of each league of the round's season.

* `takeSnapshots` freezes the ranks from before a round and resets the figures of the round;
* `updateLiveStats` ranks the points as they stand, over the round, the month and the season;
* `updateStableStats` ranks the points of completed matches alone, without boosts.
-/

namespace PredictionLeague

/-- The store with a stats row for each of the given members of a league. -/
def Store.withStats (s : Store) (leagueId : Int) (members : List Int) : Store :=
  { s with
    stats := Table.ensure s.stats (·.leagueId == leagueId) (·.userId)
      (MemberStats.fresh leagueId) members }

/-! ### Snapshots -/

/-- The present ranks frozen, and the figures of the round reset. -/
def MemberStats.snapshot (r : MemberStats) : MemberStats :=
  { r with
    snapshotOverallRank := some r.overallRank
    snapshotMonthRank := some r.monthRank
    liveRank := 1
    livePoints := 0
    stableRank := 1
    stablePoints := 0 }

/-- Snapshots of all stats of a league. -/
def Store.snapshotLeague (s : Store) (league : League) : Store :=
  let s := s.withStats league.id (s.approvedMembers league.id)
  { s with stats := s.stats.map fun r => if r.leagueId == league.id then r.snapshot else r }

/-- Freeze the ranks of all members of the leagues of a round, and tell how many leagues there
are. -/
def takeSnapshots (roundId : Int) : Engine Nat := do
  let round ← Engine.getRound roundId
  let s ← Engine.current
  let leagues := s.leaguesOf round.seasonId
  Engine.put (leagues.foldl Store.snapshotLeague s)
  Engine.say .info .ranking ("Round " ++ toString roundId ++
    ": took round-start snapshots for " ++ toString leagues.length ++ " leagues")
  return leagues.length

/-! ### Live figures -/

/-- The points of a member of a league over the given rounds. -/
def Store.pointsOver (s : Store) (leagueId : Int) (roundIds : List Int) (userId : Int) : Int :=
  Standings.sumOf
    (((s.resultsOf leagueId).filter fun r =>
      r.userId == userId && roundIds.contains r.roundId).map (·.boostedPoints))

/-- The approved members of a league with their points over the given rounds. -/
def Store.scoresOver (s : Store) (leagueId : Int) (roundIds : List Int) : Scores :=
  (s.approvedMembers leagueId).map fun userId => (userId, s.pointsOver leagueId roundIds userId)

/-- The stats of a league ranked by the points of a round, of its month and of its season. -/
def Store.liveLeague (s : Store) (round : Round) (league : League) : Store :=
  let members := s.approvedMembers league.id
  let inRound := s.scoresOver league.id [round.id]
  let inMonth := s.scoresOver league.id ((s.monthOf round).map (·.id))
  let inSeason := s.scoresOver league.id ((s.roundsOf round.seasonId).map (·.id))
  let s := s.withStats league.id members
  { s with
    stats := s.stats.map fun r =>
      if r.leagueId == league.id && members.contains r.userId then
        { r with
          livePoints := (inRound.lookup r.userId).getD 0
          liveRank := rankOf inRound r.userId
          overallRank := rankOf inSeason r.userId
          monthRank := rankOf inMonth r.userId }
      else r }

/-- Rank the members of the leagues of a round by their present points, and tell how many leagues
there are. -/
def updateLiveStats (roundId : Int) : Engine Nat := do
  let round ← Engine.getRound roundId
  let s ← Engine.current
  let leagues := s.leaguesOf round.seasonId
  Engine.put (leagues.foldl (fun s league => s.liveLeague round league) s)
  Engine.say .info .ranking ("Round " ++ toString roundId ++ ": updated live stats for " ++
    toString leagues.length ++ " leagues")
  return leagues.length

/-! ### Stable figures -/

/-- The verdicts on a player's predictions of the completed matches of a round. -/
def Store.completedVerdicts (s : Store) (roundId userId : Int) : List Outcome :=
  ((s.fixturesOf roundId).filter (·.status == .completed)).flatMap fun m =>
    ((s.predictionsOf m.id).filter (·.userId == userId)).map (·.outcome)

/-- The points of a player by completed matches alone. -/
def Store.stablePoints (s : Store) (league : League) (roundId userId : Int) : Int :=
  let tally := Tally.of (s.completedVerdicts roundId userId)
  league.points tally.exact tally.correct

/-- The approved members of a league with their points by completed matches alone. -/
def Store.stableScores (s : Store) (league : League) (roundId : Int) : Scores :=
  (s.approvedMembers league.id).map fun userId => (userId, s.stablePoints league roundId userId)

/-- The stats of a league ranked by completed matches alone. -/
def Store.stableLeague (s : Store) (roundId : Int) (league : League) : Store :=
  let members := s.approvedMembers league.id
  let scores := s.stableScores league roundId
  let s := s.withStats league.id members
  { s with
    stats := s.stats.map fun r =>
      if r.leagueId == league.id && members.contains r.userId then
        { r with
          stablePoints := (scores.lookup r.userId).getD 0
          stableRank := rankOf scores r.userId }
      else r }

/-- Rank the members of the leagues of a round by its completed matches, and tell how many leagues
there are. Points that do not fit are refused, and then nothing changes. -/
def updateStableStats (roundId : Int) : Engine Nat := do
  let round ← Engine.getRound roundId
  let s ← Engine.current
  let leagues := s.leaguesOf round.seasonId
  Engine.checkAll (leagues.flatMap fun league => (s.stableScores league roundId).map (·.2))
  Engine.put (leagues.foldl (fun s league => s.stableLeague roundId league) s)
  Engine.say .info .ranking ("Round " ++ toString roundId ++ ": updated stable stats for " ++
    toString leagues.length ++ " leagues")
  return leagues.length

end PredictionLeague
